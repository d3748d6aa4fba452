import VpnUi.Form.VpnForm

namespace VpnUi.Form

open Foundation

/-! The XHTTP transport of an outbound: what `fromJson` followed by `toJson`
makes of its settings.  A property that is undefined is none. -/

/-- The keys that have a property of their own. -/
def structuredKeys : List String :=
  ["path", "host", "mode", "noGRPCHeader", "scMinPostsIntervalMs", "xmux",
    "scMaxEachPostBytes", "xPaddingBytes", "downloadSettings"]

/-- `o[key] = value` for every entry: this key sets the prototype of an object,
and is no entry of it. -/
def prototypeKey : String := "__proto__"

def assigned (entries : JsonObject) : JsonObject := entries.remove prototypeKey

def indexed (items : List Json) : JsonObject :=
  items.zipIdx.map fun (item, index) => (toString index, item)

/-- `Object.assign({}, value)`. -/
def spread : Option Json → JsonObject
  | some (.obj entries) => assigned entries
  | some (.arr items) => indexed items
  | some (.str text) => indexed (text.toList.map fun letter => .str letter.toString)
  | _ => []

/-- `o.key = value`. -/
def assign (object : JsonObject) (key : String) : Option Json → JsonObject
  | none => object.remove key
  | some value => object.set key value

def defaultXmux : JsonObject :=
  [("maxConcurrency", .str "16-32"), ("maxConnections", .int 0),
    ("cMaxReuseTimes", .int 0), ("hMaxRequestTimes", .str "600-900"),
    ("hMaxReusableSecs", .str "1800-3000"), ("hKeepAlivePeriod", .int 0)]

structure XHTTPStreamSettings where
  path : Option Json
  host : Option Json
  mode : Option Json
  noGRPCHeader : Option Json
  scMinPostsIntervalMs : Option Json
  xmux : Option Json
  scMaxEachPostBytes : Option Json
  xPaddingBytes : Option Json
  downloadSettings : Option Json
  /-- Every entry that has no property of its own. -/
  extra : JsonObject

namespace XHTTPStreamSettings

def fromJson (json : JsonObject) : XHTTPStreamSettings where
  path := some (property json "path" (.str "/"))
  host := some (property json "host" (.str ""))
  mode := some (property json "mode" (.str ""))
  noGRPCHeader := some (property json "noGRPCHeader" (.bool false))
  scMinPostsIntervalMs := some (property json "scMinPostsIntervalMs" (.str "30"))
  xmux := some (property json "xmux" (.obj defaultXmux))
  scMaxEachPostBytes := some (property json "scMaxEachPostBytes" (.str ""))
  xPaddingBytes := some (property json "xPaddingBytes" (.str ""))
  downloadSettings := json.get? "downloadSettings"
  extra := assigned (json.filter (·.1 ∉ structuredKeys))

/-- `value !== undefined && value !== ''`. -/
def filled : Option Json → Bool
  | none | some (.str "") => false
  | _ => true

/-- `value !== undefined && value !== null`. -/
def present : Option Json → Bool
  | none | some .null => false
  | _ => true

def assignIf (condition : Option Json → Bool) (object : JsonObject)
    (key : String) (value : Option Json) : JsonObject :=
  if condition value then assign object key value else object

def toJson (settings : XHTTPStreamSettings) : JsonObject :=
  let o := assigned settings.extra
  let o := assign o "path" settings.path
  let o := assign o "host" settings.host
  let o := assign o "mode" settings.mode
  let o := assign o "noGRPCHeader" settings.noGRPCHeader
  let o := assign o "scMinPostsIntervalMs" settings.scMinPostsIntervalMs
  let o := assign o "xmux" (some (.obj (spread settings.xmux)))
  let o := assignIf filled o "scMaxEachPostBytes" settings.scMaxEachPostBytes
  let o := assignIf filled o "xPaddingBytes" settings.xPaddingBytes
  assignIf present o "downloadSettings" settings.downloadSettings

/-! What an object denotes. -/

/-- What an absent key stands for. -/
def defaultOf : String → Option Json
  | "path" => some (.str "/")
  | "host" => some (.str "")
  | "mode" => some (.str "")
  | "noGRPCHeader" => some (.bool false)
  | "scMinPostsIntervalMs" => some (.str "30")
  | "xmux" => some (.obj defaultXmux)
  | "scMaxEachPostBytes" => some (.str "")
  | "xPaddingBytes" => some (.str "")
  | "downloadSettings" => some .null
  | _ => none

/-- The connection reuse that is null is the empty object. -/
def normal (key : String) : Option Json → Option Json
  | some .null => if key = "xmux" then some (.obj []) else some .null
  | value => value

def setting (json : JsonObject) (key : String) : Option Json :=
  normal key ((json.get? key).or (defaultOf key))

/-- Two objects are equal up to defaults that are left out. -/
def SameSettings (left right : JsonObject) : Prop :=
  ∀ key, setting left key = setting right key

/-- An object that Xray can hold: the connection reuse is an object, and no
object has an entry for its prototype. -/
structure Held (json : JsonObject) : Prop where
  entries : json.get? prototypeKey = none
  xmux : ∀ value, json.get? "xmux" = some value →
    value = .null ∨ ∃ entries, value = .obj entries ∧
      assigned entries = entries

section Keys

variable {object json : JsonObject} {key other : String} {value : Option Json}
  {condition : Option Json → Bool}

theorem get?_filter {keep : String → Bool} :
    JsonObject.get? (object.filter fun entry => keep entry.1) key =
      if keep key then object.get? key else none := by
  unfold JsonObject.get?
  rw [← List.filter_reverse]
  induction object.reverse with
  | nil => simp
  | cons head tail induction =>
      obtain ⟨name, value⟩ := head
      by_cases same : key = name
      · subst same
        cases kept : keep key with
        | true => simp [kept]
        | false =>
            rw [List.filter_cons_of_neg (by simp [kept]), induction, kept]
            rfl
      · have skipped : (key == name) = false := by simpa using same
        cases kept : keep name with
        | true =>
            rw [List.filter_cons_of_pos (by simpa using kept),
              List.lookup_cons, List.lookup_cons, skipped, induction]
        | false =>
            rw [List.filter_cons_of_neg (by simp [kept]), List.lookup_cons,
              skipped, induction]

@[simp] theorem get?_assign_self : (assign object key value).get? key = value := by
  cases value with
  | none => exact JsonObject.get?_remove_self
  | some value => exact JsonObject.get?_set_self

theorem get?_assign_ne (differs : other ≠ key) :
    (assign object key value).get? other = object.get? other := by
  cases value with
  | none => exact JsonObject.get?_remove_ne differs
  | some value => exact JsonObject.get?_set_ne differs

@[simp] theorem get?_assignIf_self :
    (assignIf condition object key value).get? key =
      if condition value then value else object.get? key := by
  unfold assignIf
  split
  · exact get?_assign_self
  · rfl

theorem get?_assignIf_ne (differs : other ≠ key) :
    (assignIf condition object key value).get? other = object.get? other := by
  unfold assignIf
  split
  · exact get?_assign_ne differs
  · rfl

/-- An entry without a property of its own is kept. -/
theorem get?_toJson_of_extra {settings : XHTTPStreamSettings}
    (extra : key ∉ structuredKeys) :
    settings.toJson.get? key = (assigned settings.extra).get? key := by
  simp only [structuredKeys, List.mem_cons, List.not_mem_nil, or_false,
    not_or] at extra
  simp only [toJson, get?_assignIf_ne, get?_assign_ne, extra, ne_eq,
    not_false_eq_true]

theorem get?_extra_fromJson (held : Held json) :
    (assigned (fromJson json).extra).get? key =
      if key ∈ structuredKeys then none else json.get? key := by
  have passed : (assigned (fromJson json).extra).get? key =
      if key = prototypeKey then none
      else JsonObject.get? (json.filter (·.1 ∉ structuredKeys)) key := by
    split
    next same => rw [same]; exact JsonObject.get?_remove_self
    next differs =>
      exact (JsonObject.get?_remove_ne differs).trans
        (JsonObject.get?_remove_ne differs)
  rw [passed, @get?_filter json key (· ∉ structuredKeys)]
  by_cases same : key = prototypeKey
  · subst same
    rw [if_pos rfl, held.entries, ite_self]
  · rw [if_neg same]
    by_cases structured : key ∈ structuredKeys <;> simp [structured]

/-- The entries that the properties write. -/
theorem get?_toJson {settings : XHTTPStreamSettings} :
    settings.toJson.get? "path" = settings.path ∧
      settings.toJson.get? "host" = settings.host ∧
      settings.toJson.get? "mode" = settings.mode ∧
      settings.toJson.get? "noGRPCHeader" = settings.noGRPCHeader ∧
      settings.toJson.get? "scMinPostsIntervalMs" =
        settings.scMinPostsIntervalMs ∧
      settings.toJson.get? "xmux" = some (.obj (spread settings.xmux)) := by
  refine ⟨?_, ?_, ?_, ?_, ?_, ?_⟩ <;>
    simp (disch := decide) only [toJson, get?_assignIf_ne, get?_assign_ne,
      get?_assign_self]

theorem get?_toJson_optional {settings : XHTTPStreamSettings}
    (extra : ∀ key ∈ structuredKeys,
      (assigned settings.extra).get? key = none) :
    settings.toJson.get? "scMaxEachPostBytes" =
        (if filled settings.scMaxEachPostBytes then settings.scMaxEachPostBytes
          else none) ∧
      settings.toJson.get? "xPaddingBytes" =
        (if filled settings.xPaddingBytes then settings.xPaddingBytes
          else none) ∧
      settings.toJson.get? "downloadSettings" =
        (if present settings.downloadSettings then settings.downloadSettings
          else none) := by
  have posts := extra "scMaxEachPostBytes" (by decide)
  have padding := extra "xPaddingBytes" (by decide)
  have download := extra "downloadSettings" (by decide)
  refine ⟨?_, ?_, ?_⟩ <;>
    simp (disch := decide) only [toJson, get?_assignIf_ne, get?_assign_ne,
      get?_assignIf_self, posts, padding, download]

/-- A text that is not there and an empty one are the same. -/
theorem or_filled {value : Option Json} :
    (if filled (some (value.getD (.str ""))) then
        some (value.getD (.str "")) else none).or (some (.str "")) =
      value.or (some (.str "")) := by
  cases value with
  | none => rfl
  | some value =>
      rw [Option.getD_some]
      split
      next => rfl
      next unfilled =>
        unfold filled at unfilled
        split at unfilled
        next impossible => cases impossible
        next empty => cases empty; rfl
        next => exact absurd rfl unfilled

theorem or_present {value : Option Json} :
    (if present value then value else none).or (some .null) =
      value.or (some .null) := by
  split
  next => rfl
  next absent =>
    unfold present at absent
    split at absent
    next => rfl
    next => rfl
    next => exact absurd rfl absent

theorem some_property {default : Json} :
    (some (property json key default)).or (some default) =
      (json.get? key).or (some default) := by
  rw [property]
  cases json.get? key <;> rfl

theorem normal_spread (held : Held json) :
    normal "xmux" (some (.obj (spread (some (property json "xmux"
        (.obj defaultXmux)))))) =
      normal "xmux" ((json.get? "xmux").or (some (.obj defaultXmux))) := by
  rw [property]
  cases given : json.get? "xmux" with
  | none => rfl
  | some value =>
      rcases held.xmux value given with rfl | ⟨entries, rfl, kept⟩
      · rfl
      · change some (Json.obj (assigned entries)) = some (.obj entries)
        rw [kept]

/-- Reading the settings and writing them changes none of them. -/
theorem sameSettings_fromJson (held : Held json) :
    SameSettings (fromJson json).toJson json := by
  intro key
  obtain ⟨path, host, mode, noGRPCHeader, interval, xmux⟩ :=
    @get?_toJson (fromJson json)
  obtain ⟨posts, padding, download⟩ :=
    @get?_toJson_optional (fromJson json) fun key structured => by
      rw [get?_extra_fromJson held, if_pos structured]
  by_cases structured : key ∈ structuredKeys
  · simp only [structuredKeys, List.mem_cons, List.not_mem_nil, or_false]
      at structured
    unfold setting
    rcases structured with rfl | rfl | rfl | rfl | rfl | rfl | rfl | rfl | rfl
    · rw [path]
      exact congrArg (normal "path") some_property
    · rw [host]
      exact congrArg (normal "host") some_property
    · rw [mode]
      exact congrArg (normal "mode") some_property
    · rw [noGRPCHeader]
      exact congrArg (normal "noGRPCHeader") some_property
    · rw [interval]
      exact congrArg (normal "scMinPostsIntervalMs") some_property
    · rw [xmux]
      exact normal_spread held
    · rw [posts]
      exact congrArg (normal "scMaxEachPostBytes") or_filled
    · rw [padding]
      exact congrArg (normal "xPaddingBytes") or_filled
    · rw [download]
      exact congrArg (normal "downloadSettings") or_present
  · rw [setting, get?_toJson_of_extra structured, get?_extra_fromJson held,
      if_neg structured, setting]

theorem digits_not_prototype {index : Nat} : toString index ≠ prototypeKey := by
  intro same
  have member : '_' ∈ (toString index).toList := by
    rw [same]
    decide
  have written : (toString index).toList = Nat.toDigits 10 index :=
    Nat.toList_repr
  rw [written] at member
  cases Nat.isDigit_of_mem_toDigits (by decide) (by decide) member

theorem assigned_spread : assigned (spread value) = spread value := by
  have numbers : ∀ items, assigned (indexed items) = indexed items := by
    intro items
    apply List.filter_eq_self.mpr
    intro entry member
    obtain ⟨⟨item, index⟩, -, rfl⟩ := List.mem_map.mp member
    exact decide_eq_true digits_not_prototype
  match value with
  | some (.obj entries) =>
      change List.filter _ (List.filter _ entries) = List.filter _ entries
      rw [List.filter_filter]
      simp
  | some (.arr items) => exact numbers items
  | some (.str text) => exact numbers _
  | none | some .null | some (.bool _) | some (.int _) | some (.real _) => rfl

/-- What the panel writes can be held. -/
theorem held_toJson {settings : XHTTPStreamSettings} :
    Held settings.toJson where
  entries := by
    rw [get?_toJson_of_extra (by decide)]
    exact JsonObject.get?_remove_self
  xmux := by
    obtain ⟨-, -, -, -, -, xmux⟩ := @get?_toJson settings
    intro value given
    rw [xmux, Option.some_inj] at given
    exact .inr ⟨_, given.symm, assigned_spread⟩

end Keys

/-- The transport of `StreamSettings.fromJson(stream).toJson()`. -/
structure Transport where
  network : Json
  xhttpSettings : Option JsonObject

/-- No settings are the default ones, and null has no keys to read. -/
def streamXhttp (stream : JsonObject) : Option XHTTPStreamSettings :=
  match stream.get? "xhttpSettings" with
  | none => some (fromJson [])
  | some value => (properties value).map fromJson

def reopenTransport (stream : JsonObject) : Option Transport :=
  (streamXhttp stream).map fun settings =>
    let network := property stream "network" (.str "tcp")
    { network := network
      xhttpSettings := if isText "xhttp" network then some settings.toJson
        else none }

/-- The settings of an outbound that is opened and saved are the ones it had,
and so is its transport. -/
theorem xhttp_round_trip (json : JsonObject)
    (arises : Held json ∨ ∃ settings : XHTTPStreamSettings,
      json = settings.toJson) :
    SameSettings (fromJson json).toJson json ∧
      ∀ stream : JsonObject, stream.get? "network" = some (.str "xhttp") →
        stream.get? "xhttpSettings" = some (.obj json) →
        ∃ saved, (reopenTransport stream).map Transport.xhttpSettings =
            some (some saved) ∧
          (reopenTransport stream).map Transport.network =
            stream.get? "network" ∧ SameSettings saved json := by
  have held : Held json := by
    rcases arises with held | ⟨settings, rfl⟩
    · exact held
    · exact held_toJson
  refine ⟨sameSettings_fromJson held, ?_⟩
  intro stream network given
  refine ⟨(fromJson json).toJson, ?_, ?_, sameSettings_fromJson held⟩
  · rw [reopenTransport, streamXhttp, given, property, network]
    rfl
  · rw [reopenTransport, streamXhttp, given, property, network]
    rfl

/-- Settings with an entry of their own and without connection reuse. -/
def paddedSettings : JsonObject :=
  [("path", .str "/up"), ("mode", .str "stream-up"),
    ("headers", .obj [("Host", .str "cdn")])]

def paddedStream : JsonObject :=
  [("network", .str "xhttp"), ("xhttpSettings", .obj paddedSettings)]

theorem xhttp_round_trip_padded :
    SameSettings (fromJson paddedSettings).toJson paddedSettings ∧
      ∃ saved, (reopenTransport paddedStream).map Transport.xhttpSettings =
          some (some saved) ∧ SameSettings saved paddedSettings := by
  have held : Held paddedSettings := ⟨rfl, fun _ given => nomatch given⟩
  obtain ⟨same, transport⟩ := xhttp_round_trip paddedSettings (.inl held)
  obtain ⟨saved, reopened, -, kept⟩ := transport paddedStream rfl rfl
  exact ⟨same, saved, reopened, kept⟩

end XHTTPStreamSettings

end VpnUi.Form
