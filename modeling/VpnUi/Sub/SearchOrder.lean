import Mathlib.Data.List.Perm.Basic
import VpnUi.Foundation.Encoder
import VpnUi.Sub.Links

namespace VpnUi.Sub.SearchOrder

open Foundation

/-! The searches in decoded stream settings, and the link fields that they fill.
A map is visited in an order of its own each time. -/

/-- An order for every map a search comes to.  The map is known by the path to
it, from the inside out; its entries are told by their places. -/
structure MapOrder where
  arrange : List Nat → ∀ {Entry : Type}, List Entry → List Entry
  perm : ∀ path {Entry : Type} (entries : List Entry),
    (arrange path entries).Perm entries

mutual

/-- The first hit, in the order in which maps are visited. -/
def searchKey (order : MapOrder) (key : String) (path : List Nat) :
    Json → Option Json
  | .obj fields =>
      (order.arrange path (searchFields order key path 0 fields)).findSome? id
  | .arr items => searchItems order key path 0 items
  | _ => none

/-- What each entry of a map gives. -/
def searchFields (order : MapOrder) (key : String) (path : List Nat)
    (place : Nat) : List (String × Json) → List (Option Json)
  | [] => []
  | (name, value) :: fields =>
      (if name = key then some value
        else searchKey order key (place :: path) value) ::
        searchFields order key path (place + 1) fields

def searchItems (order : MapOrder) (key : String) (path : List Nat)
    (place : Nat) : List Json → Option Json
  | [] => none
  | item :: items =>
      match searchKey order key (place :: path) item with
      | some value => some value
      | none => searchItems order key path (place + 1) items

end

/-- `letter` differs from a small letter of the Latin alphabet by case only. -/
def foldsTo (letter small : Char) : Bool :=
  letter = small || letter = small.toUpper ||
    (small = 's' && letter = '\u017f') || (small = 'k' && letter = '\u212a')

/-- `strings.EqualFold`, with a text of small letters. -/
def equalFold (name small : List Char) : Bool :=
  match name, small with
  | [], [] => true
  | letter :: name, other :: small =>
      foldsTo letter other && equalFold name small
  | _, _ => false

/-- The type assertion to a string. -/
def string? : Json → Option String
  | .str text => some text
  | _ => none

def map? : Json → Option JsonObject
  | .obj fields => some fields
  | _ => none

def slice : Json → List Json
  | .arr items => items
  | _ => []

/-- What `searchHost` answers at an entry, if it stops there: null is in no case
of the switch.  The answer is missing if the value is no string. -/
def hostOf? (field : String × Json) : Option (Option String) :=
  if equalFold field.1.toList "host".toList then
    match field.2 with
    | .null => none
    | .arr [] => some (some "")
    | .arr (host :: _) => some (string? host)
    | value => some (string? value)
  else none

/-- Without a value where it panics, as all functions below. -/
def searchHost (order : MapOrder) (headers : Json) : Option String :=
  ((order.arrange [] ((map? headers).getD [])).findSome? hostOf?).getD (some "")

/-- A parameter that is set to the text of what was found, or to none. -/
def setFound (params : Params) (key : String) : Option Json → Params
  | none => params
  | some value => params.set key ((string? value).getD "")

/-- A parameter that is set to a text if there is one. -/
def setNonempty (params : Params) (key : String) : Option Json → Params
  | some (.str text) => if text = "" then params else params.set key text
  | _ => params

/-- A parameter that is set to a random element of the list that was found. -/
def setDrawn (params : Params) (key : String) (number : Nat) :
    Option Json → Option Params
  | none => some params
  | some value => do
      let drawn ← (slice value)[number % (slice value).length]?
      let text ← string? drawn
      some (params.set key text)

/-- Each call of `searchKey` has its own order. -/
abbrev Orders := Nat → MapOrder

def tlsSetting (stream : JsonObject) : Json := stream.get "tlsSettings"

def alpn? (stream : JsonObject) : Option (List String) :=
  (slice (JsonObject.get ((map? (tlsSetting stream)).getD []) "alpn")).mapM
    string?

def applyVmessTLSParams (orders : Orders) (stream : JsonObject)
    (params : Params) : Option Params := do
  let setting := map? (tlsSetting stream)
  let data := Json.obj (setting.getD [])
  let alpn ← alpn? stream
  let params := params.setIf (alpn ≠ []) "alpn" (",".intercalate alpn)
  let params := setFound params "sni" (searchKey (orders 0) "serverName" [] data)
  let settings := (searchKey (orders 1) "settings" [] data).getD .null
  if setting.isSome then
    some (setFound params "fp"
      (searchKey (orders 2) "fingerprint" [] settings))
  else some params

def applyShareTLSParams (orders : Orders) (stream : JsonObject)
    (params : Params) : Option Params :=
  applyVmessTLSParams orders stream (params.set "security" "tls")

def applyShareRealityParams (orders : Orders) (draw : Draw)
    (stream : JsonObject) (params : Params) : Option Params :=
  let params := params.set "security" "reality"
  match map? (stream.get "realitySettings") with
  | none => some params
  | some setting => do
      let data := Json.obj setting
      let settings := (searchKey (orders 0) "settings" [] data).getD .null
      let params ← setDrawn params "sni" draw.serverName
        (searchKey (orders 1) "serverNames" [] data)
      let params := setFound params "pbk"
        (searchKey (orders 2) "publicKey" [] settings)
      let params ← setDrawn params "sid" draw.shortId
        (searchKey (orders 3) "shortIds" [] data)
      let params := setNonempty params "fp"
        (searchKey (orders 4) "fingerprint" [] settings)
      let params := setNonempty params "pqv"
        (searchKey (orders 5) "mldsa65Verify" [] settings)
      some (params.set "spx" ("/" ++ draw.spiderX))

def applyPathAndHostParams (order : MapOrder) (settings : JsonObject)
    (params : Params) : Option Params := do
  let path ← string? (settings.get "path")
  let params := params.set "path" path
  let given := (string? (settings.get "host")).getD ""
  if given ≠ "" then some (params.set "host" given)
  else
    let host ← searchHost order (settings.get "headers")
    some (params.set "host" host)

mutual

/-- The occurrences of a key that an order can come to first: those that lie
below no other one and, in a list, in its first item that has one. -/
def hits (key : String) : Json → List Json
  | .obj fields => fieldHits key fields
  | .arr items => itemHits key items
  | _ => []

def fieldHits (key : String) : List (String × Json) → List Json
  | [] => []
  | (name, value) :: fields =>
      (if name = key then [value] else hits key value) ++ fieldHits key fields

def itemHits (key : String) : List Json → List Json
  | [] => []
  | item :: items =>
      match hits key item with
      | [] => itemHits key items
      | hit :: others => hit :: others

end

namespace MapOrder

instance : Inhabited MapOrder where
  default := ⟨fun _ _ entries => entries, fun _ _ entries => .refl entries⟩

/-- The entry at a place comes first. -/
def toFront {Entry : Type} (place : Nat) (entries : List Entry) : List Entry :=
  match entries[place]? with
  | none => entries
  | some entry => entry :: entries.eraseIdx place

theorem toFront_perm {Entry : Type} {place : Nat} {entries : List Entry} :
    (toFront place entries).Perm entries := by
  rw [toFront]
  cases found : entries[place]? with
  | none => exact .refl _
  | some entry =>
      obtain ⟨inside, rfl⟩ := List.getElem?_eq_some_iff.mp found
      exact List.getElem_cons_eraseIdx_perm inside

/-- The order that begins the map at `path` with the entry at a place. -/
def startAt (order : MapOrder) (path : List Nat) (place : Nat) : MapOrder where
  arrange visited _ entries :=
    if visited = path then toFront place entries
    else order.arrange visited entries
  perm visited _ entries := by
    by_cases here : visited = path
    · simpa [here] using toFront_perm
    · simpa [here] using order.perm visited entries

/-- The orders visit the maps below a depth alike. -/
def AgreeBelow (order other : MapOrder) (depth : Nat) : Prop :=
  ∀ path, depth ≤ path.length → ∀ {Entry : Type} (entries : List Entry),
    order.arrange path entries = other.arrange path entries

variable {order other : MapOrder} {depth : Nat} {path : List Nat}
  {place : Nat}

theorem AgreeBelow.mono (agree : order.AgreeBelow other depth) :
    order.AgreeBelow other (depth + 1) :=
  fun path below => agree path (Nat.le_of_succ_le below)

theorem agreeBelow_startAt :
    (order.startAt path place).AgreeBelow order (path.length + 1) := by
  intro visited below Entry entries
  have elsewhere : visited ≠ path := by
    intro same
    rw [same] at below
    omega
  simp only [startAt, if_neg elsewhere]

theorem arrange_startAt {Entry : Type} {entries : List Entry} {entry : Entry}
    (found : entries[place]? = some entry) :
    ∃ rest, (order.startAt path place).arrange path entries = entry :: rest := by
  simp only [startAt, toFront, found]
  exact ⟨_, rfl⟩

end MapOrder

section Hits

variable {order other : MapOrder} {key : String}

mutual

theorem searchKey_congr (path : List Nat)
    (agree : order.AgreeBelow other path.length) :
    ∀ data, searchKey order key path data = searchKey other key path data
  | .obj fields => by
      rw [searchKey, searchKey, searchFields_congr path 0 agree.mono fields,
        agree path (Nat.le_refl _)]
  | .arr items => by
      rw [searchKey, searchKey, searchItems_congr path 0 agree.mono items]
  | .null | .bool _ | .int _ | .real _ | .str _ => rfl

/-- The entries of a map do not depend on the order it is visited in. -/
theorem searchFields_congr (path : List Nat) (place : Nat)
    (agree : order.AgreeBelow other (path.length + 1)) :
    ∀ fields, searchFields order key path place fields =
      searchFields other key path place fields
  | [] => rfl
  | (name, value) :: fields => by
      rw [searchFields, searchFields,
        searchKey_congr (place :: path) agree value,
        searchFields_congr path (place + 1) agree fields]

theorem searchItems_congr (path : List Nat) (place : Nat)
    (agree : order.AgreeBelow other (path.length + 1)) :
    ∀ items, searchItems order key path place items =
      searchItems other key path place items
  | [] => rfl
  | item :: items => by
      rw [searchItems, searchItems,
        searchKey_congr (place :: path) agree item,
        searchItems_congr path (place + 1) agree items]

end

/-- An answer is one of the hits, and there is none only without hits. -/
def Answers (found : List Json) : Option Json → Prop
  | none => found = []
  | some value => value ∈ found

/-- The entries of a map give the hits between them. -/
structure FieldAnswers (found : List Json) (answers : List (Option Json)) :
    Prop where
  sound : ∀ value, some value ∈ answers → value ∈ found
  missing : (∀ answer ∈ answers, answer = none) → found = []

theorem FieldAnswers.cons {found others : List Json} {answer : Option Json}
    {answers : List (Option Json)} (first : Answers found answer)
    (rest : FieldAnswers others answers) :
    FieldAnswers (found ++ others) (answer :: answers) := by
  constructor
  · intro value member
    rw [List.mem_append]
    rcases List.mem_cons.mp member with rfl | later
    · exact .inl first
    · exact .inr (rest.sound value later)
  · intro none
    rw [List.forall_mem_cons] at none
    obtain ⟨rfl, none⟩ := none
    rw [show found = [] from first, rest.missing none, List.append_nil]

theorem FieldAnswers.first {found : List Json}
    {answers arranged : List (Option Json)}
    (fields : FieldAnswers found answers) (perm : arranged.Perm answers) :
    Answers found (arranged.findSome? id) := by
  cases first : arranged.findSome? id with
  | none =>
      apply fields.missing
      intro answer member
      exact List.findSome?_eq_none_iff.mp first answer (perm.mem_iff.mpr member)
  | some value =>
      obtain ⟨answer, member, same⟩ := List.exists_of_findSome?_eq_some first
      obtain rfl : answer = some value := same
      exact fields.sound value (perm.mem_iff.mp member)

mutual

theorem searchKey_answers (path : List Nat) :
    ∀ data, Answers (hits key data) (searchKey order key path data)
  | .obj fields => by
      rw [hits, searchKey]
      exact (searchFields_answers path 0 fields).first (order.perm path _)
  | .arr items => by
      rw [hits, searchKey]
      exact searchItems_answers path 0 items
  | .null | .bool _ | .int _ | .real _ | .str _ => rfl

theorem searchFields_answers (path : List Nat) (place : Nat) :
    ∀ fields, FieldAnswers (fieldHits key fields)
      (searchFields order key path place fields)
  | [] => ⟨by simp [searchFields], fun _ => rfl⟩
  | (name, value) :: fields => by
      rw [fieldHits, searchFields]
      refine .cons ?_ (searchFields_answers path (place + 1) fields)
      split
      · exact List.mem_singleton_self value
      · exact searchKey_answers (place :: path) value

theorem searchItems_answers (path : List Nat) (place : Nat) :
    ∀ items, Answers (itemHits key items)
      (searchItems order key path place items)
  | [] => rfl
  | item :: items => by
      have first := searchKey_answers (place :: path) item
      rw [itemHits, searchItems]
      cases answer : searchKey order key (place :: path) item with
      | none =>
          rw [answer] at first
          rw [show hits key item = [] from first]
          exact searchItems_answers path (place + 1) items
      | some value =>
          rw [answer] at first
          cases found : hits key item with
          | nil =>
              rw [found] at first
              exact absurd first List.not_mem_nil
          | cons hit others =>
              rw [found] at first
              exact first

end

mutual

/-- Some order comes to a hit first. -/
theorem exists_searchKey (path : List Nat) {value : Json} :
    ∀ data, value ∈ hits key data →
      ∃ order, searchKey order key path data = some value
  | .obj fields, hit => by
      rw [hits] at hit
      obtain ⟨order, place, found⟩ := exists_searchFields path 0 fields hit
      refine ⟨order.startAt path place, ?_⟩
      rw [← searchFields_congr path 0 MapOrder.agreeBelow_startAt] at found
      obtain ⟨rest, arranged⟩ := MapOrder.arrange_startAt found
      rw [searchKey, arranged]
      rfl
  | .arr items, hit => by
      rw [hits] at hit
      obtain ⟨order, found⟩ := exists_searchItems path 0 items hit
      exact ⟨order, found⟩

theorem exists_searchFields (path : List Nat) (place : Nat) {value : Json} :
    ∀ fields, value ∈ fieldHits key fields →
      ∃ (order : MapOrder) (index : Nat),
        (searchFields order key path place fields)[index]? =
          some (some value)
  | (name, field) :: fields, hit => by
      rw [fieldHits, List.mem_append] at hit
      rcases hit with here | later
      · by_cases same : name = key
        · rw [if_pos same, List.mem_singleton] at here
          refine ⟨default, 0, ?_⟩
          simp [searchFields, same, here]
        · rw [if_neg same] at here
          obtain ⟨order, found⟩ := exists_searchKey (place :: path) field here
          refine ⟨order, 0, ?_⟩
          simp [searchFields, same, found]
      · obtain ⟨order, index, found⟩ :=
          exists_searchFields path (place + 1) fields later
        refine ⟨order, index + 1, ?_⟩
        simp [searchFields, found]

theorem exists_searchItems (path : List Nat) (place : Nat) {value : Json} :
    ∀ items, value ∈ itemHits key items →
      ∃ order, searchItems order key path place items = some value
  | item :: items, hit => by
      rw [itemHits] at hit
      cases found : hits key item with
      | nil =>
          rw [found] at hit
          obtain ⟨order, later⟩ :=
            exists_searchItems path (place + 1) items hit
          have first := @searchKey_answers order key (place :: path) item
          refine ⟨order, ?_⟩
          rw [searchItems]
          cases answer : searchKey order key (place :: path) item with
          | none => exact later
          | some other =>
              rw [answer, found] at first
              exact absurd first List.not_mem_nil
      | cons other others =>
          have inside : value ∈ hits key item := by
            rw [found] at hit ⊢
            exact hit
          obtain ⟨order, answer⟩ :=
            exists_searchKey (place :: path) item inside
          refine ⟨order, ?_⟩
          rw [searchItems, answer]

end

end Hits

/-- All members of a list are the same. -/
def AllSame {Value : Type} (values : List Value) : Prop :=
  ∀ first ∈ values, ∀ second ∈ values, first = second

/-- What a search can answer. -/
def outcomes (key : String) (data : Json) : List (Option Json) :=
  match hits key data with
  | [] => [none]
  | found => found.map some

/-- What a search can answer in the value of another one, or in nothing. -/
def innerOutcomes (outer key : String) (data : Json) : List (Option Json) :=
  (outcomes outer data).flatMap fun value => outcomes key (value.getD .null)

/-- What `searchHost` can answer. -/
def hostOutcomes (headers : Json) : List (Option String) :=
  match ((map? headers).getD []).filterMap hostOf? with
  | [] => [some ""]
  | found => found

section Outcomes

variable {order : MapOrder} {key outer : String} {data headers : Json}

theorem mem_outcomes_iff {answer : Option Json} :
    answer ∈ outcomes key data ↔
      ∃ order, searchKey order key [] data = answer := by
  constructor
  · intro member
    rw [outcomes] at member
    cases found : hits key data with
    | nil =>
        rw [found] at member
        refine ⟨default, ?_⟩
        have answered := @searchKey_answers default key [] data
        rw [found] at answered
        rw [List.mem_singleton.mp member]
        cases reply : searchKey default key [] data with
        | none => rfl
        | some value =>
            rw [reply] at answered
            exact absurd answered List.not_mem_nil
    | cons hit others =>
        rw [found] at member
        obtain ⟨value, inside, rfl⟩ := List.mem_map.mp member
        exact exists_searchKey [] data (found ▸ inside)
  · rintro ⟨order, rfl⟩
    have answered := @searchKey_answers order key [] data
    rw [outcomes]
    cases reply : searchKey order key [] data with
    | none =>
        rw [reply] at answered
        rw [show hits key data = [] from answered]
        exact List.mem_singleton_self none
    | some value =>
        rw [reply] at answered
        cases found : hits key data with
        | nil =>
            rw [found] at answered
            exact absurd answered List.not_mem_nil
        | cons hit others =>
            rw [found] at answered
            exact List.mem_map_of_mem answered

theorem allSame_outcomes_iff {Result : Type} {read : Json → Result} :
    AllSame ((outcomes key data).map (Option.map read)) ↔
      AllSame ((hits key data).map read) := by
  rw [outcomes]
  cases hits key data with
  | nil => simp [AllSame]
  | cons hit others => simp [AllSame]

theorem mem_innerOutcomes_iff {answer : Option Json} :
    answer ∈ innerOutcomes outer key data ↔ ∃ first second,
      searchKey second key []
        ((searchKey first outer [] data).getD .null) = answer := by
  rw [innerOutcomes, List.mem_flatMap]
  constructor
  · rintro ⟨value, reached, inside⟩
    obtain ⟨first, rfl⟩ := mem_outcomes_iff.mp reached
    obtain ⟨second, found⟩ := mem_outcomes_iff.mp inside
    exact ⟨first, second, found⟩
  · rintro ⟨first, second, found⟩
    exact ⟨_, mem_outcomes_iff.mpr ⟨first, rfl⟩,
      mem_outcomes_iff.mpr ⟨second, found⟩⟩

theorem mem_hostOutcomes_iff {answer : Option String} :
    answer ∈ hostOutcomes headers ↔
      ∃ order, searchHost order headers = answer := by
  simp only [hostOutcomes, searchHost]
  generalize (map? headers).getD [] = fields
  constructor
  · intro member
    cases found : fields.filterMap hostOf? with
    | nil =>
        rw [found] at member
        refine ⟨default, ?_⟩
        have missing : fields.findSome? hostOf? = none := by
          rw [List.findSome?_eq_none_iff]
          exact List.filterMap_eq_nil_iff.mp found
        rw [List.mem_singleton.mp member]
        exact congrArg (Option.getD · (some "")) missing
    | cons host others =>
        rw [found] at member
        obtain ⟨field, inside, answered⟩ := List.mem_filterMap.mp
          (show answer ∈ fields.filterMap hostOf? from found ▸ member)
        obtain ⟨place, here⟩ := List.mem_iff_getElem?.mp inside
        refine ⟨(default : MapOrder).startAt [] place, ?_⟩
        obtain ⟨rest, arranged⟩ :=
          @MapOrder.arrange_startAt default [] place _ _ _ here
        rw [arranged, List.findSome?_cons, answered]
        rfl
  · rintro ⟨order, rfl⟩
    have perm := order.perm [] fields
    cases first : (order.arrange [] fields).findSome? hostOf? with
    | none =>
        have missing : fields.filterMap hostOf? = [] := by
          rw [List.filterMap_eq_nil_iff]
          intro field member
          exact List.findSome?_eq_none_iff.mp first field
            (perm.mem_iff.mpr member)
        rw [missing]
        exact List.mem_singleton_self _
    | some answer =>
        obtain ⟨field, member, answered⟩ :=
          List.exists_of_findSome?_eq_some first
        have inside : answer ∈ fields.filterMap hostOf? :=
          List.mem_filterMap.mpr ⟨field, perm.mem_iff.mp member, answered⟩
        cases found : fields.filterMap hostOf? with
        | nil =>
            rw [found] at inside
            exact absurd inside List.not_mem_nil
        | cons host others =>
            rw [found] at inside
            exact inside

end Outcomes

/-! What becomes of one parameter. -/

/-- The parameter with a text, or without one. -/
def put (params : Params) (key : String) (text : Option String) : Params :=
  fun other => if other = key then text else params other

def afterFound (current : Option String) : Option Json → Option String
  | none => current
  | some value => some ((string? value).getD "")

def afterNonempty (current : Option String) : Option Json → Option String
  | some (.str text) => if text = "" then current else some text
  | _ => current

def afterDrawn (number : Nat) (current : Option String) :
    Option Json → Option (Option String)
  | none => some current
  | some value => do
      let drawn ← (slice value)[number % (slice value).length]?
      let text ← string? drawn
      some (some text)

section Params

variable {params : Params} {key other : String} {found : Option Json}

theorem put_ne {text : Option String} (differs : other ≠ key) :
    put params key text other = params other :=
  if_neg differs

theorem put_self {text : Option String} : put params key text key = text :=
  if_pos rfl

theorem put_current : put params key (params key) = params := by
  funext other
  by_cases same : other = key
  · rw [same, put_self]
  · rw [put_ne same]

theorem setFound_eq :
    setFound params key found =
      put params key (afterFound (params key) found) := by
  cases found with
  | none => exact put_current.symm
  | some value => rfl

theorem setNonempty_eq :
    setNonempty params key found =
      put params key (afterNonempty (params key) found) := by
  cases found with
  | none => exact put_current.symm
  | some value =>
      cases value with
      | str text =>
          simp only [setNonempty, afterNonempty]
          split
          · exact put_current.symm
          · rfl
      | _ => exact put_current.symm

theorem setDrawn_eq {number : Nat} :
    setDrawn params key number found =
      (afterDrawn number (params key) found).map (put params key) := by
  cases found with
  | none => exact congrArg some put_current.symm
  | some value =>
      simp only [setDrawn, afterDrawn]
      cases (slice value)[number % (slice value).length]? with
      | none => rfl
      | some drawn =>
          simp only [Option.bind_eq_bind, Option.bind_some]
          cases string? drawn <;> rfl

end Params

/-! One answer for all orders. -/

/-- What runs can yield is the same for all of them exactly when the list of it
has one member. -/
theorem steady_iff {Run : Type 1} {Value Result : Type} {run : Run → Value}
    {values : List Value} {read : Value → Result}
    (reach : ∀ {value}, value ∈ values ↔ ∃ order, run order = value) :
    (∀ order other, read (run order) = read (run other)) ↔
      AllSame (values.map read) := by
  constructor
  · intro steady first member second inside
    obtain ⟨value, listed, rfl⟩ := List.mem_map.mp member
    obtain ⟨other, also, rfl⟩ := List.mem_map.mp inside
    obtain ⟨order, rfl⟩ := reach.mp listed
    obtain ⟨next, rfl⟩ := reach.mp also
    exact steady order next
  · intro same order other
    exact same _ (List.mem_map_of_mem (reach.mpr ⟨order, rfl⟩)) _
      (List.mem_map_of_mem (reach.mpr ⟨other, rfl⟩))

/-- Two steps that may fail and one that may not, each with orders of its own. -/
theorem steady_bind_iff {First Second Rest Result : Type}
    {first : MapOrder → Option First} {second : MapOrder → Option Second}
    {rest : Orders → Rest} {build : First → Second → Rest → Result}
    (free : ∀ orders one three, rest (Function.update
      (Function.update orders 1 one) 3 three) = rest orders)
    (injective : ∀ {a b c a' b' c'}, build a b c = build a' b' c' →
      a = a' ∧ b = b' ∧ c = c') :
    (∀ orders others : Orders,
      ((first (orders 1)).bind fun a => (second (orders 3)).map fun b =>
        build a b (rest orders)) =
      ((first (others 1)).bind fun a => (second (others 3)).map fun b =>
        build a b (rest others))) ↔
      (∀ order, first order = none) ∨ (∀ order, second order = none) ∨
        (∀ order other, first order = first other) ∧
          (∀ order other, second order = second other) ∧
            ∀ orders others, rest orders = rest others := by
  constructor
  · intro steady
    have mixed : ∀ (one three one' three' : MapOrder) (orders others : Orders),
        ((first one).bind fun a => (second three).map fun b =>
          build a b (rest orders)) =
        ((first one').bind fun a => (second three').map fun b =>
          build a b (rest others)) := by
      intro one three one' three' orders others
      simpa [free] using steady
        (Function.update (Function.update orders 1 one) 3 three)
        (Function.update (Function.update others 1 one') 3 three')
    by_cases noFirst : ∀ order, first order = none
    · exact .inl noFirst
    by_cases noSecond : ∀ order, second order = none
    · exact .inr (.inl noSecond)
    obtain ⟨one, given⟩ := not_forall.mp noFirst
    obtain ⟨three, also⟩ := not_forall.mp noSecond
    obtain ⟨a, firstOne⟩ := Option.ne_none_iff_exists'.mp given
    obtain ⟨b, secondThree⟩ := Option.ne_none_iff_exists'.mp also
    refine .inr (.inr ⟨?_, ?_, ?_⟩)
    · intro order other
      have same := mixed order three other three default default
      simp only [secondThree, Option.map_some] at same
      cases left : first order <;> cases right : first other <;>
        simp only [left, right, Option.bind_some, Option.bind_none, reduceCtorEq,
          Option.some.injEq] at same
      · rfl
      · rw [(injective same).1]
    · intro order other
      have same := mixed one order one other default default
      simp only [firstOne, Option.bind_some] at same
      cases left : second order <;> cases right : second other <;>
        simp only [left, right, Option.map_some, Option.map_none, reduceCtorEq,
          Option.some.injEq] at same
      · rfl
      · rw [(injective same).2.1]
    · intro orders others
      have same := mixed one three one three orders others
      simp only [firstOne, secondThree, Option.bind_some, Option.map_some,
        Option.some.injEq] at same
      exact (injective same).2.2
  · rintro (none | none | ⟨firsts, seconds, rests⟩) orders others
    · rw [none, none]
      rfl
    · simp [none]
    · rw [firsts (orders 1) (others 1), seconds (orders 3) (others 3),
        rests orders others]

/-! The conditions on the settings. -/

/-- The settings that `applyShareTLSParams` and `applyVmessTLSParams` search. -/
def tlsData (stream : JsonObject) : Json :=
  .obj ((map? (tlsSetting stream)).getD [])

/-- ALPN values that are no strings end the function; else all server names and
all fingerprints that an order can come to are the same text. -/
def TlsSteady (stream : JsonObject) (params : Params) : Prop :=
  alpn? stream = none ∨
    AllSame ((outcomes "serverName" (tlsData stream)).map
        (afterFound (params "sni"))) ∧
      AllSame ((innerOutcomes "settings" "fingerprint" (tlsData stream)).map
        (afterFound (params "fp")))

/-- A drawn name or id that is missing under all orders ends the function; else
all that an order can come to is the same, for each parameter. -/
def RealitySteady (draw : Draw) (stream : JsonObject) (params : Params) : Prop :=
  ∀ setting, map? (stream.get "realitySettings") = some setting →
    let names := (outcomes "serverNames" (.obj setting)).map
      (afterDrawn draw.serverName (params "sni"))
    let ids := (outcomes "shortIds" (.obj setting)).map
      (afterDrawn draw.shortId (params "sid"))
    (∀ name ∈ names, name = none) ∨ (∀ id ∈ ids, id = none) ∨
      AllSame names ∧ AllSame ids ∧
        AllSame ((innerOutcomes "settings" "publicKey" (.obj setting)).map
          (afterFound (params "pbk"))) ∧
        AllSame ((innerOutcomes "settings" "fingerprint" (.obj setting)).map
          (afterNonempty (params "fp"))) ∧
        AllSame ((innerOutcomes "settings" "mldsa65Verify" (.obj setting)).map
          (afterNonempty (params "pqv")))

/-- The headers do not count, or all that an order can come to give one host. -/
def HostSteady (settings : JsonObject) : Prop :=
  string? (settings.get "path") = none ∨
    (string? (settings.get "host")).getD "" ≠ "" ∨
      AllSame (hostOutcomes (settings.get "headers"))

/-- The parameters of a REALITY link. -/
def realityResult (draw : Draw) (params : Params)
    (sni sid pbk fp pqv : Option String) : Params :=
  let params := put (params.set "security" "reality") "sni" sni
  let params := put (put params "pbk" pbk) "sid" sid
  let params := put (put params "fp" fp) "pqv" pqv
  params.set "spx" ("/" ++ draw.spiderX)

section Steady

variable {stream settings : JsonObject} {params : Params} {draw : Draw}
  {key outer : String} {data : Json}

theorem reach_orders {index : Nat} {answer : Option Json} :
    answer ∈ outcomes key data ↔
      ∃ orders : Orders, searchKey (orders index) key [] data = answer := by
  rw [mem_outcomes_iff]
  constructor
  · rintro ⟨order, found⟩
    exact ⟨fun _ => order, found⟩
  · rintro ⟨orders, found⟩
    exact ⟨orders index, found⟩

theorem reach_inner {first second : Nat} (differs : first ≠ second)
    {answer : Option Json} :
    answer ∈ innerOutcomes outer key data ↔
      ∃ orders : Orders, searchKey (orders second) key []
        ((searchKey (orders first) outer [] data).getD .null) = answer := by
  rw [mem_innerOutcomes_iff]
  constructor
  · rintro ⟨one, two, found⟩
    refine ⟨fun call => if call = first then one else two, ?_⟩
    simp only [if_true, if_neg differs.symm]
    exact found
  · rintro ⟨orders, found⟩
    exact ⟨_, _, found⟩

theorem outcomes_steady_iff {Result : Type} {index : Nat}
    {read : Option Json → Result} :
    (∀ orders others : Orders, read (searchKey (orders index) key [] data) =
      read (searchKey (others index) key [] data)) ↔
        AllSame ((outcomes key data).map read) :=
  steady_iff reach_orders

theorem inner_steady_iff {Result : Type} {first second : Nat}
    {read : Option Json → Result} (differs : first ≠ second) :
    (∀ orders others : Orders,
      read (searchKey (orders second) key []
        ((searchKey (orders first) outer [] data).getD .null)) =
      read (searchKey (others second) key []
        ((searchKey (others first) outer [] data).getD .null))) ↔
        AllSame ((innerOutcomes outer key data).map read) :=
  steady_iff (reach_inner differs)

theorem searchKey_nil {order : MapOrder} {path : List Nat} :
    searchKey order key path (.obj []) = none := by
  have empty := (order.perm path ([] : List (Option Json))).eq_nil
  rw [searchKey, searchFields, empty]
  rfl

/-- The result by the two searches that it depends on. -/
theorem applyVmessTLSParams_eq {orders : Orders} :
    applyVmessTLSParams orders stream params = (alpn? stream).map fun alpn =>
      put (put (params.setIf (alpn ≠ []) "alpn" (",".intercalate alpn)) "sni"
        (afterFound (params "sni")
          (searchKey (orders 0) "serverName" [] (tlsData stream)))) "fp"
        (afterFound (params "fp") (searchKey (orders 2) "fingerprint" []
          ((searchKey (orders 1) "settings" [] (tlsData stream)).getD
            .null))) := by
  rw [applyVmessTLSParams, tlsData]
  cases alpn? stream with
  | none => rfl
  | some alpn =>
      have sni : (params.setIf (alpn ≠ []) "alpn" (",".intercalate alpn)) "sni" =
          params "sni" := by
        rw [Params.setIf]
        split <;> rfl
      have fp : (params.setIf (alpn ≠ []) "alpn" (",".intercalate alpn)) "fp" =
          params "fp" := by
        rw [Params.setIf]
        split <;> rfl
      simp only [Option.bind_eq_bind, Option.bind_some, Option.map_some,
        setFound_eq, sni, put_ne (show "fp" ≠ "sni" by decide), fp]
      cases map? (tlsSetting stream) with
      | some setting => rfl
      | none =>
          have missing : searchKey (orders 2) "fingerprint" []
              ((searchKey (orders 1) "settings" [] (.obj [])).getD .null) =
                none := by
            rw [searchKey_nil]
            rfl
          simp only [Option.getD_none, missing, Option.isSome_none,
            Bool.false_eq_true, if_false, afterFound]
          congr 1
          funext other
          by_cases same : other = "fp"
          · rw [same, put_self, put_ne (by decide), fp]
          · rw [put_ne same]

theorem put_inj {a b : Option String} :
    put params key a = put params key b ↔ a = b := by
  constructor
  · intro same
    have here := congrFun same key
    rwa [put_self, put_self] at here
  · rintro rfl
    rfl

theorem put_put_inj {first second : String} (differs : first ≠ second)
    {a b a' b' : Option String} :
    put (put params first a) second b = put (put params first a') second b' ↔
      a = a' ∧ b = b' := by
  constructor
  · intro same
    have one := congrFun same first
    have two := congrFun same second
    rw [put_ne differs, put_ne differs, put_self, put_self] at one
    rw [put_self, put_self] at two
    exact ⟨one, two⟩
  · rintro ⟨rfl, rfl⟩
    rfl

theorem vmessTLS_steady_iff :
    (∀ orders others, applyVmessTLSParams orders stream params =
      applyVmessTLSParams others stream params) ↔ TlsSteady stream params := by
  simp only [applyVmessTLSParams_eq, TlsSteady]
  cases alpn? stream with
  | none => simp
  | some alpn =>
      simp only [Option.map_some, Option.some.injEq, reduceCtorEq, false_or,
        put_put_inj (show "sni" ≠ "fp" by decide), forall_and]
      rw [outcomes_steady_iff, inner_steady_iff (by decide)]

theorem shareTLS_steady_iff :
    (∀ orders others, applyShareTLSParams orders stream params =
      applyShareTLSParams others stream params) ↔ TlsSteady stream params :=
  vmessTLS_steady_iff

theorem pathAndHost_steady_iff :
    (∀ order other, applyPathAndHostParams order settings params =
      applyPathAndHostParams other settings params) ↔ HostSteady settings := by
  simp only [applyPathAndHostParams, HostSteady]
  cases string? (settings.get "path") with
  | none => simp
  | some path =>
      by_cases given : (string? (settings.get "host")).getD "" ≠ ""
      · simp [given]
      · have steady := @steady_iff _ _ _ _ _ (id : Option String → _)
          (@mem_hostOutcomes_iff (settings.get "headers"))
        rw [List.map_id] at steady
        simp only [Option.bind_eq_bind, Option.bind_some, if_false,
          reduceCtorEq, given, false_or, ← steady, id_eq]
        refine forall_congr' fun order => forall_congr' fun other => ?_
        cases searchHost order (settings.get "headers") <;>
          cases searchHost other (settings.get "headers") <;>
          simp only [Option.bind_some, Option.bind_none, reduceCtorEq,
            Option.some.injEq]
        change put _ "host" (some _) = put _ "host" (some _) ↔ _
        rw [put_inj, Option.some.injEq]

/-- The result by what the two draws and the three other searches give. -/
theorem applyShareRealityParams_eq {orders : Orders} {setting : JsonObject}
    (stored : map? (stream.get "realitySettings") = some setting) :
    applyShareRealityParams orders draw stream params =
      (afterDrawn draw.serverName (params "sni")
        (searchKey (orders 1) "serverNames" [] (.obj setting))).bind fun sni =>
      (afterDrawn draw.shortId (params "sid")
        (searchKey (orders 3) "shortIds" [] (.obj setting))).map fun sid =>
      (realityResult draw params sni sid
        (afterFound (params "pbk") (searchKey (orders 2) "publicKey" []
          ((searchKey (orders 0) "settings" [] (.obj setting)).getD .null)))
        (afterNonempty (params "fp") (searchKey (orders 4) "fingerprint" []
          ((searchKey (orders 0) "settings" [] (.obj setting)).getD .null)))
        (afterNonempty (params "pqv") (searchKey (orders 5) "mldsa65Verify" []
          ((searchKey (orders 0) "settings" [] (.obj setting)).getD
            .null)))) := by
  have security : ∀ key, key ≠ "security" →
      params.set "security" "reality" key = params key :=
    fun key differs => if_neg differs
  rw [applyShareRealityParams, stored]
  simp only [setDrawn_eq, Option.bind_eq_bind, security "sni" (by decide)]
  cases afterDrawn draw.serverName (params "sni")
      (searchKey (orders 1) "serverNames" [] (.obj setting)) with
  | none => rfl
  | some sni =>
      simp only [Option.map_some, Option.bind_some, setFound_eq,
        put_ne (show "sid" ≠ "pbk" by decide),
        put_ne (show "sid" ≠ "sni" by decide),
        put_ne (show "pbk" ≠ "sni" by decide), security "sid" (by decide),
        security "pbk" (by decide)]
      cases afterDrawn draw.shortId (params "sid")
          (searchKey (orders 3) "shortIds" [] (.obj setting)) with
      | none => rfl
      | some sid =>
          simp only [Option.map_some, Option.bind_some, setNonempty_eq,
            put_ne (show "pqv" ≠ "fp" by decide),
            put_ne (show "pqv" ≠ "sid" by decide),
            put_ne (show "pqv" ≠ "pbk" by decide),
            put_ne (show "pqv" ≠ "sni" by decide),
            put_ne (show "fp" ≠ "sid" by decide),
            put_ne (show "fp" ≠ "pbk" by decide),
            put_ne (show "fp" ≠ "sni" by decide), security "fp" (by decide),
            security "pqv" (by decide)]
          rfl

theorem realityResult_injective {sni sid pbk fp pqv : Option String}
    {sni' sid' pbk' fp' pqv' : Option String}
    (same : realityResult draw params sni sid pbk fp pqv =
      realityResult draw params sni' sid' pbk' fp' pqv') :
    sni = sni' ∧ sid = sid' ∧ (pbk, fp, pqv) = (pbk', fp', pqv') := by
  have read := fun key => congrFun same key
  exact ⟨read "sni", read "sid", by
    rw [show pbk = pbk' from read "pbk", show fp = fp' from read "fp",
      show pqv = pqv' from read "pqv"]⟩

theorem allSame_map_none_iff {Answer Result : Type} {answers : List Answer}
    {read : Answer → Option Result} {run : MapOrder → Answer}
    (reach : ∀ {answer}, answer ∈ answers ↔ ∃ order, run order = answer) :
    (∀ order, read (run order) = none) ↔
      ∀ result ∈ answers.map read, result = none := by
  rw [List.forall_mem_map]
  constructor
  · intro none answer member
    obtain ⟨order, rfl⟩ := reach.mp member
    exact none order
  · intro none order
    exact none _ (reach.mpr ⟨order, rfl⟩)

theorem reality_steady_iff :
    (∀ orders others, applyShareRealityParams orders draw stream params =
      applyShareRealityParams others draw stream params) ↔
        RealitySteady draw stream params := by
  cases stored : map? (stream.get "realitySettings") with
  | none =>
      simp [applyShareRealityParams, RealitySteady, stored]
  | some setting =>
      let names := afterDrawn draw.serverName (params "sni")
      let ids := afterDrawn draw.shortId (params "sid")
      let inner := fun (orders : Orders) (call : Nat) (key : String) =>
        searchKey (orders call) key []
          ((searchKey (orders 0) "settings" [] (.obj setting)).getD .null)
      have split := @steady_bind_iff _ _ (_ × _ × _) _
        (fun order => names (searchKey order "serverNames" [] (.obj setting)))
        (fun order => ids (searchKey order "shortIds" [] (.obj setting)))
        (fun orders => (afterFound (params "pbk") (inner orders 2 "publicKey"),
          afterNonempty (params "fp") (inner orders 4 "fingerprint"),
          afterNonempty (params "pqv") (inner orders 5 "mldsa65Verify")))
        (fun sni sid rest =>
          realityResult draw params sni sid rest.1 rest.2.1 rest.2.2)
        (by intro orders one three; rfl)
        (fun same => realityResult_injective same)
      simp only [applyShareRealityParams_eq stored]
      refine split.trans ?_
      simp only [RealitySteady, stored, Option.some.injEq, forall_eq']
      rw [allSame_map_none_iff mem_outcomes_iff,
        allSame_map_none_iff mem_outcomes_iff, steady_iff mem_outcomes_iff,
        steady_iff mem_outcomes_iff]
      simp only [Prod.mk.injEq, forall_and]
      rw [inner_steady_iff (by decide), inner_steady_iff (by decide),
        inner_steady_iff (by decide)]

end Steady

/-- What depends on the order of a map: the value of a search, the host of the
headers, and the parameters made of them, exactly when an order can come first to
something else. -/
theorem linkFields_steady_iff (key : String) (data headers : Json)
    (stream settings : JsonObject) (params : Params) (draw : Draw) :
    ((∀ order other : MapOrder,
        (searchKey order key [] data).map Json.normal =
          (searchKey other key [] data).map Json.normal) ↔
        AllSame ((hits key data).map Json.normal)) ∧
      ((∀ order other : MapOrder,
        searchHost order headers = searchHost other headers) ↔
          AllSame (hostOutcomes headers)) ∧
      ((∀ orders others,
        applyShareTLSParams orders stream params =
          applyShareTLSParams others stream params) ↔
            TlsSteady stream params) ∧
      ((∀ orders others,
        applyVmessTLSParams orders stream params =
          applyVmessTLSParams others stream params) ↔
            TlsSteady stream params) ∧
      ((∀ orders others,
        applyShareRealityParams orders draw stream params =
          applyShareRealityParams others draw stream params) ↔
            RealitySteady draw stream params) ∧
      ((∀ order other,
        applyPathAndHostParams order settings params =
          applyPathAndHostParams other settings params) ↔
            HostSteady settings) := by
  refine ⟨?_, ?_, shareTLS_steady_iff, vmessTLS_steady_iff,
    reality_steady_iff, pathAndHost_steady_iff⟩
  · rw [← allSame_outcomes_iff]
    exact @steady_iff _ _ _ _ _ (Option.map Json.normal)
      (@mem_outcomes_iff key data)
  · have steady := @steady_iff _ _ _ _ _ (id : Option String → _)
      (@mem_hostOutcomes_iff headers)
    rw [List.map_id] at steady
    exact steady

/-- A server name inside the settings hides the one beside them, or does not. -/
theorem serverName_depends_on_order :
    ¬ ∀ (orders others : Orders) (stream : JsonObject) (params : Params),
      applyShareTLSParams orders stream params =
        applyShareTLSParams others stream params := by
  intro steady
  have same := steady (fun _ => default)
    (fun _ => (default : MapOrder).startAt [] 1)
    [("tlsSettings", .obj [
      ("settings", .obj [("serverName", .str "cdn.example")]),
      ("serverName", .str "vpn.example")])] Params.empty
  rw [applyShareTLSParams, applyShareTLSParams, applyVmessTLSParams_eq,
    applyVmessTLSParams_eq] at same
  exact absurd (congrFun (Option.some.inj same) "sni") (by decide +kernel)

end VpnUi.Sub.SearchOrder
