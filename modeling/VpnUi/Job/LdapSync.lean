import VpnUi.Foundation.JsonSyntax
import VpnUi.Foundation.KeyMap
import VpnUi.Panel.Limits
import VpnUi.Settings.AllSetting
import VpnUi.Store.SetterSpec

namespace VpnUi.Job.LdapSync

open Foundation Panel
open Settings (AllSetting Field)

/-! The job that brings the clients in line with an LDAP directory.  It reads
the inbounds once, and no other request comes between its steps. -/

def defaultTruthyValues : List String := ["true", "1", "yes", "on"]

def splitCsv (s : String) : List String :=
  if s = "" then defaultTruthyValues
  else
    ((s.toList.splitOn ',').map fun part => trimText (String.ofList part)).filter
      (· ≠ "")

/-- The settings of the job as they are read, each by its getter. -/
structure Config where
  enable : Bool
  host : String
  port : Int
  useTLS : Bool
  bindDN : String
  password : String
  baseDN : String
  userFilter : String
  userAttr : String
  flagField : String
  truthyVals : List String
  invert : Bool
  inboundTags : List String
  autoCreate : Bool
  defGB : Int
  defExpiryDays : Int
  defLimitIP : Int
  autoDelete : Bool

def Config.ofSettings (s : AllSetting) : Config where
  enable := s Field.ldapEnable
  host := s Field.ldapHost
  port := (show Settings.GoInt from s Field.ldapPort).val
  useTLS := s Field.ldapUseTLS
  bindDN := s Field.ldapBindDN
  password := s Field.ldapPassword
  baseDN := s Field.ldapBaseDN
  userFilter := s Field.ldapUserFilter
  userAttr := s Field.ldapUserAttr
  flagField :=
    let flagField : String := s Field.ldapFlagField
    if flagField = "" then s Field.ldapVlessField else flagField
  truthyVals := splitCsv (s Field.ldapTruthyValues)
  invert := s Field.ldapInvertFlag
  inboundTags := splitCsv (s Field.ldapInboundTags)
  autoCreate := s Field.ldapAutoCreate
  defGB := (show Settings.GoInt from s Field.ldapDefaultTotalGB).val
  defExpiryDays := (show Settings.GoInt from s Field.ldapDefaultExpiryDays).val
  defLimitIP := (show Settings.GoInt from s Field.ldapDefaultLimitIP).val
  autoDelete := s Field.ldapAutoDelete

/-- An entry gives the first value of an attribute, or the empty text. -/
structure Directory where
  dialURL : String → Bool
  bind : String → String → Bool
  search : String → String → List String → Option (List (String → String))

/-- The flag of one entry; a later entry of a name counts. -/
def setFlag (userAttr flagField : String) (cfg : Config)
    (result : KeyMap String Bool) (entry : String → String) :
    KeyMap String Bool :=
  let user := entry userAttr
  if user = "" then result
  else
    let enabled := cfg.truthyVals.contains (entry flagField)
    result.insert user (if cfg.invert then !enabled else enabled)

def Config.ldapURL (cfg : Config) : String :=
  let scheme := if cfg.useTLS then "ldaps" else "ldap"
  scheme ++ "://" ++ cfg.host ++ ":" ++ toString cfg.port

def fetchVlessFlags (cfg : Config) (directory : Directory) :
    Option (KeyMap String Bool) :=
  if directory.dialURL cfg.ldapURL = false then none
  else if cfg.bindDN ≠ "" ∧ directory.bind cfg.bindDN cfg.password = false then
    none
  else
    let userFilter :=
      if cfg.userFilter = "" then "(objectClass=person)" else cfg.userFilter
    let userAttr := if cfg.userAttr = "" then "mail" else cfg.userAttr
    let flagField := if cfg.flagField = "" then "vless_enabled"
      else cfg.flagField
    (directory.search cfg.baseDN userFilter [userAttr, flagField]).map
      (List.foldl (setFlag userAttr flagField cfg) ∅)

/-- The identifier and the time in nanoseconds that one new client draws. -/
structure Draw where
  uuid : String
  now : Int

def blankClient : Client := (Client.decode []).value

/-- A duration is a 64-bit number of nanoseconds, which the days may wrap. -/
def expiry (cfg : Config) (draw : Draw) : Int :=
  if 0 < cfg.defExpiryDays then
    (draw.now + Int.bmod (cfg.defExpiryDays * 86400000000000) (2 ^ 64)) / 1000000
  else 0

def buildClient (cfg : Config) (draw : Draw) (ib : Inbound) (email : String) :
    Client :=
  let c := { blankClient with
    email := email
    enable := true
    limitIp := cfg.defLimitIP
    totalGB := cfg.defGB
    expiryTime := expiry cfg draw }
  match ib.protocol with
  | .trojan | .shadowsocks => { c with password := draw.uuid }
  | _ => { c with id := draw.uuid }

/-- The object that the text of a client spells when nothing in it is escaped. -/
def clientToJSON (c : Client) : Json :=
  .obj (Client.textField "id" c.id ++ Client.textField "password" c.password ++
    [("email", .str c.email), ("enable", .bool c.enable),
      ("limitIp", .int c.limitIp), ("totalGB", .int c.totalGB)] ++
    if 0 < c.expiryTime then [("expiryTime", .int c.expiryTime)] else [])

/-- A text that is written between quotes as it is. -/
def isPlain (text : String) : Bool := text.toList.all JsonSyntax.isPlain

def isPlainClient (c : Client) : Bool :=
  isPlain c.id && isPlain c.password && isPlain c.email

/-- What the written clients are read as; `odd` is what a text is read as that
has a quote or a backslash in it. -/
def clientsToJSON (odd : JsonText) (clients : List Client) : JsonText :=
  if clients.all isPlainClient then
    .parsed (.obj [("clients", .arr (clients.map clientToJSON))])
  else odd

/-- The clients that the job knows, by their e-mail; a later one counts. -/
def allClients (inbounds : Inbounds) (email : String) : Option Client :=
  (inbounds.rows.flatMap fun ib =>
    (getClients ib.settings).getD []).reverse.find? fun c => c.email = email

/-- `inboundMap`; a later inbound of a tag counts. -/
def inboundMap (inbounds : Inbounds) (tag : String) : Option Inbound :=
  inbounds.rows.reverse.find? fun ib => ib.tag = tag

structure Plan where
  clientsToCreate : KeyMap String (List Client)
  clientsToEnable : KeyMap String (List String)
  clientsToDisable : KeyMap String (List String)
  /-- How many new clients have been built. -/
  built : Nat

def appendTo {Item : Type} (batches : KeyMap String (List Item)) (tag : String)
    (item : Item) : KeyMap String (List Item) :=
  batches.insert tag ((batches.lookup tag).getD [] ++ [item])

/-- One turn of the inner loop, which panics for a tag without an inbound. -/
def prepare (cfg : Config) (inbounds : Inbounds) (draws : Nat → Draw)
    (plan : Plan) (turn : (String × Bool) × String) : Option Plan :=
  let email := turn.1.1
  let allowed := turn.1.2
  let tag := turn.2
  match allClients inbounds email with
  | none =>
      if allowed && cfg.autoCreate then
        (inboundMap inbounds tag).map fun ib =>
          let newClient := buildClient cfg (draws plan.built) ib email
          { plan with
            clientsToCreate := appendTo plan.clientsToCreate tag newClient
            built := plan.built + 1 }
      else some plan
  | some client =>
      if allowed && !client.enable then
        some { plan with
          clientsToEnable := appendTo plan.clientsToEnable tag email }
      else if !allowed && client.enable then
        some { plan with
          clientsToDisable := appendTo plan.clientsToDisable tag email }
      else some plan

def turns (cfg : Config) (flags : List (String × Bool)) :
    List ((String × Bool) × String) :=
  flags.flatMap fun flag => cfg.inboundTags.map fun tag => (flag, tag)

def prepareAll (cfg : Config) (inbounds : Inbounds) (draws : Nat → Draw)
    (flags : List (String × Bool)) : Option Plan :=
  (turns cfg flags).foldlM (prepare cfg inbounds draws) ⟨∅, ∅, ∅, 0⟩

/-- An order in which a map is walked. -/
structure Walk (Value : Type) where
  order : KeyMap String Value → List (String × Value)
  perm : ∀ entries, (order entries).Perm
    (entries.entries.map fun entry => (entry.1, entry.2))

/-- What a run of the job finds outside: the orders of its maps, what it draws,
and by the number of its calls what the database answers. -/
structure World where
  flags : Walk Bool
  creates : Walk (List Client)
  enables : Walk (List String)
  disables : Walk (List String)
  draws : Nat → Draw
  host : Nat → PanelHost
  readFails : Nat → Bool
  odd : Nat → JsonText

/-- A job that has panicked does nothing more. -/
structure State where
  inbounds : Inbounds
  calls : Nat
  alive : Bool

section Steps

variable (world : World)

def State.after (state : State) : Except PanelError Inbounds → State
  | .ok next => ⟨next, state.calls + 1, true⟩
  | .error .panicked => ⟨state.inbounds, state.calls + 1, false⟩
  | .error _ => ⟨state.inbounds, state.calls + 1, true⟩

/-- The inbound that carries new clients has only an id and settings. -/
def payload (id : Int) (settings : JsonText) : Inbound :=
  ⟨id, "", 0, .other "", settings, false, ""⟩

def addClients (state : State) (id : Int) (clients : List Client) : State :=
  if state.alive then
    state.after (addInboundClient state.inbounds
      (payload id (clientsToJSON (world.odd state.calls) clients))
      (world.host state.calls))
  else state

def delClient (state : State) (id : Int) (clientKey : String) : State :=
  if state.alive then
    state.after (delInboundClient state.inbounds id clientKey
      (world.host state.calls))
  else state

def createBatch (inbounds : Inbounds) (state : State)
    (batch : String × List Client) : State :=
  if batch.2 = [] then state
  else
    match inboundMap inbounds batch.1 with
    | none => { state with alive := false }
    | some ib => addClients world state ib.id batch.2

/-- `batchSetEnable` adds clients that have nothing but an e-mail. -/
def batchSetEnable (inbounds : Inbounds) (enable : Bool) (state : State)
    (batch : String × List String) : State :=
  if batch.2 = [] then state
  else
    match inboundMap inbounds batch.1 with
    | none => { state with alive := false }
    | some ib =>
        addClients world state ib.id (batch.2.map fun email =>
          { blankClient with email := email, enable := enable })

/-- The key by which the job deletes a client. -/
def ldapKey (protocol : Protocol) (c : Client) : String :=
  match protocol with
  | .trojan => c.password
  | .shadowsocks => c.email
  | _ => c.id

def toDelete (flags : KeyMap String Bool) (ib : Inbound) : List Client :=
  ((getClients ib.settings).getD []).filter fun c =>
    (flags.lookup c.email).isNone

def deleteFrom (flags : KeyMap String Bool) (state : State) (ib : Inbound) :
    State :=
  (toDelete flags ib).foldl (fun state c =>
    delClient world state ib.id (ldapKey ib.protocol c)) state

def deleteClientsNotInLDAP (flags : KeyMap String Bool) (state : State)
    (inboundTag : String) : State :=
  let read := { state with calls := state.calls + 1 }
  if world.readFails state.calls then read
  else
    (state.inbounds.rows.filter fun ib => ib.tag = inboundTag).foldl
      (deleteFrom world flags) read

/-- The job with its flags, and whether it came to its end. -/
def sync (cfg : Config) (flags : KeyMap String Bool) (inbounds : Inbounds) :
    State :=
  match prepareAll cfg inbounds world.draws (world.flags.order flags) with
  | none => ⟨inbounds, 0, false⟩
  | some plan =>
      let state := (world.creates.order plan.clientsToCreate).foldl
        (createBatch world inbounds) ⟨inbounds, 0, true⟩
      let state := (world.enables.order plan.clientsToEnable).foldl
        (batchSetEnable world inbounds true) state
      let state := (world.disables.order plan.clientsToDisable).foldl
        (batchSetEnable world inbounds false) state
      if cfg.autoDelete then
        cfg.inboundTags.foldl (deleteClientsNotInLDAP world flags) state
      else state

/-- `LdapSyncJob.Run`. -/
def run (cfg : Config) (directory : Directory) (readFails : Bool)
    (inbounds : Inbounds) : State :=
  if cfg.enable = false then ⟨inbounds, 0, true⟩
  else
    match fetchVlessFlags cfg directory with
    | none => ⟨inbounds, 0, true⟩
    | some flags =>
        if readFails then ⟨inbounds, 0, true⟩ else sync world cfg flags inbounds

end Steps

section Texts

variable {c : Client} {odd : JsonText} {clients : List Client} {item : Json}

theorem fields_clientToJSON (c : Client) : ∃ fields,
    clientToJSON c = .obj fields ∧
      JsonObject.get fields "email" = .str c.email := by
  refine ⟨_, rfl, ?_⟩
  unfold Client.textField
  split <;> split <;> split <;> rfl

theorem email_clientToJSON (c : Client) :
    (Store.itemClient (clientToJSON c)).email = c.email := by
  obtain ⟨fields, spelled, named⟩ := fields_clientToJSON c
  rw [spelled]
  change (JsonObject.get fields "email").text.value = c.email
  rw [named]
  rfl

theorem timeless_email : Timeless fun item => (Store.itemClient item).email := by
  intro fields key value stamp
  have apart : "email" ≠ key := by
    intro same
    rw [← same] at stamp
    exact absurd stamp (by decide)
  change ((JsonObject.set fields key value).get "email").text.value =
    (JsonObject.get fields "email").text.value
  rw [JsonObject.get_set_ne apart]

theorem email_stampNewClient {now : Int} :
    (Store.itemClient (stampNewClient now item)).email =
      (Store.itemClient item).email :=
  timeless_email.stampNewClient now item

/-- The clients as they are stored. -/
def items (settings : JsonText) : List Json := readAll id settings

theorem items_withClients (old : Inbound) (stored : List Json) :
    items (withClients old stored).settings = stored := by
  rw [items, readAll_withClients, List.map_id]

theorem items_of_array {settings : JsonText} {stored : List Json}
    (found : settings.fields.get "clients" = .arr stored) :
    items settings = stored := by
  rw [items, readAll_of_array found, List.map_id]

/-- A client that is read is one of the stored ones. -/
theorem item_of_mem_getClients {settings : JsonText}
    (member : c ∈ (getClients settings).getD []) :
    ∃ item ∈ items settings, Store.itemClient item = c := by
  cases found : getClients settings with
  | none =>
      rw [found] at member
      cases member
  | some clients =>
      rw [found, Option.getD_some] at member
      unfold getClients at found
      split at found
      next => cases found
      next =>
        cases stored : settings.fields.get "clients" with
        | arr stored_ =>
            rw [stored] at found
            rw [items_of_array stored]
            obtain rfl := Option.some.inj found
            obtain ⟨item, inItems, same⟩ := List.mem_map.mp member
            exact ⟨item, inItems, same⟩
        | _ =>
            rw [stored] at found
            obtain rfl := Option.some.inj found
            cases member

theorem getClients_of_mem {settings : JsonText} (member : item ∈ items settings) :
    Store.itemClient item ∈ (getClients settings).getD [] := by
  unfold items readAll at member
  split at member
  next stored found =>
    rw [Store.getClients_eq_items found, Option.getD_some]
    rw [List.map_id] at member
    exact List.mem_map_of_mem member
  next => cases member

theorem mem_emails_of_item {settings : JsonText} (member : item ∈ items settings) :
    (Store.itemClient item).email ∈ emails settings := by
  have read := getClients_of_mem member
  cases found : getClients settings with
  | none =>
      rw [found] at read
      cases read
  | some clients =>
      rw [found, Option.getD_some] at read
      rw [emails, ← map_limits found, List.map_map]
      exact List.mem_map_of_mem read

end Texts

section Calls

variable {world : World} {state : State} {id : Int} {clients : List Client}
  {odd : JsonText} {inbounds next : Inbounds} {host : PanelHost}

theorem addInboundClient_checked {data : Inbound}
    (accepted : addInboundClient inbounds data host = .ok next) :
    ∃ clients, getClients data.settings = some clients ∧
      checkEmails inbounds clients = .ok () := by
  unfold addInboundClient at accepted
  split at accepted
  next => cases accepted
  next clients found =>
    obtain ⟨_, _, accepted⟩ := bind_eq_ok accepted
    obtain ⟨_, _, accepted⟩ := bind_eq_ok accepted
    obtain ⟨_, checked, _⟩ := bind_eq_ok accepted
    exact ⟨clients, found, checked⟩

theorem inbounds_after {result : Except PanelError Inbounds} :
    (state.after result).inbounds = state.inbounds ∨
      result = .ok (state.after result).inbounds := by
  cases result with
  | ok next => exact Or.inr rfl
  | error err => cases err <;> exact Or.inl rfl

/-- The batch goes behind the clients of its inbound, or nothing happens. -/
theorem addClients_cases (plain : clients.all isPlainClient = true) :
    (addClients world state id clients).inbounds = state.inbounds ∨
      (∃ given, given.map Client.email = clients.map Client.email ∧
        checkEmails state.inbounds given = .ok ()) ∧
      ∃ row ∈ state.inbounds, row.id = id ∧ ∃ now,
        (addClients world state id clients).inbounds =
          state.inbounds.save (withClients row (items row.settings ++
            clients.map fun c => stampNewClient now (clientToJSON c))) := by
  unfold addClients
  split
  next =>
    rcases @inbounds_after state (addInboundClient state.inbounds
        (payload id (clientsToJSON (world.odd state.calls) clients))
        (world.host state.calls)) with kept | accepted
    · exact Or.inl kept
    · right
      obtain ⟨given, found, checked⟩ := addInboundClient_checked accepted
      obtain ⟨row, member, same, stored, added, storedClients, addedClients,
        saved⟩ := addInboundClient_eq_ok accepted
      rw [clientsToJSON, if_pos plain] at found addedClients
      have listed : Json.arr (clients.map clientToJSON) = .arr added :=
        addedClients
      injection listed with listed
      subst listed
      rw [Store.getClients_eq_items addedClients] at found
      obtain rfl := Option.some.inj found
      refine ⟨⟨_, ?_, checked⟩, row, member, same,
        (world.host state.calls).now, ?_⟩
      · rw [List.map_map, List.map_map]
        exact List.map_congr_left fun c _ => email_clientToJSON c
      · rw [saved, items_of_array storedClients, List.map_map]
        rfl
  next => exact Or.inl rfl

theorem delClient_cases {clientKey : String} :
    (delClient world state id clientKey).inbounds = state.inbounds ∨
      ∃ row ∈ state.inbounds, row.id = id ∧
        (delClient world state id clientKey).inbounds =
          state.inbounds.save (withClients row ((items row.settings).filter
            fun item => keyText (clientKeyName row.protocol) item ≠
              some clientKey)) := by
  unfold delClient
  split
  next =>
    rcases @inbounds_after state (delInboundClient state.inbounds id clientKey
        (world.host state.calls)) with kept | accepted
    · exact Or.inl kept
    · right
      obtain ⟨row, member, same, stored, storedClients, saved⟩ :=
        delInboundClient_eq_ok accepted
      refine ⟨row, member, same, ?_⟩
      rw [saved, items_of_array storedClients]
  next => exact Or.inl rfl

end Calls

section Plans

variable {cfg : Config} {inbounds : Inbounds} {draws : Nat → Draw}
  {flags : List (String × Bool)} {plan next : Plan} {tag email : String}

/-- A client that is to be created for a tag. -/
def Planned (cfg : Config) (inbounds : Inbounds) (draws : Nat → Draw)
    (flags : List (String × Bool)) (tag : String) (c : Client) : Prop :=
  tag ∈ cfg.inboundTags ∧ cfg.autoCreate = true ∧
    ∃ ib email number, inboundMap inbounds tag = some ib ∧
      (email, true) ∈ flags ∧ allClients inbounds email = none ∧
      c = buildClient cfg (draws number) ib email

/-- An e-mail whose client is to be enabled or disabled. -/
def Known (inbounds : Inbounds) (flags : List (String × Bool))
    (email : String) : Prop :=
  (∃ allowed, (email, allowed) ∈ flags) ∧
    ∃ client, allClients inbounds email = some client

def Batched {Item : Type} (good : String → Item → Prop)
    (batches : KeyMap String (List Item)) : Prop :=
  ∀ tag items, batches.lookup tag = some items → ∀ item ∈ items, good tag item

theorem Batched.empty {Item : Type} {good : String → Item → Prop} :
    Batched good (∅ : KeyMap String (List Item)) := by
  intro tag items found
  rw [AList.lookup_empty] at found
  cases found

theorem Batched.appendTo {Item : Type} {good : String → Item → Prop}
    {batches : KeyMap String (List Item)} {item : Item}
    (batched : Batched good batches) (new : good tag item) :
    Batched good (appendTo batches tag item) := by
  intro other items found entry member
  rcases KeyMap.lookup_insert_eq_some.mp found with
    ⟨rfl, rfl⟩ | ⟨-, old⟩
  · rcases List.mem_append.mp member with before | last
    · cases earlier : batches.lookup other with
      | none =>
          rw [earlier] at before
          cases before
      | some items =>
          rw [earlier] at before
          exact batched other items earlier entry before
    · obtain rfl := List.mem_singleton.mp last
      exact new
  · exact batched other items old entry member

/-- A batch that is walked is one of the map. -/
theorem Batched.of_mem_order {Item : Type} {good : String → Item → Prop}
    {batches : KeyMap String (List Item)} (batched : Batched good batches)
    (walk : Walk (List Item)) {batch : String × List Item}
    (member : batch ∈ walk.order batches) :
    ∀ item ∈ batch.2, good batch.1 item := by
  obtain ⟨entry, inMap, rfl⟩ :=
    List.mem_map.mp ((walk.perm batches).mem_iff.mp member)
  exact batched entry.1 entry.2 (KeyMap.mem_entries_iff.mp inMap)

structure Plan.Sound (cfg : Config) (inbounds : Inbounds) (draws : Nat → Draw)
    (flags : List (String × Bool)) (plan : Plan) : Prop where
  create : Batched (Planned cfg inbounds draws flags) plan.clientsToCreate
  enable : Batched (fun _ => Known inbounds flags) plan.clientsToEnable
  disable : Batched (fun _ => Known inbounds flags) plan.clientsToDisable

theorem Plan.Sound.prepare {turn : (String × Bool) × String}
    (sound : plan.Sound cfg inbounds draws flags)
    (listed : turn.1 ∈ flags) (tagged : turn.2 ∈ cfg.inboundTags)
    (prepared : prepare cfg inbounds draws plan turn = some next) :
    next.Sound cfg inbounds draws flags := by
  obtain ⟨⟨email, allowed⟩, tag⟩ := turn
  unfold LdapSync.prepare at prepared
  dsimp only at prepared listed tagged
  split at prepared
  next unknown =>
    split at prepared
    next wanted =>
      rw [Bool.and_eq_true] at wanted
      obtain ⟨rfl, autoCreate⟩ := wanted
      obtain ⟨ib, found, rfl⟩ := Option.map_eq_some_iff.mp prepared
      exact ⟨sound.create.appendTo ⟨tagged, autoCreate, ib, email, plan.built,
        found, listed, unknown, rfl⟩, sound.enable, sound.disable⟩
    next =>
      obtain rfl := Option.some.inj prepared
      exact sound
  next client known =>
    have isKnown : Known inbounds flags email :=
      ⟨⟨allowed, listed⟩, client, known⟩
    split at prepared
    next =>
      obtain rfl := Option.some.inj prepared
      exact ⟨sound.create, sound.enable.appendTo isKnown, sound.disable⟩
    next =>
      split at prepared
      next =>
        obtain rfl := Option.some.inj prepared
        exact ⟨sound.create, sound.enable, sound.disable.appendTo isKnown⟩
      next =>
        obtain rfl := Option.some.inj prepared
        exact sound

theorem Plan.Sound.foldlM (list : List ((String × Bool) × String))
    (listed : ∀ turn ∈ list, turn.1 ∈ flags ∧ turn.2 ∈ cfg.inboundTags)
    (sound : plan.Sound cfg inbounds draws flags)
    (prepared : list.foldlM (LdapSync.prepare cfg inbounds draws) plan =
      some next) : next.Sound cfg inbounds draws flags := by
  induction list generalizing plan with
  | nil =>
      obtain rfl := Option.some.inj prepared
      exact sound
  | cons turn rest induction =>
      rw [List.foldlM_cons] at prepared
      obtain ⟨middle, first, later⟩ := Option.bind_eq_some_iff.mp prepared
      obtain ⟨inFlags, inTags⟩ := listed turn List.mem_cons_self
      exact induction
        (fun other member => listed other (List.mem_cons_of_mem turn member))
        (sound.prepare inFlags inTags first) later

theorem sound_of_prepareAll
    (prepared : prepareAll cfg inbounds draws flags = some plan) :
    plan.Sound cfg inbounds draws flags := by
  apply Plan.Sound.foldlM _ _ _ prepared
  · intro turn member
    obtain ⟨flag, inFlags, mapped⟩ := List.mem_flatMap.mp member
    obtain ⟨tag, inTags, rfl⟩ := List.mem_map.mp mapped
    exact ⟨inFlags, inTags⟩
  · exact ⟨Batched.empty, Batched.empty, Batched.empty⟩

theorem inboundMap_eq_some {ib : Inbound}
    (found : inboundMap inbounds tag = some ib) :
    ib ∈ inbounds ∧ ib.tag = tag := by
  have tagged := List.find?_some found
  exact ⟨List.mem_reverse.mp (List.mem_of_find?_eq_some found),
    of_decide_eq_true tagged⟩

/-- A client that the job knows is stored in some inbound. -/
theorem item_of_allClients {client : Client}
    (known : allClients inbounds email = some client) :
    ∃ ib ∈ inbounds, ∃ item ∈ items ib.settings,
      (Store.itemClient item).email = email := by
  have named := List.find?_some known
  have member := List.mem_reverse.mp (List.mem_of_find?_eq_some known)
  obtain ⟨ib, inTable, read⟩ := List.mem_flatMap.mp member
  obtain ⟨item, stored, rfl⟩ := item_of_mem_getClients read
  exact ⟨ib, inTable, item, stored, of_decide_eq_true named⟩

theorem isPlain_blank : isPlain "" = true := rfl

theorem isPlainClient_buildClient {draw : Draw} {ib : Inbound}
    (plainUuid : isPlain draw.uuid = true) (plainEmail : isPlain email = true) :
    isPlainClient (buildClient cfg draw ib email) = true := by
  unfold buildClient isPlainClient
  split <;> simp [blankClient, plainUuid, plainEmail, isPlain_blank,
    Client.decode, JsonObject.get, JsonObject.get?, Json.text]

theorem email_buildClient {draw : Draw} {ib : Inbound} :
    (buildClient cfg draw ib email).email = email := by
  unfold buildClient
  split <;> rfl

end Plans

section Effect

/-- A new client of an inbound, for an e-mail that LDAP allows and no inbound
has. -/
def Addable (cfg : Config) (flags : KeyMap String Bool) (initial : Inbounds)
    (old : Inbound) (item : Json) : Prop :=
  cfg.autoCreate = true ∧ ∃ email draw now, flags.lookup email = some true ∧
    allClients initial email = none ∧
    item = stampNewClient now (clientToJSON (buildClient cfg draw old email))

/-- A client whose key is what the job deletes a client of the same inbound by
that LDAP does not name. -/
def Removable (cfg : Config) (flags : KeyMap String Bool) (old : Inbound)
    (item : Json) : Prop :=
  cfg.autoDelete = true ∧ ∃ gone ∈ items old.settings,
    flags.lookup (Store.itemClient gone).email = none ∧
    keyText (clientKeyName old.protocol) item =
      some (ldapKey old.protocol (Store.itemClient gone))

/-- Nothing but the clients of an inbound changes, and only under a tag of the
job; those that stay are as they were, before the new ones. -/
structure Synced (cfg : Config) (flags : KeyMap String Bool)
    (initial : Inbounds) (old row : Inbound) : Prop where
  frame : row = old ∨
    old.tag ∈ cfg.inboundTags ∧ row = withClients old (items row.settings)
  clients : ∃ kept added, items row.settings = kept ++ added ∧
    kept.Sublist (items old.settings) ∧
    (∀ item ∈ items old.settings, item ∈ kept ∨
      Removable cfg flags old item) ∧
    ∀ item ∈ added, Addable cfg flags initial old item

/-- Before anything is deleted every old client is there. -/
structure Grown (cfg : Config) (flags : KeyMap String Bool)
    (initial : Inbounds) (old row : Inbound) : Prop where
  frame : row = old ∨
    old.tag ∈ cfg.inboundTags ∧ row = withClients old (items row.settings)
  clients : ∃ added, items row.settings = items old.settings ++ added ∧
    ∀ item ∈ added, Addable cfg flags initial old item

/-- The rows of two tables correspond by their ids. -/
structure Matched (related : Inbound → Inbound → Prop)
    (initial table : Inbounds) : Prop where
  old : ∀ row ∈ table, ∃ old ∈ initial, old.id = row.id ∧ related old row
  kept : ∀ old ∈ initial, ∃ row ∈ table, row.id = old.id

variable {cfg : Config} {flags : KeyMap String Bool} {initial table : Inbounds}
  {world : World} {state : State} {old row ib : Inbound}
  {related : Inbound → Inbound → Prop}

theorem Matched.save {changed : Inbound} (matched : Matched related initial table)
    (member : row ∈ table) (same : changed.id = row.id)
    (carries : ∀ old ∈ initial, old.id = row.id → related old row →
      related old changed) : Matched related initial (table.save changed) where
  old := by
    intro other inSaved
    rcases Table.mem_save.mp inSaved with rfl | ⟨inTable, -⟩
    · obtain ⟨old, inInitial, sameOld, relates⟩ := matched.old row member
      exact ⟨old, inInitial, sameOld.trans same.symm,
        carries old inInitial sameOld relates⟩
    · exact matched.old other inTable
  kept := by
    intro old inInitial
    obtain ⟨other, inTable, sameOld⟩ := matched.kept old inInitial
    by_cases saved : other.id = changed.id
    · exact ⟨changed, Table.mem_save.mpr (Or.inl rfl), saved.symm.trans sameOld⟩
    · exact ⟨other, Table.mem_save.mpr (Or.inr ⟨inTable, saved⟩), sameOld⟩

theorem Matched.imp {weaker : Inbound → Inbound → Prop}
    (matched : Matched related initial table)
    (weaken : ∀ old row, related old row → weaker old row) :
    Matched weaker initial table where
  old := by
    intro row member
    obtain ⟨old, inInitial, same, relates⟩ := matched.old row member
    exact ⟨old, inInitial, same, weaken old row relates⟩
  kept := matched.kept

theorem matched_refl (reflexive : ∀ old, related old old) :
    Matched related initial initial :=
  ⟨fun row member => ⟨row, member, rfl, reflexive row⟩,
    fun old member => ⟨old, member, rfl⟩⟩

theorem grown_refl (old : Inbound) : Grown cfg flags initial old old :=
  ⟨Or.inl rfl, [], (List.append_nil _).symm, fun _ member => by cases member⟩

theorem Grown.synced (grown : Grown cfg flags initial old row) :
    Synced cfg flags initial old row := by
  obtain ⟨frame, added, listed, addable⟩ := grown
  exact ⟨frame, items old.settings, added, listed, List.Sublist.refl _,
    fun _ member => Or.inl member, addable⟩

theorem withClients_withClients (old : Inbound) (first second : List Json) :
    withClients (withClients old first) second = withClients old second := by
  have fields : (withClients old first).settings.fields =
      JsonObject.set old.settings.fields "clients" (.arr first) := rfl
  unfold withClients at fields ⊢
  rw [fields, JsonObject.set_set]

/-- A second change of the clients is one change of them. -/
theorem frame_withClients {first : List Json} (stored : List Json)
    (frame : row = old ∨ row = withClients old first) :
    withClients row stored =
      withClients old (items (withClients row stored).settings) := by
  rw [items_withClients]
  rcases frame with rfl | rfl
  · rfl
  · exact withClients_withClients old first stored

theorem Grown.add (grown : Grown cfg flags initial old row)
    (tagged : old.tag ∈ cfg.inboundTags) {new : List Json}
    (addable : ∀ item ∈ new, Addable cfg flags initial old item) :
    Grown cfg flags initial old
      (withClients row (items row.settings ++ new)) := by
  obtain ⟨added, listed, before⟩ := grown.clients
  refine ⟨Or.inr ⟨tagged, frame_withClients _
    (grown.frame.imp_right And.right)⟩, added ++ new, ?_, ?_⟩
  · rw [items_withClients, listed, List.append_assoc]
  · intro item member
    rcases List.mem_append.mp member with earlier | later
    · exact before item earlier
    · exact addable item later

theorem protocol_of_frame {tagged : Prop} {stored : List Json}
    (frame : row = old ∨ tagged ∧ row = withClients old stored) :
    row.protocol = old.protocol ∧ row.tag = old.tag := by
  rcases frame with rfl | ⟨-, rfl⟩ <;> exact ⟨rfl, rfl⟩

theorem Synced.remove (synced : Synced cfg flags initial old row)
    (tagged : old.tag ∈ cfg.inboundTags) {clientKey : String}
    (removable : ∀ item ∈ items old.settings,
      keyText (clientKeyName old.protocol) item = some clientKey →
        Removable cfg flags old item) :
    Synced cfg flags initial old (withClients row
      ((items row.settings).filter fun item =>
        keyText (clientKeyName row.protocol) item ≠ some clientKey)) := by
  obtain ⟨kept, added, listed, sub, stays, addable⟩ := synced.clients
  rw [(protocol_of_frame synced.frame).1]
  let others : Json → Bool := fun item =>
    keyText (clientKeyName old.protocol) item ≠ some clientKey
  refine ⟨Or.inr ⟨tagged, frame_withClients _
    (synced.frame.imp_right And.right)⟩, kept.filter others,
    added.filter others, ?_, List.filter_sublist.trans sub, ?_, ?_⟩
  · rw [items_withClients, listed, List.filter_append]
  · intro item member
    by_cases same : keyText (clientKeyName old.protocol) item = some clientKey
    · exact Or.inr (removable item member same)
    · exact (stays item member).imp_left fun inKept =>
        List.mem_filter.mpr ⟨inKept, decide_eq_true same⟩
  · intro item member
    exact addable item (List.mem_filter.mp member).1

theorem lookup_of_mem_order {Value : Type} {walk : Walk Value}
    {entries : KeyMap String Value} {key : String} {value : Value}
    (member : (key, value) ∈ walk.order entries) :
    entries.lookup key = some value := by
  obtain ⟨entry, inMap, same⟩ :=
    List.mem_map.mp ((walk.perm entries).mem_iff.mp member)
  obtain ⟨rfl, rfl⟩ := Prod.mk.inj same
  exact KeyMap.mem_entries_iff.mp inMap

/-- What the job relies on: identifiers and e-mails are written as they are,
and no e-mail is empty. -/
structure Legible (world : World) (flags : KeyMap String Bool) : Prop where
  uuids : ∀ number, isPlain (world.draws number).uuid = true
  emails : ∀ email allowed, flags.lookup email = some allowed →
    isPlain email = true
  named : flags.lookup "" = none

theorem grown_createBatch (legible : Legible world flags)
    (matched : Matched (Grown cfg flags initial) initial state.inbounds)
    {batch : String × List Client}
    (planned : ∀ c ∈ batch.2, Planned cfg initial world.draws
      (world.flags.order flags) batch.1 c) :
    Matched (Grown cfg flags initial) initial
      (createBatch world initial state batch).inbounds := by
  unfold createBatch
  split
  next => exact matched
  next someClient =>
    split
    next => exact matched
    next ib found =>
      have plain : batch.2.all isPlainClient = true := by
        apply List.all_eq_true.mpr
        intro c member
        obtain ⟨-, -, ib, email, number, -, listed, -, rfl⟩ := planned c member
        exact isPlainClient_buildClient (legible.uuids number)
          (legible.emails email true (lookup_of_mem_order listed))
      rcases @addClients_cases world state ib.id batch.2 plain with
        kept | ⟨-, row, member, same, now, saved⟩
      · rw [kept]
        exact matched
      · rw [saved]
        obtain ⟨inInitial, tagged⟩ := inboundMap_eq_some found
        refine matched.save member ?_ ?_
        · rfl
        intro old inTable sameOld grown
        obtain rfl := Table.eq_of_key_eq inTable inInitial (sameOld.trans same)
        obtain ⟨c, inBatch⟩ := List.exists_mem_of_ne_nil batch.2 someClient
        have inTags := (planned c inBatch).1
        rw [← tagged] at inTags
        apply grown.add inTags
        intro item inNew
        obtain ⟨c, inBatch, rfl⟩ := List.mem_map.mp inNew
        obtain ⟨-, autoCreate, ib, email, number, foundAgain, listed, unknown,
          rfl⟩ := planned c inBatch
        obtain rfl := Option.some.inj (foundAgain.symm.trans found)
        exact ⟨autoCreate, email, world.draws number, now,
          lookup_of_mem_order listed, unknown, rfl⟩

/-- An e-mail that is stored is refused, so nothing is enabled or disabled. -/
theorem batchSetEnable_inbounds (legible : Legible world flags)
    (matched : Matched (Grown cfg flags initial) initial state.inbounds)
    {enable : Bool} {batch : String × List String}
    (known : ∀ email ∈ batch.2,
      Known initial (world.flags.order flags) email) :
    (batchSetEnable world initial enable state batch).inbounds =
      state.inbounds := by
  unfold batchSetEnable
  split
  next => rfl
  next someEmail =>
    split
    next => rfl
    next ib found =>
      have listed : ∀ email ∈ batch.2, email ≠ "" ∧ isPlain email = true := by
        intro email member
        obtain ⟨⟨allowed, inFlags⟩, -⟩ := known email member
        have flagged := lookup_of_mem_order inFlags
        refine ⟨?_, legible.emails email allowed flagged⟩
        intro blank
        rw [blank, legible.named] at flagged
        cases flagged
      have plain : (batch.2.map fun email => ({ blankClient with
          email := email, enable := enable } : Client)).all isPlainClient =
            true := by
        rw [List.all_map]
        apply List.all_eq_true.mpr
        intro email member
        exact (listed email member).2
      rcases addClients_cases plain with kept | ⟨⟨given, sameEmails, checked⟩, -⟩
      · exact kept
      · obtain ⟨email, member⟩ := List.exists_mem_of_ne_nil batch.2 someEmail
        obtain ⟨-, client, isKnown⟩ := known email member
        obtain ⟨old, inInitial, item, stored, named⟩ := item_of_allClients isKnown
        obtain ⟨row, inTable, same⟩ := matched.kept old inInitial
        obtain ⟨other, otherMember, sameOther, grown⟩ := matched.old row inTable
        obtain rfl := Table.eq_of_key_eq otherMember inInitial
          (sameOther.trans same)
        obtain ⟨added, whole, -⟩ := grown.clients
        have inRow : item ∈ items row.settings := by
          rw [whole]
          exact List.mem_append_left added stored
        have nonempty := (listed email member).1
        have new : toLower email ∈ lowerNames (given.map Client.email) := by
          rw [sameEmails, List.map_map]
          refine mem_lowerNames.mpr ⟨email, ?_, nonempty, rfl⟩
          exact List.mem_map.mpr ⟨email, member, rfl⟩
        have old : toLower email ∈ lowerNames (emails row.settings) := by
          refine mem_lowerNames.mpr ⟨email, ?_, nonempty, rfl⟩
          rw [← named]
          exact mem_emails_of_item inRow
        exact absurd old ((checkEmails_eq_ok checked).2 row inTable _ new)

theorem grown_setEnable (legible : Legible world flags)
    (matched : Matched (Grown cfg flags initial) initial state.inbounds)
    (enable : Bool) (batches : List (String × List String))
    (known : ∀ batch ∈ batches, ∀ email ∈ batch.2,
      Known initial (world.flags.order flags) email) :
    Matched (Grown cfg flags initial) initial
      (batches.foldl (batchSetEnable world initial enable) state).inbounds := by
  apply List.foldlRecOn (motive := fun state : State =>
    Matched (Grown cfg flags initial) initial state.inbounds)
  · exact matched
  · intro state matched batch member
    rw [batchSetEnable_inbounds legible matched (known batch member)]
    exact matched

theorem synced_delClient {c : Client} (autoDelete : cfg.autoDelete = true)
    (matched : Matched (Synced cfg flags initial) initial state.inbounds)
    (inInitial : old ∈ initial) (tagged : old.tag ∈ cfg.inboundTags)
    (gone : ∃ item ∈ items old.settings, Store.itemClient item = c ∧
      flags.lookup c.email = none) :
    Matched (Synced cfg flags initial) initial
      (delClient world state old.id (ldapKey old.protocol c)).inbounds := by
  rcases @delClient_cases world state old.id (ldapKey old.protocol c) with
    kept | ⟨row, member, same, saved⟩
  · rw [kept]
    exact matched
  · rw [saved]
    refine matched.save member ?_ ?_
    · rfl
    intro other inTable sameOther synced
    obtain rfl := Table.eq_of_key_eq inTable inInitial (sameOther.trans same)
    apply synced.remove tagged
    intro item _ named
    obtain ⟨goneItem, stored, rfl, unlisted⟩ := gone
    exact ⟨autoDelete, goneItem, stored, unlisted, named⟩

/-- Only clients that were there before are asked for: the new ones have
e-mails of LDAP. -/
theorem gone_of_toDelete (synced : Synced cfg flags initial old ib) {c : Client}
    (member : c ∈ toDelete flags ib) :
    ∃ item ∈ items old.settings, Store.itemClient item = c ∧
      flags.lookup c.email = none := by
  obtain ⟨read, unlisted⟩ := List.mem_filter.mp member
  rw [Option.isNone_iff_eq_none] at unlisted
  obtain ⟨item, stored, same⟩ := item_of_mem_getClients read
  obtain ⟨kept, added, listed, sub, -, addable⟩ := synced.clients
  rw [listed] at stored
  rcases List.mem_append.mp stored with inKept | inAdded
  · exact ⟨item, sub.subset inKept, same, unlisted⟩
  · obtain ⟨-, email, draw, now, allowed, -, rfl⟩ := addable item inAdded
    rw [← same, email_stampNewClient, email_clientToJSON, email_buildClient,
      allowed] at unlisted
    cases unlisted

theorem synced_deleteFrom (autoDelete : cfg.autoDelete = true)
    (matched : Matched (Synced cfg flags initial) initial state.inbounds)
    (inInitial : old ∈ initial) (same : old.id = ib.id)
    (synced : Synced cfg flags initial old ib)
    (tagged : ib.tag ∈ cfg.inboundTags) :
    Matched (Synced cfg flags initial) initial
      (deleteFrom world flags state ib).inbounds := by
  obtain ⟨sameProtocol, sameTag⟩ := protocol_of_frame synced.frame
  unfold deleteFrom
  apply List.foldlRecOn (motive := fun state : State =>
    Matched (Synced cfg flags initial) initial state.inbounds)
  · exact matched
  · intro state matched c member
    rw [← same, sameProtocol]
    rw [sameTag] at tagged
    exact synced_delClient autoDelete matched inInitial tagged
      (gone_of_toDelete synced member)

theorem synced_deleteClientsNotInLDAP {inboundTag : String}
    (autoDelete : cfg.autoDelete = true)
    (matched : Matched (Synced cfg flags initial) initial state.inbounds)
    (tagged : inboundTag ∈ cfg.inboundTags) :
    Matched (Synced cfg flags initial) initial
      (deleteClientsNotInLDAP world flags state inboundTag).inbounds := by
  unfold deleteClientsNotInLDAP
  dsimp only
  split
  next => exact matched
  next =>
    apply List.foldlRecOn (motive := fun state : State =>
      Matched (Synced cfg flags initial) initial state.inbounds)
    · exact matched
    · intro later laterMatched ib member
      obtain ⟨inTable, ibTag⟩ := List.mem_filter.mp member
      obtain ⟨old, inInitial, same, synced⟩ := matched.old ib inTable
      rw [← of_decide_eq_true ibTag] at tagged
      exact synced_deleteFrom autoDelete laterMatched inInitial same synced
        tagged

theorem synced_sync (legible : Legible world flags) :
    Matched (Synced cfg flags initial) initial
      (sync world cfg flags initial).inbounds := by
  have start : Matched (Grown cfg flags initial) initial initial :=
    matched_refl grown_refl
  unfold sync
  split
  next => exact start.imp fun _ _ grown => grown.synced
  next plan prepared =>
    have sound := sound_of_prepareAll prepared
    dsimp only
    have created : Matched (Grown cfg flags initial) initial
        ((world.creates.order plan.clientsToCreate).foldl
          (createBatch world initial) ⟨initial, 0, true⟩).inbounds := by
      apply List.foldlRecOn (motive := fun state : State =>
        Matched (Grown cfg flags initial) initial state.inbounds)
      · exact start
      · intro state matched batch member
        exact grown_createBatch legible matched
          (sound.create.of_mem_order world.creates member)
    have enabled := grown_setEnable legible created true
      (world.enables.order plan.clientsToEnable) fun batch member =>
        sound.enable.of_mem_order world.enables member
    have settled := grown_setEnable legible enabled false
      (world.disables.order plan.clientsToDisable) fun batch member =>
        sound.disable.of_mem_order world.disables member
    split
    next autoDelete =>
      apply List.foldlRecOn (motive := fun state : State =>
        Matched (Synced cfg flags initial) initial state.inbounds)
      · exact settled.imp fun _ _ grown => grown.synced
      · intro state matched inboundTag tagged
        exact synced_deleteClientsNotInLDAP autoDelete matched tagged
    next => exact settled.imp fun _ _ grown => grown.synced

end Effect

section Runs

/-- One run of the job: its settings, the directory and what else it finds. -/
structure Sync where
  world : World
  cfg : Config
  directory : Directory
  readFails : Bool

def Sync.flags (sync : Sync) : Option (KeyMap String Bool) :=
  fetchVlessFlags sync.cfg sync.directory

def Sync.apply (inbounds : Inbounds) (sync : Sync) : Inbounds :=
  (run sync.world sync.cfg sync.directory sync.readFails inbounds).inbounds

/-- The inbounds after some runs of the job, one after the other. -/
def syncs (initial : Inbounds) (runs : List Sync) : Inbounds :=
  runs.foldl Sync.apply initial

/-- Identifiers and the e-mails of the directory are written as they are. -/
structure Sync.Plain (sync : Sync) : Prop where
  uuids : ∀ number, isPlain (sync.world.draws number).uuid = true
  emails : ∀ flags, sync.flags = some flags → ∀ email allowed,
    flags.lookup email = some allowed → isPlain email = true

/-- Created in the course of the runs, for an e-mail that LDAP allowed and no
inbound had. -/
def Created (initial : Inbounds) (runs : List Sync) (item : Json) : Prop :=
  ∃ before sync later flags old, runs = before ++ sync :: later ∧
    sync.flags = some flags ∧
    Addable sync.cfg flags (syncs initial before) old item

variable {cfg : Config} {directory : Directory} {flags : KeyMap String Bool}
  {initial : Inbounds} {sync : Sync} {runs : List Sync} {row : Inbound}
  {item : Json}

theorem lookup_blank_setFlag {userAttr flagField : String}
    {entry : String → String} (named : flags.lookup "" = none) :
    (setFlag userAttr flagField cfg flags entry).lookup "" = none := by
  unfold setFlag
  dsimp only
  split
  next => exact named
  next someUser =>
    rw [AList.lookup_insert_ne (Ne.symm someUser)]
    exact named

theorem lookup_blank_fetched
    (fetched : fetchVlessFlags cfg directory = some flags) :
    flags.lookup "" = none := by
  unfold fetchVlessFlags at fetched
  dsimp only at fetched
  split at fetched
  next => cases fetched
  next =>
    split at fetched
    next => cases fetched
    next =>
      obtain ⟨entries, -, rfl⟩ := Option.map_eq_some_iff.mp fetched
      apply List.foldlRecOn (motive := fun flags : KeyMap String Bool =>
        flags.lookup "" = none)
      · exact AList.lookup_empty ""
      · intro flags named entry _
        exact lookup_blank_setFlag named

theorem Sync.Plain.synced (plain : sync.Plain)
    (fetched : sync.flags = some flags) :
    Matched (Synced sync.cfg flags initial) initial (sync.apply initial) := by
  have unchanged : Matched (Synced sync.cfg flags initial) initial initial :=
    matched_refl fun old => (grown_refl old).synced
  unfold Sync.apply run
  split
  next => exact unchanged
  next =>
    split
    next => exact unchanged
    next found read =>
      obtain rfl := Option.some.inj (read.symm.trans fetched)
      split
      next => exact unchanged
      next =>
        exact synced_sync ⟨plain.uuids, plain.emails found fetched,
          lookup_blank_fetched fetched⟩

theorem apply_of_unfetched (unfetched : sync.flags = none) :
    sync.apply initial = initial := by
  unfold Sync.apply run
  split
  next => rfl
  next =>
    split
    next => rfl
    next found read =>
      rw [Sync.flags] at unfetched
      rw [unfetched] at read
      cases read

theorem Created.cons (created : Created (sync.apply initial) runs item) :
    Created initial (sync :: runs) item := by
  obtain ⟨before, later, rest, flags, old, rfl, fetched, addable⟩ := created
  exact ⟨sync :: before, later, rest, flags, old, rfl, fetched, addable⟩

theorem origin_of_syncs (plain : ∀ sync ∈ runs, sync.Plain)
    (member : row ∈ syncs initial runs) :
    ∃ old ∈ initial, old.id = row.id ∧ ∀ item ∈ items row.settings,
      item ∈ items old.settings ∨ Created initial runs item := by
  induction runs generalizing initial with
  | nil => exact ⟨row, member, rfl, fun _ stored => Or.inl stored⟩
  | cons sync runs induction =>
      obtain ⟨middle, inMiddle, same, stored⟩ := induction
        (fun other later => plain other (List.mem_cons_of_mem sync later)) member
      cases fetched : sync.flags with
      | none =>
          rw [apply_of_unfetched fetched] at inMiddle
          refine ⟨middle, inMiddle, same, ?_⟩
          intro item inRow
          exact (stored item inRow).imp_right Created.cons
      | some flags =>
          obtain ⟨old, inInitial, sameOld, synced⟩ :=
            ((plain sync List.mem_cons_self).synced fetched).old middle inMiddle
          refine ⟨old, inInitial, sameOld.trans same, ?_⟩
          intro item inRow
          rcases stored item inRow with earlier | created
          · obtain ⟨kept, added, listed, sub, -, addable⟩ := synced.clients
            rw [listed] at earlier
            rcases List.mem_append.mp earlier with inKept | inAdded
            · exact Or.inl (sub.subset inKept)
            · exact Or.inr ⟨[], sync, runs, flags, old, rfl, fetched,
                addable item inAdded⟩
          · exact Or.inr created.cons

def mapOrder (Value : Type) : Walk Value where
  order := fun entries => entries.entries.map fun entry => (entry.1, entry.2)
  perm := fun _ => List.Perm.refl _

/-- A directory with one person who is no longer allowed and a new one. -/
def office : Sync where
  world := ⟨mapOrder _, mapOrder _, mapOrder _, mapOrder _, fun _ => ⟨"u", 0⟩,
    fun _ => ⟨7, 1, true, true⟩, fun _ => false, fun _ => .malformed⟩
  cfg := ⟨true, "ldap", 389, false, "", "", "", "", "", "", ["yes"], false,
    ["in"], true, 0, 0, 0, true⟩
  directory := ⟨fun _ => true, fun _ _ => true, fun _ _ _ => some
    [fun key => if key = "mail" then "ann" else "no",
      fun key => if key = "mail" then "bob" else "yes"]⟩
  readFails := false

def ann : Json :=
  .obj [("id", .str "1"), ("email", .str "ann"), ("enable", .bool true)]

def eve : Json :=
  .obj [("id", .str "2"), ("email", .str "eve"), ("enable", .bool true)]

def officeInbound (clients : List Json) : Inbound :=
  ⟨1, "", 443, .vless, .parsed (.obj [("clients", .arr clients)]), true, "in"⟩

end Runs

end VpnUi.Job.LdapSync
