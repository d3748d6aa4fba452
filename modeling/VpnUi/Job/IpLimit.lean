import VpnUi.Foundation.Like
import VpnUi.Job.ClientIps
import VpnUi.Store.Telegram

namespace VpnUi.Job

open Foundation Panel Store

/-! The limit that a scan applies: the inbound of a client is found by a pattern
in the texts of the settings. -/

/-- The column `settings` of the inbounds, by their ids. -/
abbrev SettingsColumn := Int → List Char

def emailPattern (clientEmail : String) : List Char :=
  '%' :: (clientEmail.toList ++ ['%'])

/-- The first row, in the order of the ids. -/
def getInboundByEmail (inbounds : StoredInbounds) (texts : SettingsColumn)
    (clientEmail : String) : Option StoredInbound :=
  inbounds.rows.find? fun row =>
    like (emailPattern clientEmail) (texts row.id)

/-- What `updateInboundClientIps` does: the entries it stores, the bans it
reports, and the inbound the client is disconnected from. -/
structure ScanResult where
  ips : List IPWithTimestamp
  disAllowedIps : List IPWithTimestamp
  disconnected : Option Int
  shouldCleanLog : Bool

def unchanged (ips : List IPWithTimestamp) : ScanResult where
  ips := ips
  disAllowedIps := []
  disconnected := none
  shouldCleanLog := false

def enforced (inboundId : Int) (enforcement : Enforcement) : ScanResult where
  ips := enforcement.dbIps
  disAllowedIps := enforcement.bannedLive
  disconnected :=
    if enforcement.bannedLive = [] then none else some inboundId
  shouldCleanLog := enforcement.bannedLive ≠ []

def updateInboundClientIps (inbounds : StoredInbounds) (texts : SettingsColumn)
    (order : TimeSort) (now : Int) (clientEmail : String)
    (old new : List IPWithTimestamp) : ScanResult :=
  match getInboundByEmail inbounds texts clientEmail with
  | none => unchanged old
  | some inbound =>
      match inbound.settings with
      | .empty => unchanged old
      | _ =>
          match (rowClients inbound).find? (·.email = clientEmail) with
          | none => unchanged new
          | some client =>
              if client.limitIp ≤ 0 ∨ inbound.enable = false then unchanged new
              else enforced inbound.id
                (enforce order client.limitIp.toNat now old new)

/-- The limit of the client is the one that every scan of its e-mail applies:
so many live addresses are kept, and the rest is reported. -/
structure LimitApplied (inbounds : StoredInbounds) (texts : SettingsColumn)
    (inbound : StoredInbound) (client : Client) : Prop where
  selected : getInboundByEmail inbounds texts client.email = some inbound
  kept : ∀ order now old new,
    ((updateInboundClientIps inbounds texts order now client.email old
      new).ips.filter (·.ip ∈ new.map IPWithTimestamp.ip)) =
        (liveIps order now old new).take client.limitIp.toNat
  reported : ∀ order now old new,
    (updateInboundClientIps inbounds texts order now client.email old
      new).disAllowedIps =
        (liveIps order now old new).drop client.limitIp.toNat

/-- The text of the client's inbound is the first one that matches, and the
client is the one of its e-mail there. -/
structure OwnInboundFirst (inbounds : StoredInbounds) (texts : SettingsColumn)
    (inbound : StoredInbound) (client : Client) : Prop where
  shown : like (emailPattern client.email) (texts inbound.id)
  first : ∀ row ∈ inbounds, row.id < inbound.id →
    ¬ like (emailPattern client.email) (texts row.id)
  own : ∀ entry ∈ (rowClients inbound).find? (·.email = client.email),
    entry.limitIp = client.limitIp

section Lookup

variable {inbounds : StoredInbounds} {texts : SettingsColumn}
  {inbound : StoredInbound} {client : Client} {clientEmail : String}

theorem getInboundByEmail_eq_some :
    getInboundByEmail inbounds texts clientEmail = some inbound ↔
      inbound ∈ inbounds ∧ like (emailPattern clientEmail) (texts inbound.id) ∧
        ∀ row ∈ inbounds, row.id < inbound.id →
          ¬ like (emailPattern clientEmail) (texts row.id) := by
  rw [getInboundByEmail, Table.find?_rows_eq_some]
  simp only [Bool.not_eq_true]

/-- The text of settings shows an e-mail that needs no escapes. -/
theorem like_of_laidOut {layout : Json.Layout} {text : List Char}
    (laidOut : LaidOut layout inbound text) (member : client ∈ rowClients inbound)
    (nonempty : client.email ≠ "")
    (plain : Json.quoted client.email =
      '"' :: (client.email.toList ++ ['"'])) :
    like (emailPattern client.email) text := by
  obtain ⟨items, stored, item, listed, rfl⟩ := itemClient_of_mem member
  cases item with
  | obj fields =>
      have given : JsonObject.get fields "email" =
          .str (itemClient (.obj fields)).email := by
        change (JsonObject.get fields "email").text.value ≠ "" at nonempty
        change _ = Json.str (JsonObject.get fields "email").text.value
        cases read : JsonObject.get fields "email" with
        | str email => rfl
        | _ => exact absurd (by rw [read]; rfl) nonempty
      have shown := laidOut.infix_field stored listed
        (JsonObject.mem_of_get given Json.noConfusion)
      rw [Json.print, plain] at shown
      have within : (itemClient (.obj fields)).email.toList <:+:
          '"' :: ((itemClient (.obj fields)).email.toList ++ ['"']) :=
        ⟨['"'], ['"'], by simp⟩
      exact like_of_infix
        ((within.trans (List.suffix_append _ _).isInfix).trans shown)
  | _ => exact absurd rfl nonempty

end Lookup

section Limit

variable {inbounds : StoredInbounds} {texts : SettingsColumn}
  {inbound : StoredInbound} {client entry : Client} {order : TimeSort}
  {now : Int} {old new : List IPWithTimestamp}

theorem update_eq_enforced
    (selected : getInboundByEmail inbounds texts client.email = some inbound)
    (enabled : inbound.enable = true)
    (found : (rowClients inbound).find? (·.email = client.email) = some entry)
    (limited : 0 < entry.limitIp) :
    updateInboundClientIps inbounds texts order now client.email old new =
      enforced inbound.id
        (enforce order entry.limitIp.toNat now old new) := by
  have within : ¬ (entry.limitIp ≤ 0 ∨ inbound.enable = false) := by
    rw [enabled]
    simp only [Bool.true_eq_false, or_false]
    omega
  rw [updateInboundClientIps, selected]
  dsimp only
  cases settings : inbound.settings with
  | empty =>
      rw [rowClients, settings] at found
      cases found
  | _ =>
      dsimp only
      rw [found]
      exact if_neg within

/-- Only live entries among the stored ones are of the scan. -/
theorem live_dbIps {limitIp : Nat} :
    (enforce order limitIp now old new).dbIps.filter
        (·.ip ∈ new.map IPWithTimestamp.ip) =
      (liveIps order now old new).take limitIp := by
  have live : ∀ entry ∈ liveIps order now old new,
      entry.ip ∈ new.map IPWithTimestamp.ip := by
    intro entry member
    have listed := (order.perm _).subset member
    exact of_decide_eq_true (List.mem_filter.mp listed).2
  have historical : ∀ entry ∈
      (enforce order limitIp now old new).historicalIps,
      entry.ip ∉ new.map IPWithTimestamp.ip := by
    intro entry member
    have cut : (enforce order limitIp now old new).historicalIps =
        order.sort ((entriesOf (mergeClientIps old new
          (now - ipStaleAfterSeconds))).filter
            (·.ip ∉ new.map IPWithTimestamp.ip)) := by
      unfold enforce
      dsimp only
      split <;> rfl
    rw [cut] at member
    have listed := (order.perm _).subset member
    exact of_decide_eq_true (List.mem_filter.mp listed).2
  rw [Enforcement.dbIps, List.filter_append, enforce_live.1,
    List.filter_eq_self.mpr, List.filter_eq_nil_iff.mpr, List.append_nil]
  · intro entry member
    simpa using historical entry member
  · intro entry member
    exact decide_eq_true (live entry (List.mem_of_mem_take member))

/-- As many addresses as wanted, seen now. -/
def crowd (count : Nat) : List IPWithTimestamp :=
  (List.range count).map fun index =>
    ⟨String.ofList (List.replicate index '1'), 0⟩

theorem length_live_crowd (count : Nat) :
    (liveIps .insertion 0 [] (crowd count)).length = count := by
  have distinct : ((crowd count).map IPWithTimestamp.ip).Nodup := by
    rw [crowd, List.map_map]
    apply List.nodup_range.map
    intro left right same
    have lengths := congrArg (fun ip => ip.toList.length) same
    simpa using lengths
  have perm : (liveIps .insertion 0 [] (crowd count)).Perm _ :=
    liveIps_perm distinct fun stored none => nomatch none
  have fresh : (crowd count).filter
      (0 - ipStaleAfterSeconds ≤ ·.timestamp) = crowd count := by
    apply List.filter_eq_self.mpr
    intro entry member
    obtain ⟨index, -, rfl⟩ := List.mem_map.mp member
    change decide (0 - ipStaleAfterSeconds ≤ 0) = true
    decide
  rw [perm.length_eq, fresh, crowd, List.length_map, List.length_range]

/-- A limit that bans as many of every crowd is the same. -/
theorem limit_of_reported (limited : 0 < client.limitIp)
    (reported : ∀ count,
      (updateInboundClientIps inbounds texts .insertion 0 client.email []
        (crowd count)).disAllowedIps.length =
          count - client.limitIp.toNat)
    (selected : getInboundByEmail inbounds texts client.email = some inbound)
    (enabled : inbound.enable = true)
    (found : (rowClients inbound).find? (·.email = client.email) =
      some entry) : entry.limitIp = client.limitIp := by
  by_cases positive : 0 < entry.limitIp
  · have counts := fun count => reported count
    simp only [update_eq_enforced selected enabled found positive, enforced,
      enforce_live.2, List.length_drop, length_live_crowd] at counts
    have mine := counts client.limitIp.toNat
    have other := counts entry.limitIp.toNat
    omega
  · have counted := reported (client.limitIp.toNat + 1)
    have none : updateInboundClientIps inbounds texts .insertion 0 client.email
        [] (crowd (client.limitIp.toNat + 1)) = unchanged [] ∨
          updateInboundClientIps inbounds texts .insertion 0 client.email
            [] (crowd (client.limitIp.toNat + 1)) =
              unchanged (crowd (client.limitIp.toNat + 1)) := by
      rw [updateInboundClientIps, selected]
      dsimp only
      cases settings : inbound.settings with
      | empty => exact .inl rfl
      | _ =>
          dsimp only
          rw [found]
          exact .inr (if_pos (.inl (by omega)))
    rcases none with none | none <;> rw [none] at counted <;>
      simp [unchanged] at counted

end Limit

/-- A limit is applied to the client's own addresses exactly if the text of its
inbound is the first that matches the e-mail. -/
theorem limit_applied_iff (inbounds : StoredInbounds) (texts : SettingsColumn)
    {inbound : StoredInbound} {client : Client} (member : inbound ∈ inbounds)
    (enabled : inbound.enable = true) (listed : client ∈ rowClients inbound)
    (limited : 0 < client.limitIp) :
    LimitApplied inbounds texts inbound client ↔
      OwnInboundFirst inbounds texts inbound client := by
  obtain ⟨entry, found⟩ : ∃ entry,
      (rowClients inbound).find? (·.email = client.email) = some entry :=
    Option.isSome_iff_exists.mp (List.find?_isSome.mpr
      ⟨client, listed, decide_eq_true rfl⟩)
  constructor
  · intro applied
    obtain ⟨-, shown, first⟩ := getInboundByEmail_eq_some.mp applied.selected
    refine ⟨shown, first, ?_⟩
    intro other same
    obtain rfl := Option.some.inj (found.symm.trans same)
    refine limit_of_reported limited ?_ applied.selected enabled found
    intro count
    rw [applied.reported, List.length_drop, length_live_crowd]
  · intro own
    have selected := getInboundByEmail_eq_some.mpr
      ⟨member, own.shown, own.first⟩
    have same := own.own entry found
    refine ⟨selected, ?_, ?_⟩ <;> intro order now old new <;>
      rw [update_eq_enforced selected enabled found (same ▸ limited), same]
    · exact live_dbIps
    · exact enforce_live.2

/-! Ann has a limit. Annie has none, and her inbound is the first. -/

def limitedClient (email : String) (limitIp : Int) : Client :=
  { telegramClient with id := email, email := email, limitIp := limitIp }

def limitedSettings (client : Client) : Json :=
  .obj [("clients", .arr [client.encode])]

def limitedRow (id : Int) (client : Client) : StoredInbound :=
  { expandedRow with
    id := id
    protocol := .vless
    settings := .parsed (limitedSettings client) }

def ann : Client := limitedClient "ann" 1

def annie : Client := limitedClient "annie" 0

/-- The texts that the panel stores. -/
def limitedTexts (id : Int) : List Char :=
  (limitedSettings (if id = 1 then annie else ann)).print .indented 0

/-- A client alone in the panel has its own limit. -/
theorem limit_applied_ann :
    LimitApplied (Table.empty.save (limitedRow 2 ann)) limitedTexts
      (limitedRow 2 ann) ann := by
  have listed : ann ∈ rowClients (limitedRow 2 ann) := by decide +kernel
  have laidOut : LaidOut .indented (limitedRow 2 ann) (limitedTexts 2) := by
    refine ⟨limitedSettings ann, .obj ?_, rfl, rfl⟩
    exact List.forall_mem_singleton.mpr
      (.arr (List.forall_mem_singleton.mpr (wellFormed_encode ann)))
  refine (limit_applied_iff _ limitedTexts (Table.mem_save.mpr (.inl rfl)) rfl
    listed (by decide)).mpr ⟨?_, ?_, ?_⟩
  · exact like_of_laidOut laidOut listed (by decide) (by decide +kernel)
  · intro row stored before
    rcases Table.mem_save.mp stored with rfl | ⟨old, -⟩
    · exact absurd before (lt_irrefl _)
    · exact absurd old Table.not_mem_empty
  · have entries : (rowClients (limitedRow 2 ann)).find?
        (·.email = ann.email) = some ann := by decide +kernel
    intro entry found
    rw [entries] at found
    cases found
    rfl

def limitedInbounds : StoredInbounds :=
  (Table.empty.save (limitedRow 1 annie)).save (limitedRow 2 ann)

theorem annie_takes_limit :
    limitedRow 2 ann ∈ limitedInbounds ∧ (limitedRow 2 ann).enable = true ∧
      ann ∈ rowClients (limitedRow 2 ann) ∧ 0 < ann.limitIp ∧
        ¬ LimitApplied limitedInbounds limitedTexts (limitedRow 2 ann) ann := by
  refine ⟨Table.mem_save.mpr (.inl rfl), rfl, by decide +kernel, by decide, ?_⟩
  intro applied
  have taken : (getInboundByEmail limitedInbounds limitedTexts
      ann.email).map (·.id) = some 1 := by decide +kernel
  rw [applied.selected] at taken
  cases taken

end VpnUi.Job
