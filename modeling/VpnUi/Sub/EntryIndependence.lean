import VpnUi.Sub.ClashProfile
import VpnUi.Sub.SameEndpoints

namespace VpnUi.Sub

open Foundation

/-! When the external proxies of an inbound do not influence one another. -/

/-! Links. -/

/-- A link by what it is formatted from. -/
structure EntryLink where
  link : String
  params : Params
  fragment : String

section Links

variable (makeRemark : ExternalEntry → String)

/-- The parts of a vmess object are those before `ps`, `add` and `port`. -/
structure VmessEntry where
  obj : Params
  ps : String
  add : String
  port : Int

def vmessEntries (baseObj : Params) (entries : List ExternalEntry) :
    List VmessEntry :=
  entries.map fun entry =>
    { obj := (cloneVmessShareObj baseObj entry.forceTls).setIf
        (entry.forceTls ≠ .same) "tls" entry.forceTls.name
      ps := makeRemark entry
      add := entry.dest
      port := entry.port }

def urlEntries (params : Params) (baseSecurity : String)
    (makeLink : String → Int → String) (entries : List ExternalEntry) :
    List EntryLink :=
  entries.map fun entry =>
    { link := makeLink entry.dest entry.port
      params := buildLinkWithParamsAndSecurity params
        (if entry.forceTls ≠ .same then entry.forceTls.name else baseSecurity)
        (entry.forceTls = .none)
      fragment := makeRemark entry }

end Links

/-! The section of the stream that an entry rewrites. -/

structure SecuritySection where
  security : Option Json
  tlsSettings : Option Json

namespace SecuritySection

def ofStream (stream : Fields) : SecuritySection :=
  ⟨stream "security", stream "tlsSettings"⟩

def force (part : SecuritySection) : ForceTls → SecuritySection
  | .same => part
  | .tls =>
      if Json.isText part.security "tls" then part
      else ⟨some (.str "tls"), some (.obj [])⟩
  | .none =>
      if Json.isText part.security "none" then part
      else ⟨some (.str "none"), none⟩

/-- The section behind an entry; `genHy` names its security in the end. -/
def leave (hysteria : Bool) (part : SecuritySection) (force : ForceTls) :
    SecuritySection :=
  if hysteria then ⟨some (.str "tls"), (part.force force).tlsSettings⟩
  else part.force force

/-- The override is none, or names the security that is there. -/
def Keeps (part : SecuritySection) : ForceTls → Prop
  | .same => True
  | .tls => part.security = some (.str "tls")
  | .none => part.security = some (.str "none")

def AllKeep (part : SecuritySection) (earlier : List ForceTls) : Prop :=
  ∀ force ∈ earlier, part.Keeps force

/-- The entry names another security, or so does none before it; or there is no
security to lose, and the last override before it takes back what the others
have set. -/
def Unaffected (part : SecuritySection) (earlier : List ForceTls)
    (force : ForceTls) : Prop :=
  ¬ part.Keeps force ∨ part.AllKeep earlier ∨
    part.security = some (.str "none") ∧ part.tlsSettings = none ∧
      (force = .none ∨ lastOverride earlier = some .none)

/-- What an override of another security leaves. -/
def overridden (last : Option ForceTls) : SecuritySection :=
  if last = some .tls then ⟨some (.str "tls"), some (.obj [])⟩
  else ⟨some (.str "none"), none⟩

/-- As `entryStream` makes it. -/
structure Formed (hysteria : Bool) (part : SecuritySection) : Prop where
  tls : part.security = some (.str "tls") →
    ∃ field fields, part.tlsSettings = some (.obj (field :: fields))
  hysteria : hysteria = true → part.security = some (.str "tls")

variable {hysteria : Bool} {part : SecuritySection} {earlier : List ForceTls}
  {force : ForceTls}

theorem force_of_keeps (keeps : part.Keeps force) :
    part.force force = part := by
  cases force with
  | same => rfl
  | tls | none => exact if_pos (Json.isText_iff.mpr keeps)

theorem force_of_not_keeps (changes : ¬ part.Keeps force) :
    part.force force = overridden (some force) := by
  cases force with
  | same => exact absurd trivial changes
  | tls | none => exact if_neg fun same => changes (Json.isText_iff.mp same)

theorem overridden_force (last : Option ForceTls) :
    (overridden last).force force =
      overridden (if force = .same then last else some force) := by
  by_cases tls : last = some .tls
  · subst tls
    cases force <;> rfl
  · have forced : overridden last = ⟨some (.str "none"), none⟩ := if_neg tls
    rw [forced]
    cases force with
    | same => exact forced.symm
    | tls | none => rfl

theorem leave_of_keeps
    (secured : hysteria = true → part.security = some (.str "tls"))
    (keeps : part.Keeps force) : part.leave hysteria force = part := by
  unfold leave
  rw [force_of_keeps keeps]
  split
  next isHysteria => rw [← secured isHysteria]
  next => rfl

theorem foldl_leave_of_allKeep
    (secured : hysteria = true → part.security = some (.str "tls"))
    (keep : part.AllKeep earlier) :
    earlier.foldl (leave hysteria) part = part := by
  induction earlier with
  | nil => rfl
  | cons force rest induction =>
      unfold AllKeep at keep
      rw [List.forall_mem_cons] at keep
      rw [List.foldl_cons, leave_of_keeps secured keep.1]
      exact induction keep.2

theorem allKeep_append :
    part.AllKeep (earlier ++ [force]) ↔
      part.AllKeep earlier ∧ part.Keeps force := by
  simp [AllKeep, or_imp, forall_and]

/-- Once the security has been overridden, only the last override counts. -/
theorem foldl_leave_of_not_allKeep (changed : ¬ part.AllKeep earlier) :
    earlier.foldl (leave false) part = overridden (lastOverride earlier) := by
  induction earlier using List.reverseRecOn with
  | nil => exact absurd (fun _ member => by cases member) changed
  | append_singleton earlier last induction =>
      rw [List.foldl_append, lastOverride_append]
      by_cases keep : part.AllKeep earlier
      · have changes : ¬ part.Keeps last := fun keeps =>
          changed (allKeep_append.mpr ⟨keep, keeps⟩)
        have override : last ≠ .same := by
          intro same
          exact changes (same ▸ trivial)
        rw [foldl_leave_of_allKeep (by simp) keep, if_neg override]
        exact force_of_not_keeps changes
      · rw [induction keep]
        exact overridden_force _

/-- Under hysteria an override takes the settings away for good. -/
theorem foldl_leave_hysteria (secured : part.security = some (.str "tls"))
    (changed : ¬ part.AllKeep earlier) :
    earlier.foldl (leave true) part = ⟨some (.str "tls"), none⟩ := by
  induction earlier using List.reverseRecOn with
  | nil => exact absurd (fun _ member => by cases member) changed
  | append_singleton earlier last induction =>
      rw [List.foldl_append]
      by_cases keep : part.AllKeep earlier
      · have changes : ¬ part.Keeps last := fun keeps =>
          changed (allKeep_append.mpr ⟨keep, keeps⟩)
        rw [foldl_leave_of_allKeep (fun _ => secured) keep]
        cases last with
        | same => exact absurd trivial changes
        | tls => exact absurd secured changes
        | none => simp [leave, force_of_not_keeps changes, overridden]
      · rw [induction keep]
        cases last <;> rfl

theorem overridden_eq_iff {last : Option ForceTls}
    (formed : part.Formed hysteria) :
    overridden last = part ↔
      last ≠ some .tls ∧ part.security = some (.str "none") ∧
        part.tlsSettings = none := by
  unfold overridden
  by_cases tls : last = some .tls
  · rw [if_pos tls]
    have differs : (⟨some (.str "tls"), some (.obj [])⟩ : SecuritySection) ≠
        part := by
      intro same
      obtain ⟨field, fields, settings⟩ := formed.tls (by rw [← same])
      rw [← same] at settings
      cases settings
    simp [differs, tls]
  · rw [if_neg tls]
    constructor
    · rintro rfl
      exact ⟨tls, rfl, rfl⟩
    · rintro ⟨-, security, settings⟩
      rw [← security, ← settings]

theorem lastOverride_ne_tls (changed : ¬ part.AllKeep earlier) :
    lastOverride earlier ≠ some .tls ↔ lastOverride earlier = some .none := by
  constructor
  · intro notTls
    by_contra notNone
    have unchanged := lastOverride_eq_none notNone notTls
    refine changed fun force member => ?_
    cases force with
    | same => trivial
    | tls | none =>
        exact absurd member (not_mem_of_lastOverride unchanged nofun)
  · intro last
    rw [last]
    nofun

/-- The section of an entry is the one it has alone. -/
theorem leave_eq_iff (formed : part.Formed hysteria) :
    (earlier.foldl (leave hysteria) part).leave hysteria force =
        part.leave hysteria force ↔
      part.Unaffected earlier force := by
  unfold Unaffected
  by_cases keep : part.AllKeep earlier
  · rw [foldl_leave_of_allKeep formed.hysteria keep]
    simp [keep]
  · cases hysteria with
    | true =>
        have secured := formed.hysteria rfl
        obtain ⟨field, fields, settings⟩ := formed.tls secured
        rw [foldl_leave_hysteria secured keep]
        by_cases keeps : part.Keeps force
        · rw [leave_of_keeps formed.hysteria keeps]
          have lost : ((⟨some (.str "tls"), none⟩ : SecuritySection).leave true
              force).tlsSettings = none := by
            cases force <;> rfl
          have differs : (⟨some (.str "tls"), none⟩ : SecuritySection).leave
              true force ≠ part := by
            intro same
            rw [same, settings] at lost
            cases lost
          simp [differs, keep, keeps, secured]
        · cases force with
          | same => exact absurd trivial keeps
          | tls => exact absurd secured keeps
          | none =>
              refine ⟨fun _ => .inl keeps, fun _ => ?_⟩
              unfold leave
              rw [force_of_not_keeps keeps]
              rfl
    | false =>
        rw [foldl_leave_of_not_allKeep keep]
        unfold leave
        rw [if_neg Bool.false_ne_true, if_neg Bool.false_ne_true,
          overridden_force]
        by_cases keeps : part.Keeps force
        · rw [force_of_keeps keeps, overridden_eq_iff formed]
          cases force with
          | same =>
              simp only [if_true, lastOverride_ne_tls keep, keep, keeps,
                not_true_eq_false, reduceCtorEq, false_or]
              exact and_rotate
          | tls => simp [keep, keeps, show part.security = _ from keeps]
          | none => simp [keep, keeps]
        · have override : force ≠ .same := fun same => keeps (same ▸ trivial)
          rw [force_of_not_keeps keeps, if_neg override]
          simp [keeps]

end SecuritySection

/-! The stream behind its section. -/

section Streams

/-- The stream with another section. -/
def withSection (stream : Fields) (part : SecuritySection) : Fields :=
  Function.update (Function.update stream "security" part.security)
    "tlsSettings" part.tlsSettings

variable {stream : Fields} {part other : SecuritySection}
  {inbound : EntryInbound} {client : EntryClient} {settings : JsonObject}

theorem withSection_ofStream :
    withSection stream (.ofStream stream) = stream := by
  simp [withSection, SecuritySection.ofStream]

theorem ofStream_withSection :
    SecuritySection.ofStream (withSection stream part) = part := by
  simp [withSection, SecuritySection.ofStream]

theorem withSection_inj :
    withSection stream part = withSection stream other ↔ part = other := by
  refine ⟨fun same => ?_, fun same => same ▸ rfl⟩
  rw [← @ofStream_withSection stream part, same, ofStream_withSection]

theorem withSection_withSection :
    withSection (withSection stream part) other = withSection stream other := by
  funext key
  simp only [withSection, Function.update_apply]
  split <;> [rfl; (split <;> rfl)]

theorem forceStream_withSection (force : ForceTls) :
    forceStream (withSection stream part) force =
      withSection stream (part.force force) := by
  have security : withSection stream part "security" = part.security := by
    simp [withSection]
  cases force with
  | same => rfl
  | tls =>
      unfold forceStream SecuritySection.force
      simp only [security]
      split
      · rfl
      · exact @withSection_withSection stream part ⟨_, _⟩
  | none =>
      unfold forceStream SecuritySection.force
      simp only [security]
      split
      · rfl
      · exact @withSection_withSection stream part ⟨_, _⟩

theorem hysteriaStream_withSection :
    hysteriaStream inbound client settings (withSection stream part) =
      withSection (hysteriaStream inbound client settings stream)
        ⟨some (.str "tls"), part.tlsSettings⟩ := by
  unfold hysteriaStream withSection
  cases (settings.get? "finalmask").bind Json.object? <;>
    · funext key
      simp only [Fields.setText, Fields.set, Function.update_apply]
      split_ifs <;> simp_all

theorem hysteriaStream_idem :
    hysteriaStream inbound client settings
        (hysteriaStream inbound client settings stream) =
      hysteriaStream inbound client settings stream := by
  unfold hysteriaStream
  cases (settings.get? "finalmask").bind Json.object? <;>
    · funext key
      simp only [Fields.setText, Fields.set, Function.update_apply]
      split_ifs <;> rfl

end Streams

/-! The loop. -/

section Loop

variable (inbound : EntryInbound) (client : EntryClient) (service : JsonService)

/-- The stream behind a generator that does not panic. -/
def carried (stream : Fields) : Fields :=
  (genStream inbound client stream).getD stream

def leaveStream (stream : Fields) (force : ForceTls) : Fields :=
  carried inbound client (forceStream stream force)

/-- The settings of the security that is named are objects, and the texts that
are drawn are texts; hysteria has settings and runs over TLS. -/
structure EntryInbound.WellFormed (draw : Draw) : Prop where
  secured : (securedStream draw inbound.streamSettings).isSome
  hysteria : inbound.protocol.isHysteria = true →
    inbound.streamSettings "security" = some (.str "tls") ∧
      (hyStream inbound).isSome

variable {inbound client service} {draw : Draw} {stream : Fields}
  {part : SecuritySection}

theorem genStream_eq (formed : inbound.WellFormed draw) :
    genStream inbound client stream =
      some (carried inbound client stream) := by
  unfold carried genStream
  split
  next isHysteria =>
    obtain ⟨settings, found⟩ := Option.isSome_iff_exists.mp
      (formed.hysteria isHysteria).2
    simp [found]
  next => rfl

theorem carried_withSection (formed : inbound.WellFormed draw)
    (force : ForceTls) :
    carried inbound client (withSection stream (part.force force)) =
      withSection (carried inbound client stream)
        (part.leave inbound.protocol.isHysteria force) := by
  unfold carried genStream SecuritySection.leave
  split
  next isHysteria =>
    obtain ⟨settings, found⟩ := Option.isSome_iff_exists.mp
      (formed.hysteria isHysteria).2
    simp [found, hysteriaStream_withSection]
  next => rfl

theorem carried_carried :
    carried inbound client (carried inbound client stream) =
      carried inbound client stream := by
  unfold carried genStream
  split
  · cases hyStream inbound with
    | none => rfl
    | some settings => exact hysteriaStream_idem
  · rfl

theorem leaveStream_withSection (formed : inbound.WellFormed draw)
    (force : ForceTls) :
    leaveStream inbound client (withSection stream part) force =
      withSection (carried inbound client stream)
        (part.leave inbound.protocol.isHysteria force) := by
  unfold leaveStream
  rw [forceStream_withSection, carried_withSection formed]

/-- Beyond its section the stream of an entry is always the same. -/
theorem leaveStream_foldl (formed : inbound.WellFormed draw)
    (earlier : List ForceTls) (force : ForceTls) :
    leaveStream inbound client
        (earlier.foldl (leaveStream inbound client) (withSection stream part))
        force =
      withSection (carried inbound client stream)
        ((earlier.foldl (SecuritySection.leave inbound.protocol.isHysteria)
          part).leave inbound.protocol.isHysteria force) := by
  induction earlier generalizing stream part with
  | nil => exact leaveStream_withSection formed force
  | cons first rest induction =>
      rw [List.foldl_cons, List.foldl_cons, leaveStream_withSection formed,
        induction, carried_carried]

/-- The configuration of an entry behind some others. -/
def configAfter (inbound : EntryInbound) (client : EntryClient)
    (service : JsonService) (stream : Fields) (earlier : List ExternalEntry)
    (entry : ExternalEntry) : EntryConfig :=
  entryConfig inbound client entry service
    (leaveStream inbound client
      ((earlier.map (·.forceTls)).foldl (leaveStream inbound client) stream)
      entry.forceTls)

theorem entryConfigs_eq (formed : inbound.WellFormed draw)
    (earlier entries : List ExternalEntry) :
    entryConfigs inbound client service
        ((earlier.map (·.forceTls)).foldl (leaveStream inbound client) stream)
        entries =
      some (mapEarlier (configAfter inbound client service stream) earlier
        entries) := by
  induction entries generalizing earlier with
  | nil => rfl
  | cons entry entries induction =>
      have later := induction (earlier ++ [entry])
      rw [List.map_append, List.foldl_append] at later
      rw [entryConfigs, genStream_eq formed, mapEarlier]
      simp only [Option.bind_eq_bind, Option.bind_some]
      have here : ∀ state, carried inbound client
          (forceStream state entry.forceTls) =
            leaveStream inbound client state entry.forceTls := fun _ => rfl
      rw [here]
      simp only [List.map_cons, List.map_nil, List.foldl_cons, List.foldl_nil]
        at later
      rw [later]
      rfl

end Loop

/-! The sections of the settings and of the stream. -/

section Section

variable {draw : Draw} {raw stream : Fields} {fragmentOrNoises : Bool}

theorem ofStream_set {key : String} {value : Json}
    (security : key ≠ "security") (settings : key ≠ "tlsSettings") :
    SecuritySection.ofStream (stream.set key value) =
      SecuritySection.ofStream stream := by
  unfold SecuritySection.ofStream
  rw [Fields.set_of_ne security.symm, Fields.set_of_ne settings.symm]

theorem ofStream_erase {key : String} (security : key ≠ "security")
    (settings : key ≠ "tlsSettings") :
    SecuritySection.ofStream (stream.erase key) =
      SecuritySection.ofStream stream := by
  unfold SecuritySection.ofStream
  rw [Fields.erase_of_ne security.symm, Fields.erase_of_ne settings.symm]

theorem ofStream_withoutAcceptProxy :
    SecuritySection.ofStream (withoutAcceptProxy stream) =
      SecuritySection.ofStream stream := by
  unfold withoutAcceptProxy
  cases (stream "network").bind Json.text? with
  | none => rfl
  | some network =>
      simp only
      split_ifs
      · exact ofStream_set (by decide) (by decide)
      · exact ofStream_set (by decide) (by decide)
      · exact ofStream_set (by decide) (by decide)
      · rfl

/-- The steps behind the security leave its section alone. -/
theorem ofStream_entryStream {secured : Fields}
    (found : securedStream draw raw = some secured) :
    ∃ stream, entryStream draw fragmentOrNoises raw = some stream ∧
      SecuritySection.ofStream stream = SecuritySection.ofStream secured := by
  refine ⟨_, by rw [entryStream, found, Option.map_some], ?_⟩
  rw [ofStream_erase (by decide) (by decide), ofStream_withoutAcceptProxy]
  split
  · rw [ofStream_set (by decide) (by decide),
      ofStream_erase (by decide) (by decide)]
  · exact ofStream_erase (by decide) (by decide)

theorem ofStream_secured {hysteria : Bool} {secured : Fields}
    (found : securedStream draw raw = some secured)
    (hysteriaTls : hysteria = true → raw "security" = some (.str "tls")) :
    (SecuritySection.ofStream secured).Formed hysteria ∧
      secured "security" = raw "security" ∧
      (raw "security" ≠ some (.str "tls") →
        secured "tlsSettings" = raw "tlsSettings") := by
  unfold securedStream at found
  by_cases tls : Json.isText (raw "security") "tls"
  · rw [if_pos tls] at found
    obtain ⟨tData, -, rfl⟩ := Option.map_eq_some_iff.mp found
    have kept : raw.set "tlsSettings" (.obj (tlsFields tData)) "security" =
        raw "security" := Fields.set_of_ne (by decide)
    have written : raw.set "tlsSettings" (.obj (tlsFields tData))
        "tlsSettings" = some (.obj (tlsFields tData)) := Fields.set_self
    refine ⟨⟨fun _ => ⟨_, _, written⟩, fun isHysteria => ?_⟩, kept,
      fun other => absurd (Json.isText_iff.mp tls) other⟩
    exact kept.trans (hysteriaTls isHysteria)
  · rw [if_neg tls] at found
    have other : raw "security" ≠ some (.str "tls") := fun same =>
      tls (Json.isText_iff.mpr same)
    have same : SecuritySection.ofStream secured =
        SecuritySection.ofStream raw := by
      split at found
      · obtain ⟨rData, -, found⟩ := Option.bind_eq_some_iff.mp found
        obtain ⟨rltyData, -, found⟩ := Option.bind_eq_some_iff.mp found
        obtain rfl := Option.some.inj found
        exact ofStream_set (by decide) (by decide)
      · rw [Option.some.inj found]
    obtain ⟨security, settings⟩ := SecuritySection.mk.inj same
    refine ⟨⟨fun isTls => ?_, fun isHysteria => ?_⟩, security,
      fun _ => settings⟩
    · exact absurd (security.symm.trans isTls) other
    · exact absurd (hysteriaTls isHysteria) other

/-- Only without security do the settings count. -/
theorem unaffected_congr {part other : SecuritySection}
    (security : part.security = other.security)
    (settings : other.security ≠ some (.str "tls") →
      part.tlsSettings = other.tlsSettings)
    (earlier : List ForceTls) (force : ForceTls) :
    part.Unaffected earlier force ↔ other.Unaffected earlier force := by
  have keeps : ∀ force, part.Keeps force ↔ other.Keeps force := by
    intro force
    cases force <;> simp [SecuritySection.Keeps, security]
  unfold SecuritySection.Unaffected SecuritySection.AllKeep
  simp only [keeps, security]
  refine or_congr Iff.rfl (or_congr Iff.rfl (and_congr_right fun none => ?_))
  rw [settings (by simp [none])]

end Section

/-! Independence. -/

/-- An entry gives in a list what it gives alone; a generator that panics gives
nothing. -/
def Independent {Item : Type*}
    (generate : List ExternalEntry → Option (List Item))
    (entries : List ExternalEntry) : Prop :=
  ∀ before entry after, entries = before ++ entry :: after →
    ((generate entries).bind fun items => items[before.length]?) =
      (generate [entry]).bind fun items => items[0]?

theorem independent_map {Item : Type*} (convert : ExternalEntry → Item)
    (entries : List ExternalEntry) :
    Independent (fun entries => some (entries.map convert)) entries := by
  rintro before entry after rfl
  simp

def EntryInbound.withEntries (inbound : EntryInbound)
    (entries : List ExternalEntry) : EntryInbound :=
  { inbound with externalProxy := entries }

/-- In the four generators. -/
structure EntriesIndependent (inbound : EntryInbound) (client : EntryClient)
    (service : JsonService) (draw : Draw) (host : String) : Prop where
  json : Independent
    (fun entries =>
      getEntryConfigs (inbound.withEntries entries) client service draw host)
    inbound.externalProxy
  clash : Independent
    (fun entries =>
      some (clashEntries service.style (inbound.withEntries entries) client host))
    inbound.externalProxy
  url : ∀ makeRemark params baseSecurity makeLink, Independent
    (fun entries =>
      some (urlEntries makeRemark params baseSecurity makeLink entries))
    inbound.externalProxy
  vmess : ∀ makeRemark baseObj, Independent
    (fun entries => some (vmessEntries makeRemark baseObj entries))
    inbound.externalProxy

section Main

variable {inbound : EntryInbound} {client : EntryClient} {service : JsonService}
  {draw : Draw} {host : String}

theorem entries_withEntries {entries : List ExternalEntry}
    (some_ : entries ≠ []) :
    (inbound.withEntries entries).entries host = entries := if_neg some_

theorem clash_independent :
    Independent
      (fun entries =>
        some (clashEntries service.style (inbound.withEntries entries) client
          host))
      inbound.externalProxy := by
  rintro before entry after split
  have listed : inbound.externalProxy ≠ [] := by simp [split]
  simp only [clashEntries, entries_withEntries listed,
    entries_withEntries (List.cons_ne_nil entry [])]
  exact independent_map _ _ before entry after split

theorem entryConfig_inj {entry : ExternalEntry} {stream other : Fields} :
    entryConfig inbound client entry service stream =
        entryConfig inbound client entry service other ↔ stream = other := by
  refine ⟨fun same => ?_, fun same => same ▸ rfl⟩
  exact congrArg (fun config => config.outbound.streamSettings) same

theorem json_independent_iff (formed : inbound.WellFormed draw) :
    Independent
        (fun entries =>
          getEntryConfigs (inbound.withEntries entries) client service draw
            host)
        inbound.externalProxy ↔
      ∀ before entry after, inbound.externalProxy = before ++ entry :: after →
        (SecuritySection.ofStream inbound.streamSettings).Unaffected
          (before.map (·.forceTls)) entry.forceTls := by
  obtain ⟨secured, found⟩ := Option.isSome_iff_exists.mp formed.secured
  obtain ⟨stream, made, same⟩ := @ofStream_entryStream draw
    inbound.streamSettings service.fragmentOrNoises secured found
  obtain ⟨sectionFormed, security, settings⟩ := ofStream_secured found
    fun isHysteria => (formed.hysteria isHysteria).1
  have generated : ∀ entries ≠ [],
      getEntryConfigs (inbound.withEntries entries) client service draw host =
        some (mapEarlier (configAfter inbound client service stream) []
          entries) := by
    intro entries listed
    have formed : (inbound.withEntries entries).WellFormed draw :=
      ⟨formed.secured, formed.hysteria⟩
    unfold getEntryConfigs
    rw [entries_withEntries listed]
    exact (congrArg (Option.bind · _) made).trans
      (@entryConfigs_eq _ client service draw stream formed [] entries)
  unfold Independent
  refine forall_congr' fun before => forall_congr' fun entry =>
    forall_congr' fun after => forall_congr' fun split => ?_
  have listed : inbound.externalProxy ≠ [] := by simp [split]
  simp only [generated _ listed, generated _ (List.cons_ne_nil entry [])]
  rw [split, Option.bind_some, Option.bind_some, getElem?_mapEarlier]
  have alone : (mapEarlier (configAfter inbound client service stream) []
      [entry])[0]? = some (configAfter inbound client service stream [] entry) :=
    rfl
  rw [alone, Option.some.injEq, List.nil_append]
  unfold configAfter
  rw [entryConfig_inj, ← @withSection_ofStream stream,
    leaveStream_foldl formed, List.map_nil, List.foldl_nil,
    leaveStream_withSection formed, withSection_inj, same,
    SecuritySection.leave_eq_iff sectionFormed]
  exact unaffected_congr security settings _ _

end Main

/-! A vless inbound with TLS behind two external proxies. -/

def proxyAt (forceTls : ForceTls) (dest : String) : ExternalEntry :=
  ⟨forceTls, dest, 443, ""⟩

def twoProxies (first second : ForceTls) : EntryInbound where
  protocol := .vless
  port := 443
  remark := "home"
  clientStats := []
  encryption := some "none"
  method := none
  password := none
  version := 0
  streamSettings := .ofObject
    [("network", .str "grpc"), ("security", .str "tls"),
      ("tlsSettings", .obj [("serverName", .str "a.example")])]
  externalProxy := [proxyAt first "b.example", proxyAt second "c.example"]

def annEntry : EntryClient := ⟨"ann", "1", "", "", "", ""⟩

def plainService : JsonService where
  configJson := .empty
  defaultOutbounds := []
  fragmentOrNoises := false
  mux := ""
  style := ⟨⟨45, [105]⟩, false, 0⟩

def noDraw : Draw := ⟨0, 0, ""⟩

theorem twoProxies_wellFormed (first second : ForceTls) :
    (twoProxies first second).WellFormed noDraw :=
  ⟨rfl, fun isHysteria => absurd isHysteria Bool.false_ne_true⟩

end VpnUi.Sub
