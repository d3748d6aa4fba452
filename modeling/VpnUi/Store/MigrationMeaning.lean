import VpnUi.Store.MigrationClients

namespace VpnUi.Store

open Foundation Panel

/-! What the migration of the inbounds keeps of their rows, and what a second one
changes. -/

/-! External proxies. -/

/-- The proxy that a domain stands for. -/
structure IsProxyOf (port : Int) (fields proxy : JsonObject) : Prop where
  dest : ∃ domain, fields.get? "domain" = some (.str domain) ∧
    proxy.get? "dest" = some (.str domain)
  port : proxy.get? "port" = some (.int port)
  forceTls : proxy.get? "forceTls" = some (.str "same")
  others : ∀ key, key ∉ ["domain", "dest", "port", "forceTls"] →
    proxy.get? key = fields.get? key

inductive ProxyEntry (port : Int) : Json → Json → Prop
  | proxy {fields proxy : JsonObject} (stands : IsProxyOf port fields proxy) :
      ProxyEntry port (.obj fields) (.obj proxy)

/-- The domains are gone, and a proxy stands for each in its place. -/
structure Moved (port : Int) (items : List Json) (stream : JsonObject) : Prop where
  gone : domainsOf stream = none
  proxies : ∃ entries, stream.get? "externalProxy" = some (.arr entries) ∧
    List.Forall₂ (ProxyEntry port) items entries

/-- The fields of a domain that are copied are settled. -/
def SettledDomain (item : Json) : Prop :=
  ∀ fields, item = .obj fields →
    ∀ key, key ∉ ["domain", "dest", "port", "forceTls"] →
      ∀ value ∈ JsonObject.get? fields key, Settled value

section Proxies

variable {port : Int} {item entry : Json} {items entries : List Json}

theorem get?_convertedDomain {fields : JsonObject} {domain key : String}
    (other : key ∉ ["domain", "dest", "port", "forceTls"]) :
    JsonObject.get? (JsonObject.remove (JsonObject.set (JsonObject.set
      (JsonObject.set fields "forceTls" (.str "same")) "port" (.int port))
        "dest" (.str domain)) "domain") key = JsonObject.get? fields key := by
  simp only [List.mem_cons, List.not_mem_nil, or_false, not_or] at other
  rw [JsonObject.get?_remove_ne other.1, JsonObject.get?_set_ne other.2.1,
    JsonObject.get?_set_ne other.2.2.1, JsonObject.get?_set_ne other.2.2.2]

theorem isProxyOf_iff {fields : JsonObject} {domain : String}
    (named : JsonObject.get? fields "domain" = some (.str domain)) :
    IsProxyOf port fields (JsonObject.remove (JsonObject.set (JsonObject.set
      (JsonObject.set (viaFloatFields fields) "forceTls" (.str "same")) "port"
        (.int port)) "dest" (.str domain)) "domain") ↔
      SettledDomain (.obj fields) := by
  have copied : ∀ key, key ∉ ["domain", "dest", "port", "forceTls"] →
      ((JsonObject.get? fields key).map Json.viaFloat =
        JsonObject.get? fields key ↔
          ∀ value ∈ JsonObject.get? fields key, Settled value) := by
    intro key _
    cases JsonObject.get? fields key with
    | none => simp
    | some value => simp [Settled]
  constructor
  · intro stands given same key other
    obtain rfl := Json.obj.inj same
    apply (copied key other).mp
    have here := stands.others key other
    rwa [get?_convertedDomain other, JsonObject.get?_viaFloatFields] at here
  · intro settled
    refine ⟨⟨domain, named, ?_⟩, ?_, ?_, ?_⟩
    · rw [JsonObject.get?_remove_ne (by decide), JsonObject.get?_set_self]
    · rw [JsonObject.get?_remove_ne (by decide),
        JsonObject.get?_set_ne (by decide), JsonObject.get?_set_self]
    · rw [JsonObject.get?_remove_ne (by decide),
        JsonObject.get?_set_ne (by decide), JsonObject.get?_set_ne (by decide),
        JsonObject.get?_set_self]
    · intro key other
      rw [get?_convertedDomain other, JsonObject.get?_viaFloatFields]
      exact (copied key other).mpr (settled fields rfl key other)

theorem proxyEntry_iff (converted : convertDomain port item.viaFloat = some entry) :
    ProxyEntry port item entry ↔ HasDomain item ∧ SettledDomain item := by
  constructor
  · intro stands
    obtain ⟨stands⟩ := stands
    obtain ⟨domain, named, -⟩ := stands.dest
    rw [Json.viaFloat, convertDomain, get?_viaFloatFields_str.mpr named]
      at converted
    obtain rfl := Json.obj.inj (Option.some.inj converted)
    exact ⟨⟨domain, named⟩, (isProxyOf_iff named).mp stands⟩
  · rintro ⟨has, settled⟩
    cases item with
    | obj fields =>
        obtain ⟨domain, named⟩ := has
        rw [Json.viaFloat, convertDomain, get?_viaFloatFields_str.mpr named]
          at converted
        obtain rfl := Option.some.inj converted
        exact .proxy ((isProxyOf_iff named).mpr settled)
    | _ => cases has

theorem forall₂_proxyEntry_iff
    (converted : (viaFloatItems items).mapM (convertDomain port) = some entries) :
    List.Forall₂ (ProxyEntry port) items entries ↔
      ∀ item ∈ items, HasDomain item ∧ SettledDomain item := by
  have each := forall₂_of_mapM converted
  rw [viaFloatItems_eq_map, List.forall₂_map_left_iff] at each
  clear converted
  induction each with
  | nil => exact iff_of_true .nil nofun
  | cons head _ induction =>
      rw [List.forall₂_cons, List.forall_mem_cons, proxyEntry_iff head]
      exact and_congr_right fun _ => induction

theorem domainsOf_movedStream {stream tlsSettings settings : JsonObject}
    {reverses : Json} :
    domainsOf (movedStream stream tlsSettings settings reverses) = none := by
  have outer : child (movedStream stream tlsSettings settings reverses)
      "tlsSettings" = some (tlsSettings.set "settings"
        (.obj (settings.remove "domains"))) := by
    unfold child movedStream
    rw [JsonObject.get?_set_ne (by decide), JsonObject.get?_set_self]
    rfl
  have inner : child (tlsSettings.set "settings"
      (.obj (settings.remove "domains"))) "settings" =
        some (settings.remove "domains") := by
    unfold child
    rw [JsonObject.get?_set_self]
    rfl
  unfold domainsOf
  rw [outer]
  change (child _ "settings").bind _ = _
  rw [inner]
  change (JsonObject.get? _ _).bind _ = _
  rw [JsonObject.get?_remove_self]
  rfl

theorem get?_movedStream {stream tlsSettings settings : JsonObject}
    {reverses : Json} :
    (movedStream stream tlsSettings settings reverses).get? "externalProxy" =
      some reverses := JsonObject.get?_set_self

end Proxies

/-! Rows. -/

/-- A TLS inbound of the three protocols with a list of domains. -/
structure UpgradeRow.DomainList (row : UpgradeRow) (items : List Json) : Prop where
  multi : row.multiDomain
  listed : domainsOf row.streamSettings.fields = some (.arr items)

/-- The part of a tag that the migration is to take away. -/
def wildcardPart : String := "0.0.0.0:"

def CleanTag (tag : String) : Prop :=
  ¬ wildcardPart.toList <:+: tag.toList

/-- What the migration is to keep of a row. -/
structure RowKept (now : Int) (old new : UpgradeRow) : Prop where
  moved : ∀ items, old.DomainList items →
    Moved old.port items new.streamSettings.fields
  stays : (∀ items, ¬ old.DomainList items) →
    new.streamSettings = old.streamSettings
  tag : CleanTag new.tag
  clients : List.Forall₂ (KeptItem now) (listedClients old.settings)
    (listedClients new.settings)

/-- The rows differ in the stamps of their clients only. -/
structure RowRestamped (first second : UpgradeRow) : Prop where
  rest : { second with settings := first.settings } = first
  settings : RestampedSettings first.settings second.settings

/-- The domains of a row can be moved as they are. -/
def UpgradeRow.DomainsSettled (row : UpgradeRow) : Prop :=
  row.multiDomain → ∃ items, domainsOf row.streamSettings.fields =
    some (.arr items) ∧ ∀ item ∈ items, HasDomain item ∧ SettledDomain item

/-- The row that a migration without a panic saves. -/
def UpgradeRow.upgraded (now : Int) (row : UpgradeRow) : UpgradeRow :=
  let repaired := (backfillRow row).repaired now
  if repaired.multiDomain then repaired.converted else repaired

section Rows

variable {now later : Int} {row : UpgradeRow}

theorem settings_upgraded :
    (row.upgraded now).settings =
      if row.migrates then mendedSettings now row.settings else row.settings := by
  have repaired : ((backfillRow row).repaired now).settings =
      if row.migrates then mendedSettings now row.settings else row.settings := by
    unfold UpgradeRow.repaired
    change (if row.migrates then _ else _ : UpgradeRow).settings = _
    split <;> rfl
  unfold UpgradeRow.upgraded
  dsimp only
  rw [← repaired]
  split <;> rfl

/-- The columns that no step writes. -/
theorem upgraded_columns :
    (row.upgraded now).id = row.id ∧ (row.upgraded now).tag = row.tag ∧
      (row.upgraded now).migrates = row.migrates := by
  unfold UpgradeRow.upgraded UpgradeRow.repaired
  dsimp only
  split <;> split <;> exact ⟨rfl, rfl, rfl⟩

theorem streamSettings_converted :
    row.converted.streamSettings =
      ((convertStream row.port (viaFloatFields row.streamSettings.fields)).map
        fun stream => JsonText.parsed (.obj stream)).getD
          row.streamSettings := by
  unfold UpgradeRow.converted UpgradeRow.convert
  rw [Option.map_map]
  rfl

theorem streamSettings_upgraded :
    (row.upgraded now).streamSettings =
      if row.multiDomain then row.converted.streamSettings
      else row.streamSettings := by
  have repaired : ((backfillRow row).repaired now).streamSettings =
      row.streamSettings ∧ ((backfillRow row).repaired now).port = row.port := by
    unfold UpgradeRow.repaired
    split <;> exact ⟨rfl, rfl⟩
  unfold UpgradeRow.upgraded
  dsimp only
  rw [multiDomain_repaired.1]
  split
  · rw [streamSettings_converted, streamSettings_converted, repaired.1,
      repaired.2]
  · exact repaired.1

/-- A row with domains whose objects have one is converted. -/
theorem converted_stream (multi : row.multiDomain) (named : row.DomainsNamed) :
    ∃ tlsSettings settings domains reverses,
      DomainPath row.streamSettings.fields tlsSettings settings domains ∧
        convertDomains row.port domains.viaFloat = some reverses ∧
          row.converted.streamSettings = .parsed (.obj (movedStream
            (viaFloatFields row.streamSettings.fields)
              (viaFloatFields tlsSettings) (viaFloatFields settings)
                reverses)) := by
  obtain ⟨tlsSettings, settings, domains, path⟩ := path_of_multiDomain multi
  have converts := (convert_isSome_iff multi).mpr named
  obtain ⟨reverses, made⟩ := Option.ne_none_iff_exists'.mp
    (@convertDomains_ne_none_iff row.port domains |>.mpr
      (named domains (domainsOf_eq_some.mpr ⟨_, _, path⟩)))
  refine ⟨tlsSettings, settings, domains, reverses, path, made, ?_⟩
  unfold UpgradeRow.converted UpgradeRow.convert
  rw [convertStream_of_path path, made]
  rfl

/-- The streams are kept exactly if the domains can be moved as they are. -/
theorem streams_kept_iff (named : row.multiDomain → row.DomainsNamed) :
    ((∀ items, row.DomainList items →
        Moved row.port items (row.upgraded now).streamSettings.fields) ∧
      ((∀ items, ¬ row.DomainList items) →
        (row.upgraded now).streamSettings = row.streamSettings)) ↔
      row.DomainsSettled := by
  rw [streamSettings_upgraded]
  by_cases multi : row.multiDomain
  · rw [if_pos multi]
    obtain ⟨tlsSettings, settings, domains, reverses, path, made, stored⟩ :=
      converted_stream multi (named multi)
    have found := domainsOf_eq_some.mpr ⟨_, _, path⟩
    rw [stored]
    have gone := @domainsOf_movedStream (viaFloatFields row.streamSettings.fields)
      (viaFloatFields tlsSettings) (viaFloatFields settings) reverses
    by_cases array : ∃ items, domains = .arr items
    · obtain ⟨items, rfl⟩ := array
      obtain ⟨entries, mapped, rfl⟩ := Option.map_eq_some_iff.mp made
      have proxies := @forall₂_proxyEntry_iff row.port items entries mapped
      constructor
      · rintro ⟨moved, -⟩ _
        obtain ⟨here, stored, stand⟩ := (moved items ⟨multi, found⟩).proxies
        obtain rfl := Json.arr.inj
          (Option.some.inj (get?_movedStream.symm.trans stored))
        exact ⟨items, found, proxies.mp stand⟩
      · intro settled
        obtain ⟨others, same, each⟩ := settled multi
        obtain rfl := Json.arr.inj (Option.some.inj (found.symm.trans same))
        constructor
        · intro others list
          obtain rfl := Json.arr.inj
            (Option.some.inj (found.symm.trans list.listed))
          exact ⟨gone, entries, get?_movedStream, proxies.mpr each⟩
        · intro none
          exact absurd ⟨multi, found⟩ (none items)
    · push Not at array
      constructor
      · rintro ⟨-, stays⟩
        have unlisted : ∀ items, ¬ row.DomainList items := fun items list =>
          array items (Option.some.inj (found.symm.trans list.listed))
        have lost := congrArg (fun text => domainsOf (JsonText.fields text))
          (stays unlisted)
        exact absurd (found.symm.trans (lost.symm.trans gone)) nofun
      · intro settled
        obtain ⟨items, same, -⟩ := settled multi
        exact absurd (Option.some.inj (found.symm.trans same)) (array items)
  · rw [if_neg multi]
    refine iff_of_true ⟨fun items list => absurd list.multi multi, fun _ => rfl⟩ ?_
    exact fun other => absurd other multi

theorem rowKept_upgraded_iff (named : row.multiDomain → row.DomainsNamed)
    (objects : row.migrates → ObjectClients row.settings) :
    RowKept now row (row.upgraded now) ↔
      row.DomainsSettled ∧ CleanTag row.tag ∧
        (row.migrates → ∀ object, .obj object ∈ listedClients row.settings →
          SettledClient object) := by
  have clients : List.Forall₂ (KeptItem now) (listedClients row.settings)
      (listedClients (row.upgraded now).settings) ↔
        (row.migrates → ∀ object, .obj object ∈ listedClients row.settings →
          SettledClient object) := by
    rw [settings_upgraded]
    split
    next migrates =>
      rw [kept_mendedSettings_iff (objects migrates)]
      exact ⟨fun settled _ => settled, fun settled => settled migrates⟩
    next other =>
      exact iff_of_true (List.forall₂_same.mpr fun _ _ => .same)
        fun migrates => absurd migrates other
  rw [← @streams_kept_iff now row named, ← clients]
  have tag := (@upgraded_columns now row).2.1
  constructor
  · rintro ⟨moved, stays, clean, kept⟩
    exact ⟨⟨moved, stays⟩, tag ▸ clean, kept⟩
  · rintro ⟨⟨moved, stays⟩, clean, kept⟩
    exact ⟨moved, stays, tag.symm ▸ clean, kept⟩

theorem multiDomain_upgraded (named : row.multiDomain → row.DomainsNamed) :
    (row.upgraded now).multiDomain = false := by
  unfold UpgradeRow.multiDomain
  rw [streamSettings_upgraded, upgraded_columns.2.2]
  split
  next multi =>
    obtain ⟨tlsSettings, settings, domains, reverses, path, made, stored⟩ :=
      converted_stream multi (named multi)
    rw [stored]
    have gone := @domainsOf_movedStream (viaFloatFields row.streamSettings.fields)
      (viaFloatFields tlsSettings) (viaFloatFields settings) reverses
    rw [show JsonText.fields (.parsed (.obj (movedStream
      (viaFloatFields row.streamSettings.fields) (viaFloatFields tlsSettings)
        (viaFloatFields settings) reverses))) = movedStream
          (viaFloatFields row.streamSettings.fields) (viaFloatFields tlsSettings)
            (viaFloatFields settings) reverses from rfl, gone]
    exact Bool.and_false _
  next plain => exact Bool.eq_false_iff.mpr plain

theorem backfilled_idem {allTime up down : Int} :
    backfilled (backfilled allTime up down) up down =
      backfilled allTime up down := by
  unfold backfilled
  split_ifs <;> omega

theorem backfillRow_idem : backfillRow (backfillRow row) = backfillRow row := by
  unfold backfillRow
  simp only [backfilled_idem]

/-- The totals of an upgraded row are there already. -/
theorem backfillRow_upgraded :
    backfillRow (row.upgraded now) = row.upgraded now := by
  have counters : ∃ settings streamSettings, row.upgraded now =
      { backfillRow row with
        settings := settings
        streamSettings := streamSettings } := by
    unfold UpgradeRow.upgraded UpgradeRow.repaired
    dsimp only
    split <;> split <;> exact ⟨_, _, rfl⟩
  obtain ⟨settings, streamSettings, made⟩ := counters
  rw [made]
  unfold backfillRow
  simp only [backfilled_idem]

/-- Without domains and with its totals only the settings of a row change. -/
theorem upgraded_of_plain (plain : row.multiDomain = false)
    (filled : backfillRow row = row) :
    row.upgraded now = { row with settings := (row.upgraded now).settings } := by
  have repaired : row.upgraded now = row.repaired now := by
    unfold UpgradeRow.upgraded
    dsimp only
    rw [multiDomain_repaired.1, plain, filled]
    rfl
  rw [repaired]
  unfold UpgradeRow.repaired
  split <;> rfl

theorem rowRestamped_upgraded_iff (named : row.multiDomain → row.DomainsNamed)
    (objects : row.migrates → ObjectClients row.settings)
    (clock : Settled (.int now)) :
    RowRestamped (row.upgraded now) ((row.upgraded now).upgraded later) ↔
      (row.migrates → ∀ object, .obj object ∈ listedClients row.settings →
        SettledTgId (JsonObject.get? object "tgId")) := by
  have plain := @multiDomain_upgraded now row named
  have again : (row.upgraded now).upgraded later =
      { row.upgraded now with
        settings := ((row.upgraded now).upgraded later).settings } :=
    upgraded_of_plain plain backfillRow_upgraded
  have rest : { (row.upgraded now).upgraded later with
      settings := (row.upgraded now).settings } = row.upgraded now := by
    rw [again]
  have settings : RestampedSettings (row.upgraded now).settings
      ((row.upgraded now).upgraded later).settings ↔
        (row.migrates → ∀ object, .obj object ∈ listedClients row.settings →
          SettledTgId (JsonObject.get? object "tgId")) := by
    rw [@settings_upgraded later, upgraded_columns.2.2, settings_upgraded]
    split
    next migrates =>
      rw [restamped_mendedSettings_iff (objects migrates) clock]
      exact ⟨fun settled _ => settled, fun settled => settled migrates⟩
    next other =>
      exact iff_of_true restampedSettings_refl
        fun migrates => absurd migrates other
  rw [← settings]
  exact ⟨RowRestamped.settings, fun restamped => ⟨rest, restamped⟩⟩

end Rows

/-! Tables. -/

/-- A row after a migration without a panic. -/
def UpgradeRow.final (saves : Bool) (now : Int) (row : UpgradeRow) : UpgradeRow :=
  if saves then row.upgraded now else backfillRow row

section Tables

variable {now later : Int} {db : UpgradeDb} {traffics : Traffics}
  {row : UpgradeRow} {saves : Bool}

theorem rows_upgradedDb :
    (upgradedDb now db traffics).inbounds.rows =
      db.inbounds.rows.map (UpgradeRow.final db.saves now) := by
  unfold upgradedDb
  split
  next saved =>
    change ((db.inbounds.rows.map backfillRow).map (UpgradeRow.repaired now)).map
      (fun row => if row.multiDomain then row.converted else row) = _
    rw [List.map_map, List.map_map, saved]
    rfl
  next unsaved =>
    rw [Bool.not_eq_true] at unsaved
    rw [unsaved]
    rfl

theorem migrates_final : (row.final saves now).migrates = row.migrates := by
  unfold UpgradeRow.final
  split
  · exact upgraded_columns.2.2
  · rfl

theorem settings_final :
    (row.final saves now).settings =
      if saves && row.migrates then mendedSettings now row.settings
      else row.settings := by
  unfold UpgradeRow.final
  cases saves with
  | true => exact settings_upgraded
  | false => rfl

theorem emails_mendedSettings {settings : JsonText} :
    emails (mendedSettings now settings) = emails settings := by
  unfold mendedSettings
  cases repaired : repairSettings now settings with
  | none => rfl
  | some after => exact emails_of_repairSettings repaired

theorem getClients_mendedSettings {settings : JsonText} :
    (getClients (mendedSettings now settings)).isSome =
      (getClients settings).isSome := by
  unfold mendedSettings
  cases repaired : repairSettings now settings with
  | none => rfl
  | some after => exact getClients_isSome_of_repairSettings repaired

theorem emails_final : emails (row.final saves now).settings =
    emails row.settings := by
  rw [settings_final]
  split
  · exact emails_mendedSettings
  · rfl

theorem getClients_final : (getClients (row.final saves now).settings).isSome =
    (getClients row.settings).isSome := by
  rw [settings_final]
  split
  · exact getClients_mendedSettings
  · rfl

theorem objectClients_mendedSettings {settings : JsonText}
    (objects : ObjectClients settings) :
    ObjectClients (mendedSettings now settings) := by
  intro items stored
  by_cases array : ∃ items, settings.fields.get "clients" = .arr items
  · obtain ⟨given, found⟩ := array
    obtain ⟨objects, rfl⟩ := objects given found
    have mended : (mendedSettings now settings).fields.get "clients" =
        if objects = [] then .null
          else .arr (objects.map (repairedItem now)) := by
      rw [mendedSettings_of_objects found]
      exact JsonObject.get_set_self
    rw [mended] at stored
    split at stored
    · cases stored
    · obtain rfl := Json.arr.inj stored
      refine ⟨objects.map fun object => repairClient now (viaFloatFields object), ?_⟩
      rw [List.map_map]
      rfl
  · push Not at array
    rw [mendedSettings_of_no_array array] at stored
    exact absurd stored (array items)

theorem objectClients_final (objects : ObjectClients row.settings) :
    ObjectClients (row.final saves now).settings := by
  rw [settings_final]
  split
  · exact objectClients_mendedSettings objects
  · exact objects

theorem migrating_upgradedDb :
    (upgradedDb now db traffics).migrating =
      db.migrating.map (UpgradeRow.final db.saves now) := by
  unfold UpgradeDb.migrating
  rw [rows_upgradedDb, List.filter_map]
  congr 2
  funext row
  exact migrates_final

theorem reached_upgradedDb :
    reached (upgradedDb now db traffics).migrating =
      (reached db.migrating).map (UpgradeRow.final db.saves now) := by
  unfold reached
  rw [migrating_upgradedDb, List.takeWhile_map]
  congr 2
  funext row
  exact getClients_final

theorem saves_upgradedDb : (upgradedDb now db traffics).saves = db.saves := by
  unfold UpgradeDb.saves allRead
  rw [migrating_upgradedDb, List.all_map]
  congr 1
  funext row
  exact getClients_final

theorem clientsAreObjects_upgradedDb (objects : ClientsAreObjects db) :
    ClientsAreObjects (upgradedDb now db traffics) := by
  unfold ClientsAreObjects
  rw [reached_upgradedDb]
  rw [List.forall_mem_map]
  exact fun row member => objectClients_final (objects row member)

theorem domainsNamed_upgradedDb (saved : db.saves) (named : db.DomainsNamed) :
    (upgradedDb now db traffics).DomainsNamed := by
  intro row member multi
  have listed : row ∈ (upgradedDb now db traffics).inbounds.rows := member
  rw [rows_upgradedDb, saved] at listed
  obtain ⟨old, stored, rfl⟩ := List.mem_map.mp listed
  have plain := @multiDomain_upgraded now old (named old stored)
  change (old.upgraded now).multiDomain at multi
  rw [plain] at multi
  cases multi

/-! The rows of the traffics after a second run. -/

theorem backfillStat_idem {stat : ClientTraffic} :
    backfillStat (backfillStat stat) = backfillStat stat := by
  unfold backfillStat
  simp only [backfilled_idem]

theorem backfillStat_clientStat {inboundId : Int} {client : Client} :
    backfillStat (clientStat inboundId client) = clientStat inboundId client :=
  rfl

theorem backfilled_traffics
    (added : StatsAdded (reached db.migrating) (backfillAllTime db).traffics
      traffics) :
    (backfillAllTime (upgradedDb now db traffics)).traffics =
      (upgradedDb now db traffics).traffics := by
  have fixed : ∀ stat ∈ (upgradedDb now db traffics).traffics,
      backfillStat stat = stat := by
    intro stat member
    rcases added.origin stat (upgradedDb_traffics.mp member).1 with
      old | ⟨row, -, client, rfl, -⟩
    · obtain ⟨first, -, rfl⟩ := mem_backfilled.mp old
      exact backfillStat_idem
    · exact backfillStat_clientStat
  apply Table.ext_mem
  intro stat
  rw [mem_backfilled]
  constructor
  · rintro ⟨old, member, rfl⟩
    rwa [fixed old member]
  · exact fun member => ⟨stat, member, fixed stat member⟩

/-- Where every client has its row, none is added. -/
theorem StatsAdded.eq_of_covered {rows : List UpgradeRow} {before after : Traffics}
    (added : StatsAdded rows before after)
    (covered : ∀ row ∈ rows, ∀ email ∈ emails row.settings, email ≠ "" →
      ∃ stat ∈ before, stat.email = email) : after = before := by
  apply Table.ext_mem
  intro stat
  refine ⟨fun member => ?_, added.kept stat⟩
  rcases added.origin stat member with old | ⟨row, here, client, rfl, listed, named⟩
  · exact old
  · obtain ⟨other, stored, same⟩ := covered row here client.email listed named
    rw [Table.eq_of_key_eq member (added.kept other stored) same.symm]
    exact stored

/-- No row without an inbound is that of a client with an e-mail. -/
def StatsPlaced (db : UpgradeDb) : Prop :=
  ∀ stat ∈ db.traffics, stat.inboundId = 0 → stat.email ∈ db.migratingEmails →
    stat.email = ""

theorem mem_emails_reached {email : String} :
    (∃ row ∈ reached (upgradedDb now db traffics).migrating,
        email ∈ emails row.settings) ↔
      ∃ row ∈ reached db.migrating, email ∈ emails row.settings := by
  rw [reached_upgradedDb]
  simp only [List.mem_map, exists_exists_and_eq_and, emails_final]

/-- After a loop to the end every client has its row exactly if the rows are
placed. -/
theorem covered_iff_placed (saved : db.saves)
    (added : StatsAdded (reached db.migrating) (backfillAllTime db).traffics
      traffics) :
    (∀ email ∈ db.migratingEmails, email ≠ "" →
        ∃ stat ∈ (upgradedDb now db traffics).traffics, stat.email = email) ↔
      StatsPlaced db := by
  have whole : reached db.migrating = db.migrating :=
    List.takeWhile_eq_self_iff.mpr (List.all_eq_true.mp saved)
  constructor
  · intro covered stat member unplaced listed
    by_contra named
    obtain ⟨other, left, same⟩ := covered stat.email listed named
    obtain ⟨stored, placed⟩ := upgradedDb_traffics.mp left
    have old : backfillStat stat ∈ traffics :=
      added.kept _ (mem_backfilled.mpr ⟨stat, member, rfl⟩)
    have one : other = backfillStat stat := Table.eq_of_key_eq stored old same
    rw [one] at placed
    exact placed saved unplaced
  · intro placed email listed named
    obtain ⟨row, here, inRow⟩ := List.mem_flatMap.mp listed
    obtain ⟨stat, stored, rfl⟩ :=
      added.named row (whole.symm ▸ here) email inRow named
    refine ⟨stat, upgradedDb_traffics.mpr ⟨stored, fun _ unplaced => ?_⟩, rfl⟩
    rcases added.origin stat stored with old | ⟨row, here, client, rfl, -⟩
    · obtain ⟨first, member, rfl⟩ := mem_backfilled.mp old
      exact named (placed first member unplaced listed)
    · have inTable := List.mem_of_mem_filter
        ((List.takeWhile_sublist _).subset here)
      exact db.keyed row inTable unplaced

/-- The rows of the second run are those of the first exactly if they are
placed. -/
theorem again_traffics_iff {further : Traffics}
    (added : StatsAdded (reached db.migrating) (backfillAllTime db).traffics
      traffics)
    (again : StatsAdded (reached (upgradedDb now db traffics).migrating)
      (backfillAllTime (upgradedDb now db traffics)).traffics further) :
    (upgradedDb later (upgradedDb now db traffics) further).traffics =
        (upgradedDb now db traffics).traffics ↔
      (db.saves → StatsPlaced db) := by
  rw [backfilled_traffics added] at again
  -- Nothing is added, and nothing is deleted that was not before.
  have settled (covered : ∀ row ∈ reached (upgradedDb now db traffics).migrating,
      ∀ email ∈ emails row.settings, email ≠ "" →
        ∃ stat ∈ (upgradedDb now db traffics).traffics, stat.email = email) :
      (upgradedDb later (upgradedDb now db traffics) further).traffics =
        (upgradedDb now db traffics).traffics := by
    apply Table.ext_mem
    intro stat
    rw [upgradedDb_traffics, again.eq_of_covered covered, saves_upgradedDb]
    exact and_iff_left_of_imp fun member => (upgradedDb_traffics.mp member).2
  cases saved : db.saves with
  | false =>
      refine iff_of_true (settled ?_) nofun
      intro row member email listed named
      obtain ⟨first, here, inFirst⟩ :=
        mem_emails_reached.mp ⟨row, member, listed⟩
      obtain ⟨stat, stored, same⟩ := added.named first here email inFirst named
      refine ⟨stat, upgradedDb_traffics.mpr ⟨stored, fun saves => ?_⟩, same⟩
      rw [saved] at saves
      cases saves
  | true =>
      have whole : reached db.migrating = db.migrating :=
        List.takeWhile_eq_self_iff.mpr (List.all_eq_true.mp saved)
      rw [← covered_iff_placed saved added]
      constructor
      · intro same _ email listed named
        obtain ⟨row, here, inRow⟩ := List.mem_flatMap.mp listed
        obtain ⟨final, reachedFinal, inFinal⟩ := (@mem_emails_reached now db
          traffics email).mpr ⟨row, whole.symm ▸ here, inRow⟩
        obtain ⟨stat, stored, rfl⟩ :=
          again.named final reachedFinal email inFinal named
        rw [← same]
        refine ⟨stat, upgradedDb_traffics.mpr ⟨stored, fun _ => ?_⟩, rfl⟩
        rcases again.origin stat stored with
          old | ⟨row, inReached, client, rfl, -⟩
        · exact (upgradedDb_traffics.mp old).2 saved
        · have inTable := List.mem_of_mem_filter
            ((List.takeWhile_sublist _).subset inReached)
          exact (upgradedDb now db traffics).keyed row inTable
      · intro covered
        refine settled fun row member email listed named => ?_
        obtain ⟨first, here, inFirst⟩ :=
          mem_emails_reached.mp ⟨row, member, listed⟩
        rw [whole] at here
        exact covered rfl email
          (List.mem_flatMap.mpr ⟨first, here, inFirst⟩) named

theorem final_kept_iff (named : row.multiDomain → saves → row.DomainsNamed)
    (objects : row.migrates → saves → ObjectClients row.settings) :
    RowKept now row (row.final saves now) ↔
      CleanTag row.tag ∧
        (saves = false → ∀ items, ¬ row.DomainList items) ∧
          (saves → row.DomainsSettled ∧ (row.migrates → ∀ object,
            .obj object ∈ listedClients row.settings → SettledClient object)) := by
  cases saves with
  | true =>
      refine (rowKept_upgraded_iff (fun multi => named multi rfl)
        fun migrates => objects migrates rfl).trans ?_
      simp only [Bool.true_eq_false, false_implies, true_implies, true_and]
      tauto
  | false =>
      constructor
      · intro kept
        refine ⟨kept.tag, fun _ items list => ?_, nofun⟩
        have gone := (kept.moved items list).gone
        exact absurd (list.listed.symm.trans gone) nofun
      · rintro ⟨clean, waiting, -⟩
        exact ⟨fun items list => absurd list (waiting rfl items), fun _ => rfl,
          clean, List.forall₂_same.mpr fun _ _ => .same⟩

theorem final_restamped_iff (clock : Settled (.int now))
    (named : row.multiDomain → saves → row.DomainsNamed)
    (objects : row.migrates → saves → ObjectClients row.settings) :
    RowRestamped (row.final saves now) ((row.final saves now).final saves later) ↔
      (saves → row.migrates → ∀ object,
        .obj object ∈ listedClients row.settings →
          SettledTgId (JsonObject.get? object "tgId")) := by
  cases saves with
  | true =>
      refine (rowRestamped_upgraded_iff (fun multi => named multi rfl)
        (fun migrates => objects migrates rfl) clock).trans ?_
      simp only [true_implies]
  | false =>
      refine iff_of_true ⟨?_, restampedSettings_refl⟩ nofun
      change { backfillRow (backfillRow row) with
        settings := (backfillRow row).settings } = backfillRow row
      rw [backfillRow_idem]

end Tables

/-! The migration. -/

/-- What is asked of the migration and of a second one. -/
structure MeaningKept (now later : Int) (before : UpgradeDb) : Prop where
  returned : (migrationRequirements now before).2 = .returned
  rows : List.Forall₂ (RowKept now) before.inbounds.rows
    (migrationRequirements now before).1.inbounds.rows
  again : (migrationRequirements later
    (migrationRequirements now before).1).2 = .returned
  sameRows : List.Forall₂ RowRestamped
    (migrationRequirements now before).1.inbounds.rows
    (migrationRequirements later
      (migrationRequirements now before).1).1.inbounds.rows
  sameTraffics : (migrationRequirements later
      (migrationRequirements now before).1).1.traffics =
    (migrationRequirements now before).1.traffics

/-- The tables on which the migration does what is asked.  Where it stops before
its later steps, there has to be nothing for them to do. -/
structure MigratesWell (db : UpgradeDb) : Prop where
  objects : ClientsAreObjects db
  tags : ∀ row ∈ db.inbounds, CleanTag row.tag
  waiting : db.saves = false → ∀ row ∈ db.inbounds, ∀ items,
    ¬ row.DomainList items
  domains : db.saves → ∀ row ∈ db.inbounds, row.DomainsSettled
  clients : db.saves → ∀ row ∈ db.inbounds, row.migrates → ∀ object,
    .obj object ∈ listedClients row.settings →
      SettledClient object ∧ SettledTgId (JsonObject.get? object "tgId")
  placed : db.saves → StatsPlaced db

theorem domainsNamed_of_settled {row : UpgradeRow} (multi : row.multiDomain)
    (settled : row.DomainsSettled) : row.DomainsNamed := by
  obtain ⟨items, found, each⟩ := settled multi
  intro domains listed given same fields member
  obtain rfl := Option.some.inj (found.symm.trans listed)
  obtain rfl := Json.arr.inj same
  exact (each _ member).1

section Meaning

variable {now later : Int} {db : UpgradeDb}

/-- Without a panic the second run goes the way of the first. -/
theorem meaningKept_iff_of_sound (objects : ClientsAreObjects db) (named : db.saves → db.DomainsNamed) :
    MeaningKept now later db ↔
      (∀ row ∈ db.inbounds, RowKept now row (row.final db.saves now)) ∧
      (∀ row ∈ db.inbounds, RowRestamped (row.final db.saves now)
        ((row.final db.saves now).final db.saves later)) ∧
      (db.saves → StatsPlaced db) := by
  obtain ⟨traffics, added, ran⟩ := @migrationRequirements_of_sound now db
    objects named
  have namedAgain : (upgradedDb now db traffics).saves →
      (upgradedDb now db traffics).DomainsNamed := by
    intro saves
    rw [saves_upgradedDb] at saves
    exact domainsNamed_upgradedDb saves (named saves)
  obtain ⟨further, again, ranAgain⟩ := @migrationRequirements_of_sound later _
    (clientsAreObjects_upgradedDb objects) namedAgain
  have rows : List.Forall₂ (RowKept now) db.inbounds.rows
      (upgradedDb now db traffics).inbounds.rows ↔
        ∀ row ∈ db.inbounds, RowKept now row (row.final db.saves now) := by
    rw [rows_upgradedDb, List.forall₂_map_right_iff, List.forall₂_same]
    rfl
  have sameRows : List.Forall₂ RowRestamped
      (upgradedDb now db traffics).inbounds.rows
      (upgradedDb later (upgradedDb now db traffics) further).inbounds.rows ↔
        ∀ row ∈ db.inbounds, RowRestamped (row.final db.saves now)
          ((row.final db.saves now).final db.saves later) := by
    rw [@rows_upgradedDb later, saves_upgradedDb, rows_upgradedDb, List.map_map,
      List.forall₂_map_left_iff, List.forall₂_map_right_iff, List.forall₂_same]
    rfl
  rw [← rows, ← sameRows, ← @again_traffics_iff now later db traffics further
    added again]
  constructor
  · rintro ⟨-, kept, -, restamped, same⟩
    rw [ran] at kept restamped same
    rw [ranAgain] at restamped same
    exact ⟨kept, restamped, same⟩
  · rintro ⟨kept, restamped, same⟩
    refine ⟨by rw [ran], by rwa [ran], by rw [ran, ranAgain], ?_, ?_⟩
    · rwa [ran, ranAgain]
    · rwa [ran, ranAgain]

end Meaning

/-- The migration keeps the meaning of the tables and is idempotent exactly on
these tables, above all those without a tag to mend. -/
theorem migration_keeps_meaning_iff (now later : Int) (db : UpgradeDb)
    (clock : now.natAbs < 2 ^ 53) :
    MeaningKept now later db ↔ MigratesWell db := by
  have settled : Settled (.int now) := printFloat_of_lt clock
  have reachedAll (saves : db.saves) : reached db.migrating = db.migrating :=
    List.takeWhile_eq_self_iff.mpr (List.all_eq_true.mp saves)
  have rowObjects (objects : ClientsAreObjects db) :
      ∀ row ∈ db.inbounds, row.migrates → db.saves →
        ObjectClients row.settings := by
    intro row member migrates saves
    apply objects
    rw [reachedAll saves]
    exact List.mem_filter.mpr ⟨member, migrates⟩
  constructor
  · intro kept
    obtain ⟨objects, named⟩ := migrationRequirements_returned_iff.mp kept.returned
    obtain ⟨rows, restamped, placed⟩ :=
      (meaningKept_iff_of_sound objects named).mp kept
    have each (row : UpgradeRow) (member : row ∈ db.inbounds) :=
      (final_kept_iff (fun multi saves => named saves row member multi)
        (rowObjects objects row member)).mp (rows row member)
    refine ⟨objects, fun row member => (each row member).1,
      fun unsaved row member => (each row member).2.1 unsaved,
      fun saves row member => ((each row member).2.2 saves).1, ?_, placed⟩
    intro saves row member migrates object listed
    refine ⟨((each row member).2.2 saves).2 migrates object listed, ?_⟩
    exact (final_restamped_iff settled
      (fun multi saves => named saves row member multi)
      (rowObjects objects row member)).mp (restamped row member) saves migrates
        object listed
  · intro well
    have named (saves : db.saves) : db.DomainsNamed := fun row member multi =>
      domainsNamed_of_settled multi (well.domains saves row member)
    refine (meaningKept_iff_of_sound well.objects named).mpr
      ⟨fun row member => ?_, fun row member => ?_, well.placed⟩
    · refine (final_kept_iff (fun multi saves => named saves row member multi)
        (rowObjects well.objects row member)).mpr ⟨well.tags row member,
          fun unsaved => well.waiting unsaved row member, fun saves =>
            ⟨well.domains saves row member, fun migrates object listed => ?_⟩⟩
      exact (well.clients saves row member migrates object listed).1
    · refine (final_restamped_iff settled
        (fun multi saves => named saves row member multi)
        (rowObjects well.objects row member)).mpr
          fun saves migrates object listed => ?_
      exact (well.clients saves row member migrates object listed).2

/-! A trojan inbound with a domain, under a tag that says where it listens. -/

theorem settled_get?_of_fields {object : JsonObject}
    (settled : ∀ field ∈ object, Settled field.2) {key : String} :
    ∀ value ∈ object.get? key, Settled value := by
  intro value found
  unfold JsonObject.get? at found
  have listed : ∃ field ∈ object.reverse, field.2 = value := by
    generalize object.reverse = fields at found
    induction fields with
    | nil => cases found
    | cons field fields induction =>
        rw [List.lookup_cons] at found
        split at found
        · exact ⟨field, List.mem_cons_self, Option.some.inj found⟩
        · obtain ⟨other, member, same⟩ := induction found
          exact ⟨other, List.mem_cons_of_mem _ member, same⟩
  obtain ⟨field, member, rfl⟩ := listed
  exact settled field (List.mem_reverse.mp member)

def tulipClient : JsonObject := [("email", .str "ann"), ("password", .str "tulip")]

def plainDomain : JsonObject := [("domain", .str "a.example")]

def domainStream : JsonObject :=
  [("security", .str "tls"),
    ("tlsSettings", .obj [("settings", .obj
      [("domains", .arr [.obj plainDomain])])])]

def taggedRow (tag : String) : UpgradeRow where
  id := 1
  listen := ""
  port := 443
  protocol := .trojan
  settings := .parsed (.obj [("clients", .arr [.obj tulipClient])])
  enable := true
  tag := tag
  up := 0
  down := 0
  allTime := 0
  total := 0
  expiryTime := 0
  streamSettings := .parsed (.obj domainStream)

def taggedDb (tag : String) : UpgradeDb where
  inbounds := Table.empty.save (taggedRow tag)
  keyed := by
    intro row member
    rcases Table.mem_save.mp member with rfl | ⟨old, -⟩
    · change (1 : Int) ≠ 0
      decide
    · exact absurd old Table.not_mem_empty
  traffics := Table.empty

theorem mem_taggedDb {tag : String} {row : UpgradeRow} :
    row ∈ (taggedDb tag).inbounds ↔ row = taggedRow tag := by
  unfold taggedDb
  rw [Table.mem_save]
  simp [Table.not_mem_empty]

theorem clean_tag_migrates :
    MeaningKept 1700000000000 1800000000000 (taggedDb "inbound-443") := by
  refine (migration_keeps_meaning_iff 1700000000000 1800000000000
    (taggedDb "inbound-443") (by decide)).mpr ⟨?_, ?_, ?_, ?_, ?_, ?_⟩
  · intro row member items stored
    have listed := (List.takeWhile_sublist _).subset member
    obtain rfl := mem_taggedDb.mp (List.mem_of_mem_filter listed)
    exact ⟨[tulipClient], (Json.arr.inj stored).symm⟩
  · intro row member
    obtain rfl := mem_taggedDb.mp member
    unfold CleanTag
    decide +kernel
  · intro unsaved
    have saved : (taggedDb "inbound-443").saves = true := by decide +kernel
    rw [saved] at unsaved
    cases unsaved
  · intro _ row member _
    obtain rfl := mem_taggedDb.mp member
    refine ⟨[.obj plainDomain], rfl, List.forall_mem_singleton.mpr
      ⟨⟨"a.example", rfl⟩, ?_⟩⟩
    intro fields same key _
    obtain rfl := Json.obj.inj same
    refine settled_get?_of_fields fun field member => ?_
    obtain rfl := List.mem_singleton.mp member
    rfl
  · intro _ row member _ object listed
    obtain rfl := mem_taggedDb.mp member
    obtain rfl := Json.obj.inj (List.mem_singleton.mp listed)
    refine ⟨fun key _ => settled_get?_of_fields ?_, nofun⟩
    intro field member
    rcases List.mem_cons.mp member with rfl | member
    · rfl
    · obtain rfl := List.mem_singleton.mp member
      rfl
  · exact fun _ _ stored => absurd stored Table.not_mem_empty

/-- The statement on the tags is never run. -/
theorem wildcard_tag_stays :
    (migrationRequirements 0 (taggedDb "inbound-0.0.0.0:443")).1.inbounds.rows.map
        (·.tag) = ["inbound-0.0.0.0:443"] ∧
      ¬ MeaningKept 0 0 (taggedDb "inbound-0.0.0.0:443") := by
  have stays : (migrationRequirements 0
      (taggedDb "inbound-0.0.0.0:443")).1.inbounds.rows.map (·.tag) =
        ["inbound-0.0.0.0:443"] := by decide +kernel
  refine ⟨stays, fun kept => ?_⟩
  have clean : ∀ tag ∈ (migrationRequirements 0
      (taggedDb "inbound-0.0.0.0:443")).1.inbounds.rows.map (·.tag),
        CleanTag tag := by
    refine List.forall_mem_map.mpr fun row member => ?_
    obtain ⟨old, -, same⟩ := mem_right_of_forall₂ kept.rows member
    exact same.tag
  rw [stays, List.forall_mem_singleton] at clean
  unfold CleanTag at clean
  exact absurd clean (by decide +kernel)

end VpnUi.Store
