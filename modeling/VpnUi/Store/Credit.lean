import Mathlib.Algebra.BigOperators.Group.List.Basic
import VpnUi.Store.MirrorTraffic

namespace VpnUi.Store

open Foundation Panel

/-! What a batch of counted bytes adds to the rows of its accounts. -/

/-- `XrayTrafficJob` puts the bytes that the core counted before those of the
five collections. -/
def jobBatch (xray l2tp pptp openvpn openconnect sstp : List ClientBytes) :
    List ClientBytes :=
  xray ++ l2tp ++ pptp ++ openvpn ++ openconnect ++ sstp

/-- The database after `addClientTraffic`, unless it panics. -/
def credit (now : Int) (batch : List ClientBytes) (database : Database) :
    Option Database :=
  (addClientTraffic now batch database).map fun statements =>
    (Call.run database Call.noFaults 0 statements database).2

def entriesOf (batch : List ClientBytes) (email : String) :
    List ClientBytes :=
  batch.filter (·.email = email)

/-- Two rows differ in their expiry only. -/
def SameButExpiry (row other : ClientTraffic) : Prop :=
  ∃ expiry, other = { row with expiryTime := expiry }

theorem SameButExpiry.refl (row : ClientTraffic) : SameButExpiry row row :=
  ⟨row.expiryTime, rfl⟩

theorem SameButExpiry.trans {row other third : ClientTraffic}
    (first : SameButExpiry row other) (second : SameButExpiry other third) :
    SameButExpiry row third := by
  obtain ⟨_, rfl⟩ := first
  obtain ⟨expiry, rfl⟩ := second
  exact ⟨expiry, rfl⟩

section Adjust

variable {now : Int} {rows started : List ClientTraffic}

theorem sameButExpiry_refl (rows : List ClientTraffic) :
    List.Forall₂ SameButExpiry rows rows :=
  List.forall₂_same.mpr fun row _ => .refl row

theorem sameButExpiry_trans {first second third : List ClientTraffic}
    (before : List.Forall₂ SameButExpiry first second)
    (after : List.Forall₂ SameButExpiry second third) :
    List.Forall₂ SameButExpiry first third := by
  induction before generalizing third with
  | nil => exact after
  | cons head _ induction =>
      cases after with
      | cons next later => exact .cons (head.trans next) (induction later)

theorem adjustClient_sameButExpiry {client adjusted : JsonObject}
    (ran : adjustClient now rows client = some (adjusted, started)) :
    List.Forall₂ SameButExpiry rows started := by
  unfold adjustClient at ran
  split at ran
  · obtain ⟨-, rfl⟩ := Prod.mk.inj (Option.some.inj ran)
    exact sameButExpiry_refl rows
  next row found =>
    obtain ⟨old, -, same⟩ := Option.map_eq_some_iff.mp ran
    obtain ⟨-, rfl⟩ := Prod.mk.inj same
    apply List.forall₂_map_right_iff.mpr
    refine List.forall₂_same.mpr fun other _ => ?_
    split
    · exact ⟨_, rfl⟩
    · exact .refl other

theorem adjustItems_sameButExpiry {items adjusted : List Json}
    (ran : adjustItems now items rows = some (adjusted, started)) :
    List.Forall₂ SameButExpiry rows started := by
  induction items generalizing rows adjusted with
  | nil =>
      obtain ⟨-, rfl⟩ := Prod.mk.inj (Option.some.inj ran)
      exact sameButExpiry_refl rows
  | cons item rest induction =>
      cases item with
      | obj client =>
          simp only [adjustItems, bind, Option.bind_eq_some_iff] at ran
          obtain ⟨⟨head, between⟩, headRan, ⟨tail, after⟩, tailRan, same⟩ := ran
          obtain ⟨-, rfl⟩ := Prod.mk.inj (Option.some.inj same)
          exact sameButExpiry_trans (adjustClient_sameButExpiry headRan)
            (induction tailRan)
      | _ => cases ran

theorem adjustInbounds_sameButExpiry {loaded adjusted : List StoredInbound}
    (ran : adjustInbounds now loaded rows = some (adjusted, started)) :
    List.Forall₂ SameButExpiry rows started := by
  induction loaded generalizing rows adjusted with
  | nil =>
      obtain ⟨-, rfl⟩ := Prod.mk.inj (Option.some.inj ran)
      exact sameButExpiry_refl rows
  | cons row rest induction =>
      simp only [adjustInbounds, bind, Option.bind_eq_some_iff] at ran
      obtain ⟨⟨head, between⟩, headRan, ⟨tail, after⟩, tailRan, same⟩ := ran
      obtain ⟨-, rfl⟩ := Prod.mk.inj (Option.some.inj same)
      refine sameButExpiry_trans ?_ (induction tailRan)
      unfold adjustInbound at headRan
      split at headRan
      · obtain ⟨⟨items, last⟩, itemsRan, same⟩ :=
          Option.map_eq_some_iff.mp headRan
        obtain ⟨-, rfl⟩ := Prod.mk.inj same
        exact adjustItems_sameButExpiry itemsRan
      · obtain ⟨-, rfl⟩ := Prod.mk.inj (Option.some.inj headRan)
        exact sameButExpiry_refl rows

end Adjust

section Credit

variable {now : Int} {batch : List ClientBytes} {database after : Database}
  {row : ClientTraffic}

theorem credit_eq_some :
    credit now batch database = some after ↔ ∃ inbounds rows,
      adjustTraffics now database (database.traffics.rows.filter fun row =>
        row.email ∈ batch.map ClientBytes.email) = some (inbounds, rows) ∧
      after = (database.saveInbounds inbounds).saveStats
        (rows.map (addBytes now batch)) := by
  simp only [credit, addClientTraffic, Option.map_map, Option.map_eq_some_iff,
    Prod.exists]
  refine exists_congr fun inbounds => exists_congr fun rows => ?_
  exact and_congr_right fun _ => eq_comm

theorem addBytes_of_not_mem (absent : row.email ∉ batch.map ClientBytes.email) :
    addBytes now batch row = row := by
  have missing : batch.find? (·.email = row.email) = none := by
    rw [List.find?_eq_none]
    intro entry member same
    exact absent (List.mem_map.mpr ⟨entry, member, of_decide_eq_true same⟩)
  rw [addBytes, missing]

/-- Each row gets the bytes of the first entry with its e-mail. -/
theorem find?_credited (ran : credit now batch database = some after)
    (stored : row ∈ database.traffics) :
    ∃ started, SameButExpiry row started ∧
      after.traffics.find? row.email = some (addBytes now batch started) ∧
      (row.email ∉ batch.map ClientBytes.email → started = row) := by
  obtain ⟨inbounds, rows, adjusted, rfl⟩ := credit_eq_some.mp ran
  have same := adjustInbounds_sameButExpiry adjusted
  have emails : (rows.map (addBytes now batch)).map ClientTraffic.email =
      (database.traffics.rows.filter fun row =>
        row.email ∈ batch.map ClientBytes.email).map ClientTraffic.email := by
    rw [List.map_map]
    generalize (database.traffics.rows.filter fun row =>
      row.email ∈ batch.map ClientBytes.email) = selected at same
    clear ran adjusted
    induction same with
    | nil => rfl
    | cons head _ induction =>
        obtain ⟨expiry, rfl⟩ := head
        rw [List.map_cons, List.map_cons, induction, Function.comp_apply,
          (addBytes_fields now batch _).1]
  have distinct : ((rows.map (addBytes now batch)).map
      ClientTraffic.email).Nodup := emails ▸ Table.nodup_keys
  by_cases counted : row.email ∈ batch.map ClientBytes.email
  · have selected : row ∈ database.traffics.rows.filter fun row =>
        row.email ∈ batch.map ClientBytes.email :=
      List.mem_filter.mpr ⟨stored, decide_eq_true counted⟩
    obtain ⟨started, member, expiry, rfl⟩ := mem_left_of_forall₂ same selected
    refine ⟨_, ⟨expiry, rfl⟩, Table.find?_eq_some.mpr ⟨?_, ?_⟩,
      fun absent => absurd counted absent⟩
    · exact (Table.mem_foldl_save distinct).mpr
        (.inl (List.mem_map_of_mem member))
    · exact (addBytes_fields now batch _).1
  · refine ⟨row, .refl row, ?_, fun _ => rfl⟩
    rw [addBytes_of_not_mem counted]
    refine Table.find?_eq_some.mpr
      ⟨(Table.mem_foldl_save distinct).mpr (.inr ⟨stored, ?_⟩), rfl⟩
    rw [emails]
    intro listed
    obtain ⟨other, selected, named⟩ := List.mem_map.mp listed
    have inBatch := of_decide_eq_true (List.mem_filter.mp selected).2
    exact counted (named ▸ inBatch)

/-- Every entry is counted, whatever the order. -/
structure CreditedInFull (now : Int) (batch : List ClientBytes)
    (database after : Database) : Prop where
  counted : ∀ row ∈ database.traffics, ∃ later,
    after.traffics.find? row.email = some later ∧
      later.up = row.up +
        ((entriesOf batch row.email).map ClientBytes.up).sum ∧
      later.down = row.down +
        ((entriesOf batch row.email).map ClientBytes.down).sum ∧
      later.allTime = row.allTime +
        ((entriesOf batch row.email).map fun entry =>
          entry.up + entry.down).sum
  untouched : ∀ row ∈ database.traffics,
    row.email ∉ batch.map ClientBytes.email →
      after.traffics.find? row.email = some row
  ordered : ∀ other : List ClientBytes, other.Perm batch →
    credit now other database = some after

/-- No stored account has several entries, unless they are all zero. -/
def ReportedOnce (batch : List ClientBytes) (database : Database) : Prop :=
  ∀ row ∈ database.traffics, (entriesOf batch row.email).length ≤ 1 ∨
    ∀ entry ∈ entriesOf batch row.email, entry.up = 0 ∧ entry.down = 0

theorem find?_eq_head? {email : String} :
    batch.find? (·.email = email) = (entriesOf batch email).head? :=
  List.head?_filter.symm

/-- Where the entries of an account are at most one, or zero, the first of
them counts for all. -/
theorem addBytes_of_reportedOnce {started : ClientTraffic}
    (once : (entriesOf batch started.email).length ≤ 1 ∨
      ∀ entry ∈ entriesOf batch started.email, entry.up = 0 ∧ entry.down = 0) :
    let later := addBytes now batch started
    later.up = started.up +
        ((entriesOf batch started.email).map ClientBytes.up).sum ∧
      later.down = started.down +
        ((entriesOf batch started.email).map ClientBytes.down).sum ∧
      later.allTime = started.allTime +
        ((entriesOf batch started.email).map fun entry =>
          entry.up + entry.down).sum := by
  intro later
  change (addBytes now batch started).up = _ ∧
    (addBytes now batch started).down = _ ∧
    (addBytes now batch started).allTime = _
  rw [addBytes, find?_eq_head?]
  generalize entriesOf batch started.email = entries at once
  cases entries with
  | nil => simp
  | cons first rest =>
      rcases once with single | zero
      · obtain rfl : rest = [] := List.eq_nil_of_length_eq_zero (by
          simpa using single)
        simp
      · have none : ∀ field : ClientBytes → Int,
            (∀ entry ∈ first :: rest, field entry = 0) →
              ((first :: rest).map field).sum = 0 := by
          intro field every
          apply List.sum_eq_zero
          intro number member
          obtain ⟨entry, inEntries, rfl⟩ := List.mem_map.mp member
          exact every entry inEntries
        obtain ⟨up, down⟩ := zero first List.mem_cons_self
        rw [none _ fun entry member => (zero entry member).1,
          none _ fun entry member => (zero entry member).2,
          none _ fun entry member => by
            rw [(zero entry member).1, (zero entry member).2, Int.add_zero]]
        simp [up, down]

/-- Another order of such entries gives the row the same bytes. -/
theorem addBytes_of_perm {other : List ClientBytes} (shuffled : other.Perm batch)
    {started : ClientTraffic}
    (once : (entriesOf batch started.email).length ≤ 1 ∨
      ∀ entry ∈ entriesOf batch started.email, entry.up = 0 ∧ entry.down = 0) :
    addBytes now other started = addBytes now batch started := by
  have entries : (entriesOf other started.email).Perm
      (entriesOf batch started.email) := shuffled.filter _
  rw [addBytes, addBytes, find?_eq_head?, find?_eq_head?]
  generalize entriesOf batch started.email = right at once entries
  generalize entriesOf other started.email = left at entries
  rcases once with single | zero
  · have same : left = right := by
      match right, single, entries with
      | [], _, entries => exact List.perm_nil.mp entries
      | [entry], _, entries => exact List.perm_singleton.mp entries
    rw [same]
  · cases right with
    | nil => rw [List.perm_nil.mp entries]
    | cons first rest =>
        cases left with
        | nil => exact absurd entries.symm (by simp)
        | cons head tail =>
            obtain ⟨headUp, headDown⟩ :=
              zero head (entries.mem_iff.mp List.mem_cons_self)
            obtain ⟨firstUp, firstDown⟩ := zero first List.mem_cons_self
            simp only [List.head?_cons, headUp, headDown, firstUp, firstDown]

/-- Each entry of an account can come first, so that all of them are equal to
their sum. -/
theorem eq_sum_of_creditedInFull (full : CreditedInFull now batch database after)
    (stored : row ∈ database.traffics) {entry : ClientBytes}
    (member : entry ∈ entriesOf batch row.email) :
    entry.up = ((entriesOf batch row.email).map ClientBytes.up).sum ∧
      entry.down = ((entriesOf batch row.email).map ClientBytes.down).sum := by
  obtain ⟨inBatch, named⟩ := List.mem_filter.mp member
  obtain ⟨before, behind, rfl⟩ := List.append_of_mem inBatch
  obtain ⟨started, ⟨expiry, rfl⟩, found, -⟩ :=
    find?_credited (full.ordered _ List.perm_middle.symm) stored
  obtain ⟨later, foundLater, up, down, -⟩ := full.counted row stored
  obtain rfl := Option.some.inj (found.symm.trans foundLater)
  have first : (entry :: (before ++ behind)).find? (·.email = row.email) =
      some entry := List.find?_cons_of_pos named
  rw [addBytes, first] at up down
  constructor
  · exact Int.add_left_cancel up
  · exact Int.add_left_cancel down

end Credit

def annsAccount : ClientTraffic where
  inboundId := 1
  email := "ann"
  enable := true
  up := 0
  down := 0
  allTime := 0
  expiryTime := 0
  total := 0
  reset := 0
  lastOnline := 0

def annsDatabase : Database where
  inbounds := Table.empty
  traffics := Table.empty.save annsAccount
  ips := Table.empty

end VpnUi.Store
