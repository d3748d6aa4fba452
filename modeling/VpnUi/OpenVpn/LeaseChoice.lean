import VpnUi.OpenVpn.ConnectHook

namespace VpnUi.OpenVpn

/-! Which addresses the decision of a connect hook can push. -/

section Best

variable {Entry : Type*} {start : Entry → Prop} [DecidablePred start]
  {better : Entry → Entry → Prop} [DecidableRel better]

/-- One step of a search for the best entry. -/
def keepBest (start : Entry → Prop) [DecidablePred start]
    (better : Entry → Entry → Prop) [DecidableRel better]
    (best : Option Entry) (entry : Entry) : Option Entry :=
  match best with
  | none => if start entry then some entry else none
  | some old => if better entry old then some entry else some old

theorem mem_of_foldl_keepBest {entries : List Entry} {best : Option Entry}
    {entry : Entry}
    (found : entries.foldl (keepBest start better) best = some entry) :
    entry ∈ entries ∨ best = some entry := by
  induction entries generalizing best with
  | nil => exact .inr found
  | cons head tail induction =>
      rcases induction found with later | kept
      · exact .inl (List.mem_cons_of_mem head later)
      · cases best with
        | none =>
            rw [keepBest, Option.ite_none_right_eq_some] at kept
            rw [← Option.some.inj kept.2]
            exact .inl List.mem_cons_self
        | some old =>
            simp only [keepBest] at kept
            split at kept
            · rw [← Option.some.inj kept]
              exact .inl List.mem_cons_self
            · exact .inr kept

theorem foldl_keepBest_started (entries : List Entry) (old : Entry) :
    entries.foldl (keepBest start better) (some old) =
      some (entries.foldl
        (fun old entry => if better entry old then entry else old) old) := by
  induction entries generalizing old with
  | nil => rfl
  | cons head tail induction =>
      rw [List.foldl_cons, List.foldl_cons, ← induction]
      simp only [keepBest, apply_ite some]

theorem foldl_keepBest_eq_none {entries : List Entry} :
    entries.foldl (keepBest start better) none = none ↔
      ∀ entry ∈ entries, ¬ start entry := by
  induction entries with
  | nil => simp
  | cons head tail induction =>
      rw [List.foldl_cons, keepBest, List.forall_mem_cons]
      by_cases starts : start head
      · rw [if_pos starts, foldl_keepBest_started]
        constructor
        · intro missed
          cases missed
        · intro none
          exact absurd starts none.1
      · rw [if_neg starts, induction]
        exact (and_iff_right starts).symm

/-- The search goes through the image of its entries. -/
theorem foldl_keepBest_map {Other : Type*} {otherStart : Other → Prop} [DecidablePred otherStart]
    {otherBetter : Other → Other → Prop} [DecidableRel otherBetter]
    (image : Entry → Other) (entries : List Entry) (best : Option Entry)
    (starts : ∀ entry ∈ entries, otherStart (image entry) ↔ start entry)
    (betters : ∀ entry old, otherBetter (image entry) (image old) ↔
      better entry old) :
    (entries.map image).foldl (keepBest otherStart otherBetter)
        (best.map image) =
      (entries.foldl (keepBest start better) best).map image := by
  induction entries generalizing best with
  | nil => rfl
  | cons head tail induction =>
      rw [List.forall_mem_cons] at starts
      have first : keepBest otherStart otherBetter (best.map image)
          (image head) = (keepBest start better best head).map image := by
        cases best with
        | none =>
            simp only [Option.map_none, keepBest, starts.1,
              apply_ite (Option.map image), Option.map_some]
        | some old =>
            simp only [Option.map_some, keepBest, betters,
              apply_ite (Option.map image)]
      rw [List.map_cons, List.foldl_cons, List.foldl_cons, first,
        induction _ starts.2]

end Best

variable {candidates : List String} {rows : List StatusRow}
  {ages : List (String × Nat)} {used : Nat}

theorem ovpnOldestFromStatus_eq_foldl :
    ovpnOldestFromStatus rows candidates =
      (rows.filter (·.virtualAddress ∈ candidates)).foldl
        (keepBest (fun row : StatusRow => row.since < 2 ^ 62)
          fun row old => row.since < old.since) none := by
  unfold ovpnOldestFromStatus
  congr 1
  funext best row
  cases best <;> rfl

theorem oldestAbove_eq_foldl {floor : Nat} :
    oldestAbove floor ages =
      ages.foldl (keepBest (fun entry : String × Nat => floor < entry.2)
        fun entry old => old.2 < entry.2) none := by
  unfold oldestAbove
  congr 1
  funext best entry
  cases best <;> rfl

theorem ovpnOldestFromStatus_mem {row : StatusRow}
    (found : ovpnOldestFromStatus rows candidates = some row) :
    row.virtualAddress ∈ candidates := by
  rw [ovpnOldestFromStatus_eq_foldl] at found
  rcases mem_of_foldl_keepBest found with member | initial
  · simpa using (List.mem_filter.mp member).2
  · cases initial

theorem ovpnOldestFromStatus_eq_none :
    ovpnOldestFromStatus rows candidates = none ↔
      ∀ row ∈ rows, row.virtualAddress ∈ candidates → 2 ^ 62 ≤ row.since := by
  rw [ovpnOldestFromStatus_eq_foldl, foldl_keepBest_eq_none]
  simp only [List.mem_filter, decide_eq_true_eq, not_lt, and_imp]

theorem mem_of_oldestAbove {floor : Nat} {entry : String × Nat}
    (found : oldestAbove floor ages = some entry) : entry ∈ ages := by
  rw [oldestAbove_eq_foldl] at found
  rcases mem_of_foldl_keepBest found with member | initial
  · exact member
  · cases initial

theorem oldestAbove_eq_none {floor : Nat} :
    oldestAbove floor ages = none ↔ ∀ entry ∈ ages, entry.2 ≤ floor := by
  rw [oldestAbove_eq_foldl, foldl_keepBest_eq_none]
  simp only [not_lt]

/-- The age of the lease of an address that no connected device holds. -/
def abandonedAge (rows : List StatusRow) (ages : List (String × Nat))
    (ip : String) : Option (String × Nat) :=
  if ip ∈ ovpnStatusIPs rows then none else ages.find? (·.1 = ip)

theorem ghostLease_mem {ip : String}
    (found : ghostLease candidates rows ages = some ip) : ip ∈ candidates := by
  obtain ⟨entry, oldest, rfl⟩ := Option.map_eq_some_iff.mp found
  obtain ⟨candidate, member, abandoned⟩ :=
    List.mem_filterMap.mp (mem_of_oldestAbove oldest)
  rw [Option.ite_none_left_eq_some] at abandoned
  have named : entry.1 = candidate := by
    simpa using List.find?_some abandoned.2
  rw [named]
  exact member

theorem ghostLease_eq_none :
    ghostLease candidates rows ages = none ↔
      ∀ ip ∈ candidates, ∀ entry, abandonedAge rows ages ip = some entry →
        entry.2 ≤ leaseReclaimGrace := by
  rw [ghostLease, Option.map_eq_none_iff, oldestAbove_eq_none]
  simp only [List.mem_filterMap, forall_exists_index, and_imp]
  constructor
  · intro recent ip member entry abandoned
    exact recent entry ip member abandoned
  · intro recent entry ip member abandoned
    exact recent ip member entry abandoned

theorem freeCandidate_mem {ip : String}
    (found : freeCandidate candidates rows ages used = some ip) :
    ip ∈ candidates := by
  unfold freeCandidate at found
  split at found
  · exact List.mem_of_find?_eq_some found
  · cases found

theorem freeCandidate_eq_none :
    freeCandidate candidates rows ages used = none ↔
      candidates.length ≤ used ∨
        ∀ ip ∈ candidates, ip ∈ ovpnStatusIPs rows ++ ages.map Prod.fst := by
  unfold freeCandidate
  split
  next room =>
    rw [List.find?_eq_none]
    simp only [decide_not, Bool.not_eq_true', decide_eq_false_iff_not, not_not]
    exact (or_iff_right (not_le.mpr room)).symm
  next full => simp [not_lt.mp full]

/-- The address a verdict pushes. -/
def Verdict.address : Verdict → Option String
  | .lease ip => some ip
  | .evict ip _ => some ip
  | .reject => none

/-- A full account that accepts has no lease it may reclaim and no device in
the status file, and the oldest lease of the directory is another account's. -/
structure StealsLease (candidates : List String) (strategy : Strategy)
    (rows : List StatusRow) (ages : List (String × Nat)) (used : Nat) :
    Prop where
  accepts : strategy = .accept
  full : candidates.length ≤ used ∨
    ∀ ip ∈ candidates, ip ∈ ovpnStatusIPs rows ++ ages.map Prod.fst
  recent : ∀ ip ∈ candidates, ∀ entry, abandonedAge rows ages ip = some entry →
    entry.2 ≤ leaseReclaimGrace
  unlisted : ∀ row ∈ rows, row.virtualAddress ∈ candidates →
    2 ^ 62 ≤ row.since
  foreign : ∃ ip, oldestLeasedIP ages = some ip ∧ ip ∉ candidates

/-- The decision pushes an address of another account exactly when it takes a
lease of the directory for a device of its own. -/
theorem address_foreign_iff {strategy : Strategy} :
    (∃ ip, (ovpnDecide candidates strategy rows ages used).address = some ip ∧
      ip ∉ candidates) ↔ StealsLease candidates strategy rows ages used := by
  constructor
  · rintro ⟨ip, pushed, foreign⟩
    unfold ovpnDecide at pushed
    split at pushed
    next free found =>
      obtain rfl := Option.some.inj pushed
      exact absurd (freeCandidate_mem found) foreign
    next full =>
      split at pushed
      next accepts =>
        split at pushed
        next ghost found =>
          obtain rfl := Option.some.inj pushed
          exact absurd (ghostLease_mem found) foreign
        next recent =>
          split at pushed
          next row found =>
            obtain rfl := Option.some.inj pushed
            exact absurd (ovpnOldestFromStatus_mem found) foreign
          next unlisted =>
            split at pushed
            next oldest found =>
              obtain rfl := Option.some.inj pushed
              exact {
                accepts
                full := freeCandidate_eq_none.mp full
                recent := ghostLease_eq_none.mp recent
                unlisted := ovpnOldestFromStatus_eq_none.mp unlisted
                foreign := ⟨_, found, foreign⟩ }
            next => cases pushed
      next => cases pushed
  · rintro ⟨accepts, full, recent, unlisted, ip, oldest, foreign⟩
    refine ⟨ip, ?_, foreign⟩
    rw [ovpnDecide, freeCandidate_eq_none.mpr full, if_pos accepts,
      ghostLease_eq_none.mpr recent, ovpnOldestFromStatus_eq_none.mpr unlisted,
      oldest]
    rfl

end VpnUi.OpenVpn
