import VpnUi.Store.Enforced
import VpnUi.Store.TrafficCrash

namespace VpnUi.Store

open Foundation Panel

/-! Renewals: the expiry that a row gets when its period is over, and what the
same traffic pass makes of it. -/

/-- The loop of `autoRenewClients` on 64-bit numbers, if it ends within these
rounds. -/
def renewLoop (now period : Int) : Nat → Int → Option Int
  | 0, expiry => if expiry < now then none else some expiry
  | rounds + 1, expiry =>
      if expiry < now then
        renewLoop now period rounds (wrap64 (expiry + period))
      else some expiry

def renewalPeriod (row : ClientTraffic) : Int := row.reset * bulkMsPerDay

/-- The database that the renewals of an `AddTraffic` read. -/
def chargedFor (now : Int) (batch : TrafficBatch) (database : Database) :
    Option Database :=
  let counters := addInboundTraffic batch.inbounds
  let counted := (Call.run database Call.noFaults 0 counters database).2
  (addClientTraffic now batch.clients counted).map fun statements =>
    (Call.run database Call.noFaults counters.length statements counted).2

section Loop

variable {now period expiry : Int}

/-- Without overflows the loop stops at the first of the later expiries that is
not over. -/
theorem renewExpiry_eq_add (positive : 0 < period) {fuel : Nat}
    (enough : now - expiry ≤ fuel) :
    ∃ count : Nat,
      renewExpiry now period fuel expiry = expiry + count * period ∧
      now ≤ expiry + count * period ∧
      ∀ fewer : Nat, fewer < count → expiry + fewer * period < now := by
  induction fuel generalizing expiry with
  | zero =>
      refine ⟨0, by simp [renewExpiry], ?_, fun fewer less => nomatch less⟩
      simp at enough ⊢
      omega
  | succ fuel induction =>
      rw [renewExpiry]
      split
      next past =>
        have further : now - (expiry + period) ≤ fuel := by omega
        obtain ⟨count, same, reached, before⟩ := induction further
        have shift : ∀ many : Nat, expiry + period + many * period =
            expiry + (many + 1 : Nat) * period := by
          intro many
          rw [Int.natCast_succ, Int.add_mul, Int.one_mul]
          omega
        refine ⟨count + 1, same.trans (shift count), shift count ▸ reached, ?_⟩
        intro fewer less
        cases fewer with
        | zero => simpa using past
        | succ fewer =>
            rw [← shift]
            exact before fewer (Nat.lt_of_succ_lt_succ less)
      next reached =>
        exact ⟨0, by simp, by simpa using reached, fun fewer less =>
          nomatch less⟩

/-- The loop computes the same on 64-bit numbers if its result fits. -/
theorem renewLoop_eq_some (positive : 0 < period) (started : 0 < expiry)
    {fuel : Nat} (enough : now - expiry ≤ fuel)
    (fits : Json.Int64 (renewExpiry now period fuel expiry)) :
    renewLoop now period fuel expiry =
      some (renewExpiry now period fuel expiry) := by
  induction fuel generalizing expiry with
  | zero => exact if_neg (by omega)
  | succ fuel induction =>
      rw [renewExpiry] at fits ⊢
      rw [renewLoop]
      split
      next past =>
        rw [if_pos past] at fits
        have below := @le_renewExpiry now _ positive fuel (expiry + period)
        have high := fits.2
        have sum : wrap64 (expiry + period) = expiry + period :=
          wrap64_eq_self ⟨by omega, by omega⟩
        rw [sum]
        exact induction (by omega) (by omega) fits
      next => rfl

theorem int64_of_renewLoop {rounds : Nat} {renewed : Int}
    (ends : renewLoop now period rounds expiry = some renewed)
    (later : renewed ≠ expiry) : Json.Int64 renewed := by
  have fits : renewed = expiry ∨ Json.Int64 renewed := by
    clear later
    induction rounds generalizing expiry with
    | zero =>
        rw [renewLoop] at ends
        split at ends
        · cases ends
        · exact .inl (Option.some.inj ends).symm
    | succ rounds induction =>
        rw [renewLoop] at ends
        split at ends
        · rcases induction ends with rfl | fits
          · exact .inr (int64_wrap64 _)
          · exact .inr fits
        · exact .inl (Option.some.inj ends).symm
  exact fits.resolve_left later

end Loop

section Pass

variable {now : Int} {batch : TrafficBatch} {database charged : Database}
  {row : ClientTraffic} {inbound : StoredInbound}

/-- The end of an `AddTraffic`, from the database that its renewals read. -/
theorem addTraffic_of_charged
    (read : chargedFor now batch database = some charged) :
    (addTraffic now batch Call.noFaults database).2 =
      match autoRenewClients now charged with
      | none => charged
      | some statements =>
          ((Call.run database Call.noFaults
              ((addInboundTraffic batch.inbounds).length + 2) statements
              charged).2.disableInvalidClients now).disableInvalidInbounds
            now := by
  rw [chargedFor] at read
  rw [addTraffic, run_addInboundTraffic]
  rw [run_addInboundTraffic] at read
  dsimp only at read ⊢
  rw [trafficPasses]
  obtain ⟨statements, found, rfl⟩ := Option.map_eq_some_iff.mp read
  rw [found]
  dsimp only
  cases autoRenewClients now _ <;> rfl

/-- What the renewals write if they do not panic. -/
theorem run_autoRenewClients {statements : List Statement} {number : Nat}
    (collected : autoRenewClients now charged = some statements)
    (loaded : inbound ∈ charged.inbounds) (stored : row ∈ charged.traffics)
    (selected : isRenewable now row = true)
    (owner : row.inboundId = inbound.id) :
    let rows := charged.traffics.rows.filter (isRenewable now)
    ∃ saved, List.Forall₂ (fun row later =>
        renewInbound now rows row = some later)
        (renewalInbounds rows charged) saved ∧
      (Call.run database Call.noFaults number statements charged).2 =
        (charged.saveInbounds saved).saveStats (rows.map fun row =>
          if row.email ∈ (renewalInbounds rows charged).flatMap inboundEmails
          then renewRow now row else row) := by
  intro rows
  obtain ⟨saved, converted, rfl⟩ := Option.map_eq_some_iff.mp collected
  have related := forall₂_of_mapM converted
  have listed : inbound ∈ renewalInbounds rows charged := by
    refine List.mem_filter.mpr ⟨loaded, ?_⟩
    rw [decide_eq_true_eq, ← owner]
    exact List.mem_map_of_mem (mem_renewable.mpr ⟨stored, selected⟩)
  obtain ⟨later, member, -⟩ := mem_left_of_forall₂ related listed
  refine ⟨saved, related, ?_⟩
  rw [if_neg (List.ne_nil_of_mem member)]
  rfl

/-- The row and the settings of the client after a pass that did not panic. -/
theorem renewed_of_isSome
    (read : chargedFor now batch database = some charged)
    (typed : (autoRenewClients now charged).isSome = true)
    (stored : row ∈ charged.traffics)
    (selected : isRenewable now row = true)
    (loaded : inbound ∈ charged.inbounds) (owner : row.inboundId = inbound.id)
    (listed : ∃ item ∈ clientItems inbound, HasEmail item row.email) :
    let after := (addTraffic now batch Call.noFaults database).2
    after.traffics.find? row.email =
        some (disableDepleted now (renewRow now row)) ∧
      ∃ later ∈ after.inbounds, later.id = inbound.id ∧
        ∀ (index : Nat) client, (clientItems inbound)[index]? =
            some (.obj client) →
          JsonObject.get client "email" = .str row.email →
            (clientItems later)[index]? =
              some (.obj (setExpiry client (renewedExpiry now row))) := by
  intro after
  obtain ⟨statements, collected⟩ := Option.isSome_iff_exists.mp typed
  have whole := addTraffic_of_charged read
  rw [collected] at whole
  dsimp only at whole
  obtain ⟨saved, related, ran⟩ :=
    @run_autoRenewClients now database charged row inbound statements
      ((addInboundTraffic batch.inbounds).length + 2) collected loaded stored
      selected owner
  rw [ran] at whole
  have member := mem_renewable.mpr ⟨stored, selected⟩
  have ownInbound : inbound ∈ renewalInbounds
      (charged.traffics.rows.filter (isRenewable now)) charged := by
    refine List.mem_filter.mpr ⟨loaded, ?_⟩
    rw [decide_eq_true_eq, ← owner]
    exact List.mem_map_of_mem member
  have named : row.email ∈ (renewalInbounds
      (charged.traffics.rows.filter (isRenewable now)) charged).flatMap
        inboundEmails := by
    refine List.mem_flatMap.mpr ⟨inbound, ownInbound, ?_⟩
    obtain ⟨item, inItems, client, rfl, text⟩ := listed
    rw [inboundEmails_eq]
    refine List.mem_map.mpr ⟨_, inItems, ?_⟩
    change emailOf client = row.email
    rw [emailOf, text]
    rfl
  constructor
  · change Table.find? (addTraffic now batch Call.noFaults database).2.traffics
      row.email = _
    rw [whole]
    change (Table.mapRows _ (disableDepleted now)
      (disableDepleted_email now)).find? row.email = _
    rw [Table.find?_mapRows]
    refine (congrArg (Option.map _) (Table.find?_eq_some.mpr ⟨?_, ?_⟩)).trans
      (Option.map_some (renewRow now row) _)
    · refine (mem_foldl_save_map Table.nodup_keys fun other => ?_).mpr
        ⟨row, ?_, ?_⟩
      · split <;> rfl
      · change row ∈ List.foldl Table.save charged.traffics _
        rw [Table.foldl_save_eq_self fun other inRows =>
          (mem_renewable.mp inRows).1]
        exact stored
      · rw [if_pos (List.mem_map_of_mem member), if_pos named]
    · rfl
  · obtain ⟨later, inSaved, renewed⟩ := mem_left_of_forall₂ related ownInbound
    obtain ⟨items, converted, rfl⟩ := renewInbound_eq_some renewed
    have ids : (saved.map (·.id)).Nodup :=
      renewInbound_ids related ▸ Table.nodup_keys
    refine ⟨disableInbound now (withItems inbound (.arr items)), ?_,
      disableInbound_id now _, ?_⟩
    · change _ ∈ (addTraffic now batch Call.noFaults database).2.inbounds
      rw [whole]
      refine (@Table.mem_mapRows _ _ _ _ _ _ (disableInbound_id now) _).mpr ?_
      exact ⟨_, (Table.mem_foldl_save ids).mpr (.inl inSaved), rfl⟩
    · intro index client found text
      have same : clientItems (disableInbound now
          (withItems inbound (.arr items))) = items := by
        refine Eq.trans ?_ (clientItems_withItems inbound items)
        unfold disableInbound
        split <;> rfl
      obtain ⟨item, atIndex, converts⟩ := getElem?_of_forall₂ converted found
      have found : (charged.traffics.rows.filter (isRenewable now)).find?
          (·.email = row.email) = some row :=
        (@Table.find?_eq_some _ _ _ _
          (charged.traffics.filter (isRenewable now)) _ _).mpr ⟨member, rfl⟩
      rw [same, atIndex]
      rw [renewItem, text] at converts
      dsimp only at converts
      rw [found] at converts
      exact converts.symm

/-- A row and its client are renewed up to this time. -/
structure RenewedTo (now : Int) (row : ClientTraffic)
    (inbound : StoredInbound) (after : Database) (renewed : Int) : Prop where
  ends : ∃ rounds, renewLoop now (wrap64 (renewalPeriod row)) rounds
    row.expiryTime = some renewed
  reached : now < renewed
  least : ∃ count : Nat, 1 ≤ count ∧
    renewed = row.expiryTime + count * renewalPeriod row ∧
    ∀ fewer : Nat, 1 ≤ fewer →
      now < row.expiryTime + fewer * renewalPeriod row → count ≤ fewer
  renewedRow : after.traffics.find? row.email =
    some { row with expiryTime := renewed, up := 0, down := 0, enable := true }
  renewedItems : ∃ later ∈ after.inbounds, later.id = inbound.id ∧
    ∀ (index : Nat) client, (clientItems inbound)[index]? =
        some (.obj client) →
      JsonObject.get client "email" = .str row.email →
        (clientItems later)[index]? = some (.obj (setExpiry client renewed))

/-- The present is not the end of a period, the end of this period fits into
64 bits, and no client of the loaded inbounds lacks an e-mail. -/
structure RenewsCleanly (now : Int) (charged : Database)
    (row : ClientTraffic) : Prop where
  within : (now - row.expiryTime) % renewalPeriod row ≠ 0
  fits : Json.Int64 (row.expiryTime +
    ((now - row.expiryTime) / renewalPeriod row + 1) * renewalPeriod row)
  typed : ∀ inbound ∈ charged.inbounds, ∀ stat ∈ charged.traffics,
    isRenewable now stat = true → stat.inboundId = inbound.id →
      Renewable inbound

theorem renewalPeriod_pos (selected : isRenewable now row = true) :
    0 < renewalPeriod row := by
  simp only [isRenewable, Bool.and_eq_true, decide_eq_true_eq] at selected
  exact Int.mul_pos selected.1.1 (by decide)

/-- The number of periods up to the first expiry that is not over. -/
theorem exists_renewedExpiry (selected : isRenewable now row = true) :
    ∃ count : Nat,
      renewedExpiry now row = row.expiryTime + count * renewalPeriod row ∧
      now ≤ row.expiryTime + count * renewalPeriod row ∧
      ∀ fewer : Nat, fewer < count →
        row.expiryTime + fewer * renewalPeriod row < now := by
  apply renewExpiry_eq_add (renewalPeriod_pos selected)
  simp only [isRenewable, Bool.and_eq_true, decide_eq_true_eq] at selected
  omega

/-- A row is renewed beyond the present unless a period ends right now. -/
theorem renewedExpiry_eq_now_iff (selected : isRenewable now row = true) :
    renewedExpiry now row = now ↔
      (now - row.expiryTime) % renewalPeriod row = 0 := by
  have positive := renewalPeriod_pos selected
  obtain ⟨count, same, reached, before⟩ := exists_renewedExpiry selected
  rw [same]
  constructor
  · intro ends
    apply Int.emod_eq_zero_of_dvd
    exact ⟨count, by rw [Int.mul_comm]; omega⟩
  · intro divides
    obtain ⟨whole, parts⟩ := Int.dvd_of_emod_eq_zero divides
    simp only [isRenewable, Bool.and_eq_true, decide_eq_true_eq] at selected
    have nonneg : 0 ≤ whole := by
      by_contra negative
      have := Int.mul_neg_of_pos_of_neg positive (not_le.mp negative)
      omega
    obtain ⟨many, rfl⟩ := Int.eq_ofNat_of_zero_le nonneg
    rw [Int.mul_comm] at parts
    by_cases more : many < count
    · have early := before many more
      omega
    · have bound := Int.mul_le_mul_of_nonneg_right
        (Int.ofNat_le.mpr (not_lt.mp more)) positive.le
      omega

theorem renewedExpiry_of_within (selected : isRenewable now row = true)
    (within : (now - row.expiryTime) % renewalPeriod row ≠ 0) :
    renewedExpiry now row = row.expiryTime +
      ((now - row.expiryTime) / renewalPeriod row + 1) *
        renewalPeriod row := by
  have positive := renewalPeriod_pos selected
  obtain ⟨count, same, reached, before⟩ := exists_renewedExpiry selected
  simp only [isRenewable, Bool.and_eq_true, decide_eq_true_eq] at selected
  have parts := Int.mul_ediv_add_emod (now - row.expiryTime)
    (renewalPeriod row)
  have rest := Int.emod_nonneg (now - row.expiryTime) positive.ne'
  have short := Int.emod_lt_of_pos (now - row.expiryTime) positive
  obtain ⟨whole, full⟩ := Int.eq_ofNat_of_zero_le
    (@Int.ediv_nonneg (now - row.expiryTime) _ (by omega) positive.le)
  rw [full, Int.mul_comm] at parts
  have more : whole < count := by
    by_contra few
    have bound := Int.mul_le_mul_of_nonneg_right
      (Int.ofNat_le.mpr (not_lt.mp few)) positive.le
    omega
  have next : ((whole : Int) + 1) * renewalPeriod row =
      whole * renewalPeriod row + renewalPeriod row := by
    rw [Int.add_mul, Int.one_mul]
  rw [same, full]
  by_cases less : whole + 1 < count
  · have early := before (whole + 1) less
    rw [Int.natCast_succ] at early
    omega
  · obtain rfl : count = whole + 1 := by omega
    rw [Int.natCast_succ]

/-- A renewed row stays enabled unless its new expiry is the present. -/
theorem disableDepleted_renewRow (later : now < renewedExpiry now row) :
    disableDepleted now (renewRow now row) = renewRow now row := by
  have early : decide (renewedExpiry now row ≤ now) = false :=
    decide_eq_false (not_le.mpr later)
  have idle : depleted now row.total (0 + 0) (renewedExpiry now row) =
      false := by
    rw [depleted, early, Bool.and_false, Bool.or_false, Bool.and_eq_false_iff]
    by_cases limited : 0 < row.total
    · exact .inr (decide_eq_false (by omega))
    · exact .inl (decide_eq_false limited)
  refine if_neg fun both => ?_
  exact Bool.noConfusion (idle.symm.trans (Bool.and_eq_true_iff.mp both).1)

theorem disableDepleted_expiryTime (now : Int) (row : ClientTraffic) :
    (disableDepleted now row).expiryTime = row.expiryTime := by
  unfold disableDepleted
  split <;> rfl

/-- The traffic pass renews a selected row and its client exactly, up to the
first end of a period after the present, just where the present is not itself
such an end, the sum fits, and the pass does not panic. -/
theorem renewal_exact_iff
    (read : chargedFor now batch database = some charged)
    (stored : row ∈ charged.traffics)
    (selected : isRenewable now row = true)
    (loaded : inbound ∈ charged.inbounds) (owner : row.inboundId = inbound.id)
    (listed : ∃ item ∈ clientItems inbound, HasEmail item row.email) :
    (∃ renewed, RenewedTo now row inbound
      (addTraffic now batch Call.noFaults database).2 renewed) ↔
      RenewsCleanly now charged row := by
  have positive := renewalPeriod_pos selected
  have bounds := selected
  simp only [isRenewable, Bool.and_eq_true, decide_eq_true_eq] at bounds
  obtain ⟨⟨-, started⟩, past⟩ := bounds
  obtain ⟨count, same, reached, before⟩ := exists_renewedExpiry selected
  constructor
  · rintro ⟨renewed, renews⟩
    have later := renews.reached
    have typed : (autoRenewClients now charged).isSome = true := by
      by_contra panics
      rw [Bool.not_eq_true, Option.isSome_eq_false_iff,
        Option.isNone_iff_eq_none] at panics
      have kept := renews.renewedRow
      rw [addTraffic_of_charged read, panics] at kept
      dsimp only at kept
      rw [Table.find?_eq_some.mpr ⟨stored, rfl⟩] at kept
      have unchanged := congrArg ClientTraffic.expiryTime
        (Option.some.inj kept)
      dsimp only at unchanged
      omega
    have value : renewedExpiry now row = renewed := by
      obtain ⟨found, -⟩ := renewed_of_isSome read typed stored selected
        loaded owner listed
      have both := Option.some.inj (found.symm.trans renews.renewedRow)
      have equal := congrArg ClientTraffic.expiryTime both
      rwa [disableDepleted_expiryTime] at equal
    obtain ⟨rounds, ends⟩ := renews.ends
    have within : (now - row.expiryTime) % renewalPeriod row ≠ 0 := by
      intro divides
      rw [(renewedExpiry_eq_now_iff selected).mpr divides] at value
      omega
    constructor
    case within => exact within
    case fits =>
      rw [← renewedExpiry_of_within selected within, value]
      exact int64_of_renewLoop ends (by omega)
    case typed => exact autoRenewClients_isSome.mp typed
  · intro clean
    have typed := autoRenewClients_isSome.mpr clean.typed
    have fits := clean.fits
    rw [← renewedExpiry_of_within selected clean.within] at fits
    have later : now < renewedExpiry now row := by
      rw [same]
      refine lt_of_le_of_ne reached fun ends => clean.within ?_
      rw [← renewedExpiry_eq_now_iff selected, same, ends]
    have some : 1 ≤ count := by
      by_contra none
      obtain rfl : count = 0 := by omega
      rw [same] at later
      simp at later
      omega
    obtain ⟨found, settings⟩ := renewed_of_isSome read typed stored selected
      loaded owner listed
    refine ⟨renewedExpiry now row, ?_⟩
    constructor
    case ends =>
      have first := Int.mul_le_mul_of_nonneg_right
        (Int.ofNat_le.mpr some) positive.le
      have high := fits.2
      have period : wrap64 (renewalPeriod row) = renewalPeriod row :=
        wrap64_eq_self ⟨by omega, by omega⟩
      rw [period]
      refine ⟨_, renewLoop_eq_some positive started ?_ fits⟩
      omega
    case reached => exact later
    case least =>
      refine ⟨count, some, same, fun fewer _ beyond => ?_⟩
      by_contra less
      have early := before fewer (not_le.mp less)
      omega
    case renewedRow =>
      rw [found, disableDepleted_renewRow later]
      rfl
    case renewedItems => exact settings

end Pass

def annsRow (expiry : Int) : ClientTraffic where
  inboundId := 1
  email := "ann"
  enable := false
  up := 3
  down := 4
  allTime := 7
  expiryTime := expiry
  total := 0
  reset := 1
  lastOnline := 0

def annsInbound (expiry : Int) : StoredInbound where
  id := 1
  listen := ""
  port := 443
  protocol := .vless
  settings := .parsed (.obj [("clients", .arr [.obj
    [("id", .str "u"), ("email", .str "ann"), ("expiryTime", .int expiry),
      ("reset", .int 1)]])])
  enable := true
  tag := "inbound-443"
  up := 0
  down := 0
  allTime := 0
  total := 0
  expiryTime := 0

/-- One client, whose period of a day is over since this time. -/
def overSince (expiry : Int) : Database where
  inbounds := Table.empty.save (annsInbound expiry)
  traffics := Table.empty.save (annsRow expiry)
  ips := Table.empty

theorem renewal_exact_ann :
    ∃ renewed, RenewedTo 100000000 (annsRow 86400000) (annsInbound 86400000)
      (addTraffic 100000000 ⟨[], []⟩ Call.noFaults (overSince 86400000)).2
      renewed := by
  refine (@renewal_exact_iff 100000000 ⟨[], []⟩ (overSince 86400000)
    (overSince 86400000) (annsRow 86400000) (annsInbound 86400000) rfl
    ?_ ?_ ?_ rfl ?_).mpr ⟨by decide, by decide, ?_⟩
  · exact Table.mem_save.mpr (.inl rfl)
  · decide
  · exact Table.mem_save.mpr (.inl rfl)
  · exact ⟨_, List.mem_cons_self, _, rfl, rfl⟩
  · intro inbound member _ _ _ _
    rcases Table.mem_save.mp member with rfl | ⟨none, -⟩
    · refine ⟨_, rfl, fun item listed => ?_⟩
      obtain rfl := List.mem_singleton.mp listed
      exact ⟨"ann", _, rfl, rfl⟩
    · exact absurd none Table.not_mem_empty

/-- A day after its expiry a client with a period of a day is renewed up to the
present, and its row is disabled in the same pass. -/
theorem renewal_ends_at_present :
    ¬ ∃ renewed, RenewedTo 172800000 (annsRow 86400000) (annsInbound 86400000)
      (addTraffic 172800000 ⟨[], []⟩ Call.noFaults (overSince 86400000)).2
      renewed := by
  rintro ⟨renewed, renews⟩
  have found : (addTraffic 172800000 ⟨[], []⟩ Call.noFaults
      (overSince 86400000)).2.traffics.find? "ann" =
        some { annsRow 172800000 with up := 0, down := 0 } := by
    decide +kernel
  have both := Option.some.inj (found.symm.trans renews.renewedRow)
  exact Bool.noConfusion (congrArg ClientTraffic.enable both)

end VpnUi.Store
