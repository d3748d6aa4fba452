import VpnUi.Radius.Service

namespace VpnUi.Nft

open Foundation Panel Address Radius

/-! The named counters and the accounting chains of the nft table "vpn".  What
a counter holds is a parameter. -/

inductive Direction
  | up
  | down
  deriving DecidableEq

/-- The text "{protocol}_{up|down}_{ip}".  It names a counter, and the rule of
the protocol's chain that counts to it. -/
structure CounterName where
  protocol : VpnProtocol
  direction : Direction
  ip : Ipv4
  deriving DecidableEq

structure AcctTable (Bytes : Type) where
  counters : KeyMap CounterName Bytes
  rules : List CounterName

namespace AcctTable

variable {Bytes : Type} [Zero Bytes]

def empty : AcctTable Bytes := ⟨∅, []⟩

def addCounter (table : AcctTable Bytes) (name : CounterName) :
    AcctTable Bytes :=
  if name ∈ table.counters then table
  else { table with counters := table.counters.insert name 0 }

/-- The chain lists a rule with "addr {ip} ". -/
def lists (table : AcctTable Bytes) (protocol : VpnProtocol) (ip : Ipv4) :
    Bool :=
  table.rules.any fun rule => rule.protocol == protocol && rule.ip == ip

def addClientAccounting (table : AcctTable Bytes) (protocol : VpnProtocol)
    (ip : Ipv4) : AcctTable Bytes :=
  let counted := (table.addCounter ⟨protocol, .up, ip⟩).addCounter
    ⟨protocol, .down, ip⟩
  if counted.lists protocol ip then counted
  else { counted with
    rules := counted.rules ++ [⟨protocol, .up, ip⟩, ⟨protocol, .down, ip⟩] }

def removeClientAccounting (table : AcctTable Bytes)
    (protocol : VpnProtocol) (ip : Ipv4) : AcctTable Bytes where
  rules := table.rules.filter fun rule =>
    !(rule.protocol == protocol && rule.ip == ip)
  counters := (table.counters.erase ⟨protocol, .up, ip⟩).erase
    ⟨protocol, .down, ip⟩

def resetCounter (table : AcctTable Bytes) (name : CounterName) :
    AcctTable Bytes × Bytes :=
  match table.counters.lookup name with
  | some bytes =>
      ({ table with counters := table.counters.insert name 0 }, bytes)
  | none => (table, 0)

def readAndResetClientCounters (table : AcctTable Bytes)
    (protocol : VpnProtocol) (ip : Ipv4) : AcctTable Bytes × Bytes × Bytes :=
  let up := table.resetCounter ⟨protocol, .up, ip⟩
  let down := up.1.resetCounter ⟨protocol, .down, ip⟩
  (down.1, up.2, down.2)

/-- What an effect of the RADIUS service does to the table. -/
def perform (table : AcctTable Bytes) : Effect → AcctTable Bytes
  | .fold _ protocol ip => (table.readAndResetClientCounters protocol ip).1
  | .addAccounting protocol ip => table.addClientAccounting protocol ip
  | .removeAccounting protocol ip => table.removeClientAccounting protocol ip
  | .disconnect _ _ _ => table

def performAll (table : AcctTable Bytes) (effects : List Effect) :
    AcctTable Bytes :=
  effects.foldl perform table

/-- Both counters of the client exist, and so do the rules that feed them. -/
def Counted (table : AcctTable Bytes) (protocol : VpnProtocol) (ip : Ipv4) :
    Prop :=
  ∀ direction, ⟨protocol, direction, ip⟩ ∈ table.counters ∧
    ⟨protocol, direction, ip⟩ ∈ table.rules

/-- A chain that counts one direction of an address counts both. -/
def Paired (table : AcctTable Bytes) : Prop :=
  ∀ protocol ip direction other, ⟨protocol, direction, ip⟩ ∈ table.rules →
    ⟨protocol, other, ip⟩ ∈ table.rules

section Spec

variable {table : AcctTable Bytes} {protocol : VpnProtocol} {ip : Ipv4}
  {name : CounterName}

theorem mem_addCounter {other : CounterName} :
    other ∈ (table.addCounter name).counters ↔
      other = name ∨ other ∈ table.counters := by
  unfold addCounter
  split
  next present =>
    constructor
    · exact .inr
    · intro either
      cases either with
      | inl same => exact same ▸ present
      | inr old => exact old
  next => exact AList.mem_insert _

@[simp] theorem addCounter_rules :
    (table.addCounter name).rules = table.rules := by
  unfold addCounter
  split <;> rfl

theorem mem_addClientAccounting_counters :
    name ∈ (table.addClientAccounting protocol ip).counters ↔
      (name.protocol = protocol ∧ name.ip = ip) ∨ name ∈ table.counters := by
  have counters : (table.addClientAccounting protocol ip).counters =
      ((table.addCounter ⟨protocol, .up, ip⟩).addCounter
        ⟨protocol, .down, ip⟩).counters := by
    unfold addClientAccounting
    simp only
    split <;> rfl
  rw [counters, mem_addCounter, mem_addCounter]
  obtain ⟨backend, direction, address⟩ := name
  cases direction <;> simp

theorem mem_addClientAccounting_rules (paired : table.Paired) :
    name ∈ (table.addClientAccounting protocol ip).rules ↔
      (name.protocol = protocol ∧ name.ip = ip) ∨ name ∈ table.rules := by
  obtain ⟨backend, direction, address⟩ := name
  unfold addClientAccounting
  simp only
  split
  next listed =>
    obtain ⟨rule, member, same⟩ := List.any_eq_true.mp listed
    rw [addCounter_rules, addCounter_rules] at member
    simp only [Bool.and_eq_true, beq_iff_eq] at same
    have both : (⟨protocol, direction, ip⟩ : CounterName) ∈ table.rules := by
      apply paired protocol ip rule.direction
      rw [← same.1, ← same.2]
      exact member
    rw [addCounter_rules, addCounter_rules]
    constructor
    · exact .inr
    · intro either
      rcases either with ⟨rfl, rfl⟩ | old
      · exact both
      · exact old
  next =>
    cases direction <;> simp [or_comm]

theorem Counted.add (paired : table.Paired) :
    (table.addClientAccounting protocol ip).Counted protocol ip :=
  fun _ => ⟨mem_addClientAccounting_counters.mpr (.inl ⟨rfl, rfl⟩),
    (mem_addClientAccounting_rules paired).mpr (.inl ⟨rfl, rfl⟩)⟩

theorem Counted.mono_add {backend : VpnProtocol} {address : Ipv4}
    (paired : table.Paired) (counted : table.Counted backend address) :
    (table.addClientAccounting protocol ip).Counted backend address :=
  fun direction =>
    ⟨mem_addClientAccounting_counters.mpr (.inr (counted direction).1),
      (mem_addClientAccounting_rules paired).mpr
        (.inr (counted direction).2)⟩

theorem Paired.add (paired : table.Paired) :
    (table.addClientAccounting protocol ip).Paired := by
  intro backend address direction other member
  rw [mem_addClientAccounting_rules paired] at member ⊢
  exact member.imp_right (paired backend address direction other)

omit [Zero Bytes] in
theorem mem_removeClientAccounting_counters :
    name ∈ (table.removeClientAccounting protocol ip).counters ↔
      ¬ (name.protocol = protocol ∧ name.ip = ip) ∧
        name ∈ table.counters := by
  obtain ⟨backend, direction, address⟩ := name
  simp only [removeClientAccounting, AList.mem_erase, ← and_assoc]
  cases direction <;> simp

omit [Zero Bytes] in
theorem mem_removeClientAccounting_rules :
    name ∈ (table.removeClientAccounting protocol ip).rules ↔
      ¬ (name.protocol = protocol ∧ name.ip = ip) ∧
        name ∈ table.rules := by
  unfold removeClientAccounting
  rw [List.mem_filter, and_comm]
  simp [imp_iff_not_or]

omit [Zero Bytes] in
theorem counted_removeClientAccounting {backend : VpnProtocol}
    {address : Ipv4} :
    (table.removeClientAccounting protocol ip).Counted backend address ↔
      ¬ (backend = protocol ∧ address = ip) ∧
        table.Counted backend address := by
  unfold Counted
  simp only [mem_removeClientAccounting_counters,
    mem_removeClientAccounting_rules]
  constructor
  · intro counted
    exact ⟨(counted .up).1.1, fun direction =>
      ⟨(counted direction).1.2, (counted direction).2.2⟩⟩
  · intro apart direction
    exact ⟨⟨apart.1, (apart.2 direction).1⟩, apart.1, (apart.2 direction).2⟩

omit [Zero Bytes] in
theorem Paired.remove (paired : table.Paired) :
    (table.removeClientAccounting protocol ip).Paired := by
  intro backend address direction other member
  rw [mem_removeClientAccounting_rules] at member ⊢
  exact member.imp_right (paired backend address direction other)

theorem mem_resetCounter {other : CounterName} :
    other ∈ (table.resetCounter name).1.counters ↔
      other ∈ table.counters := by
  unfold resetCounter
  split
  next bytes found =>
    have present : name ∈ table.counters := by
      rw [← AList.lookup_isSome, found]
      rfl
    rw [AList.mem_insert]
    constructor
    · intro either
      exact either.elim (fun same => same ▸ present) id
    · exact .inr
  next => rfl

@[simp] theorem resetCounter_rules :
    (table.resetCounter name).1.rules = table.rules := by
  unfold resetCounter
  split <;> rfl

theorem counted_perform_fold {email : String} {other : VpnProtocol}
    {address : Ipv4} :
    (table.perform (.fold email protocol ip)).Counted other address ↔
      table.Counted other address := by
  simp only [Counted, perform, readAndResetClientCounters, mem_resetCounter,
    resetCounter_rules]

theorem counted_removeAll {Entry : Type} {entries : List Entry}
    {protocols : Entry → VpnProtocol} {ips : Entry → Ipv4}
    {backend : VpnProtocol} {address : Ipv4} :
    (table.performAll (entries.map fun entry =>
      .removeAccounting (protocols entry) (ips entry))).Counted
        backend address ↔
      (∀ entry ∈ entries,
        ¬ (backend = protocols entry ∧ address = ips entry)) ∧
        table.Counted backend address := by
  induction entries generalizing table with
  | nil => simp [performAll]
  | cons entry rest induction =>
      have removed := @induction
        (table.removeClientAccounting (protocols entry) (ips entry))
      rw [counted_removeClientAccounting, ← and_assoc] at removed
      rw [List.forall_mem_cons]
      refine removed.trans (and_congr_left' ?_)
      exact and_comm

theorem Paired.perform {effect : Effect} (paired : table.Paired) :
    (table.perform effect).Paired := by
  cases effect with
  | fold email protocol ip =>
      intro backend address direction other member
      simp only [AcctTable.perform, readAndResetClientCounters,
        resetCounter_rules] at member ⊢
      exact paired backend address direction other member
  | addAccounting protocol ip => exact paired.add
  | removeAccounting protocol ip => exact paired.remove
  | disconnect protocol inboundId ip => exact paired

theorem Paired.performAll {effects : List Effect} (paired : table.Paired) :
    (table.performAll effects).Paired := by
  induction effects generalizing table with
  | nil => exact paired
  | cons effect rest induction => exact induction paired.perform

theorem performAll_append {first second : List Effect} :
    table.performAll (first ++ second) =
      (table.performAll first).performAll second :=
  List.foldl_append

end Spec

end AcctTable

end VpnUi.Nft
