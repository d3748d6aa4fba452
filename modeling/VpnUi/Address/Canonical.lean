import VpnUi.Address.Range

namespace VpnUi.Address

/-! The canonical form of a range text, and the interval of addresses that it
denotes. -/

/-- The address as a 32-bit number. -/
def Ipv4.number (ip : Ipv4) : Nat :=
  ((ip.subnet.first * 256 + ip.subnet.second) * 256 + ip.subnet.third) * 256 +
    ip.host

/-- The addresses from the start to the end of a range. -/
def IpRange.Holds (range : IpRange) (ip : Ipv4) : Prop :=
  ip.Valid ∧ range.start.number ≤ ip.number ∧ ip.number ≤ range.stop.number

theorem Ipv4.number_injective {ip other : Ipv4} (valid : ip.Valid)
    (otherValid : other.Valid) (same : ip.number = other.number) :
    ip = other := by
  obtain ⟨⟨first, second, third⟩, host⟩ := ip
  obtain ⟨⟨first', second', third'⟩, host'⟩ := other
  simp only [Ipv4.Valid, Subnet.Valid] at valid otherValid
  simp only [Ipv4.number] at same
  have hosts : host = host' := by omega
  have thirds : third = third' := by omega
  have seconds : second = second' := by omega
  have firsts : first = first' := by omega
  rw [hosts, thirds, seconds, firsts]

namespace IpRange

variable {range other : IpRange}

theorem start_le_stop : range.start.number ≤ range.stop.number :=
  Nat.add_le_add_left range.ordered _

theorem holds_start : range.Holds range.start :=
  ⟨range.start_valid, Nat.le_refl _, start_le_stop⟩

theorem holds_stop : range.Holds range.stop :=
  ⟨range.stop_valid, start_le_stop, Nat.le_refl _⟩

/-- Ranges with the same ends are the same. -/
theorem eq_of_ends (starts : range.start = other.start)
    (stops : range.stop = other.stop) : range = other := by
  obtain ⟨subnet, first, last, _, _, _⟩ := range
  obtain ⟨otherSubnet, otherFirst, otherLast, _, _, _⟩ := other
  obtain ⟨rfl, rfl⟩ := Subnet.withHost_inj.mp starts
  obtain ⟨-, rfl⟩ := Subnet.withHost_inj.mp stops
  rfl

/-- A range is known by the addresses it holds. -/
theorem eq_iff_holds : range = other ↔ ∀ ip, range.Holds ip ↔ other.Holds ip := by
  constructor
  · intro same ip
    rw [same]
  · intro same
    have startIn := (same range.start).mp holds_start
    have stopIn := (same range.stop).mp holds_stop
    have otherStart := (same other.start).mpr holds_start
    have otherStop := (same other.stop).mpr holds_stop
    apply eq_of_ends
    · exact Ipv4.number_injective range.start_valid other.start_valid
        (Nat.le_antisymm otherStart.2.1 startIn.2.1)
    · exact Ipv4.number_injective range.stop_valid other.stop_valid
        (Nat.le_antisymm stopIn.2.2 otherStop.2.2)

theorem text_injective (same : range.text = other.text) : range = other := by
  have parsed := congrArg parseRange same
  rw [parseRange_text, parseRange_text] at parsed
  exact Option.some.inj parsed

end IpRange

/-- What the canonical form of an accepted text is relied on for. -/
structure SoundForm (text : String) (range : IpRange) (canon : String) :
    Prop where
  made : canonRange text = some canon
  accepted : parseRange canon = some range
  idempotent : canonRange canon = some canon
  oneSubnet : range.start.subnet = range.stop.subnet
  ordered : range.start.number ≤ range.stop.number
  subnet : rangeSubnet canon = rangeSubnet text
  capacity : rangeCapacity [canon] = rangeCapacity [text]

theorem soundForm {text : String} {range : IpRange}
    (accepted : parseRange text = some range) :
    SoundForm text range range.text := by
  have made : canonRange text = some range.text := by
    rw [canonRange, accepted]
    rfl
  have same : parseRange range.text = parseRange text :=
    parseRange_canonRange made
  exact
    { made := made
      accepted := parseRange_text range
      idempotent := by rw [canonRange, same, ← canonRange, made]
      oneSubnet := rfl
      ordered := IpRange.start_le_stop
      subnet := by rw [rangeSubnet, rangeSubnet, same]
      capacity := by
        rw [rangeCapacity, rangeCapacity, List.filterMap_cons,
          List.filterMap_cons, same] }

/-- Every accepted text has a sound canonical form, and two of them have the same
one exactly when they denote the same addresses. -/
theorem canonRange_sound {text other : String} {range otherRange : IpRange}
    (accepted : parseRange text = some range)
    (otherAccepted : parseRange other = some otherRange) :
    (∃ canon, SoundForm text range canon) ∧
      (canonRange text = canonRange other ↔
        ∀ ip, range.Holds ip ↔ otherRange.Holds ip) := by
  refine ⟨⟨range.text, soundForm accepted⟩, ?_⟩
  rw [(soundForm accepted).made, (soundForm otherAccepted).made,
    Option.some.injEq, ← IpRange.eq_iff_holds]
  constructor
  · exact IpRange.text_injective
  · exact congrArg IpRange.text

theorem canonRange_sound_shorthand :
    (∃ canon, SoundForm " 10.0.2.5-+09 "
        (⟨⟨10, 0, 2⟩, 5, 9, by decide, by decide, by decide⟩ : IpRange) canon) ∧
      (canonRange " 10.0.2.5-+09 " = canonRange "::ffff:10.0.2.5 - 10.0.2.9" ↔
        ∀ ip, IpRange.Holds
            ⟨⟨10, 0, 2⟩, 5, 9, by decide, by decide, by decide⟩ ip ↔
          IpRange.Holds
            ⟨⟨10, 0, 2⟩, 5, 9, by decide, by decide, by decide⟩ ip) :=
  canonRange_sound (by decide +kernel) (by decide +kernel)

end VpnUi.Address
