import VpnUi.Job.AccessLog

namespace VpnUi.Job

/-! The clock of the access log and the clock of the panel. -/

/-- A line that shows the time of a host whose clock is `offset` seconds ahead
of UTC: read as one of UTC, its stamp is that much later. -/
structure LogLine (offset : Int) where
  text : List Char
  written : Int
  shows : ∃ stamp, timestampRegex.startSubmatch text = some [stamp] ∧
    parseTime stamp = some (written + offset)

/-- The tracking row that earlier scans left: addresses with the instants of
their lines. -/
def storedRow (offset : Int) (row : List (String × Int)) :
    List IPWithTimestamp :=
  row.map fun (ip, written) => ⟨ip, written + offset⟩

section Host

variable {offset : Int} {row : List (String × Int)}
  {log : List (LogLine offset)} {email ip : String} {now : Int}

/-- A line of the client's address, in this log or in one the row comes
from. -/
def Sighted (row : List (String × Int)) (log : List (LogLine offset))
    (email ip : String) (written : Int) : Prop :=
  (ip, written) ∈ row ∨ ∃ line ∈ log,
    accessed line.text = some (email, ip) ∧ line.written = written

/-- What the scan finds of the client. -/
def scanned (now : Int) (log : List (LogLine offset)) (email : String) :
    List IPWithTimestamp :=
  observedIps now (log.map LogLine.text) email

/-- A line at most 30 minutes old. -/
def Fresh (now written : Int) : Prop := now - written ≤ 30 * 60

end Host

/-- An address is dropped as stale exactly if its last line is older than 30
minutes, and the live ones are those of the log that are not. -/
structure OneClock (offset : Int) : Prop where
  kept : ∀ (row : List (String × Int)) (log : List (LogLine offset))
    (email ip : String) (now : Int),
    ((mergeClientIps (storedRow offset row) (scanned now log email)
        (now - ipStaleAfterSeconds)).lookup ip).isSome ↔
      ∃ written, Sighted row log email ip written ∧ Fresh now written
  live : ∀ (order : TimeSort) (row : List (String × Int))
    (log : List (LogLine offset)) (email ip : String) (now : Int),
    (∃ entry ∈ liveIps order now (storedRow offset row)
        (scanned now log email), entry.ip = ip) ↔
      (∃ line ∈ log, accessed line.text = some (email, ip)) ∧
        ∃ written, Sighted row log email ip written ∧ Fresh now written

section Clock

variable {offset : Int} {row : List (String × Int)}
  {log : List (LogLine offset)} {email ip : String} {now bound : Int}

theorem timestampOf_line (line : LogLine offset) :
    timestampOf now line.text = line.written + offset := by
  obtain ⟨stamp, matched, parsed⟩ := line.shows
  simp only [timestampOf, matched, parsed, Option.getD_some]

theorem scanned_reach :
    (∃ entry ∈ scanned now log email, entry.ip = ip ∧
        bound ≤ entry.timestamp) ↔
      ∃ line ∈ log, accessed line.text = some (email, ip) ∧
        bound ≤ line.written + offset := by
  rw [scanned, observedIps_reach]
  simp only [List.mem_map, exists_exists_and_eq_and, timestampOf_line]

/-- The merged map holds the addresses that were sighted late enough, by the
clock of the log. -/
theorem isSome_merged :
    ((mergeClientIps (storedRow offset row) (scanned now log email)
        (now - ipStaleAfterSeconds)).lookup ip).isSome ↔
      ∃ written, Sighted row log email ip written ∧
        Fresh now (written + offset) := by
  have late : ∀ written : Int, now - ipStaleAfterSeconds ≤ written + offset ↔
      Fresh now (written + offset) := by
    intro written
    unfold ipStaleAfterSeconds Fresh
    omega
  rw [isSome_lookup_merge]
  simp only [List.mem_append, or_and_right, exists_or, scanned_reach, Sighted,
    late]
  apply or_congr
  · constructor
    · intro stored
      obtain ⟨entry, member, rfl, fresh⟩ := stored
      obtain ⟨⟨address, written⟩, listed, rfl⟩ := List.mem_map.mp member
      exact ⟨written, listed, (late written).mp fresh⟩
    · intro stored
      obtain ⟨written, listed, fresh⟩ := stored
      exact ⟨⟨ip, written + offset⟩, List.mem_map.mpr ⟨_, listed, rfl⟩, rfl,
        (late written).mpr fresh⟩
  · constructor
    · intro seen
      obtain ⟨line, member, named, fresh⟩ := seen
      exact ⟨line.written, ⟨line, member, named, rfl⟩, fresh⟩
    · intro seen
      obtain ⟨written, ⟨line, member, named, rfl⟩, fresh⟩ := seen
      exact ⟨line, member, named, fresh⟩

theorem mem_liveIps_iff {order : TimeSort} {old new : List IPWithTimestamp} :
    (∃ entry ∈ liveIps order now old new, entry.ip = ip) ↔
      (∃ entry ∈ new, entry.ip = ip) ∧
        ((mergeClientIps old new (now - ipStaleAfterSeconds)).lookup
          ip).isSome := by
  simp only [liveIps, (order.perm _).mem_iff, List.mem_filter,
    decide_eq_true_eq, mem_entriesOf, List.mem_map]
  constructor
  · intro found
    obtain ⟨entry, ⟨known, seen⟩, rfl⟩ := found
    exact ⟨seen, by rw [known]; rfl⟩
  · intro found
    obtain ⟨seen, known⟩ := found
    obtain ⟨time, known⟩ := Option.isSome_iff_exists.mp known
    exact ⟨⟨ip, time⟩, ⟨known, seen⟩, rfl⟩

theorem mem_scanned_iff :
    (∃ entry ∈ scanned now log email, entry.ip = ip) ↔
      ∃ line ∈ log, accessed line.text = some (email, ip) := by
  constructor
  · intro found
    obtain ⟨entry, member, named⟩ := found
    obtain ⟨line, listed, read, -⟩ :=
      scanned_reach.mp ⟨entry, member, named, le_refl entry.timestamp⟩
    exact ⟨line, listed, read⟩
  · intro found
    obtain ⟨line, listed, read⟩ := found
    obtain ⟨entry, member, named, -⟩ :=
      scanned_reach.mpr ⟨line, listed, read, le_refl (line.written + offset)⟩
    exact ⟨entry, member, named⟩

theorem oneClock_zero : OneClock 0 where
  kept := by
    intro row log email ip now
    rw [isSome_merged]
    simp only [Int.add_zero]
  live := by
    intro order row log email ip now
    rw [mem_liveIps_iff, mem_scanned_iff, isSome_merged]
    simp only [Int.add_zero]

end Clock

/-- A line of ann's, written on the first of January 2024 by the clock of the
host. -/
def januaryText : List Char :=
  ("2024/01/01 00:00:00.123456 from tcp:1.2.3.4:5678 accepted " ++
    "tcp:example.com:443 email: ann").toList

def january : Int := 1704067200

theorem accessed_januaryText :
    accessed januaryText = some ("ann", "1.2.3.4") := by decide +kernel

def januaryLine (offset : Int) : LogLine offset where
  text := januaryText
  written := january - offset
  shows := by
    refine ⟨"2024/01/01 00:00:00".toList, by decide +kernel, ?_⟩
    rw [Int.sub_add_cancel]
    decide +kernel

theorem sighted_january {offset written : Int} :
    Sighted [] [januaryLine offset] "ann" "1.2.3.4" written ↔
      written = january - offset := by
  simp [Sighted, januaryLine, accessed_januaryText, eq_comm]

/-- Which addresses count is independent of the time zone on hosts that keep UTC
only. -/
theorem oneClock_iff (offset : Int) : OneClock offset ↔ offset = 0 := by
  constructor
  · intro one
    have kept := fun now => one.kept [] [januaryLine offset] "ann" "1.2.3.4" now
    simp only [isSome_merged, sighted_january, exists_eq_left, Fresh] at kept
    -- a line of 30 minutes ago is dropped west of UTC, and one that is a
    -- second older is kept east of it
    have west := kept (january - offset + 1800)
    have east := kept (january - offset + 1801)
    omega
  · rintro rfl
    exact oneClock_zero

/-- Three and a half hours east of UTC, a line three hours old still counts. -/
theorem eastern_clock_keeps_stale :
    ((mergeClientIps [] (scanned (january - 12600 + 10800)
        [januaryLine 12600] "ann")
          (january - 12600 + 10800 - ipStaleAfterSeconds)).lookup
            "1.2.3.4") = some january ∧
      ¬ OneClock 12600 := by
  have kept : ((mergeClientIps [] (scanned (january - 12600 + 10800)
      [januaryLine 12600] "ann")
        (january - 12600 + 10800 - ipStaleAfterSeconds)).lookup
          "1.2.3.4") = some january := by decide +kernel
  refine ⟨kept, ?_⟩
  intro one
  have counted := (one.kept [] [januaryLine 12600] "ann" "1.2.3.4"
    (january - 12600 + 10800)).mp (by
      change ((mergeClientIps [] _ _).lookup _).isSome
      rw [kept]
      rfl)
  obtain ⟨written, sighted, fresh⟩ := counted
  rw [sighted_january.mp sighted] at fresh
  unfold Fresh at fresh
  omega

end VpnUi.Job
