import VpnUi.Address.Text
import VpnUi.Foundation.Regex
import VpnUi.Job.ClientIps

namespace VpnUi.Job

open Foundation Address

/-! The access log of the core, read into the addresses of each client and their
last times. -/

def sequence (parts : List Regex) : Regex :=
  parts.foldr .followed (.text [])

def digit : Regex := .one Char.isDigit

def ipLetter (letter : Char) : Bool :=
  (hexDigit? letter).isSome || letter ∈ ['.', ':']

/-- `from (?:tcp:|udp:)?\[?([0-9a-fA-F\.:]+)\]?:\d+ accepted` -/
def ipRegex : Regex :=
  sequence [.text "from ".toList,
    .optional (.either (.text "tcp:".toList) (.text "udp:".toList)),
    .optional (.text ['[']), .group (.many ipLetter), .optional (.text [']']),
    .text [':'], .many Char.isDigit, .text " accepted".toList]

/-- `email: (.+)$` -/
def emailRegex : Regex :=
  sequence [.text "email: ".toList, .group (.many (· ≠ '\n')), .final]

/-- `^(\d{4}/\d{2}/\d{2} \d{2}:\d{2}:\d{2})` -/
def timestampRegex : Regex :=
  .group (sequence [digit, digit, digit, digit, .text ['/'], digit, digit,
    .text ['/'], digit, digit, .text [' '], digit, digit, .text [':'], digit,
    digit, .text [':'], digit, digit])

def leapYear (year : Nat) : Bool :=
  year % 4 = 0 && (year % 100 ≠ 0 || year % 400 = 0)

def daysIn (year month : Nat) : Nat :=
  if month = 2 then if leapYear year then 29 else 28
  else if month ∈ [4, 6, 9, 11] then 30 else 31

/-- The days from 1970 to a date: years begin in March here, so that a leap day
ends one. -/
def unixDays (year month day : Nat) : Int :=
  let march : Int := if month ≤ 2 then (year : Int) - 1 else year
  365 * march + march / 4 - march / 100 + march / 400 +
    (153 * ((month + 9) % 12) + 2) / 5 + day - 719469

/-- `time.Parse("2006/01/02 15:04:05", stamp)` in seconds: a stamp without a
zone is one of UTC. -/
def parseTime (stamp : List Char) : Option Int :=
  match stamp with
  | [y1, y2, y3, y4, '/', m1, m2, '/', d1, d2, ' ', h1, h2, ':', n1, n2, ':',
      s1, s2] => do
      let year ← digits? 0 [y1, y2, y3, y4]
      let month ← digits? 0 [m1, m2]
      let day ← digits? 0 [d1, d2]
      let hour ← digits? 0 [h1, h2]
      let minute ← digits? 0 [n1, n2]
      let second ← digits? 0 [s1, s2]
      if 1 ≤ month ∧ month ≤ 12 ∧ 1 ≤ day ∧ day ≤ daysIn year month ∧
          hour < 24 ∧ minute < 60 ∧ second < 60 then
        some (86400 * unixDays year month day +
          (3600 * hour + 60 * minute + second : Nat))
      else none
  | _ => none

example : parseTime "1970/01/01 00:00:00".toList = some 0 := by decide +kernel

example : parseTime "2024/03/01 12:30:05".toList = some 1709296205 := by
  decide +kernel

/-- The client and the address of a line, if it accepts a connection from
outside. -/
def accessed (line : List Char) : Option (String × String) :=
  match ipRegex.findStringSubmatch line with
  | some [ip] =>
      if ip = "127.0.0.1".toList ∨ ip = "::1".toList then none
      else
        match emailRegex.findStringSubmatch line with
        | some [email] => some (String.ofList email, String.ofList ip)
        | _ => none
  | _ => none

/-- The time of a line, or the current one. -/
def timestampOf (now : Int) (line : List Char) : Int :=
  match timestampRegex.startSubmatch line with
  | some [stamp] => (parseTime stamp).getD now
  | _ => now

/-- Take a line into account. -/
def recordLine (now : Int) (inboundClientIps : KeyMap String IpMap)
    (line : List Char) : KeyMap String IpMap :=
  match accessed line with
  | none => inboundClientIps
  | some (email, ip) =>
      inboundClientIps.insert email
        (keepLatest ((inboundClientIps.lookup email).getD ∅)
          ⟨ip, timestampOf now line⟩)

/-- The first loop of `processLogFile`. -/
def readLog (now : Int) (lines : List (List Char)) : KeyMap String IpMap :=
  lines.foldl (recordLine now) ∅

/-- The addresses of a client in a log. -/
def observedIps (now : Int) (lines : List (List Char)) (email : String) :
    List IPWithTimestamp :=
  entriesOf (((readLog now lines).lookup email).getD ∅)

section Log

variable {ipMap : IpMap} {entry : IPWithTimestamp} {ip email : String}
  {now bound : Int} {lines : List (List Char)}

/-- Whether the latest time of an address reaches a bound. -/
theorem keepLatest_reaches :
    (∃ time ∈ (keepLatest ipMap entry).lookup ip, bound ≤ time) ↔
      (∃ time ∈ ipMap.lookup ip, bound ≤ time) ∨
        (entry.ip = ip ∧ bound ≤ entry.timestamp) := by
  unfold keepLatest
  by_cases same : ip = entry.ip
  · subst same
    cases known : ipMap.lookup entry.ip with
    | none => simp
    | some existing =>
        simp only [Option.mem_def, Option.some.injEq, exists_eq_left',
          true_and]
        split
        next newer =>
          simp only [AList.lookup_insert, Option.some.injEq, exists_eq_left']
          omega
        next older =>
          simp only [known, Option.some.injEq, exists_eq_left']
          omega
  · cases ipMap.lookup entry.ip with
    | none => simp [same, Ne.symm same]
    | some existing =>
        simp only [Ne.symm same, false_and, or_false]
        split
        · rw [AList.lookup_insert_ne same]
        · rfl

/-- The entry of an address is as late as its latest line. -/
theorem observedIps_reach :
    (∃ entry ∈ observedIps now lines email, entry.ip = ip ∧
        bound ≤ entry.timestamp) ↔
      ∃ line ∈ lines, accessed line = some (email, ip) ∧
        bound ≤ timestampOf now line := by
  have spelled : (∃ entry ∈ observedIps now lines email, entry.ip = ip ∧
      bound ≤ entry.timestamp) ↔
      ∃ time ∈ (((readLog now lines).lookup email).getD ∅).lookup ip,
        bound ≤ time := by
    simp only [observedIps, mem_entriesOf, Option.mem_def]
    constructor
    · intro found
      obtain ⟨entry, known, rfl, late⟩ := found
      exact ⟨entry.timestamp, known, late⟩
    · intro found
      obtain ⟨time, known, late⟩ := found
      exact ⟨⟨ip, time⟩, known, rfl, late⟩
  rw [spelled, readLog]
  clear spelled
  induction lines using List.reverseRecOn with
  | nil => simp
  | append_singleton init line induction =>
      rw [List.foldl_append]
      change (∃ time ∈ ((AList.lookup email (recordLine now
        (init.foldl (recordLine now) ∅) line)).getD ∅).lookup ip, _) ↔ _
      simp only [List.mem_append, List.mem_singleton, or_and_right, exists_or,
        exists_eq_left, ← induction]
      unfold recordLine
      cases read : accessed line with
      | none => simp
      | some named =>
          obtain ⟨other, address⟩ := named
          by_cases same : email = other
          · subst same
            simp only [AList.lookup_insert, Option.getD_some,
              keepLatest_reaches, Option.some.injEq, Prod.mk.injEq, true_and]
          · simp only [AList.lookup_insert_ne same, Option.some.injEq,
              Prod.mk.injEq, Ne.symm same, false_and, or_false]

end Log

end VpnUi.Job
