import Mathlib.Data.List.Basic
import Mathlib.Logic.Function.Basic

namespace VpnUi.Foundation

/-! Files that are overwritten whole, and lists of such writes. -/

abbrev Files (Name Content : Type*) := Name → Option Content

namespace Files

variable {Name Content : Type*} [DecidableEq Name]

def write (files : Files Name Content) (entry : Name × Content) :
    Files Name Content :=
  Function.update files entry.1 (some entry.2)

def writeAll (files : Files Name Content) (entries : List (Name × Content)) :
    Files Name Content :=
  entries.foldl write files

variable {files other : Files Name Content}
  {entries first second : List (Name × Content)} {name : Name}

theorem writeAll_append :
    files.writeAll (first ++ second) = (files.writeAll first).writeAll second :=
  List.foldl_append

theorem write_of_ne {entry : Name × Content} (differs : name ≠ entry.1) :
    files.write entry name = files name :=
  Function.update_of_ne differs _ _

/-- Where no write goes, the file is as it was. -/
theorem writeAll_of_not_mem
    (untouched : ∀ entry ∈ entries, entry.1 ≠ name) :
    files.writeAll entries name = files name := by
  induction entries generalizing files with
  | nil => rfl
  | cons entry rest induction =>
      rw [List.forall_mem_cons] at untouched
      exact (induction untouched.2).trans (write_of_ne untouched.1.symm)

/-- One file after the writes depends on that file before them. -/
theorem writeAll_congr (same : files name = other name) :
    files.writeAll entries name = other.writeAll entries name := by
  induction entries generalizing files other with
  | nil => exact same
  | cons entry rest induction =>
      apply induction
      by_cases here : name = entry.1
      · subst here
        simp [write]
      · rw [write_of_ne here, write_of_ne here, same]

/-- A file that is written is the same whatever it was. -/
theorem writeAll_of_mem (written : ∃ entry ∈ entries, entry.1 = name) :
    files.writeAll entries name = other.writeAll entries name := by
  induction entries generalizing files other with
  | nil => simp at written
  | cons entry rest induction =>
      by_cases later : ∃ entry ∈ rest, entry.1 = name
      · exact induction later
      · have here : entry.1 = name := by
          obtain ⟨found, member, named⟩ := written
          rcases List.mem_cons.mp member with rfl | member
          · exact named
          · exact absurd ⟨found, member, named⟩ later
        subst here
        have same : files.write entry entry.1 = other.write entry entry.1 := by
          simp [write]
        exact @writeAll_congr _ _ _ _ _ rest _ same

/-- Writing everything again changes nothing. -/
theorem writeAll_writeAll :
    (files.writeAll entries).writeAll entries = files.writeAll entries := by
  funext name
  by_cases written : ∃ entry ∈ entries, entry.1 = name
  · exact writeAll_of_mem written
  · apply writeAll_of_not_mem
    intro entry member named
    exact written ⟨entry, member, named⟩

/-- Nor does writing a part again that nothing after it has overwritten. -/
theorem writeAll_again {again : List (Name × Content)}
    (apart : ∀ entry ∈ again, ∀ later ∈ second, entry.1 ≠ later.1) :
    (files.writeAll (first ++ again ++ second)).writeAll again =
      files.writeAll (first ++ again ++ second) := by
  rw [writeAll_append, writeAll_append]
  generalize files.writeAll first = files
  funext name
  by_cases written : ∃ entry ∈ again, entry.1 = name
  · have kept : ((files.writeAll again).writeAll second) name =
        files.writeAll again name := by
      apply writeAll_of_not_mem
      intro later member named
      obtain ⟨entry, listed, same⟩ := written
      exact apart entry listed later member (same.trans named.symm)
    rw [kept]
    exact writeAll_of_mem written
  · apply writeAll_of_not_mem
    intro entry member named
    exact written ⟨entry, member, named⟩

end Files

end VpnUi.Foundation
