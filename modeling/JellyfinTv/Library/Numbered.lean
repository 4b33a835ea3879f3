import Mathlib.Data.List.Basic

/-!
# Numbered entries

What is in flight is kept as a list of entries with numbers.  An entry is
found, replaced and removed by its number.
-/

namespace JellyfinTv.Library

universe u

variable {Value : Type u}

/-- The entries with another number. -/
def without (number : Nat) (entries : List (Nat × Value)) :
    List (Nat × Value) :=
  entries.filter fun entry => entry.1 != number

/-- The entries with another value at the number. -/
def replaced (number : Nat) (value : Value) (entries : List (Nat × Value)) :
    List (Nat × Value) :=
  entries.map fun entry => if entry.1 = number then (number, value) else entry

@[simp]
theorem without_singleton (number : Nat) (value : Value) :
    without number [(number, value)] = [] := by
  simp [without]

@[simp]
theorem replaced_singleton (number : Nat) (value other : Value) :
    replaced number other [(number, value)] = [(number, other)] := by
  simp [replaced]

theorem without_pair {number other : Nat} (different : other ≠ number)
    (value last : Value) :
    without number [(number, value), (other, last)] = [(other, last)] := by
  simp [without, different]

theorem without_sublist (number : Nat) (entries : List (Nat × Value)) :
    (without number entries).Sublist entries :=
  List.filter_sublist

theorem mem_of_lookup {number : Nat} {value : Value}
    {entries : List (Nat × Value)}
    (found : entries.lookup number = some value) :
    (number, value) ∈ entries := by
  obtain ⟨before, behind, rfl, _⟩ := List.lookup_eq_some_iff.mp found
  exact List.mem_append_right before List.mem_cons_self

/-- An entry among at most one is the only one. -/
theorem eq_singleton_of_mem {entry : Value} {entries : List Value}
    (member : entry ∈ entries) (atMostOne : entries.length ≤ 1) :
    entries = [entry] := by
  have positive := List.length_pos_of_mem member
  obtain ⟨only, rfl⟩ :=
    List.length_eq_one_iff.mp (by omega : entries.length = 1)
  rw [List.mem_singleton.mp member]

end JellyfinTv.Library
