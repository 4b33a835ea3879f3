import Mathlib.Data.List.Chain

/-!
# Chains and progressions

A list in which each member is related to the next one is put together from
pieces: where a piece ends, the next one has to continue.  An arithmetic
progression is such a piece for every relation that its step satisfies.
-/

namespace JellyfinTv.Library

universe u

section Pieces

variable {Item : Type u} {related : Item → Item → Prop}

theorem isChain_append_iff (first : Item) (items more : List Item) :
    (first :: (items ++ more)).IsChain related ↔
      (first :: items).IsChain related ∧
        (items.getLastD first :: more).IsChain related := by
  induction items generalizing first with
  | nil =>
      simp
  | cons item rest inductionHypothesis =>
      simp only [List.cons_append, List.isChain_cons_cons,
        inductionHypothesis item, List.getLastD_cons, and_assoc]

theorem getLastD_append (first : Item) (items more : List Item) :
    (items ++ more).getLastD first = more.getLastD (items.getLastD first) := by
  induction items generalizing first with
  | nil =>
      rfl
  | cons item rest inductionHypothesis =>
      simp only [List.cons_append, List.getLastD_cons, inductionHypothesis]

/-- Two relations along a list are one relation. -/
theorem isChain_and_iff {other : Item → Item → Prop} (items : List Item) :
    items.IsChain related ∧ items.IsChain other ↔
      items.IsChain fun first second =>
        related first second ∧ other first second := by
  simp only [List.isChain_iff_getElem]
  exact
    ⟨fun both index bound => ⟨both.1 index bound, both.2 index bound⟩,
      fun both =>
        ⟨fun index bound => (both index bound).1,
          fun index bound => (both index bound).2⟩⟩

end Pieces

/-- The given number of steps behind the first position, without it. -/
def progression (first step : Int) (count : Nat) : List Int :=
  (List.range count).map fun index => first + (index + 1) * step

theorem progression_succ (first step : Int) (count : Nat) :
    progression first step (count + 1) =
      progression first step count ++ [first + (count + 1) * step] := by
  simp [progression, List.range_succ]

theorem getLastD_progression (first step : Int) (count : Nat) :
    (progression first step count).getLastD first = first + count * step := by
  cases count with
  | zero =>
      simp [progression]
  | succ count =>
      rw [progression_succ, getLastD_append]
      simp

theorem isChain_progression {related : Int → Int → Prop} {step : Int}
    (steps : ∀ position, related position (position + step))
    (first : Int) (count : Nat) :
    (first :: progression first step count).IsChain related := by
  induction count with
  | zero =>
      simp [progression]
  | succ count inductionHypothesis =>
      rw [progression_succ, isChain_append_iff, getLastD_progression]
      have next :
          first + (count + 1) * step = first + count * step + step := by
        rw [Int.add_mul, Int.one_mul, Int.add_assoc]
      refine ⟨inductionHypothesis, ?_⟩
      rw [next]
      exact List.isChain_pair.mpr (steps _)

theorem mem_progression {first step position : Int} {count : Nat} :
    position ∈ progression first step count ↔
      ∃ index : Nat, index < count ∧
        first + (index + 1) * step = position := by
  simp [progression]

end JellyfinTv.Library
