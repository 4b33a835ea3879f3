import Mathlib.Data.List.Basic

/-!
# Ladders

A ladder translates the levels of one scale into those of another: a level is
worth the value of the last rung that it reaches.  Values go up along the
ladder, but the levels of the rungs need not.
-/

namespace JellyfinTv.Library

abbrev Ladder := List (Nat × Nat)

namespace Ladder

variable {ladder : Ladder} {level value : Nat}

/-- The value of the last rung that the level reaches. -/
def climb (ladder : Ladder) (level : Nat) : Nat :=
  ((ladder.reverse.find? fun rung => rung.1 ≤ level).map Prod.snd).getD 0

/-- The values go up. -/
abbrev Ascending (ladder : Ladder) : Prop :=
  ladder.Pairwise fun lower upper => lower.2 ≤ upper.2

/-- A value is within reach if one of the rungs that are reached has it. -/
theorem le_climb_iff (ascending : ladder.Ascending) :
    value ≤ ladder.climb level ↔
      value = 0 ∨ ∃ rung ∈ ladder, rung.1 ≤ level ∧ value ≤ rung.2 := by
  unfold climb
  cases found : ladder.reverse.find? fun rung => rung.1 ≤ level with
  | none =>
      have none_reached := List.find?_eq_none.mp found
      rw [Option.map_none, Option.getD_none, Nat.le_zero]
      refine (or_iff_left ?_).symm
      rintro ⟨rung, member, reached, -⟩
      exact
        none_reached rung (List.mem_reverse.mpr member)
          (decide_eq_true reached)
  | some last =>
      obtain ⟨reached, above, below, order, missed⟩ :=
        List.find?_eq_some_iff_append.mp found
      have listed : last ∈ ladder := by
        rw [← List.mem_reverse, order]
        exact List.mem_append_right _ List.mem_cons_self
      rw [decide_eq_true_iff] at reached
      rw [Option.map_some, Option.getD_some]
      constructor
      · intro within
        exact .inr ⟨last, listed, reached, within⟩
      · rintro (rfl | ⟨rung, member, fits, within⟩)
        · exact Nat.zero_le _
        · have descending :
              (above ++ last :: below).Pairwise fun upper lower =>
                lower.2 ≤ upper.2 := by
            rw [← order]
            exact List.pairwise_reverse.mpr ascending
          have behind := (List.pairwise_append.mp descending).2.1
          rw [← List.mem_reverse, order] at member
          rcases List.mem_append.mp member with higher | here
          · have unreached := missed rung higher
            rw [decide_eq_true fits] at unreached
            cases unreached
          · rcases List.mem_cons.mp here with rfl | lower
            · exact within
            · exact Nat.le_trans within (List.rel_of_pairwise_cons behind lower)

end Ladder

/-- The largest of some values. -/
theorem le_foldl_max_iff {values : List Nat} {value start : Nat} :
    value ≤ values.foldl max start ↔
      value ≤ start ∨ ∃ other ∈ values, value ≤ other := by
  induction values generalizing start with
  | nil =>
      simp
  | cons first rest inductionHypothesis =>
      have larger : value ≤ max start first ↔ value ≤ start ∨ value ≤ first :=
        by omega
      rw [List.foldl_cons, inductionHypothesis, larger, or_assoc]
      simp

end JellyfinTv.Library
