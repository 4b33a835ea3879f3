import Mathlib.Data.List.Basic

/-!
# Loops that collect values

A `while` loop adds one value in each round.  Its function takes fuel and
has no result if the fuel runs out; the loop emits a list if it returns it
with enough fuel.
-/

namespace JellyfinTv.Library

universe u v

variable {State : Type u} {Value : Type v}

def collectWhile (continues : State → Bool) (value : State → Value)
    (next : State → State) : Nat → State → Option (List Value)
  | 0, state => if continues state then none else some []
  | fuel + 1, state =>
      if continues state then
        (collectWhile continues value next fuel (next state)).map
          (List.cons (value state))
      else
        some []

/-- The loop ends and has collected the values. -/
def Collects (continues : State → Bool) (value : State → Value)
    (next : State → State) (state : State) (values : List Value) : Prop :=
  ∃ fuel, collectWhile continues value next fuel state = some values

variable {continues : State → Bool} {value : State → Value}
  {next : State → State} {state : State} {values : List Value}

theorem Collects.done (stops : ¬continues state) :
    Collects continues value next state [] :=
  ⟨0, if_neg stops⟩

theorem Collects.step (goes : continues state)
    (later : Collects continues value next (next state) values) :
    Collects continues value next state (value state :: values) := by
  obtain ⟨fuel, collected⟩ := later
  refine ⟨fuel + 1, ?_⟩
  rw [collectWhile, if_pos goes, collected]
  rfl

/-- Either the loop stops at once or it makes one round first. -/
theorem Collects.cases
    (collects : Collects continues value next state values) :
    ¬continues state ∧ values = [] ∨
      continues state ∧ ∃ rest, values = value state :: rest ∧
        Collects continues value next (next state) rest := by
  obtain ⟨fuel, collected⟩ := collects
  by_cases goes : continues state
  · cases fuel with
    | zero =>
        simp [collectWhile, goes] at collected
    | succ fuel =>
        rw [collectWhile, if_pos goes] at collected
        obtain ⟨rest, later, rfl⟩ := Option.map_eq_some_iff.mp collected
        exact Or.inr ⟨goes, rest, rfl, fuel, later⟩
  · cases fuel with
    | zero =>
        rw [collectWhile, if_neg goes] at collected
        exact Or.inl ⟨goes, (Option.some.inj collected).symm⟩
    | succ fuel =>
        rw [collectWhile, if_neg goes] at collected
        exact Or.inl ⟨goes, (Option.some.inj collected).symm⟩

/-- What holds where the loop stops, and in front of every round if it holds
behind it, holds of the collected values. -/
theorem Collects.rule {invariant : State → Prop}
    {property : State → List Value → Prop}
    (kept :
      ∀ state, invariant state → continues state → invariant (next state))
    (done : ∀ state, invariant state → ¬continues state → property state [])
    (step :
      ∀ state rest, invariant state → continues state →
        property (next state) rest → property state (value state :: rest))
    (initial : invariant state)
    (collects : Collects continues value next state values) :
    property state values := by
  obtain ⟨fuel, collected⟩ := collects
  induction fuel generalizing state values with
  | zero =>
      obtain ⟨stops, rfl⟩ | ⟨goes, _⟩ := Collects.cases ⟨0, collected⟩
      · exact done state initial stops
      · simp [collectWhile, goes] at collected
  | succ fuel inductionHypothesis =>
      by_cases goes : continues state
      · rw [collectWhile, if_pos goes] at collected
        obtain ⟨rest, later, rfl⟩ := Option.map_eq_some_iff.mp collected
        exact
          step state rest initial goes
            (inductionHypothesis (kept state initial goes) later)
      · rw [collectWhile, if_neg goes] at collected
        cases collected
        exact done state initial goes

/-- A loop ends if every round decreases a measure. -/
theorem exists_collects {invariant : State → Prop} (measure : State → Nat)
    (kept :
      ∀ state, invariant state → continues state → invariant (next state))
    (decreases :
      ∀ state, invariant state → continues state →
        measure (next state) < measure state)
    (initial : invariant state) :
    ∃ values, Collects continues value next state values := by
  generalize bound : measure state = rounds
  induction rounds using Nat.strongRecOn generalizing state with
  | ind rounds inductionHypothesis =>
      by_cases goes : continues state
      · have smaller := decreases state initial goes
        rw [bound] at smaller
        obtain ⟨values, later⟩ :=
          inductionHypothesis _ smaller (kept state initial goes) rfl
        exact ⟨_, later.step goes⟩
      · exact ⟨[], Collects.done goes⟩

end JellyfinTv.Library
