import Mathlib.Order.Defs.Unbundled

/-!
# Effects of actions that may throw

An `EStateM` action keeps the writes made before a throw.  `finalState` is the
state it leaves behind either way, and `Respects R` says that this state is
related to the initial one.  For a preorder the rules below follow the
structure of the action.
-/

namespace JellyfinTv.Library

universe u

variable {ε σ α β : Type u}

/-- The state after an action, whether it has returned or thrown. -/
def finalState : EStateM.Result ε σ α → σ
  | .ok _ state => state
  | .error _ state => state

@[simp]
theorem finalState_ok (value : α) (state : σ) :
    finalState (.ok value state : EStateM.Result ε σ α) = state :=
  rfl

@[simp]
theorem finalState_error (error : ε) (state : σ) :
    finalState (.error error state : EStateM.Result ε σ α) = state :=
  rfl

/-- A sequence that returns has run both of its parts. -/
theorem exists_of_run_bind {action : EStateM ε σ α}
    {next : α → EStateM ε σ β} {state final : σ} {value : β}
    (returned : (action >>= next).run state = .ok value final) :
    ∃ first middle,
      action.run state = .ok first middle ∧
        (next first).run middle = .ok value final := by
  rw [EStateM.run_bind] at returned
  cases ran : action.run state with
  | error error middle =>
      rw [ran] at returned
      cases returned
  | ok first middle =>
      rw [ran] at returned
      exact ⟨first, middle, rfl, returned⟩

@[simp]
theorem run_map (function : α → β) (action : EStateM ε σ α) (state : σ) :
    (function <$> action).run state =
      match action.run state with
      | .ok value final => .ok (function value) final
      | .error error final => .error error final := by
  simp only [Functor.map, EStateM.map, EStateM.run]
  cases action state <;> rfl

theorem run_discard {ε σ α : Type} {action : EStateM ε σ α}
    {state final : σ} {value : α}
    (ran : action.run state = .ok value final) :
    (discard action).run state = .ok () final := by
  have mapped :
      (discard action).run state =
        ((fun _ => PUnit.unit) <$> action).run state :=
    rfl
  rw [mapped, run_map, ran]

@[simp]
theorem finalState_discard {ε σ α : Type} (action : EStateM ε σ α)
    (state : σ) :
    finalState ((discard action).run state) =
      finalState (action.run state) := by
  have mapped :
      (discard action).run state =
        ((fun _ => PUnit.unit) <$> action).run state :=
    rfl
  rw [mapped, run_map]
  cases action.run state <;> rfl

theorem run_forM_cons {ε σ α : Type} (action : α → EStateM ε σ Unit)
    (head : α) (tail : List α) (state : σ) :
    ((head :: tail).forM action).run state =
      match (action head).run state with
      | .ok _ middle => (tail.forM action).run middle
      | .error error middle => .error error middle := by
  have unfolded :
      ((head :: tail).forM action).run state =
        (action head >>= fun _ => tail.forM action).run state :=
    rfl
  rw [unfolded, EStateM.run_bind]
  cases (action head).run state with
  | ok value middle =>
      rfl
  | error error middle =>
      rfl

/-- The final state of the action is always related to its initial state. -/
def Respects (related : σ → σ → Prop) (action : EStateM ε σ α) : Prop :=
  ∀ state, related state (finalState (action.run state))

namespace Respects

variable {related : σ → σ → Prop}

/-- The rule for a first action at one state only. -/
theorem bind_at [IsTrans σ related]
    {action : EStateM ε σ α} {continuation : α → EStateM ε σ β} {state : σ}
    (first : related state (finalState (action.run state)))
    (second : ∀ value, Respects related (continuation value)) :
    related state (finalState ((action >>= continuation).run state)) := by
  rw [EStateM.run_bind]
  cases outcome : action.run state with
  | ok value middle =>
      rw [outcome] at first
      exact IsTrans.trans _ _ _ first (second value middle)
  | error error middle =>
      rw [outcome] at first
      exact first

theorem bind [IsTrans σ related]
    {action : EStateM ε σ α} {continuation : α → EStateM ε σ β}
    (first : Respects related action)
    (second : ∀ value, Respects related (continuation value)) :
    Respects related (action >>= continuation) :=
  fun state => bind_at (first state) second

theorem pure [Std.Refl related] (value : α) :
    Respects related (Pure.pure value : EStateM ε σ α) :=
  fun state => Std.Refl.refl state

theorem throw [Std.Refl related] (error : ε) :
    Respects related (MonadExcept.throw error : EStateM ε σ α) :=
  fun state => Std.Refl.refl state

theorem get [Std.Refl related] :
    Respects related (MonadState.get : EStateM ε σ σ) :=
  fun state => Std.Refl.refl state

theorem modify {change : σ → σ}
    (changed : ∀ state, related state (change state)) :
    Respects related
      (modifyGet fun state => (PUnit.unit, change state) :
        EStateM ε σ PUnit) :=
  changed

theorem ite {condition : Prop} [Decidable condition]
    {positive negative : EStateM ε σ α}
    (whenTrue : Respects related positive)
    (whenFalse : Respects related negative) :
    Respects related (if condition then positive else negative) := by
  split
  · exact whenTrue
  · exact whenFalse

end Respects

/-- The relation of an invariant: what held before still holds after. -/
def Preserves (property : σ → Prop) (before after : σ) : Prop :=
  property before → property after

instance (property : σ → Prop) : IsPreorder σ (Preserves property) where
  refl _ := id
  trans _ _ _ first second := second ∘ first

/-- The relation of a part that stays as it is. -/
def Fixes (part : σ → β) (before after : σ) : Prop :=
  part after = part before

instance (part : σ → β) : IsPreorder σ (Fixes part) where
  refl _ := rfl
  trans _ _ _ first second := second.trans first

end JellyfinTv.Library
