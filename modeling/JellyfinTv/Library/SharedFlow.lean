import Mathlib.Data.List.Basic

/-!
# Shared flows with a replay cache

A shared flow keeps the newest values up to a capacity and drops the oldest.
A collector keeps the position of the next value it takes; values that were
dropped before it came to them are skipped.  To the collector the flow is a
bounded queue that drops its oldest value, which is what `pending` says.
-/

namespace JellyfinTv.Library

universe u

variable {α : Type u}

/-- The cached values, the position of the first one, and the position of the
collector. -/
structure SharedFlow (α : Type u) (replay : Nat) where
  cache : List α
  head : Nat
  position : Nat
  within : cache.length ≤ replay
  position_le : position ≤ head + cache.length

namespace SharedFlow

variable {replay : Nat}

/-- The flow without values. -/
def empty : SharedFlow α replay where
  cache := []
  head := 0
  position := 0
  within := Nat.zero_le replay
  position_le := Nat.le_refl 0

def emit (flow : SharedFlow α replay) (value : α) : SharedFlow α replay where
  cache := (flow.cache ++ [value]).drop (flow.cache.length + 1 - replay)
  head := flow.head + (flow.cache.length + 1 - replay)
  position := flow.position
  within := by
    rw [List.length_drop, List.length_append, List.length_singleton]
    omega
  position_le := by
    have bounded := flow.position_le
    rw [List.length_drop, List.length_append, List.length_singleton]
    omega

/-- The values that the collector has still to take. -/
def pending (flow : SharedFlow α replay) : List α :=
  flow.cache.drop (flow.position - flow.head)

/-- A new collector begins with the newest values only, as many as are
replayed to it. -/
def subscribe (flow : SharedFlow α replay) (count : Nat) :
    SharedFlow α replay where
  cache := flow.cache
  head := flow.head
  position := flow.head + (flow.cache.length - count)
  within := flow.within
  position_le := Nat.add_le_add_left (Nat.sub_le _ _) _

/-- The collector takes its next value, if there is one. -/
def collect (flow : SharedFlow α replay) :
    Option α × SharedFlow α replay :=
  match waiting : flow.pending with
  | [] => (none, flow)
  | value :: _ =>
      (some value,
        { flow with
          position := max flow.position flow.head + 1
          position_le := by
            have length := congrArg List.length waiting
            have bounded := flow.position_le
            rw [pending, List.length_drop, List.length_cons] at length
            omega })

theorem pending_length_le (flow : SharedFlow α replay) :
    flow.pending.length ≤ replay := by
  have within := flow.within
  rw [pending, List.length_drop]
  omega

/-- An emitted value joins the pending ones, of which the oldest are dropped
beyond the capacity. -/
theorem pending_emit (flow : SharedFlow α replay) (value : α) :
    (flow.emit value).pending =
      (flow.pending ++ [value]).drop (flow.pending.length + 1 - replay) := by
  have bounded := flow.position_le
  have inside :
      flow.position - flow.head - flow.cache.length = 0 := by omega
  have joined :
      flow.pending ++ [value] =
        (flow.cache ++ [value]).drop (flow.position - flow.head) := by
    rw [pending, List.drop_append, inside, List.drop_zero]
  have length :
      flow.pending.length =
        flow.cache.length - (flow.position - flow.head) := by
    rw [pending, List.length_drop]
  have offsets :
      flow.cache.length + 1 - replay +
          (flow.position - (flow.head + (flow.cache.length + 1 - replay))) =
        flow.position - flow.head + (flow.pending.length + 1 - replay) := by
    omega
  rw [joined, List.drop_drop, ← offsets, ← List.drop_drop]
  rfl

theorem pending_emit_ne_nil (flow : SharedFlow α replay) (value : α)
    (positive : 0 < replay) : (flow.emit value).pending ≠ [] := by
  rw [pending_emit, ← List.length_pos_iff, List.length_drop,
    List.length_append, List.length_singleton]
  omega

theorem cache_emit_ne_nil (flow : SharedFlow α replay) (value : α)
    (positive : 0 < replay) : (flow.emit value).cache ≠ [] := by
  rw [emit, ← List.length_pos_iff, List.length_drop, List.length_append,
    List.length_singleton]
  omega

/-- If anything was emitted, a new collector has something to take. -/
theorem pending_subscribe_ne_nil {flow : SharedFlow α replay} {count : Nat}
    (positive : 0 < count) (emitted : flow.cache ≠ []) :
    (flow.subscribe count).pending ≠ [] := by
  have some := List.length_pos_iff.mpr emitted
  rw [pending, ← List.length_pos_iff, List.length_drop, subscribe]
  dsimp only
  omega

@[simp]
theorem cache_collect (flow : SharedFlow α replay) :
    flow.collect.2.cache = flow.cache := by
  unfold collect
  split
  · rfl
  · rfl

theorem collect_of_caughtUp {flow : SharedFlow α replay}
    (caughtUp : flow.pending = []) : flow.collect = (none, flow) := by
  unfold collect
  split
  · rfl
  · rename_i waiting
    rw [caughtUp] at waiting
    cases waiting

/-- The collector takes the oldest pending value. -/
theorem collect_of_pending {flow : SharedFlow α replay} {value : α}
    {rest : List α} (waiting : flow.pending = value :: rest) :
    ∃ later : SharedFlow α replay,
      flow.collect = (some value, later) ∧ later.pending = rest := by
  unfold collect
  split
  · rename_i caughtUp
    rw [waiting] at caughtUp
    cases caughtUp
  · rename_i first others same
    rw [waiting] at same
    cases same
    refine ⟨_, rfl, ?_⟩
    have offsets :
        max flow.position flow.head + 1 - flow.head =
          flow.position - flow.head + 1 := by
      omega
    rw [pending] at waiting
    simp only [pending]
    rw [offsets, ← List.drop_drop, waiting]
    rfl

end SharedFlow

end JellyfinTv.Library
