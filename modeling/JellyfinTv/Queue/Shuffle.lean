import JellyfinTv.Queue.Providers
import JellyfinTv.Queue.Sizes

/-!
# Shuffle over a whole queue

With calls of `next` only, the shuffle provider starts every call with nothing
prepared and draws from the whole range without the played indices.  The
current index has not been played and the range includes its upper end, so the
call after every entry has been current still selects something.
-/

namespace JellyfinTv.Queue

open QueueService Library

namespace QueueService

/-- The queue after `count` calls of `next()`. -/
def afterNext (start : FixedQueue) : Nat → FixedQueue
  | 0 => start
  | count + 1 => step (afterNext start count) (.next true false)

/-- The index that a call of `next()` would select. -/
def selectedIndex (queue : FixedQueue) : Option Int :=
  match (getNextIndices 1 true false).run queue with
  | .ok indices _ => indices.head?
  | .error _ _ => none

/-- The calls of `next()` from `start` make the other entries of a queue of
`size` entries current once each and then end. -/
structure PlaysEachOnce (start : FixedQueue) (size : Nat) : Prop where
  returns : ∀ count, Completes (start.afterNext count) (.next true false)
  inRange :
    ∀ count index, (start.afterNext count).selectedIndex = some index →
      0 ≤ index ∧ index < size
  eachOnce :
    ((List.range (size - 1)).map fun count =>
        (start.afterNext (count + 1)).entryIndex).Perm
      (((List.range size).map fun i : Nat => (i : Int)).erase
        start.entryIndex)
  ends :
    ∃ final,
      (next true false).run (start.afterNext (size - 1)) = .ok none final

/-- A shuffled queue after at most `count` calls of `next()`. -/
structure Shuffling (size count : Nat) (queue : FixedQueue) : Prop where
  provider : queue.orderIndexProvider = .shuffle []
  history : queue.currentQueueIndicesPlayed.length ≤ count
  counted : queue.Counted
  contents : queue.contents.length = size

namespace Shuffling

variable {size count : Nat} {queue : FixedQueue}

theorem estimatedSize (shuffling : Shuffling size count queue) :
    queue.estimatedSize = size := by
  rw [shuffling.counted.estimatedSize, shuffling.contents]

/-- A call of `next()` before the last entry jumps to a drawn index. -/
theorem next_jumps (shuffling : Shuffling size count queue)
    (early : count < size) :
    ∃ index : Int, 0 ≤ index ∧
      queue.selectedIndex = some index ∧
      (next true false).run queue =
        .ok (entryAt queue.contents index)
          (jump index true { queue with random := queue.random.tail }) := by
  have played := shuffling.history
  have total := shuffling.estimatedSize
  have mode : queue.effectiveRepeatMode false = .none := rfl
  have nonempty :
      ShuffleOrderIndexProvider.remainingIndices queue.estimatedSize
        queue.currentQueueIndicesPlayed [] ≠ [] := by
    apply remainingIndices_ne_nil
    simp only [List.length_nil]
    omega
  obtain ⟨picked, outcome⟩ :=
    next_shuffle mode shuffling.provider (Nat.zero_le 1) (by omega)
      nonempty rfl
  have start :
      0 ≤ pick (ShuffleOrderIndexProvider.remainingIndices
        queue.estimatedSize queue.currentQueueIndicesPlayed [])
          queue.random :=
    remainingIndices_nonneg _ _ _ _ (pick_mem nonempty _)
  have unprepared :
      { queue with
        orderIndexProvider := .shuffle []
        random := queue.random.tail } =
      { queue with random := queue.random.tail } := by
    rw [← shuffling.provider]
  refine ⟨_, start, ?_, ?_⟩
  · rw [selectedIndex, picked]
    rfl
  · rw [outcome, setIndex_run, if_neg (by omega)]
    simp only [List.nil_append, List.tail_cons, unprepared]
    rfl

theorem step (shuffling : Shuffling size count queue)
    (early : count < size) :
    Shuffling size (count + 1) (Queue.step queue (.next true false)) := by
  obtain ⟨index, _, _, outcome⟩ := shuffling.next_jumps early
  have steady : Steady (.next true false) := trivial
  have keeps := step_keeps steady queue
  have final :
      Queue.step queue (.next true false) =
        jump index true { queue with random := queue.random.tail } :=
    step_next outcome
  exact
    { provider := by
        rw [final, jump_provider]
        exact shuffling.provider
      history := by
        rw [final, jump_history]
        exact Nat.le_trans (length_saveCurrentIndex_le true _)
          (Nat.succ_le_succ shuffling.history)
      counted := shuffling.counted.of_keeps keeps
      contents := by
        rw [keeps.contents]
        exact shuffling.contents }

theorem afterNext {start : FixedQueue} (shuffling : Shuffling size 0 start)
    (early : count ≤ size) : Shuffling size count (start.afterNext count) := by
  induction count with
  | zero =>
      exact shuffling
  | succ count inductionHypothesis =>
      exact (inductionHypothesis (Nat.le_of_succ_le early)).step early

end Shuffling

end QueueService

/-- Over every nonempty queue, from every current entry and for every outcome
of the random choices, shuffling does not play every entry once: after as many
calls as there are other entries, the next call still selects an index, which
lies outside of the queue or repeats an entry. -/
theorem shuffle_plays_no_queue_once
    (suppliers : List FixedSupplier)
    (exact : ∀ supplier ∈ suppliers, supplier.Exact)
    (current : Nat)
    (inside :
      current < (suppliers.flatMap FixedSupplier.items).length)
    (random : Random) :
    ¬ PlaysEachOnce (filled .shuffle .none random suppliers current)
      (suppliers.flatMap FixedSupplier.items).length := by
  intro plays
  have stocked := stocked_filled .shuffle .none random exact current
  have shuffling :
      Shuffling (suppliers.flatMap FixedSupplier.items).length 0
        (filled .shuffle .none random suppliers current) :=
    { provider := stocked.provider
      history := by rw [stocked.history]; exact Nat.le_refl 0
      counted := stocked.counted
      contents := by rw [stocked.contents] }
  have reached := shuffling.afterNext (Nat.sub_le _ 1)
  obtain ⟨index, start, selected, outcome⟩ :=
    reached.next_jumps (by omega)
  obtain ⟨_, below⟩ := plays.inRange _ index selected
  obtain ⟨final, ended⟩ := plays.ends
  rw [outcome] at ended
  injection ended with missing _
  rw [entryAt, if_pos start, List.getElem?_eq_none_iff,
    reached.contents] at missing
  omega

theorem shuffle_does_not_play_two_entries_once :
    0 < ([FixedSupplier.ofList [⟨0⟩, ⟨1⟩]].flatMap
        FixedSupplier.items).length ∧
      ¬ PlaysEachOnce
        (filled .shuffle .none (fun _ => 1)
          [FixedSupplier.ofList [⟨0⟩, ⟨1⟩]] 0) 2 :=
  ⟨by decide,
    shuffle_plays_no_queue_once [FixedSupplier.ofList [⟨0⟩, ⟨1⟩]]
      (by simpa using FixedSupplier.ofList_exact [⟨0⟩, ⟨1⟩]) 0 (by decide)
      (fun _ => 1)⟩

/-- With the draw `0` the first call of `next()` selects the entry that is
already current. -/
theorem shuffle_repeats_current_entry :
    ¬ PlaysEachOnce
      (filled .shuffle .none (fun _ => 0)
        [FixedSupplier.ofList [⟨0⟩, ⟨1⟩]] 0) 2 := by
  intro plays
  exact absurd plays.eachOnce (by decide)

end JellyfinTv.Queue
