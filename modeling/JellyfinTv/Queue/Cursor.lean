import JellyfinTv.Queue.Providers
import JellyfinTv.Queue.Refinement

/-!
# The cursor of the queue

The index and the entry of the queue agree after every operation except one:
removing the current entry moves the index back and relies on `next` to select
another entry, and `next` may find none.  `removalAdvances` is the condition
under which it does.
-/

namespace JellyfinTv.Queue

open QueueService Library

namespace QueueService

/-- The published index and entry agree with the published entries. -/
def CursorAgrees (queue : FixedQueue) : Prop :=
  queue.entryIndex = INDEX_NONE ∧ queue.entry = none ∨
    0 ≤ queue.entryIndex ∧ queue.entryIndex < queue.entries.length ∧
      queue.entry = queue.entries[queue.entryIndex.toNat]?

instance (queue : FixedQueue) : Decidable queue.CursorAgrees :=
  inferInstanceAs (Decidable (_ ∨ _))

/-- The index and the entry agree with the cache. -/
def PointsAtEntry (queue : FixedQueue) : Prop :=
  queue.entryIndex = INDEX_NONE ∧ queue.entry = none ∨
    0 ≤ queue.entryIndex ∧
      queue.entryIndex < queue.fetchedEntries.length ∧
      queue.entry = queue.fetchedEntries[queue.entryIndex.toNat]?

theorem cursorAgrees_iff {queue : FixedQueue}
    (published : Published queue) :
    queue.CursorAgrees ↔ queue.PointsAtEntry := by
  rw [CursorAgrees, PointsAtEntry, published]

/-- Loading more entries keeps the cursor on its entry. -/
theorem PointsAtEntry.of_growth {before after : FixedQueue}
    (points : before.PointsAtEntry)
    (fetched : before.fetchedEntries <+: after.fetchedEntries)
    (sameIndex : after.entryIndex = before.entryIndex)
    (sameEntry : after.entry = before.entry) :
    after.PointsAtEntry := by
  rcases points with ⟨noIndex, noEntry⟩ | ⟨nonneg, inside, current⟩
  · exact Or.inl ⟨sameIndex.trans noIndex, sameEntry.trans noEntry⟩
  · have longer := fetched.length_le
    obtain ⟨suffix, extended⟩ := fetched
    refine Or.inr ⟨by omega, by omega, ?_⟩
    rw [sameEntry, current, sameIndex, ← extended,
      List.getElem?_append_left (by omega)]

theorem PointsAtEntry.of_selects {before after : FixedQueue}
    (points : before.PointsAtEntry) (selects : Selects before after) :
    after.PointsAtEntry := by
  rw [selects.frame]
  exact points

theorem PointsAtEntry.of_loads {before after : FixedQueue}
    (points : before.PointsAtEntry) (loads : Loads before after) :
    after.PointsAtEntry :=
  points.of_growth loads.fetched (by rw [loads.frame])
    (by rw [loads.frame])

/-- A jump always leaves index and entry in agreement. -/
theorem pointsAtEntry_jump (index : Int) (saveHistory : Bool)
    (queue : FixedQueue) :
    (jump index saveHistory queue).PointsAtEntry := by
  have sameContents :=
    (Keeps.of_saveCurrentIndex saveHistory queue).contents
  obtain ⟨_, loads, _, reached⟩ :=
    getOrSupplyEntry_spec index (saveCurrentIndex saveHistory queue)
  rw [sameContents] at reached
  have loadedContents := loads.contents.trans sameContents
  cases found : entryAt queue.contents index with
  | none =>
      exact Or.inl (by simp [jump, applyIndex, found])
  | some entry =>
      have nonneg : 0 ≤ index := by
        by_contra negative
        simp [entryAt, negative] at found
      have located : queue.contents[index.toNat]? = some entry := by
        simpa [entryAt, nonneg] using found
      obtain ⟨below, _⟩ := List.getElem?_eq_some_iff.mp located
      have inside :
          index <
            (load index
              (saveCurrentIndex saveHistory queue)).fetchedEntries.length := by
        rcases reached with cached | complete
        · exact cached
        · rw [complete]
          omega
      have fetched :
          (load index
              (saveCurrentIndex saveHistory queue)).fetchedEntries[
                index.toNat]? = some entry := by
        rw [← located, ← loadedContents, contents,
          List.getElem?_append_left (by omega)]
      apply Or.inr
      simp only [jump, applyIndex, found]
      exact ⟨nonneg, inside, fetched.symm⟩

theorem pointsAtEntry_movement : Movement (Preserves PointsAtEntry) where
  selects selects points := points.of_selects selects
  loads index queue points :=
    points.of_loads (getOrSupplyEntry_spec index queue).2.1
  jumps index saveHistory queue _ :=
    pointsAtEntry_jump index saveHistory queue
  forgets _ points := points

/-- The prepared indices of the queue are not negative. -/
def PreparesNonneg (queue : FixedQueue) : Prop :=
  NonnegPrepared queue.orderIndexProvider.nextIndices

theorem preparesNonneg_movement : Movement (Preserves PreparesNonneg) where
  selects selects nonneg := selects.nonneg nonneg
  loads index queue nonneg := by
    rw [PreparesNonneg, load_provider]
    exact nonneg
  jumps index saveHistory queue nonneg := by
    rw [PreparesNonneg, jump_provider]
    exact nonneg
  forgets _ nonneg := nonneg

theorem estimatedSize_dropEntry {Supplier : Type} [QueueSupplier Supplier]
    {queue : QueueService Supplier} {index : Nat}
    (inside : index < queue.fetchedEntries.length) :
    (queue.dropEntry index).estimatedSize = queue.estimatedSize - 1 := by
  have shorter :
      (queue.fetchedEntries.eraseIdx index).length =
        queue.fetchedEntries.length - 1 :=
    List.length_eraseIdx_of_lt inside
  simp only [estimatedSize, dropEntry, shorter]
  omega

/-- Removing another entry shifts the cursor along with its entry. -/
theorem pointsAtEntry_dropEntry {queue : FixedQueue} {entry : QueueEntry}
    {index : Nat} (points : queue.PointsAtEntry)
    (found : queue.indexOf entry = some index)
    (other : queue.entry ≠ some entry) :
    (queue.dropEntry index).PointsAtEntry := by
  obtain ⟨inside, located, _⟩ := List.idxOf?_eq_some_iff.mp found
  rcases points with ⟨noIndex, noEntry⟩ | ⟨nonneg, below, current⟩
  · refine Or.inl ⟨?_, noEntry⟩
    simp only [dropEntry, noIndex, INDEX_NONE]
    split <;> omega
  · obtain ⟨position, same⟩ := Int.eq_ofNat_of_zero_le nonneg
    rw [same, Int.toNat_natCast] at current
    have distinct : position ≠ index := by
      rintro rfl
      apply other
      rw [current, List.getElem?_eq_getElem inside]
      simpa using located
    apply Or.inr
    simp only [dropEntry, same, List.length_eraseIdx_of_lt inside]
    rcases Nat.lt_or_gt_of_ne distinct with before | after
    · rw [if_neg (by omega), Int.toNat_natCast,
        List.getElem?_eraseIdx_of_lt before]
      exact ⟨by omega, by omega, current⟩
    · obtain ⟨earlier, rfl⟩ : ∃ earlier, position = earlier + 1 :=
        ⟨position - 1, by omega⟩
      rw [if_pos (by omega), show ((earlier + 1 : Nat) : Int) - 1 =
        (earlier : Int) by omega, Int.toNat_natCast,
        List.getElem?_eraseIdx_of_ge (by omega)]
      exact ⟨by omega, by omega, current⟩

/-- After the removal of the current entry, `next` finds another index: the
default order has a position behind it, the random order has kept a prepared
index or can draw. -/
def FindsNext (size entryIndex index : Int) : OrderIndexProvider → Prop
  | .default => entryIndex + 1 < size
  | .random prepared => (∃ other ∈ prepared, other ≠ index) ∨ 1 < size
  | .shuffle _ => False

instance (size entryIndex index : Int) :
    ∀ provider, Decidable (FindsNext size entryIndex index provider)
  | .default => inferInstanceAs (Decidable (_ < _))
  | .random _ => inferInstanceAs (Decidable (_ ∨ _))
  | .shuffle _ => inferInstanceAs (Decidable False)

/-- Whenever the operation removes the current entry, there is another index
for `next`. -/
def RemovalAdvances (queue : FixedQueue) :
    Operation FixedSupplier → Prop
  | .removeEntry entry =>
      ∀ index ∈ queue.indexOf entry,
        queue.entry = some entry →
          FindsNext queue.estimatedSize queue.entryIndex index
            queue.orderIndexProvider
  | _ => True

instance (queue : FixedQueue) :
    ∀ operation, Decidable (queue.RemovalAdvances operation)
  | .removeEntry _ =>
      inferInstanceAs (Decidable (∀ index ∈ queue.indexOf _, _))
  | .addSupplier _ | .setIndex _ _ | .next _ _ | .previous
  | .peekNext _ _ _ | .peekPrevious | .clear | .mediaStreamEnd
  | .setPlaybackOrder _ | .setRepeatMode _ => isTrue trivial

theorem next_default_jumps {queue : FixedQueue}
    {usePlaybackOrder useRepeatMode : Bool}
    (mode : queue.effectiveRepeatMode useRepeatMode = .none)
    (chosen : queue.provider usePlaybackOrder = .default)
    (valid : -1 ≤ queue.entryIndex)
    (more : queue.entryIndex + 1 < queue.estimatedSize) :
    (next usePlaybackOrder useRepeatMode).run queue =
      .ok (entryAt queue.contents (queue.entryIndex + 1))
        (jump (queue.entryIndex + 1) true queue) := by
  rw [next_default mode chosen, if_pos more, setIndex_run,
    if_neg (by omega)]

/-- In the random order `next` jumps to some index that is not negative. -/
theorem next_random_jumps {queue : FixedQueue} {useRepeatMode : Bool}
    {prepared : List Int}
    (mode : queue.effectiveRepeatMode useRepeatMode = .none)
    (order : queue.orderIndexProvider = .random prepared)
    (nonneg : NonnegPrepared prepared)
    (drawable : 0 < queue.estimatedSize ∨ 1 ≤ prepared.length) :
    ∃ index selected,
      (next true useRepeatMode).run queue =
        .ok (entryAt selected.contents index)
          (jump index true selected) := by
  obtain ⟨index, rest, shape, outcome⟩ :=
    next_random mode order drawable
  have start : 0 ≤ index := by
    apply nonneg_prepare nonneg drawable queue.random
    rw [shape]
    exact List.mem_cons_self
  rw [setIndex_run, if_neg (by omega)] at outcome
  exact ⟨index, _, outcome⟩

/-- Removing the current entry ends in a jump when there is another index. -/
theorem next_after_dropEntry {queue : FixedQueue} {entry : QueueEntry}
    {index : Nat} (points : queue.PointsAtEntry)
    (nonneg : queue.PreparesNonneg)
    (found : queue.indexOf entry = some index)
    (current : queue.entry = some entry)
    (finds :
      FindsNext queue.estimatedSize queue.entryIndex index
        queue.orderIndexProvider) :
    ∃ response target selected,
      (next true false).run (queue.dropEntry index) =
        .ok response (jump target true selected) := by
  obtain ⟨inside, _, first⟩ := List.idxOf?_eq_some_iff.mp found
  have smaller := estimatedSize_dropEntry inside
  have mode :
      (queue.dropEntry index).effectiveRepeatMode false = .none := rfl
  cases order : queue.orderIndexProvider with
  | default =>
      rw [order] at finds
      have more : queue.entryIndex + 1 < queue.estimatedSize := finds
      have shifted :
          (queue.dropEntry index).entryIndex = queue.entryIndex - 1 ∧
            0 ≤ queue.entryIndex := by
        rcases points with ⟨_, noEntry⟩ | ⟨start, below, pointed⟩
        · rw [noEntry] at current
          cases current
        · have reached : index ≤ queue.entryIndex.toNat := by
            by_contra early
            apply first queue.entryIndex.toNat (by omega)
            rw [current, List.getElem?_eq_getElem (by omega)] at pointed
            simpa using (Option.some.inj pointed).symm
          refine ⟨?_, start⟩
          simp only [dropEntry]
          rw [if_pos (by omega)]
      have provided : (queue.dropEntry index).provider true = .default := by
        simp [provider, dropEntry, order, OrderIndexProvider.notifyRemoved]
      exact ⟨_, _, _, next_default_jumps mode provided (by omega) (by omega)⟩
  | random prepared =>
      rw [order] at finds
      have provided :
          (queue.dropEntry index).orderIndexProvider =
            .random (shiftRemoved index prepared) := by
        simp [dropEntry, order, OrderIndexProvider.notifyRemoved]
      have kept : NonnegPrepared (shiftRemoved index prepared) := by
        rw [PreparesNonneg, order] at nonneg
        exact nonneg.shiftRemoved (Int.natCast_nonneg index)
      have drawable :
          0 < (queue.dropEntry index).estimatedSize ∨
            1 ≤ (shiftRemoved index prepared).length := by
        rcases finds with ⟨other, member, different⟩ | several
        · apply Or.inr
          rw [shiftRemoved, List.length_map]
          apply List.length_pos_of_mem
          exact List.mem_filter.mpr ⟨member, by simpa using different⟩
        · exact Or.inl (by omega)
      obtain ⟨target, selected, outcome⟩ :=
        next_random_jumps mode provided kept drawable
      exact ⟨_, target, selected, outcome⟩
  | shuffle prepared =>
      rw [order] at finds
      exact finds.elim

/-- A removal that advances ends with the cursor on the published entries. -/
theorem removeEntry_settles {queue : FixedQueue} {entry : QueueEntry}
    {index : Nat} (points : queue.PointsAtEntry)
    (nonneg : queue.PreparesNonneg)
    (found : queue.indexOf entry = some index)
    (advances : queue.RemovalAdvances (.removeEntry entry)) :
    (step queue (.removeEntry entry)).PointsAtEntry ∧
      Published (step queue (.removeEntry entry)) := by
  rw [step_removeEntry_eq found, finishRemoval_run]
  by_cases current : queue.entry = some entry
  · obtain ⟨response, target, selected, outcome⟩ :=
      next_after_dropEntry points nonneg found current
        (advances index found current)
    have same : (queue.dropEntry index).entry = some entry := current
    rw [if_pos same, outcome]
    exact ⟨pointsAtEntry_jump target true selected, rfl⟩
  · have same : (queue.dropEntry index).entry ≠ some entry := current
    rw [if_neg same]
    exact ⟨pointsAtEntry_dropEntry points found current, rfl⟩

/-- The invariant of the runs: the cursor is on an entry of the cache, which
is published, and no prepared index is negative. -/
structure Settled (queue : FixedQueue) : Prop where
  points : queue.PointsAtEntry
  published : Published queue
  nonneg : queue.PreparesNonneg

theorem preparesNonneg_ofOrder (order : PlaybackOrder) :
    NonnegPrepared (OrderIndexProvider.ofOrder order).nextIndices := by
  cases order <;> exact fun _ member => absurd member List.not_mem_nil

theorem step_preparesNonneg {queue : FixedQueue}
    (nonneg : queue.PreparesNonneg)
    (operation : Operation FixedSupplier) :
    (step queue operation).PreparesNonneg := by
  cases operation using steadyCases with
  | steady operation steady =>
      exact preparesNonneg_movement.perform steady queue nonneg
  | addSupplier supplier =>
      exact preparesNonneg_movement.step_addSupplier queue supplier nonneg
  | removeEntry entry =>
      cases found : queue.indexOf entry with
      | none =>
          rw [step_removeEntry_of_absent found]
          exact nonneg
      | some index =>
          rw [step_removeEntry_eq found]
          exact preparesNonneg_movement.finishRemoval
            (fun _ => id) entry (queue.dropEntry index)
            (OrderIndexProvider.nonneg_notifyRemoved nonneg
              (Int.natCast_nonneg index))
  | clear =>
      exact nonneg
  | setPlaybackOrder order =>
      rw [step_setPlaybackOrder, setPlaybackOrder]
      split
      · exact nonneg
      · exact preparesNonneg_ofOrder order

theorem step_settled (queue : FixedQueue)
    (operation : Operation FixedSupplier) (settled : queue.Settled)
    (advances : queue.RemovalAdvances operation) :
    (step queue operation).Settled := by
  have nonneg := step_preparesNonneg settled.nonneg operation
  cases operation using steadyCases with
  | steady operation steady =>
      exact
        { points :=
            pointsAtEntry_movement.perform steady queue settled.points
          published := (step_keeps steady queue).published settled.published
          nonneg := nonneg }
  | addSupplier supplier =>
      exact
        { points :=
            pointsAtEntry_movement.step_addSupplier queue supplier
              settled.points
          published :=
            (step_addSupplier queue supplier).published settled.published
          nonneg := nonneg }
  | removeEntry entry =>
      cases found : queue.indexOf entry with
      | none =>
          rw [step_removeEntry_of_absent found]
          exact settled
      | some index =>
          obtain ⟨points, published⟩ :=
            removeEntry_settles settled.points settled.nonneg found
              advances
          exact ⟨points, published, nonneg⟩
  | clear =>
      exact ⟨Or.inl ⟨rfl, rfl⟩, rfl, nonneg⟩
  | setPlaybackOrder order =>
      refine ⟨?_, ?_, nonneg⟩
      · rw [step_setPlaybackOrder, setPlaybackOrder_frame]
        exact settled.points
      · rw [step_setPlaybackOrder, setPlaybackOrder_frame]
        exact settled.published

theorem settled_fresh (order : PlaybackOrder) (mode : RepeatMode)
    (random : Random) :
    Settled (QueueService.fresh order mode random) where
  points := Or.inl ⟨rfl, rfl⟩
  published := rfl
  nonneg := preparesNonneg_ofOrder order

end QueueService

/-- In every run in which the removals of the current entry leave an index for
`next`, the index, the entry and the published entries agree after every
operation. -/
theorem cursor_agrees_while_removals_advance
    (order : PlaybackOrder) (mode : RepeatMode) (random : Random)
    (operations : List (Operation FixedSupplier))
    (advances :
      Admitted step RemovalAdvances
        (QueueService.fresh order mode random) operations) :
    ∀ performed, performed <+: operations →
      (run step (QueueService.fresh order mode random)
        performed).CursorAgrees := by
  intro performed early
  have settled :
      (run step (QueueService.fresh order mode random)
        performed).Settled :=
    run_invariant step_settled (settled_fresh order mode random)
      (advances.earlier early)
  exact (cursorAgrees_iff settled.published).mpr settled.points

theorem cursor_agrees_after_removals :
    (run step (QueueService.fresh .default .none (fun _ => 0))
      [.addSupplier (.ofList [⟨0⟩, ⟨1⟩, ⟨2⟩]), .next true false,
        .removeEntry ⟨0⟩, .removeEntry ⟨1⟩]).CursorAgrees :=
  cursor_agrees_while_removals_advance .default .none (fun _ => 0)
    [.addSupplier (.ofList [⟨0⟩, ⟨1⟩, ⟨2⟩]), .next true false,
      .removeEntry ⟨0⟩, .removeEntry ⟨1⟩] (by decide) _ List.prefix_rfl

/-- Removing the last entry while it is current moves the index back and keeps
the removed entry as the current one. -/
theorem cursor_disagrees_after_removing_last :
    let start : FixedQueue :=
      QueueService.fresh .default .none (fun _ => 0)
    let operations : List (Operation FixedSupplier) :=
      [.addSupplier (.ofList [⟨0⟩, ⟨1⟩]), .next true false,
        .removeEntry ⟨1⟩]
    Admitted step Distinct start operations ∧
      ¬ (run step start operations).CursorAgrees := by
  decide

end JellyfinTv.Queue
