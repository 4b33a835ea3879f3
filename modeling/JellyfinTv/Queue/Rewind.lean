import Mathlib.Data.List.Induction
import JellyfinTv.Queue.Navigation
import JellyfinTv.Queue.Range

/-!
# Going back through the play history

Each `previous` moves to the last index of the history, so a chain of them
visits the entries of the history from the end.  `next` saves exactly the
position it leaves; a chain of them is undone by as many calls of `previous`.
-/

namespace JellyfinTv.Queue

open QueueService Library

namespace QueueService

section Rewind

variable {Supplier : Type}

/-- The cursor, the current entry and the play history are the same. -/
structure SamePlace (before after : QueueService Supplier) : Prop where
  entryIndex : after.entryIndex = before.entryIndex
  entry : after.entry = before.entry
  history :
    after.currentQueueIndicesPlayed = before.currentQueueIndicesPlayed

/-- Only entries were loaded, or indices prepared. -/
structure Peeks (before after : QueueService Supplier) : Prop
    extends SamePlace before after where
  fetched : before.fetchedEntries <+: after.fetchedEntries

instance : IsPreorder (QueueService Supplier) Peeks where
  refl _ := ⟨⟨rfl, rfl, rfl⟩, List.prefix_rfl⟩
  trans _ _ _ first second :=
    ⟨⟨second.entryIndex.trans first.entryIndex,
        second.entry.trans first.entry,
        second.history.trans first.history⟩,
      first.fetched.trans second.fetched⟩

instance : Peeking (@Peeks Supplier) where
  stores _ _ := ⟨⟨rfl, rfl, rfl⟩, List.prefix_rfl⟩
  accepts queue item := by
    cases item with
    | none =>
        exact ⟨⟨rfl, rfl, rfl⟩, List.prefix_rfl⟩
    | some entry =>
        exact ⟨⟨rfl, rfl, rfl⟩, List.prefix_append _ _⟩
  publishes _ := ⟨⟨rfl, rfl, rfl⟩, List.prefix_rfl⟩
  selects selects := by
    rw [selects.frame]
    exact ⟨⟨rfl, rfl, rfl⟩, List.prefix_rfl⟩

variable [QueueSupplier Supplier]

/-- What the calls return or throw, one after the other. -/
def outcomes (queue : QueueService Supplier) :
    List (Operation Supplier) → List (Except QueueException Response)
  | [] => []
  | operation :: rest =>
      outcome queue operation :: outcomes (step queue operation) rest

/-- The calls `previous()`, `count` times. -/
def goBack (count : Nat) : List (Operation Supplier) :=
  List.replicate count .previous

omit [QueueSupplier Supplier] in
theorem inRange_wentBack {queue : QueueService Supplier}
    (inRange : queue.InRange) {index : Int}
    (last : queue.currentQueueIndicesPlayed.getLast? = some index) :
    (queue.wentBack index).InRange := by
  obtain ⟨nonneg, below⟩ := inRange.history index (List.mem_of_getLast? last)
  refine ⟨?_, below, fun other member =>
    inRange.history other (List.dropLast_subset _ member)⟩
  have start : INDEX_NONE ≤ index := by
    rw [INDEX_NONE]
    omega
  exact start

/-- A chain of `previous` visits the last indices of the history in reverse
order and forgets them. -/
theorem run_goBack {queue : QueueService Supplier}
    (inRange : queue.InRange) {kept left : List Int}
    (history : queue.currentQueueIndicesPlayed = kept ++ left) :
    outcomes queue (goBack left.length) =
        left.reverse.map (fun index =>
          .ok (.entry (entryAt queue.fetchedEntries index))) ∧
      run step queue (goBack left.length) =
        { queue with
          currentQueueIndicesPlayed := kept
          entryIndex := left.head?.getD queue.entryIndex
          entry :=
            (left.head?.map (entryAt queue.fetchedEntries)).getD
              queue.entry } := by
  induction left using List.reverseRecOn generalizing queue with
  | nil =>
      have same : kept = queue.currentQueueIndicesPlayed := by
        rw [history, List.append_nil]
      subst same
      exact ⟨rfl, rfl⟩
  | append_singleton earlier index inductionHypothesis =>
      have last :
          queue.currentQueueIndicesPlayed.getLast? = some index := by
        simp [history]
      obtain ⟨returned, moved⟩ :=
        perform_previous (previous_goes_back inRange last)
      have shorter :
          (queue.wentBack index).currentQueueIndicesPlayed =
            kept ++ earlier := by
        simp [wentBack, history, ← List.append_assoc]
      obtain ⟨visited, reached⟩ :=
        inductionHypothesis (inRange_wentBack inRange last) shorter
      have calls :
          (goBack (earlier ++ [index]).length :
              List (Operation Supplier)) =
            .previous :: goBack earlier.length := by
        simp [goBack, List.replicate_succ]
      rw [calls]
      refine ⟨?_, ?_⟩
      · simp only [outcomes, returned, moved, visited,
          List.reverse_append, List.reverse_singleton,
          List.singleton_append, List.map_cons]
        rfl
      · rw [run_cons, moved, reached]
        cases earlier <;> rfl

/-- The queue moves on to an entry, or is only peeked at. -/
def Advances (queue : QueueService Supplier) : Operation Supplier → Prop
  | .next usePlaybackOrder useRepeatMode =>
      Returns queue (.next usePlaybackOrder useRepeatMode)
  | .peekNext _ _ _ | .peekPrevious => True
  | _ => False

/-- The positions that the calls of `next` leave, and the entries there. -/
def placesLeft (queue : QueueService Supplier) :
    List (Operation Supplier) → List (Int × Option QueueEntry)
  | [] => []
  | .next usePlaybackOrder useRepeatMode :: rest =>
      (queue.entryIndex, queue.entry) ::
        placesLeft (step queue (.next usePlaybackOrder useRepeatMode)) rest
  | operation :: rest => placesLeft (step queue operation) rest

/-- The current entry is the one at the cursor. -/
def OnEntry (queue : QueueService Supplier) : Prop :=
  0 ≤ queue.entryIndex ∧
    queue.entry = queue.fetchedEntries[queue.entryIndex.toNat]?

omit [QueueSupplier Supplier] in
theorem fetched_saveCurrentIndex (saveHistory : Bool)
    (queue : QueueService Supplier) :
    (saveCurrentIndex saveHistory queue).fetchedEntries =
      queue.fetchedEntries := by
  unfold saveCurrentIndex
  split <;> rfl

/-- An accepted jump loads entries and saves the current index, also when a
supplier throws. -/
theorem setIndex_leaves {index : Int}
    (accepted : ¬ (index < 0 ∧ index ≠ INDEX_NONE)) (saveHistory : Bool)
    (queue : QueueService Supplier) :
    let final := finalState ((setIndex index saveHistory).run queue)
    queue.fetchedEntries <+: final.fetchedEntries ∧
      final.currentQueueIndicesPlayed =
        (saveCurrentIndex saveHistory queue).currentQueueIndicesPlayed := by
  have saved := fetched_saveCurrentIndex saveHistory queue
  obtain ⟨drawn, peeks, ⟨exception, failed⟩ | supplied⟩ :=
    getOrSupplyEntry_cases Peeks index (saveCurrentIndex saveHistory queue)
  · have threw :
        (setIndex index saveHistory).run queue =
          .error exception drawn := by
      simp only [setIndex, if_neg accepted, EStateM.run_bind,
        EStateM.run_modify, failed]
    rw [threw, ← saved]
    exact ⟨peeks.fetched, peeks.history⟩
  · rw [setIndex_run_of_supplied accepted supplied, ← saved]
    exact ⟨peeks.fetched, peeks.history⟩

theorem setIndex_returns {queue final : QueueService Supplier}
    {index : Int} {saveHistory : Bool} {entry : QueueEntry}
    (ran : (setIndex index saveHistory).run queue = .ok (some entry) final) :
    ¬ (index < 0 ∧ index ≠ INDEX_NONE) ∧ final.entryIndex = index ∧
      final.entry = some entry ∧
      entryAt final.fetchedEntries index = some entry := by
  by_cases rejected : index < 0 ∧ index ≠ INDEX_NONE
  · rw [setIndex, if_pos rejected] at ran
    cases ran
  · obtain ⟨drawn, _, ⟨exception, failed⟩ | supplied⟩ :=
      getOrSupplyEntry_cases Peeks index
        (saveCurrentIndex saveHistory queue)
    · simp only [setIndex, if_neg rejected, EStateM.run_bind,
        EStateM.run_modify, failed] at ran
      cases ran
    · rw [setIndex_run_of_supplied rejected supplied] at ran
      injection ran with found same
      rw [← same, found]
      exact ⟨rejected, rfl, rfl, found⟩

theorem next_of_outcome {queue : QueueService Supplier}
    {usePlaybackOrder useRepeatMode : Bool} {entry : Option QueueEntry}
    (returned :
      outcome queue (.next usePlaybackOrder useRepeatMode) =
        .ok (.entry entry)) :
    (next usePlaybackOrder useRepeatMode).run queue =
      .ok entry (step queue (.next usePlaybackOrder useRepeatMode)) := by
  simp only [outcome, step, perform, EStateM.run_bind] at returned ⊢
  cases ran : (next usePlaybackOrder useRepeatMode).run queue with
  | ok value final =>
      rw [ran] at returned
      cases returned
      rfl
  | error exception final =>
      rw [ran] at returned
      cases returned

/-- `next` leaves its position to the history and moves to an entry. -/
theorem next_leaves_place {queue : QueueService Supplier}
    {usePlaybackOrder useRepeatMode : Bool}
    (returns : Returns queue (.next usePlaybackOrder useRepeatMode))
    (current : queue.OnEntry) :
    (step queue (.next usePlaybackOrder useRepeatMode)).OnEntry ∧
      queue.fetchedEntries <+:
        (step queue
          (.next usePlaybackOrder useRepeatMode)).fetchedEntries ∧
      (step queue
          (.next usePlaybackOrder useRepeatMode)).currentQueueIndicesPlayed =
        queue.currentQueueIndicesPlayed ++ [queue.entryIndex] := by
  obtain ⟨entry, returned⟩ := returns
  have ran := next_of_outcome returned
  obtain ⟨selected, selects, ⟨exception, failed⟩ | ⟨_, ended⟩ | ⟨index, moved⟩⟩ :=
    next_cases usePlaybackOrder useRepeatMode queue
  · rw [failed] at ran
    cases ran
  · rw [ended] at ran
    cases ran
  · rw [moved] at ran
    obtain ⟨accepted, cursor, sameEntry, found⟩ := setIndex_returns ran
    obtain ⟨longer, history⟩ := setIndex_leaves accepted true selected
    rw [ran, finalState_ok] at longer history
    have frame := selects.frame
    have same : selected.entryIndex = queue.entryIndex := by
      rw [frame]
    have start := current.1
    have playing : selected.entryIndex ≠ INDEX_NONE := by
      rw [same, INDEX_NONE]
      omega
    obtain ⟨nonneg, located⟩ :
        0 ≤ index ∧
          (step queue (.next usePlaybackOrder
            useRepeatMode)).fetchedEntries[index.toNat]? = some entry := by
      unfold entryAt at found
      split at found
      · exact ⟨by assumption, found⟩
      · cases found
    refine ⟨⟨?_, ?_⟩, ?_, ?_⟩
    · rw [cursor]
      exact nonneg
    · rw [cursor, sameEntry, located]
    · rw [frame] at longer
      exact longer
    · rw [history, saveCurrentIndex, if_pos ⟨rfl, playing⟩, frame]

/-- Peeking leaves the place as it is. -/
theorem peek_stays {queue : QueueService Supplier}
    {operation : Operation Supplier} (advances : Advances queue operation)
    (peek :
      ∀ usePlaybackOrder useRepeatMode,
        operation ≠ .next usePlaybackOrder useRepeatMode) :
    Peeks queue (step queue operation) ∧
      ∀ rest, placesLeft queue (operation :: rest) =
        placesLeft (step queue operation) rest := by
  cases operation with
  | next usePlaybackOrder useRepeatMode =>
      exact absurd rfl (peek usePlaybackOrder useRepeatMode)
  | peekNext amount usePlaybackOrder useRepeatMode =>
      have peeks :
          Respects Peeks
            (perform (.peekNext amount usePlaybackOrder useRepeatMode) :
              QueueM Supplier Response) :=
        Respects.bind
          (respects_peekNext amount usePlaybackOrder useRepeatMode)
          fun _ => Respects.pure _
      exact ⟨peeks queue, fun _ => rfl⟩
  | peekPrevious =>
      have peeks :
          Respects Peeks
            (perform .peekPrevious : QueueM Supplier Response) :=
        Respects.bind respects_peekPrevious fun _ => Respects.pure _
      exact ⟨peeks queue, fun _ => rfl⟩
  | addSupplier | setIndex | previous | removeEntry | clear
    | mediaStreamEnd | setPlaybackOrder | setRepeatMode =>
      exact advances.elim

/-- What a run of `next` leaves behind: the positions it has left are at the
end of the history, and the cache still has their entries. -/
structure Retraceable (queue final : QueueService Supplier)
    (left : List (Int × Option QueueEntry)) : Prop where
  fetched : queue.fetchedEntries <+: final.fetchedEntries
  history :
    final.currentQueueIndicesPlayed =
      queue.currentQueueIndicesPlayed ++ left.map Prod.fst
  entries :
    ∀ place ∈ left, place.2 = entryAt final.fetchedEntries place.1
  origin :
    left.head?.getD (final.entryIndex, final.entry) =
      (queue.entryIndex, queue.entry)

theorem entryAt_of_prefix {entries longer : List QueueEntry} {index : Int}
    (isPrefix : entries <+: longer) (inside : index < entries.length) :
    entryAt longer index = entryAt entries index := by
  obtain ⟨rest, rfl⟩ := isPrefix
  unfold entryAt
  split
  · rw [List.getElem?_append_left (by omega)]
  · rfl

omit [QueueSupplier Supplier] in
theorem OnEntry.eq {queue : QueueService Supplier}
    (current : queue.OnEntry) :
    queue.entry = entryAt queue.fetchedEntries queue.entryIndex := by
  rw [entryAt, if_pos current.1]
  exact current.2

omit [QueueSupplier Supplier] in
theorem OnEntry.of_peeks {queue after : QueueService Supplier}
    (current : queue.OnEntry) (inRange : queue.InRange)
    (peeks : Peeks queue after) : after.OnEntry := by
  have below := inRange.below
  refine ⟨peeks.entryIndex ▸ current.1, ?_⟩
  have kept := entryAt_of_prefix peeks.fetched below
  rw [entryAt, if_pos current.1, entryAt, if_pos current.1] at kept
  rw [peeks.entry, peeks.entryIndex, kept]
  exact current.2

theorem run_advances {queue : QueueService Supplier}
    {calls : List (Operation Supplier)} (inRange : queue.InRange)
    (current : queue.OnEntry)
    (advances : Admitted step Advances queue calls) :
    Retraceable queue (run step queue calls) (placesLeft queue calls) := by
  induction calls generalizing queue with
  | nil =>
      exact
        ⟨List.prefix_rfl, by simp [placesLeft], by simp [placesLeft], rfl⟩
  | cons call rest inductionHypothesis =>
      have further := step_inRange queue call inRange
      by_cases isNext :
          ∃ usePlaybackOrder useRepeatMode,
            call = .next usePlaybackOrder useRepeatMode
      · obtain ⟨usePlaybackOrder, useRepeatMode, rfl⟩ := isNext
        obtain ⟨onEntry, fetched, history⟩ :=
          next_leaves_place advances.1 current
        have later := inductionHypothesis further onEntry advances.2
        refine
          { fetched := fetched.trans later.fetched
            history := ?_
            entries := ?_
            origin := rfl }
        · rw [run_cons, later.history, history, List.append_assoc]
          rfl
        · intro place member
          rcases List.mem_cons.mp member with rfl | afterwards
          · have kept :=
              entryAt_of_prefix (fetched.trans later.fetched) inRange.below
            exact current.eq.trans kept.symm
          · exact later.entries place afterwards
      · obtain ⟨peeks, places⟩ :=
          peek_stays advances.1 fun usePlaybackOrder useRepeatMode same =>
            isNext ⟨usePlaybackOrder, useRepeatMode, same⟩
        have later :=
          inductionHypothesis further (current.of_peeks inRange peeks)
            advances.2
        rw [places, run_cons]
        exact
          { fetched := peeks.fetched.trans later.fetched
            history := by rw [later.history, peeks.history]
            entries := later.entries
            origin := by
              rw [later.origin, peeks.entryIndex, peeks.entry] }

/-- Going back from where a run of `next` ends. -/
theorem Retraceable.goes_back {queue final : QueueService Supplier}
    {left : List (Int × Option QueueEntry)}
    (retraceable : Retraceable queue final left) (inRange : final.InRange) :
    outcomes final (goBack left.length) =
        left.reverse.map (fun place => .ok (.entry place.2)) ∧
      Peeks queue (run step final (goBack left.length)) := by
  obtain ⟨visited, reached⟩ := run_goBack inRange retraceable.history
  rw [List.length_map] at visited reached
  refine ⟨?_, ?_⟩
  · rw [visited, ← List.map_reverse, List.map_map]
    apply List.map_congr_left
    intro place member
    have kept := retraceable.entries place (List.mem_reverse.mp member)
    rw [Function.comp_apply, kept]
  · have origin := retraceable.origin
    rw [reached]
    cases left with
    | nil =>
        injection origin with cursor entry
        exact ⟨⟨cursor, entry, rfl⟩, retraceable.fetched⟩
    | cons place rest =>
        have kept := retraceable.entries place List.mem_cons_self
        have first : place = (queue.entryIndex, queue.entry) := origin
        rw [first] at kept
        refine ⟨⟨?_, ?_, rfl⟩, retraceable.fetched⟩
        · rw [first]
          rfl
        · rw [first]
          exact kept.symm

/-- At the same place `previous` does the same. -/
theorem previous_from_samePlace {queue other : QueueService Supplier}
    (inRange : queue.InRange) (otherInRange : other.InRange)
    (samePlace : SamePlace queue other)
    (fetched : queue.fetchedEntries <+: other.fetchedEntries) :
    outcome other .previous = outcome queue .previous ∧
      SamePlace (step queue .previous) (step other .previous) := by
  have sameHistory := samePlace.history
  cases last : queue.currentQueueIndicesPlayed.getLast? with
  | none =>
      have empty := List.getLast?_eq_none_iff.mp last
      obtain ⟨returned, stayed⟩ := perform_previous (previous_stays empty)
      rw [← sameHistory] at empty
      obtain ⟨otherReturned, otherStayed⟩ :=
        perform_previous (previous_stays empty)
      rw [returned, otherReturned, stayed, otherStayed]
      exact ⟨rfl, samePlace⟩
  | some index =>
      have below := (inRange.history index (List.mem_of_getLast? last)).2
      have found := entryAt_of_prefix fetched below
      obtain ⟨returned, moved⟩ :=
        perform_previous (previous_goes_back inRange last)
      rw [← sameHistory] at last
      obtain ⟨otherReturned, otherMoved⟩ :=
        perform_previous (previous_goes_back otherInRange last)
      rw [returned, otherReturned, moved, otherMoved, found]
      refine ⟨rfl, rfl, found, ?_⟩
      simp only [wentBack, sameHistory]

end Rewind

end QueueService

/-- In every reachable state whose current entry is the one at the cursor, for
every order, repeat mode, flags and random outcome: if each `next` of a run
returns an entry, with peeks in between, then as many calls of `previous`
return the entries that were left in reverse order and restore the cursor, the
entry and the history, and a further `previous` does what it would have done
before the run. -/
theorem previous_undoes_next {Supplier : Type} [QueueSupplier Supplier]
    (order : PlaybackOrder) (mode : RepeatMode) (random : Random)
    (operations calls : List (Operation Supplier))
    (current :
      (run step (QueueService.fresh order mode random)
        operations).OnEntry)
    (advances :
      Admitted step Advances
        (run step (QueueService.fresh order mode random) operations)
        calls) :
    let queue := run step (QueueService.fresh order mode random) operations
    let left := placesLeft queue calls
    let advanced := run step queue calls
    let back := run step advanced (goBack left.length)
    outcomes advanced (goBack left.length) =
        left.reverse.map (fun place => .ok (.entry place.2)) ∧
      SamePlace queue back ∧
      outcome back .previous = outcome queue .previous ∧
      SamePlace (step queue .previous) (step back .previous) := by
  intro queue left advanced back
  have inRange : queue.InRange := run_inRange order mode random operations
  have advancedInRange : advanced.InRange :=
    run_preserves step_inRange inRange calls
  have retraceable : Retraceable queue advanced left :=
    run_advances inRange current advances
  obtain ⟨visited, peeks⟩ := retraceable.goes_back advancedInRange
  have backInRange : back.InRange :=
    run_preserves step_inRange advancedInRange _
  exact
    ⟨visited, peeks.toSamePlace,
      previous_from_samePlace inRange backInRange peeks.toSamePlace
        peeks.fetched⟩

theorem previous_undoes_two_calls_of_next :
    let start : FixedQueue :=
      QueueService.fresh .default .none (fun _ => 0)
    let queue :=
      run step start [.addSupplier (.ofList [⟨0⟩, ⟨1⟩, ⟨2⟩])]
    let advanced :=
      run step queue
        [.next true false, .peekNext 1 true false, .next true false]
    outcomes advanced (goBack 2) =
        [.ok (.entry (some ⟨1⟩)), .ok (.entry (some ⟨0⟩))] ∧
      SamePlace queue (run step advanced (goBack 2)) := by
  have undone :=
    previous_undoes_next .default .none (fun _ => 0)
      [.addSupplier (FixedSupplier.ofList [⟨0⟩, ⟨1⟩, ⟨2⟩])]
      [.next true false, .peekNext 1 true false, .next true false]
      ⟨by decide, rfl⟩ ⟨⟨_, rfl⟩, trivial, ⟨_, rfl⟩, trivial⟩
  exact ⟨undone.1, undone.2.1⟩

end JellyfinTv.Queue
