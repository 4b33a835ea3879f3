import JellyfinTv.Queue.Draws

/-!
# The cursor and the play history stay in range

Jumping, going back and removing entries keep the cursor and every index of
the play history inside the cache, whatever the suppliers do and whichever
calls throw.  Going back therefore never asks a supplier.
-/

namespace JellyfinTv.Queue

open QueueService Library

section Roaming

variable {Supplier : Type}

/-- A relation that making an entry of the cache current and going back
respect as well. -/
class Roaming
    (related : QueueService Supplier → QueueService Supplier → Prop) :
    Prop extends Supplying related where
  settles :
    ∀ (index : Int) (queue : QueueService Supplier),
      related queue
        (applyIndex index (entryAt queue.fetchedEntries index) queue)
  forgets :
    ∀ queue : QueueService Supplier,
      related queue
        { queue with
          currentQueueIndicesPlayed :=
            queue.currentQueueIndicesPlayed.dropLast }

variable [QueueSupplier Supplier]
variable {related : QueueService Supplier → QueueService Supplier → Prop}
variable [Roaming related]

theorem respects_setIndex (index : Int) (saveHistory : Bool) :
    Respects related
      (setIndex index saveHistory :
        QueueM Supplier (Option QueueEntry)) := by
  intro queue
  obtain ⟨drawn, draws, ⟨exception, failed⟩ | ⟨_, _, rejected⟩ | ended⟩ :=
    setIndex_cases related index saveHistory queue
  · rw [failed]
    exact draws
  · rw [rejected]
    exact draws
  · rw [ended]
    exact IsTrans.trans _ _ _ draws (Roaming.settles index drawn)

theorem respects_next (usePlaybackOrder useRepeatMode : Bool) :
    Respects related
      (next usePlaybackOrder useRepeatMode :
        QueueM Supplier (Option QueueEntry)) := by
  intro queue
  obtain ⟨selected, selects, failed | ⟨_, ended⟩ | ⟨index, jumped⟩⟩ :=
    next_cases usePlaybackOrder useRepeatMode queue
  · obtain ⟨exception, outcome⟩ := failed
    rw [outcome]
    exact Peeking.selects selects
  · rw [ended]
    exact Peeking.selects selects
  · rw [jumped]
    exact IsTrans.trans _ _ _ (Peeking.selects selects)
      (respects_setIndex index true selected)

theorem respects_previous :
    Respects related
      (previous : QueueM Supplier (Option QueueEntry)) := by
  refine Respects.bind Respects.get fun queue => ?_
  split
  · exact Respects.pure _
  · exact Respects.bind (Respects.modify Roaming.forgets) fun _ =>
      respects_setIndex _ false

theorem respects_startPlaying :
    Respects related (startPlaying : QueueM Supplier Unit) := by
  refine Respects.bind Respects.get fun queue => ?_
  refine Respects.ite ?_ (Respects.pure _)
  exact Respects.bind (respects_setIndex 0 false) fun _ => Respects.pure _

theorem respects_finishRemoval (entry : QueueEntry) :
    Respects related (finishRemoval entry : QueueM Supplier Unit) := by
  have publishes :
      Respects related
        (modify publish : QueueM Supplier PUnit) :=
    Respects.modify Fetching.publishes
  refine Respects.bind Respects.get fun queue => ?_
  refine Respects.ite ?_ publishes
  exact Respects.bind (respects_next true false) fun _ => publishes

theorem respects_mediaStreamEnd :
    Respects related (mediaStreamEnd : QueueM Supplier Unit) := by
  refine Respects.bind (respects_next true true) fun entry => ?_
  refine Respects.bind Respects.get fun queue => ?_
  refine Respects.ite ?_ (Respects.pure _)
  exact Respects.bind (respects_setIndex INDEX_NONE true) fun _ =>
    Respects.pure _

end Roaming

section Invariants

variable {Supplier : Type} [QueueSupplier Supplier]

/-- Every call preserves a property that the writes of the calls preserve. -/
theorem step_preserves_of_roaming
    {property : QueueService Supplier → Prop}
    [Roaming (Preserves property)]
    (adds : ∀ queue supplier, property queue →
      property (queue.withSupplier supplier))
    (drops : ∀ queue entry index, queue.indexOf entry = some index →
      property queue → property (queue.dropEntry index))
    (clears : ∀ queue, property queue → property queue.clear)
    (orders : ∀ queue order, property queue →
      property (queue.setPlaybackOrder order))
    (queue : QueueService Supplier) (operation : Operation Supplier)
    (holds : property queue) : property (step queue operation) := by
  have done :
      ∀ {action : QueueM Supplier Unit},
        Respects (Preserves property) action →
          Respects (Preserves property)
            (action >>= fun _ => pure Response.done) :=
    fun respects => Respects.bind respects fun _ => Respects.pure _
  have answers :
      ∀ {α : Type} {action : QueueM Supplier α} (response : α → Response),
        Respects (Preserves property) action →
          Respects (Preserves property)
            (action >>= fun value => pure (response value)) :=
    fun _ respects => Respects.bind respects fun _ => Respects.pure _
  cases operation with
  | addSupplier supplier =>
      refine done ?_ queue holds
      exact Respects.bind (Respects.modify fun queue => adds queue supplier)
        fun _ => respects_startPlaying
  | setIndex index saveHistory =>
      exact answers Response.entry (respects_setIndex index saveHistory)
        queue holds
  | next usePlaybackOrder useRepeatMode =>
      exact answers Response.entry
        (respects_next usePlaybackOrder useRepeatMode) queue holds
  | previous =>
      exact answers Response.entry respects_previous queue holds
  | peekNext amount usePlaybackOrder useRepeatMode =>
      exact answers Response.entries
        (respects_peekNext amount usePlaybackOrder useRepeatMode) queue
        holds
  | peekPrevious =>
      exact answers Response.entry respects_peekPrevious queue holds
  | removeEntry entry =>
      cases found : queue.indexOf entry with
      | none =>
          rw [step_removeEntry_of_absent found]
          exact holds
      | some index =>
          have dropped := drops queue entry index found holds
          have finishes :
              Respects (Preserves property)
                (finishRemoval entry : QueueM Supplier Unit) :=
            respects_finishRemoval entry
          rw [step_removeEntry_eq found]
          exact finishes (queue.dropEntry index) dropped
  | clear =>
      exact clears queue holds
  | mediaStreamEnd =>
      exact done respects_mediaStreamEnd queue holds
  | setPlaybackOrder order =>
      exact orders queue order holds
  | setRepeatMode mode =>
      have chosen : Selects queue (queue.setRepeatMode mode) :=
        ⟨rfl, rfl, id⟩
      have kept : Preserves property queue (queue.setRepeatMode mode) :=
        Peeking.selects chosen
      exact kept holds

end Invariants

/-- An index has an entry exactly when it is inside the list. -/
theorem entryAt_isSome_iff {entries : List QueueEntry} {index : Int} :
    (entryAt entries index).isSome ↔
      0 ≤ index ∧ index < entries.length := by
  unfold entryAt
  split
  · rw [isSome_getElem?]
    omega
  · simp only [Option.isSome_none, Bool.false_eq_true, false_iff]
    omega

namespace QueueService

variable {Supplier : Type}

/-- The cursor is missing or inside the cache, and every index of the play
history is inside the cache. -/
structure InRange (queue : QueueService Supplier) : Prop where
  start : INDEX_NONE ≤ queue.entryIndex
  below : queue.entryIndex < queue.fetchedEntries.length
  history :
    ∀ index ∈ queue.currentQueueIndicesPlayed,
      0 ≤ index ∧ index < queue.fetchedEntries.length

namespace InRange

variable {queue : QueueService Supplier}

/-- A longer cache keeps the indices in range. -/
theorem of_growth {after : QueueService Supplier} (inRange : queue.InRange)
    (longer :
      queue.fetchedEntries.length ≤ after.fetchedEntries.length)
    (cursor : after.entryIndex = queue.entryIndex)
    (history :
      after.currentQueueIndicesPlayed = queue.currentQueueIndicesPlayed) :
    after.InRange := by
  obtain ⟨start, below, inside⟩ := inRange
  refine ⟨by omega, by omega, ?_⟩
  intro index member
  rw [history] at member
  obtain ⟨nonneg, short⟩ := inside index member
  exact ⟨nonneg, by omega⟩

theorem saveCurrentIndex (inRange : queue.InRange) (saveHistory : Bool) :
    (Queue.saveCurrentIndex saveHistory queue).InRange := by
  unfold Queue.saveCurrentIndex
  split
  · rename_i saved
    obtain ⟨start, below, inside⟩ := inRange
    refine ⟨start, below, ?_⟩
    intro index member
    rcases List.mem_append.mp member with earlier | last
    · exact inside index earlier
    · have current := saved.2
      simp only [INDEX_NONE] at start current
      rw [List.mem_singleton.mp last]
      exact ⟨by omega, below⟩
  · exact inRange

theorem applyIndex (inRange : queue.InRange) (index : Int) :
    (Queue.applyIndex index (entryAt queue.fetchedEntries index)
      queue).InRange := by
  have cursor :
      INDEX_NONE ≤
          (if entryAt queue.fetchedEntries index = none then INDEX_NONE
          else index) ∧
        (if entryAt queue.fetchedEntries index = none then INDEX_NONE
          else index) < (queue.fetchedEntries.length : Int) := by
    simp only [INDEX_NONE]
    split
    · omega
    · rename_i found
      have inside :=
        entryAt_isSome_iff.mp (Option.isSome_iff_ne_none.mpr found)
      omega
  exact ⟨cursor.1, cursor.2, inRange.history⟩

theorem dropEntry (inRange : queue.InRange) {entry : QueueEntry}
    {index : Nat} (found : queue.indexOf entry = some index) :
    (queue.dropEntry index).InRange := by
  have inside := indexOf_lt found
  obtain ⟨start, below, history⟩ := inRange
  simp only [INDEX_NONE] at start
  have cursor :
      -1 ≤
          (if queue.entryIndex ≥ index then queue.entryIndex - 1
          else queue.entryIndex) ∧
        (if queue.entryIndex ≥ index then queue.entryIndex - 1
          else queue.entryIndex) <
          ((queue.fetchedEntries.eraseIdx index).length : Int) := by
    rw [List.length_eraseIdx_of_lt inside]
    split <;> omega
  refine ⟨cursor.1, cursor.2, ?_⟩
  intro shifted member
  simp only [QueueService.dropEntry, shiftRemoved, List.mem_map,
    List.mem_filter, decide_eq_true_eq] at member
  obtain ⟨original, ⟨played, other⟩, rfl⟩ := member
  obtain ⟨nonneg, short⟩ := history original played
  simp only [QueueService.dropEntry, List.length_eraseIdx_of_lt inside]
  split <;> omega

end InRange

instance : Roaming (Preserves (InRange : QueueService Supplier → Prop)) where
  selects selects inRange := by
    rw [selects.frame]
    exact ⟨inRange.start, inRange.below, inRange.history⟩
  stores _ _ inRange := ⟨inRange.start, inRange.below, inRange.history⟩
  accepts queue item inRange := by
    cases item with
    | none =>
        exact ⟨inRange.start, inRange.below, inRange.history⟩
    | some entry =>
        exact inRange.of_growth (by simp [acceptItem]) rfl rfl
  publishes _ inRange := ⟨inRange.start, inRange.below, inRange.history⟩
  saves saveHistory _ inRange := inRange.saveCurrentIndex saveHistory
  settles index _ inRange := inRange.applyIndex index
  forgets _ inRange :=
    ⟨inRange.start, inRange.below, fun index member =>
      inRange.history index (List.dropLast_subset _ member)⟩

theorem inRange_empty {queue : QueueService Supplier}
    (idle : queue.entryIndex = INDEX_NONE)
    (history : queue.currentQueueIndicesPlayed = []) : queue.InRange := by
  refine ⟨Int.le_of_eq idle.symm, ?_, ?_⟩
  · rw [idle, INDEX_NONE]
    omega
  · rw [history]
    exact fun _ member => absurd member List.not_mem_nil

variable [QueueSupplier Supplier]

theorem step_inRange (queue : QueueService Supplier)
    (operation : Operation Supplier) (inRange : queue.InRange) :
    (step queue operation).InRange := by
  refine step_preserves_of_roaming ?_ ?_ ?_ ?_ queue operation inRange
  · exact fun _ _ inRange =>
      ⟨inRange.start, inRange.below, inRange.history⟩
  · exact fun _ _ _ found inRange => inRange.dropEntry found
  · exact fun _ _ => inRange_empty rfl rfl
  · intro queue order inRange
    unfold setPlaybackOrder
    split
    · exact inRange
    · exact ⟨inRange.start, inRange.below, inRange.history⟩

theorem run_inRange (order : PlaybackOrder) (mode : RepeatMode)
    (random : Random) (operations : List (Operation Supplier)) :
    (run step (QueueService.fresh order mode random) operations).InRange :=
  run_preserves step_inRange (inRange_empty rfl rfl) operations

omit [QueueSupplier Supplier] in
instance :
    Roaming (Preserves fun queue : QueueService Supplier =>
      NonnegPrepared queue.orderIndexProvider.nextIndices) where
  selects selects := selects.nonneg
  stores _ _ := id
  accepts queue item := by
    cases item with
    | none =>
        exact id
    | some entry =>
        exact id
  publishes _ := id
  saves saveHistory queue nonneg := by
    unfold Queue.saveCurrentIndex
    split
    · exact nonneg
    · exact nonneg
  settles _ _ := id
  forgets _ := id

theorem nonnegPrepared_ofOrder (order : PlaybackOrder) :
    NonnegPrepared (OrderIndexProvider.ofOrder order).nextIndices := by
  cases order <;> exact fun _ member => absurd member List.not_mem_nil

/-- In every reachable state no prepared index is negative. -/
theorem run_nonnegPrepared (order : PlaybackOrder) (mode : RepeatMode)
    (random : Random) (operations : List (Operation Supplier)) :
    NonnegPrepared
      (run step (QueueService.fresh order mode random)
        operations).orderIndexProvider.nextIndices := by
  have preserved :
      ∀ (queue : QueueService Supplier) (operation : Operation Supplier),
        NonnegPrepared queue.orderIndexProvider.nextIndices →
          NonnegPrepared
            (step queue operation).orderIndexProvider.nextIndices := by
    intro queue operation nonneg
    refine
      @step_preserves_of_roaming Supplier _
        (fun queue => NonnegPrepared queue.orderIndexProvider.nextIndices)
        _ ?_ ?_ ?_ ?_ queue operation nonneg
    · exact fun _ _ => id
    · exact fun _ _ index _ nonneg =>
        OrderIndexProvider.nonneg_notifyRemoved nonneg
          (Int.natCast_nonneg index)
    · exact fun _ => id
    · intro queue order nonneg
      unfold setPlaybackOrder
      split
      · exact nonneg
      · exact nonnegPrepared_ofOrder order
  exact run_preserves preserved (nonnegPrepared_ofOrder order) operations

/-- An index of the cache needs no supplier. -/
theorem getOrSupplyEntry_cached {queue : QueueService Supplier}
    {index : Int} (cached : index < queue.fetchedEntries.length) :
    (getOrSupplyEntry index).run queue =
      .ok (entryAt queue.fetchedEntries index) queue :=
  getOrSupplyEntry_run (supplyLoop_cached cached)

/-- The queue after going back to the last index of the history. -/
def wentBack (index : Int) (queue : QueueService Supplier) :
    QueueService Supplier :=
  { queue with
    currentQueueIndicesPlayed := queue.currentQueueIndicesPlayed.dropLast
    entryIndex := index
    entry := entryAt queue.fetchedEntries index }

theorem previous_goes_back {queue : QueueService Supplier}
    (inRange : queue.InRange) {index : Int}
    (last : queue.currentQueueIndicesPlayed.getLast? = some index) :
    previous.run queue =
      .ok (entryAt queue.fetchedEntries index) (queue.wentBack index) := by
  obtain ⟨nonneg, below⟩ := inRange.history index (List.mem_of_getLast? last)
  have accepted : ¬ (index < 0 ∧ index ≠ INDEX_NONE) := by omega
  have found := entryAt_isSome_iff.mpr ⟨nonneg, below⟩
  have supplied :
      (getOrSupplyEntry index).run
          (saveCurrentIndex false
            { queue with
              currentQueueIndicesPlayed :=
                queue.currentQueueIndicesPlayed.dropLast }) =
        .ok (entryAt queue.fetchedEntries index)
          { queue with
            currentQueueIndicesPlayed :=
              queue.currentQueueIndicesPlayed.dropLast } := by
    simp only [saveCurrentIndex, Bool.false_eq_true, false_and, if_false]
    exact getOrSupplyEntry_cached below
  simp only [previous, EStateM.run_bind, EStateM.run_get, last,
    EStateM.run_modify]
  rw [setIndex_run_of_supplied accepted supplied]
  simp only [applyIndex, if_neg (Option.isSome_iff_ne_none.mp found)]
  rfl

theorem previous_stays {queue : QueueService Supplier}
    (empty : queue.currentQueueIndicesPlayed = []) :
    previous.run queue = .ok none queue := by
  simp only [previous, EStateM.run_bind, EStateM.run_get, empty,
    List.getLast?_nil]
  rfl

theorem perform_previous {queue final : QueueService Supplier}
    {entry : Option QueueEntry}
    (ran : previous.run queue = .ok entry final) :
    outcome queue .previous = .ok (.entry entry) ∧
      step queue .previous = final := by
  simp only [outcome, step, perform, EStateM.run_bind, ran]
  exact ⟨rfl, rfl⟩

end QueueService

/-- After every run, whichever calls throw: the cursor is missing or inside
the cache, so is every index of the play history, `previous` returns `null`
exactly when the history is empty, and it never loses the cursor. -/
theorem history_and_cursor_in_range {Supplier : Type}
    [QueueSupplier Supplier] (order : PlaybackOrder) (mode : RepeatMode)
    (random : Random) (operations : List (Operation Supplier)) :
    let queue := run step (QueueService.fresh order mode random) operations
    (-1 ≤ queue.entryIndex ∧
        queue.entryIndex < queue.fetchedEntries.length) ∧
      (∀ index ∈ queue.currentQueueIndicesPlayed,
        0 ≤ index ∧ index < queue.fetchedEntries.length) ∧
      (outcome queue .previous = .ok (.entry none) ↔
        queue.currentQueueIndicesPlayed = []) ∧
      ((step queue .previous).entryIndex = INDEX_NONE →
        queue.entryIndex = INDEX_NONE) := by
  intro queue
  have inRange : queue.InRange := run_inRange order mode random operations
  refine ⟨⟨inRange.start, inRange.below⟩, inRange.history, ?_⟩
  cases last : queue.currentQueueIndicesPlayed.getLast? with
  | none =>
      have empty := List.getLast?_eq_none_iff.mp last
      obtain ⟨returned, same⟩ := perform_previous (previous_stays empty)
      rw [returned, same]
      exact ⟨iff_of_true rfl empty, id⟩
  | some index =>
      have member := List.mem_of_getLast? last
      obtain ⟨nonneg, below⟩ := inRange.history index member
      have found := entryAt_isSome_iff.mpr ⟨nonneg, below⟩
      obtain ⟨entry, located⟩ := Option.isSome_iff_exists.mp found
      obtain ⟨returned, moved⟩ :=
        perform_previous (previous_goes_back inRange last)
      rw [returned, moved, located]
      refine ⟨iff_of_false ?_ (List.ne_nil_of_mem member), ?_⟩
      · intro same
        cases same
      · intro lost
        have reached : index = INDEX_NONE := lost
        rw [INDEX_NONE] at reached
        omega

end JellyfinTv.Queue
