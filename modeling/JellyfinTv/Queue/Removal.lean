import JellyfinTv.Queue.Rewind

/-!
# What a removal does to the play history

The history holds positions, and a removal moves the positions behind the
removed one along with their entries.  The removal of the current entry then
runs `next`, which saves the cursor after it has been moved: the history gets
the entry in front of the removed one, whether it has been played or not.
-/

namespace JellyfinTv.Queue

open QueueService Library

/-- The entries at the given positions. -/
def entriesAt (entries : List QueueEntry) (indices : List Int) :
    List QueueEntry :=
  indices.filterMap (entryAt entries)

/-- A position moves along with its entry when another one is removed. -/
theorem entryAt_eraseIdx {removed : Nat} {index : Int}
    (other : index ≠ removed) (entries : List QueueEntry) :
    entryAt (entries.eraseIdx removed)
        (if index > removed then index - 1 else index) =
      entryAt entries index := by
  unfold entryAt
  by_cases behind : index > removed
  · obtain ⟨earlier, same⟩ : ∃ earlier : Nat, index = earlier + 1 :=
      ⟨index.toNat - 1, by omega⟩
    rw [if_pos behind, if_pos (by omega), if_pos (by omega), same,
      show ((earlier : Int) + 1 - 1).toNat = earlier by omega,
      show ((earlier : Int) + 1).toNat = earlier + 1 by omega,
      List.getElem?_eraseIdx_of_ge (by omega)]
  · rw [if_neg behind]
    split
    · rw [List.getElem?_eraseIdx_of_lt (by omega)]
    · rfl

theorem entriesAt_shiftRemoved (entries : List QueueEntry) (removed : Nat)
    (indices : List Int) :
    entriesAt (entries.eraseIdx removed) (shiftRemoved removed indices) =
      entriesAt entries (indices.filter fun index => index ≠ removed) := by
  rw [entriesAt, entriesAt, shiftRemoved, List.filterMap_map]
  apply List.filterMap_congr
  intro index member
  have other := (List.mem_filter.mp member).2
  rw [decide_eq_true_eq] at other
  exact entryAt_eraseIdx other entries

theorem mem_of_mem_entriesAt {entries : List QueueEntry}
    {indices : List Int} {entry : QueueEntry}
    (member : entry ∈ entriesAt entries indices) : entry ∈ entries := by
  obtain ⟨index, _, located⟩ := List.mem_filterMap.mp member
  unfold entryAt at located
  split at located
  · exact List.mem_of_getElem? located
  · cases located

theorem map_some_entriesAt {entries : List QueueEntry} {indices : List Int}
    (inside : ∀ index ∈ indices, 0 ≤ index ∧ index < entries.length) :
    (entriesAt entries indices).map some =
      indices.map (entryAt entries) := by
  induction indices with
  | nil =>
      rfl
  | cons index rest inductionHypothesis =>
      have found :=
        entryAt_isSome_iff.mpr (inside index List.mem_cons_self)
      obtain ⟨entry, located⟩ := Option.isSome_iff_exists.mp found
      have later :=
        inductionHypothesis fun other member =>
          inside other (List.mem_cons_of_mem index member)
      rw [entriesAt] at later ⊢
      rw [List.filterMap_cons_some located, List.map_cons, List.map_cons,
        later, located]

theorem length_entriesAt {entries : List QueueEntry} {indices : List Int}
    (inside : ∀ index ∈ indices, 0 ≤ index ∧ index < entries.length) :
    (entriesAt entries indices).length = indices.length := by
  have lengths := congrArg List.length (map_some_entriesAt inside)
  simpa using lengths

/-- An entry at a deleted position is deleted with it. -/
theorem filter_entriesAt {entries : List QueueEntry} {removed : Int}
    {entry : QueueEntry} (located : entryAt entries removed = some entry)
    (indices : List Int) :
    (entriesAt entries indices).filter (fun other => other ≠ entry) =
      (entriesAt entries
        (indices.filter fun index => index ≠ removed)).filter
          fun other => other ≠ entry := by
  simp only [entriesAt, List.filter_filterMap, List.filterMap_filter]
  apply List.filterMap_congr
  intro index _
  by_cases same : index = removed
  · simp [same, located]
  · simp [same]

/-- Deleting an entry and deleting one of its positions agree as long as no
other position holds the entry. -/
theorem entriesAt_filter_iff {entries : List QueueEntry} {removed : Int}
    {entry : QueueEntry} (located : entryAt entries removed = some entry)
    (indices : List Int) :
    entriesAt entries (indices.filter fun index => index ≠ removed) =
        (entriesAt entries indices).filter (fun other => other ≠ entry) ↔
      ∀ index ∈ indices, index ≠ removed →
        entryAt entries index ≠ some entry := by
  rw [filter_entriesAt located, eq_comm, List.filter_eq_self]
  constructor
  · intro others index member different holds
    have kept :=
      others entry
        (List.mem_filterMap.mpr
          ⟨index, List.mem_filter.mpr ⟨member, by simpa using different⟩,
            holds⟩)
    simp at kept
  · intro others entry' member
    obtain ⟨index, kept, holds⟩ := List.mem_filterMap.mp member
    obtain ⟨played, different⟩ := List.mem_filter.mp kept
    rw [decide_eq_true_eq] at different ⊢
    rintro rfl
    exact others index played different holds

namespace QueueService

variable {Supplier : Type} [QueueSupplier Supplier]

/-- `next(usePlaybackOrder = true)` finds an index: the default order has a
position behind the cursor, the random order has prepared an index or can draw
one, and the shuffle order has played fewer entries than there are. -/
def HasNextIndex (queue : QueueService Supplier) : Prop :=
  match queue.orderIndexProvider with
  | .default => queue.entryIndex + 1 < queue.estimatedSize
  | .random prepared => prepared ≠ [] ∨ 0 < queue.estimatedSize
  | .shuffle _ =>
      (queue.currentQueueIndicesPlayed.length : Int) < queue.estimatedSize

/-- A random order with nothing to draw from throws. -/
theorem next_random_empty {queue : QueueService Supplier}
    {useRepeatMode : Bool}
    (mode : queue.effectiveRepeatMode useRepeatMode = .none)
    (chosen : queue.orderIndexProvider = .random [])
    (empty : queue.estimatedSize ≤ 0) :
    (next true useRepeatMode).run queue =
      .error .illegalArgument queue := by
  have provided : queue.provider true = .random [] := chosen
  have failed :
      (RandomOrderIndexProvider.provideIndices 1 queue.estimatedSize).run
          ⟨[], queue.random⟩ =
        .error .illegalArgument ⟨[], queue.random⟩ := by
    simp only [RandomOrderIndexProvider.provideIndices, collectIndices]
    simp [collectFrom, RandomOrderIndexProvider.indexAt,
      nextInt_run_of_empty empty]
  have picked :
      (getNextIndices 1 true useRepeatMode).run queue =
        .error .illegalArgument queue := by
    rw [getNextIndices_run_none mode]
    exact provideIndices_of_error provided failed
  simp only [next, EStateM.run_bind, picked]

/-- With an index to go to, `next` jumps to one that is not negative. -/
theorem next_jumps {queue : QueueService Supplier} {useRepeatMode : Bool}
    (mode : queue.effectiveRepeatMode useRepeatMode = .none)
    (start : -1 ≤ queue.entryIndex)
    (nonneg : NonnegPrepared queue.orderIndexProvider.nextIndices)
    (more : queue.HasNextIndex) :
    ∃ index selected, Selects queue selected ∧ 0 ≤ index ∧
      (next true useRepeatMode).run queue =
        (setIndex index true).run selected := by
  unfold HasNextIndex at more
  cases chosen : queue.orderIndexProvider with
  | default =>
      rw [chosen] at more
      have provided : queue.provider true = .default := chosen
      have jumped := next_default mode provided
      rw [if_pos more] at jumped
      exact ⟨_, queue, Std.Refl.refl queue, by omega, jumped⟩
  | random prepared =>
      rw [chosen] at more nonneg
      have drawable : 0 < queue.estimatedSize ∨ 1 ≤ prepared.length := by
        rcases more with some | positive
        · exact Or.inr (List.length_pos_of_ne_nil some)
        · exact Or.inl positive
      obtain ⟨index, rest, shape, jumped⟩ :=
        next_random mode chosen drawable
      have drawn : NonnegPrepared (index :: rest) :=
        shape ▸ nonneg_prepare nonneg drawable queue.random
      refine
        ⟨index, _, ⟨rfl, ?_, ?_⟩, drawn index List.mem_cons_self, jumped⟩
      · rw [chosen]
        rfl
      · exact fun _ => drawn.tail
  | shuffle prepared =>
      rw [chosen] at more nonneg
      by_cases short : prepared.length ≤ 1
      · have nonempty :
            ShuffleOrderIndexProvider.remainingIndices queue.estimatedSize
              queue.currentQueueIndicesPlayed prepared ≠ [] :=
          remainingIndices_ne_nil (by omega)
        have picked :=
          remainingIndices_nonneg _ _ _ _
            (pick_mem nonempty queue.random)
        refine
          ⟨_, _, ⟨rfl, ?_, ?_⟩, picked,
            (next_shuffle mode chosen short more nonempty rfl).2⟩
        · rw [chosen]
          rfl
        · intro _ other member
          exact
            nonneg.concat picked other (List.mem_of_mem_tail member)
      · obtain ⟨index, other, rest, rfl⟩ :
            ∃ index other rest, prepared = index :: other :: rest := by
          match prepared, short with
          | index :: other :: rest, _ => exact ⟨index, other, rest, rfl⟩
          | [_], short => simp at short
          | [], short => simp at short
        refine
          ⟨index, _, ⟨rfl, ?_, ?_⟩, nonneg index List.mem_cons_self,
            next_shuffle_prepared mode chosen more⟩
        · rw [chosen]
          rfl
        · exact fun _ => nonneg.tail

/-- Without one it only throws or returns `null`. -/
theorem next_stays {queue : QueueService Supplier} {useRepeatMode : Bool}
    (mode : queue.effectiveRepeatMode useRepeatMode = .none)
    (ended : ¬ queue.HasNextIndex) :
    finalState ((next true useRepeatMode).run queue) = queue := by
  unfold HasNextIndex at ended
  cases chosen : queue.orderIndexProvider with
  | default =>
      rw [chosen] at ended
      have provided : queue.provider true = .default := chosen
      rw [next_default mode provided, if_neg ended]
      rfl
  | random prepared =>
      rw [chosen] at ended
      obtain ⟨empty, none⟩ := not_or.mp ended
      rw [not_not] at empty
      rw [empty] at chosen
      rw [next_random_empty mode chosen (Int.not_lt.mp none)]
      rfl
  | shuffle prepared =>
      rw [chosen] at ended
      have provided : queue.provider true = .shuffle prepared := chosen
      have finished :
          queue.estimatedSize - queue.currentQueueIndicesPlayed.length ≤ 0 :=
        Int.sub_nonpos_of_le (Int.not_lt.mp ended)
      have picked :
          (getNextIndices 1 true useRepeatMode).run queue =
            .ok [] queue := by
        rw [getNextIndices_run_none mode]
        exact
          provideIndices_of_ok provided
            (shuffleProvider_run_ended finished _)
      rw [next_run_of_none picked]
      rfl

/-- The play history as the entries that were played. -/
def historyEntries (queue : QueueService Supplier) : List QueueEntry :=
  entriesAt queue.fetchedEntries queue.currentQueueIndicesPlayed

/-- The removal goes on to another entry and saves the shifted cursor. -/
def SavesShifted (queue : QueueService Supplier) (entry : QueueEntry)
    (index : Nat) : Prop :=
  queue.entry = some entry ∧ (queue.dropEntry index).HasNextIndex ∧
    (queue.dropEntry index).entryIndex ≠ INDEX_NONE

/-- A removal shifts the history; leaving the removed entry for another one
also saves the shifted cursor. -/
theorem history_after_removal {queue : QueueService Supplier}
    (inRange : queue.InRange)
    (nonneg : NonnegPrepared queue.orderIndexProvider.nextIndices)
    {entry : QueueEntry} {index : Nat}
    (found : queue.indexOf entry = some index) :
    let dropped := queue.dropEntry index
    let final := step queue (.removeEntry entry)
    dropped.fetchedEntries <+: final.fetchedEntries ∧
      (queue.SavesShifted entry index →
        final.currentQueueIndicesPlayed =
          dropped.currentQueueIndicesPlayed ++ [dropped.entryIndex]) ∧
      (¬ queue.SavesShifted entry index →
        final.currentQueueIndicesPlayed =
          dropped.currentQueueIndicesPlayed) := by
  intro dropped final
  have droppedInRange : dropped.InRange := inRange.dropEntry found
  have droppedNonneg :
      NonnegPrepared dropped.orderIndexProvider.nextIndices :=
    OrderIndexProvider.nonneg_notifyRemoved nonneg (Int.natCast_nonneg index)
  have finished : final = finalState ((finishRemoval entry).run dropped) :=
    step_removeEntry_eq found
  rw [finishRemoval_run] at finished
  by_cases current : queue.entry = some entry
  · have moved :
        final.fetchedEntries =
            (finalState ((next true false).run dropped)).fetchedEntries ∧
          final.currentQueueIndicesPlayed =
            (finalState
              ((next true false).run dropped)).currentQueueIndicesPlayed := by
      have same : dropped.entry = some entry := current
      rw [finished, if_pos same]
      cases (next true false).run dropped <;> exact ⟨rfl, rfl⟩
    rw [moved.1, moved.2]
    have mode : dropped.effectiveRepeatMode false = .none := rfl
    by_cases more : dropped.HasNextIndex
    · obtain ⟨target, selected, selects, start, jumped⟩ :=
        next_jumps mode droppedInRange.start droppedNonneg more
      have accepted : ¬ (target < 0 ∧ target ≠ INDEX_NONE) := by omega
      obtain ⟨longer, history⟩ := setIndex_leaves accepted true selected
      rw [← jumped, selects.frame] at longer history
      refine ⟨longer, fun saves => ?_, fun kept => ?_⟩
      · rw [history, saveCurrentIndex, if_pos ⟨rfl, saves.2.2⟩]
      · have missing : ¬ dropped.entryIndex ≠ INDEX_NONE :=
          fun playing => kept ⟨current, more, playing⟩
        rw [history, saveCurrentIndex, if_neg fun saves => missing saves.2]
    · rw [next_stays mode more]
      exact
        ⟨List.prefix_rfl, fun saves => absurd saves.2.1 more, fun _ => rfl⟩
  · have same : dropped.entry ≠ some entry := current
    rw [if_neg same] at finished
    rw [finished]
    exact
      ⟨List.prefix_rfl, fun saves => absurd saves.1 current, fun _ => rfl⟩

/-! ## When a removal only deletes -/

/-- After the removal of `entry` the history reads as before without that
entry, and going back visits what is left of it in reverse order. -/
structure OnlyDeletes (queue : QueueService Supplier) (entry : QueueEntry) :
    Prop where
  history :
    (step queue (.removeEntry entry)).historyEntries =
      queue.historyEntries.filter fun other => other ≠ entry
  back :
    outcomes (step queue (.removeEntry entry))
        (goBack
          ((queue.historyEntries.filter
            fun other => other ≠ entry).length + 1)) =
      (queue.historyEntries.filter fun other => other ≠ entry).reverse.map
          (fun other => .ok (.entry (some other))) ++
        [.ok (.entry none)]

theorem outcomes_append (queue : QueueService Supplier)
    (first second : List (Operation Supplier)) :
    outcomes queue (first ++ second) =
      outcomes queue first ++ outcomes (run step queue first) second := by
  induction first generalizing queue with
  | nil =>
      rfl
  | cons operation rest inductionHypothesis =>
      simp only [List.cons_append, outcomes, inductionHypothesis, run_cons]

/-- Going back through the whole history and once more. -/
theorem outcomes_goBack {queue : QueueService Supplier}
    (inRange : queue.InRange) :
    outcomes queue (goBack (queue.historyEntries.length + 1)) =
      queue.historyEntries.reverse.map
          (fun entry => .ok (.entry (some entry))) ++
        [.ok (.entry none)] := by
  have whole :
      queue.currentQueueIndicesPlayed =
        [] ++ queue.currentQueueIndicesPlayed := rfl
  obtain ⟨visited, reached⟩ := run_goBack inRange whole
  have entries :
      queue.currentQueueIndicesPlayed.reverse.map
          (entryAt queue.fetchedEntries) =
        queue.historyEntries.reverse.map some := by
    rw [List.map_reverse, List.map_reverse, historyEntries,
      map_some_entriesAt inRange.history]
  have count :
      queue.historyEntries.length =
        queue.currentQueueIndicesPlayed.length :=
    length_entriesAt inRange.history
  have calls :
      (goBack (queue.historyEntries.length + 1) :
          List (Operation Supplier)) =
        goBack queue.currentQueueIndicesPlayed.length ++ [.previous] := by
    rw [count, goBack, goBack, List.replicate_succ']
  rw [calls, outcomes_append, visited, reached]
  have answers :
      queue.currentQueueIndicesPlayed.reverse.map
          (fun index =>
            (Except.ok (Response.entry
              (entryAt queue.fetchedEntries index)) :
                Except QueueException Response)) =
        queue.historyEntries.reverse.map
          fun entry => .ok (.entry (some entry)) := by
    have mapped :=
      congrArg
        (List.map fun entry =>
          (Except.ok (Response.entry entry) :
            Except QueueException Response)) entries
    simpa only [List.map_map, Function.comp_def] using mapped
  rw [answers]
  congr 1

theorem onlyDeletes_iff {queue : QueueService Supplier}
    (inRange : queue.InRange) (entry : QueueEntry) :
    queue.OnlyDeletes entry ↔
      (step queue (.removeEntry entry)).historyEntries =
        queue.historyEntries.filter fun other => other ≠ entry := by
  constructor
  · exact OnlyDeletes.history
  · intro history
    have back := outcomes_goBack (step_inRange queue (.removeEntry entry) inRange)
    rw [history] at back
    exact ⟨history, back⟩

/-- After the removal of the current entry at `index` there is another index
to go to: a position behind the cursor, another prepared index or another
entry to draw, or fewer played entries than there are others. -/
def FindsAnother (queue : QueueService Supplier) (index : Nat) : Prop :=
  match queue.orderIndexProvider with
  | .default => queue.entryIndex + 1 < queue.estimatedSize
  | .random prepared =>
      (∃ other ∈ prepared, other ≠ index) ∨ 1 < queue.estimatedSize
  | .shuffle _ =>
      ((queue.currentQueueIndicesPlayed.filter
          fun played => played ≠ (index : Int)).length : Int) + 1 <
        queue.estimatedSize

theorem hasNextIndex_dropEntry {queue : QueueService Supplier}
    {index : Nat} (inside : index < queue.fetchedEntries.length)
    (reached : index ≤ queue.entryIndex) :
    (queue.dropEntry index).HasNextIndex ↔ queue.FindsAnother index := by
  have size := estimatedSize_dropEntry inside
  have cursor : (queue.dropEntry index).entryIndex = queue.entryIndex - 1 :=
    if_pos reached
  have provider :
      (queue.dropEntry index).orderIndexProvider =
        queue.orderIndexProvider.notifyRemoved index := rfl
  have history :
      (queue.dropEntry index).currentQueueIndicesPlayed.length =
        (queue.currentQueueIndicesPlayed.filter
          fun played => played ≠ (index : Int)).length :=
    List.length_map _
  unfold HasNextIndex FindsAnother
  rw [provider]
  cases queue.orderIndexProvider with
  | default =>
      simp only [OrderIndexProvider.notifyRemoved, cursor, size]
      omega
  | random prepared =>
      simp only [OrderIndexProvider.notifyRemoved, size, shiftRemoved]
      refine or_congr ?_ (by omega)
      simp
  | shuffle prepared =>
      simp only [OrderIndexProvider.notifyRemoved, history, size]
      omega

omit [QueueSupplier Supplier] in
/-- The current entry is at the first position of its entry or behind it. -/
theorem index_le_entryIndex {queue : QueueService Supplier}
    {entry : QueueEntry} {index : Nat}
    (found : queue.indexOf entry = some index)
    (located :
      entryAt queue.fetchedEntries queue.entryIndex = some entry) :
    index ≤ queue.entryIndex := by
  obtain ⟨_, _, first⟩ := List.idxOf?_eq_some_iff.mp found
  obtain ⟨start, below⟩ :=
    entryAt_isSome_iff.mp (Option.isSome_of_mem located)
  by_contra early
  rw [entryAt, if_pos start,
    List.getElem?_eq_getElem (by omega)] at located
  apply first queue.entryIndex.toNat (by omega)
  simpa using Option.some.inj located

omit [QueueSupplier Supplier] in
theorem entryAt_indexOf {queue : QueueService Supplier}
    {entry : QueueEntry} {index : Nat}
    (found : queue.indexOf entry = some index) :
    entryAt queue.fetchedEntries index = some entry := by
  obtain ⟨inside, located, _⟩ := List.idxOf?_eq_some_iff.mp found
  rw [entryAt, if_pos (Int.natCast_nonneg index), Int.toNat_natCast,
    List.getElem?_eq_getElem inside]
  simpa using located

omit [QueueSupplier Supplier] in
theorem entriesAt_of_prefix {entries longer : List QueueEntry}
    {indices : List Int} (isPrefix : entries <+: longer)
    (inside : ∀ index ∈ indices, 0 ≤ index ∧ index < entries.length) :
    entriesAt longer indices = entriesAt entries indices :=
  List.filterMap_congr fun index member =>
    entryAt_of_prefix isPrefix (inside index member).2

/-- A removal that saves nothing deletes the positions of `index`. -/
theorem historyEntries_of_kept {queue : QueueService Supplier}
    (inRange : queue.InRange)
    (nonneg : NonnegPrepared queue.orderIndexProvider.nextIndices)
    {entry : QueueEntry} {index : Nat}
    (found : queue.indexOf entry = some index)
    (kept : ¬ queue.SavesShifted entry index) :
    (step queue (.removeEntry entry)).historyEntries =
      entriesAt queue.fetchedEntries
        (queue.currentQueueIndicesPlayed.filter
          fun played => played ≠ index) := by
  obtain ⟨longer, _, same⟩ := history_after_removal inRange nonneg found
  rw [historyEntries, same kept,
    entriesAt_of_prefix longer (inRange.dropEntry found).history]
  exact entriesAt_shiftRemoved _ _ _

/-- A removal that saves the shifted cursor lengthens the history by it. -/
theorem length_historyEntries_of_saved {queue : QueueService Supplier}
    (inRange : queue.InRange)
    (nonneg : NonnegPrepared queue.orderIndexProvider.nextIndices)
    {entry : QueueEntry} {index : Nat}
    (found : queue.indexOf entry = some index)
    (saves : queue.SavesShifted entry index) :
    (step queue (.removeEntry entry)).historyEntries.length =
      (queue.currentQueueIndicesPlayed.filter
        fun played => played ≠ (index : Int)).length + 1 := by
  obtain ⟨_, saved, _⟩ := history_after_removal inRange nonneg found
  have after := step_inRange queue (.removeEntry entry) inRange
  rw [historyEntries, length_entriesAt after.history, saved saves,
    List.length_append, List.length_singleton]
  congr 1
  exact List.length_map _

theorem savesShifted_iff {queue : QueueService Supplier}
    {entry : QueueEntry} {index : Nat}
    (located : queue.entry = entryAt queue.fetchedEntries queue.entryIndex)
    (found : queue.indexOf entry = some index) :
    queue.SavesShifted entry index ↔
      queue.entry = some entry ∧ queue.entryIndex ≠ 0 ∧
        queue.FindsAnother index := by
  unfold SavesShifted
  refine and_congr_right fun current => ?_
  have reached := index_le_entryIndex found (located ▸ current)
  have cursor : (queue.dropEntry index).entryIndex = queue.entryIndex - 1 :=
    if_pos reached
  rw [hasNextIndex_dropEntry (indexOf_lt found) reached, cursor, INDEX_NONE,
    and_comm]
  exact and_congr_left fun _ => by omega

end QueueService

/-- In every reachable state whose entry agrees with the cursor, a removal
deletes the entry from the history and adds nothing exactly when no other
position of the history holds the entry, and either another entry is playing,
or the first one is, or no entry follows it. -/
theorem removal_only_deletes_iff {Supplier : Type} [QueueSupplier Supplier]
    (order : PlaybackOrder) (mode : RepeatMode) (random : Random)
    (operations : List (Operation Supplier)) (entry : QueueEntry)
    (located :
      let queue := run step (QueueService.fresh order mode random) operations
      queue.entry = entryAt queue.fetchedEntries queue.entryIndex) :
    let queue := run step (QueueService.fresh order mode random) operations
    queue.OnlyDeletes entry ↔
      ∀ index ∈ queue.indexOf entry,
        (∀ played ∈ queue.currentQueueIndicesPlayed, played ≠ index →
          entryAt queue.fetchedEntries played ≠ some entry) ∧
        (queue.entry = some entry →
          queue.entryIndex = 0 ∨ ¬ queue.FindsAnother index) := by
  intro queue
  have inRange : queue.InRange := run_inRange order mode random operations
  have nonneg := run_nonnegPrepared order mode random operations
  rw [onlyDeletes_iff inRange]
  cases found : queue.indexOf entry with
  | none =>
      have absent : entry ∉ queue.fetchedEntries := by
        intro member
        have isSome := List.isSome_idxOf?.mpr member
        rw [indexOf] at found
        rw [found] at isSome
        cases isSome
      rw [step_removeEntry_of_absent found, eq_comm, List.filter_eq_self]
      refine iff_of_true ?_ fun index member => by cases member
      intro other member
      rw [decide_eq_true_eq]
      rintro rfl
      exact absent (mem_of_mem_entriesAt member)
  | some index =>
      have holds := entryAt_indexOf found
      by_cases saves : queue.SavesShifted entry index
      · refine iff_of_false ?_ ?_
        · intro deletes
          have longer :=
            length_historyEntries_of_saved inRange nonneg found saves
          have shorter :
              (entriesAt queue.fetchedEntries
                  (queue.currentQueueIndicesPlayed.filter
                    fun played => played ≠ (index : Int))).length ≤
                (queue.currentQueueIndicesPlayed.filter
                  fun played => played ≠ (index : Int)).length :=
            List.length_filterMap_le _ _
          rw [deletes, historyEntries, filter_entriesAt holds] at longer
          have filtered :=
            List.length_filter_le (fun other => decide (other ≠ entry))
              (entriesAt queue.fetchedEntries
                (queue.currentQueueIndicesPlayed.filter
                  fun played => played ≠ (index : Int)))
          omega
        · intro condition
          obtain ⟨current, notFirst, another⟩ :=
            (savesShifted_iff located found).mp saves
          rcases (condition index rfl).2 current with first | ended
          · exact notFirst first
          · exact ended another
      · rw [historyEntries_of_kept inRange nonneg found saves,
          historyEntries, entriesAt_filter_iff holds]
        have left :
            queue.entry = some entry →
              queue.entryIndex = 0 ∨ ¬ queue.FindsAnother index := by
          intro current
          by_contra both
          obtain ⟨notFirst, another⟩ := not_or.mp both
          exact saves ((savesShifted_iff located found).mpr
            ⟨current, notFirst, not_not.mp another⟩)
        constructor
        · intro others removed member
          obtain rfl := Option.mem_some_iff.mp member
          exact ⟨others, left⟩
        · exact fun condition => (condition index rfl).1

theorem removal_of_played_entry_only_deletes :
    (run step (QueueService.fresh .default .none (fun _ => 0))
      [.addSupplier (FixedSupplier.ofList [⟨0⟩, ⟨1⟩, ⟨2⟩]),
        .next true false, .next true false]).OnlyDeletes ⟨0⟩ := by
  refine
    (removal_only_deletes_iff .default .none (fun _ => 0)
      [.addSupplier (FixedSupplier.ofList [⟨0⟩, ⟨1⟩, ⟨2⟩]),
        .next true false, .next true false] ⟨0⟩ rfl).mpr ?_
  intro index found
  obtain rfl : 0 = index := Option.some.inj found
  exact ⟨by decide, fun current => absurd current (by decide)⟩

/-- The removal of the current entry adds the entry in front of it, which has
never been played. -/
theorem removal_of_current_entry_adds_unplayed :
    let queue : FixedQueue :=
      run step (QueueService.fresh .default .none (fun _ => 0))
        [.addSupplier (.ofList [⟨0⟩, ⟨1⟩, ⟨2⟩, ⟨3⟩]), .setIndex 2 false]
    (queue.entry = entryAt queue.fetchedEntries queue.entryIndex ∧
        ⟨2⟩ ∈ queue.fetchedEntries) ∧
      queue.historyEntries = [] ∧
      (step queue (.removeEntry ⟨2⟩)).historyEntries = [⟨1⟩] ∧
      ¬ queue.OnlyDeletes ⟨2⟩ := by
  refine ⟨by decide, by decide, by decide, fun deletes => ?_⟩
  exact absurd deletes.history (by decide)

end JellyfinTv.Queue
