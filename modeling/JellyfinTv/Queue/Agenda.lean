import JellyfinTv.Queue.Peek
import JellyfinTv.Queue.Removal

/-!
# The agenda of the random order

A removal renumbers the queue and the prepared indices of the random provider
in two different places.  Read as entries instead of indices, the prepared
plays only lose the removed entry, and the removal of the current entry goes on
to the first of those that are left.
-/

namespace JellyfinTv.Queue

open QueueService Library

/-- The calls of a run. -/
inductive RandomCall where
  | next (usePlaybackOrder useRepeatMode : Bool)
  | peekNext (amount : Int) (usePlaybackOrder useRepeatMode : Bool)
  | removeEntry (entry : QueueEntry)
  deriving DecidableEq

namespace RandomCall

def operation : RandomCall → Operation FixedSupplier
  | .next usePlaybackOrder useRepeatMode =>
      .next usePlaybackOrder useRepeatMode
  | .peekNext amount usePlaybackOrder useRepeatMode =>
      .peekNext amount usePlaybackOrder useRepeatMode
  | .removeEntry entry => .removeEntry entry

/-- The entry that the call asks to remove. -/
def removes : RandomCall → Option QueueEntry
  | .removeEntry entry => some entry
  | _ => none

end RandomCall

namespace QueueService

def randomStep (queue : FixedQueue) (call : RandomCall) : FixedQueue :=
  step queue call.operation

/-- At least one entry, loaded or not, is left after the call. -/
def LeavesEntry (queue : FixedQueue) (call : RandomCall) : Prop :=
  (randomStep queue call).contents ≠ []

instance (queue : FixedQueue) (call : RandomCall) :
    Decidable (queue.LeavesEntry call) :=
  inferInstanceAs (Decidable (_ ≠ _))

/-- The prepared plays as entries of the full queue. -/
def planned (queue : FixedQueue) : List QueueEntry :=
  entriesAt queue.contents queue.orderIndexProvider.nextIndices

/-- The entry that starts playing in the playback order: every `next` in this
order starts one, and so does the removal of the current entry. -/
def starts (queue : FixedQueue) : RandomCall → List QueueEntry
  | .next true useRepeatMode =>
      (randomStep queue (.next true useRepeatMode)).entry.toList
  | .next false _ | .peekNext _ _ _ => []
  | .removeEntry entry =>
      if queue.entry = some entry then
        (randomStep queue (.removeEntry entry)).entry.toList
      else []

/-- The entries that start playing in the playback order in a run. -/
def played : FixedQueue → List RandomCall → List QueueEntry
  | _, [] => []
  | queue, call :: rest =>
      queue.starts call ++ played (randomStep queue call) rest

/-- The first entry of a plan starts; without a plan any entry may start. -/
def GoesOn (plan : List QueueEntry) (entry : QueueEntry)
    (rest : List QueueEntry) : Prop :=
  plan = entry :: rest ∨ plan = [] ∧ rest = []

theorem GoesOn.isPrefix {plan rest : List QueueEntry} {entry : QueueEntry}
    (goesOn : GoesOn plan entry rest) : plan <+: entry :: rest := by
  rcases goesOn with rfl | ⟨rfl, _⟩
  · exact List.prefix_rfl
  · exact List.nil_prefix

/-! ## The invariant -/

/-- The random provider has prepared positions of the cache of a queue over
pairwise distinct entries whose size is known. -/
structure Plans (queue : FixedQueue) (prepared : List Int) : Prop where
  provider : queue.orderIndexProvider = .random prepared
  mode : queue.repeatMode = .none
  counted : queue.Counted
  positioned : queue.Positioned
  distinct : queue.contents.Nodup
  loaded :
    ∀ index ∈ prepared, 0 ≤ index ∧ index < queue.fetchedEntries.length

theorem entryAt_injective {entries : List QueueEntry}
    (distinct : entries.Nodup) {first second : Int} {entry : QueueEntry}
    (atFirst : entryAt entries first = some entry)
    (atSecond : entryAt entries second = some entry) : first = second := by
  obtain ⟨start, below⟩ :=
    entryAt_isSome_iff.mp (Option.isSome_of_mem atFirst)
  obtain ⟨startSecond, _⟩ :=
    entryAt_isSome_iff.mp (Option.isSome_of_mem atSecond)
  rw [entryAt, if_pos start] at atFirst
  rw [entryAt, if_pos startSecond] at atSecond
  have inside : first.toNat < entries.length := by omega
  have same : first.toNat = second.toNat :=
    (List.getElem?_inj inside distinct).mp (atFirst.trans atSecond.symm)
  omega

theorem fetched_le_contents (queue : FixedQueue) :
    queue.fetchedEntries.length ≤ queue.contents.length :=
  (List.prefix_append queue.fetchedEntries queue.undrawn).length_le

/-- Supplying entries draws up to every position that has an entry. -/
theorem fetched_of_supplyEntries (indices : List Int)
    {queue loaded : FixedQueue} {entries : List QueueEntry}
    (ran : (supplyEntries indices).run queue = .ok entries loaded)
    {index : Int} (member : index ∈ indices)
    (inside : index < queue.contents.length) :
    index < loaded.fetchedEntries.length := by
  induction indices generalizing queue entries with
  | nil =>
      cases member
  | cons first rest inductionHypothesis =>
      obtain ⟨supplied, loads, _, reached⟩ :=
        getOrSupplyEntry_spec first queue
      obtain ⟨final, others, further, _⟩ :=
        supplyEntries_run rest (load first queue)
      have same : final = loaded := by
        simp only [supplyEntries, EStateM.run_bind, supplied, others] at ran
        exact (EStateM.Result.ok.inj ran).2
      rw [same] at others further
      rcases List.mem_cons.mp member with rfl | later
      · have longer := further.fetched.length_le
        rcases reached with below | complete
        · omega
        · rw [complete] at longer
          omega
      · refine inductionHypothesis others later ?_
        rw [loads.contents]
        exact inside

theorem PointsAtEntry.fetched {queue : FixedQueue}
    (points : queue.PointsAtEntry) {entry : QueueEntry}
    (current : queue.entry = some entry) :
    entry ∈ queue.fetchedEntries := by
  rcases points with ⟨_, missing⟩ | ⟨_, _, located⟩
  · rw [missing] at current
    cases current
  · exact List.mem_of_getElem? (located.symm.trans current)

namespace Plans

variable {queue : FixedQueue} {prepared : List Int}

theorem planned (plans : Plans queue prepared) :
    queue.planned = entriesAt queue.contents prepared := by
  rw [QueueService.planned, plans.provider]
  rfl

/-- Prepared positions are positions of the full queue. -/
theorem inside (plans : Plans queue prepared) {index : Int}
    (member : index ∈ prepared) :
    0 ≤ index ∧ index < queue.contents.length := by
  have loaded := plans.loaded index member
  have shorter := queue.fetched_le_contents
  omega

/-- Every planned entry has been loaded. -/
theorem fetched (plans : Plans queue prepared) {entry : QueueEntry}
    (member : entry ∈ queue.planned) : entry ∈ queue.fetchedEntries := by
  have longer : queue.fetchedEntries <+: queue.contents :=
    List.prefix_append _ _
  rw [plans.planned, entriesAt_of_prefix longer plans.loaded] at member
  exact mem_of_mem_entriesAt member

theorem effectiveMode (plans : Plans queue prepared)
    (useRepeatMode : Bool) :
    queue.effectiveRepeatMode useRepeatMode = .none := by
  cases useRepeatMode with
  | false => rfl
  | true => exact plans.mode

theorem size_pos (plans : Plans queue prepared)
    (nonempty : queue.contents ≠ []) : 0 < queue.estimatedSize := by
  rw [plans.counted.estimatedSize]
  exact_mod_cast List.length_pos_of_ne_nil nonempty

/-- A queue that has only loaded more entries keeps its plan. -/
theorem of_keeps {after : FixedQueue} (plans : Plans queue prepared)
    (keeps : Keeps queue after)
    (provider : after.orderIndexProvider = queue.orderIndexProvider)
    (mode : after.repeatMode = queue.repeatMode) :
    Plans after prepared where
  provider := provider.trans plans.provider
  mode := mode.trans plans.mode
  counted := plans.counted.of_keeps keeps
  positioned := keeps.positioned plans.positioned
  distinct := keeps.contents ▸ plans.distinct
  loaded := by
    intro index member
    have loaded := plans.loaded index member
    have longer := keeps.fetched.length_le
    omega

theorem jump (plans : Plans queue prepared) (index : Int) :
    Plans (QueueService.jump index true queue) prepared :=
  plans.of_keeps (keeps_movement.jumps index true queue)
    (jump_provider index true queue) (jump_repeatMode index true queue)

/-- Drawn positions lie in the full queue as well. -/
theorem inside_prepare (plans : Plans queue prepared)
    (nonempty : queue.contents ≠ []) {count : Nat} {index : Int}
    (member :
      index ∈ prepare queue.estimatedSize prepared count queue.random) :
    0 ≤ index ∧ index < queue.contents.length := by
  rcases List.mem_append.mp member with kept | drawn
  · exact plans.inside kept
  · rw [← plans.counted.estimatedSize]
    exact mem_draws_bounds (plans.size_pos nonempty) drawn

/-- What is left of the prepared indices once the first one is used. -/
theorem prepare_one_cases {size : Int} {random : Random} {index : Int}
    {rest : List Int}
    (shape : prepare size prepared 1 random = index :: rest) :
    prepared = index :: rest ∨ prepared = [] ∧ rest = [] := by
  cases prepared with
  | nil =>
      have single : draws size 1 random = index :: rest := shape
      exact Or.inr ⟨rfl, (List.cons.inj single).2.symm⟩
  | cons first later =>
      rw [prepare_of_le (Nat.succ_le_succ (Nat.zero_le _))] at shape
      exact Or.inl shape

/-- `next` starts the first planned entry, or any entry if none is planned. -/
theorem next_run (plans : Plans queue prepared)
    (nonempty : queue.contents ≠ []) (useRepeatMode : Bool) :
    ∃ entry final rest,
      (next true useRepeatMode).run queue = .ok (some entry) final ∧
        final.entry = some entry ∧ Plans final rest ∧
        final.PointsAtEntry ∧
        GoesOn queue.planned entry final.planned := by
  obtain ⟨index, rest, shape, ran⟩ :=
    next_random (plans.effectiveMode useRepeatMode) plans.provider
      (Or.inl (plans.size_pos nonempty))
  have bounds : 0 ≤ index ∧ index < queue.contents.length := by
    apply plans.inside_prepare nonempty
    rw [shape]
    exact List.mem_cons_self
  obtain ⟨entry, located⟩ :=
    Option.isSome_iff_exists.mp (entryAt_isSome_iff.mpr bounds)
  have left := prepare_one_cases shape
  have chosen :
      Plans
        { withPrepared queue prepared 1 with
          orderIndexProvider := .random rest } rest :=
    { provider := rfl
      mode := plans.mode
      counted := ⟨plans.counted.exact, plans.counted.tally⟩
      positioned := plans.positioned
      distinct := plans.distinct
      loaded := by
        intro other member
        rcases left with rfl | ⟨_, rfl⟩
        · exact plans.loaded other (List.mem_cons_of_mem index member)
        · cases member }
  have started := chosen.jump index
  have same :
      contents
          { withPrepared queue prepared 1 with
            orderIndexProvider := .random rest } = queue.contents := rfl
  rw [setIndex_run, if_neg (by omega), same, located] at ran
  refine
    ⟨entry, _, rest, ran, ?_, started, pointsAtEntry_jump _ _ _, ?_⟩
  · rw [← located]
    rfl
  · rw [plans.planned, started.planned,
      (keeps_movement.jumps index true _).contents, same]
    rcases left with rfl | ⟨rfl, rfl⟩
    · exact Or.inl (List.filterMap_cons_some located)
    · exact Or.inr ⟨rfl, rfl⟩

/-- Peeking only prepares further plays and loads what it answers. -/
theorem peekNext_run (plans : Plans queue prepared)
    (nonempty : queue.contents ≠ []) (amount : Nat)
    (useRepeatMode : Bool) :
    ∃ final,
      (peekNext amount true useRepeatMode).run queue =
          .ok (final.planned.take amount) final ∧
        Plans final
          (prepare queue.estimatedSize prepared amount queue.random) ∧
        Loads (withPrepared queue prepared amount) final ∧
        queue.planned <+: final.planned := by
  have positive := plans.size_pos nonempty
  obtain ⟨final, supplied, loads, _⟩ :=
    supplyEntries_run
      ((prepare queue.estimatedSize prepared amount queue.random).take
        amount) (withPrepared queue prepared amount)
  have ran :
      (peekNext amount true useRepeatMode).run queue =
        .ok
          (((prepare queue.estimatedSize prepared amount
            queue.random).take amount).filterMap
              (entryAt queue.contents)) final := by
    simp only [peekNext, EStateM.run_bind,
      getNextIndices_run_none (plans.effectiveMode useRepeatMode),
      provideIndices_random plans.provider (Or.inl positive), supplied]
    rfl
  have keeps : Keeps queue final := by
    have steady : Steady (.peekNext amount true useRepeatMode) := trivial
    rw [← step_peekNext ran]
    exact step_keeps steady queue
  have further :
      Plans final
        (prepare queue.estimatedSize prepared amount queue.random) :=
    { provider := by rw [loads.frame]; rfl
      mode := by rw [loads.frame]; exact plans.mode
      counted := plans.counted.of_keeps keeps
      positioned := keeps.positioned plans.positioned
      distinct := keeps.contents ▸ plans.distinct
      loaded := by
        intro index member
        have inside := plans.inside_prepare nonempty member
        refine ⟨inside.1, ?_⟩
        rcases List.mem_append.mp member with kept | drawn
        · have loaded := plans.loaded index kept
          have longer := keeps.fetched.length_le
          omega
        · -- Every drawn position is among those that are peeked at.
          refine fetched_of_supplyEntries _ supplied ?_ inside.2
          rw [take_prepare_split]
          exact List.mem_append_right _ drawn }
  have planned := further.planned
  rw [keeps.contents] at planned
  have aligned :
      Aligned queue.contents
        (prepare queue.estimatedSize prepared amount queue.random) :=
    Or.inl fun index member =>
      entryAt_isSome_iff.mpr (plans.inside_prepare nonempty member)
  refine ⟨final, ?_, further, loads, ?_⟩
  · rw [ran, aligned.take_filterMap, planned]
    rfl
  · rw [plans.planned, planned]
    exact (List.prefix_append _ _).filterMap _

/-- A peek at a negative number of entries throws and changes nothing. -/
theorem peekNext_run_negative (plans : Plans queue prepared) {amount : Int}
    (negative : amount < 0) (useRepeatMode : Bool) :
    (peekNext amount true useRepeatMode).run queue =
      .error .illegalArgument queue := by
  have provided : queue.provider true = .random prepared := plans.provider
  have failed :
      (RandomOrderIndexProvider.provideIndices amount
          queue.estimatedSize).run ⟨prepared, queue.random⟩ =
        .error .illegalArgument ⟨prepared, queue.random⟩ := by
    simp only [RandomOrderIndexProvider.provideIndices, collectIndices,
      if_pos negative]
    rfl
  have picked :
      (getNextIndices amount true useRepeatMode).run queue =
        .error .illegalArgument queue := by
    rw [getNextIndices_run_none (plans.effectiveMode useRepeatMode)]
    exact provideIndices_of_error provided failed
  simp only [peekNext, EStateM.run_bind, picked]

/-- A removal renumbers the plan along with the queue. -/
theorem dropEntry (plans : Plans queue prepared) {entry : QueueEntry}
    {index : Nat} (found : queue.indexOf entry = some index) :
    Plans (queue.dropEntry index) (shiftRemoved index prepared) := by
  have inside := indexOf_lt found
  refine
    { provider := ?_
      mode := plans.mode
      counted := plans.counted.dropEntry found
      positioned := plans.positioned
      distinct := ?_
      loaded := ?_ }
  · rw [QueueService.dropEntry, plans.provider]
    rfl
  · rw [contents_dropEntry found]
    exact plans.distinct.erase entry
  · intro shifted member
    have shorter :
        (queue.dropEntry index).fetchedEntries.length =
          queue.fetchedEntries.length - 1 :=
      List.length_eraseIdx_of_lt inside
    obtain ⟨other, kept, rfl⟩ := List.mem_map.mp member
    obtain ⟨planned, different⟩ := List.mem_filter.mp kept
    rw [decide_eq_true_eq] at different
    have bounds := plans.loaded other planned
    split <;> omega

/-- Of the prepared plays, exactly those of the removed entry are deleted. -/
theorem planned_dropEntry (plans : Plans queue prepared)
    {entry : QueueEntry} {index : Nat}
    (found : queue.indexOf entry = some index) :
    (queue.dropEntry index).planned =
      queue.planned.filter fun other => other ≠ entry := by
  have erased :
      (queue.dropEntry index).contents = queue.contents.eraseIdx index :=
    (List.eraseIdx_append_of_lt_length (indexOf_lt found) _).symm
  have located : entryAt queue.contents index = some entry := by
    have longer : queue.fetchedEntries <+: queue.contents :=
      List.prefix_append _ _
    have inside : (index : Int) < queue.fetchedEntries.length := by
      exact_mod_cast indexOf_lt found
    have same := entryAt_of_prefix longer inside
    rw [same]
    exact entryAt_indexOf found
  rw [(plans.dropEntry found).planned, erased, entriesAt_shiftRemoved,
    plans.planned, entriesAt_filter_iff located]
  intro other member different holds
  apply different
  exact entryAt_injective plans.distinct holds located

end Plans

/-! ## Runs -/

/-- The random provider plans ahead and the cursor is on its entry. -/
def Scheduled (queue : FixedQueue) : Prop :=
  (∃ prepared, Plans queue prepared) ∧ queue.PointsAtEntry

/-- A call that removes nothing finds an entry if it leaves one. -/
theorem nonempty_of_left {queue : FixedQueue} {call : RandomCall}
    (steady : Steady call.operation) (left : queue.LeavesEntry call) :
    queue.contents ≠ [] := by
  rw [← (step_keeps steady queue).contents]
  exact left

namespace Scheduled

variable {queue : FixedQueue}

theorem advance (scheduled : Scheduled queue) {useRepeatMode : Bool}
    (left : queue.LeavesEntry (.next true useRepeatMode)) :
    Scheduled (randomStep queue (.next true useRepeatMode)) ∧
      ∃ entry,
        (randomStep queue (.next true useRepeatMode)).entry = some entry ∧
          GoesOn queue.planned entry
            (randomStep queue (.next true useRepeatMode)).planned := by
  obtain ⟨⟨prepared, plans⟩, _⟩ := scheduled
  have steady : Steady (RandomCall.next true useRepeatMode).operation :=
    trivial
  obtain ⟨entry, final, rest, ran, started, further, points, goesOn⟩ :=
    plans.next_run (nonempty_of_left steady left) useRepeatMode
  have reached : randomStep queue (.next true useRepeatMode) = final :=
    step_next ran
  rw [reached]
  exact ⟨⟨⟨rest, further⟩, points⟩, entry, started, goesOn⟩

theorem peek (scheduled : Scheduled queue) {amount : Int}
    {useRepeatMode : Bool}
    (left : queue.LeavesEntry (.peekNext amount true useRepeatMode)) :
    Scheduled (randomStep queue (.peekNext amount true useRepeatMode)) ∧
      queue.planned <+:
        (randomStep queue (.peekNext amount true useRepeatMode)).planned ∧
      ∀ entries,
        outcome queue (.peekNext amount true useRepeatMode) =
            .ok (.entries entries) →
          entries <+:
            (randomStep queue
              (.peekNext amount true useRepeatMode)).planned := by
  obtain ⟨⟨prepared, plans⟩, points⟩ := scheduled
  have steady :
      Steady (RandomCall.peekNext amount true useRepeatMode).operation :=
    trivial
  have nonempty := nonempty_of_left steady left
  by_cases negative : amount < 0
  · have failed := plans.peekNext_run_negative negative useRepeatMode
    have unchanged :
        randomStep queue (.peekNext amount true useRepeatMode) = queue := by
      simp only [randomStep, RandomCall.operation, step, perform,
        EStateM.run_bind, failed, finalState_error]
    rw [unchanged]
    refine ⟨⟨⟨prepared, plans⟩, points⟩, List.prefix_rfl, ?_⟩
    intro entries answered
    simp only [outcome, perform, EStateM.run_bind, failed] at answered
    cases answered
  · obtain ⟨count, rfl⟩ := Int.eq_ofNat_of_zero_le (Int.not_lt.mp negative)
    obtain ⟨final, ran, further, loads, grown⟩ :=
      plans.peekNext_run nonempty count useRepeatMode
    have reached :
        randomStep queue (.peekNext count true useRepeatMode) = final :=
      step_peekNext ran
    have prepares : PointsAtEntry (withPrepared queue prepared count) :=
      points
    rw [reached]
    refine ⟨⟨⟨_, further⟩, prepares.of_loads loads⟩, grown, ?_⟩
    intro entries answered
    rw [outcome_peekNext_of_run ran] at answered
    cases answered
    exact List.take_prefix _ _

/-- Loading and jumping keep the plan as long as the provider is not used. -/
theorem of_keeps (scheduled : Scheduled queue) {after : FixedQueue}
    (keeps : Keeps queue after)
    (provider : after.orderIndexProvider = queue.orderIndexProvider)
    (mode : after.repeatMode = queue.repeatMode)
    (points : after.PointsAtEntry) :
    Scheduled after ∧ after.planned = queue.planned := by
  obtain ⟨⟨prepared, plans⟩, _⟩ := scheduled
  refine ⟨⟨⟨prepared, plans.of_keeps keeps provider mode⟩, points⟩, ?_⟩
  rw [planned, planned, provider, keeps.contents]

/-- `next` in the default order leaves the plan alone. -/
theorem nextInOrder (scheduled : Scheduled queue) (useRepeatMode : Bool) :
    Scheduled (randomStep queue (.next false useRepeatMode)) ∧
      (randomStep queue (.next false useRepeatMode)).planned =
        queue.planned := by
  obtain ⟨prepared, plans⟩ := scheduled.1
  have provided : queue.provider false = .default := rfl
  have ran := next_default (plans.effectiveMode useRepeatMode) provided
  have moves :
      randomStep queue (.next false useRepeatMode) = queue ∨
        ∃ index,
          randomStep queue (.next false useRepeatMode) =
            QueueService.jump index true queue := by
    rw [setIndex_run] at ran
    split at ran
    · split at ran
      · exact Or.inl (step_next ran)
      · exact Or.inr ⟨_, step_next ran⟩
    · exact Or.inl (step_next ran)
  rcases moves with stayed | ⟨index, jumped⟩
  · rw [stayed]
    exact ⟨scheduled, rfl⟩
  · rw [jumped]
    exact
      scheduled.of_keeps (keeps_movement.jumps index true queue)
        (jump_provider index true queue) (jump_repeatMode index true queue)
        (pointsAtEntry_jump index true queue)

/-- A peek in the default order only loads. -/
theorem peekInOrder (scheduled : Scheduled queue) (amount : Int)
    (useRepeatMode : Bool) :
    Scheduled (randomStep queue (.peekNext amount false useRepeatMode)) ∧
      (randomStep queue (.peekNext amount false useRepeatMode)).planned =
        queue.planned := by
  obtain ⟨prepared, plans⟩ := scheduled.1
  have provided : queue.provider false = .default := rfl
  have unchanged := provideIndices_default_unchanged provided amount
  rw [← getNextIndices_run_none (plans.effectiveMode useRepeatMode)]
    at unchanged
  cases picked :
      (getNextIndices amount false useRepeatMode).run queue with
  | error exception failed =>
      rw [picked, finalState_error] at unchanged
      have stayed :
          randomStep queue (.peekNext amount false useRepeatMode) =
            queue := by
        simp only [randomStep, RandomCall.operation, step, perform,
          peekNext, EStateM.run_bind, picked, finalState_error, unchanged]
      rw [stayed]
      exact ⟨scheduled, rfl⟩
  | ok indices chosen =>
      rw [picked, finalState_ok] at unchanged
      obtain ⟨loaded, supplied, loads, _⟩ :=
        supplyEntries_run indices queue
      have ran :
          (peekNext amount false useRepeatMode).run queue =
            .ok (indices.filterMap (entryAt queue.contents)) loaded := by
        simp only [peekNext, EStateM.run_bind, picked, unchanged, supplied]
      have final :
          randomStep queue (.peekNext amount false useRepeatMode) =
            loaded :=
        step_peekNext ran
      have steady : Steady (.peekNext amount false useRepeatMode) := trivial
      have keeps : Keeps queue loaded := final ▸ step_keeps steady queue
      rw [final]
      refine scheduled.of_keeps keeps ?_ ?_ (scheduled.2.of_loads loads)
      · rw [loads.frame]
      · rw [loads.frame]

/-- The removal of an entry that is not playing. -/
theorem removeOther (scheduled : Scheduled queue) {entry : QueueEntry}
    (other : queue.entry ≠ some entry) :
    Scheduled (randomStep queue (.removeEntry entry)) ∧
      (randomStep queue (.removeEntry entry)).planned =
        queue.planned.filter fun planned => planned ≠ entry := by
  obtain ⟨prepared, plans⟩ := scheduled.1
  cases found : queue.indexOf entry with
  | none =>
      have unchanged :
          randomStep queue (.removeEntry entry) = queue :=
        step_removeEntry_of_absent found
      have unplanned : entry ∉ queue.planned := fun member =>
        List.idxOf?_eq_none_iff.mp found (plans.fetched member)
      rw [unchanged]
      refine ⟨scheduled, (List.filter_eq_self.mpr ?_).symm⟩
      intro planned member
      rw [decide_eq_true_eq]
      exact ne_of_mem_of_not_mem member unplanned
  | some index =>
      have same : (queue.dropEntry index).entry ≠ some entry := other
      have final :
          randomStep queue (.removeEntry entry) =
            (queue.dropEntry index).publish := by
        rw [randomStep, RandomCall.operation, step_removeEntry_eq found,
          finishRemoval_run, if_neg same]
        rfl
      rw [final]
      refine ⟨⟨⟨shiftRemoved index prepared, ?_⟩, ?_⟩, ?_⟩
      · exact
          (plans.dropEntry found).of_keeps (Keeps.of_publish _) rfl rfl
      · exact pointsAtEntry_dropEntry scheduled.2 found other
      · exact plans.planned_dropEntry found

/-- The removal of the entry that is playing. -/
theorem removeCurrent (scheduled : Scheduled queue) {entry : QueueEntry}
    (current : queue.entry = some entry)
    (left : queue.LeavesEntry (.removeEntry entry)) :
    Scheduled (randomStep queue (.removeEntry entry)) ∧
      ∃ following,
        (randomStep queue (.removeEntry entry)).entry = some following ∧
          GoesOn (queue.planned.filter fun planned => planned ≠ entry)
            following (randomStep queue (.removeEntry entry)).planned := by
  obtain ⟨⟨prepared, plans⟩, points⟩ := scheduled
  obtain ⟨index, found⟩ : ∃ index, queue.indexOf entry = some index :=
    Option.isSome_iff_exists.mp
      (List.isSome_idxOf?.mpr (points.fetched current))
  have kept : (queue.dropEntry index).contents ≠ [] := by
    rw [← (step_removeEntry found).contents]
    exact left
  obtain ⟨following, moved, rest, ran, started, further, pointed, goesOn⟩ :=
    (plans.dropEntry found).next_run kept false
  have same : (queue.dropEntry index).entry = some entry := current
  have final :
      randomStep queue (.removeEntry entry) = moved.publish := by
    rw [randomStep, RandomCall.operation, step_removeEntry_eq found,
      finishRemoval_run, if_pos same, ran]
    rfl
  rw [plans.planned_dropEntry found] at goesOn
  rw [final]
  refine ⟨⟨⟨rest, ?_⟩, pointed⟩, following, started, goesOn⟩
  exact further.of_keeps (Keeps.of_publish _) rfl rfl

/-- A call starts the next planned entry or none, and deletes from the plan
what it removes. -/
theorem step (scheduled : Scheduled queue) {call : RandomCall}
    (left : queue.LeavesEntry call) :
    Scheduled (randomStep queue call) ∧
      (queue.planned.filter fun entry => call.removes ≠ some entry) <+:
        queue.starts call ++ (randomStep queue call).planned := by
  cases call with
  | next usePlaybackOrder useRepeatMode =>
      cases usePlaybackOrder with
      | true =>
          obtain ⟨further, entry, started, goesOn⟩ := scheduled.advance left
          refine ⟨further, ?_⟩
          simp only [starts, started]
          simpa [RandomCall.removes] using goesOn.isPrefix
      | false =>
          obtain ⟨further, same⟩ := scheduled.nextInOrder useRepeatMode
          refine ⟨further, ?_⟩
          rw [same]
          simp [RandomCall.removes, starts]
  | peekNext amount usePlaybackOrder useRepeatMode =>
      cases usePlaybackOrder with
      | true =>
          obtain ⟨further, grown, _⟩ := scheduled.peek left
          refine ⟨further, ?_⟩
          simpa [RandomCall.removes, starts] using grown
      | false =>
          obtain ⟨further, same⟩ :=
            scheduled.peekInOrder amount useRepeatMode
          refine ⟨further, ?_⟩
          rw [same]
          simp [RandomCall.removes, starts]
  | removeEntry entry =>
      by_cases current : queue.entry = some entry
      · obtain ⟨further, following, started, goesOn⟩ :=
          scheduled.removeCurrent current left
        refine ⟨further, ?_⟩
        simp only [starts, if_pos current, started]
        simpa [RandomCall.removes, eq_comm] using goesOn.isPrefix
      · obtain ⟨further, planned⟩ := scheduled.removeOther current
        refine ⟨further, ?_⟩
        rw [planned]
        simp [RandomCall.removes, starts, if_neg current, eq_comm]

end Scheduled

/-- The entries that none of the calls asks to remove. -/
def kept (calls : List RandomCall) (entries : List QueueEntry) :
    List QueueEntry :=
  entries.filter fun entry => entry ∉ calls.filterMap RandomCall.removes

theorem kept_cons (call : RandomCall) (calls : List RandomCall)
    (entries : List QueueEntry) :
    kept (call :: calls) entries =
      (kept calls entries).filter
        fun entry => call.removes ≠ some entry := by
  unfold kept
  rw [List.filter_filter]
  apply List.filter_congr
  intro entry _
  cases removed : call.removes with
  | none => simp [removed]
  | some other => simp [removed, eq_comm]

theorem kept_filter (call : RandomCall) (calls : List RandomCall)
    (entries : List QueueEntry) :
    kept (call :: calls)
        (entries.filter fun entry => call.removes ≠ some entry) =
      kept (call :: calls) entries := by
  rw [kept_cons, kept_cons, kept, kept]
  simp only [List.filter_filter]
  apply List.filter_congr
  intro entry _
  cases decide (call.removes ≠ some entry) <;> simp

theorem kept_append (calls : List RandomCall)
    (first second : List QueueEntry) :
    kept calls (first ++ second) = kept calls first ++ kept calls second :=
  List.filter_append _ _

/-- A run plays a plan in its order, apart from the removed entries. -/
theorem plan_survives_run {queue : FixedQueue} {calls : List RandomCall}
    (scheduled : Scheduled queue)
    (left : Admitted randomStep LeavesEntry queue calls) :
    kept calls queue.planned <+:
      kept calls
        (played queue calls ++ (run randomStep queue calls).planned) := by
  induction calls generalizing queue with
  | nil =>
      exact List.prefix_rfl
  | cons call rest inductionHypothesis =>
      obtain ⟨further, stepped⟩ := scheduled.step left.1
      have first :
          kept (call :: rest) queue.planned <+:
            kept (call :: rest) (queue.starts call) ++
              kept (call :: rest) (randomStep queue call).planned := by
        rw [← kept_filter, ← kept_append]
        exact stepped.filter _
      have later :
          kept (call :: rest) (randomStep queue call).planned <+:
            kept (call :: rest)
              (played (randomStep queue call) rest ++
                (run randomStep queue (call :: rest)).planned) := by
        rw [kept_cons, kept_cons]
        exact (inductionHypothesis further left.2).filter _
      rw [played, List.append_assoc, kept_append]
      exact
        first.trans
          ((List.prefix_append_right_inj
            (kept (call :: rest) (queue.starts call))).mpr later)

end QueueService

/-- A queue in random order over the suppliers, before its first call. -/
def randomQueue (random : Random) (suppliers : List FixedSupplier) :
    FixedQueue :=
  run step (QueueService.fresh .random .none random)
    (suppliers.map Operation.addSupplier)

theorem pointsAtEntry_addSuppliers {queue : FixedQueue}
    (points : queue.PointsAtEntry) (suppliers : List FixedSupplier) :
    (run step queue
      (suppliers.map Operation.addSupplier)).PointsAtEntry := by
  induction suppliers generalizing queue with
  | nil =>
      exact points
  | cons supplier rest inductionHypothesis =>
      exact
        inductionHypothesis
          (pointsAtEntry_movement.step_addSupplier queue supplier points)

theorem scheduled_randomQueue (random : Random)
    {suppliers : List FixedSupplier}
    (exact : ∀ supplier ∈ suppliers, supplier.Exact)
    (distinct : (suppliers.flatMap FixedSupplier.items).Nodup) :
    Scheduled (randomQueue random suppliers) := by
  have stocked :=
    (stocked_fresh .random .none random).addSuppliers exact
  refine ⟨⟨[], ?_⟩, pointsAtEntry_addSuppliers (Or.inl ⟨rfl, rfl⟩) suppliers⟩
  exact
    { provider := stocked.provider
      mode := stocked.mode
      counted := stocked.counted
      positioned := stocked.positioned
      distinct := by
        rw [randomQueue, stocked.contents]
        exact distinct
      loaded := fun _ member => absurd member List.not_mem_nil }

/-- The prepared indices lead to entries of the queue, the removal of an entry
deletes its plays and no others, the removal of the current entry goes on to
the first of those that are left as `next` does, and what has been peeked is
played in this order apart from the entries that are removed. -/
structure PlanSurvives (queue : FixedQueue) : Prop where
  inside :
    ∀ index ∈ queue.orderIndexProvider.nextIndices,
      0 ≤ index ∧ index < queue.estimatedSize ∧
        (entryAt queue.contents index).isSome
  advancing :
    ∀ useRepeatMode, queue.LeavesEntry (.next true useRepeatMode) →
      ∃ entry,
        (randomStep queue (.next true useRepeatMode)).entry = some entry ∧
          GoesOn queue.planned entry
            (randomStep queue (.next true useRepeatMode)).planned
  removal :
    ∀ entry, queue.entry ≠ some entry →
      (randomStep queue (.removeEntry entry)).planned =
        queue.planned.filter fun planned => planned ≠ entry
  leaving :
    ∀ entry, queue.entry = some entry →
      queue.LeavesEntry (.removeEntry entry) →
        ∃ following,
          (randomStep queue (.removeEntry entry)).entry = some following ∧
            GoesOn (queue.planned.filter fun planned => planned ≠ entry)
              following (randomStep queue (.removeEntry entry)).planned
  peeked :
    ∀ amount useRepeatMode entries,
      queue.LeavesEntry (.peekNext amount true useRepeatMode) →
      outcome queue (.peekNext amount true useRepeatMode) =
          .ok (.entries entries) →
        let after := randomStep queue (.peekNext amount true useRepeatMode)
        ∀ later, Admitted randomStep LeavesEntry after later →
          kept later entries <+:
            kept later
              (played after later ++ (run randomStep after later).planned)

theorem planSurvives_of_scheduled {queue : FixedQueue}
    (scheduled : Scheduled queue) : PlanSurvives queue where
  inside := by
    obtain ⟨⟨prepared, plans⟩, _⟩ := scheduled
    intro index member
    rw [plans.provider] at member
    have bounds := plans.inside member
    rw [plans.counted.estimatedSize]
    exact ⟨bounds.1, bounds.2, entryAt_isSome_iff.mpr bounds⟩
  advancing _ left := (scheduled.advance left).2
  removal _ other := (scheduled.removeOther other).2
  leaving _ current left := (scheduled.removeCurrent current left).2
  peeked := by
    intro amount useRepeatMode entries left answered after later admitted
    obtain ⟨further, _, listed⟩ := scheduled.peek left
    exact
      ((listed entries answered).filter _).trans
        (plan_survives_run further admitted)

/-- In random order without repeating, over suppliers with exact sizes and
pairwise distinct entries: after every run of calls that leaves an entry in the
queue, the plan survives removals. -/
theorem random_plan_survives_removals (random : Random)
    (suppliers : List FixedSupplier)
    (exact : ∀ supplier ∈ suppliers, supplier.Exact)
    (distinct : (suppliers.flatMap FixedSupplier.items).Nodup)
    (calls : List RandomCall)
    (left :
      Admitted randomStep LeavesEntry (randomQueue random suppliers) calls) :
    PlanSurvives (run randomStep (randomQueue random suppliers) calls) := by
  have preserved :
      ∀ queue call, Scheduled queue → queue.LeavesEntry call →
        Scheduled (randomStep queue call) :=
    fun _ _ scheduled left => (scheduled.step left).1
  exact
    planSurvives_of_scheduled
      (run_invariant preserved (scheduled_randomQueue random exact distinct)
        left)

theorem random_plan_survives_two_removals :
    PlanSurvives
      (run randomStep
        (randomQueue (fun draw => draw) [.ofList [⟨0⟩, ⟨1⟩], .ofList [⟨2⟩]])
        [.peekNext 4 true false, .removeEntry ⟨1⟩, .next true true,
          .removeEntry ⟨0⟩]) :=
  random_plan_survives_removals (fun draw => draw)
    [.ofList [⟨0⟩, ⟨1⟩], .ofList [⟨2⟩]]
    (by
      intro supplier member
      rcases List.mem_cons.mp member with rfl | last
      · exact FixedSupplier.ofList_exact _
      · rw [List.mem_singleton.mp last]
        exact FixedSupplier.ofList_exact _)
    (by decide)
    [.peekNext 4 true false, .removeEntry ⟨1⟩, .next true true,
      .removeEntry ⟨0⟩]
    (by decide)

end JellyfinTv.Queue
