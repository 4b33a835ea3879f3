import JellyfinTv.Queue.Peek

/-!
# The advertised navigation

The media session and the media manager offer the previous and the next entry
by the position of the queue, while `previous` follows the play history.  In
the default order the offer of the next entry is always right.  The offer of
the previous one is right exactly when the history is nonempty at the
positions behind the first, and each operation keeps this agreement under a
condition of its own.
-/

namespace JellyfinTv.Queue

open QueueService Library

section Offers

variable {Supplier : Type} [QueueSupplier Supplier]

/-- `allowPrevious` of `MediaSessionPlayer.getState`. -/
def allowPrevious (queue : QueueService Supplier) : Bool :=
  queue.entryIndex > 0

/-- `allowNext` of `MediaSessionPlayer.getState`. -/
def allowNext (queue : QueueService Supplier) : Bool :=
  queue.entryIndex < queue.estimatedSize - 1

def hasPrevAudioItem (queue : QueueService Supplier) : Bool :=
  queue.entryIndex > 0

def hasNextAudioItem : QueueM Supplier Bool := do
  let next ← peekNext 1 true false
  return next.head?.isSome

/-- The operation returns an entry in this state. -/
def Returns (queue : QueueService Supplier)
    (operation : Operation Supplier) : Prop :=
  ∃ entry, outcome queue operation = .ok (.entry (some entry))

/-- What is offered is what the queue can do. -/
structure NavigationMatches (queue : QueueService Supplier) : Prop where
  allowPrevious :
    allowPrevious queue = true ↔ Returns queue .previous
  hasPrevAudioItem :
    hasPrevAudioItem queue = true ↔ Returns queue .previous
  allowNext : allowNext queue = true ↔ Returns queue (.next true false)
  hasNextAudioItem :
    (∃ final, hasNextAudioItem.run queue = .ok true final) ↔
      Returns queue (.next true false)

end Offers

namespace QueueService

theorem outcome_previous_of_run {queue final : FixedQueue}
    {entry : Option QueueEntry}
    (ran : previous.run queue = .ok entry final) :
    outcome queue .previous = .ok (.entry entry) := by
  simp only [outcome, perform, EStateM.run_bind, ran]
  rfl

theorem returns_next_iff {queue : FixedQueue} (sound : queue.Sound)
    (order : queue.orderIndexProvider = .default) :
    Returns queue (.next true false) ↔
      queue.entryIndex + 1 < queue.estimatedSize := by
  have start := sound.cursor.1
  simp only [INDEX_NONE] at start
  have mode : queue.effectiveRepeatMode false = .none := rfl
  have chosen : queue.provider true = .default := order
  have ran := next_default mode chosen
  split at ran
  · rename_i more
    rw [setIndex_run, if_neg (by simp only [INDEX_NONE]; omega)] at ran
    have found := sound.found (by omega) more
    obtain ⟨entry, located⟩ := Option.isSome_iff_exists.mp found
    rw [located] at ran
    exact iff_of_true ⟨entry, outcome_next_of_run ran⟩ more
  · rename_i ended
    refine iff_of_false ?_ ended
    intro given
    obtain ⟨entry, returned⟩ := given
    rw [outcome_next_of_run ran] at returned
    cases returned

theorem hasNextAudioItem_run {queue : FixedQueue} (sound : queue.Sound)
    (order : queue.orderIndexProvider = .default) :
    ∃ final,
      hasNextAudioItem.run queue =
        .ok (decide (queue.entryIndex + 1 < queue.estimatedSize))
          final := by
  have start := sound.cursor.1
  simp only [INDEX_NONE] at start
  have mode : queue.effectiveRepeatMode false = .none := rfl
  have chosen : queue.provider true = .default := order
  have picked :
      (getNextIndices 1 true false).run queue =
        .ok (upcoming 1 queue.estimatedSize queue.entryIndex) queue := by
    rw [getNextIndices_run_none mode,
      provideIndices_default chosen (by decide)]
  obtain ⟨loaded, supplied, _⟩ :=
    supplyEntries_run
      (upcoming 1 queue.estimatedSize queue.entryIndex) queue
  refine ⟨loaded, ?_⟩
  simp only [hasNextAudioItem, peekNext, EStateM.run_bind, picked, supplied]
  rw [upcoming_one]
  by_cases more : queue.entryIndex + 1 < queue.estimatedSize
  · have found := sound.found (by omega) more
    obtain ⟨entry, located⟩ := Option.isSome_iff_exists.mp found
    simp [more, located]
  · simp [more]

/-- The play history refers to entries in the cache. -/
def HistoryInside (queue : FixedQueue) : Prop :=
  ∀ index ∈ queue.currentQueueIndicesPlayed,
    0 ≤ index ∧ index < queue.fetchedEntries.length

/-- The position is behind the first exactly when something was played
before. -/
def HistoryAgrees (queue : FixedQueue) : Prop :=
  0 < queue.entryIndex ↔ queue.currentQueueIndicesPlayed ≠ []

theorem previous_run {queue : FixedQueue} (inside : queue.HistoryInside)
    {index : Int}
    (last : queue.currentQueueIndicesPlayed.getLast? = some index) :
    previous.run queue =
      .ok (entryAt queue.contents index)
        (jump index false
          { queue with
            currentQueueIndicesPlayed :=
              queue.currentQueueIndicesPlayed.dropLast }) := by
  have start := (inside index (List.mem_of_getLast? last)).1
  simp only [previous, EStateM.run_bind, EStateM.run_get, last,
    EStateM.run_modify]
  rw [setIndex_run, if_neg (by omega)]
  rfl

theorem entryAt_contents_of_inside {queue : FixedQueue} {index : Int}
    (start : 0 ≤ index) (below : index < queue.fetchedEntries.length) :
    (entryAt queue.contents index).isSome := by
  have inside : index.toNat < queue.contents.length := by
    rw [contents, List.length_append]
    omega
  rw [entryAt, if_pos start, List.getElem?_eq_getElem inside]
  rfl

theorem returns_previous_iff {queue : FixedQueue}
    (inside : queue.HistoryInside) :
    Returns queue .previous ↔ queue.currentQueueIndicesPlayed ≠ [] := by
  cases last : queue.currentQueueIndicesPlayed.getLast? with
  | none =>
      have empty := List.getLast?_eq_none_iff.mp last
      refine iff_of_false ?_ (fun nonempty => nonempty empty)
      have ran : previous.run queue = .ok none queue := by
        simp only [previous, EStateM.run_bind, EStateM.run_get, last]
        rfl
      intro given
      obtain ⟨entry, returned⟩ := given
      rw [outcome_previous_of_run ran] at returned
      cases returned
  | some index =>
      have member := List.mem_of_getLast? last
      obtain ⟨start, below⟩ := inside index member
      have found := entryAt_contents_of_inside start below
      obtain ⟨entry, located⟩ := Option.isSome_iff_exists.mp found
      have ran := previous_run inside last
      rw [located] at ran
      exact iff_of_true ⟨entry, outcome_previous_of_run ran⟩
        (List.ne_nil_of_mem member)

/-- The facts about reachable queues in the default order. -/
structure Navigable (queue : FixedQueue) : Prop where
  sound : queue.Sound
  order : queue.orderIndexProvider = .default
  inside : queue.HistoryInside

theorem navigationMatches_iff {queue : FixedQueue}
    (navigable : queue.Navigable) :
    NavigationMatches queue ↔ queue.HistoryAgrees := by
  obtain ⟨sound, order, inside⟩ := navigable
  have next := returns_next_iff sound order
  have previous := returns_previous_iff inside
  obtain ⟨final, peeked⟩ := hasNextAudioItem_run sound order
  constructor
  · intro offered
    have back := offered.allowPrevious
    rw [previous] at back
    simpa [allowPrevious, HistoryAgrees] using back
  · intro agrees
    refine ⟨?_, ?_, ?_, ?_⟩
    · rw [previous]
      simpa [allowPrevious, HistoryAgrees] using agrees
    · rw [previous]
      simpa [hasPrevAudioItem, HistoryAgrees] using agrees
    · rw [next, allowNext, decide_eq_true_eq]
      omega
    · rw [next]
      constructor
      · intro given
        obtain ⟨other, offered⟩ := given
        rw [peeked] at offered
        injection offered with more
        exact of_decide_eq_true more
      · intro more
        exact ⟨final, by rw [peeked, decide_eq_true more]⟩

/-! ## What each operation does to the history -/

theorem jump_entryIndex (index : Int) (saveHistory : Bool)
    (queue : FixedQueue) :
    (jump index saveHistory queue).entryIndex =
      if entryAt queue.contents index = none then INDEX_NONE else index :=
  rfl

theorem jump_saved (index : Int) (queue : FixedQueue) :
    (jump index true queue).currentQueueIndicesPlayed =
      if queue.entryIndex ≠ INDEX_NONE then
        queue.currentQueueIndicesPlayed ++ [queue.entryIndex]
      else queue.currentQueueIndicesPlayed := by
  rw [jump_history, saveCurrentIndex]
  split <;> simp_all

theorem jump_unsaved (index : Int) (queue : FixedQueue) :
    (jump index false queue).currentQueueIndicesPlayed =
      queue.currentQueueIndicesPlayed := by
  rw [jump_history, saveCurrentIndex_false]

/-- An entry exists at an index behind the first. -/
def Behind (queue : FixedQueue) (index : Int) : Prop :=
  0 < index ∧ (entryAt queue.contents index).isSome

instance (queue : FixedQueue) (index : Int) :
    Decidable (queue.Behind index) :=
  inferInstanceAs (Decidable (_ ∧ _))

theorem jump_behind (index : Int) (saveHistory : Bool)
    (queue : FixedQueue) :
    0 < (jump index saveHistory queue).entryIndex ↔ queue.Behind index := by
  rw [jump_entryIndex, Behind, Option.isSome_iff_ne_none]
  by_cases missing : entryAt queue.contents index = none
  · simp [missing, INDEX_NONE]
  · simp [missing]

theorem historyAgrees_jump_unsaved {queue : FixedQueue} (index : Int) :
    (jump index false queue).HistoryAgrees ↔
      (queue.Behind index ↔ queue.currentQueueIndicesPlayed ≠ []) := by
  rw [HistoryAgrees, jump_behind, jump_unsaved]

theorem historyAgrees_jump_saved {queue : FixedQueue} (index : Int) :
    (jump index true queue).HistoryAgrees ↔
      (queue.Behind index ↔
        queue.entryIndex ≠ INDEX_NONE ∨
          queue.currentQueueIndicesPlayed ≠ []) := by
  rw [HistoryAgrees, jump_behind, jump_saved]
  by_cases idle : queue.entryIndex = INDEX_NONE
  · simp [idle]
  · simp [idle]

/-- Where the history agrees, a queue without a current entry has none. -/
theorem HistoryAgrees.played_iff {queue : FixedQueue}
    (agrees : queue.HistoryAgrees) :
    queue.entryIndex ≠ INDEX_NONE ∨
        queue.currentQueueIndicesPlayed ≠ [] ↔
      queue.entryIndex ≠ INDEX_NONE := by
  constructor
  · intro either
    rcases either with current | played
    · exact current
    · have positive := agrees.mpr played
      simp only [INDEX_NONE]
      omega
  · exact Or.inl

/-- `next` moves on from wherever the cursor is. -/
theorem historyAgrees_next_more {queue : FixedQueue}
    (sound : queue.Sound)
    (more : queue.entryIndex + 1 < queue.estimatedSize) :
    (jump (queue.entryIndex + 1) true queue).HistoryAgrees ↔
      (queue.currentQueueIndicesPlayed ≠ [] →
        queue.entryIndex ≠ INDEX_NONE) := by
  have start := sound.cursor.1
  simp only [INDEX_NONE] at start ⊢
  have found := sound.found (by omega) more
  have behind :
      queue.Behind (queue.entryIndex + 1) ↔ queue.entryIndex ≠ -1 := by
    rw [Behind]
    constructor
    · intro given
      obtain ⟨positive, _⟩ := given
      omega
    · exact fun _ => ⟨by omega, found⟩
  rw [historyAgrees_jump_saved, behind]
  tauto

/-- Repeating the current entry saves its index. -/
theorem historyAgrees_repeated {queue selected : FixedQueue}
    (sound : queue.Sound) (agrees : queue.HistoryAgrees)
    (selects : Selects queue selected) :
    (jump queue.entryIndex true selected).HistoryAgrees ↔
      queue.entryIndex ≠ 0 := by
  have same : selected.entryIndex = queue.entryIndex := by
    rw [selects.frame]
  have sameHistory :
      selected.currentQueueIndicesPlayed =
        queue.currentQueueIndicesPlayed := by
    rw [selects.frame]
  have contents := (Keeps.of_selects selects).contents
  have behind :
      selected.Behind queue.entryIndex ↔ 0 < queue.entryIndex := by
    rw [Behind, contents]
    constructor
    · exact And.left
    · intro positive
      exact ⟨positive,
        entryAt_contents_of_inside (by omega) sound.cursor.2⟩
  have start := sound.cursor.1
  rw [historyAgrees_jump_saved, same, sameHistory, behind,
    agrees.played_iff]
  simp only [INDEX_NONE] at start ⊢
  omega

theorem setIndex_run_of_valid (queue : FixedQueue) {index : Int}
    (valid : INDEX_NONE ≤ index) (saveHistory : Bool) :
    (setIndex index saveHistory).run queue =
      .ok (entryAt queue.contents index) (jump index saveHistory queue) := by
  simp only [INDEX_NONE] at valid
  rw [setIndex_run, if_neg (by simp only [INDEX_NONE]; omega)]

/-- The state in which `next` leaves a queue in the default order. -/
theorem next_leaves {queue : FixedQueue} (navigable : queue.Navigable)
    (usePlaybackOrder useRepeatMode : Bool) :
    (queue.effectiveRepeatMode useRepeatMode = .none ∧
      queue.entryIndex + 1 < queue.estimatedSize ∧
      ∃ entry,
        (next usePlaybackOrder useRepeatMode).run queue =
          .ok (some entry) (jump (queue.entryIndex + 1) true queue)) ∨
    (queue.effectiveRepeatMode useRepeatMode = .none ∧
      ¬ queue.entryIndex + 1 < queue.estimatedSize ∧
      (next usePlaybackOrder useRepeatMode).run queue = .ok none queue) ∨
    (queue.effectiveRepeatMode useRepeatMode ≠ .none ∧
      ∃ selected, Selects queue selected ∧
        (next usePlaybackOrder useRepeatMode).run queue =
          .ok (entryAt queue.contents queue.entryIndex)
            (jump queue.entryIndex true selected)) := by
  have start := navigable.sound.cursor.1
  have chosen : queue.provider usePlaybackOrder = .default := by
    cases usePlaybackOrder with
    | false =>
        rfl
    | true =>
        exact navigable.order
  by_cases mode : queue.effectiveRepeatMode useRepeatMode = .none
  · have ran := next_default mode chosen
    by_cases more : queue.entryIndex + 1 < queue.estimatedSize
    · left
      simp only [INDEX_NONE] at start
      rw [if_pos more, setIndex_run_of_valid queue
        (by simp only [INDEX_NONE]; omega)] at ran
      obtain ⟨entry, located⟩ :=
        Option.isSome_iff_exists.mp
          (navigable.sound.found (by omega) more)
      rw [located] at ran
      exact ⟨mode, more, entry, ran⟩
    · right
      left
      rw [if_neg more] at ran
      exact ⟨mode, more, ran⟩
  · right
    right
    obtain ⟨selected, selects, ran⟩ := next_repeating mode
    rw [setIndex_run_of_valid selected start,
      (Keeps.of_selects selects).contents] at ran
    exact ⟨mode, selected, selects, ran⟩

theorem historyAgrees_step_next {queue : FixedQueue}
    (navigable : queue.Navigable) (agrees : queue.HistoryAgrees)
    (usePlaybackOrder useRepeatMode : Bool) :
    (step queue (.next usePlaybackOrder useRepeatMode)).HistoryAgrees ↔
      (queue.effectiveRepeatMode useRepeatMode ≠ .none →
        queue.entryIndex ≠ 0) := by
  rcases next_leaves navigable usePlaybackOrder useRepeatMode with
    ⟨mode, more, entry, ran⟩ | ⟨mode, _, ran⟩ | ⟨mode, selected, selects, ran⟩
  · rw [step_next ran, historyAgrees_next_more navigable.sound more]
    refine iff_of_true ?_ fun repeated => absurd mode repeated
    exact fun played => agrees.played_iff.mp (Or.inr played)
  · rw [step_next ran]
    exact iff_of_true agrees fun repeated => absurd mode repeated
  · rw [step_next ran,
      historyAgrees_repeated navigable.sound agrees selects]
    exact ⟨fun notFirst _ => notFirst, fun condition => condition mode⟩

theorem step_mediaStreamEnd {queue moved : FixedQueue}
    {entry : Option QueueEntry}
    (ran : (next true true).run queue = .ok entry moved) :
    step queue .mediaStreamEnd =
      if entry = none ∧ moved.entryIndex ≠ INDEX_NONE then
        jump INDEX_NONE true moved
      else moved := by
  have stopped :=
    setIndex_run_of_valid moved (Int.le_refl INDEX_NONE) true
  simp only [step, perform, mediaStreamEnd, EStateM.run_bind, ran,
    EStateM.run_get]
  by_cases ended : entry = none ∧ moved.entryIndex ≠ INDEX_NONE
  · simp only [if_pos ended, EStateM.run_bind, stopped]
    rfl
  · simp only [if_neg ended]
    rfl

theorem historyAgrees_step_mediaStreamEnd {queue : FixedQueue}
    (navigable : queue.Navigable) (agrees : queue.HistoryAgrees) :
    (step queue .mediaStreamEnd).HistoryAgrees ↔
      if queue.repeatMode = .none then
        queue.entryIndex = INDEX_NONE ∨
          queue.entryIndex + 1 < queue.estimatedSize
      else queue.entryIndex ≠ 0 := by
  have nowhere : ¬ queue.Behind INDEX_NONE := by
    intro given
    obtain ⟨positive, _⟩ := given
    exact absurd positive (by decide)
  rcases next_leaves navigable true true with
    ⟨mode, more, entry, ran⟩ | ⟨mode, ended, ran⟩ |
      ⟨mode, selected, selects, ran⟩
  · have plain : queue.repeatMode = .none := mode
    rw [if_pos plain, step_mediaStreamEnd ran, if_neg (by simp),
      historyAgrees_next_more navigable.sound more]
    refine iff_of_true ?_ (Or.inr more)
    exact fun played => agrees.played_iff.mp (Or.inr played)
  · have plain : queue.repeatMode = .none := mode
    rw [if_pos plain, step_mediaStreamEnd ran]
    by_cases idle : queue.entryIndex = INDEX_NONE
    · rw [if_neg (by simp [idle])]
      exact iff_of_true agrees (Or.inl idle)
    · rw [if_pos ⟨rfl, idle⟩, historyAgrees_jump_saved]
      refine iff_of_false ?_ (by simp [idle, ended])
      exact fun same => nowhere (same.mpr (Or.inl idle))
  · have repeated : queue.repeatMode ≠ .none := mode
    have settled :
        ¬ (entryAt queue.contents queue.entryIndex = none ∧
          (jump queue.entryIndex true selected).entryIndex ≠
            INDEX_NONE) := by
      intro given
      obtain ⟨missing, current⟩ := given
      rw [jump_entryIndex, (Keeps.of_selects selects).contents,
        if_pos missing] at current
      exact current rfl
    rw [if_neg repeated, step_mediaStreamEnd ran, if_neg settled]
    exact historyAgrees_repeated navigable.sound agrees selects

theorem historyAgrees_step_previous {queue : FixedQueue}
    (navigable : queue.Navigable) (agrees : queue.HistoryAgrees) :
    (step queue .previous).HistoryAgrees ↔
      ∀ index ∈ queue.currentQueueIndicesPlayed.getLast?,
        (0 < index ↔
          queue.currentQueueIndicesPlayed.dropLast ≠ []) := by
  cases last : queue.currentQueueIndicesPlayed.getLast? with
  | none =>
      have same : step queue .previous = queue := by
        simp only [step, perform, previous, EStateM.run_bind,
          EStateM.run_get, last]
        rfl
      rw [same]
      exact iff_of_true agrees fun _ member => absurd member (by simp)
  | some index =>
      obtain ⟨start, below⟩ :=
        navigable.inside index (List.mem_of_getLast? last)
      have ran := previous_run navigable.inside last
      have moved :
          step queue .previous =
            jump index false
              { queue with
                currentQueueIndicesPlayed :=
                  queue.currentQueueIndicesPlayed.dropLast } := by
        simp only [step, perform, EStateM.run_bind, ran]
        rfl
      have found := entryAt_contents_of_inside start below
      rw [moved, historyAgrees_jump_unsaved]
      simp only [Option.mem_def, Option.some.injEq, forall_eq']
      have behind :
          Behind
              { queue with
                currentQueueIndicesPlayed :=
                  queue.currentQueueIndicesPlayed.dropLast } index ↔
            0 < index := by
        constructor
        · intro inside
          exact inside.1
        · intro positive
          exact ⟨positive, found⟩
      rw [behind]

theorem historyAgrees_step_setIndex {queue : FixedQueue}
    (agrees : queue.HistoryAgrees) (index : Int) (saveHistory : Bool) :
    (step queue (.setIndex index saveHistory)).HistoryAgrees ↔
      (INDEX_NONE ≤ index →
        (queue.Behind index ↔
          if saveHistory then queue.entryIndex ≠ INDEX_NONE
          else 0 < queue.entryIndex)) := by
  rw [step_setIndex]
  by_cases rejected : index < 0 ∧ index ≠ INDEX_NONE
  · rw [if_pos rejected]
    refine iff_of_true agrees fun valid => ?_
    simp only [INDEX_NONE] at valid rejected
    omega
  · rw [if_neg rejected]
    have valid : INDEX_NONE ≤ index := by
      simp only [INDEX_NONE] at rejected ⊢
      omega
    cases saveHistory with
    | true =>
        rw [historyAgrees_jump_saved, agrees.played_iff]
        simp [valid]
    | false =>
        have played :
            0 < queue.entryIndex ↔ queue.currentQueueIndicesPlayed ≠ [] :=
          agrees
        rw [historyAgrees_jump_unsaved, ← played]
        simp [valid]

theorem historyAgrees_step_addSupplier {queue : FixedQueue}
    (agrees : queue.HistoryAgrees) (supplier : FixedSupplier) :
    (step queue (.addSupplier supplier)).HistoryAgrees := by
  rw [step_addSupplier_eq]
  split
  · rename_i idle
    rw [historyAgrees_jump_unsaved]
    apply iff_of_false
    · intro inside
      exact absurd inside.1 (by decide)
    · intro played
      exact agrees.played_iff.mp (Or.inr played) idle
  · exact agrees

/-- What a removal leaves of the position and of the history agrees, or a next
entry is found that the history does not forbid. -/
def RemovalAgrees (queue : FixedQueue) (entry : QueueEntry)
    (index : Nat) : Prop :=
  if queue.entry = some entry ∧
      (queue.dropEntry index).entryIndex + 1 <
        (queue.dropEntry index).estimatedSize then
    (queue.dropEntry index).currentQueueIndicesPlayed ≠ [] →
      (queue.dropEntry index).entryIndex ≠ INDEX_NONE
  else (queue.dropEntry index).HistoryAgrees

theorem historyInside_dropEntry {queue : FixedQueue} {index : Nat}
    (inside : queue.HistoryInside)
    (below : index < queue.fetchedEntries.length) :
    (queue.dropEntry index).HistoryInside := by
  intro shifted member
  simp only [dropEntry, shiftRemoved, List.mem_map, List.mem_filter,
    decide_eq_true_eq] at member
  obtain ⟨original, ⟨played, other⟩, rfl⟩ := member
  obtain ⟨start, short⟩ := inside original played
  simp only [dropEntry, List.length_eraseIdx_of_lt below]
  split <;> omega

theorem Navigable.dropEntry {queue : FixedQueue}
    (navigable : queue.Navigable) {entry : QueueEntry} {index : Nat}
    (found : queue.indexOf entry = some index) :
    (queue.dropEntry index).Navigable where
  sound := navigable.sound.dropEntry found
  order := by
    simp only [QueueService.dropEntry, navigable.order]
    rfl
  inside := historyInside_dropEntry navigable.inside (indexOf_lt found)

theorem historyAgrees_step_removeEntry {queue : FixedQueue}
    (navigable : queue.Navigable) (agrees : queue.HistoryAgrees)
    (entry : QueueEntry) :
    (step queue (.removeEntry entry)).HistoryAgrees ↔
      ∀ index ∈ queue.indexOf entry, queue.RemovalAgrees entry index := by
  cases found : queue.indexOf entry with
  | none =>
      rw [step_removeEntry_of_absent found]
      exact iff_of_true agrees fun _ member => absurd member (by simp)
  | some index =>
      have dropped := navigable.dropEntry found
      have mode :
          (queue.dropEntry index).effectiveRepeatMode false = .none :=
        rfl
      simp only [Option.mem_def, Option.some.injEq, forall_eq']
      rw [step_removeEntry_eq found, finishRemoval_run, RemovalAgrees]
      by_cases current : queue.entry = some entry
      · have still : (queue.dropEntry index).entry = some entry := current
        rw [if_pos still]
        rcases next_leaves dropped true false with
          ⟨_, more, next, ran⟩ | ⟨_, ended, ran⟩ | ⟨repeated, _⟩
        · rw [ran, if_pos ⟨current, more⟩,
            ← historyAgrees_next_more dropped.sound more]
          rfl
        · rw [ran, if_neg fun both => ended both.2]
          rfl
        · exact absurd mode repeated
      · have other : ¬ (queue.dropEntry index).entry = some entry := current
        rw [if_neg other, if_neg fun both => current both.1]
        rfl

/-! ## Runs in the default order -/

/-- Position and history stay as they are. -/
def SameCursor (before after : FixedQueue) : Prop :=
  after.entryIndex = before.entryIndex ∧
    after.currentQueueIndicesPlayed = before.currentQueueIndicesPlayed

instance : IsPreorder FixedQueue SameCursor where
  refl _ := ⟨rfl, rfl⟩
  trans _ _ _ first second :=
    ⟨second.1.trans first.1, second.2.trans first.2⟩

theorem SameCursor.historyAgrees {before after : FixedQueue}
    (same : SameCursor before after) :
    after.HistoryAgrees ↔ before.HistoryAgrees := by
  rw [HistoryAgrees, HistoryAgrees, same.1, same.2]

theorem SameCursor.of_selects {before after : FixedQueue}
    (selects : Selects before after) : SameCursor before after := by
  rw [selects.frame]
  exact ⟨rfl, rfl⟩

theorem SameCursor.of_loads {before after : FixedQueue}
    (loads : Loads before after) : SameCursor before after := by
  rw [loads.frame]
  exact ⟨rfl, rfl⟩

theorem sameCursor_peekNext (amount : Int)
    (usePlaybackOrder useRepeatMode : Bool) (queue : FixedQueue) :
    SameCursor queue
      (step queue (.peekNext amount usePlaybackOrder useRepeatMode)) := by
  have peeks :
      Respects SameCursor
        (perform (.peekNext amount usePlaybackOrder useRepeatMode) :
          QueueM FixedSupplier Response) := by
    refine Respects.bind (Respects.bind ?_ ?_) fun _ => Respects.pure _
    · exact fun queue => SameCursor.of_selects
        (respects_getNextIndices amount usePlaybackOrder useRepeatMode queue)
    · exact fun indices queue =>
        SameCursor.of_loads (respects_supplyEntries indices queue)
  exact peeks queue

theorem sameCursor_peekPrevious (queue : FixedQueue) :
    SameCursor queue (step queue .peekPrevious) := by
  have peeks :
      Respects SameCursor
        (perform .peekPrevious : QueueM FixedSupplier Response) := by
    refine Respects.bind ?_ fun _ => Respects.pure _
    refine Respects.bind Respects.get fun queue => ?_
    split
    · exact Respects.pure _
    · exact fun queue =>
        SameCursor.of_loads (respects_getOrSupplyEntry _ queue)
  exact peeks queue

theorem historyInside_movement :
    Movement (Preserves fun queue : FixedQueue =>
      queue.CursorValid ∧ queue.HistoryInside) where
  selects selects valid := by
    rw [selects.frame]
    exact valid
  loads index queue valid := by
    obtain ⟨_, loads, _⟩ := getOrSupplyEntry_spec index queue
    have longer := loads.fetched.length_le
    have same := SameCursor.of_loads loads
    refine ⟨cursorValid_movement.loads index queue valid.1, ?_⟩
    intro played member
    rw [same.2] at member
    obtain ⟨start, below⟩ := valid.2 played member
    exact ⟨start, by omega⟩
  jumps index saveHistory queue valid := by
    have cursor :=
      cursorValid_movement.jumps index saveHistory queue valid.1
    refine ⟨cursor, ?_⟩
    have keeps := keeps_movement.jumps index saveHistory queue
    have longer := keeps.fetched.length_le
    obtain ⟨start, below⟩ := valid.1
    simp only [INDEX_NONE] at start
    intro played member
    rw [jump_history, saveCurrentIndex] at member
    split at member
    · rename_i saved
      have current := saved.2
      simp only [INDEX_NONE] at current
      rcases List.mem_append.mp member with earlier | latest
      · obtain ⟨nonneg, inside⟩ := valid.2 played earlier
        exact ⟨nonneg, by omega⟩
      · rw [List.mem_singleton.mp latest]
        exact ⟨by omega, by omega⟩
    · obtain ⟨nonneg, inside⟩ := valid.2 played member
      exact ⟨nonneg, by omega⟩
  forgets queue valid :=
    ⟨valid.1, fun played member =>
      valid.2 played (List.dropLast_subset _ member)⟩

/-- The calls on a queue in the default order over exact suppliers. -/
def InDefaultOrder (queue : FixedQueue) :
    Operation FixedSupplier → Prop
  | .setPlaybackOrder order => order = .default
  | operation => queue.AddsExact operation

theorem InDefaultOrder.addsExact {queue : FixedQueue}
    {operation : Operation FixedSupplier}
    (permitted : queue.InDefaultOrder operation) :
    queue.AddsExact operation := by
  cases operation with
  | setPlaybackOrder =>
      trivial
  | addSupplier | setIndex | next | previous | peekNext | peekPrevious
    | removeEntry | clear | mediaStreamEnd | setRepeatMode =>
      exact permitted

theorem step_navigable (queue : FixedQueue)
    (operation : Operation FixedSupplier) (navigable : queue.Navigable)
    (permitted : queue.InDefaultOrder operation) :
    (step queue operation).Navigable := by
  have sound := step_sound queue operation navigable.sound permitted.addsExact
  have valid := And.intro navigable.sound.cursor navigable.inside
  have order : queue.orderIndexProvider.order = .default := by
    rw [navigable.order]
    rfl
  cases operation using steadyCases with
  | steady operation steady =>
      refine ⟨sound, ?_, ?_⟩
      · exact provider_eq_default
          ((step_keeps steady queue).order.trans order)
      · exact (historyInside_movement.perform steady queue valid).2
  | addSupplier supplier =>
      refine ⟨sound, ?_, ?_⟩
      · exact provider_eq_default
          ((step_addSupplier queue supplier).order.trans order)
      · exact (historyInside_movement.step_addSupplier queue supplier
          valid).2
  | removeEntry entry =>
      cases found : queue.indexOf entry with
      | none =>
          rw [step_removeEntry_of_absent found]
          exact navigable
      | some index =>
          have dropped := navigable.dropEntry found
          have droppedOrder :
              (queue.dropEntry index).orderIndexProvider.order =
                .default := by
            rw [dropped.order]
            rfl
          refine ⟨sound, ?_, ?_⟩
          · exact provider_eq_default
              ((step_removeEntry found).order.trans droppedOrder)
          · rw [step_removeEntry_eq found]
            exact (historyInside_movement.finishRemoval (fun _ => id) entry
              (queue.dropEntry index)
              ⟨dropped.sound.cursor, dropped.inside⟩).2
  | clear =>
      exact ⟨sound, navigable.order,
        fun _ member => absurd member List.not_mem_nil⟩
  | setPlaybackOrder order =>
      obtain rfl : order = .default := permitted
      refine ⟨sound, ?_, ?_⟩
      · rw [step_setPlaybackOrder, setPlaybackOrder]
        split
        · exact navigable.order
        · rfl
      · rw [step_setPlaybackOrder, setPlaybackOrder_frame]
        exact navigable.inside

/-- The condition under which an operation keeps the agreement of position and
history. -/
def KeepsAgreement (queue : FixedQueue) : Operation FixedSupplier → Prop
  | .setIndex index saveHistory =>
      INDEX_NONE ≤ index →
        (queue.Behind index ↔
          if saveHistory then queue.entryIndex ≠ INDEX_NONE
          else 0 < queue.entryIndex)
  | .next _ useRepeatMode =>
      queue.effectiveRepeatMode useRepeatMode ≠ .none →
        queue.entryIndex ≠ 0
  | .previous =>
      ∀ index ∈ queue.currentQueueIndicesPlayed.getLast?,
        (0 < index ↔ queue.currentQueueIndicesPlayed.dropLast ≠ [])
  | .removeEntry entry =>
      ∀ index ∈ queue.indexOf entry, queue.RemovalAgrees entry index
  | .mediaStreamEnd =>
      if queue.repeatMode = .none then
        queue.entryIndex = INDEX_NONE ∨
          queue.entryIndex + 1 < queue.estimatedSize
      else queue.entryIndex ≠ 0
  | _ => True

theorem historyAgrees_step_iff (queue : FixedQueue)
    (operation : Operation FixedSupplier) (navigable : queue.Navigable)
    (permitted : queue.InDefaultOrder operation)
    (agrees : queue.HistoryAgrees) :
    (step queue operation).HistoryAgrees ↔
      queue.KeepsAgreement operation := by
  cases operation with
  | addSupplier supplier =>
      exact iff_of_true (historyAgrees_step_addSupplier agrees supplier)
        trivial
  | setIndex index saveHistory =>
      exact historyAgrees_step_setIndex agrees index saveHistory
  | next usePlaybackOrder useRepeatMode =>
      exact historyAgrees_step_next navigable agrees usePlaybackOrder
        useRepeatMode
  | previous =>
      exact historyAgrees_step_previous navigable agrees
  | peekNext amount usePlaybackOrder useRepeatMode =>
      have same :=
        sameCursor_peekNext amount usePlaybackOrder useRepeatMode queue
      exact iff_of_true (same.historyAgrees.mpr agrees) trivial
  | peekPrevious =>
      have same := sameCursor_peekPrevious queue
      exact iff_of_true (same.historyAgrees.mpr agrees) trivial
  | removeEntry entry =>
      exact historyAgrees_step_removeEntry navigable agrees entry
  | clear =>
      refine iff_of_true (iff_of_false ?_ fun played => played rfl) trivial
      exact (by decide : ¬ (0 : Int) < INDEX_NONE)
  | mediaStreamEnd =>
      exact historyAgrees_step_mediaStreamEnd navigable agrees
  | setPlaybackOrder order =>
      rw [step_setPlaybackOrder, setPlaybackOrder_frame]
      exact iff_of_true agrees trivial
  | setRepeatMode mode =>
      exact iff_of_true agrees trivial

theorem navigable_fresh (mode : RepeatMode) (random : Random) :
    (QueueService.fresh .default mode random : FixedQueue).Navigable where
  sound := sound_fresh .default mode random
  order := rfl
  inside _ member := absurd member List.not_mem_nil

theorem historyAgrees_fresh (mode : RepeatMode) (random : Random) :
    (QueueService.fresh .default mode random : FixedQueue).HistoryAgrees :=
  iff_of_false (by decide : ¬ (0 : Int) < INDEX_NONE) fun played => played rfl

end QueueService

/-- In every run in the default order over exact suppliers, what is offered is
what the queue can do in each state reached if and only if each operation
keeps the agreement of position and history. -/
theorem navigation_matches_iff (mode : RepeatMode) (random : Random)
    (operations : List (Operation FixedSupplier))
    (permitted :
      Admitted step InDefaultOrder (QueueService.fresh .default mode random)
        operations) :
    (∀ early, early <+: operations →
      NavigationMatches
        (run step (QueueService.fresh .default mode random : FixedQueue)
          early)) ↔
      Admitted step KeepsAgreement
        (QueueService.fresh .default mode random) operations := by
  have reached :
      ∀ early, early <+: operations →
        (run step (QueueService.fresh .default mode random : FixedQueue)
          early).Navigable :=
    fun early isEarly =>
      run_invariant step_navigable (navigable_fresh mode random)
        (permitted.earlier isEarly)
  rw [← holds_throughout_iff_admitted step_navigable historyAgrees_step_iff
    (navigable_fresh mode random) (historyAgrees_fresh mode random)
    permitted]
  exact forall₂_congr fun early isEarly =>
    navigationMatches_iff (reached early isEarly)

theorem navigation_matches_after_next :
    NavigationMatches
      (run step
        (QueueService.fresh .default .none (fun _ => 0) : FixedQueue)
        [.addSupplier (.ofList [⟨0⟩, ⟨1⟩]), .next true false]) := by
  refine (navigation_matches_iff .none (fun _ => 0)
    [.addSupplier (.ofList [⟨0⟩, ⟨1⟩]), .next true false]
    ⟨FixedSupplier.ofList_exact _, trivial, trivial⟩).mpr ?_ _
    List.prefix_rfl
  exact ⟨trivial, fun repeated => absurd rfl repeated, trivial⟩

/-- Playing from the second entry offers a previous entry, and there is
none. -/
theorem playFrom_offers_missing_previous :
    allowPrevious
        (run step
          (QueueService.fresh .default .none (fun _ => 0) : FixedQueue)
          [.addSupplier (.ofList [⟨0⟩, ⟨1⟩]), .setIndex 1 false]) = true ∧
      outcome
        (run step
          (QueueService.fresh .default .none (fun _ => 0) : FixedQueue)
          [.addSupplier (.ofList [⟨0⟩, ⟨1⟩]), .setIndex 1 false])
        .previous = .ok (.entry none) ∧
      ¬ NavigationMatches
        (run step
          (QueueService.fresh .default .none (fun _ => 0) : FixedQueue)
          [.addSupplier (.ofList [⟨0⟩, ⟨1⟩]), .setIndex 1 false]) := by
  have nothing :
      outcome
        (run step
          (QueueService.fresh .default .none (fun _ => 0) : FixedQueue)
          [.addSupplier (.ofList [⟨0⟩, ⟨1⟩]), .setIndex 1 false])
        .previous = .ok (.entry none) := by
    rfl
  refine ⟨by decide, nothing, ?_⟩
  intro offered
  obtain ⟨entry, returned⟩ := offered.allowPrevious.mp (by decide)
  rw [nothing] at returned
  cases returned

end JellyfinTv.Queue
