import JellyfinTv.Interaction.Tracker

/-!
# Locks keep the screensaver away

The purpose of the locks is a ledger: a call of `addLifecycleLock` enters a
lock unless its lifecycle is destroyed, and the lock leaves with its call or
with its lifecycle.  The view model counts the ledger, and while the ledger
is not empty or the activity is paused it neither shows the screensaver nor
waits to show it.
-/

namespace JellyfinTv.Interaction

open JellyfinTv.Library

namespace InteractionTracker

/-- Only the job in the field can be pending. -/
def OneTimer (tracker : InteractionTracker) : Prop :=
  ∀ job ∈ tracker.pendingTimers,
    tracker.timer = some job ∧ tracker.pendingTimers = [job]

def Blocked (tracker : InteractionTracker) : Prop :=
  0 < tracker.locks ∨ tracker.activityPaused = true

def Hidden (tracker : InteractionTracker) : Prop :=
  tracker.screensaverVisible = false ∧ tracker.pendingTimers = []

/-- What holds of the timer and the screensaver at every moment. -/
structure Calm (tracker : InteractionTracker) : Prop where
  oneTimer : tracker.OneTimer
  hidden : tracker.Blocked → tracker.Hidden

theorem OneTimer.length_le {tracker : InteractionTracker}
    (oneTimer : tracker.OneTimer) : tracker.pendingTimers.length ≤ 1 := by
  cases pending : tracker.pendingTimers with
  | nil =>
      exact Nat.zero_le 1
  | cons job rest =>
      have only := (oneTimer job (by simp [pending])).2
      rw [← pending, only]
      exact Nat.le_refl 1

theorem cancelTimer_pendingTimers {tracker : InteractionTracker}
    (oneTimer : tracker.OneTimer) :
    tracker.cancelTimer.pendingTimers = [] := by
  cases timer : tracker.timer with
  | none =>
      simp only [cancelTimer, timer]
      apply List.eq_nil_iff_forall_not_mem.mpr
      intro job pending
      have held := (oneTimer job pending).1
      simp [timer] at held
  | some current =>
      simp only [cancelTimer, timer]
      apply List.filter_eq_nil_iff.mpr
      intro job pending
      have held := (oneTimer job pending).1
      simp_all

/-! Each part of `notifyInteraction` writes fields of its own. -/

theorem cancelTimer_eq (tracker : InteractionTracker) :
    tracker.cancelTimer =
      { tracker with
        pendingTimers := tracker.cancelTimer.pendingTimers } := by
  unfold cancelTimer
  split <;> rfl

theorem interruptEpisode_eq (tracker : InteractionTracker)
    (userInitiated : Bool) :
    tracker.interruptEpisode userInitiated =
      { tracker with
        episodeCount := (tracker.interruptEpisode userInitiated).episodeCount
        watchTime := (tracker.interruptEpisode userInitiated).watchTime
        episodeWasInterrupted :=
          (tracker.interruptEpisode userInitiated).episodeWasInterrupted } := by
  unfold interruptEpisode
  split <;> rfl

theorem hideScreensaver_eq (tracker : InteractionTracker)
    (canCancel : Bool) :
    tracker.hideScreensaver canCancel =
      { tracker with
        screensaverVisible :=
          tracker.screensaverVisible &&
            !(canCancel || !tracker.inAppEnabled ||
              tracker.activityPaused) } := by
  unfold hideScreensaver
  split
  case isTrue hides =>
    simp only [Bool.and_eq_true] at hides
    simp [hides.1, hides.2]
  case isFalse stays =>
    have kept :
        (tracker.screensaverVisible &&
          !(canCancel || !tracker.inAppEnabled ||
            tracker.activityPaused)) = tracker.screensaverVisible := by
      rw [Bool.not_eq_true] at stays
      cases visible : tracker.screensaverVisible with
      | false =>
          rfl
      | true =>
          rw [visible, Bool.true_and] at stays
          simp [stays]
    rw [kept]

theorem startTimer_frame (tracker : InteractionTracker) :
    tracker.startTimer.locks = tracker.locks ∧
      tracker.startTimer.activityPaused = tracker.activityPaused := by
  unfold startTimer
  split_ifs <;> exact ⟨rfl, rfl⟩

theorem startTimer_of_blocked {tracker : InteractionTracker}
    (blocked : tracker.Blocked) : tracker.startTimer = tracker := by
  unfold startTimer
  apply if_neg
  intro starts
  simp only [Bool.and_eq_true, Bool.not_eq_true', beq_iff_eq] at starts
  rcases blocked with positive | paused
  · omega
  · simp [paused] at starts

theorem startTimer_oneTimer {tracker : InteractionTracker}
    (none : tracker.pendingTimers = []) : tracker.startTimer.OneTimer := by
  unfold startTimer OneTimer
  split_ifs <;> simp [none]

/-- The state in which `notifyInteraction` starts its timer. -/
def interrupted (tracker : InteractionTracker)
    (canCancel userInitiated : Bool) : InteractionTracker :=
  (tracker.cancelTimer.interruptEpisode userInitiated).hideScreensaver
    canCancel

theorem interrupted_frame (tracker : InteractionTracker)
    (canCancel userInitiated : Bool) :
    (tracker.interrupted canCancel userInitiated).locks = tracker.locks ∧
      (tracker.interrupted canCancel userInitiated).activityPaused =
        tracker.activityPaused ∧
      (tracker.interrupted canCancel userInitiated).pendingTimers =
        tracker.cancelTimer.pendingTimers ∧
      (tracker.interrupted canCancel userInitiated).screensaverVisible =
        (tracker.screensaverVisible &&
          !(canCancel || !tracker.inAppEnabled ||
            tracker.activityPaused)) := by
  unfold interrupted
  rw [hideScreensaver_eq, interruptEpisode_eq, cancelTimer_eq]
  exact ⟨rfl, rfl, rfl, rfl⟩

theorem notifyInteraction_frame (tracker : InteractionTracker)
    (canCancel userInitiated : Bool) :
    (tracker.notifyInteraction canCancel userInitiated).locks =
        tracker.locks ∧
      (tracker.notifyInteraction canCancel userInitiated).activityPaused =
        tracker.activityPaused := by
  have before := tracker.interrupted_frame canCancel userInitiated
  have started :=
    (tracker.interrupted canCancel userInitiated).startTimer_frame
  exact ⟨started.1.trans before.1, started.2.trans before.2.1⟩

/-- An interaction that hides the screensaver where it must be hidden leaves
everything calm, whatever was visible before. -/
theorem Calm.notifyInteraction {tracker : InteractionTracker}
    (oneTimer : tracker.OneTimer) (canCancel userInitiated : Bool)
    (hides :
      tracker.Blocked →
        tracker.screensaverVisible = false ∨ canCancel = true) :
    (tracker.notifyInteraction canCancel userInitiated).Calm := by
  obtain ⟨locks, paused, pending, visible⟩ :=
    tracker.interrupted_frame canCancel userInitiated
  rw [cancelTimer_pendingTimers oneTimer] at pending
  refine ⟨startTimer_oneTimer pending, fun blocked => ?_⟩
  have unchanged := tracker.notifyInteraction_frame canCancel userInitiated
  have before : tracker.Blocked := by
    rwa [Blocked, unchanged.1, unchanged.2] at blocked
  have still : (tracker.interrupted canCancel userInitiated).Blocked := by
    rwa [Blocked, locks, paused]
  have same := startTimer_of_blocked still
  have hidden :
      (tracker.screensaverVisible &&
        !(canCancel || !tracker.inAppEnabled ||
          tracker.activityPaused)) = false := by
    rcases hides before with invisible | cancels
    · simp [invisible]
    · simp [cancels]
  constructor
  · exact (congrArg screensaverVisible same).trans (visible.trans hidden)
  · exact (congrArg pendingTimers same).trans pending

theorem Calm.timerExpires {tracker : InteractionTracker}
    (calm : tracker.Calm) (job : Nat) : (tracker.timerExpires job).Calm := by
  unfold InteractionTracker.timerExpires
  split
  case isTrue pending =>
    have only := (calm.oneTimer job pending).2
    refine ⟨?_, fun blocked => ?_⟩
    · simp [OneTimer, only]
    · have hidden := (calm.hidden blocked).2
      simp [hidden] at pending
  case isFalse absent =>
    exact calm

/-- What is neither the timer nor the screensaver nor a lock is free to
change. -/
theorem Calm.of_eq {before after : InteractionTracker} (calm : before.Calm)
    (timer : after.timer = before.timer)
    (pending : after.pendingTimers = before.pendingTimers)
    (visible : after.screensaverVisible = before.screensaverVisible)
    (locks : after.locks = before.locks)
    (paused : after.activityPaused = before.activityPaused) :
    after.Calm := by
  constructor
  · intro job
    rw [timer, pending]
    exact calm.oneTimer job
  · intro blocked
    rw [Blocked, locks, paused] at blocked
    rw [Hidden, visible, pending]
    exact calm.hidden blocked

theorem created_calm (preferences : UserPreferences) :
    (created preferences).Calm := by
  apply Calm.notifyInteraction
  · simp [OneTimer]
  · intro _
    exact Or.inl rfl

@[simp]
theorem created_locks (preferences : UserPreferences) :
    (created preferences).locks = 0 :=
  (notifyInteraction_frame _ true false).1

end InteractionTracker

/-- The locks in force, each with the number of its call, the calls so far
and the lifecycles that are over. -/
structure Ledger (Lifecycle : Type) where
  live : List (Lifecycle × Nat)
  calls : Nat
  destroyed : List Lifecycle
  deriving DecidableEq, Repr

section Locks

variable {Lifecycle : Type} [DecidableEq Lifecycle]

namespace Ledger

def empty : Ledger Lifecycle :=
  ⟨[], 0, []⟩

def addLifecycleLock (ledger : Ledger Lifecycle) (lifecycle : Lifecycle) :
    Ledger Lifecycle :=
  { ledger with
    live :=
      if lifecycle ∈ ledger.destroyed then
        ledger.live
      else
        ledger.live ++ [(lifecycle, ledger.calls)]
    calls := ledger.calls + 1 }

def cancel (ledger : Ledger Lifecycle) (call : Nat) : Ledger Lifecycle :=
  { ledger with live := ledger.live.filter fun lock => lock.2 ≠ call }

def destroyLifecycle (ledger : Ledger Lifecycle) (lifecycle : Lifecycle) :
    Ledger Lifecycle :=
  { ledger with
    live := ledger.live.filter fun lock => lock.1 ≠ lifecycle
    destroyed := ledger.destroyed ++ [lifecycle] }

/-- Nothing else enters or releases a lock. -/
def step (ledger : Ledger Lifecycle) :
    Event Lifecycle → Ledger Lifecycle
  | .addLifecycleLock lifecycle => ledger.addLifecycleLock lifecycle
  | .cancel call => ledger.cancel call
  | .destroyLifecycle lifecycle => ledger.destroyLifecycle lifecycle
  | _ => ledger

end Ledger

/-! ## The view model keeps the ledger -/

namespace Screensaver

/-- The observers are the locks in force, and these are the active ones. -/
structure Keeps (screensaver : Screensaver Lifecycle)
    (ledger : Ledger Lifecycle) : Prop where
  calm : screensaver.tracker.Calm
  live : screensaver.observers = ledger.live
  calls : screensaver.screensaverLocks.length = ledger.calls
  destroyed : screensaver.destroyed = ledger.destroyed
  once : screensaver.observers.Nodup
  active : ∀ lifecycle number,
    (lifecycle, number) ∈ screensaver.observers ↔
      screensaver.screensaverLocks[number]? = some (some ⟨lifecycle, true⟩)
  locks : screensaver.tracker.locks = screensaver.observers.length

variable {screensaver : Screensaver Lifecycle} {ledger : Ledger Lifecycle}

omit [DecidableEq Lifecycle] in
/-- A lock observes one lifecycle. -/
theorem Keeps.lifecycle_eq (keeps : screensaver.Keeps ledger)
    {lifecycle other : Lifecycle} {number : Nat}
    (first : (lifecycle, number) ∈ screensaver.observers)
    (second : (other, number) ∈ screensaver.observers) :
    other = lifecycle := by
  rw [keeps.active] at first second
  rw [first] at second
  simpa using second.symm

omit [DecidableEq Lifecycle] in
theorem Keeps.lt_calls (keeps : screensaver.Keeps ledger)
    {lifecycle : Lifecycle} {number : Nat}
    (observes : (lifecycle, number) ∈ screensaver.observers) :
    number < ledger.calls := by
  rw [keeps.active] at observes
  rw [← keeps.calls]
  exact (List.getElem?_eq_some_iff.mp observes).1

theorem Keeps.erase_eq (keeps : screensaver.Keeps ledger)
    {lifecycle : Lifecycle} {number : Nat}
    (observes : (lifecycle, number) ∈ screensaver.observers) :
    screensaver.observers.erase (lifecycle, number) =
      screensaver.observers.filter fun lock => lock.2 ≠ number := by
  rw [keeps.once.erase_eq_filter]
  apply List.filter_congr
  rintro ⟨other, number'⟩ member
  by_cases same : number' = number
  · subst same
    have lifecycles := keeps.lifecycle_eq observes member
    simp [lifecycles]
  · simp [same]

omit [DecidableEq Lifecycle] in
theorem Keeps.cancel_of_absent (keeps : screensaver.Keeps ledger)
    {number : Nat}
    (absent : ∀ lifecycle, (lifecycle, number) ∉ screensaver.observers) :
    ledger.cancel number = ledger := by
  have all :
      (ledger.live.filter fun lock => lock.2 ≠ number) = ledger.live := by
    apply List.filter_eq_self.mpr
    rintro ⟨lifecycle, number'⟩ member
    rw [← keeps.live] at member
    have different : number' ≠ number := by
      rintro rfl
      exact absent lifecycle member
    simpa using different
  rw [Ledger.cancel, all]

theorem Keeps.cancel (keeps : screensaver.Keeps ledger) (number : Nat) :
    (screensaver.cancel number).Keeps (ledger.cancel number) := by
  by_cases observes :
      ∃ lifecycle, (lifecycle, number) ∈ screensaver.observers
  · obtain ⟨lifecycle, member⟩ := observes
    have held := (keeps.active lifecycle number).mp member
    have inside := (List.getElem?_eq_some_iff.mp held).1
    have erased := keeps.erase_eq member
    simp only [Screensaver.cancel, held, if_true]
    constructor
    case calm =>
      apply InteractionTracker.Calm.notifyInteraction
      · exact keeps.calm.oneTimer
      · intro blocked
        have before : screensaver.tracker.Blocked := by
          rcases blocked with positive | paused
          · refine Or.inl ?_
            simp only at positive
            omega
          · exact Or.inr paused
        exact Or.inl (keeps.calm.hidden before).1
    case live =>
      rw [erased, keeps.live]
      rfl
    case calls =>
      rw [List.length_set]
      exact keeps.calls
    case destroyed =>
      exact keeps.destroyed
    case once =>
      exact keeps.once.erase _
    case active =>
      intro other number'
      rw [erased, List.mem_filter, keeps.active, List.getElem?_set]
      by_cases same : number = number'
      · subst same
        simp [inside]
      · simp [same, Ne.symm same]
    case locks =>
      have positive := List.length_pos_of_mem member
      rw [(InteractionTracker.notifyInteraction_frame _ false false).1,
        List.length_erase_of_mem member]
      simp only [keeps.locks]
      omega
  · have absent :
        ∀ lifecycle, (lifecycle, number) ∉ screensaver.observers :=
      fun lifecycle member => observes ⟨lifecycle, member⟩
    rw [keeps.cancel_of_absent absent]
    have unchanged : screensaver.cancel number = screensaver := by
      unfold Screensaver.cancel
      split
      case h_1 lock held =>
        have inactive : lock.active = false := by
          by_contra active
          rw [Bool.not_eq_false] at active
          apply absent lock.lifecycle
          rw [keeps.active, held, ← active]
        rw [if_neg (by simp [inactive])]
      case h_2 =>
        rfl
    rw [unchanged]
    exact keeps

private theorem getElem?_concat_ne {Value : Type} {values : List Value}
    {last value : Value} (different : last ≠ value) (number : Nat) :
    (values ++ [last])[number]? = some value ↔
      values[number]? = some value := by
  rcases Nat.lt_trichotomy number values.length with inside | same | outside
  · rw [List.getElem?_append_left inside]
  · subst same
    simp [different]
  · rw [List.getElem?_eq_none (by simp; omega),
      List.getElem?_eq_none (by omega)]

theorem Keeps.addLifecycleLock (keeps : screensaver.Keeps ledger)
    (lifecycle : Lifecycle) :
    (screensaver.addLifecycleLock lifecycle).Keeps
      (ledger.addLifecycleLock lifecycle) := by
  by_cases ended : lifecycle ∈ screensaver.destroyed
  · have alike : lifecycle ∈ ledger.destroyed := keeps.destroyed ▸ ended
    simp only [Screensaver.addLifecycleLock, Ledger.addLifecycleLock,
      if_pos ended, if_pos alike]
    refine
      { keeps with
        calls := by simp [keeps.calls]
        active := fun other number => ?_ }
    rw [keeps.active, getElem?_concat_ne (by simp)]
  · have alike : lifecycle ∉ ledger.destroyed := keeps.destroyed ▸ ended
    have fresh :
        (lifecycle, screensaver.screensaverLocks.length) ∉
          screensaver.observers := by
      intro member
      have bound := keeps.lt_calls member
      rw [keeps.calls] at bound
      exact Nat.lt_irrefl _ bound
    simp only [Screensaver.addLifecycleLock, Ledger.addLifecycleLock,
      if_neg ended, if_neg alike, activate, List.getElem?_concat_length,
      Bool.false_eq_true, if_false]
    constructor
    case calm =>
      apply InteractionTracker.Calm.notifyInteraction
      · exact keeps.calm.oneTimer
      · intro _
        exact Or.inr rfl
    case live =>
      rw [keeps.live, keeps.calls]
    case calls =>
      simp [keeps.calls]
    case destroyed =>
      exact keeps.destroyed
    case once =>
      simpa using keeps.once.concat fresh
    case active =>
      intro other number
      rw [List.mem_append, keeps.active, List.mem_singleton,
        List.getElem?_set]
      by_cases same : number = screensaver.screensaverLocks.length
      · subst same
        simp [eq_comm]
      · have other_lock :
            (some ⟨lifecycle, false⟩ : Option (ScreensaverLock Lifecycle)) ≠
              some ⟨other, true⟩ := by
          simp
        simp [same, Ne.symm same, getElem?_concat_ne other_lock]
    case locks =>
      rw [(InteractionTracker.notifyInteraction_frame _ true false).1,
        List.length_append]
      simp only [keeps.locks, List.length_singleton]
      omega

theorem Keeps.foldl_cancel (numbers : List Nat) :
    ∀ {screensaver : Screensaver Lifecycle} {ledger : Ledger Lifecycle},
      screensaver.Keeps ledger →
        (numbers.foldl Screensaver.cancel screensaver).Keeps
          { ledger with
            live := ledger.live.filter fun lock => lock.2 ∉ numbers } := by
  induction numbers with
  | nil =>
      intro screensaver ledger keeps
      simpa using keeps
  | cons number rest inductionHypothesis =>
      intro screensaver ledger keeps
      have later := inductionHypothesis (keeps.cancel number)
      simpa [Ledger.cancel, List.filter_filter, Bool.and_comm] using later

theorem Keeps.destroyLifecycle (keeps : screensaver.Keeps ledger)
    (lifecycle : Lifecycle) :
    (screensaver.destroyLifecycle lifecycle).Keeps
      (ledger.destroyLifecycle lifecycle) := by
  have lifecycle_end :
      { screensaver with
        destroyed := screensaver.destroyed ++ [lifecycle] }.Keeps
        { ledger with
          destroyed := ledger.destroyed ++ [lifecycle] } :=
    { keeps with destroyed := by rw [keeps.destroyed] }
  have released :=
    lifecycle_end.foldl_cancel (screensaver.observersOf lifecycle)
  have left :
      (ledger.live.filter fun lock =>
        lock.2 ∉ screensaver.observersOf lifecycle) =
        ledger.live.filter fun lock => lock.1 ≠ lifecycle := by
    apply List.filter_congr
    rintro ⟨other, number⟩ member
    rw [← keeps.live] at member
    have observes :
        number ∈ screensaver.observersOf lifecycle ↔ other = lifecycle := by
      simp only [observersOf, List.mem_reverse, List.mem_map,
        List.mem_filter, decide_eq_true_eq]
      constructor
      · rintro ⟨⟨first, second⟩, ⟨observed, rfl⟩, rfl⟩
        exact keeps.lifecycle_eq observed member
      · rintro rfl
        exact ⟨(other, number), ⟨member, rfl⟩, rfl⟩
    simp [observes]
  simp only [left] at released
  exact released

omit [DecidableEq Lifecycle] in
/-- A change that leaves the locks alone leaves the ledger alone. -/
theorem Keeps.onTracker (keeps : screensaver.Keeps ledger)
    {after : InteractionTracker} (calm : after.Calm)
    (locks : after.locks = screensaver.tracker.locks) :
    { screensaver with tracker := after }.Keeps ledger :=
  { keeps with calm := calm, locks := locks.trans keeps.locks }

theorem Keeps.step (keeps : screensaver.Keeps ledger)
    (event : Event Lifecycle) :
    (screensaver.step event).Keeps (ledger.step event) := by
  have calm := keeps.calm
  cases event with
  | notifyInteraction canCancel userInitiated =>
      apply keeps.onTracker
      · apply InteractionTracker.Calm.notifyInteraction calm.oneTimer
        intro blocked
        exact Or.inl (calm.hidden blocked).1
      · exact (InteractionTracker.notifyInteraction_frame _ _ _).1
  | addLifecycleLock lifecycle =>
      exact keeps.addLifecycleLock lifecycle
  | cancel call =>
      exact keeps.cancel call
  | destroyLifecycle lifecycle =>
      exact keeps.destroyLifecycle lifecycle
  | setActivityPaused value =>
      apply keeps.onTracker
      · apply InteractionTracker.Calm.notifyInteraction
        · exact calm.oneTimer
        · intro _
          exact Or.inr rfl
      · exact (InteractionTracker.notifyInteraction_frame _ true false).1
  | setInAppEnabled value =>
      apply keeps.onTracker
      · exact calm.of_eq rfl rfl rfl rfl rfl
      · rfl
  | setInAppTimeout value =>
      apply keeps.onTracker
      · exact calm.of_eq rfl rfl rfl rfl rfl
      · rfl
  | timerExpires job =>
      apply keeps.onTracker
      · exact calm.timerExpires job
      · simp only [InteractionTracker.timerExpires]
        split <;> rfl
  | notifyStart episode =>
      apply keeps.onTracker
      · simp only [InteractionTracker.notifyStart]
        split
        · exact calm.of_eq rfl rfl rfl rfl rfl
        · exact calm
      · simp only [InteractionTracker.notifyStart]
        split <;> rfl
  | notifyStartSession episode items =>
      apply keeps.onTracker
      · simp only [InteractionTracker.notifyStartSession]
        split
        · exact calm.of_eq rfl rfl rfl rfl rfl
        · exact calm
      · simp only [InteractionTracker.notifyStartSession]
        split <;> rfl
  | notifyStillWatching =>
      apply keeps.onTracker
      · exact calm.of_eq rfl rfl rfl rfl rfl
      · rfl
  | onEpisodeWatched duration =>
      apply keeps.onTracker
      · exact calm.of_eq rfl rfl rfl rfl rfl
      · rfl

omit [DecidableEq Lifecycle] in
theorem created_keeps (preferences : UserPreferences) :
    (created preferences : Screensaver Lifecycle).Keeps Ledger.empty where
  calm := InteractionTracker.created_calm preferences
  live := rfl
  calls := rfl
  destroyed := rfl
  once := List.nodup_nil
  active := by simp [created]
  locks := InteractionTracker.created_locks preferences

/-- In every run the view model counts the locks in force, waits for at most
one timer, and keeps the screensaver away while a lock is in force or the
activity is paused. -/
theorem locks_keep_screensaver_away (preferences : UserPreferences)
    (events : List (Event Lifecycle)) :
    let screensaver := run step (created preferences) events
    let ledger := run Ledger.step Ledger.empty events
    screensaver.tracker.locks = ledger.live.length ∧
      screensaver.tracker.pendingTimers.length ≤ 1 ∧
      (0 < screensaver.tracker.locks ∨
          screensaver.tracker.activityPaused = true →
        screensaver.tracker.screensaverVisible = false ∧
          screensaver.tracker.pendingTimers = []) := by
  intro screensaver ledger
  have keeps : screensaver.Keeps ledger := by
    have anything :
        Admitted step (fun _ _ => True) (created preferences) events :=
      admitted_of_forall fun _ _ => trivial
    exact run_simulation (fun _ _ event held _ => held.step event)
      (created_keeps preferences) anything
  refine ⟨?_, keeps.calm.oneTimer.length_le, keeps.calm.hidden⟩
  rw [keeps.locks, keeps.live]

example :
    let screensaver : Screensaver Nat :=
      run step (created ⟨true, 60000⟩)
        [.addLifecycleLock 1, .cancel 0, .timerExpires 1]
    screensaver.tracker.screensaverVisible = true := by
  decide

end Screensaver

end Locks

end JellyfinTv.Interaction
