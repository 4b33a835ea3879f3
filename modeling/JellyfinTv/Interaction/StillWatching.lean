import JellyfinTv.Interaction.Tracker

/-!
# Still watching

After enough episodes or enough time without an interaction the viewer is
asked whether someone is still watching.  An interaction resets the count and
the time.  An episode that was interrupted is not counted when it ends, but
its time is added as a whole, with the part before the interaction.
-/

namespace JellyfinTv.Interaction

open JellyfinTv.Library

/-- The setting, with durations in milliseconds. -/
inductive StillWatchingBehavior where
  | short
  | default
  | long
  | veryLong
  | disabled
  deriving DecidableEq, Repr

namespace StillWatchingBehavior

def enabled : StillWatchingBehavior → Bool
  | .disabled => false
  | _ => true

def episodeCount : StillWatchingBehavior → Nat
  | .short => 2
  | .default => 3
  | .long => 5
  | .veryLong => 8
  | .disabled => 0

def minDuration : StillWatchingBehavior → Int
  | .short => 3600000
  | .default => 5400000
  | .long => 9000000
  | .veryLong => 14400000
  | .disabled => 0

/-- Every setting that is not disabled asks for something. -/
theorem positive_of_enabled {behavior : StillWatchingBehavior}
    (enabled : behavior.enabled = true) :
    0 < behavior.episodeCount ∧ 0 < behavior.minDuration := by
  cases behavior with
  | disabled =>
      exact absurd enabled Bool.false_ne_true
  | short | default | long | veryLong =>
      decide

theorem enabled_of_positive {behavior : StillWatchingBehavior}
    (positive : 0 < behavior.episodeCount) : behavior.enabled = true := by
  cases behavior with
  | disabled =>
      exact absurd positive (Nat.lt_irrefl 0)
  | short | default | long | veryLong =>
      rfl

end StillWatchingBehavior

def InteractionTracker.getShowStillWatching (tracker : InteractionTracker)
    (behavior : StillWatchingBehavior) : Bool :=
  if !behavior.enabled then
    false
  else if 0 < behavior.episodeCount ∧
      behavior.episodeCount ≤ tracker.episodeCount then
    true
  else if 0 < behavior.minDuration ∧
      behavior.minDuration ≤ tracker.watchTime then
    true
  else
    false

/-! ## The counters alone -/

/-- The fields of the view model that count the watching. -/
structure Watching where
  isWatchingEpisodes : Bool
  episodeCount : Nat
  watchTime : Int
  episodeWasInterrupted : Bool
  deriving DecidableEq, Repr

def InteractionTracker.watching (tracker : InteractionTracker) :
    Watching where
  isWatchingEpisodes := tracker.isWatchingEpisodes
  episodeCount := tracker.episodeCount
  watchTime := tracker.watchTime
  episodeWasInterrupted := tracker.episodeWasInterrupted

namespace Watching

variable {Lifecycle : Type}

def reset (watching : Watching) : Watching :=
  { watching with watchTime := 0, episodeCount := 0 }

def interrupt (watching : Watching) (userInitiated : Bool) : Watching :=
  if watching.isWatchingEpisodes && userInitiated then
    { watching.reset with episodeWasInterrupted := true }
  else
    watching

/-- What a call does to the counters. -/
def step (watching : Watching) : Event Lifecycle → Watching
  | .notifyInteraction _ userInitiated => watching.interrupt userInitiated
  | .notifyStart episode =>
      if episode then
        { watching with isWatchingEpisodes := true }
      else
        watching
  | .notifyStartSession episode items =>
      if episode && decide (1 < items) then
        { watching.reset with episodeWasInterrupted := false }
      else
        watching
  | .notifyStillWatching => watching.reset
  | .onEpisodeWatched duration =>
      { watching with
        episodeCount :=
          if watching.episodeWasInterrupted then watching.episodeCount
          else watching.episodeCount + 1
        watchTime := watching.watchTime + duration.getD 0
        episodeWasInterrupted := false }
  | _ => watching

end Watching

namespace InteractionTracker

variable (tracker : InteractionTracker)

theorem watching_cancelTimer :
    tracker.cancelTimer.watching = tracker.watching := by
  unfold cancelTimer
  split
  · rfl
  · rfl

theorem watching_hideScreensaver (canCancel : Bool) :
    (tracker.hideScreensaver canCancel).watching = tracker.watching := by
  unfold hideScreensaver
  split
  · rfl
  · rfl

theorem watching_startTimer :
    tracker.startTimer.watching = tracker.watching := by
  unfold startTimer
  split_ifs
  · rfl
  · rfl
  · rfl

theorem watching_interruptEpisode (userInitiated : Bool) :
    (tracker.interruptEpisode userInitiated).watching =
      tracker.watching.interrupt userInitiated := by
  have watches :
      tracker.watching.isWatchingEpisodes = tracker.isWatchingEpisodes :=
    rfl
  unfold interruptEpisode Watching.interrupt
  rw [watches]
  split
  · rfl
  · rfl

theorem watching_notifyInteraction (canCancel userInitiated : Bool) :
    (tracker.notifyInteraction canCancel userInitiated).watching =
      tracker.watching.interrupt userInitiated := by
  have parts :
      (tracker.notifyInteraction canCancel userInitiated).watching =
        ((tracker.cancelTimer.interruptEpisode
          userInitiated).hideScreensaver canCancel).startTimer.watching :=
    rfl
  rw [parts, watching_startTimer, watching_hideScreensaver,
    watching_interruptEpisode, watching_cancelTimer]

/-- Other interactions leave the counters alone. -/
theorem watching_notifyInteraction_false (canCancel : Bool) :
    (tracker.notifyInteraction canCancel false).watching =
      tracker.watching := by
  rw [watching_notifyInteraction, Watching.interrupt, Bool.and_false]
  rfl

end InteractionTracker

namespace Screensaver

variable {Lifecycle : Type} (screensaver : Screensaver Lifecycle)

theorem watching_activate (number : Nat) :
    (screensaver.activate number).tracker.watching =
      screensaver.tracker.watching := by
  unfold activate
  split
  · split
    · rfl
    · exact InteractionTracker.watching_notifyInteraction_false _ true
  · rfl

variable [DecidableEq Lifecycle]

theorem watching_cancel (number : Nat) :
    (screensaver.cancel number).tracker.watching =
      screensaver.tracker.watching := by
  unfold cancel
  split
  · split
    · exact InteractionTracker.watching_notifyInteraction_false _ false
    · rfl
  · rfl

theorem watching_foldl_cancel (numbers : List Nat) :
    (numbers.foldl cancel screensaver).tracker.watching =
      screensaver.tracker.watching := by
  induction numbers generalizing screensaver with
  | nil =>
      rfl
  | cons number rest inductionHypothesis =>
      rw [List.foldl_cons, inductionHypothesis, watching_cancel]

/-- The locks, the timer and the preferences of the screensaver do not touch
the counters. -/
theorem watching_step (event : Event Lifecycle) :
    (screensaver.step event).tracker.watching =
      screensaver.tracker.watching.step event := by
  cases event with
  | notifyInteraction canCancel userInitiated =>
      exact screensaver.tracker.watching_notifyInteraction canCancel
        userInitiated
  | addLifecycleLock lifecycle =>
      rw [step, addLifecycleLock]
      split
      · rfl
      · exact watching_activate _ _
  | cancel call =>
      exact screensaver.watching_cancel call
  | destroyLifecycle lifecycle =>
      rw [step, destroyLifecycle, watching_foldl_cancel]
      rfl
  | setActivityPaused value =>
      exact InteractionTracker.watching_notifyInteraction_false _ true
  | setInAppEnabled value =>
      rfl
  | setInAppTimeout value =>
      rfl
  | timerExpires job =>
      rw [step, onTracker, InteractionTracker.timerExpires]
      dsimp only
      split
      · rfl
      · rfl
  | notifyStart episode =>
      cases episode with
      | false =>
          rfl
      | true =>
          rfl
  | notifyStartSession episode items =>
      rw [step, onTracker, InteractionTracker.notifyStartSession]
      dsimp only [Watching.step]
      split
      · rfl
      · rfl
  | notifyStillWatching =>
      rfl
  | onEpisodeWatched duration =>
      rfl

end Screensaver

/-- How much of the running episode was played and whether there was an
interaction or a reset in it; the time and the whole episodes that were
played since the last one.  Of the episode in which the last one came,
`before` was played before it.  `resetInside` tells that this was a reset and
that the rest of its episode was counted. -/
structure Playback where
  played : Option Nat
  undisturbed : Bool
  sinceTime : Nat
  wholeEpisodes : Nat
  before : Nat
  resetInside : Bool
  deriving DecidableEq, Repr

/-- A user interaction or a reset of the session. -/
def Event.resets {Lifecycle : Type} : Event Lifecycle → Bool
  | .notifyInteraction _ userInitiated => userInitiated
  | .notifyStartSession episode items => episode && decide (1 < items)
  | .notifyStillWatching => true
  | _ => false

namespace Playback

variable {Lifecycle : Type}

def starts (playback : Playback) : Playback :=
  { playback with played := some 0, undisturbed := true }

def plays (playback : Playback) (time : Nat) : Playback :=
  { playback with
    played := playback.played.map fun played => played + time
    sinceTime := playback.sinceTime + time }

def ends (playback : Playback) (episodeWasInterrupted : Bool) : Playback :=
  { playback with
    played := none
    wholeEpisodes :=
      if playback.undisturbed then playback.wholeEpisodes + 1
      else playback.wholeEpisodes
    resetInside :=
      playback.resetInside ||
        (!playback.undisturbed && !episodeWasInterrupted) }

def disturbed (playback : Playback) : Playback :=
  { playback with
    undisturbed := false
    sinceTime := 0
    wholeEpisodes := 0
    before := playback.played.getD 0
    resetInside := false }

def hear (playback : Playback) (episodeWasInterrupted : Bool) :
    Event Lifecycle → Playback
  | .notifyStart _ => playback.starts
  | .onEpisodeWatched _ => playback.ends episodeWasInterrupted
  | event => if event.resets then playback.disturbed else playback

end Playback

/-- The view model while episodes are played. -/
structure Viewing (Lifecycle : Type) where
  screensaver : Screensaver Lifecycle
  playback : Playback

/-- A call, or some time of the running episode. -/
inductive ViewingEvent (Lifecycle : Type) where
  | call (event : Event Lifecycle)
  | plays (time : Nat)

namespace Viewing

variable {Lifecycle : Type} [DecidableEq Lifecycle]

def created (preferences : UserPreferences) : Viewing Lifecycle where
  screensaver := Screensaver.created preferences
  playback :=
    { played := none
      undisturbed := false
      sinceTime := 0
      wholeEpisodes := 0
      before := 0
      resetInside := false }

def step (viewing : Viewing Lifecycle) :
    ViewingEvent Lifecycle → Viewing Lifecycle
  | .call event =>
      { screensaver := viewing.screensaver.step event
        playback :=
          viewing.playback.hear
            viewing.screensaver.tracker.episodeWasInterrupted event }
  | .plays time =>
      { viewing with playback := viewing.playback.plays time }

/-- Episodes are played one after another, each of them to its end. -/
def PlaysFully (viewing : Viewing Lifecycle) :
    ViewingEvent Lifecycle → Prop
  | .call (.notifyStart episode) =>
      episode = true ∧ viewing.playback.played = none
  | .call (.onEpisodeWatched duration) =>
      ∃ time : Nat,
        viewing.playback.played = some time ∧ duration = some (time : Int)
  | .call _ => True
  | .plays _ => viewing.playback.played ≠ none

/-- Whoever is asked has seen enough episodes or enough time since the last
interaction or reset. -/
def CountsUninterrupted (behavior : StillWatchingBehavior)
    (viewing : Viewing Lifecycle) : Prop :=
  viewing.screensaver.tracker.getShowStillWatching behavior = true →
    behavior.episodeCount ≤ viewing.playback.wholeEpisodes ∨
      behavior.minDuration ≤ viewing.playback.sinceTime

/-- When an episode ends there was enough, or what was played of an episode
before the last interaction or reset does not make up for the rest. -/
def EndsUninterrupted (behavior : StillWatchingBehavior)
    (viewing : Viewing Lifecycle) : ViewingEvent Lifecycle → Prop
  | .call (.onEpisodeWatched _) =>
      let ended :=
        viewing.playback.ends
          viewing.screensaver.tracker.episodeWasInterrupted
      behavior.episodeCount ≤ ended.wholeEpisodes ∨
        behavior.minDuration ≤ ended.sinceTime ∨
        (ended.sinceTime + ended.before : Int) < behavior.minDuration ∧
          (ended.resetInside = true →
            ended.wholeEpisodes + 1 < behavior.episodeCount)
  | _ => True

end Viewing

namespace Playback

variable {Lifecycle : Type}

structure Fits (playback : Playback) (watching : Watching) : Prop where
  time :
    watching.watchTime + playback.played.getD 0 =
      playback.sinceTime + playback.before
  idle :
    watching.isWatchingEpisodes = false →
      playback.played = none ∧ watching.episodeCount = 0 ∧
        watching.watchTime = 0
  counted :
    playback.resetInside = false →
      watching.episodeCount ≤ playback.wholeEpisodes
  inside :
    playback.resetInside = true →
      watching.episodeCount = playback.wholeEpisodes + 1 ∧
        watching.episodeWasInterrupted = false ∧
        (playback.played ≠ none → playback.undisturbed = true)
  interrupted :
    playback.played ≠ none → playback.undisturbed = false →
      watching.episodeCount = 0 ∧ playback.wholeEpisodes = 0 ∧
        playback.resetInside = false

variable {playback : Playback} {watching : Watching}

theorem Fits.starts (fits : playback.Fits watching)
    (stopped : playback.played = none) :
    playback.starts.Fits { watching with isWatchingEpisodes := true } := by
  constructor
  · have time := fits.time
    rw [stopped] at time
    exact time
  · intro idle
    exact absurd idle.symm Bool.false_ne_true
  · exact fits.counted
  · intro inside
    obtain ⟨count, uninterrupted, _⟩ := fits.inside inside
    exact ⟨count, uninterrupted, fun _ => rfl⟩
  · intro _ disturbed
    exact absurd disturbed.symm Bool.false_ne_true

theorem Fits.plays (fits : playback.Fits watching)
    (running : playback.played ≠ none) (time : Nat) :
    (playback.plays time).Fits watching := by
  obtain ⟨played, found⟩ := Option.ne_none_iff_exists'.mp running
  constructor
  · have before := fits.time
    rw [found] at before
    simp only [Playback.plays, found, Option.map_some, Option.getD_some,
      Int.natCast_add] at before ⊢
    omega
  · intro idle
    exact absurd (fits.idle idle).1 running
  · exact fits.counted
  · intro inside
    obtain ⟨count, uninterrupted, undisturbed⟩ := fits.inside inside
    exact ⟨count, uninterrupted, fun _ => undisturbed running⟩
  · intro _
    exact fits.interrupted running

/-- Nothing is counted after an interaction or a reset. -/
theorem fits_disturbed (zero : watching.watchTime = 0)
    (none : watching.episodeCount = 0)
    (idle :
      watching.isWatchingEpisodes = false → playback.played = Option.none) :
    playback.disturbed.Fits watching := by
  constructor
  · rw [zero]
    simp [disturbed]
  · intro stopped
    exact ⟨idle stopped, none, zero⟩
  · intro _
    rw [none]
    exact Nat.zero_le _
  · intro inside
    exact absurd inside Bool.false_ne_true
  · intro _ _
    exact ⟨none, rfl, rfl⟩

theorem Fits.ends (fits : playback.Fits watching) {time : Nat}
    (running : playback.played = some time) :
    (playback.ends watching.episodeWasInterrupted).Fits
      (watching.step
        (Event.onEpisodeWatched (some (time : Int)) : Event Lifecycle)) := by
  have started : playback.played ≠ none := by
    rw [running]
    exact Option.some_ne_none time
  have total := fits.time
  have counted := fits.counted
  have inside := fits.inside
  have interrupted := fits.interrupted started
  rw [running] at total
  constructor
  · simpa [Playback.ends, Watching.step] using total
  · intro idle
    exact absurd (fits.idle idle).1 started
  · simp only [Playback.ends, Watching.step]
    cases undisturbed : playback.undisturbed <;>
      cases reset : playback.resetInside <;>
      cases flag : watching.episodeWasInterrupted <;>
      simp_all
    omega
  · simp only [Playback.ends, Watching.step]
    cases undisturbed : playback.undisturbed <;>
      cases reset : playback.resetInside <;>
      cases flag : watching.episodeWasInterrupted <;>
      simp_all
  · intro running
    exact absurd rfl running

end Playback

namespace InteractionTracker

variable {tracker : InteractionTracker} {behavior : StillWatchingBehavior}

theorem getShowStillWatching_iff :
    tracker.getShowStillWatching behavior = true ↔
      behavior.enabled = true ∧
        (behavior.episodeCount ≤ tracker.watching.episodeCount ∨
          behavior.minDuration ≤ tracker.watching.watchTime) := by
  unfold getShowStillWatching
  cases enabled : behavior.enabled with
  | false =>
      simp
  | true =>
      obtain ⟨count, duration⟩ :=
        StillWatchingBehavior.positive_of_enabled enabled
      simp only [Bool.not_true, Bool.false_eq_true, if_false, count,
        duration, true_and]
      unfold watching
      split_ifs with episodes time
      · simp [episodes]
      · simp [time]
      · simp [episodes, time]

/-- Nobody is asked right after an interaction or a reset. -/
theorem getShowStillWatching_of_zero
    (none : tracker.watching.episodeCount = 0)
    (zero : tracker.watching.watchTime = 0) :
    ¬tracker.getShowStillWatching behavior = true := by
  rw [getShowStillWatching_iff, none, zero]
  rintro ⟨enabled, asked⟩
  obtain ⟨count, duration⟩ :=
    StillWatchingBehavior.positive_of_enabled enabled
  omega

end InteractionTracker

namespace Watching

variable {Lifecycle : Type} {watching : Watching} {event : Event Lifecycle}

/-- An interaction or a reset leaves nothing counted. -/
theorem step_resets (resets : event.resets = true)
    (idle :
      watching.isWatchingEpisodes = false →
        watching.episodeCount = 0 ∧ watching.watchTime = 0) :
    (watching.step event).isWatchingEpisodes =
        watching.isWatchingEpisodes ∧
      (watching.step event).episodeCount = 0 ∧
      (watching.step event).watchTime = 0 := by
  cases event with
  | notifyInteraction canCancel userInitiated =>
      have initiated : userInitiated = true := resets
      rw [step, interrupt, initiated, Bool.and_true]
      split
      case isTrue watches =>
        exact ⟨rfl, rfl, rfl⟩
      case isFalse stopped =>
        rw [Bool.not_eq_true] at stopped
        exact ⟨rfl, idle stopped⟩
  | notifyStartSession episode items =>
      have several : (episode && decide (1 < items)) = true := resets
      rw [step, if_pos several]
      exact ⟨rfl, rfl, rfl⟩
  | notifyStillWatching =>
      exact ⟨rfl, rfl, rfl⟩
  | _ =>
      exact absurd resets Bool.false_ne_true

theorem step_silent (silent : event.resets = false)
    (noStart : ∀ episode, event ≠ .notifyStart episode)
    (noEnd : ∀ duration, event ≠ .onEpisodeWatched duration) :
    watching.step event = watching := by
  cases event with
  | notifyInteraction canCancel userInitiated =>
      have other : userInitiated = false := silent
      rw [step, interrupt, other, Bool.and_false]
      rfl
  | notifyStart episode =>
      exact absurd rfl (noStart episode)
  | notifyStartSession episode items =>
      have single : (episode && decide (1 < items)) = false := silent
      rw [step, single]
      rfl
  | notifyStillWatching =>
      exact absurd silent.symm Bool.false_ne_true
  | onEpisodeWatched duration =>
      exact absurd rfl (noEnd duration)
  | _ =>
      rfl

end Watching

theorem Playback.hear_between {Lifecycle : Type} {playback : Playback}
    {event : Event Lifecycle} (episodeWasInterrupted : Bool)
    (noStart : ∀ episode, event ≠ .notifyStart episode)
    (noEnd : ∀ duration, event ≠ .onEpisodeWatched duration) :
    playback.hear episodeWasInterrupted event =
      if event.resets then playback.disturbed else playback := by
  cases event with
  | notifyStart episode =>
      exact absurd rfl (noStart episode)
  | onEpisodeWatched duration =>
      exact absurd rfl (noEnd duration)
  | _ =>
      rfl

/-! ## Runs -/

namespace Viewing

variable {Lifecycle : Type} {viewing : Viewing Lifecycle}
variable {event : Event Lifecycle} {behavior : StillWatchingBehavior}

def Sound (viewing : Viewing Lifecycle) : Prop :=
  viewing.playback.Fits viewing.screensaver.tracker.watching

theorem watching_created (preferences : UserPreferences) :
    (created preferences :
        Viewing Lifecycle).screensaver.tracker.watching =
      ⟨false, 0, 0, false⟩ := by
  unfold created Screensaver.created InteractionTracker.created
  exact InteractionTracker.watching_notifyInteraction_false _ true

theorem sound_created (preferences : UserPreferences) :
    (created preferences : Viewing Lifecycle).Sound := by
  unfold Sound
  rw [watching_created]
  constructor
  · rfl
  · intro _
    exact ⟨rfl, rfl, rfl⟩
  · intro _
    exact Nat.le_refl 0
  · intro inside
    exact absurd inside Bool.false_ne_true
  · intro running
    exact absurd rfl running

/-- Between the episodes the guard is what the property asks for. -/
theorem Sound.counts_iff (sound : viewing.Sound)
    (stopped : viewing.playback.played = none) :
    viewing.CountsUninterrupted behavior ↔
      behavior.episodeCount ≤ viewing.playback.wholeEpisodes ∨
        behavior.minDuration ≤ viewing.playback.sinceTime ∨
        (viewing.playback.sinceTime + viewing.playback.before : Int) <
            behavior.minDuration ∧
          (viewing.playback.resetInside = true →
            viewing.playback.wholeEpisodes + 1 < behavior.episodeCount)
    := by
  have time := sound.time
  have counted := sound.counted
  have inside := sound.inside
  rw [stopped, Option.getD_none, Int.natCast_zero, Int.add_zero] at time
  unfold CountsUninterrupted
  rw [InteractionTracker.getShowStillWatching_iff, time]
  by_cases episodes :
      behavior.episodeCount ≤ viewing.playback.wholeEpisodes
  · exact iff_of_true (fun _ => Or.inl episodes) (Or.inl episodes)
  · have enabled : behavior.enabled = true :=
      StillWatchingBehavior.enabled_of_positive (by omega)
    rw [enabled]
    cases reset : viewing.playback.resetInside with
    | false =>
        have few := counted reset
        simp only [true_and, Bool.false_eq_true, false_implies, and_true]
        omega
    | true =>
        obtain ⟨count, _⟩ := inside reset
        rw [count]
        simp only [true_and, true_implies]
        omega

variable [DecidableEq Lifecycle]

/-- A call between the starts and the ends either empties the counters or
changes nothing of what is counted. -/
theorem Sound.step_between (sound : viewing.Sound)
    (noStart : ∀ episode, event ≠ .notifyStart episode)
    (noEnd : ∀ duration, event ≠ .onEpisodeWatched duration) :
    (viewing.step (.call event)).Sound ∧
      ∀ behavior, viewing.CountsUninterrupted behavior →
        (viewing.step (.call event)).CountsUninterrupted behavior := by
  have counters := viewing.screensaver.watching_step event
  have heard :=
    viewing.playback.hear_between
      viewing.screensaver.tracker.episodeWasInterrupted noStart noEnd
  unfold Sound CountsUninterrupted
  dsimp only [step]
  rw [counters, heard]
  cases resets : event.resets with
  | true =>
      obtain ⟨watches, none, zero⟩ :=
        Watching.step_resets resets fun stopped => (sound.idle stopped).2
      constructor
      · apply Playback.fits_disturbed zero none
        intro stopped
        rw [watches] at stopped
        exact (sound.idle stopped).1
      · intro behavior _ shown
        rw [← counters] at none zero
        exact
          absurd shown
            (InteractionTracker.getShowStillWatching_of_zero none zero)
  | false =>
      have silent :
          viewing.screensaver.tracker.watching.step event =
            viewing.screensaver.tracker.watching :=
        Watching.step_silent resets noStart noEnd
      rw [silent] at counters ⊢
      refine ⟨sound, ?_⟩
      intro behavior
      rw [InteractionTracker.getShowStillWatching_iff,
        InteractionTracker.getShowStillWatching_iff, counters]
      exact id

theorem Sound.step_start (sound : viewing.Sound)
    (stopped : viewing.playback.played = none) :
    (viewing.step (.call (.notifyStart true))).Sound := by
  exact Playback.Fits.starts sound stopped

theorem Sound.step_end (sound : viewing.Sound) {time : Nat}
    (running : viewing.playback.played = some time) :
    (viewing.step (.call (.onEpisodeWatched (some (time : Int))))).Sound
    := by
  unfold Sound
  rw [step, Screensaver.watching_step]
  exact Playback.Fits.ends sound running

theorem Sound.step {event : ViewingEvent Lifecycle}
    (sound : viewing.Sound) (allowed : viewing.PlaysFully event) :
    (viewing.step event).Sound := by
  cases event with
  | plays time =>
      exact Playback.Fits.plays sound allowed time
  | call event =>
      cases event with
      | notifyStart episode =>
          obtain ⟨rfl, stopped⟩ := allowed
          exact sound.step_start stopped
      | onEpisodeWatched duration =>
          obtain ⟨time, running, rfl⟩ := allowed
          exact sound.step_end running
      | _ =>
          apply (sound.step_between _ _).1
          · rintro episode ⟨⟩
          · rintro duration ⟨⟩

theorem Sound.counts_step_iff {event : ViewingEvent Lifecycle}
    (sound : viewing.Sound) (allowed : viewing.PlaysFully event)
    (held : viewing.CountsUninterrupted behavior) :
    (viewing.step event).CountsUninterrupted behavior ↔
      viewing.EndsUninterrupted behavior event := by
  cases event with
  | plays time =>
      apply iff_of_true _ trivial
      intro shown
      rcases held shown with episodes | duration
      · exact Or.inl episodes
      · right
        apply Int.le_trans duration
        exact Int.ofNat_le.mpr (Nat.le_add_right _ time)
  | call event =>
      cases event with
      | notifyStart episode =>
          obtain ⟨rfl, _⟩ := allowed
          exact iff_of_true held trivial
      | onEpisodeWatched duration =>
          obtain ⟨time, running, rfl⟩ := allowed
          exact (sound.step_end running).counts_iff rfl
      | _ =>
          apply iff_of_true _ trivial
          apply (sound.step_between _ _).2 behavior held
          · rintro episode ⟨⟩
          · rintro duration ⟨⟩

end Viewing

/-- Where the episodes are played fully, one after another, nobody is asked
without having seen enough since the last interaction or reset, exactly if
every episode ends so. -/
theorem still_watching_iff {Lifecycle : Type} [DecidableEq Lifecycle]
    (preferences : UserPreferences) (behavior : StillWatchingBehavior)
    (events : List (ViewingEvent Lifecycle))
    (played :
      Admitted Viewing.step Viewing.PlaysFully
        (Viewing.created preferences) events) :
    (∀ early, early <+: events →
        (run Viewing.step (Viewing.created preferences)
          early).CountsUninterrupted behavior) ↔
      Admitted Viewing.step (Viewing.EndsUninterrupted behavior)
        (Viewing.created preferences) events := by
  have kept :
      ∀ (viewing : Viewing Lifecycle) event, viewing.Sound →
        viewing.PlaysFully event → (viewing.step event).Sound :=
    fun _ _ sound allowed => sound.step allowed
  have exact :
      ∀ (viewing : Viewing Lifecycle) event, viewing.Sound →
        viewing.PlaysFully event → viewing.CountsUninterrupted behavior →
          ((viewing.step event).CountsUninterrupted behavior ↔
            viewing.EndsUninterrupted behavior event) :=
    fun _ _ sound allowed held => sound.counts_step_iff allowed held
  have sound : (Viewing.created preferences : Viewing Lifecycle).Sound :=
    Viewing.sound_created preferences
  have started :
      (Viewing.created preferences : Viewing Lifecycle).CountsUninterrupted
        behavior := by
    intro shown
    have unwatched :
        (Viewing.created preferences :
            Viewing Lifecycle).screensaver.tracker.watching =
          ⟨false, 0, 0, false⟩ :=
      Viewing.watching_created preferences
    exact
      absurd shown
        (InteractionTracker.getShowStillWatching_of_zero
          (congrArg Watching.episodeCount unwatched)
          (congrArg Watching.watchTime unwatched))
  exact holds_throughout_iff_admitted kept exact sound started played

def noScreensaver : UserPreferences :=
  ⟨false, 0⟩

/-- Two episodes of 40 minutes and one of half an hour, the first one
interrupted halfway. -/
def threeEpisodes : List (ViewingEvent Nat) :=
  [.call (.notifyStart true), .plays 1200000,
    .call (.notifyInteraction false true), .plays 1200000,
    .call (.onEpisodeWatched (some 2400000)),
    .call (.notifyStart true), .plays 2400000,
    .call (.onEpisodeWatched (some 2400000)),
    .call (.notifyStart true), .plays 1800000,
    .call (.onEpisodeWatched (some 1800000))]

theorem threeEpisodes_count_uninterrupted :
    Admitted Viewing.step Viewing.PlaysFully
        (Viewing.created noScreensaver) threeEpisodes ∧
      ∀ early, early <+: threeEpisodes →
        (run Viewing.step (Viewing.created noScreensaver)
          early).CountsUninterrupted .default := by
  have played :
      Admitted Viewing.step Viewing.PlaysFully
        (Viewing.created noScreensaver) threeEpisodes :=
    ⟨⟨rfl, rfl⟩, Option.some_ne_none _, trivial, Option.some_ne_none _,
      ⟨2400000, rfl, rfl⟩, ⟨rfl, rfl⟩, Option.some_ne_none _,
      ⟨2400000, rfl, rfl⟩, ⟨rfl, rfl⟩, Option.some_ne_none _,
      ⟨1800000, rfl, rfl⟩, trivial⟩
  refine ⟨played, ?_⟩
  apply (still_watching_iff noScreensaver .default threeEpisodes played).mpr
  refine ⟨trivial, trivial, trivial, trivial, ?_, trivial, trivial, ?_,
    trivial, trivial, ?_, trivial⟩
  · exact Or.inr (Or.inr ⟨by decide, by decide⟩)
  · exact Or.inr (Or.inr ⟨by decide, by decide⟩)
  · exact Or.inr (Or.inl (by decide))

/-- An episode of one hour with an interaction in its last minute. -/
def interruptedHour : List (ViewingEvent Nat) :=
  [.call (.notifyStart true), .plays 3540000,
    .call (.notifyInteraction false true), .plays 60000,
    .call (.onEpisodeWatched (some 3600000))]

theorem interruptedHour_is_asked :
    Admitted Viewing.step Viewing.PlaysFully
        (Viewing.created noScreensaver) interruptedHour ∧
      ¬(run Viewing.step (Viewing.created noScreensaver)
          interruptedHour).CountsUninterrupted .short := by
  constructor
  · exact
      ⟨⟨rfl, rfl⟩, Option.some_ne_none _, trivial, Option.some_ne_none _,
        ⟨3600000, rfl, rfl⟩, trivial⟩
  · unfold Viewing.CountsUninterrupted
    decide

end JellyfinTv.Interaction
