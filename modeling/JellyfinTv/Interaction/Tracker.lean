import Mathlib.Data.List.Nodup
import JellyfinTv.Library.Runs

/-!
# The in-app screensaver

`InteractionTrackerViewModel` shows the screensaver when its timer expires.
Every interaction restarts or drops the timer, and the locks that fragments
take for their lifecycle keep the screensaver away.  A lock is released by
the function that `addLifecycleLock` returned or with the lifecycle.
-/

namespace JellyfinTv.Interaction

open JellyfinTv.Library

/-- The two preferences of the screensaver, the timeout in milliseconds. -/
structure UserPreferences where
  screensaverInAppEnabled : Bool
  screensaverInAppTimeout : Int
  deriving DecidableEq, Repr

/-- `InteractionTrackerViewModel`.  Launched timers are numbered, and those
that were neither cancelled nor have expired are pending. -/
structure InteractionTracker where
  preferences : UserPreferences
  timer : Option Nat
  launchedTimers : Nat
  pendingTimers : List Nat
  locks : Int
  isWatchingEpisodes : Bool
  episodeCount : Nat
  watchTime : Int
  episodeWasInterrupted : Bool
  screensaverVisible : Bool
  keepScreenOn : Bool
  activityPaused : Bool
  deriving DecidableEq, Repr

namespace InteractionTracker

def inAppEnabled (tracker : InteractionTracker) : Bool :=
  tracker.preferences.screensaverInAppEnabled

def timeout (tracker : InteractionTracker) : Int :=
  tracker.preferences.screensaverInAppTimeout

def resetSession (tracker : InteractionTracker) : InteractionTracker :=
  { tracker with watchTime := 0, episodeCount := 0 }

/-- `timer?.cancel()`; the field keeps the job. -/
def cancelTimer (tracker : InteractionTracker) : InteractionTracker :=
  match tracker.timer with
  | none => tracker
  | some job =>
      { tracker with
        pendingTimers := tracker.pendingTimers.filter fun pending =>
          pending ≠ job }

def interruptEpisode (tracker : InteractionTracker) (userInitiated : Bool) :
    InteractionTracker :=
  if tracker.isWatchingEpisodes && userInitiated then
    { tracker.resetSession with episodeWasInterrupted := true }
  else
    tracker

def hideScreensaver (tracker : InteractionTracker) (canCancel : Bool) :
    InteractionTracker :=
  if tracker.screensaverVisible &&
      (canCancel || !tracker.inAppEnabled || tracker.activityPaused) then
    { tracker with screensaverVisible := false }
  else
    tracker

/-- The job is launched on the main thread and runs to its `delay`, which
returns at once unless the timeout is positive. -/
def startTimer (tracker : InteractionTracker) : InteractionTracker :=
  if tracker.inAppEnabled && !tracker.activityPaused &&
      tracker.locks == 0 then
    if 0 < tracker.timeout then
      { tracker with
        timer := some tracker.launchedTimers
        launchedTimers := tracker.launchedTimers + 1
        pendingTimers := tracker.pendingTimers ++ [tracker.launchedTimers] }
    else
      { tracker with
        timer := some tracker.launchedTimers
        launchedTimers := tracker.launchedTimers + 1
        screensaverVisible := true }
  else
    tracker

def updateKeepScreenOn (tracker : InteractionTracker) :
    InteractionTracker :=
  { tracker with
    keepScreenOn := tracker.inAppEnabled || decide (0 < tracker.locks) }

def notifyInteraction (tracker : InteractionTracker)
    (canCancel userInitiated : Bool) : InteractionTracker :=
  tracker.cancelTimer.interruptEpisode userInitiated
    |>.hideScreensaver canCancel
    |>.startTimer
    |>.updateKeepScreenOn

def setActivityPaused (tracker : InteractionTracker) (value : Bool) :
    InteractionTracker :=
  { tracker with activityPaused := value }.notifyInteraction true false

/-- The constructor of the view model. -/
def created (preferences : UserPreferences) : InteractionTracker :=
  let fields : InteractionTracker :=
    { preferences := preferences
      timer := none
      launchedTimers := 0
      pendingTimers := []
      locks := 0
      isWatchingEpisodes := false
      episodeCount := 0
      watchTime := 0
      episodeWasInterrupted := false
      screensaverVisible := false
      keepScreenOn := preferences.screensaverInAppEnabled
      activityPaused := false }
  fields.notifyInteraction true false

/-- The rest of the job of `startTimer`, after its `delay`. -/
def timerExpires (tracker : InteractionTracker) (job : Nat) :
    InteractionTracker :=
  if job ∈ tracker.pendingTimers then
    { tracker with
      pendingTimers := tracker.pendingTimers.filter fun pending =>
        pending ≠ job
      screensaverVisible := true }
  else
    tracker

def notifyStart (tracker : InteractionTracker) (episode : Bool) :
    InteractionTracker :=
  if episode then { tracker with isWatchingEpisodes := true } else tracker

def notifyStartSession (tracker : InteractionTracker) (episode : Bool)
    (items : Nat) : InteractionTracker :=
  if episode && decide (1 < items) then
    { tracker.resetSession with episodeWasInterrupted := false }
  else
    tracker

def notifyStillWatching (tracker : InteractionTracker) :
    InteractionTracker :=
  tracker.resetSession

/-- The duration is that of the playback controller, if there is one. -/
def onEpisodeWatched (tracker : InteractionTracker)
    (duration : Option Int) : InteractionTracker :=
  { tracker with
    episodeCount :=
      if tracker.episodeWasInterrupted then tracker.episodeCount
      else tracker.episodeCount + 1
    watchTime := tracker.watchTime + duration.getD 0
    episodeWasInterrupted := false }

end InteractionTracker

section Locks

variable {Lifecycle : Type} [DecidableEq Lifecycle]

structure ScreensaverLock (Lifecycle : Type) where
  lifecycle : Lifecycle
  active : Bool
  deriving DecidableEq, Repr

/-- The view model with the lock that each call of `addLifecycleLock` has
created, none where it returned an empty function, the locks that observe
their lifecycle in the order of their registration, and the lifecycles that
are destroyed. -/
structure Screensaver (Lifecycle : Type) where
  tracker : InteractionTracker
  screensaverLocks : List (Option (ScreensaverLock Lifecycle))
  observers : List (Lifecycle × Nat)
  destroyed : List Lifecycle
  deriving DecidableEq, Repr

namespace Screensaver

/-- `ScreensaverLock.activate`. -/
def activate (screensaver : Screensaver Lifecycle) (number : Nat) :
    Screensaver Lifecycle :=
  match screensaver.screensaverLocks[number]? with
  | some (some lock) =>
      if lock.active then
        screensaver
      else
        { screensaver with
          observers := screensaver.observers ++ [(lock.lifecycle, number)]
          tracker :=
            { screensaver.tracker with
              locks := screensaver.tracker.locks + 1 }.notifyInteraction
                true false
          screensaverLocks :=
            screensaver.screensaverLocks.set number
              (some { lock with active := true }) }
  | _ => screensaver

/-- `ScreensaverLock.cancel`, which is also the function that
`addLifecycleLock` returns. -/
def cancel (screensaver : Screensaver Lifecycle) (number : Nat) :
    Screensaver Lifecycle :=
  match screensaver.screensaverLocks[number]? with
  | some (some lock) =>
      if lock.active then
        { screensaver with
          tracker :=
            { screensaver.tracker with
              locks := screensaver.tracker.locks - 1 }.notifyInteraction
                false false
          observers := screensaver.observers.erase (lock.lifecycle, number)
          screensaverLocks :=
            screensaver.screensaverLocks.set number
              (some { lock with active := false }) }
      else
        screensaver
  | _ => screensaver

def addLifecycleLock (screensaver : Screensaver Lifecycle)
    (lifecycle : Lifecycle) : Screensaver Lifecycle :=
  if lifecycle ∈ screensaver.destroyed then
    { screensaver with
      screensaverLocks := screensaver.screensaverLocks ++ [none] }
  else
    let constructed : Screensaver Lifecycle :=
      { screensaver with
        screensaverLocks :=
          screensaver.screensaverLocks ++
            [some { lifecycle := lifecycle, active := false }] }
    constructed.activate screensaver.screensaverLocks.length

/-- The observers of a lifecycle, the newest first: the order in which they
receive `ON_DESTROY`. -/
def observersOf (screensaver : Screensaver Lifecycle)
    (lifecycle : Lifecycle) : List Nat :=
  ((screensaver.observers.filter fun observer =>
    observer.1 = lifecycle).map Prod.snd).reverse

def destroyLifecycle (screensaver : Screensaver Lifecycle)
    (lifecycle : Lifecycle) : Screensaver Lifecycle :=
  (screensaver.observersOf lifecycle).foldl cancel
    { screensaver with
      destroyed := screensaver.destroyed ++ [lifecycle] }

def created (preferences : UserPreferences) : Screensaver Lifecycle where
  tracker := InteractionTracker.created preferences
  screensaverLocks := []
  observers := []
  destroyed := []

end Screensaver

/-- A call of the view model, a change of its surroundings or the end of a
timer.  The function that a call of `addLifecycleLock` returned is known by
the number of that call. -/
inductive Event (Lifecycle : Type) where
  | notifyInteraction (canCancel userInitiated : Bool)
  | addLifecycleLock (lifecycle : Lifecycle)
  | cancel (call : Nat)
  | destroyLifecycle (lifecycle : Lifecycle)
  | setActivityPaused (value : Bool)
  | setInAppEnabled (value : Bool)
  | setInAppTimeout (value : Int)
  | timerExpires (job : Nat)
  | notifyStart (episode : Bool)
  | notifyStartSession (episode : Bool) (items : Nat)
  | notifyStillWatching
  | onEpisodeWatched (duration : Option Int)
  deriving DecidableEq, Repr

namespace Screensaver

def onTracker (screensaver : Screensaver Lifecycle)
    (change : InteractionTracker → InteractionTracker) :
    Screensaver Lifecycle :=
  { screensaver with tracker := change screensaver.tracker }

def step (screensaver : Screensaver Lifecycle) :
    Event Lifecycle → Screensaver Lifecycle
  | .notifyInteraction canCancel userInitiated =>
      screensaver.onTracker fun tracker =>
        tracker.notifyInteraction canCancel userInitiated
  | .addLifecycleLock lifecycle => screensaver.addLifecycleLock lifecycle
  | .cancel call => screensaver.cancel call
  | .destroyLifecycle lifecycle => screensaver.destroyLifecycle lifecycle
  | .setActivityPaused value =>
      screensaver.onTracker fun tracker => tracker.setActivityPaused value
  | .setInAppEnabled value =>
      screensaver.onTracker fun tracker =>
        { tracker with
          preferences :=
            { tracker.preferences with screensaverInAppEnabled := value } }
  | .setInAppTimeout value =>
      screensaver.onTracker fun tracker =>
        { tracker with
          preferences :=
            { tracker.preferences with screensaverInAppTimeout := value } }
  | .timerExpires job =>
      screensaver.onTracker fun tracker => tracker.timerExpires job
  | .notifyStart episode =>
      screensaver.onTracker fun tracker => tracker.notifyStart episode
  | .notifyStartSession episode items =>
      screensaver.onTracker fun tracker =>
        tracker.notifyStartSession episode items
  | .notifyStillWatching =>
      screensaver.onTracker InteractionTracker.notifyStillWatching
  | .onEpisodeWatched duration =>
      screensaver.onTracker fun tracker => tracker.onEpisodeWatched duration

end Screensaver

end Locks

end JellyfinTv.Interaction
