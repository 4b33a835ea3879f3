import JellyfinTv.Library.Runs
import JellyfinTv.Library.SortedBy

/-!
# Timed events

`TimedEventState` sends one message to ExoPlayer for each moment at which
playback has to call a timed event, and compares the two positions of a seek
with the blocks it passes.  Durations are counted in nanoseconds, positions of
the player in milliseconds.
-/

namespace JellyfinTv.Playback.TimedEventState

open JellyfinTv.Library

def milliseconds (count : Int) : Int :=
  count * 1000000

def inWholeMilliseconds (duration : Int) : Int :=
  duration.tdiv 1000000

/-- A negative position counts from the end of the media. -/
def withMediaDuration (position : Int) (duration : Option Int) :
    Option Int :=
  if position < 0 then
    match duration with
    | none => none
    | some duration =>
        if duration + position ≥ 0 then some (duration + position) else none
  else
    some position

/-- A function passed by the owner of an event; two of them are equal when
they are the same object. -/
structure Callback where
  identity : Nat
  deriving DecidableEq, Repr

namespace TimedEvent

structure Instant where
  key : Option String
  position : Int
  onActivate : Callback
  deriving DecidableEq, Repr

structure Block where
  key : Option String
  start : Int
  «end» : Int
  onActivate : Option Callback
  onDeactivate : Option Callback
  deriving DecidableEq, Repr

end TimedEvent

inductive TimedEvent where
  | instant (instant : TimedEvent.Instant)
  | block (block : TimedEvent.Block)
  deriving DecidableEq, Repr

inductive BlockActivation where
  | natural (target : Int)
  | seek (origin target : Int)
  deriving DecidableEq, Repr

inductive MessageType where
  | activate
  | deactivate
  deriving DecidableEq, Repr

structure MessagePayload where
  timedEvent : TimedEvent
  position : Int
  deriving DecidableEq, Repr

structure PlayerMessage where
  type : MessageType
  position : Int
  payload : MessagePayload
  deriving DecidableEq, Repr

/-- What ExoPlayer holds of the current media item: its duration once it is
known, the position and the messages that were sent and not cancelled. -/
structure ExoPlayer where
  duration : Option Nat
  position : Nat
  pendingMessages : List PlayerMessage
  deriving DecidableEq, Repr

/-- A call of `onActivate` or `onDeactivate`. -/
structure Call where
  type : MessageType
  timedEvent : TimedEvent
  metadata : BlockActivation
  deriving DecidableEq, Repr

structure State where
  exoPlayer : ExoPlayer
  currentEvents : List (TimedEvent × List PlayerMessage)
  lastKnownDuration : Option Int
  calls : List Call
  deriving DecidableEq, Repr

def onActivate (timedEvent : TimedEvent) (metadata : BlockActivation)
    (state : State) : State :=
  { state with calls := state.calls ++ [⟨.activate, timedEvent, metadata⟩] }

def onDeactivate (timedEvent : TimedEvent) (metadata : BlockActivation)
    (state : State) : State :=
  { state with calls := state.calls ++ [⟨.deactivate, timedEvent, metadata⟩] }

def handleMessage (state : State) (message : PlayerMessage) : State :=
  let payload := message.payload
  match message.type with
  | .activate =>
      onActivate payload.timedEvent (.natural payload.position) state
  | .deactivate =>
      onDeactivate payload.timedEvent (.natural payload.position) state

/-- ExoPlayer never delivers a message at position 0. -/
def createMessage (type : MessageType) (position : Int)
    (timedEvent : TimedEvent) : PlayerMessage where
  type := type
  position := max (inWholeMilliseconds position) 1
  payload := ⟨timedEvent, position⟩

def createMessages (timedEvent : TimedEvent)
    (mediaDuration : Option Int) : List PlayerMessage :=
  match timedEvent with
  | .instant instant =>
      match withMediaDuration instant.position mediaDuration with
      | none => []
      | some position => [createMessage .activate position timedEvent]
  | .block block =>
      match withMediaDuration block.start mediaDuration,
        withMediaDuration block.end mediaDuration with
      | some start, some blockEnd =>
          [createMessage .activate start timedEvent,
            createMessage .deactivate blockEnd timedEvent]
      | _, _ => []

def ExoPlayer.send (player : ExoPlayer) (messages : List PlayerMessage) :
    ExoPlayer :=
  { player with pendingMessages := player.pendingMessages ++ messages }

def ExoPlayer.cancel (player : ExoPlayer) (message : PlayerMessage) :
    ExoPlayer :=
  { player with pendingMessages := player.pendingMessages.erase message }

def ExoPlayer.mediaDuration (player : ExoPlayer) : Option Int :=
  player.duration.map fun duration => milliseconds duration

/-- The events that are no longer listed are removed and their messages
cancelled. -/
def removeOthers (timedEvents : List TimedEvent) (state : State) : State :=
  let removed :=
    state.currentEvents.filter fun entry => entry.1 ∉ timedEvents
  { state with
    exoPlayer :=
      (removed.flatMap Prod.snd).foldl ExoPlayer.cancel state.exoPlayer
    currentEvents :=
      state.currentEvents.filter fun entry => entry.1 ∈ timedEvents }

def addTimedEvent (mediaDuration : Option Int) (state : State)
    (timedEvent : TimedEvent) : State :=
  if state.currentEvents.any fun entry => entry.1 = timedEvent then
    state
  else
    let messages := createMessages timedEvent mediaDuration
    { state with
      exoPlayer := state.exoPlayer.send messages
      currentEvents := state.currentEvents ++ [(timedEvent, messages)] }

def setTimedEvents (timedEvents : List TimedEvent) (state : State) : State :=
  timedEvents.foldl (addTimedEvent state.exoPlayer.mediaDuration)
    (removeOthers timedEvents state)

/-- Whether the event has to be created again when the duration changes. -/
def isRelative : TimedEvent → Bool
  | .instant instant => instant.position < 0
  | .block block => block.start < 0 || block.end < 0

def recreate (duration : Option Int) (player : ExoPlayer)
    (entry : TimedEvent × List PlayerMessage) :
    ExoPlayer × (TimedEvent × List PlayerMessage) :=
  if isRelative entry.1 then
    let messages := createMessages entry.1 duration
    ((entry.2.foldl ExoPlayer.cancel player).send messages,
      (entry.1, messages))
  else
    (player, entry)

def recreateAll (duration : Option Int) :
    ExoPlayer → List (TimedEvent × List PlayerMessage) →
      ExoPlayer × List (TimedEvent × List PlayerMessage)
  | player, [] => (player, [])
  | player, entry :: rest =>
      let (player, entry) := recreate duration player entry
      let (player, rest) := recreateAll duration player rest
      (player, entry :: rest)

def onDurationChange (duration : Option Int) (state : State) : State :=
  let (player, events) :=
    recreateAll duration state.exoPlayer state.currentEvents
  { state with exoPlayer := player, currentEvents := events }

def onTimelineChanged (state : State) : State :=
  let duration := state.exoPlayer.mediaDuration
  if duration = state.lastKnownDuration then
    state
  else
    { onDurationChange duration state with lastKnownDuration := duration }

def onSeekBlock (origin target duration : Int) (state : State)
    (block : TimedEvent.Block) : State :=
  match withMediaDuration block.start (some duration),
    withMediaDuration block.end (some duration) with
  | some eventStart, some eventEnd =>
      let wasInBlock := eventStart ≤ origin ∧ origin ≤ eventEnd
      let isInBlock := eventStart ≤ target ∧ target ≤ eventEnd
      let left :=
        if wasInBlock ∧ ¬isInBlock then
          onDeactivate (.block block) (.seek origin target) state
        else
          state
      if ¬wasInBlock ∧ isInBlock then
        onActivate (.block block) (.seek origin target) left
      else
        left
  | _, _ => state

def onSeek (origin target duration : Int) (state : State) : State :=
  state.currentEvents.foldl
    (fun state entry =>
      match entry.1 with
      | .instant _ => state
      | .block block => onSeekBlock origin target duration state block)
    state

def onPositionDiscontinuity (oldPosition newPosition : Nat)
    (state : State) : State :=
  onSeek (milliseconds oldPosition) (milliseconds newPosition)
    (state.lastKnownDuration.getD 0) state

/-- The messages that playback passes on its way, in the order of their
positions. -/
def ExoPlayer.passedMessages (player : ExoPlayer) (target : Nat) :
    List PlayerMessage :=
  sortedBy PlayerMessage.position <|
    player.pendingMessages.filter fun message =>
      player.position < message.position ∧ message.position ≤ target

inductive Event where
  | playback (length : Nat)
  | seek (target : Nat)
  | timelineChange
  deriving DecidableEq, Repr

def State.moveTo (position : Nat) (state : State) : State :=
  { state with exoPlayer := { state.exoPlayer with position := position } }

def step (state : State) : Event → State
  | .playback length =>
      let position := state.exoPlayer.position + length
      (state.exoPlayer.passedMessages position).foldl handleMessage
        (state.moveTo position)
  | .seek target =>
      onPositionDiscontinuity state.exoPlayer.position target
        (state.moveTo target)
  | .timelineChange => onTimelineChanged state

/-- A media item whose duration has become known, at its start. -/
def State.opened (duration : Nat) : State :=
  onTimelineChanged
    { exoPlayer :=
        { duration := some duration, position := 0, pendingMessages := [] }
      currentEvents := []
      lastKnownDuration := none
      calls := [] }

end JellyfinTv.Playback.TimedEventState
