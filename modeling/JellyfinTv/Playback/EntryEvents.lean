import JellyfinTv.Playback.TimedEvents

/-!
# The timed events of an entry

The services share one list of timed events.  `ensurePreloadTimedEvent` owns
the event with its key, `createTimedEvents` those whose keys begin with its
prefix, and everyone else adds and removes single events.  A list without
events is absent.
-/

namespace JellyfinTv.Playback

open JellyfinTv.Library TimedEventState

def TIMED_EVENT_PRELOAD : String :=
  "MediaStreamServicePreloadNext"

def TIMED_EVENT_PREFIX : String :=
  "MediaSegment:"

/-- `Duration.INFINITE`, the largest duration in milliseconds. -/
def INFINITE : Int :=
  milliseconds 4611686018427387903

inductive MediaSegmentType where
  | unknown
  | commercial
  | preview
  | recap
  | outro
  | intro
  deriving DecidableEq, Repr

/-- The id is known by its text. -/
structure MediaSegmentDto where
  id : String
  type : MediaSegmentType
  startTicks : Int
  endTicks : Int
  deriving DecidableEq, Repr

/-- What the services are constructed with, and the segments of the entry.
`ticks` gives the duration of a number of ticks. -/
structure EventServices where
  preloadDuration : Int
  skipTypes : List MediaSegmentType
  ticks : Int → Int
  mediaSegments : Option (List MediaSegmentDto)

/-- The element of the entry.  Function objects are numbered. -/
structure EntryEvents where
  timedEvents : Option (List TimedEvent)
  callbacks : Nat
  deriving DecidableEq, Repr

def key : TimedEvent → Option String
  | .instant instant => instant.key
  | .block block => block.key

/-- `startsWith(TIMED_EVENT_PREFIX)`. -/
def startsWithPrefix (key : String) : Bool :=
  TIMED_EVENT_PREFIX.toList.isPrefixOf key.toList

def isPreload (event : TimedEvent) : Bool :=
  key event == some TIMED_EVENT_PRELOAD

def isSegment (event : TimedEvent) : Bool :=
  (key event).any startsWithPrefix

namespace EntryEvents

def events (entry : EntryEvents) : List TimedEvent :=
  entry.timedEvents.getD []

def addTimedEvent (entry : EntryEvents) (timedEvent : TimedEvent) :
    EntryEvents :=
  { entry with timedEvents := some (entry.events ++ [timedEvent]) }

def removeTimedEvent (entry : EntryEvents) (timedEvent : TimedEvent) :
    EntryEvents :=
  let newTimedEvents := entry.events.erase timedEvent
  if newTimedEvents.isEmpty then
    { entry with timedEvents := none }
  else
    { entry with timedEvents := some newTimedEvents }

/-- The event that preloads the next entry, with a new callback. -/
def preloadEvent (services : EventServices) (callback : Nat) : TimedEvent :=
  .block
    { key := some TIMED_EVENT_PRELOAD
      start := -services.preloadDuration
      «end» := INFINITE
      onActivate := some ⟨callback⟩
      onDeactivate := none }

def ensurePreloadTimedEvent (services : EventServices)
    (entry : EntryEvents) : EntryEvents :=
  if services.preloadDuration ≤ 0 then
    entry
  else if entry.timedEvents.any fun events => events.any isPreload then
    entry
  else
    { entry with callbacks := entry.callbacks + 1 }.addTimedEvent
      (preloadEvent services entry.callbacks)

/-- The key of the events of a segment. -/
def segmentKey (segment : MediaSegmentDto) : String :=
  TIMED_EVENT_PREFIX ++ segment.id

/-- The event that skips a segment, with a new callback. -/
def segmentEvent (services : EventServices) (segment : MediaSegmentDto)
    (callback : Nat) : TimedEvent :=
  .block
    { key := some (segmentKey segment)
      start := services.ticks segment.startTicks
      «end» := services.ticks segment.endTicks
      onActivate := some ⟨callback⟩
      onDeactivate := none }

/-- The events of a segment, and the number of the next callback. -/
def asTimedEvents (services : EventServices) (segment : MediaSegmentDto)
    (callbacks : Nat) : List TimedEvent × Nat :=
  if segment.type ∈ services.skipTypes then
    ([segmentEvent services segment callbacks], callbacks + 1)
  else
    ([], callbacks)

/-- The events of all segments in turn. -/
def allTimedEvents (services : EventServices) :
    List MediaSegmentDto → Nat → List TimedEvent × Nat
  | [], callbacks => ([], callbacks)
  | segment :: rest, callbacks =>
      let own := asTimedEvents services segment callbacks
      let later := allTimedEvents services rest own.2
      (own.1 ++ later.1, later.2)

def createTimedEvents (services : EventServices) (entry : EntryEvents) :
    EntryEvents :=
  let kept := entry.events.filter fun event => !isSegment event
  let added :=
    allTimedEvents services (services.mediaSegments.getD [])
      entry.callbacks
  let events := kept ++ added.1
  { timedEvents := if events.isEmpty then none else some events
    callbacks := added.2 }

end EntryEvents

inductive EntryCall where
  | ensurePreloadTimedEvent
  | createTimedEvents
  | addTimedEvent (timedEvent : TimedEvent)
  | removeTimedEvent (timedEvent : TimedEvent)
  deriving DecidableEq, Repr

namespace EntryEvents

def step (services : EventServices) (entry : EntryEvents) :
    EntryCall → EntryEvents
  | .ensurePreloadTimedEvent => entry.ensurePreloadTimedEvent services
  | .createTimedEvents => entry.createTimedEvents services
  | .addTimedEvent timedEvent => entry.addTimedEvent timedEvent
  | .removeTimedEvent timedEvent => entry.removeTimedEvent timedEvent

end EntryEvents

end JellyfinTv.Playback
