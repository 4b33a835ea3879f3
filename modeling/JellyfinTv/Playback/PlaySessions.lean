import JellyfinTv.Library.Brackets
import JellyfinTv.Queue.Draws

/-!
# Reports of play sessions

`PlaySessionService` follows the play state, a flow that keeps its last value
only, and reports a start, a progress or a stop for the entry that is current
when it gets to a value.  Nothing ties that entry to the one for which the
state was set.  What the reports tell about the player is left out.
-/

namespace JellyfinTv.Playback

open JellyfinTv.Queue JellyfinTv.Library

inductive PlayState where
  | stopped
  | playing
  | paused
  | error
  deriving DecidableEq, Repr

inductive ReportKind where
  | start
  | progress
  | stop
  deriving DecidableEq, Repr

structure Report (Item Session : Type) where
  kind : ReportKind
  itemId : Item
  playSessionId : Session
  nowPlayingQueue : List Item
  deriving DecidableEq, Repr

/-- What a report opens or closes. -/
def Report.bracket {Item Session : Type} (report : Report Item Session) :
    Option (Bracket Session) :=
  match report.kind with
  | .start => some (.opening report.playSessionId)
  | .progress => none
  | .stop => some (.closing report.playSessionId)

/-- The queue and the play state, the elements of the entries, the value that
the collector has taken last, and the reports that were sent. -/
structure PlaySessionService (Supplier Item Session : Type) where
  queue : QueueService Supplier
  baseItem : QueueEntry → Option Item
  mediaStream : QueueEntry → Option Session
  playState : PlayState
  collected : Option PlayState
  reports : List (Report Item Session)

/-- Calls of the queue, streams that are resolved, states that the player
reports, `PlayerState.stop`, the steps of the collector and the updates for
messages of the server. -/
inductive SessionEvent (Supplier Session : Type) where
  | call (operation : Operation Supplier)
  | resolve (entry : QueueEntry) (session : Session)
  | playStateChange (state : PlayState)
  | stop
  | collect
  | sendUpdateIfActive

variable {Supplier Item Session : Type}

namespace PlaySessionService

def fresh (baseItem : QueueEntry → Option Item) (order : PlaybackOrder)
    (mode : RepeatMode) (random : Queue.Random) :
    PlaySessionService Supplier Item Session where
  queue := QueueService.fresh order mode random
  baseItem := baseItem
  mediaStream _ := none
  playState := .stopped
  collected := none
  reports := []

/-- The item and the session of the current entry, as far as it has both. -/
def current (service : PlaySessionService Supplier Item Session) :
    Option (Item × Session) := do
  let entry ← service.queue.entry
  let stream ← service.mediaStream entry
  let item ← service.baseItem entry
  return (item, stream)

/-- The stream of an entry is set only if there is none. -/
def resolve (service : PlaySessionService Supplier Item Session)
    (entry : QueueEntry) (session : Session) :
    PlaySessionService Supplier Item Session :=
  { service with
    mediaStream := fun other =>
      if other = entry then (service.mediaStream other).or (some session)
      else service.mediaStream other }

/-- `PlayerState.stop`: the player reports that it has stopped, then the
queue is cleared. -/
def stop (service : PlaySessionService Supplier Item Session) :
    PlaySessionService Supplier Item Session :=
  { service with
    playState := .stopped
    queue := service.queue.clear }

/-- The brackets of the reports. -/
def brackets (service : PlaySessionService Supplier Item Session) :
    List (Bracket Session) :=
  service.reports.filterMap Report.bracket

/-- The session for which a start was reported, and no stop since. -/
def openSession (service : PlaySessionService Supplier Item Session) :
    Option Session :=
  openKey service.brackets

def CaughtUp (service : PlaySessionService Supplier Item Session) : Prop :=
  service.collected = some service.playState

section Sending

variable [QueueSupplier Supplier]

/-- The items that `peekNext(15)` finds. -/
def getQueue (baseItem : QueueEntry → Option Item) :
    QueueM Supplier (List Item) := do
  return (← peekNext 15 true false).filterMap baseItem

/-- A report for the current entry; nothing is sent if the items of the queue
cannot be loaded. -/
def send (kind : ReportKind)
    (service : PlaySessionService Supplier Item Session) :
    PlaySessionService Supplier Item Session :=
  match service.current with
  | none => service
  | some (item, session) =>
      match (getQueue service.baseItem).run service.queue with
      | .ok items queue =>
          { service with
            queue := queue
            reports := service.reports ++ [⟨kind, item, session, items⟩] }
      | .error _ queue => { service with queue := queue }

def sendStreamStart :
    PlaySessionService Supplier Item Session →
      PlaySessionService Supplier Item Session :=
  send .start

def sendStreamUpdate :
    PlaySessionService Supplier Item Session →
      PlaySessionService Supplier Item Session :=
  send .progress

def sendStreamStop :
    PlaySessionService Supplier Item Session →
      PlaySessionService Supplier Item Session :=
  send .stop

def onPlayState (playState : PlayState)
    (service : PlaySessionService Supplier Item Session) :
    PlaySessionService Supplier Item Session :=
  match playState with
  | .playing => service.sendStreamStart
  | .stopped => service.sendStreamStop
  | .paused => service.sendStreamUpdate
  | .error => service.sendStreamStop

/-- The collector takes the value of the flow if it is another one than it
has taken last. -/
def collect (service : PlaySessionService Supplier Item Session) :
    PlaySessionService Supplier Item Session :=
  if service.collected = some service.playState then service
  else
    onPlayState service.playState
      { service with collected := some service.playState }

def step (service : PlaySessionService Supplier Item Session) :
    SessionEvent Supplier Session → PlaySessionService Supplier Item Session
  | .call operation =>
      { service with queue := Queue.step service.queue operation }
  | .resolve entry session => service.resolve entry session
  | .playStateChange state => { service with playState := state }
  | .stop => service.stop
  | .collect => service.collect
  | .sendUpdateIfActive => service.sendStreamUpdate

end Sending

section Property

variable [QueueSupplier Supplier]

/-- Every `stop` during a started session is followed by the stop report of
that session once the collector has caught up. -/
def StopsReported (service : PlaySessionService Supplier Item Session)
    (events : List (SessionEvent Supplier Session)) : Prop :=
  ∀ early late session, early ++ .stop :: late <+: events →
    (run step service early).openSession = some session →
      (run step service (early ++ .stop :: late)).CaughtUp →
        ∃ sent,
          (run step service (early ++ .stop :: late)).brackets =
              (run step service early).brackets ++ sent ∧
            .closing session ∈ sent

/-- An open session keeps the entry current until its stop was reported, and
a stopped player is noticed only while the session of the current entry is
open. -/
def KeepsEntry (service : PlaySessionService Supplier Item Session) :
    SessionEvent Supplier Session → Prop
  | .call operation =>
      (Queue.step service.queue operation).entry = service.queue.entry ∨
        service.openSession = none
  | .stop => service.openSession = none
  | .collect =>
      ¬service.CaughtUp →
        service.playState = .stopped ∨ service.playState = .error →
          service.current = none ∨ service.openSession ≠ none
  | _ => True

instance [DecidableEq Item] [DecidableEq Session]
    (service : PlaySessionService Supplier Item Session) :
    ∀ event, Decidable (service.KeepsEntry event)
  | .call _ => inferInstanceAs (Decidable (_ ∨ _))
  | .stop => inferInstanceAs (Decidable (service.openSession = none))
  | .collect =>
      inferInstanceAs
        (Decidable
          (¬service.collected = some service.playState →
            service.playState = .stopped ∨ service.playState = .error →
              service.current = none ∨ service.openSession ≠ none))
  | .resolve _ _ => isTrue trivial
  | .playStateChange _ => isTrue trivial
  | .sendUpdateIfActive => isTrue trivial

end Property

section Tied

variable {service other : PlaySessionService Supplier Item Session}

/-- The reports are well bracketed, and only the session of the current entry
is open. -/
structure Tied (service : PlaySessionService Supplier Item Session) :
    Prop where
  bracketed : Bracketed service.brackets
  open_current :
    ∀ session ∈ service.openSession,
      service.current.map Prod.snd = some session

theorem Tied.congr (tied : Tied service)
    (brackets : other.brackets = service.brackets)
    (current : other.current = service.current) : Tied other := by
  refine ⟨?_, ?_⟩
  · rw [brackets]
    exact tied.bracketed
  · rw [openSession, brackets, current]
    exact tied.open_current

/-- One more bracket for the session of the current entry. -/
theorem Tied.concat (tied : Tied service) {bracket : Bracket Session}
    (brackets : other.brackets = service.brackets ++ [bracket])
    (current : other.current = service.current)
    (closes : Closes service.openSession bracket)
    (opens :
      ∀ session, bracket = .opening session →
        service.current.map Prod.snd = some session) : Tied other := by
  refine ⟨?_, ?_⟩
  · rw [brackets]
    exact (bracketed_concat _ _).mpr ⟨tied.bracketed, closes⟩
  · rw [openSession, brackets, openKey_concat, current]
    cases bracket with
    | opening session =>
        rintro _ ⟨⟩
        exact opens session rfl
    | closing session =>
        rintro _ ⟨⟩

/-- Without an open session the current entry is free to change. -/
theorem Tied.of_closed (tied : Tied service)
    (brackets : other.brackets = service.brackets)
    (closed : service.openSession = none) : Tied other := by
  refine ⟨?_, ?_⟩
  · rw [brackets]
    exact tied.bracketed
  · have nothing : other.openSession = none := by
      rw [openSession, brackets]
      exact closed
    rw [nothing]
    rintro _ ⟨⟩

theorem current_of_entry (entry : other.queue.entry = service.queue.entry)
    (stream : other.mediaStream = service.mediaStream)
    (item : other.baseItem = service.baseItem) :
    other.current = service.current := by
  rw [current, current, entry, stream, item]

/-- A stream that is resolved later leaves the session of an entry that has
one. -/
theorem current_resolve (entry : QueueEntry) (session : Session)
    {found : Item × Session} (present : service.current = some found) :
    (service.resolve entry session).current = some found := by
  simp only [current, resolve, Option.bind_eq_bind,
    Option.bind_eq_some_iff] at present ⊢
  obtain ⟨playing, entered, stream, streamed, rest⟩ := present
  refine ⟨playing, entered, stream, ?_, rest⟩
  rw [streamed]
  split <;> rfl

theorem Tied.resolve (tied : Tied service) (entry : QueueEntry)
    (session : Session) : Tied (service.resolve entry session) := by
  refine ⟨tied.bracketed, ?_⟩
  intro opened is_open
  obtain ⟨found, present, same⟩ :=
    Option.map_eq_some_iff.mp (tied.open_current opened is_open)
  rw [current_resolve entry session present, Option.map_some, same]

theorem tied_fresh (baseItem : QueueEntry → Option Item)
    (order : PlaybackOrder) (mode : RepeatMode) (random : Queue.Random) :
    Tied
      (fresh baseItem order mode random :
        PlaySessionService Supplier Item Session) := by
  refine ⟨trivial, ?_⟩
  rintro _ ⟨⟩

end Tied

section Steps

variable [QueueSupplier Supplier]
variable {service : PlaySessionService Supplier Item Session}

theorem respects_getQueue (baseItem : QueueEntry → Option Item) :
    Respects Draws
      (getQueue baseItem : QueueM Supplier (List Item)) :=
  Respects.bind (respects_peekNext 15 true false) fun _ => Respects.pure _

/-- Sending leaves the current entry, and adds at most one report for it. -/
theorem send_cases (kind : ReportKind)
    (service : PlaySessionService Supplier Item Session) :
    (send kind service).current = service.current ∧
      ((send kind service).reports = service.reports ∨
        ∃ item session items,
          service.current = some (item, session) ∧
            (send kind service).reports =
              service.reports ++ [⟨kind, item, session, items⟩]) := by
  cases found : service.current with
  | none =>
      have silent : send kind service = service := by
        simp only [send, found]
      rw [silent]
      exact ⟨found, Or.inl rfl⟩
  | some pair =>
      obtain ⟨item, session⟩ := pair
      have draws := respects_getQueue service.baseItem service.queue
      cases loaded : (getQueue service.baseItem).run service.queue with
      | error exception queue =>
          rw [loaded] at draws
          have failed : send kind service = { service with queue := queue } := by
            simp only [send, found, loaded]
          rw [failed, ← found]
          exact ⟨current_of_entry draws.entry rfl rfl, Or.inl rfl⟩
      | ok items queue =>
          rw [loaded] at draws
          have sent :
              send kind service =
                { service with
                  queue := queue
                  reports :=
                    service.reports ++ [⟨kind, item, session, items⟩] } := by
            simp only [send, found, loaded]
          rw [sent, ← found]
          refine ⟨current_of_entry draws.entry rfl rfl, Or.inr ?_⟩
          exact ⟨item, session, items, found, rfl⟩

/-- A stop is reported only while a session is open. -/
theorem Tied.send (tied : Tied service) (kind : ReportKind)
    (noticed :
      kind = .stop → service.current = none ∨ service.openSession ≠ none) :
    Tied (service.send kind) := by
  obtain ⟨same, unsent | ⟨item, session, items, found, sent⟩⟩ :=
    send_cases kind service
  · refine tied.congr ?_ same
    rw [brackets, unsent, brackets]
  · have here : service.current.map Prod.snd = some session := by
      rw [found, Option.map_some]
    have opened : ∀ other ∈ service.openSession, other = session := by
      intro other is_open
      exact Option.some.inj ((tied.open_current other is_open).symm.trans here)
    have split :
        (service.send kind).brackets =
          service.brackets ++
            [(⟨kind, item, session, items⟩ :
              Report Item Session)].filterMap Report.bracket := by
      rw [brackets, sent, List.filterMap_append, brackets]
    cases kind with
    | start =>
        refine tied.concat split same opened ?_
        rintro _ ⟨⟩
        exact here
    | progress =>
        refine tied.congr ?_ same
        rw [split]
        exact List.append_nil _
    | stop =>
        refine tied.concat split same ?_ ?_
        · rcases noticed rfl with nothing | started
          · rw [found] at nothing
            cases nothing
          · obtain ⟨other, is_open⟩ := Option.ne_none_iff_exists'.mp started
            rw [Closes, is_open, opened other is_open]
        · rintro _ ⟨⟩

theorem Tied.onPlayState (tied : Tied service) (playState : PlayState)
    (noticed :
      playState = .stopped ∨ playState = .error →
        service.current = none ∨ service.openSession ≠ none) :
    Tied (service.onPlayState playState) := by
  cases playState with
  | stopped =>
      exact tied.send .stop fun _ => noticed (Or.inl rfl)
  | playing =>
      exact tied.send .start (by rintro ⟨⟩)
  | paused =>
      exact tied.send .progress (by rintro ⟨⟩)
  | error =>
      exact tied.send .stop fun _ => noticed (Or.inr rfl)

theorem Tied.collect (tied : Tied service)
    (keeps : service.KeepsEntry .collect) : Tied service.collect := by
  unfold PlaySessionService.collect
  split
  case isTrue =>
    exact tied
  case isFalse behind =>
    have taken :
        Tied { service with collected := some service.playState } :=
      tied.congr rfl rfl
    exact taken.onPlayState service.playState (keeps behind)

theorem tied_step (service : PlaySessionService Supplier Item Session)
    (event : SessionEvent Supplier Session) (tied : Tied service)
    (keeps : service.KeepsEntry event) : Tied (service.step event) := by
  cases event with
  | call operation =>
      rcases keeps with same | closed
      · exact tied.congr rfl (current_of_entry same rfl rfl)
      · exact tied.of_closed rfl closed
  | resolve entry session =>
      exact tied.resolve entry session
  | playStateChange state =>
      exact tied.congr rfl rfl
  | stop =>
      exact tied.of_closed rfl keeps
  | collect =>
      exact tied.collect keeps
  | sendUpdateIfActive =>
      exact tied.send .progress (by rintro ⟨⟩)

end Steps

/-- Whatever the collector takes after `PlayerState.stop`, it finds no entry
to report. -/
theorem stop_unreported [QueueSupplier Supplier]
    (service : PlaySessionService Supplier Item Session) :
    service.stop.collect.reports = service.reports := by
  have nothing :
      ({ service.stop with collected := some .stopped } :
        PlaySessionService Supplier Item Session).current = none :=
    rfl
  unfold collect
  split
  · rfl
  · change
      (send .stop { service.stop with collected := some .stopped }).reports =
        service.reports
    rw [send, nothing]
    rfl

end PlaySessionService

open PlaySessionService

/-- In every run in which an open session keeps its entry current, the reports
are well bracketed and every stop of a started session is reported. -/
theorem sessions_bracketed_while_entry_kept [QueueSupplier Supplier]
    (baseItem : QueueEntry → Option Item) (order : PlaybackOrder)
    (mode : RepeatMode) (random : Queue.Random)
    (events : List (SessionEvent Supplier Session))
    (keeps :
      Admitted PlaySessionService.step KeepsEntry
        (fresh baseItem order mode random) events) :
    WellBracketed
        (run PlaySessionService.step (fresh baseItem order mode random)
          events).brackets ∧
      StopsReported (fresh baseItem order mode random) events := by
  constructor
  · have tied :=
      run_invariant tied_step (tied_fresh baseItem order mode random) keeps
    exact wellBracketed_of_bracketed tied.bracketed
  · intro early late session isEarly opened _
    have here :=
      ((admitted_append _ early (.stop :: late)).mp
        (keeps.earlier isEarly)).2.1
    have closed :
        (run PlaySessionService.step (fresh baseItem order mode random)
          early).openSession = none :=
      here
    rw [closed] at opened
    cases opened

/-- A service in the default order whose entries are their own items. -/
def defaultService : PlaySessionService FixedSupplier Nat Nat :=
  fresh (fun entry => some entry.id) .default .none fun _ => 0

/-- One entry is added and resolved, the player starts and the collector
follows. -/
def startedSession : List (SessionEvent FixedSupplier Nat) :=
  [.call (.addSupplier (.ofList [⟨0⟩])), .resolve ⟨0⟩ 7,
    .playStateChange .playing, .collect]

/-- The player stops by itself and the collector follows before the queue
ends. -/
def endedSession : List (SessionEvent FixedSupplier Nat) :=
  startedSession ++
    [.playStateChange .stopped, .collect, .call .mediaStreamEnd]

theorem ended_session_bracketed :
    WellBracketed
        (run PlaySessionService.step defaultService endedSession).brackets ∧
      StopsReported defaultService endedSession :=
  sessions_bracketed_while_entry_kept (fun entry => some entry.id) .default
    .none (fun _ => 0) endedSession
    (by decide)

/-- The user stops the playback of a started session. -/
theorem stopped_session_unreported :
    ¬(WellBracketed
          (run PlaySessionService.step defaultService
            (startedSession ++ [.stop, .collect])).brackets ∧
        StopsReported defaultService
          (startedSession ++ [.stop, .collect])) := by
  rintro ⟨_, reported⟩
  obtain ⟨sent, made, member⟩ :=
    reported startedSession [.collect] 7 List.prefix_rfl rfl rfl
  have started :
      (run PlaySessionService.step defaultService
        startedSession).brackets = [.opening 7] :=
    rfl
  have unchanged :
      (run PlaySessionService.step defaultService
        (startedSession ++ [.stop, .collect])).brackets = [.opening 7] :=
    rfl
  rw [started, unchanged] at made
  have nothing : sent = [] := List.append_right_eq_self.mp made.symm
  rw [nothing] at member
  cases member

end JellyfinTv.Playback
