import JellyfinTv.Playback.ExoPlayerBackend
import JellyfinTv.Queue.InOrder
import JellyfinTv.Queue.Navigation

/-!
# The stream of the current entry

`MediaStreamService` collects the current entry of the queue.  It looks for a
stream of the entry, which takes a while, and plays the entry if there is
one.  Otherwise it goes on to the next entry, or stops the backend where none
is left.  A change of the entry while the service is looking is taken up
afterwards, and only the newest one.  In every order of these steps the
entries are played in the order of the queue.
-/

namespace JellyfinTv.Playback

open JellyfinTv.Queue JellyfinTv.Library

/-- What the service asks of the backend. -/
inductive BackendCall where
  | playItem (item : QueueEntry)
  | prepareItem (item : QueueEntry)
  | stop
  deriving DecidableEq

def BackendCall.played : BackendCall → Option QueueEntry
  | .playItem item => some item
  | .prepareItem _ | .stop => none

def BackendCall.prepares : BackendCall → Bool
  | .prepareItem _ => true
  | .playItem _ | .stop => false

/-- The queue with its history, the streams kept in the entries, the entry the
collector has come to, the one it is looking for a stream of, and those that
are being looked up for a preload. -/
structure MediaStreamService (Stream : Type) where
  playback : Queue.Playback
  mediaStream : QueueEntry → Option Stream
  collected : Option QueueEntry
  collecting : Option QueueEntry
  preloading : List QueueEntry
  backend : List BackendCall

namespace MediaStreamService

variable {Stream : Type}

abbrev Resolver (Stream : Type) :=
  QueueEntry → Except Unit (Option Stream)

/-- The first resolver with a stream; the ones that fail are passed over. -/
def ensureMediaStream (mediaStreamResolvers : List (Resolver Stream))
    (entry : QueueEntry) : Option Stream :=
  mediaStreamResolvers.findSome? fun resolver =>
    (resolver entry).toOption.join

def current (service : MediaStreamService Stream) : Option QueueEntry :=
  service.playback.queue.entry

def callBackend (service : MediaStreamService Stream) (call : BackendCall) :
    MediaStreamService Stream :=
  { service with backend := service.backend ++ [call] }

/-- The collector takes up the current entry if it is free. -/
def collect (service : MediaStreamService Stream) :
    MediaStreamService Stream :=
  if service.collecting ≠ none ∨ service.current = service.collected then
    service
  else
    let taken := { service with collected := service.current }
    match service.current with
    | none => taken.callBackend .stop
    | some entry =>
        if (service.mediaStream entry).isSome then
          taken.callBackend (.playItem entry)
        else { taken with collecting := some entry }

def callQueue (operation : Operation FixedSupplier)
    (service : MediaStreamService Stream) : MediaStreamService Stream :=
  collect { service with playback := service.playback.step operation }

/-- `playEntry` for an entry without a stream. -/
def skipEntry (service : MediaStreamService Stream) :
    MediaStreamService Stream :=
  let peeked :=
    { service with
      playback := service.playback.step (.peekNext 1 true false) }
  match peekedEntry service.playback.queue with
  | some _ =>
      { peeked with playback := peeked.playback.step (.next true false) }
  | none => peeked.callBackend .stop

section Resolvers

variable (mediaStreamResolvers : List (Resolver Stream))

/-- `playEntry` when the resolvers have answered. -/
def resolved (service : MediaStreamService Stream) :
    MediaStreamService Stream :=
  match service.collecting with
  | none => service
  | some entry =>
      let stream := ensureMediaStream mediaStreamResolvers entry
      let known :=
        { service with
          mediaStream := Function.update service.mediaStream entry stream
          collecting := none }
      collect <|
        if stream.isSome then known.callBackend (.playItem entry)
        else known.skipEntry

def preloadNextEntry (service : MediaStreamService Stream) :
    MediaStreamService Stream :=
  let peeked :=
    { service with
      playback := service.playback.step (.peekNext 1 true false) }
  match peekedEntry service.playback.queue with
  | none => peeked
  | some nextItem =>
      if (service.mediaStream nextItem).isSome then
        peeked.callBackend (.prepareItem nextItem)
      else { peeked with preloading := service.preloading ++ [nextItem] }

/-- `preloadNextEntry` when the resolvers have answered. -/
def preloaded (position : Nat) (service : MediaStreamService Stream) :
    MediaStreamService Stream :=
  match service.preloading[position]? with
  | none => service
  | some nextItem =>
      let stream := ensureMediaStream mediaStreamResolvers nextItem
      let known :=
        { service with
          mediaStream := Function.update service.mediaStream nextItem stream
          preloading := service.preloading.eraseIdx position }
      if stream.isSome then known.callBackend (.prepareItem nextItem)
      else known

inductive Event where
  | call (operation : Operation FixedSupplier)
  | resolved
  | preload
  | preloaded (position : Nat)

def step (service : MediaStreamService Stream) :
    Event → MediaStreamService Stream
  | .call operation => callQueue operation service
  | .resolved => resolved mediaStreamResolvers service
  | .preload => preloadNextEntry service
  | .preloaded position => preloaded mediaStreamResolvers position service

end Resolvers

/-- The service of a queue that has its first entry. -/
def start (playback : Queue.Playback) : MediaStreamService Stream :=
  collect
    { playback := playback
      mediaStream := fun _ => none
      collected := none
      collecting := none
      preloading := []
      backend := [.stop] }

/-! ## How the current entry moves -/

/-- The calls of the queue that a running service meets. -/
def QueueCall : Operation FixedSupplier → Prop
  | .next _ _ | .peekNext _ _ _ | .removeEntry _ | .mediaStreamEnd => True
  | _ => False

instance : DecidablePred QueueCall := fun operation =>
  match operation with
  | .next _ _ | .peekNext _ _ _ | .removeEntry _ | .mediaStreamEnd =>
      isTrue trivial
  | .addSupplier _ | .setIndex _ _ | .previous | .peekPrevious | .clear
  | .setPlaybackOrder _ | .setRepeatMode _ => isFalse id

/-- The entry stays, is followed by another one, or is left at the end of the
queue. -/
inductive Moves (later : List QueueEntry) (before after : Queue.Playback) :
    Prop
  | stays (entry : after.queue.entry = before.queue.entry)
      (visited : after.visited = before.visited)
      (onTrack : Queue.Playback.OnTrack later after)
  | arrives (entry : QueueEntry)
      (other : before.queue.entry ≠ some entry)
      (arrived : after.queue.entry = some entry)
      (visited : after.visited = before.visited ++ [entry])
      (onTrack : Queue.Playback.OnTrack later after)
  | ends (ended : after.queue.entry = none)
      (visited : after.visited = before.visited)
      (exhausted : after.visited = after.awaited later)

/-- A queue with a current entry keeps one. -/
theorem isSome_entry_next {queue : FixedQueue}
    (sequential : queue.Sequential) (present : queue.entry.isSome)
    (usePlaybackOrder useRepeatMode : Bool) :
    ∃ response moved,
      (next usePlaybackOrder useRepeatMode).run queue =
          .ok response moved ∧
        moved.entry.isSome := by
  cases shape : queue.pending with
  | nil =>
      exact ⟨_, _, sequential.next_ends shape _ _, present⟩
  | cons entry rest =>
      obtain ⟨moved, outcome, _, arrived, _⟩ :=
        sequential.next_advances shape usePlaybackOrder useRepeatMode
      refine ⟨_, moved, outcome, ?_⟩
      rw [arrived]
      rfl

theorem isSome_entry_step {queue : FixedQueue}
    (sequential : queue.Sequential) (present : queue.entry.isSome)
    {operation : Operation FixedSupplier} (call : InOrderCall operation) :
    (Queue.step queue operation).entry.isSome := by
  cases operation with
  | next usePlaybackOrder useRepeatMode =>
      obtain ⟨response, moved, outcome, some⟩ :=
        isSome_entry_next sequential present usePlaybackOrder useRepeatMode
      rw [step_next outcome]
      exact some
  | peekNext amount usePlaybackOrder useRepeatMode =>
      have loads :=
        sequential.peekNext_loads amount usePlaybackOrder useRepeatMode
      rw [loads.frame]
      exact present
  | removeEntry entry =>
      cases found : queue.indexOf entry with
      | none =>
          rw [QueueService.step_removeEntry_of_absent found]
          exact present
      | some index =>
          have dropped := (sequential.dropEntry found).1
          rw [QueueService.step_removeEntry_eq found,
            QueueService.finishRemoval_run]
          split
          · obtain ⟨response, moved, outcome, some⟩ :=
              isSome_entry_next dropped present true false
            rw [outcome]
            exact some
          · exact present
  | addSupplier | setIndex | previous | peekPrevious | clear
    | mediaStreamEnd | setPlaybackOrder | setRepeatMode =>
      exact call.elim

section Queue

variable {later : List QueueEntry} {playback : Queue.Playback}

theorem moves_of_inOrderCall
    (onTrack : Queue.Playback.OnTrack later playback)
    (distinct : later.Nodup) (present : playback.queue.entry.isSome)
    {operation : Operation FixedSupplier} (call : InOrderCall operation) :
    Moves later playback (playback.step operation) := by
  have kept := onTrack.step distinct call
  have some := isSome_entry_step onTrack.sequential present call
  obtain ⟨entry, arrived⟩ := Option.isSome_iff_exists.mp some
  by_cases same :
      (Queue.step playback.queue operation).entry = playback.queue.entry
  · refine .stays same ?_ kept
    rw [Queue.Playback.step, Queue.Playback.arrival, if_pos same,
      List.append_nil]
  · refine .arrives entry ?_ arrived ?_ kept
    · intro already
      exact same (arrived.trans already.symm)
    · rw [Queue.Playback.step, Queue.Playback.arrival, if_neg same, arrived,
        Option.toList_some]

theorem moves_mediaStreamEnd
    (onTrack : Queue.Playback.OnTrack later playback)
    (present : playback.queue.entry.isSome) :
    Moves later playback (playback.step .mediaStreamEnd) := by
  have valid := onTrack.sequential.valid
  cases shape : playback.queue.pending with
  | nil =>
      have ran := onTrack.sequential.next_ends shape true true
      have reached := QueueService.step_mediaStreamEnd ran
      have covers := onTrack.covers
      rw [shape, List.append_nil] at covers
      by_cases nowhere : playback.queue.entryIndex = INDEX_NONE
      · -- A removed entry at the start of an empty queue stays.
        rw [if_neg (by simp [nowhere])] at reached
        have still :
            playback.step .mediaStreamEnd = playback := by
          simp [Queue.Playback.step, Queue.Playback.arrival,
            Queue.Playback.unreached, reached]
        rw [still]
        exact .stays rfl rfl onTrack
      · rw [if_pos ⟨rfl, nowhere⟩] at reached
        have ended :
            (Queue.step playback.queue .mediaStreamEnd).entry = none := by
          rw [reached]
          rfl
        obtain ⟨entry, was⟩ := Option.isSome_iff_exists.mp present
        have nothing :
            Queue.Playback.arrival playback.queue
                (Queue.step playback.queue .mediaStreamEnd) = [] := by
          rw [Queue.Playback.arrival, ended, was]
          rfl
        refine .ends ended ?_ ?_
        · rw [Queue.Playback.step, nothing, List.append_nil]
        · rw [Queue.Playback.step, nothing, List.append_nil, covers]
          simp [Queue.Playback.awaited, Queue.Playback.unreached]
  | cons entry rest =>
      obtain ⟨moved, ran, kept, arrived, remaining⟩ :=
        onTrack.sequential.next_advances shape true true
      have reached := QueueService.step_mediaStreamEnd ran
      rw [if_neg (by simp)] at reached
      have other : playback.queue.entry ≠ some entry := by
        intro already
        apply onTrack.sequential.behind entry already
        rw [shape]
        exact List.mem_cons_self
      have arrival :
          Queue.Playback.arrival playback.queue moved = [entry] := by
        rw [Queue.Playback.arrival, arrived, if_neg (Ne.symm other),
          Option.toList_some]
      refine .arrives entry other ?_ ?_ ⟨?_, ?_⟩
      · rw [Queue.Playback.step, reached, arrived]
      · rw [Queue.Playback.step, reached, arrival]
      · rw [Queue.Playback.step, reached]
        exact kept
      · have covers := onTrack.covers
        rw [shape] at covers
        simp only [Queue.Playback.step, reached, arrival, remaining,
          Queue.Playback.awaited, Queue.Playback.unreached, List.append_nil,
          List.append_assoc, List.singleton_append]
        exact covers

theorem moves_of_queueCall
    (onTrack : Queue.Playback.OnTrack later playback)
    (distinct : later.Nodup) (present : playback.queue.entry.isSome)
    {operation : Operation FixedSupplier} (call : QueueCall operation) :
    Moves later playback (playback.step operation) := by
  cases operation with
  | next | peekNext | removeEntry =>
      exact moves_of_inOrderCall onTrack distinct present trivial
  | mediaStreamEnd =>
      exact moves_mediaStreamEnd onTrack present
  | addSupplier | setIndex | previous | peekPrevious | clear
    | setPlaybackOrder | setRepeatMode =>
      exact call.elim

end Queue

/-! ## The order of what is played -/

def played (service : MediaStreamService Stream) : List QueueEntry :=
  service.backend.filterMap BackendCall.played

/-- The entries that have been current, in their order. -/
def reached (first : QueueEntry) (service : MediaStreamService Stream) :
    List QueueEntry :=
  first :: service.playback.visited

/-- The entries that were to come are those behind the first one, without
the ones that were removed in time. -/
def expected (first : QueueEntry) (later : List QueueEntry)
    (service : MediaStreamService Stream) : List QueueEntry :=
  first :: service.playback.awaited later

section CallBackend

variable (service : MediaStreamService Stream) (call : BackendCall)

theorem played_callBackend :
    (service.callBackend call).played =
      service.played ++ call.played.toList := by
  rw [played, callBackend, List.filterMap_append]
  cases call <;> rfl

@[simp]
theorem reached_callBackend (first : QueueEntry) :
    (service.callBackend call).reached first = service.reached first :=
  rfl

end CallBackend

/-- The call of the queue in an event. -/
def Event.operation : Event → Option (Operation FixedSupplier)
  | .call operation => some operation
  | .resolved | .preload | .preloaded _ => none

/-- Calls of the queue, and only as long as it has a current entry. -/
def Running (service : MediaStreamService Stream) (event : Event) : Prop :=
  service.current.isSome ∧
    ∀ operation ∈ event.operation, QueueCall operation

instance (service : MediaStreamService Stream) (event : Event) :
    Decidable (Running service event) :=
  inferInstanceAs (Decidable (_ ∧ ∀ operation ∈ event.operation, _))

/-- The queue is not called while a stream is looked for. -/
def Undisturbed (service : MediaStreamService Stream) (event : Event) :
    Prop :=
  Running service event ∧
    (event.operation.isSome → service.collecting = none)

instance (service : MediaStreamService Stream) (event : Event) :
    Decidable (Undisturbed service event) :=
  inferInstanceAs (Decidable (_ ∧ (_ → _)))

section Order

variable (mediaStreamResolvers : List (Resolver Stream))

def playable (entry : QueueEntry) : Bool :=
  (ensureMediaStream mediaStreamResolvers entry).isSome

/-- What has been played, and what is being looked up, comes in the order of
the entries.  The current entry can follow if the collector has not come to
it. -/
structure Follows (first : QueueEntry) (later : List QueueEntry)
    (service : MediaStreamService Stream) : Prop where
  early : service.playback.visited <+: service.playback.awaited later
  running :
    ∀ entry, service.current = some entry →
      Queue.Playback.OnTrack later service.playback ∧
        (service.reached first).getLast? = some entry
  collected :
    ∀ entry, service.collected = some entry →
      entry ∈ service.reached first
  ordered :
    (service.played ++ service.collecting.toList).Sublist
      (if service.current = none ∨ service.current = service.collected then
        service.reached first
      else (service.reached first).dropLast)
  found :
    ∀ entry ∈ service.played, playable mediaStreamResolvers entry = true
  kept :
    ∀ entry, (service.mediaStream entry).isSome →
      playable mediaStreamResolvers entry = true

variable {mediaStreamResolvers} {first : QueueEntry}
  {later : List QueueEntry} {service : MediaStreamService Stream}

namespace Follows

theorem sublist_reached
    (follows : Follows mediaStreamResolvers first later service) :
    (service.played ++ service.collecting.toList).Sublist
      (service.reached first) := by
  have ordered := follows.ordered
  split at ordered
  · exact ordered
  · exact ordered.trans (List.dropLast_sublist _)

theorem sublist_expected
    (follows : Follows mediaStreamResolvers first later service) :
    service.played.Sublist
      ((service.expected first later).filter
        (playable mediaStreamResolvers)) := by
  have within : service.played.Sublist (service.expected first later) := by
    refine (List.sublist_append_left _ _).trans
      (follows.sublist_reached.trans ?_)
    exact follows.early.sublist.cons_cons first
  rw [← List.filter_eq_self.mpr follows.found]
  exact within.filter _

/-- A move of the current entry. -/
theorem move (follows : Follows mediaStreamResolvers first later service)
    (distinct : (first :: later).Nodup) {playback : Queue.Playback}
    (moves : Moves later service.playback playback) :
    Follows mediaStreamResolvers first later
      { service with playback := playback } := by
  have within := follows.sublist_reached
  cases moves with
  | stays same visited onTrack =>
      have history :
          reached first { service with playback := playback } =
            service.reached first :=
        congrArg (first :: ·) visited
      have current :
          MediaStreamService.current { service with playback := playback } =
            service.current :=
        same
      exact
        { early := ⟨_, onTrack.covers⟩
          running := by
            intro entry isCurrent
            rw [history]
            rw [current] at isCurrent
            exact ⟨onTrack, (follows.running entry isCurrent).2⟩
          collected := by
            rw [history]
            exact follows.collected
          ordered := by
            rw [history, current]
            exact follows.ordered
          found := follows.found
          kept := follows.kept }
  | arrives entry other arrived visited onTrack =>
      have history :
          reached first { service with playback := playback } =
            service.reached first ++ [entry] :=
        congrArg (first :: ·) visited
      have current :
          MediaStreamService.current { service with playback := playback } =
            some entry :=
        arrived
      have new : entry ∉ service.reached first := by
        have unique :
            (reached first { service with playback := playback }).Nodup := by
          refine distinct.sublist (List.Sublist.cons_cons first ?_)
          have early : playback.visited <+: playback.awaited later :=
            ⟨_, onTrack.covers⟩
          exact early.sublist.trans List.filter_sublist
        rw [history] at unique
        exact fun member =>
          (List.nodup_append.mp unique).2.2 entry member entry
            List.mem_cons_self rfl
      exact
        { early := ⟨_, onTrack.covers⟩
          running := by
            intro now isCurrent
            rw [current] at isCurrent
            rw [history, List.getLast?_concat]
            exact ⟨onTrack, isCurrent⟩
          collected := by
            rw [history]
            exact fun before taken =>
              List.mem_append_left _ (follows.collected before taken)
          ordered := by
            rw [history, current, if_neg, List.dropLast_concat]
            · exact within
            · rintro (absent | taken)
              · cases absent
              · exact new (follows.collected entry taken.symm)
          found := follows.found
          kept := follows.kept }
  | ends ended visited exhausted =>
      have history :
          reached first { service with playback := playback } =
            service.reached first :=
        congrArg (first :: ·) visited
      have current :
          MediaStreamService.current { service with playback := playback } =
            none :=
        ended
      exact
        { early := exhausted ▸ List.prefix_rfl
          running := by
            intro now isCurrent
            rw [current] at isCurrent
            cases isCurrent
          collected := by
            rw [history]
            exact follows.collected
          ordered := by
            rw [history, current, if_pos (Or.inl rfl)]
            exact within
          found := follows.found
          kept := follows.kept }

/-- The collector takes up the current entry. -/
theorem collect
    (follows : Follows mediaStreamResolvers first later service) :
    Follows mediaStreamResolvers first later service.collect := by
  unfold MediaStreamService.collect
  dsimp only
  split
  · exact follows
  · rename_i free
    rw [not_or, not_not] at free
    obtain ⟨idle, new⟩ := free
    have ordered := follows.ordered
    rw [idle, Option.toList_none, List.append_nil] at ordered
    split
    · rename_i ended
      rw [if_pos (Or.inl ended)] at ordered
      exact
        { early := follows.early
          running := follows.running
          collected := by
            intro entry taken
            cases ended.symm.trans taken
          ordered := by
            rw [played_callBackend, if_pos]
            · change
                (service.played ++ [] ++ service.collecting.toList).Sublist
                  (service.reached first)
              rw [idle, Option.toList_none, List.append_nil, List.append_nil]
              exact ordered
            · exact Or.inl ended
          found := by
            rw [played_callBackend]
            change ∀ entry ∈ service.played ++ [], _
            rw [List.append_nil]
            exact follows.found
          kept := follows.kept }
    · rename_i entry isCurrent
      obtain ⟨onTrack, last⟩ := follows.running entry isCurrent
      have shape :
          (service.reached first).dropLast ++ [entry] =
            service.reached first :=
        List.dropLast_append_getLast? entry last
      have member : entry ∈ service.reached first := by
        rw [← shape]
        exact List.mem_append_right _ List.mem_cons_self
      have waiting :
          ¬(service.current = none ∨ service.current = service.collected) := by
        rintro (absent | taken)
        · cases isCurrent.symm.trans absent
        · exact new taken
      rw [if_neg waiting] at ordered
      have next := ordered.append (List.Sublist.refl [entry])
      rw [shape] at next
      split
      · rename_i cached
        exact
          { early := follows.early
            running := follows.running
            collected := by
              intro taken same
              cases isCurrent.symm.trans same
              exact member
            ordered := by
              rw [played_callBackend, if_pos]
              · change
                  (service.played ++ [entry] ++
                    service.collecting.toList).Sublist
                    (service.reached first)
                rw [idle, Option.toList_none, List.append_nil]
                exact next
              · exact Or.inr rfl
            found := by
              intro other among
              rw [played_callBackend] at among
              rcases List.mem_append.mp among with before | here
              · exact follows.found other before
              · cases List.mem_singleton.mp here
                exact follows.kept entry cached
            kept := follows.kept }
      · exact
          { early := follows.early
            running := follows.running
            collected := by
              intro taken same
              cases isCurrent.symm.trans same
              exact member
            ordered := by
              rw [if_pos]
              · exact next
              · exact Or.inr rfl
            found := follows.found
            kept := follows.kept }

theorem kept_update
    (follows : Follows mediaStreamResolvers first later service)
    (entry other : QueueEntry)
    (cached :
      (Function.update service.mediaStream entry
        (ensureMediaStream mediaStreamResolvers entry) other).isSome) :
    playable mediaStreamResolvers other = true := by
  by_cases same : other = entry
  · subst same
    rwa [Function.update_self] at cached
  · rw [Function.update_of_ne same] at cached
    exact follows.kept other cached

/-- A call of the queue that is made while there is a current entry. -/
theorem queueCall
    (follows : Follows mediaStreamResolvers first later service)
    (distinct : (first :: later).Nodup) (present : service.current.isSome)
    {operation : Operation FixedSupplier} (call : QueueCall operation) :
    Follows mediaStreamResolvers first later
      { service with playback := service.playback.step operation } := by
  obtain ⟨entry, isCurrent⟩ := Option.isSome_iff_exists.mp present
  exact follows.move distinct
    (moves_of_queueCall (follows.running entry isCurrent).1
      (List.nodup_cons.mp distinct).2 present call)

/-- A step that leaves the queue alone and plays at most what was being
looked up. -/
theorem frame {after : MediaStreamService Stream}
    (follows : Follows mediaStreamResolvers first later service)
    (playback : after.playback = service.playback)
    (collected : after.collected = service.collected)
    (ordered :
      (after.played ++ after.collecting.toList).Sublist
        (service.played ++ service.collecting.toList))
    (found :
      ∀ entry ∈ after.played,
        entry ∈ service.played ∨
          playable mediaStreamResolvers entry = true)
    (kept :
      ∀ entry, (after.mediaStream entry).isSome →
        playable mediaStreamResolvers entry = true) :
    Follows mediaStreamResolvers first later after := by
  have current : after.current = service.current :=
    congrArg (fun playback : Queue.Playback => playback.queue.entry) playback
  have history : after.reached first = service.reached first :=
    congrArg (fun playback : Queue.Playback => first :: playback.visited)
      playback
  exact
    { early := by
        rw [playback]
        exact follows.early
      running := by
        rw [current, playback, history]
        exact follows.running
      collected := by
        rw [collected, history]
        exact follows.collected
      ordered := by
        rw [current, collected, history]
        exact ordered.trans follows.ordered
      found := fun entry member =>
        (found entry member).elim (follows.found entry) id
      kept := kept }

/-- A call of the backend that plays nothing. -/
theorem callBackend {call : BackendCall} (silent : call.played = none)
    (follows : Follows mediaStreamResolvers first later service) :
    Follows mediaStreamResolvers first later
      (service.callBackend call) := by
  have played : (service.callBackend call).played = service.played := by
    rw [played_callBackend, silent]
    exact List.append_nil _
  refine follows.frame rfl rfl ?_ ?_ follows.kept
  · rw [played]
    exact List.Sublist.refl _
  · rw [played]
    exact fun entry => Or.inl

theorem sequential
    (follows : Follows mediaStreamResolvers first later service)
    (present : service.current.isSome) :
    service.playback.queue.Sequential := by
  obtain ⟨entry, isCurrent⟩ := Option.isSome_iff_exists.mp present
  exact (follows.running entry isCurrent).1.sequential

theorem peekNext
    (follows : Follows mediaStreamResolvers first later service)
    (distinct : (first :: later).Nodup) (present : service.current.isSome) :
    Follows mediaStreamResolvers first later
        { service with
          playback := service.playback.step (.peekNext 1 true false) } ∧
      (service.playback.step (.peekNext 1 true false)).queue.entry =
        service.current := by
  have call : QueueCall (.peekNext 1 true false) := trivial
  refine ⟨follows.queueCall distinct present call, ?_⟩
  have loads := (follows.sequential present).peekNext_loads 1 true false
  rw [Queue.Playback.step, loads.frame]
  rfl

theorem skipEntry
    (follows : Follows mediaStreamResolvers first later service)
    (distinct : (first :: later).Nodup) (present : service.current.isSome) :
    Follows mediaStreamResolvers first later service.skipEntry := by
  obtain ⟨peeked, same⟩ := follows.peekNext distinct present
  unfold MediaStreamService.skipEntry
  dsimp only
  split
  · have still : (MediaStreamService.current
        { service with
          playback := service.playback.step (.peekNext 1 true false) }
            ).isSome := by
      rw [MediaStreamService.current, same]
      exact present
    have call : QueueCall (.next true false) := trivial
    exact peeked.queueCall distinct still call
  · exact peeked.callBackend rfl

/-- The entry that was looked up is played. -/
theorem answered
    (follows : Follows mediaStreamResolvers first later service)
    {entry : QueueEntry} (looking : service.collecting = some entry)
    (isPlayable : playable mediaStreamResolvers entry = true) :
    Follows mediaStreamResolvers first later
      (MediaStreamService.callBackend
        { service with
          mediaStream :=
            Function.update service.mediaStream entry
              (ensureMediaStream mediaStreamResolvers entry)
          collecting := none }
        (.playItem entry)) := by
  refine follows.frame rfl rfl ?_ ?_ (follows.kept_update entry)
  · rw [played_callBackend, looking]
    change (service.played ++ [entry] ++ []).Sublist _
    rw [List.append_nil]
    exact List.Sublist.refl _
  · intro other member
    rw [played_callBackend] at member
    rcases List.mem_append.mp member with before | here
    · exact Or.inl before
    · cases List.mem_singleton.mp here
      exact Or.inr isPlayable

/-- The entry that was looked up has no stream. -/
theorem freed
    (follows : Follows mediaStreamResolvers first later service)
    (entry : QueueEntry) :
    Follows mediaStreamResolvers first later
      { service with
        mediaStream :=
          Function.update service.mediaStream entry
            (ensureMediaStream mediaStreamResolvers entry)
        collecting := none } := by
  refine follows.frame rfl rfl ?_ (fun other => Or.inl)
    (follows.kept_update entry)
  change (service.played ++ []).Sublist _
  rw [List.append_nil]
  exact List.sublist_append_left _ _

theorem resolved
    (follows : Follows mediaStreamResolvers first later service)
    (distinct : (first :: later).Nodup) (present : service.current.isSome) :
    Follows mediaStreamResolvers first later
      (service.resolved mediaStreamResolvers) := by
  unfold MediaStreamService.resolved
  split
  · exact follows
  · rename_i entry looking
    apply Follows.collect
    split
    · rename_i isPlayable
      exact follows.answered looking isPlayable
    · exact (follows.freed entry).skipEntry distinct present

theorem preloadNextEntry
    (follows : Follows mediaStreamResolvers first later service)
    (distinct : (first :: later).Nodup) (present : service.current.isSome) :
    Follows mediaStreamResolvers first later service.preloadNextEntry := by
  obtain ⟨peeked, -⟩ := follows.peekNext distinct present
  unfold MediaStreamService.preloadNextEntry
  dsimp only
  split
  · exact peeked
  · split
    · exact peeked.callBackend rfl
    · exact peeked.frame rfl rfl (List.Sublist.refl _)
        (fun other => Or.inl) peeked.kept

theorem preloaded
    (follows : Follows mediaStreamResolvers first later service)
    (position : Nat) :
    Follows mediaStreamResolvers first later
      (service.preloaded mediaStreamResolvers position) := by
  unfold MediaStreamService.preloaded
  split
  · exact follows
  · rename_i nextItem _
    have known :
        Follows mediaStreamResolvers first later
          { service with
            mediaStream :=
              Function.update service.mediaStream nextItem
                (ensureMediaStream mediaStreamResolvers nextItem)
            preloading := service.preloading.eraseIdx position } :=
      follows.frame rfl rfl (List.Sublist.refl _) (fun other => Or.inl)
        (follows.kept_update nextItem)
    dsimp only
    split
    · exact known.callBackend rfl
    · exact known

theorem step (follows : Follows mediaStreamResolvers first later service)
    (distinct : (first :: later).Nodup) {event : Event}
    (running : Running service event) :
    Follows mediaStreamResolvers first later
      (step mediaStreamResolvers service event) := by
  obtain ⟨present, calls⟩ := running
  cases event with
  | call operation =>
      exact (follows.queueCall distinct present (calls operation rfl)).collect
  | resolved =>
      exact follows.resolved distinct present
  | preload =>
      exact follows.preloadNextEntry distinct present
  | preloaded position =>
      exact follows.preloaded position

end Follows

end Order

end MediaStreamService

end JellyfinTv.Playback
