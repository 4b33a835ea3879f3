import JellyfinTv.Playback.TimedBlocks
import Mathlib.Data.List.Perm.Basic

/-!
# Messages of timed events

Messages are created when an event is registered and again when the duration
changes, and cancelled when an event is dropped or created again.  Whatever
the order of the two kinds of update, the pending messages are those of the
registered events at the latest duration.
-/

namespace JellyfinTv.Playback.TimedEventState

open JellyfinTv.Library

/-- A position of an event and where it lies in media of the duration. -/
inductive ResolvesTo (duration : Option Int) : Int → Int → Prop where
  | fromStart {position : Int} (nonneg : 0 ≤ position) :
      ResolvesTo duration position position
  | fromEnd {position length : Int} (known : duration = some length)
      (negative : position < 0) (inside : 0 ≤ length + position) :
      ResolvesTo duration position (length + position)

/-- A message for an event at a moment.  Its position is the moment in whole
milliseconds, but 1 for the first of them: the player never delivers messages
at position 0. -/
structure Announces (type : MessageType) (timedEvent : TimedEvent)
    (moment : Int) (message : PlayerMessage) : Prop where
  type : message.type = type
  position : ∃ count : Nat,
    (count : Int) * 1000000 ≤ moment ∧
      moment < ((count : Int) + 1) * 1000000 ∧
        message.position = if count = 0 then 1 else (count : Int)
  timedEvent : message.payload.timedEvent = timedEvent
  moment : message.payload.position = moment

/-- The messages of the listed events.  A block has both of its messages or
none. -/
inductive Due (duration : Option Int) (timedEvents : List TimedEvent)
    (message : PlayerMessage) : Prop where
  | instant {moment : TimedEvent.Instant} {position : Int}
      (listed : .instant moment ∈ timedEvents)
      (resolved : ResolvesTo duration moment.position position)
      (announces : Announces .activate (.instant moment) position message)
  | blockStart {block : TimedEvent.Block} {start blockEnd : Int}
      (listed : .block block ∈ timedEvents)
      (starts : ResolvesTo duration block.start start)
      (ends : ResolvesTo duration block.end blockEnd)
      (announces : Announces .activate (.block block) start message)
  | blockEnd {block : TimedEvent.Block} {start blockEnd : Int}
      (listed : .block block ∈ timedEvents)
      (starts : ResolvesTo duration block.start start)
      (ends : ResolvesTo duration block.end blockEnd)
      (announces : Announces .deactivate (.block block) blockEnd message)

/-- The calls of the backend.  The list of events comes with the duration of
the player at that time. -/
inductive Update where
  | setTimedEvents (duration : Option Nat) (timedEvents : List TimedEvent)
  | onDurationChange (duration : Option Int)
  deriving DecidableEq, Repr

/-- The state with the latest duration and the latest list. -/
structure Bookkeeping where
  state : State
  latestDuration : Option Int
  latestEvents : List TimedEvent
  deriving DecidableEq, Repr

namespace Bookkeeping

def start : Bookkeeping where
  state :=
    { exoPlayer := { duration := none, position := 0, pendingMessages := [] }
      currentEvents := []
      lastKnownDuration := none
      calls := [] }
  latestDuration := none
  latestEvents := []

/-- The player with another duration. -/
def atDuration (state : State) (duration : Option Nat) : State :=
  { state with exoPlayer := { state.exoPlayer with duration := duration } }

def update (bookkeeping : Bookkeeping) : Update → Bookkeeping
  | .setTimedEvents duration timedEvents =>
      { bookkeeping with
        state :=
          setTimedEvents timedEvents (atDuration bookkeeping.state duration)
        latestEvents := timedEvents }
  | .onDurationChange duration =>
      { bookkeeping with
        state := onDurationChange duration bookkeeping.state
        latestDuration := duration }

/-- A list of events sees the latest duration. -/
def SeesLatest (bookkeeping : Bookkeeping) : Update → Prop
  | .setTimedEvents duration _ =>
      (duration.map fun duration => milliseconds duration) =
        bookkeeping.latestDuration
  | .onDurationChange _ => True

instance (bookkeeping : Bookkeeping) (update : Update) :
    Decidable (bookkeeping.SeesLatest update) :=
  match update with
  | .setTimedEvents _ _ => inferInstanceAs (Decidable (_ = _))
  | .onDurationChange _ => inferInstanceAs (Decidable True)

/-- The events of the latest list are registered once each, and exactly their
messages are pending, once each. -/
structure Exact (bookkeeping : Bookkeeping) : Prop where
  registered :
    ∀ timedEvent,
      timedEvent ∈ bookkeeping.state.currentEvents.map Prod.fst ↔
        timedEvent ∈ bookkeeping.latestEvents
  registeredOnce : (bookkeeping.state.currentEvents.map Prod.fst).Nodup
  pending :
    ∀ message,
      message ∈ bookkeeping.state.exoPlayer.pendingMessages ↔
        Due bookkeeping.latestDuration bookkeeping.latestEvents message
  pendingOnce : bookkeeping.state.exoPlayer.pendingMessages.Nodup

end Bookkeeping

/-- Each registered event has its messages for the duration, and no others are
pending. -/
structure Tracked (duration : Option Int) (state : State) : Prop where
  distinct : (state.currentEvents.map Prod.fst).Nodup
  created :
    ∀ entry ∈ state.currentEvents,
      entry.2 = createMessages entry.1 duration
  pending :
    state.exoPlayer.pendingMessages.Perm
      (state.currentEvents.flatMap Prod.snd)

/-! ## The messages of an event -/

theorem withMediaDuration_of_nonneg {position : Int}
    (nonneg : ¬position < 0) (duration : Option Int) :
    withMediaDuration position duration = some position := by
  unfold withMediaDuration
  exact if_neg nonneg

theorem withMediaDuration_of_negative {position : Int}
    (negative : position < 0) (duration : Option Int) :
    withMediaDuration position duration =
      duration.bind fun length =>
        if length + position ≥ 0 then some (length + position) else none := by
  unfold withMediaDuration
  rw [if_pos negative]
  cases duration with
  | none =>
      rfl
  | some length =>
      rfl

theorem withMediaDuration_eq_some_iff {position target : Int}
    {duration : Option Int} :
    withMediaDuration position duration = some target ↔
      ResolvesTo duration position target := by
  constructor
  · intro resolved
    by_cases negative : position < 0
    · rw [withMediaDuration_of_negative negative,
        Option.bind_eq_some_iff] at resolved
      obtain ⟨length, known, found⟩ := resolved
      by_cases inside : length + position ≥ 0
      · rw [if_pos inside, Option.some.injEq] at found
        rw [← found]
        exact .fromEnd known negative inside
      · rw [if_neg inside] at found
        cases found
    · rw [withMediaDuration_of_nonneg negative, Option.some.injEq]
        at resolved
      rw [← resolved]
      exact .fromStart (not_lt.mp negative)
  · intro resolves
    cases resolves with
    | fromStart nonneg =>
        exact withMediaDuration_of_nonneg (not_lt.mpr nonneg) duration
    | fromEnd known negative inside =>
        rw [withMediaDuration_of_negative negative, known]
        exact if_pos inside

theorem ResolvesTo.nonneg {position target : Int} {duration : Option Int}
    (resolves : ResolvesTo duration position target) : 0 ≤ target := by
  cases resolves with
  | fromStart nonneg =>
      exact nonneg
  | fromEnd known negative inside =>
      exact inside

/-- One message announces an event at a moment. -/
theorem announces_iff {type : MessageType} {timedEvent : TimedEvent}
    {moment : Int} {message : PlayerMessage} (nonneg : 0 ≤ moment) :
    Announces type timedEvent moment message ↔
      message = createMessage type moment timedEvent := by
  have whole : moment.tdiv 1000000 = moment / 1000000 :=
    Int.tdiv_eq_ediv_of_nonneg nonneg
  constructor
  · rintro ⟨sameType, ⟨count, notBefore, notAfter, position⟩, sameEvent,
      sameMoment⟩
    have place :
        message.position = max (inWholeMilliseconds moment) 1 := by
      unfold inWholeMilliseconds
      rw [position, whole]
      split <;> omega
    rcases message with ⟨messageType, messagePosition, payloadEvent, sentAt⟩
    dsimp only at sameType sameEvent sameMoment place
    rw [sameType, sameEvent, sameMoment, place]
    rfl
  · rintro rfl
    refine ⟨rfl, ⟨(moment / 1000000).toNat, ?_, ?_, ?_⟩, rfl, rfl⟩
    · omega
    · omega
    · simp only [createMessage, inWholeMilliseconds, whole]
      split <;> omega

theorem due_iff {duration : Option Int} {timedEvents : List TimedEvent}
    {message : PlayerMessage} :
    Due duration timedEvents message ↔
      ∃ timedEvent ∈ timedEvents,
        message ∈ createMessages timedEvent duration := by
  constructor
  · intro due
    cases due with
    | instant listed resolved announces =>
        refine ⟨_, listed, ?_⟩
        rw [(announces_iff resolved.nonneg).mp announces]
        simp [createMessages, withMediaDuration_eq_some_iff.mpr resolved]
    | blockStart listed starts ends announces =>
        refine ⟨_, listed, ?_⟩
        rw [(announces_iff starts.nonneg).mp announces]
        simp [createMessages, withMediaDuration_eq_some_iff.mpr starts,
          withMediaDuration_eq_some_iff.mpr ends]
    | blockEnd listed starts ends announces =>
        refine ⟨_, listed, ?_⟩
        rw [(announces_iff ends.nonneg).mp announces]
        simp [createMessages, withMediaDuration_eq_some_iff.mpr starts,
          withMediaDuration_eq_some_iff.mpr ends]
  · rintro ⟨timedEvent, listed, member⟩
    cases timedEvent with
    | instant moment =>
        cases found : withMediaDuration moment.position duration with
        | none =>
            simp [createMessages, found] at member
        | some position =>
            have resolved := withMediaDuration_eq_some_iff.mp found
            simp only [createMessages, found, List.mem_singleton] at member
            exact
              .instant listed resolved
                ((announces_iff resolved.nonneg).mpr member)
    | block block =>
        cases starts : withMediaDuration block.start duration with
        | none =>
            simp [createMessages, starts] at member
        | some start =>
            cases ends : withMediaDuration block.end duration with
            | none =>
                simp [createMessages, starts, ends] at member
            | some blockEnd =>
                have starting := withMediaDuration_eq_some_iff.mp starts
                have ending := withMediaDuration_eq_some_iff.mp ends
                simp only [createMessages, starts, ends, List.mem_cons,
                  List.not_mem_nil, or_false] at member
                rcases member with first | second
                · exact
                    .blockStart listed starting ending
                      ((announces_iff starting.nonneg).mpr first)
                · exact
                    .blockEnd listed starting ending
                      ((announces_iff ending.nonneg).mpr second)

theorem createMessages_nodup (timedEvent : TimedEvent)
    (duration : Option Int) : (createMessages timedEvent duration).Nodup := by
  unfold createMessages
  cases timedEvent with
  | instant moment =>
      dsimp only
      split <;> simp
  | block block =>
      dsimp only
      split
      · simp [createMessage]
      · simp

/-- The messages of an event that is not relative to the end do not depend on
the duration. -/
theorem createMessages_of_absolute {timedEvent : TimedEvent}
    (absolute : ¬isRelative timedEvent) (first second : Option Int) :
    createMessages timedEvent first = createMessages timedEvent second := by
  cases timedEvent with
  | instant moment =>
      simp only [isRelative, decide_eq_true_eq] at absolute
      simp [createMessages, withMediaDuration_of_nonneg absolute]
  | block block =>
      simp only [isRelative, Bool.or_eq_true, decide_eq_true_eq, not_or]
        at absolute
      simp [createMessages, withMediaDuration_of_nonneg absolute.1,
        withMediaDuration_of_nonneg absolute.2]

theorem cancel_pendingMessages (player : ExoPlayer)
    (messages : List PlayerMessage) :
    (messages.foldl ExoPlayer.cancel player).pendingMessages =
      player.pendingMessages.diff messages := by
  induction messages generalizing player with
  | nil =>
      rfl
  | cons message rest inductionHypothesis =>
      rw [List.foldl_cons, inductionHypothesis, List.diff_cons]
      rfl

/-- Cancelling messages that are pending among others leaves the others. -/
theorem diff_perm {pending cancelled others : List PlayerMessage}
    (split : pending.Perm (cancelled ++ others)) :
    (pending.diff cancelled).Perm others := by
  refine (split.diff_right cancelled).trans ?_
  clear split
  induction cancelled with
  | nil =>
      exact List.Perm.refl _
  | cons message rest inductionHypothesis =>
      rw [List.cons_append, List.diff_cons, List.erase_cons_head]
      exact inductionHypothesis

section Registration

variable {duration : Option Int} {state : State}

theorem Tracked.removeOthers (tracked : Tracked duration state)
    (timedEvents : List TimedEvent) :
    Tracked duration (removeOthers timedEvents state) := by
  have whole :=
    List.filter_append_perm (fun entry => decide (entry.1 ∉ timedEvents))
      state.currentEvents
  have split := tracked.pending.trans (whole.flatMap_right Prod.snd).symm
  rw [List.flatMap_append] at split
  refine ⟨?_, ?_, ?_⟩
  · exact tracked.distinct.sublist (List.filter_sublist.map Prod.fst)
  · intro entry member
    exact tracked.created entry (List.mem_of_mem_filter member)
  · have left := diff_perm split
    simpa [TimedEventState.removeOthers, cancel_pendingMessages] using left

theorem Tracked.addTimedEvent (tracked : Tracked duration state)
    (timedEvent : TimedEvent) :
    Tracked duration (addTimedEvent duration state timedEvent) := by
  by_cases known : timedEvent ∈ state.currentEvents.map Prod.fst
  · rw [addTimedEvent_of_known known]
    exact tracked
  · rw [addTimedEvent_of_new known]
    refine ⟨?_, ?_, ?_⟩
    · rw [List.map_append]
      apply tracked.distinct.append (List.nodup_singleton _)
      simpa using known
    · intro entry member
      rcases List.mem_append.mp member with earlier | here
      · exact tracked.created entry earlier
      · rw [List.mem_singleton.mp here]
    · rw [List.flatMap_append, List.flatMap_singleton]
      exact tracked.pending.append_right _

theorem mem_addTimedEvent (duration : Option Int) (state : State)
    (timedEvent other : TimedEvent) :
    other ∈ (addTimedEvent duration state timedEvent).currentEvents.map
        Prod.fst ↔
      other ∈ state.currentEvents.map Prod.fst ∨ other = timedEvent := by
  by_cases known : timedEvent ∈ state.currentEvents.map Prod.fst
  · rw [addTimedEvent_of_known known]
    refine ⟨Or.inl, ?_⟩
    intro either
    rcases either with member | rfl
    · exact member
    · exact known
  · rw [addTimedEvent_of_new known]
    simp

/-- Registering a list keeps the messages in order and adds its events. -/
theorem Tracked.addAll (tracked : Tracked duration state)
    (timedEvents : List TimedEvent) :
    Tracked duration
        (timedEvents.foldl (TimedEventState.addTimedEvent duration) state) ∧
      ∀ other,
        other ∈ (timedEvents.foldl (TimedEventState.addTimedEvent duration)
            state).currentEvents.map Prod.fst ↔
          other ∈ state.currentEvents.map Prod.fst ∨
            other ∈ timedEvents := by
  induction timedEvents generalizing state with
  | nil =>
      simpa using tracked
  | cons timedEvent rest inductionHypothesis =>
      obtain ⟨kept, members⟩ :=
        inductionHypothesis (tracked.addTimedEvent timedEvent)
      refine ⟨kept, ?_⟩
      intro other
      rw [List.foldl_cons, members, mem_addTimedEvent, List.mem_cons,
        or_assoc]

theorem Tracked.setTimedEvents
    (tracked : Tracked state.exoPlayer.mediaDuration state)
    (timedEvents : List TimedEvent) :
    Tracked state.exoPlayer.mediaDuration
        (setTimedEvents timedEvents state) ∧
      ∀ other,
        other ∈ (setTimedEvents timedEvents state).currentEvents.map
            Prod.fst ↔
          other ∈ timedEvents := by
  obtain ⟨kept, members⟩ :=
    (tracked.removeOthers timedEvents).addAll timedEvents
  refine ⟨kept, ?_⟩
  intro other
  refine (members other).trans ?_
  constructor
  · intro either
    rcases either with remaining | listed
    · obtain ⟨entry, member, rfl⟩ := List.mem_map.mp remaining
      simpa using (List.mem_filter.mp member).2
    · exact listed
  · exact Or.inr

end Registration

section Recreation

variable {before : Option Int} (after : Option Int)

/-- The entry with the messages that belong to the duration. -/
def refreshed (duration : Option Int)
    (entry : TimedEvent × List PlayerMessage) :
    TimedEvent × List PlayerMessage :=
  (entry.1, createMessages entry.1 duration)

theorem recreate_spec {player : ExoPlayer}
    {entry : TimedEvent × List PlayerMessage} {others : List PlayerMessage}
    (created : entry.2 = createMessages entry.1 before)
    (pending : player.pendingMessages.Perm (entry.2 ++ others)) :
    (recreate after player entry).2 = refreshed after entry ∧
      (recreate after player entry).1.pendingMessages.Perm
        (others ++ createMessages entry.1 after) := by
  by_cases relative : isRelative entry.1
  · rw [recreate, if_pos relative]
    refine ⟨rfl, ?_⟩
    simp only [ExoPlayer.send, cancel_pendingMessages]
    exact (diff_perm pending).append_right _
  · have same := createMessages_of_absolute relative before after
    rw [recreate, if_neg relative]
    refine ⟨?_, ?_⟩
    · rw [refreshed, ← same, ← created]
    · rw [← same, ← created]
      exact pending.trans List.perm_append_comm

/-- The messages of the entries that are still to come are pending beside
those of the others. -/
theorem recreateAll_spec (entries : List (TimedEvent × List PlayerMessage))
    {player : ExoPlayer} {others : List PlayerMessage}
    (created :
      ∀ entry ∈ entries, entry.2 = createMessages entry.1 before)
    (pending :
      player.pendingMessages.Perm (others ++ entries.flatMap Prod.snd)) :
    (recreateAll after player entries).2 = entries.map (refreshed after) ∧
      (recreateAll after player entries).1.pendingMessages.Perm
        (others ++ (entries.map (refreshed after)).flatMap Prod.snd) := by
  induction entries generalizing player others with
  | nil =>
      exact ⟨rfl, pending⟩
  | cons entry rest inductionHypothesis =>
      rw [List.forall_mem_cons] at created
      have first :
          player.pendingMessages.Perm
            (entry.2 ++ (others ++ rest.flatMap Prod.snd)) := by
        refine pending.trans ?_
        rw [List.flatMap_cons, ← List.append_assoc, ← List.append_assoc]
        exact List.perm_append_comm.append_right _
      obtain ⟨entryAfter, pendingAfter⟩ :=
        recreate_spec after created.1 first
      have reordered :
          (others ++ rest.flatMap Prod.snd ++
              createMessages entry.1 after).Perm
            (others ++ createMessages entry.1 after ++
              rest.flatMap Prod.snd) := by
        rw [List.append_assoc, List.append_assoc]
        exact List.perm_append_comm.append_left _
      obtain ⟨restAfter, allAfter⟩ :=
        inductionHypothesis created.2 (pendingAfter.trans reordered)
      refine ⟨?_, ?_⟩
      · rw [recreateAll]
        simp only [restAfter, entryAfter, List.map_cons]
      · rw [recreateAll]
        simpa [refreshed] using allAfter

theorem Tracked.onDurationChange {state : State}
    (tracked : Tracked before state) (duration : Option Int) :
    Tracked duration (onDurationChange duration state) ∧
      (onDurationChange duration state).currentEvents.map Prod.fst =
        state.currentEvents.map Prod.fst := by
  have behindNone :
      state.exoPlayer.pendingMessages.Perm
        ([] ++ state.currentEvents.flatMap Prod.snd) :=
    tracked.pending
  obtain ⟨entries, pending⟩ :=
    recreateAll_spec duration state.currentEvents tracked.created
      behindNone
  have names :
      (state.currentEvents.map (refreshed duration)).map Prod.fst =
        state.currentEvents.map Prod.fst := by
    rw [List.map_map]
    rfl
  simp only [TimedEventState.onDurationChange]
  refine ⟨⟨?_, ?_, ?_⟩, ?_⟩
  · simp only [entries, names]
    exact tracked.distinct
  · simp only [entries]
    intro entry member
    obtain ⟨original, _, rfl⟩ := List.mem_map.mp member
    rfl
  · simp only [entries]
    exact pending
  · simp only [entries, names]

end Recreation

namespace Bookkeeping

/-- The messages belong to the latest duration and the events to the latest
list. -/
structure Kept (bookkeeping : Bookkeeping) : Prop where
  tracked : Tracked bookkeeping.latestDuration bookkeeping.state
  listed :
    ∀ timedEvent,
      timedEvent ∈ bookkeeping.state.currentEvents.map Prod.fst ↔
        timedEvent ∈ bookkeeping.latestEvents

theorem kept_start : start.Kept where
  tracked := ⟨List.nodup_nil, by simp [start], List.Perm.refl _⟩
  listed := by simp [start]

theorem Kept.update {bookkeeping : Bookkeeping} (kept : bookkeeping.Kept)
    {change : Update} (sees : bookkeeping.SeesLatest change) :
    (bookkeeping.update change).Kept := by
  cases change with
  | setTimedEvents duration timedEvents =>
      have known :
          (atDuration bookkeeping.state duration).exoPlayer.mediaDuration =
            bookkeeping.latestDuration :=
        sees
      have tracked :
          Tracked
            (atDuration bookkeeping.state duration).exoPlayer.mediaDuration
            (atDuration bookkeeping.state duration) := by
        rw [known]
        exact
          ⟨kept.tracked.distinct, kept.tracked.created, kept.tracked.pending⟩
      obtain ⟨registered, listed⟩ := tracked.setTimedEvents timedEvents
      rw [known] at registered
      exact ⟨registered, listed⟩
  | onDurationChange duration =>
      obtain ⟨recreated, names⟩ := kept.tracked.onDurationChange duration
      refine ⟨recreated, ?_⟩
      intro timedEvent
      simp only [Bookkeeping.update, names]
      exact kept.listed timedEvent

theorem Kept.exact {bookkeeping : Bookkeeping} (kept : bookkeeping.Kept) :
    bookkeeping.Exact where
  registered := kept.listed
  registeredOnce := kept.tracked.distinct
  pending := by
    intro message
    rw [kept.tracked.pending.mem_iff, List.mem_flatMap, due_iff]
    constructor
    · rintro ⟨entry, member, sent⟩
      rw [kept.tracked.created entry member] at sent
      exact
        ⟨entry.1, (kept.listed _).mp (List.mem_map_of_mem member), sent⟩
    · rintro ⟨timedEvent, listed, sent⟩
      obtain ⟨entry, member, rfl⟩ :=
        List.mem_map.mp ((kept.listed timedEvent).mpr listed)
      exact ⟨entry, member, kept.tracked.created entry member ▸ sent⟩
  pendingOnce := by
    rw [kept.tracked.pending.nodup_iff, List.nodup_flatMap]
    constructor
    · intro entry member
      rw [kept.tracked.created entry member]
      exact createMessages_nodup _ _
    · have distinct := List.pairwise_map.mp kept.tracked.distinct
      refine distinct.imp_of_mem ?_
      intro first second firstMember secondMember different
      simp only [Function.onFun, kept.tracked.created first firstMember,
        kept.tracked.created second secondMember]
      intro message sent sentAgain
      have owner := timedEvent_of_mem_createMessages sent
      have other := timedEvent_of_mem_createMessages sentAgain
      exact different (owner.symm.trans other)

end Bookkeeping

/-- The bookkeeping is exact after any updates in which a list of events sees
the latest duration. -/
theorem bookkeeping_exact (updates : List Update)
    (sees :
      Admitted Bookkeeping.update Bookkeeping.SeesLatest Bookkeeping.start
        updates) :
    (run Bookkeeping.update Bookkeeping.start updates).Exact := by
  have kept : (run Bookkeeping.update Bookkeeping.start updates).Kept := by
    refine run_invariant ?_ Bookkeeping.kept_start sees
    intro bookkeeping change kept seen
    exact kept.update seen
  exact kept.exact

/-- A credits block that ends with the media. -/
def credits : TimedEvent.Block where
  key := none
  start := milliseconds 10
  «end» := -1
  onActivate := none
  onDeactivate := none

theorem credits_exact_after_late_duration :
    (run Bookkeeping.update Bookkeeping.start
      [.setTimedEvents none [.block credits, .block credits],
        .onDurationChange (some (milliseconds 20)),
        .setTimedEvents (some 20) [.block credits]]).Exact :=
  bookkeeping_exact _ ⟨rfl, trivial, rfl, trivial⟩

end JellyfinTv.Playback.TimedEventState
