import JellyfinTv.Library.Chains
import JellyfinTv.Playback.TimedEvents
import Mathlib.Data.List.Nodup
import Mathlib.Tactic.SplitIfs

/-!
# Calls of timed blocks

Playback calls a block through its two messages and a seek calls it by
comparing both positions with the closed interval from its start to its end.
No flag records whether a block is active, so the calls alternate only as long
as the messages and the interval agree about the positions at which playback
starts and ends.
-/

namespace JellyfinTv.Playback.TimedEventState

open JellyfinTv.Library

def InBlock (duration : Int) (block : TimedEvent.Block)
    (position : Int) : Prop :=
  match withMediaDuration block.start (some duration),
    withMediaDuration block.end (some duration) with
  | some eventStart, some eventEnd =>
      eventStart ≤ position ∧ position ≤ eventEnd
  | _, _ => False

def messagePosition (position : Int) : Int :=
  max (inWholeMilliseconds position) 1

/-- The position is not before the activation message and before the
deactivation message. -/
def BetweenMessages (duration : Int) (block : TimedEvent.Block)
    (position : Nat) : Prop :=
  match withMediaDuration block.start (some duration),
    withMediaDuration block.end (some duration) with
  | some eventStart, some eventEnd =>
      messagePosition eventStart ≤ position ∧
        position < messagePosition eventEnd
  | _, _ => False

/-- The interval and the messages of the block agree about the position. -/
def Clear (duration : Int) (block : TimedEvent.Block)
    (position : Nat) : Prop :=
  InBlock duration block (milliseconds position) ↔
    BetweenMessages duration block position

/-- The block lies after the start of the media and before its own end. -/
def Proper (duration : Int) (block : TimedEvent.Block) : Prop :=
  ∃ eventStart eventEnd,
    withMediaDuration block.start (some duration) = some eventStart ∧
      withMediaDuration block.end (some duration) = some eventEnd ∧
      0 < eventStart ∧ eventStart < eventEnd

/-- The calls of one block, in their order. -/
def callsOf (block : TimedEvent.Block) (state : State) : List MessageType :=
  (state.calls.filter fun call => call.timedEvent = .block block).map
    Call.type

/-- The calls of the block alternate, starting with `onActivate`, and the last
of them says whether the position is in the block. -/
def Followed (duration : Int) (block : TimedEvent.Block)
    (state : State) : Prop :=
  (MessageType.deactivate :: callsOf block state).IsChain (· ≠ ·) ∧
    ((callsOf block state).getLastD .deactivate = .activate ↔
      InBlock duration block (milliseconds state.exoPlayer.position))

/-- Playback neither starts nor ends where the interval and the messages of a
block disagree. -/
def ClearPlayback (duration : Int) (timedEvents : List TimedEvent)
    (state : State) : Event → Prop
  | .playback length =>
      length = 0 ∨
        ∀ block, TimedEvent.block block ∈ timedEvents →
          Clear duration block state.exoPlayer.position ∧
            Clear duration block (state.exoPlayer.position + length)
  | .seek _ => True
  | .timelineChange => True

theorem messagePosition_eq {position : Int} (positive : 0 < position) :
    messagePosition position = max (position / 1000000) 1 := by
  rw [messagePosition, inWholeMilliseconds,
    Int.tdiv_eq_ediv_of_nonneg positive.le]

/-- For a block between whole milliseconds the disagreement is about its end
alone. -/
theorem clear_iff {duration : Int} {block : TimedEvent.Block}
    {first last position : Nat} (positive : 0 < first) (proper : first < last)
    (starts : withMediaDuration block.start (some duration) =
      some (milliseconds first))
    (ends : withMediaDuration block.end (some duration) =
      some (milliseconds last)) :
    Clear duration block position ↔ position ≠ last := by
  have firstMessage := messagePosition_eq
    (show 0 < milliseconds first by simp only [milliseconds]; omega)
  have lastMessage := messagePosition_eq
    (show 0 < milliseconds last by simp only [milliseconds]; omega)
  simp only [Clear, InBlock, BetweenMessages, starts, ends]
  rw [firstMessage, lastMessage]
  simp only [milliseconds]
  omega

/-- The calls that playback from one position to another makes to a block. -/
def playedCalls (eventStart eventEnd : Int) (origin target : Nat) :
    List MessageType :=
  (if origin < messagePosition eventStart ∧
      messagePosition eventStart ≤ target then [.activate] else []) ++
    (if origin < messagePosition eventEnd ∧
      messagePosition eventEnd ≤ target then [.deactivate] else [])

/-- The calls that a seek from one position to another makes to a block. -/
def soughtCalls (eventStart eventEnd origin target : Int) :
    List MessageType :=
  if eventStart ≤ origin ∧ origin ≤ eventEnd then
    if eventStart ≤ target ∧ target ≤ eventEnd then [] else [.deactivate]
  else
    if eventStart ≤ target ∧ target ≤ eventEnd then [.activate] else []

/-- Playback keeps the calls of a block in step with the position exactly if
it starts and ends where the interval and the messages agree. -/
theorem playedCalls_follow_iff {eventStart eventEnd : Int}
    {origin target : Nat} {current : MessageType}
    (positive : 0 < eventStart) (proper : eventStart < eventEnd)
    (forward : origin < target)
    (inStep : current = .activate ↔
      eventStart ≤ milliseconds origin ∧ milliseconds origin ≤ eventEnd) :
    ((current :: playedCalls eventStart eventEnd origin target).IsChain
          (· ≠ ·) ∧
        ((playedCalls eventStart eventEnd origin target).getLastD current =
            .activate ↔
          eventStart ≤ milliseconds target ∧
            milliseconds target ≤ eventEnd)) ↔
      ((eventStart ≤ milliseconds origin ∧ milliseconds origin ≤ eventEnd ↔
          messagePosition eventStart ≤ origin ∧
            origin < messagePosition eventEnd) ∧
        (eventStart ≤ milliseconds target ∧ milliseconds target ≤ eventEnd ↔
          messagePosition eventStart ≤ target ∧
            target < messagePosition eventEnd)) := by
  rw [playedCalls, messagePosition_eq positive,
    messagePosition_eq (positive.trans proper)]
  simp only [milliseconds] at inStep ⊢
  cases current <;> split_ifs <;> simp at inStep ⊢ <;> omega

theorem soughtCalls_follow {eventStart eventEnd origin : Int}
    {current : MessageType} (target : Int)
    (inStep : current = .activate ↔
      eventStart ≤ origin ∧ origin ≤ eventEnd) :
    (current :: soughtCalls eventStart eventEnd origin target).IsChain
        (· ≠ ·) ∧
      ((soughtCalls eventStart eventEnd origin target).getLastD current =
          .activate ↔
        eventStart ≤ target ∧ target ≤ eventEnd) := by
  rw [soughtCalls]
  cases current <;> split_ifs <;> simp_all

/-! ## Registered events -/

/-- A function that yields nothing for the items with another key yields what
it yields for the one item with this key. -/
theorem flatMap_eq_of_key {Item Key Result : Type*} {key : Item → Key}
    {result : Item → List Result} {items : List Item} {item : Item}
    (distinct : (items.map key).Nodup) (member : item ∈ items)
    (others : ∀ other ∈ items, key other ≠ key item → result other = []) :
    items.flatMap result = result item := by
  induction items with
  | nil =>
      exact absurd member List.not_mem_nil
  | cons head rest inductionHypothesis =>
      rw [List.map_cons, List.nodup_cons] at distinct
      rw [List.flatMap_cons]
      rcases List.mem_cons.mp member with rfl | later
      · have nothing : rest.flatMap result = [] := by
          apply List.flatMap_eq_nil_iff.mpr
          intro other otherMember
          apply others other (List.mem_cons_of_mem _ otherMember)
          intro same
          exact distinct.1 (same ▸ List.mem_map_of_mem otherMember)
        rw [nothing, List.append_nil]
      · have different : key head ≠ key item := by
          intro same
          exact distinct.1 (same ▸ List.mem_map_of_mem later)
        rw [others head List.mem_cons_self different, List.nil_append]
        apply inductionHypothesis distinct.2 later
        intro other otherMember
        exact others other (List.mem_cons_of_mem _ otherMember)

theorem addTimedEvent_of_known {timedEvent : TimedEvent} {state : State}
    (known : timedEvent ∈ state.currentEvents.map Prod.fst)
    (duration : Option Int) :
    addTimedEvent duration state timedEvent = state := by
  obtain ⟨entry, entryMember, rfl⟩ := List.mem_map.mp known
  exact if_pos (List.any_eq_true.mpr ⟨entry, entryMember, by simp⟩)

theorem addTimedEvent_of_new {timedEvent : TimedEvent} {state : State}
    (new : timedEvent ∉ state.currentEvents.map Prod.fst)
    (duration : Option Int) :
    addTimedEvent duration state timedEvent =
      { state with
        exoPlayer :=
          state.exoPlayer.send (createMessages timedEvent duration)
        currentEvents :=
          state.currentEvents ++
            [(timedEvent, createMessages timedEvent duration)] } := by
  refine if_neg ?_
  intro found
  obtain ⟨entry, entryMember, same⟩ := List.any_eq_true.mp found
  exact new (of_decide_eq_true same ▸ List.mem_map_of_mem entryMember)

/-- The listed events are registered once each, with the messages that belong
to the duration, and no other message is pending. -/
structure Registered (duration : Nat) (timedEvents : List TimedEvent)
    (state : State) : Prop where
  known : state.exoPlayer.duration = some duration
  lastKnown : state.lastKnownDuration = some (milliseconds duration)
  distinct : (state.currentEvents.map Prod.fst).Nodup
  listed :
    ∀ timedEvent,
      timedEvent ∈ state.currentEvents.map Prod.fst ↔
        timedEvent ∈ timedEvents
  created :
    ∀ entry ∈ state.currentEvents,
      entry.2 = createMessages entry.1 (some (milliseconds duration))
  pending :
    state.exoPlayer.pendingMessages = state.currentEvents.flatMap Prod.snd

theorem Registered.addTimedEvent {duration : Nat}
    {timedEvents : List TimedEvent} {state : State}
    (registered : Registered duration timedEvents state)
    (timedEvent : TimedEvent) :
    Registered duration (timedEvents ++ [timedEvent])
      (addTimedEvent (some (milliseconds duration)) state timedEvent) := by
  have current := registered.listed timedEvent
  by_cases member : timedEvent ∈ state.currentEvents.map Prod.fst
  · rw [addTimedEvent_of_known member]
    refine { registered with listed := ?_ }
    intro other
    rw [registered.listed other, List.mem_append, List.mem_singleton]
    constructor
    · exact Or.inl
    · intro either
      rcases either with listed | rfl
      · exact listed
      · exact current.mp member
  · rw [addTimedEvent_of_new member]
    refine
      { known := registered.known
        lastKnown := registered.lastKnown
        distinct := ?_
        listed := ?_
        created := ?_
        pending := ?_ }
    · rw [List.map_append]
      apply registered.distinct.append (List.nodup_singleton _)
      simpa using member
    · intro other
      rw [List.map_append, List.mem_append, List.mem_append,
        registered.listed other]
      simp
    · intro entry entryMember
      rcases List.mem_append.mp entryMember with earlier | here
      · exact registered.created entry earlier
      · rw [List.mem_singleton.mp here]
    · simp [ExoPlayer.send, registered.pending]

theorem registered_setTimedEvents (duration : Nat)
    (timedEvents : List TimedEvent) :
    Registered duration timedEvents
      (setTimedEvents timedEvents (State.opened duration)) := by
  have opened :
      Registered duration [] (removeOthers timedEvents
        (State.opened duration)) := by
    constructor <;>
      simp [State.opened, onTimelineChanged, onDurationChange, recreateAll,
        removeOthers, ExoPlayer.mediaDuration]
  have known :
      (State.opened duration).exoPlayer.mediaDuration =
        some (milliseconds duration) := by
    simp [State.opened, onTimelineChanged, onDurationChange, recreateAll,
      ExoPlayer.mediaDuration]
  rw [setTimedEvents, known]
  suffices
      ∀ earlier state, Registered duration earlier state →
        Registered duration (earlier ++ timedEvents)
          (timedEvents.foldl
            (TimedEventState.addTimedEvent (some (milliseconds duration)))
            state) from
    this [] _ opened
  clear opened known
  induction timedEvents with
  | nil =>
      intro earlier state registered
      simpa using registered
  | cons timedEvent rest inductionHypothesis =>
      intro earlier state registered
      have next := inductionHypothesis _ _ (registered.addTimedEvent timedEvent)
      simpa using next

theorem addTimedEvent_untouched (duration : Option Int) (state : State)
    (timedEvent : TimedEvent) :
    (addTimedEvent duration state timedEvent).calls = state.calls ∧
      (addTimedEvent duration state timedEvent).exoPlayer.position =
        state.exoPlayer.position := by
  unfold TimedEventState.addTimedEvent
  split_ifs <;> simp [ExoPlayer.send]

/-- Registering events neither moves the player nor calls an event. -/
theorem setTimedEvents_untouched (duration : Nat)
    (timedEvents : List TimedEvent) :
    (setTimedEvents timedEvents (State.opened duration)).calls = [] ∧
      (setTimedEvents timedEvents
        (State.opened duration)).exoPlayer.position = 0 := by
  have opened :
      (removeOthers timedEvents (State.opened duration)).calls = [] ∧
        (removeOthers timedEvents
          (State.opened duration)).exoPlayer.position = 0 := by
    simp [State.opened, onTimelineChanged, onDurationChange, recreateAll,
      removeOthers, ExoPlayer.mediaDuration]
  unfold setTimedEvents
  apply List.foldlRecOn
    (motive := fun state : State =>
      state.calls = [] ∧ state.exoPlayer.position = 0)
    timedEvents _ opened
  intro state untouched timedEvent _
  rw [(addTimedEvent_untouched _ state timedEvent).1,
    (addTimedEvent_untouched _ state timedEvent).2]
  exact untouched

def State.call (state : State) (calls : List Call) : State :=
  { state with calls := state.calls ++ calls }

theorem callsOf_call (block : TimedEvent.Block) (state : State)
    (calls : List Call) :
    callsOf block (state.call calls) =
      callsOf block state ++
        (calls.filter fun call => call.timedEvent = .block block).map
          Call.type := by
  simp [callsOf, State.call]

theorem Registered.call {duration : Nat} {timedEvents : List TimedEvent}
    {state : State} (registered : Registered duration timedEvents state)
    (position : Nat) (calls : List Call) :
    Registered duration timedEvents
      ((state.moveTo position).call calls) where
  known := registered.known
  lastKnown := registered.lastKnown
  distinct := registered.distinct
  listed := registered.listed
  created := registered.created
  pending := registered.pending

def PlayerMessage.call (message : PlayerMessage) : Call :=
  ⟨message.type, message.payload.timedEvent,
    .natural message.payload.position⟩

theorem foldl_handleMessage (state : State) (messages : List PlayerMessage) :
    messages.foldl handleMessage state =
      state.call (messages.map PlayerMessage.call) := by
  induction messages generalizing state with
  | nil =>
      simp [State.call]
  | cons message rest inductionHypothesis =>
      have handled :
          handleMessage state message = state.call [message.call] := by
        cases type : message.type <;>
          simp [handleMessage, type, onActivate, onDeactivate, State.call,
            PlayerMessage.call]
      rw [List.foldl_cons, handled, inductionHypothesis]
      simp [State.call]

theorem step_playback (state : State) (length : Nat) :
    step state (.playback length) =
      (state.moveTo (state.exoPlayer.position + length)).call
        ((state.exoPlayer.passedMessages
          (state.exoPlayer.position + length)).map PlayerMessage.call) := by
  rw [step, foldl_handleMessage]

def seekCalls (origin target duration : Int) : TimedEvent → List Call
  | .instant _ => []
  | .block block =>
      match withMediaDuration block.start (some duration),
        withMediaDuration block.end (some duration) with
      | some eventStart, some eventEnd =>
          (soughtCalls eventStart eventEnd origin target).map fun type =>
            ⟨type, .block block, .seek origin target⟩
      | _, _ => []

theorem onSeekBlock_eq (origin target duration : Int) (state : State)
    (block : TimedEvent.Block) :
    onSeekBlock origin target duration state block =
      state.call (seekCalls origin target duration (.block block)) := by
  unfold onSeekBlock
  cases starts : withMediaDuration block.start (some duration) with
  | none =>
      simp [seekCalls, starts, State.call]
  | some eventStart =>
      cases ends : withMediaDuration block.end (some duration) with
      | none =>
          simp [seekCalls, starts, ends, State.call]
      | some eventEnd =>
          by_cases wasInBlock : eventStart ≤ origin ∧ origin ≤ eventEnd
          all_goals
            by_cases isInBlock : eventStart ≤ target ∧ target ≤ eventEnd
            all_goals
              simp [seekCalls, soughtCalls, starts, ends, wasInBlock,
                isInBlock, State.call, onActivate, onDeactivate]

theorem onSeek_eq (origin target duration : Int) (state : State) :
    onSeek origin target duration state =
      state.call
        (state.currentEvents.flatMap fun entry =>
          seekCalls origin target duration entry.1) := by
  unfold onSeek
  generalize state.currentEvents = entries
  induction entries generalizing state with
  | nil =>
      simp [State.call]
  | cons entry rest inductionHypothesis =>
      obtain ⟨timedEvent, messages⟩ := entry
      cases timedEvent with
      | instant moment =>
          rw [List.foldl_cons, inductionHypothesis]
          simp [seekCalls]
      | block block =>
          rw [List.foldl_cons, inductionHypothesis]
          simp [onSeekBlock_eq, State.call]

theorem Registered.step_seek {duration : Nat} {timedEvents : List TimedEvent}
    {state : State} (registered : Registered duration timedEvents state)
    (target : Nat) :
    step state (.seek target) =
      (state.moveTo target).call
        (state.currentEvents.flatMap fun entry =>
          seekCalls (milliseconds state.exoPlayer.position)
            (milliseconds target) (milliseconds duration) entry.1) := by
  rw [step, onPositionDiscontinuity, onSeek_eq]
  simp [State.moveTo, registered.lastKnown]

theorem Registered.step_timelineChange {duration : Nat}
    {timedEvents : List TimedEvent} {state : State}
    (registered : Registered duration timedEvents state) :
    step state .timelineChange = state := by
  have same : state.exoPlayer.mediaDuration = state.lastKnownDuration := by
    rw [ExoPlayer.mediaDuration, registered.known, registered.lastKnown]
    rfl
  exact if_pos same

theorem Registered.step {duration : Nat} {timedEvents : List TimedEvent}
    {state : State} (registered : Registered duration timedEvents state)
    (event : Event) :
    Registered duration timedEvents (step state event) := by
  cases event with
  | playback length =>
      rw [step_playback]
      exact registered.call _ _
  | seek target =>
      rw [registered.step_seek]
      exact registered.call _ _
  | timelineChange =>
      rw [registered.step_timelineChange]
      exact registered

theorem timedEvent_of_mem_createMessages {timedEvent : TimedEvent}
    {duration : Option Int} {message : PlayerMessage}
    (member : message ∈ createMessages timedEvent duration) :
    message.payload.timedEvent = timedEvent := by
  unfold createMessages at member
  cases timedEvent with
  | instant moment =>
      simp only at member
      split at member
      · simp at member
      · simp_all [createMessage]
  | block block =>
      simp only at member
      split at member
      · simp only [List.mem_cons, List.not_mem_nil, or_false] at member
        rcases member with rfl | rfl <;> rfl
      · simp at member

theorem timedEvent_of_mem_seekCalls {origin target duration : Int}
    {timedEvent : TimedEvent} {call : Call}
    (member : call ∈ seekCalls origin target duration timedEvent) :
    call.timedEvent = timedEvent := by
  cases timedEvent with
  | instant moment =>
      simp [seekCalls] at member
  | block block =>
      simp only [seekCalls] at member
      split at member
      · obtain ⟨type, -, rfl⟩ := List.mem_map.mp member
        rfl
      · simp at member

/-- Playback over no distance passes no message. -/
theorem passedMessages_self (player : ExoPlayer) :
    player.passedMessages player.position = [] := by
  apply List.eq_nil_iff_forall_not_mem.mpr
  intro message member
  rw [ExoPlayer.passedMessages, mem_sortedBy, List.mem_filter,
    decide_eq_true_iff] at member
  omega

variable {duration : Nat} {timedEvents : List TimedEvent} {state : State}
variable {block : TimedEvent.Block}

theorem Registered.mem_currentEvents
    (registered : Registered duration timedEvents state)
    (member : TimedEvent.block block ∈ timedEvents) :
    (TimedEvent.block block,
        createMessages (.block block) (some (milliseconds duration))) ∈
      state.currentEvents := by
  obtain ⟨entry, entryMember, same⟩ :=
    List.mem_map.mp ((registered.listed _).mpr member)
  have created := registered.created entry entryMember
  rw [same] at created
  rw [← created, ← same]
  exact entryMember

/-- The pending messages of a block are its own two. -/
theorem Registered.filter_pendingMessages
    (registered : Registered duration timedEvents state)
    (member : TimedEvent.block block ∈ timedEvents) :
    (state.exoPlayer.pendingMessages.filter fun message =>
        message.payload.timedEvent = .block block) =
      createMessages (.block block) (some (milliseconds duration)) := by
  have entryMember := registered.mem_currentEvents member
  rw [registered.pending, List.filter_flatMap,
    flatMap_eq_of_key registered.distinct entryMember]
  · apply List.filter_eq_self.mpr
    intro message messageMember
    simpa using timedEvent_of_mem_createMessages messageMember
  · intro other otherMember different
    apply List.filter_eq_nil_iff.mpr
    intro message messageMember
    rw [registered.created other otherMember] at messageMember
    have owner := timedEvent_of_mem_createMessages messageMember
    simpa [owner] using different

theorem Registered.callsOf_playback
    (registered : Registered duration timedEvents state)
    (member : TimedEvent.block block ∈ timedEvents) (length : Nat)
    {eventStart eventEnd : Int}
    (starts : withMediaDuration block.start (some (milliseconds duration)) =
      some eventStart)
    (ends : withMediaDuration block.end (some (milliseconds duration)) =
      some eventEnd)
    (positive : 0 < eventStart) (proper : eventStart < eventEnd) :
    callsOf block (TimedEventState.step state (.playback length)) =
      callsOf block state ++
        playedCalls eventStart eventEnd state.exoPlayer.position
          (state.exoPlayer.position + length) := by
  have messages := registered.filter_pendingMessages member
  rw [step_playback, callsOf_call]
  congr 1
  rw [List.filter_map, ExoPlayer.passedMessages]
  have selected :
      ((fun call : Call => decide (call.timedEvent = .block block)) ∘
          PlayerMessage.call) =
        fun message => decide (message.payload.timedEvent = .block block) := by
    rfl
  have created :
      createMessages (.block block) (some (milliseconds duration)) =
        [createMessage .activate eventStart (.block block),
          createMessage .deactivate eventEnd (.block block)] := by
    simp [createMessages, starts, ends]
  have ascending :
      Ascending PlayerMessage.position
        [createMessage .activate eventStart (.block block),
          createMessage .deactivate eventEnd (.block block)] := by
    have order : messagePosition eventStart ≤ messagePosition eventEnd := by
      rw [messagePosition_eq positive,
        messagePosition_eq (positive.trans proper)]
      omega
    exact List.pairwise_pair.mpr order
  rw [selected, filter_sortedBy, List.filter_comm, messages, created,
    sortedBy_eq_self (ascending.filter _)]
  have activated :
      (createMessage .activate eventStart (.block block)).position =
        messagePosition eventStart := rfl
  have deactivated :
      (createMessage .deactivate eventEnd (.block block)).position =
        messagePosition eventEnd := rfl
  simp only [playedCalls, List.filter_cons, List.filter_nil, activated,
    deactivated, decide_eq_true_eq]
  split_ifs <;> rfl

theorem Registered.callsOf_seek
    (registered : Registered duration timedEvents state)
    (member : TimedEvent.block block ∈ timedEvents) (target : Nat)
    {eventStart eventEnd : Int}
    (starts : withMediaDuration block.start (some (milliseconds duration)) =
      some eventStart)
    (ends : withMediaDuration block.end (some (milliseconds duration)) =
      some eventEnd) :
    callsOf block (TimedEventState.step state (.seek target)) =
      callsOf block state ++
        soughtCalls eventStart eventEnd
          (milliseconds state.exoPlayer.position) (milliseconds target) := by
  have entryMember := registered.mem_currentEvents member
  rw [registered.step_seek, callsOf_call]
  congr 1
  rw [List.filter_flatMap,
    flatMap_eq_of_key registered.distinct entryMember]
  · simp [seekCalls, starts, ends, List.filter_map, Function.comp_def]
  · intro other otherMember different
    apply List.filter_eq_nil_iff.mpr
    intro call callMember
    have owner := timedEvent_of_mem_seekCalls callMember
    simpa [owner] using different

/-! ## Runs -/

/-- A seek keeps the calls of a block in step with the position. -/
theorem Registered.followed_seek
    (registered : Registered duration timedEvents state)
    (member : TimedEvent.block block ∈ timedEvents) (target : Nat)
    (proper : Proper (milliseconds duration) block)
    (followed : Followed (milliseconds duration) block state) :
    Followed (milliseconds duration) block
      (TimedEventState.step state (.seek target)) := by
  obtain ⟨eventStart, eventEnd, starts, ends, -, -⟩ := proper
  have calls := registered.callsOf_seek member target starts ends
  have position :
      (TimedEventState.step state (.seek target)).exoPlayer.position =
        target := by
    rw [registered.step_seek]
    rfl
  obtain ⟨alternating, inStep⟩ := followed
  simp only [InBlock, starts, ends] at inStep
  have kept := soughtCalls_follow (milliseconds target) inStep
  refine ⟨?_, ?_⟩
  · rw [calls, isChain_append_iff]
    exact ⟨alternating, kept.1⟩
  · rw [calls, getLastD_append, position]
    simp only [InBlock, starts, ends]
    exact kept.2

/-- Playback over some distance keeps the calls of a block in step with the
position exactly if both its ends are clear of the block. -/
theorem Registered.followed_playback_iff
    (registered : Registered duration timedEvents state)
    (member : TimedEvent.block block ∈ timedEvents) {length : Nat}
    (moving : 0 < length)
    (proper : Proper (milliseconds duration) block)
    (followed : Followed (milliseconds duration) block state) :
    Followed (milliseconds duration) block
        (TimedEventState.step state (.playback length)) ↔
      Clear (milliseconds duration) block state.exoPlayer.position ∧
        Clear (milliseconds duration) block
          (state.exoPlayer.position + length) := by
  obtain ⟨eventStart, eventEnd, starts, ends, positive, ordered⟩ := proper
  have calls :=
    registered.callsOf_playback member length starts ends positive ordered
  have position :
      (TimedEventState.step state (.playback length)).exoPlayer.position =
        state.exoPlayer.position + length := by
    rw [step_playback]
    rfl
  obtain ⟨alternating, inStep⟩ := followed
  simp only [InBlock, starts, ends] at inStep
  have exactly :=
    playedCalls_follow_iff positive ordered
      (Nat.lt_add_of_pos_right moving) inStep
  simp only [Followed, calls, isChain_append_iff, getLastD_append, position,
    Clear, InBlock, BetweenMessages, starts, ends, alternating, true_and]
  exact exactly

theorem Registered.followed_step_iff
    (registered : Registered duration timedEvents state)
    (proper :
      ∀ block, TimedEvent.block block ∈ timedEvents →
        Proper (milliseconds duration) block)
    (followed :
      ∀ block, TimedEvent.block block ∈ timedEvents →
        Followed (milliseconds duration) block state)
    (event : Event) :
    (∀ block, TimedEvent.block block ∈ timedEvents →
        Followed (milliseconds duration) block
          (TimedEventState.step state event)) ↔
      ClearPlayback (milliseconds duration) timedEvents state event := by
  cases event with
  | playback length =>
      rcases Nat.eq_zero_or_pos length with rfl | moving
      · have still : TimedEventState.step state (.playback 0) = state := by
          rw [step_playback, Nat.add_zero, passedMessages_self]
          simp [State.call, State.moveTo]
        rw [still]
        simpa [ClearPlayback] using followed
      · simp only [ClearPlayback, moving.ne', false_or]
        refine forall_congr' fun block => forall_congr' fun member => ?_
        exact registered.followed_playback_iff member moving
          (proper block member) (followed block member)
  | seek target =>
      simp only [ClearPlayback, iff_true]
      intro block member
      exact registered.followed_seek member target (proper block member)
        (followed block member)
  | timelineChange =>
      rw [registered.step_timelineChange]
      simpa [ClearPlayback] using followed

/-- After every part of a run the calls of each block alternate and the block
is active exactly while the position is in it, if and only if no playback of
the run starts or ends where the interval and the messages of a block
disagree. -/
theorem blocks_followed_iff_clearPlayback (duration : Nat)
    (timedEvents : List TimedEvent)
    (proper :
      ∀ block, TimedEvent.block block ∈ timedEvents →
        Proper (milliseconds duration) block)
    (events : List Event) :
    (∀ early, early <+: events →
        ∀ block, TimedEvent.block block ∈ timedEvents →
          Followed (milliseconds duration) block
            (run step (setTimedEvents timedEvents (State.opened duration))
              early)) ↔
      Admitted step (ClearPlayback (milliseconds duration) timedEvents)
        (setTimedEvents timedEvents (State.opened duration)) events := by
  have registered := registered_setTimedEvents duration timedEvents
  have untouched := setTimedEvents_untouched duration timedEvents
  have initially :
      ∀ block, TimedEvent.block block ∈ timedEvents →
        Followed (milliseconds duration) block
          (setTimedEvents timedEvents (State.opened duration)) := by
    intro block member
    obtain ⟨eventStart, eventEnd, starts, ends, positive, ordered⟩ :=
      proper block member
    have outside : ¬(eventStart ≤ milliseconds 0) := by
      simp only [milliseconds]
      omega
    simp [Followed, callsOf, untouched, InBlock, starts, ends, outside]
  have permitted :
      Admitted step (fun _ _ => True)
        (setTimedEvents timedEvents (State.opened duration)) events :=
    admitted_of_forall fun _ _ => trivial
  exact holds_throughout_iff_admitted
    (fun state event registered _ => registered.step event)
    (fun state event registered _ followed =>
      registered.followed_step_iff proper followed event)
    registered initially permitted

/-- A block from 10 to 20 milliseconds. -/
def segment : TimedEvent.Block where
  key := none
  start := milliseconds 10
  «end» := milliseconds 20
  onActivate := some ⟨0⟩
  onDeactivate := some ⟨1⟩

theorem segment_followed_through_seek :
    Followed (milliseconds 100) segment
      (run step (setTimedEvents [.block segment] (State.opened 100))
        [.playback 15, .seek 30, .seek 20, .seek 12, .playback 13]) := by
  have proper :
      ∀ block, TimedEvent.block block ∈ [TimedEvent.block segment] →
        Proper (milliseconds 100) block := by
    intro block member
    obtain rfl : block = segment := by simpa using member
    exact ⟨milliseconds 10, milliseconds 20, by decide⟩
  refine (blocks_followed_iff_clearPlayback 100 _ proper _).mpr ?_ _
    List.prefix_rfl segment (List.mem_singleton.mpr rfl)
  have clear (position : Nat) (elsewhere : position ≠ 20)
      (block : TimedEvent.Block)
      (member : TimedEvent.block block ∈ [TimedEvent.block segment]) :
      Clear (milliseconds 100) block position := by
    obtain rfl : block = segment := by simpa using member
    exact
      (@clear_iff (milliseconds 100) segment 10 20 position (by decide)
        (by decide) (by decide) (by decide)).mpr elsewhere
  refine ⟨Or.inr ?_, trivial, trivial, trivial, Or.inr ?_, trivial⟩
  · intro block member
    exact ⟨clear 0 (by decide) block member, clear 15 (by decide) block member⟩
  · intro block member
    exact ⟨clear 12 (by decide) block member, clear 25 (by decide) block member⟩

/-- Playback to the end of the block and a seek away from there deactivate it
twice. -/
theorem seek_from_played_end_deactivates_twice :
    Proper (milliseconds 100) segment ∧
      callsOf segment
          (run step (setTimedEvents [.block segment] (State.opened 100))
            [.playback 20, .seek 25]) =
        [.activate, .deactivate, .deactivate] ∧
      ¬Followed (milliseconds 100) segment
        (run step (setTimedEvents [.block segment] (State.opened 100))
          [.playback 20, .seek 25]) := by
  have calls :
      callsOf segment
          (run step (setTimedEvents [.block segment] (State.opened 100))
            [.playback 20, .seek 25]) =
        [.activate, .deactivate, .deactivate] := by
    decide
  refine ⟨⟨milliseconds 10, milliseconds 20, by decide⟩, calls, ?_⟩
  rintro ⟨alternating, -⟩
  rw [calls] at alternating
  simp at alternating

end JellyfinTv.Playback.TimedEventState
