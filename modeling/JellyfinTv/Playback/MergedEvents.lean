import JellyfinTv.Playback.EntryEvents
import Mathlib.Data.List.Nodup

/-!
# Merging the timed events of an entry

Each writer keeps the events of the others.  The event that preloads the next
entry stays the only one if there was no second one to begin with, and the
events of the segments are moved behind all others whenever they are created
again.
-/

namespace JellyfinTv.Playback

open JellyfinTv.Library TimedEventState

def isOther (event : TimedEvent) : Bool :=
  !isPreload event && !isSegment event

/-- The events that are added and removed have no key of a service. -/
def EntryCall.Foreign : EntryCall → Prop
  | .addTimedEvent timedEvent => isOther timedEvent = true
  | .removeTimedEvent timedEvent => isOther timedEvent = true
  | _ => True

instance decidableForeign : ∀ call : EntryCall, Decidable call.Foreign
  | .addTimedEvent timedEvent =>
      inferInstanceAs (Decidable (isOther timedEvent = true))
  | .removeTimedEvent timedEvent =>
      inferInstanceAs (Decidable (isOther timedEvent = true))
  | .ensurePreloadTimedEvent => inferInstanceAs (Decidable True)
  | .createTimedEvents => inferInstanceAs (Decidable True)

/-- What the calls make of a list that nobody else writes. -/
def writeOther (others : List TimedEvent) : EntryCall → List TimedEvent
  | .addTimedEvent timedEvent => others ++ [timedEvent]
  | .removeTimedEvent timedEvent => others.erase timedEvent
  | _ => others

/-- The event, with one function object in place of all. -/
def withoutIdentity : TimedEvent → TimedEvent
  | .instant instant => .instant { instant with onActivate := ⟨0⟩ }
  | .block block =>
      .block
        { block with
          onActivate := block.onActivate.map fun _ => ⟨0⟩
          onDeactivate := block.onDeactivate.map fun _ => ⟨0⟩ }

/-- The key of the preload event does not begin like that of a segment. -/
theorem isPreload_of_isSegment {event : TimedEvent}
    (segment : isSegment event = true) : isPreload event = false := by
  rw [← Bool.not_eq_true]
  intro preload
  rw [isPreload, beq_iff_eq] at preload
  rw [isSegment, preload] at segment
  exact absurd segment (by decide)

theorem isOther_of_isSegment {event : TimedEvent}
    (segment : isSegment event = true) : isOther event = false := by
  rw [isOther, segment]
  exact Bool.and_false _

namespace EntryEvents

variable {services : EventServices} {entry : EntryEvents}

theorem startsWithPrefix_segmentKey (segment : MediaSegmentDto) :
    startsWithPrefix (segmentKey segment) = true := by
  rw [startsWithPrefix, segmentKey, String.toList_append,
    List.isPrefixOf_iff_prefix]
  exact List.prefix_append _ _

theorem isSegment_of_segmentKey {event : TimedEvent}
    {segment : MediaSegmentDto}
    (same : key event = some (segmentKey segment)) :
    isSegment event = true := by
  rw [isSegment, same]
  exact startsWithPrefix_segmentKey segment

theorem isSegment_segmentEvent (segment : MediaSegmentDto)
    (callback : Nat) :
    isSegment (segmentEvent services segment callback) = true := by
  exact startsWithPrefix_segmentKey segment

theorem isSegment_allTimedEvents (segments : List MediaSegmentDto)
    (callbacks : Nat) :
    ∀ event ∈ (allTimedEvents services segments callbacks).1,
      isSegment event = true := by
  induction segments generalizing callbacks with
  | nil =>
      rintro event ⟨⟩
  | cons segment rest inductionHypothesis =>
      intro event member
      rcases List.mem_append.mp member with own | later
      · rw [asTimedEvents] at own
        split at own
        · obtain rfl := List.mem_singleton.mp own
          exact isSegment_segmentEvent segment callbacks
        · exact absurd own List.not_mem_nil
      · exact inductionHypothesis _ event later

/-- Up to the function objects, each skipped segment gives one event. -/
theorem map_allTimedEvents (segments : List MediaSegmentDto)
    (callbacks : Nat) :
    (allTimedEvents services segments callbacks).1.map withoutIdentity =
      (segments.filter fun segment =>
          segment.type ∈ services.skipTypes).map fun segment =>
        segmentEvent services segment 0 := by
  induction segments generalizing callbacks with
  | nil =>
      rfl
  | cons segment rest inductionHypothesis =>
      rw [allTimedEvents, List.map_append, inductionHypothesis,
        List.filter_cons, asTimedEvents]
      split
      case isTrue skipped =>
        rw [if_pos (decide_eq_true skipped)]
        rfl
      case isFalse shown =>
        rw [if_neg (by simpa using shown)]
        rfl

theorem events_addTimedEvent (timedEvent : TimedEvent) :
    (entry.addTimedEvent timedEvent).events =
      entry.events ++ [timedEvent] := by
  rfl

theorem events_removeTimedEvent (timedEvent : TimedEvent) :
    (entry.removeTimedEvent timedEvent).events =
      entry.events.erase timedEvent := by
  unfold removeTimedEvent
  dsimp only
  split
  case isTrue empty =>
    exact (List.isEmpty_iff.mp empty).symm
  case isFalse listed =>
    rfl

theorem events_createTimedEvents :
    (entry.createTimedEvents services).events =
      (entry.events.filter fun event => !isSegment event) ++
        (allTimedEvents services (services.mediaSegments.getD [])
          entry.callbacks).1 := by
  unfold createTimedEvents
  dsimp only
  split
  case isTrue empty =>
    exact (List.isEmpty_iff.mp empty).symm
  case isFalse listed =>
    rfl

theorem any_timedEvents (property : TimedEvent → Bool) :
    (entry.timedEvents.any fun events => events.any property) =
      entry.events.any property := by
  unfold events
  cases entry.timedEvents with
  | none =>
      rfl
  | some events =>
      rfl

theorem ensurePreloadTimedEvent_of_any
    (found : entry.events.any isPreload = true) :
    entry.ensurePreloadTimedEvent services = entry := by
  unfold ensurePreloadTimedEvent
  rw [any_timedEvents, found]
  split
  · rfl
  · rfl

theorem events_ensurePreloadTimedEvent
    (positive : 0 < services.preloadDuration) :
    (entry.ensurePreloadTimedEvent services).events =
      if entry.events.any isPreload then entry.events
      else
        entry.events ++ [preloadEvent services entry.callbacks] := by
  unfold ensurePreloadTimedEvent
  rw [if_neg (by omega), any_timedEvents]
  split
  · rfl
  · rfl

section Kinds

variable {property : TimedEvent → Bool} {timedEvent : TimedEvent}

theorem filter_erase_of_not (fails : property timedEvent = false)
    (events : List TimedEvent) :
    (events.erase timedEvent).filter property = events.filter property := by
  rw [← List.erase_filter]
  apply List.erase_of_not_mem
  intro member
  rw [(List.mem_filter.mp member).2] at fails
  exact Bool.noConfusion fails

/-- Calls of others leave the owned events alone. -/
theorem filter_step_foreign {call : EntryCall}
    (owned : ∀ event, property event = true → isOther event = false)
    (foreign : call.Foreign) (noEnsure : call ≠ .ensurePreloadTimedEvent)
    (noCreate : call ≠ .createTimedEvents) :
    (entry.step services call).events.filter property =
      entry.events.filter property := by
  have fails :
      ∀ timedEvent, isOther timedEvent = true →
        property timedEvent = false := by
    intro timedEvent other
    rw [← Bool.not_eq_true]
    intro holds
    rw [owned timedEvent holds] at other
    exact Bool.false_ne_true other
  cases call with
  | ensurePreloadTimedEvent =>
      exact absurd rfl noEnsure
  | createTimedEvents =>
      exact absurd rfl noCreate
  | addTimedEvent timedEvent =>
      rw [step, events_addTimedEvent, List.filter_append,
        List.filter_singleton, fails timedEvent foreign]
      exact List.append_nil _
  | removeTimedEvent timedEvent =>
      rw [step, events_removeTimedEvent]
      exact filter_erase_of_not (fails timedEvent foreign) entry.events

/-- Creating the events of the segments keeps those of all other kinds. -/
theorem filter_createTimedEvents
    (kept : ∀ event, isSegment event = true → property event = false) :
    (entry.createTimedEvents services).events.filter property =
      entry.events.filter property := by
  have added :
      (allTimedEvents services (services.mediaSegments.getD [])
        entry.callbacks).1.filter property = [] := by
    apply List.filter_eq_nil_iff.mpr
    intro event member
    rw [kept event (isSegment_allTimedEvents _ _ event member)]
    exact Bool.false_ne_true
  rw [events_createTimedEvents, List.filter_append, added,
    List.append_nil, List.filter_filter]
  apply List.filter_congr
  intro event _
  cases segment : isSegment event with
  | false =>
      exact Bool.and_true _
  | true =>
      rw [kept event segment]
      rfl

/-- Ensuring the preload event keeps those of all other kinds. -/
theorem filter_ensurePreloadTimedEvent
    (positive : 0 < services.preloadDuration)
    (kept : ∀ event, isPreload event = true → property event = false) :
    (entry.ensurePreloadTimedEvent services).events.filter property =
      entry.events.filter property := by
  rw [events_ensurePreloadTimedEvent positive]
  split
  · rfl
  · rw [List.filter_append, List.filter_singleton,
      kept (preloadEvent services entry.callbacks) rfl]
    exact List.append_nil _

end Kinds

theorem isOther_of_isPreload {event : TimedEvent}
    (preload : isPreload event = true) : isOther event = false := by
  rw [isOther, preload]
  rfl

theorem filter_isOther_step (positive : 0 < services.preloadDuration)
    {call : EntryCall} (foreign : call.Foreign) :
    (entry.step services call).events.filter isOther =
      writeOther (entry.events.filter isOther) call := by
  cases call with
  | ensurePreloadTimedEvent =>
      exact
        filter_ensurePreloadTimedEvent positive fun _ =>
          isOther_of_isPreload
  | createTimedEvents =>
      exact filter_createTimedEvents fun _ => isOther_of_isSegment
  | addTimedEvent timedEvent =>
      have other : isOther timedEvent = true := foreign
      rw [step, events_addTimedEvent, List.filter_append,
        List.filter_singleton, other]
      rfl
  | removeTimedEvent timedEvent =>
      rw [step, events_removeTimedEvent, ← List.erase_filter]
      rfl

/-- The other events are what their writers alone would have left. -/
theorem filter_isOther_run (positive : 0 < services.preloadDuration)
    {calls : List EntryCall} (foreign : ∀ call ∈ calls, call.Foreign) :
    (run (step services) entry calls).events.filter isOther =
      calls.foldl writeOther (entry.events.filter isOther) := by
  induction calls generalizing entry with
  | nil =>
      rfl
  | cons call rest inductionHypothesis =>
      rw [List.forall_mem_cons] at foreign
      rw [run_cons, inductionHypothesis foreign.2,
        filter_isOther_step positive foreign.1, List.foldl_cons]

def OnePreload (entry : EntryEvents) : Prop :=
  (entry.events.filter isPreload).length = 1

theorem OnePreload.any (one : entry.OnePreload) :
    entry.events.any isPreload = true := by
  have some : entry.events.filter isPreload ≠ [] := by
    intro none
    rw [OnePreload, none] at one
    exact Nat.zero_ne_one one
  obtain ⟨event, member⟩ := List.exists_mem_of_ne_nil _ some
  obtain ⟨listed, preload⟩ := List.mem_filter.mp member
  exact List.any_eq_true.mpr ⟨event, listed, preload⟩

theorem filter_isPreload_step {call : EntryCall} (foreign : call.Foreign)
    (noEnsure : call ≠ .ensurePreloadTimedEvent) :
    (entry.step services call).events.filter isPreload =
      entry.events.filter isPreload := by
  by_cases creates : call = .createTimedEvents
  · subst creates
    exact filter_createTimedEvents fun _ => isPreload_of_isSegment
  · exact
      filter_step_foreign (fun _ => isOther_of_isPreload) foreign noEnsure
        creates

/-- With at most one preload event, ensuring it leaves exactly one. -/
theorem onePreload_ensure (positive : 0 < services.preloadDuration)
    (atMost : (entry.events.filter isPreload).length ≤ 1) :
    (entry.ensurePreloadTimedEvent services).OnePreload := by
  rw [OnePreload, events_ensurePreloadTimedEvent positive]
  split
  case isTrue found =>
    obtain ⟨event, listed, preload⟩ := List.any_eq_true.mp found
    have member : event ∈ entry.events.filter isPreload :=
      List.mem_filter.mpr ⟨listed, preload⟩
    exact Nat.le_antisymm atMost (List.length_pos_of_mem member)
  case isFalse missing =>
    have none : entry.events.filter isPreload = [] := by
      rw [List.filter_eq_nil_iff]
      intro event listed preload
      exact missing (List.any_eq_true.mpr ⟨event, listed, preload⟩)
    rw [List.filter_append, none]
    rfl

theorem onePreload_run (positive : 0 < services.preloadDuration)
    (atMost : (entry.events.filter isPreload).length ≤ 1)
    {calls : List EntryCall} (foreign : ∀ call ∈ calls, call.Foreign)
    (ensured : .ensurePreloadTimedEvent ∈ calls) :
    (run (step services) entry calls).OnePreload := by
  have sound :
      ∀ (entry : EntryEvents) (call : EntryCall),
        (entry.events.filter isPreload).length ≤ 1 → call.Foreign →
          ((entry.step services call).events.filter
            isPreload).length ≤ 1 := by
    intro entry call atMost foreign
    by_cases ensures : call = .ensurePreloadTimedEvent
    · subst ensures
      exact Nat.le_of_eq (onePreload_ensure positive atMost)
    · rw [filter_isPreload_step foreign ensures]
      exact atMost
  have kept :
      ∀ (entry : EntryEvents) (call : EntryCall), entry.OnePreload →
        call.Foreign → (entry.step services call).OnePreload := by
    intro entry call one foreign
    by_cases ensures : call = .ensurePreloadTimedEvent
    · subst ensures
      exact onePreload_ensure positive (Nat.le_of_eq one)
    · rw [OnePreload, filter_isPreload_step foreign ensures]
      exact one
  exact
    run_of_mem sound kept (fun _ => onePreload_ensure positive) atMost
      foreign ensured

/-! ## The events of the segments -/

/-- Up to the function objects, the events of the segments are one for each
segment that is skipped. -/
def ListsSegments (services : EventServices) (entry : EntryEvents) : Prop :=
  (entry.events.filter isSegment).map withoutIdentity =
    ((services.mediaSegments.getD []).filter fun segment =>
        segment.type ∈ services.skipTypes).map fun segment =>
      segmentEvent services segment 0

theorem listsSegments_create :
    (entry.createTimedEvents services).ListsSegments services := by
  have kept :
      (entry.events.filter fun event => !isSegment event).filter
        isSegment = [] := by
    apply List.filter_eq_nil_iff.mpr
    intro event member
    have other := (List.mem_filter.mp member).2
    rw [Bool.not_eq_true'] at other
    rw [other]
    exact Bool.false_ne_true
  have added :
      (allTimedEvents services (services.mediaSegments.getD [])
          entry.callbacks).1.filter isSegment =
        (allTimedEvents services (services.mediaSegments.getD [])
          entry.callbacks).1 :=
    List.filter_eq_self.mpr (isSegment_allTimedEvents _ _)
  rw [ListsSegments, events_createTimedEvents, List.filter_append, kept,
    List.nil_append, added, map_allTimedEvents]

theorem filter_isSegment_step (positive : 0 < services.preloadDuration)
    {call : EntryCall} (foreign : call.Foreign)
    (noCreate : call ≠ .createTimedEvents) :
    (entry.step services call).events.filter isSegment =
      entry.events.filter isSegment := by
  by_cases ensures : call = .ensurePreloadTimedEvent
  · subst ensures
    apply filter_ensurePreloadTimedEvent positive
    intro event preload
    rw [← Bool.not_eq_true]
    intro segment
    rw [isPreload_of_isSegment segment] at preload
    exact Bool.false_ne_true preload
  · exact
      filter_step_foreign (fun _ => isOther_of_isSegment) foreign ensures
        noCreate

theorem listsSegments_run (positive : 0 < services.preloadDuration)
    {calls : List EntryCall} (foreign : ∀ call ∈ calls, call.Foreign)
    (created : .createTimedEvents ∈ calls) :
    (run (step services) entry calls).ListsSegments services := by
  have kept :
      ∀ (entry : EntryEvents) (call : EntryCall),
        entry.ListsSegments services → call.Foreign →
          (entry.step services call).ListsSegments services := by
    intro entry call lists foreign
    by_cases creates : call = .createTimedEvents
    · subst creates
      exact listsSegments_create
    · rw [ListsSegments, filter_isSegment_step positive foreign creates]
      exact lists
  have always :
      ∀ (_ : EntryEvents) (call : EntryCall), True → call.Foreign → True :=
    fun _ _ _ _ => trivial
  exact
    run_of_mem always kept (fun _ _ => listsSegments_create) trivial foreign
      created

theorem key_withoutIdentity (event : TimedEvent) :
    key (withoutIdentity event) = key event := by
  cases event with
  | instant instant =>
      rfl
  | block block =>
      rfl

theorem segmentKey_injective {first second : MediaSegmentDto}
    (same : segmentKey first = segmentKey second) :
    first.id = second.id := by
  have texts := congrArg String.toList same
  rw [segmentKey, segmentKey, String.toList_append,
    String.toList_append] at texts
  exact String.toList_inj.mp (List.append_cancel_left texts)

theorem filter_id_of_distinct {segments : List MediaSegmentDto}
    (distinct : (segments.map MediaSegmentDto.id).Nodup)
    {segment : MediaSegmentDto} (member : segment ∈ segments) :
    (segments.filter fun other => other.id = segment.id) = [segment] := by
  induction segments with
  | nil =>
      exact absurd member List.not_mem_nil
  | cons first rest inductionHypothesis =>
      rw [List.map_cons, List.nodup_cons] at distinct
      obtain ⟨fresh, restDistinct⟩ := distinct
      rcases List.mem_cons.mp member with rfl | later
      · rw [List.filter_cons_of_pos (by simp)]
        congr 1
        apply List.filter_eq_nil_iff.mpr
        intro other listed same
        apply fresh
        rw [← of_decide_eq_true same]
        exact List.mem_map_of_mem listed
      · have different : ¬first.id = segment.id := by
          intro same
          apply fresh
          rw [same]
          exact List.mem_map_of_mem later
        rw [List.filter_cons_of_neg (by simpa using different)]
        exact inductionHypothesis restDistinct later

/-- The events with the key of a segment are among those of the segments,
where only the key counts. -/
theorem map_filter_segmentKey (events : List TimedEvent)
    (segment : MediaSegmentDto) :
    (events.filter fun event =>
        key event = some (segmentKey segment)).map withoutIdentity =
      ((events.filter isSegment).map withoutIdentity).filter fun event =>
        key event = some (segmentKey segment) := by
  rw [List.filter_map, List.filter_filter]
  congr 1
  apply List.filter_congr
  intro event _
  rw [Function.comp_apply, key_withoutIdentity]
  by_cases same : key event = some (segmentKey segment)
  · rw [isSegment_of_segmentKey same, Bool.and_true]
  · simp [same]

theorem key_segmentEvent_iff {segment other : MediaSegmentDto} :
    key (segmentEvent services other 0) = some (segmentKey segment) ↔
      other.id = segment.id := by
  constructor
  · intro same
    exact segmentKey_injective (Option.some.inj same)
  · intro same
    rw [segmentEvent, key, segmentKey, segmentKey, same]

/-- A segment has one event if it is skipped, and none otherwise. -/
theorem ListsSegments.of_segment (lists : entry.ListsSegments services)
    (distinct :
      ((services.mediaSegments.getD []).map MediaSegmentDto.id).Nodup)
    {segment : MediaSegmentDto}
    (member : segment ∈ services.mediaSegments.getD []) :
    (entry.events.filter fun event =>
        key event = some (segmentKey segment)).map withoutIdentity =
      if segment.type ∈ services.skipTypes then
        [segmentEvent services segment 0]
      else
        [] := by
  rw [map_filter_segmentKey, lists, List.filter_map]
  simp only [Function.comp_def, key_segmentEvent_iff]
  rw [List.filter_comm, filter_id_of_distinct distinct member]
  by_cases skipped : segment.type ∈ services.skipTypes
  · simp [skipped]
  · simp [skipped]

/-- The blocks of a segment: the moments of its ticks, an activation and no
deactivation. -/
theorem exists_block_of_segmentEvent {segment : MediaSegmentDto}
    {event : TimedEvent}
    (same : withoutIdentity event = segmentEvent services segment 0) :
    ∃ onActivate,
      event =
        .block
          { key := some ("MediaSegment:" ++ segment.id)
            start := services.ticks segment.startTicks
            «end» := services.ticks segment.endTicks
            onActivate := some onActivate
            onDeactivate := none } := by
  cases event with
  | instant moment =>
      cases same
  | block block =>
      obtain ⟨key, start, blockEnd, onActivate, onDeactivate⟩ := block
      simp only [withoutIdentity, segmentEvent, TimedEvent.block.injEq,
        TimedEvent.Block.mk.injEq, Option.map_eq_some_iff,
        Option.map_eq_none_iff] at same
      obtain ⟨rfl, rfl, rfl, ⟨callback, rfl, -⟩, rfl⟩ := same
      exact ⟨callback, rfl⟩

/-- A skipped segment has one block, with its start and its end. -/
theorem ListsSegments.block_of_segment (lists : entry.ListsSegments services)
    (distinct :
      ((services.mediaSegments.getD []).map MediaSegmentDto.id).Nodup)
    {segment : MediaSegmentDto}
    (member : segment ∈ services.mediaSegments.getD [])
    (skips : segment.type ∈ services.skipTypes) :
    ∃ onActivate,
      (entry.events.filter fun event =>
          key event = some ("MediaSegment:" ++ segment.id)) =
        [.block
          { key := some ("MediaSegment:" ++ segment.id)
            start := services.ticks segment.startTicks
            «end» := services.ticks segment.endTicks
            onActivate := some onActivate
            onDeactivate := none }] := by
  have listed := lists.of_segment distinct member
  rw [if_pos skips, List.map_eq_singleton_iff] at listed
  obtain ⟨event, single, same⟩ := listed
  obtain ⟨onActivate, rfl⟩ := exists_block_of_segmentEvent same
  exact ⟨onActivate, single⟩

/-- The events of the segments are those of the skipped ones only. -/
theorem ListsSegments.of_event (lists : entry.ListsSegments services)
    {event : TimedEvent} (listed : event ∈ entry.events)
    (owned : isSegment event = true) :
    ∃ segment ∈ services.mediaSegments.getD [],
      segment.type ∈ services.skipTypes ∧
        key event = some (segmentKey segment) := by
  have member :
      withoutIdentity event ∈
        (entry.events.filter isSegment).map withoutIdentity :=
    List.mem_map_of_mem (List.mem_filter.mpr ⟨listed, owned⟩)
  rw [lists] at member
  obtain ⟨segment, skipped, same⟩ := List.mem_map.mp member
  obtain ⟨ofEntry, skips⟩ := List.mem_filter.mp skipped
  refine ⟨segment, ofEntry, of_decide_eq_true skips, ?_⟩
  rw [← key_withoutIdentity, ← same]
  rfl

/-- Created again, the events of the segments are those of before up to the
function objects, behind all other events. -/
theorem ListsSegments.created_again (lists : entry.ListsSegments services) :
    ∃ renewed,
      (entry.createTimedEvents services).events =
          (entry.events.filter fun event => !isSegment event) ++ renewed ∧
        renewed.map withoutIdentity =
          (entry.events.filter isSegment).map withoutIdentity := by
  refine ⟨_, events_createTimedEvents, ?_⟩
  rw [map_allTimedEvents, lists]

theorem created_twice :
    ((entry.createTimedEvents services).createTimedEvents
        services).events.map withoutIdentity =
      (entry.createTimedEvents services).events.map withoutIdentity := by
  have kept :
      (entry.createTimedEvents services).events.filter
          (fun event => !isSegment event) =
        entry.events.filter fun event => !isSegment event := by
    apply filter_createTimedEvents
    intro event segment
    rw [segment]
    rfl
  rw [events_createTimedEvents, kept, List.map_append, map_allTimedEvents,
    events_createTimedEvents, List.map_append, map_allTimedEvents]

/-- There is one preload event and one block for each segment that is
skipped, from its start to its end, and the others are as their writers left
them.  Ensuring the preload
event again changes nothing.  Creating the events of the segments again
renews their function objects and puts them behind the others; if that is
done at once, they stay where they are. -/
structure Merged (services : EventServices) (initial : EntryEvents)
    (calls : List EntryCall) (after : EntryEvents) : Prop where
  preload : after.OnePreload
  segments :
    ∀ segment ∈ services.mediaSegments.getD [],
      segment.type ∈ services.skipTypes →
        ∃ onActivate,
          (after.events.filter fun event =>
              key event = some ("MediaSegment:" ++ segment.id)) =
            [.block
              { key := some ("MediaSegment:" ++ segment.id)
                start := services.ticks segment.startTicks
                «end» := services.ticks segment.endTicks
                onActivate := some onActivate
                onDeactivate := none }]
  skipped :
    ∀ event ∈ after.events, isSegment event = true →
      ∃ segment ∈ services.mediaSegments.getD [],
        segment.type ∈ services.skipTypes ∧
          key event = some ("MediaSegment:" ++ segment.id)
  others :
    after.events.filter isOther =
      calls.foldl writeOther (initial.events.filter isOther)
  ensuredAgain : after.ensurePreloadTimedEvent services = after
  createdAgain :
    ∃ renewed,
      (after.createTimedEvents services).events =
          (after.events.filter fun event => !isSegment event) ++ renewed ∧
        renewed.map withoutIdentity =
          (after.events.filter isSegment).map withoutIdentity
  createdTwice :
    ((after.createTimedEvents services).createTimedEvents
        services).events.map withoutIdentity =
      (after.createTimedEvents services).events.map withoutIdentity

/-- The writers merge their events in every order of their calls. -/
theorem timed_events_merged (services : EventServices)
    (initial : EntryEvents) (calls : List EntryCall)
    (positive : 0 < services.preloadDuration)
    (distinct :
      ((services.mediaSegments.getD []).map MediaSegmentDto.id).Nodup)
    (atMost : (initial.events.filter isPreload).length ≤ 1)
    (foreign : ∀ call ∈ calls, call.Foreign)
    (ensured : .ensurePreloadTimedEvent ∈ calls)
    (created : .createTimedEvents ∈ calls) :
    Merged services initial calls (run (step services) initial calls) := by
  have one := onePreload_run positive atMost foreign ensured
  have lists :
      (run (step services) initial calls).ListsSegments services :=
    listsSegments_run positive foreign created
  exact
    { preload := one
      segments := fun segment member skips =>
        lists.block_of_segment distinct member skips
      skipped := fun event listed owned => lists.of_event listed owned
      others := filter_isOther_run positive foreign
      ensuredAgain := ensurePreloadTimedEvent_of_any one.any
      createdAgain := lists.created_again
      createdTwice := created_twice }

def skipsIntros : EventServices where
  preloadDuration := milliseconds 30000
  skipTypes := [.intro]
  ticks := fun ticks => ticks * 100
  mediaSegments := some [⟨"one", .intro, 0, 600⟩, ⟨"two", .outro, 900, 990⟩]

def chapter : TimedEvent :=
  .instant ⟨none, milliseconds 5000, ⟨7⟩⟩

theorem chapter_is_merged :
    Merged skipsIntros ⟨some [chapter], 8⟩
      [.createTimedEvents, .addTimedEvent chapter, .ensurePreloadTimedEvent,
        .removeTimedEvent chapter, .createTimedEvents]
      (run (step skipsIntros) ⟨some [chapter], 8⟩
        [.createTimedEvents, .addTimedEvent chapter,
          .ensurePreloadTimedEvent, .removeTimedEvent chapter,
          .createTimedEvents]) := by
  apply timed_events_merged
  · decide
  · decide
  · decide
  · decide
  · decide
  · decide

/-- A second preload event stays, and segments are moved behind a chapter
that was added meanwhile. -/
theorem second_preload_stays_and_segments_move :
    ¬(run (step skipsIntros)
        ⟨some [preloadEvent skipsIntros 0, preloadEvent skipsIntros 1], 2⟩
        [.ensurePreloadTimedEvent, .createTimedEvents]).OnePreload ∧
      ((run (step skipsIntros) ⟨none, 8⟩
          [.ensurePreloadTimedEvent, .createTimedEvents,
            .addTimedEvent chapter]).createTimedEvents
          skipsIntros).events.map withoutIdentity ≠
        (run (step skipsIntros) ⟨none, 8⟩
          [.ensurePreloadTimedEvent, .createTimedEvents,
            .addTimedEvent chapter]).events.map withoutIdentity := by
  constructor
  · unfold OnePreload
    decide
  · decide

end EntryEvents

end JellyfinTv.Playback
