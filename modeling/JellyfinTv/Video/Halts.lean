import JellyfinTv.Video.Answers

/-!
# What becomes of the current stream

Without an answer the current stream stays, or `stop` drops it and reports
that.  `stop` drops a stream silently only where the current index is outside
the list, which is so only as long as no request carries an item.
-/

namespace JellyfinTv.Video

open JellyfinTv.Library PlaybackController

/-- What a call means for the reports. -/
inductive Notice where
  | stored
  | started
  | reportedStart
  | reportedStopped
  deriving DecidableEq, Repr

namespace Call

def notice : Call → Option Notice
  | .stored _ _ => some .stored
  | .start => some .started
  | .reportStart _ _ _ => some .reportedStart
  | .reportStopped _ _ _ => some .reportedStopped
  | _ => none

theorem notice_of_isQuiet {call : Call} (quiet : call.isQuiet) :
    call.notice = none := by
  cases call <;> first | rfl | cases quiet

end Call

namespace PlaybackController

/-- The current index is inside the list, or no request carries an item. -/
def Backed (controller : PlaybackController) : Prop :=
  controller.Inside ∨ ∀ request ∈ controller.requests, request.item = none

/-- The part of the state that `Settles` speaks about. -/
def tracked (controller : PlaybackController) :=
  (controller.mItems, controller.mCurrentIndex, controller.requests,
    controller.lookups, controller.delayedStarts, controller.calls,
    controller.mCurrentStreamInfo)

end PlaybackController

/-- The current stream stays, or it is dropped. -/
inductive Halts (before after : PlaybackController)
    (notices : List Notice) : Prop where
  | kept
      (same : after.mCurrentStreamInfo = before.mCurrentStreamInfo)
      (silent : notices = [])
  | reported
      (present : before.mCurrentStreamInfo.isSome)
      (gone : after.mCurrentStreamInfo = none)
      (told : notices = [.reportedStopped])
  | dropped
      (outside : ¬before.Inside)
      (gone : after.mCurrentStreamInfo = none)
      (silent : notices = [])

/-- What an operation may change.  A lookup is added only if it `looks` for
segments. -/
structure Settles (looks : Prop) (before after : PlaybackController) :
    Prop where
  inside : before.Inside → after.Inside
  backed : before.Backed → after.Backed
  lookups :
    ∃ added, after.lookups = before.lookups ++ added ∧ (looks ∨ added = [])
  delayedStarts : after.delayedStarts = before.delayedStarts
  calls :
    ∃ made, after.calls = before.calls ++ made ∧
      Halts before after (made.filterMap Call.notice)

theorem Halts.trans {before middle after : PlaybackController}
    {early late : List Notice} (inside : before.Inside → middle.Inside)
    (first : Halts before middle early)
    (second : Halts middle after late) :
    Halts before after (early ++ late) := by
  cases second with
  | kept same silent =>
      rw [silent, List.append_nil]
      cases first with
      | kept first_same nothing =>
          exact .kept (same.trans first_same) nothing
      | reported present gone told =>
          exact .reported present (same.trans gone) told
      | dropped outside gone nothing =>
          exact .dropped outside (same.trans gone) nothing
  | reported present gone told =>
      cases first with
      | kept first_same nothing =>
          rw [nothing, told]
          exact .reported (first_same ▸ present) gone rfl
      | reported _ first_gone _ =>
          rw [first_gone] at present
          cases present
      | dropped _ first_gone _ =>
          rw [first_gone] at present
          cases present
  | dropped outside gone silent =>
      rw [silent, List.append_nil]
      cases first with
      | kept _ nothing =>
          exact .dropped (outside ∘ inside) gone nothing
      | reported present _ told =>
          exact .reported present gone told
      | dropped first_outside _ nothing =>
          exact .dropped first_outside gone nothing

/-- A stream that is still there was neither reported nor dropped. -/
theorem Halts.silent_of_isSome {before after : PlaybackController}
    {notices : List Notice} (halts : Halts before after notices)
    (present : after.mCurrentStreamInfo.isSome) : notices = [] := by
  cases halts with
  | kept _ silent =>
      exact silent
  | reported _ gone _ =>
      rw [gone] at present
      cases present
  | dropped _ gone _ =>
      rw [gone] at present
      cases present

section Settling

variable {looks : Prop}

theorem settles_of_calls {before after : PlaybackController}
    (inside : before.Inside → after.Inside)
    (backed : before.Backed → after.Backed)
    (lookups :
      ∃ added,
        after.lookups = before.lookups ++ added ∧ (looks ∨ added = []))
    (delayedStarts : after.delayedStarts = before.delayedStarts)
    (calls : ∃ made, after.calls = before.calls ++ made ∧
      made.filterMap Call.notice = [])
    (stream : after.mCurrentStreamInfo = before.mCurrentStreamInfo) :
    Settles looks before after := by
  obtain ⟨made, extended, silent⟩ := calls
  exact ⟨inside, backed, lookups, delayedStarts, made, extended,
    .kept stream silent⟩

theorem settles_of_tracked {before after : PlaybackController}
    (same : after.tracked = before.tracked) :
    Settles looks before after := by
  simp only [tracked, Prod.mk.injEq] at same
  obtain ⟨items, current, requests, lookups, delayed, calls, stream⟩ := same
  have inside : before.Inside → after.Inside := by
    rw [Inside, Inside, items, current]
    exact id
  refine settles_of_calls inside ?_ ?_ delayed ?_ stream
  · intro either
    rcases either with was_inside | itemless
    · exact Or.inl (inside was_inside)
    · right
      rw [requests]
      exact itemless
  · exact ⟨[], by rw [lookups, List.append_nil], Or.inr rfl⟩
  · exact ⟨[], by rw [calls, List.append_nil], rfl⟩

theorem settles_of_accounted {before after : PlaybackController}
    (same : after.accounted = before.accounted) :
    Settles looks before after := by
  simp only [accounted, watched, Prod.mk.injEq] at same
  apply settles_of_tracked
  simp only [tracked, same]

theorem Settles.trans {before middle after : PlaybackController}
    (first : Settles looks before middle)
    (second : Settles looks middle after) : Settles looks before after := by
  obtain ⟨made, made_calls, halted⟩ := first.calls
  obtain ⟨later, later_calls, halted_later⟩ := second.calls
  obtain ⟨added, first_lookups, first_looks⟩ := first.lookups
  obtain ⟨more, second_lookups, second_looks⟩ := second.lookups
  refine
    { inside := second.inside ∘ first.inside
      backed := second.backed ∘ first.backed
      lookups := ⟨added ++ more, ?_, ?_⟩
      delayedStarts := second.delayedStarts.trans first.delayedStarts
      calls := ⟨made ++ later, ?_, ?_⟩ }
  · rw [second_lookups, first_lookups, List.append_assoc]
  · rcases first_looks with looked | nothing
    · exact Or.inl looked
    · rw [nothing]
      exact second_looks
  · rw [later_calls, made_calls, List.append_assoc]
  · rw [List.filterMap_append]
    exact halted.trans first.inside halted_later

instance : IsPreorder PlaybackController (Settles looks) where
  refl _ := settles_of_tracked rfl
  trans _ _ _ := Settles.trans

theorem settles_record (controller : PlaybackController) {call : Call}
    (silent : call.notice = none) :
    Settles looks controller (controller.record call) := by
  refine settles_of_calls id id ?_ rfl ?_ rfl
  · exact ⟨[], (List.append_nil _).symm, Or.inr rfl⟩
  · refine ⟨[call], rfl, ?_⟩
    rw [List.filterMap_cons_none silent, List.filterMap_nil]

theorem settles_send (controller : PlaybackController) {request : Request}
    (current :
      request.item.isSome → controller.getCurrentlyPlayingItem.isSome) :
    Settles looks controller (controller.send request) := by
  refine settles_of_calls id ?_ ?_ rfl ?_ rfl
  · intro either
    rcases either with inside | itemless
    · exact Or.inl inside
    · cases carried : request.item with
      | some item =>
          rw [carried] at current
          exact Or.inl (inside_of_current (current rfl))
      | none =>
          right
          intro sent member
          rcases List.mem_append.mp member with earlier | new
          · exact itemless sent earlier
          · rw [List.mem_singleton.mp new]
            exact carried
  · exact ⟨[], (List.append_nil _).symm, Or.inr rfl⟩
  · exact ⟨[], (List.append_nil _).symm, rfl⟩

theorem settles_answer (controller : PlaybackController) (index : Nat) :
    Settles looks controller
      { controller with
        requests := controller.requests.eraseIdx index } := by
  refine settles_of_calls id ?_ ?_ rfl ?_ rfl
  · intro either
    rcases either with inside | itemless
    · exact Or.inl inside
    · right
      intro request member
      exact itemless request (List.mem_of_mem_eraseIdx member)
  · exact ⟨[], (List.append_nil _).symm, Or.inr rfl⟩
  · exact ⟨[], (List.append_nil _).symm, rfl⟩

theorem settles_move (controller : PlaybackController) {index : Nat}
    (inside : controller.Inside → index < controller.mItems.length) :
    Settles looks controller { controller with mCurrentIndex := index } := by
  refine settles_of_calls inside ?_ ?_ rfl ?_ rfl
  · exact Or.imp inside id
  · exact ⟨[], (List.append_nil _).symm, Or.inr rfl⟩
  · exact ⟨[], (List.append_nil _).symm, rfl⟩

/-- The end of `stop`. -/
theorem settles_reportStopped :
    Respects (Settles looks) (do
      reportStopped
      modify clearPlaybackSessionOptions) := by
  intro controller
  have lookups :
      ∃ added, controller.lookups = controller.lookups ++ added ∧
        (looks ∨ added = []) :=
    ⟨[], (List.append_nil _).symm, Or.inr rfl⟩
  simp only [reportStopped, EStateM.run_bind, EStateM.run_get]
  cases playing : controller.getCurrentlyPlayingItem with
  | none =>
      have outside : ¬controller.Inside := by
        rw [Inside, Nat.not_lt]
        exact List.getElem?_eq_none_iff.mp playing
      exact ⟨id, id, lookups, rfl, [], (List.append_nil _).symm,
        .dropped outside rfl rfl⟩
  | some item =>
      cases present : controller.mCurrentStreamInfo with
      | none =>
          exact ⟨id, id, lookups, rfl, [], (List.append_nil _).symm,
            .kept present.symm rfl⟩
      | some stream =>
          dsimp only
          by_cases fragment : controller.hasFragment
          · rw [if_neg (not_not.mpr fragment)]
            refine ⟨id, id, lookups, rfl, [_], rfl, ?_⟩
            exact .reported (Option.isSome_of_mem present) rfl rfl
          · rw [if_pos fragment]
            exact Std.Refl.refl controller

theorem settles_stop : Respects (Settles looks) stop := by
  unfold stop
  refine Respects.bind (Respects.modify fun controller => ?_) fun _ => ?_
  · exact settles_of_accounted (accounted_refreshCurrentPosition controller)
  refine Respects.bind (Respects.modify fun controller => ?_) fun _ => ?_
  · have looped :
        Settles looks controller { controller with reportLoop := none } :=
      settles_of_tracked rfl
    refine looped.trans (settles_record _ ?_)
    rfl
  refine Respects.bind Respects.get fun controller => ?_
  refine Respects.ite (Respects.pure _) ?_
  refine Respects.bind ?_ fun _ => ?_
  · exact Respects.modify fun controller => settles_of_tracked rfl
  refine Respects.bind ?_ fun _ => settles_reportStopped
  refine Respects.bind Respects.get fun _ => ?_
  exact Respects.ite (Respects.throw _) (Respects.pure _)

instance : Routine (Settles looks) where
  silent := settles_of_accounted
  record controller _ quiet :=
    settles_record controller (Call.notice_of_isQuiet quiet)
  send controller _ _ current := settles_send controller current
  answer := settles_answer
  move := settles_move
  init _ _ _ := settles_of_tracked rfl
  detach _ := settles_of_tracked rfl
  stop := settles_stop

theorem settles_starting (looked : looks) : Starting (Settles looks) where
  select controller _ _ := settles_record controller rfl
  hand controller _ _ := settles_record controller rfl
  look controller lookup := by
    refine settles_of_calls id id ?_ rfl ?_ rfl
    · exact ⟨[lookup], rfl, Or.inl looked⟩
    · exact ⟨[], (List.append_nil _).symm, rfl⟩

end Settling

/-- What becomes of a stream that was just stored. -/
inductive Launch (after : PlaybackController) (notices : List Notice) :
    Prop where
  | waiting
      (present : after.mCurrentStreamInfo.isSome)
      (silent : notices = [])
  | started
      (present : after.mCurrentStreamInfo.isSome)
      (told : notices = [.started])
  | reported
      (gone : after.mCurrentStreamInfo = none)
      (told : notices = [.reportedStopped])
  | dropped
      (gone : after.mCurrentStreamInfo = none)
      (silent : notices = [])

/-- What an operation that stores a stream may change. -/
structure Stores (looks : Prop) (before after : PlaybackController) :
    Prop where
  inside : before.Inside → after.Inside
  backed : before.Backed → after.Backed
  lookups :
    ∃ added, after.lookups = before.lookups ++ added ∧ (looks ∨ added = [])
  delayedStarts : after.delayedStarts = before.delayedStarts
  calls :
    ∃ stream item made,
      after.calls = before.calls ++ .stored stream item :: made ∧
        Launch after (made.filterMap Call.notice)

/-- The stream is stored, then playback settles, and then the player may be
started for it. -/
theorem stores_of_settles {looks : Prop}
    {before ready handed after : PlaybackController}
    {stream : StreamInfo} {item : Option BaseItemDto}
    (same : ready.tracked = before.tracked)
    (settled :
      Settles looks
        ({ ready with mCurrentStreamInfo := some stream }.record
          (.stored stream item)) handed)
    (reached :
      after = handed ∨
        handed.mCurrentStreamInfo.isSome ∧ after = handed.record .start) :
    Stores looks before after := by
  have readied : Settles looks before ready := settles_of_tracked same
  have inside : before.Inside → handed.Inside := fun was_inside =>
    settled.inside (readied.inside was_inside)
  have backed : before.Backed → handed.Backed := fun was_backed =>
    settled.backed (readied.backed was_backed)
  simp only [tracked, Prod.mk.injEq] at same
  obtain ⟨-, -, -, ready_lookups, ready_starts, ready_calls, -⟩ := same
  have lookups := settled.lookups
  have starts := settled.delayedStarts
  obtain ⟨made, made_calls, halts⟩ := settled.calls
  simp only [record, ready_lookups, ready_starts] at lookups starts
  have calls :
      handed.calls = before.calls ++ .stored stream item :: made := by
    rw [made_calls, record, ready_calls, List.append_assoc,
      List.singleton_append]
  rcases reached with rfl | ⟨present, rfl⟩
  · refine ⟨inside, backed, lookups, starts, stream, item, made, calls, ?_⟩
    cases halts with
    | kept stays silent =>
        exact .waiting (by rw [stays]; rfl) silent
    | reported _ gone told =>
        exact .reported gone told
    | dropped _ gone silent =>
        exact .dropped gone silent
  · refine ⟨inside, backed, lookups, starts, stream, item,
      made ++ [.start], ?_, .started present ?_⟩
    · rw [record, calls, List.append_assoc, List.cons_append]
    · rw [List.filterMap_append, halts.silent_of_isSome present]
      rfl

theorem stores_rebuilt {looks : Prop} (controller : PlaybackController)
    {request : Request} (kind : request.kind = .changeVideoStream)
    (stream : StreamInfo) :
    Stores looks controller
      (finalState ((onResponse request stream).run controller)) := by
  have stored :=
    updateBurningSubs_run
      ({ controller with mCurrentStreamInfo := some stream }.record
        (.stored stream controller.getCurrentlyPlayingItem)) stream
  simp only [onResponse, EStateM.run_bind, EStateM.run_get, kind,
    EStateM.run_modify]
  rcases stored with ⟨burned, ran, -⟩ | ⟨exception, ran, -⟩
  · have burnt :
        Settles looks
          ({ controller with mCurrentStreamInfo := some stream }.record
            (.stored stream controller.getCurrentlyPlayingItem))
          { ({ controller with mCurrentStreamInfo := some stream }.record
            (.stored stream controller.getCurrentlyPlayingItem)) with
            burningSubs := burned } :=
      settles_of_tracked rfl
    rw [ran]
    dsimp only
    split
    · exact stores_of_settles rfl burnt (Or.inl rfl)
    · exact stores_of_settles rfl (burnt.trans (settles_record _ rfl))
        (Or.inr ⟨rfl, rfl⟩)
  · rw [ran]
    exact stores_of_settles rfl (settles_of_tracked rfl) (Or.inl rfl)

/-- An answer with a stream is ignored or stores the stream; segments are
looked up only for an item. -/
theorem onResponse_settles (controller : PlaybackController)
    (request : Request) (stream : StreamInfo) :
    Settles False controller
        (finalState ((onResponse request stream).run controller)) ∨
      storesStream controller request stream = true ∧
        Stores request.item.isSome controller
          (finalState ((onResponse request stream).run controller)) := by
  cases kind : request.kind with
  | changeVideoStream =>
      refine Or.inr ⟨?_, stores_rebuilt controller kind stream⟩
      simp only [storesStream, kind]
  | videoStreamInfo =>
      rcases onResponse_new_cases controller kind stream with
        ⟨_, _, _, reached⟩ | ⟨stores, item, burned, carried, ready, reached⟩
      · rw [reached]
        exact Or.inl (settles_of_tracked rfl)
      · have present :
            { controller with
              mCurrentOptions := some request.options
              burningSubs := burned }.mCurrentOptions =
              some request.options :=
          rfl
        rw [reached, startItem_run present ready]
        have looked : request.item.isSome := by
          rw [carried]
          rfl
        let prepared : PlaybackController :=
          { controller with
            mCurrentOptions := some request.options
            burningSubs := burned
            optionObjects :=
              controller.optionObjects.modify request.options fun options =>
                { options with audioStreamIndex := none }
            mStartPosition := request.position }
        have same : prepared.tracked = controller.tracked := rfl
        have started :=
          respects_startStored (settles_starting looked) item
            request.position stream
            ({ prepared with mCurrentStreamInfo := some stream }.record
              (.stored stream controller.getCurrentlyPlayingItem))
        exact Or.inr ⟨stores, stores_of_settles same started (Or.inl rfl)⟩

/-- What an answer may change. -/
theorem respond_settles (controller : PlaybackController) (index : Nat)
    (isActive : Bool) (answer : Answer) :
    Settles False controller
        (step controller (.response index isActive answer)) ∨
      ∃ delivery,
        delivered controller index isActive answer = some delivery ∧
          storesStream controller delivery.request delivery.stream = true ∧
          delivery.request ∈ controller.requests ∧
          Stores delivery.request.item.isSome
            { controller with
              requests := controller.requests.eraseIdx index }
            (step controller (.response index isActive answer)) := by
  rcases respond_cases (Settles False) controller index isActive answer with
    ⟨-, settled⟩ | ⟨delivery, answered, member, -, stepped⟩
  · exact Or.inl settled
  · rw [stepped]
    rcases onResponse_settles
        { controller with requests := controller.requests.eraseIdx index }
        delivery.request delivery.stream with settled | ⟨stores, stored⟩
    · exact Or.inl ((settles_answer controller index).trans settled)
    · exact Or.inr ⟨delivery, answered, stores, member, stored⟩

theorem step_segmentsLoaded_of_none {controller : PlaybackController}
    {index : Nat} (missing : controller.lookups[index]? = none) :
    step controller (.segmentsLoaded index) = controller := by
  simp only [step, handle, EStateM.run_bind, EStateM.run_get, missing]
  rfl

/-- A lookup that completes reports the start of its stream, but not without
the fragment. -/
theorem step_segmentsLoaded {controller : PlaybackController}
    {index : Nat} {lookup : Lookup} (attached : controller.Attached)
    (found : controller.lookups[index]? = some lookup) :
    ∃ later made,
      step controller (.segmentsLoaded index) =
          { controller with
            lookups := controller.lookups.eraseIdx index
            delayedStarts := controller.delayedStarts + later
            calls := controller.calls ++ made } ∧
        (made.filterMap Call.notice = [] ∨
          controller.hasFragment ∧
            (made.filterMap Call.notice = [.reportedStart] ∨
              made.filterMap Call.notice =
                [.started, .reportedStart])) := by
  let report : Call :=
    .reportStart lookup.item lookup.stream lookup.position
  simp only [step, handle, segmentsLoaded, startVideo, EStateM.run_bind,
    EStateM.run_get, found, EStateM.run_modify]
  by_cases delays : controller.settings.delaysVideoStart
  · rw [if_pos delays]
    simp only [EStateM.run_modify]
    by_cases fragment : controller.hasFragment
    · rw [if_neg (not_not.mpr fragment)]
      exact ⟨1, [report], rfl, Or.inr ⟨fragment, Or.inl rfl⟩⟩
    · rw [if_pos fragment]
      refine ⟨1, [], ?_, Or.inl rfl⟩
      rw [List.append_nil]
      rfl
  · rw [if_neg delays]
    cases present : controller.mVideoManager with
    | none =>
        refine ⟨0, [], ?_, Or.inl rfl⟩
        rw [List.append_nil]
        simp only [EStateM.run_bind, requireNotNull]
        rfl
    | some manager =>
        have fragment : controller.hasFragment :=
          attached.fragment (Option.isSome_of_mem present)
        simp only [EStateM.run_bind, requireNotNull, EStateM.run_pure,
          EStateM.run_modify, record]
        rw [if_neg (not_not.mpr fragment)]
        refine ⟨0, [.start, report], ?_, Or.inr ⟨fragment, Or.inr rfl⟩⟩
        simp only [EStateM.run_modify, finalState_ok, report,
          List.append_assoc, List.cons_append, List.nil_append]
        rfl

theorem step_delayedStart_of_none {controller : PlaybackController}
    (none_waits : controller.delayedStarts = 0) :
    step controller .delayedStart = controller := by
  simp only [step, handle, EStateM.run_bind, EStateM.run_get, none_waits]
  rfl

/-- A delayed start finds the video manager or does nothing. -/
theorem step_delayedStart {controller : PlaybackController}
    (waits : controller.delayedStarts > 0) :
    ∃ made,
      step controller .delayedStart =
          { controller with
            delayedStarts := controller.delayedStarts - 1
            calls := controller.calls ++ made } ∧
        (made.filterMap Call.notice = [] ∨
          controller.mVideoManager.isSome ∧
            made.filterMap Call.notice = [.started]) := by
  simp only [step, handle, EStateM.run_bind, EStateM.run_get]
  rw [if_pos waits]
  simp only [EStateM.run_bind, EStateM.run_modify]
  cases present : controller.mVideoManager with
  | none =>
      refine ⟨[], ?_, Or.inl rfl⟩
      rw [if_pos rfl, List.append_nil]
      rfl
  | some manager =>
      refine ⟨[.start], ?_, Or.inr ⟨rfl, rfl⟩⟩
      rw [if_neg (by rintro ⟨⟩)]
      rfl

end JellyfinTv.Video
