import JellyfinTv.Video.Routine

/-!
# What the operations of the controller may change

`Changes skips saves starts` bounds what an operation does.  The pending skip
changes only if the operation `skips`, the saved subtitle language only if it
`saves` one, and a stream is stored or handed over only if it `starts` one.
The other operations satisfy it for every choice of the three.
-/

namespace JellyfinTv.Video

open JellyfinTv.Library PlaybackController

/-- The calls that start a stream are not routine. -/
def Call.isRoutine : Call → Bool
  | .stored _ _ | .setMediaStreamInfo _ _ | .subtitleSelected _ _ => false
  | _ => true

theorem Call.isRoutine_of_isQuiet {call : Call} (quiet : call.isQuiet) :
    call.isRoutine := by
  cases call <;> first | rfl | cases quiet

namespace PlaybackController

/-- A video manager comes with a fragment, and a stream, also one that is about
to be rebuilt, with options. -/
structure Attached (controller : PlaybackController) : Prop where
  fragment : controller.mVideoManager.isSome → controller.hasFragment
  stream :
    controller.mCurrentStreamInfo.isSome → controller.mCurrentOptions.isSome
  rebuilt :
    ∀ request ∈ controller.requests,
      request.kind = .changeVideoStream → controller.mCurrentOptions.isSome

end PlaybackController

structure Changes (skips saves starts : Prop)
    (before after : PlaybackController) : Prop where
  skip :
    skips ∨
      (after.currentSkipPos = before.currentSkipPos ∧
        after.skipScheduled = before.skipScheduled)
  language :
    saves ∨
      after.lastPlayedSubtitleLanguageIsoCode =
        before.lastPlayedSubtitleLanguageIsoCode
  calls :
    ∃ made, after.calls = before.calls ++ made ∧
      (starts ∨ ∀ call ∈ made, call.isRoutine)
  options :
    before.mCurrentOptions.isSome → after.mCurrentOptions.isSome
  attached :
    (starts → before.mCurrentOptions.isSome) → before.Attached →
      after.Attached

section Routine

variable {skips saves starts : Prop}

/-- A write that makes no call. -/
theorem changes_silent {before after : PlaybackController}
    (skip :
      skips ∨
        (after.currentSkipPos = before.currentSkipPos ∧
          after.skipScheduled = before.skipScheduled))
    (language :
      saves ∨
        after.lastPlayedSubtitleLanguageIsoCode =
          before.lastPlayedSubtitleLanguageIsoCode)
    (calls : after.calls = before.calls)
    (options :
      before.mCurrentOptions.isSome → after.mCurrentOptions.isSome)
    (attached :
      (starts → before.mCurrentOptions.isSome) → before.Attached →
        after.Attached) :
    Changes skips saves starts before after where
  skip := skip
  language := language
  calls := ⟨[], by rw [calls, List.append_nil], Or.inr (by simp)⟩
  options := options
  attached := attached

theorem changes_of_watched {before after : PlaybackController}
    (same : after.watched = before.watched) :
    Changes skips saves starts before after := by
  simp only [watched, Prod.mk.injEq] at same
  obtain ⟨skip, scheduled, language, calls, manager, fragment, stream,
    options, requests⟩ := same
  refine changes_silent (Or.inr ⟨skip, scheduled⟩) (Or.inr language) calls
    ?_ ?_
  · rw [options]
    exact id
  · rintro - attached
    refine ⟨?_, ?_, ?_⟩
    · rw [manager, fragment]
      exact attached.fragment
    · rw [stream, options]
      exact attached.stream
    · rw [requests, options]
      exact attached.rebuilt

theorem changes_of_accounted {before after : PlaybackController}
    (same : after.accounted = before.accounted) :
    Changes skips saves starts before after :=
  changes_of_watched (congrArg Prod.fst same)

theorem Changes.trans {before middle after : PlaybackController}
    (first : Changes skips saves starts before middle)
    (second : Changes skips saves starts middle after) :
    Changes skips saves starts before after := by
  obtain ⟨made, madeCalls, madeRoutine⟩ := first.calls
  obtain ⟨later, laterCalls, laterRoutine⟩ := second.calls
  refine
    { skip := ?_
      language := ?_
      calls := ⟨made ++ later, ?_, ?_⟩
      options := second.options ∘ first.options
      attached := ?_ }
  · rcases first.skip with skipped | firstSame
    · exact Or.inl skipped
    · rcases second.skip with skipped | secondSame
      · exact Or.inl skipped
      · exact Or.inr
          ⟨secondSame.1.trans firstSame.1, secondSame.2.trans firstSame.2⟩
  · rcases first.language with saved | firstSame
    · exact Or.inl saved
    · rcases second.language with saved | secondSame
      · exact Or.inl saved
      · exact Or.inr (secondSame.trans firstSame)
  · rw [laterCalls, madeCalls, List.append_assoc]
  · rcases madeRoutine with started | madeRoutine
    · exact Or.inl started
    · rcases laterRoutine with started | laterRoutine
      · exact Or.inl started
      · right
        intro call member
        rcases List.mem_append.mp member with earlier | afterwards
        · exact madeRoutine call earlier
        · exact laterRoutine call afterwards
  · intro ready attached
    exact second.attached (first.options ∘ ready)
      (first.attached ready attached)

instance : IsPreorder PlaybackController (Changes skips saves starts) where
  refl _ := changes_of_watched rfl
  trans _ _ _ := Changes.trans

theorem changes_record (controller : PlaybackController) {call : Call}
    (routine : call.isRoutine) :
    Changes skips saves starts controller (controller.record call) := by
  refine ⟨Or.inr ⟨rfl, rfl⟩, Or.inr rfl, ⟨[call], rfl, Or.inr ?_⟩, id, ?_⟩
  · simpa using routine
  · rintro - attached
    exact ⟨attached.fragment, attached.stream, attached.rebuilt⟩

theorem changes_send (controller : PlaybackController) {request : Request}
    (ready :
      request.kind = .changeVideoStream →
        controller.mCurrentOptions.isSome) :
    Changes skips saves starts controller (controller.send request) := by
  refine changes_silent (Or.inr ⟨rfl, rfl⟩) (Or.inr rfl) rfl id ?_
  rintro - attached
  refine ⟨attached.fragment, attached.stream, ?_⟩
  intro sent member
  rcases List.mem_append.mp member with earlier | new
  · exact attached.rebuilt sent earlier
  · rw [List.mem_singleton.mp new]
    exact ready

theorem changes_eraseRequest (controller : PlaybackController)
    (index : Nat) :
    Changes skips saves starts controller
      { controller with
        requests := controller.requests.eraseIdx index } := by
  refine changes_silent (Or.inr ⟨rfl, rfl⟩) (Or.inr rfl) rfl id ?_
  rintro - attached
  refine ⟨attached.fragment, attached.stream, ?_⟩
  intro request member
  exact attached.rebuilt request (List.mem_of_mem_eraseIdx member)

theorem changes_clearPlaybackSessionOptions
    (controller : PlaybackController) :
    Changes skips saves starts controller
      controller.clearPlaybackSessionOptions := by
  refine changes_silent (Or.inr ⟨rfl, rfl⟩) (Or.inr rfl) rfl id ?_
  rintro - attached
  refine ⟨attached.fragment, ?_, attached.rebuilt⟩
  intro stored
  cases stored

theorem respects_stopping :
    Respects (Changes skips saves starts) stop := by
  unfold stop
  refine Respects.bind (Respects.modify fun controller => ?_) fun _ => ?_
  · exact changes_of_accounted (accounted_refreshCurrentPosition controller)
  refine Respects.bind (Respects.modify fun controller => ?_) fun _ => ?_
  · have looped :
        Changes skips saves starts controller
          { controller with reportLoop := none } :=
      changes_of_watched rfl
    refine looped.trans (changes_record _ ?_)
    rfl
  refine Respects.bind Respects.get fun controller => ?_
  refine Respects.ite (Respects.pure _) ?_
  refine Respects.bind ?_ fun _ => ?_
  · exact Respects.modify fun controller => changes_of_watched rfl
  refine Respects.bind ?_ fun _ => ?_
  · refine Respects.bind Respects.get fun _ => ?_
    exact Respects.ite (Respects.throw _) (Respects.pure _)
  refine Respects.bind ?_ fun _ => ?_
  · refine Respects.bind Respects.get fun controller => ?_
    split
    · refine Respects.ite (Respects.throw _) ?_
      refine Respects.modify fun controller => changes_record controller ?_
      rfl
    · exact Respects.pure _
  · exact Respects.modify changes_clearPlaybackSessionOptions

theorem changes_init (controller : PlaybackController)
    (readings : PlayerReadings) (directStreamLiveTv : Bool) :
    Changes skips saves starts controller
      (controller.init readings directStreamLiveTv) := by
  refine changes_silent (Or.inr ⟨rfl, rfl⟩) (Or.inr rfl) rfl id ?_
  rintro - attached
  exact ⟨fun _ => rfl, attached.stream, attached.rebuilt⟩

theorem changes_detach (controller : PlaybackController) :
    Changes skips saves starts controller
      { controller with hasFragment := false, mVideoManager := none } := by
  refine changes_silent (Or.inr ⟨rfl, rfl⟩) (Or.inr rfl) rfl id ?_
  rintro - attached
  refine ⟨?_, attached.stream, attached.rebuilt⟩
  intro present
  cases present

instance : Routine (Changes skips saves starts) where
  silent := changes_of_accounted
  record controller _ quiet :=
    changes_record controller (Call.isRoutine_of_isQuiet quiet)
  send controller _ ready _ := changes_send controller ready
  answer := changes_eraseRequest
  move _ _ _ := changes_of_watched rfl
  init := changes_init
  detach := changes_detach
  stop := respects_stopping

theorem changes_freesSkips (skipped : skips) :
    FreesSkips (Changes skips saves starts) := by
  intro controller pos seekPosition position scheduled
  refine changes_silent (Or.inl skipped) (Or.inr rfl) rfl id ?_
  rintro - attached
  exact ⟨attached.fragment, attached.stream, attached.rebuilt⟩

theorem changes_freesLanguages (saved : saves) :
    FreesLanguages (Changes skips saves starts) := by
  intro controller isoCode
  refine changes_silent (Or.inr ⟨rfl, rfl⟩) (Or.inl saved) rfl id ?_
  rintro - attached
  exact ⟨attached.fragment, attached.stream, attached.rebuilt⟩

theorem respects_startVideo :
    Respects (Changes skips saves starts) startVideo := by
  unfold startVideo
  refine Respects.bind Respects.get fun controller => ?_
  refine Respects.ite ?_ ?_
  · exact Respects.modify fun controller => changes_of_watched rfl
  · refine Respects.bind (respects_requireNotNull _) fun _ => ?_
    exact Respects.modify fun controller => changes_record controller rfl

theorem respects_segmentsLoaded (lookup : Lookup) :
    Respects (Changes skips saves starts) (segmentsLoaded lookup) := by
  unfold segmentsLoaded
  refine Respects.bind respects_startVideo fun _ => ?_
  refine Respects.bind Respects.get fun controller => ?_
  refine Respects.ite (Respects.throw _) ?_
  exact Respects.modify fun controller => changes_record controller rfl

end Routine

section Starting

variable {skips saves starts : Prop} (started : starts)

include started

theorem changes_start (controller : PlaybackController)
    (call : Call) :
    Changes skips saves starts controller (controller.record call) := by
  refine ⟨Or.inr ⟨rfl, rfl⟩, Or.inr rfl, ⟨[call], rfl, Or.inl started⟩, id, ?_⟩
  rintro - attached
  exact ⟨attached.fragment, attached.stream, attached.rebuilt⟩

theorem changes_store (controller : PlaybackController)
    (stream : StreamInfo) :
    Changes skips saves starts controller
      { controller with mCurrentStreamInfo := some stream } := by
  refine changes_silent (Or.inr ⟨rfl, rfl⟩) (Or.inr rfl) rfl id ?_
  intro ready attached
  exact ⟨attached.fragment, fun _ => ready started, attached.rebuilt⟩

omit started in
theorem changes_setOptions (controller : PlaybackController)
    (reference : Nat) :
    Changes skips saves starts controller
      { controller with mCurrentOptions := some reference } := by
  refine changes_silent (Or.inr ⟨rfl, rfl⟩) (Or.inr rfl) rfl (fun _ => rfl) ?_
  rintro - attached
  exact ⟨attached.fragment, fun _ => rfl, fun _ _ _ => rfl⟩

theorem changes_starting : Starting (Changes skips saves starts) where
  select controller _ _ := changes_start started controller _
  hand controller _ _ := changes_start started controller _
  look _ _ := changes_of_watched rfl

theorem respects_startItem (item : BaseItemDto)
    (position : Int) (stream : StreamInfo) :
    Respects (Changes skips saves starts) (startItem item position stream) := by
  unfold startItem
  refine Respects.bind Respects.get fun controller => ?_
  refine Respects.ite (Respects.pure _) ?_
  refine Respects.bind (respects_updateOptions _) fun _ => ?_
  refine Respects.bind (Respects.modify fun controller => ?_) fun _ => ?_
  · have stored :
        Changes skips saves starts controller
          { controller with mStartPosition := position } :=
      changes_of_watched rfl
    exact (stored.trans (changes_store started _ stream)).trans
      (changes_start started _ _)
  · exact respects_startStored (changes_starting started) _ _ _

theorem respects_onResponse (request : Request)
    (stream : StreamInfo) :
    Respects (Changes skips saves starts) (onResponse request stream) := by
  unfold onResponse
  refine Respects.bind Respects.get fun controller => ?_
  split
  · refine Respects.ite (Respects.pure _) ?_
    refine Respects.bind (Respects.modify fun controller => ?_) fun _ => ?_
    · exact changes_setOptions controller request.options
    · refine Respects.bind (respects_updateAnsweredSubs _ _) fun _ => ?_
      refine Respects.bind (respects_requireNotNull _) fun item => ?_
      exact respects_startItem started _ _ _
  · refine Respects.bind (Respects.modify fun controller => ?_) fun _ => ?_
    · exact (changes_store started controller stream).trans
        (changes_start started _ _)
    · refine Respects.bind (respects_updateBurningSubs _) fun _ => ?_
      refine Respects.ite (Respects.pure _) ?_
      refine Respects.modify fun controller => ?_
      exact (changes_start started controller _).trans
        (changes_start started _ _)

theorem respects_respond (index : Nat) (isActive : Bool)
    (answer : Answer) :
    Respects (Changes skips saves starts) (respond index isActive answer) := by
  unfold respond
  refine Respects.bind Respects.get fun controller => ?_
  split
  · exact Respects.pure _
  · refine Respects.bind (Respects.modify fun controller => ?_) fun _ => ?_
    · exact changes_eraseRequest controller index
    · refine Respects.ite (Respects.pure _) ?_
      refine Respects.bind (respects_requireNotNull _) fun options => ?_
      split
      · exact respects_onRequestError _
      · exact respects_onResponse started _ _

end Starting

/-- What one event may change. -/
theorem respects_handle (event : Event) :
    Respects (Changes event.skips event.saves event.starts)
      (handle event) := by
  cases event with
  | response index isActive answer =>
      exact respects_respond rfl index isActive answer
  | segmentsLoaded index =>
      refine Respects.bind Respects.get fun controller => ?_
      split
      · exact Respects.pure _
      · refine Respects.bind ?_ fun _ => respects_segmentsLoaded _
        exact Respects.modify fun controller => changes_of_watched rfl
  | delayedStart =>
      refine Respects.bind Respects.get fun controller => ?_
      refine Respects.ite ?_ (Respects.pure _)
      refine Respects.bind ?_ fun _ => Respects.ite (Respects.pure _) ?_
      · exact Respects.modify fun controller => changes_of_watched rfl
      · exact Respects.modify fun controller => changes_record controller rfl
  | _ =>
      exact respects_handle_of_plain rfl changes_freesSkips
        changes_freesLanguages

theorem changes_step (controller : PlaybackController) (event : Event) :
    Changes event.skips event.saves event.starts controller
      (step controller event) :=
  respects_handle event controller

theorem attached_create (settings : Settings) (items : List BaseItemDto)
    (startIndex : Nat) (audioLanguage subtitleLanguage : Option String) :
    (create settings items startIndex audioLanguage
      subtitleLanguage).Attached :=
  ⟨fun _ => rfl, id, fun _ member => absurd member List.not_mem_nil⟩

/-- An answered stream finds options: a new one brings its own, and a rebuilt
one was requested with some. -/
theorem attached_onResponse {controller : PlaybackController}
    (attached : controller.Attached) (request : Request)
    (ready :
      request.kind = .changeVideoStream →
        controller.mCurrentOptions.isSome)
    (stream : StreamInfo) :
    (finalState
      ((onResponse request stream).run controller)).Attached := by
  cases kind : request.kind with
  | changeVideoStream =>
      have changed :
          Changes False False True controller
            (finalState ((onResponse request stream).run controller)) :=
        respects_onResponse trivial request stream controller
      exact changed.attached (fun _ => ready kind) attached
  | videoStreamInfo =>
      simp only [onResponse, EStateM.run_bind, EStateM.run_get, kind]
      split
      · exact attached
      · have configured :
            { controller with
              mCurrentOptions := some request.options }.Attached :=
          ⟨attached.fragment, fun _ => rfl, fun _ _ _ => rfl⟩
        have started :
            Respects (Changes False False True) (do
              updateAnsweredSubs request stream
              startItem (← requireNotNull request.item) request.position
                stream) := by
          refine Respects.bind (respects_updateAnsweredSubs _ _) fun _ => ?_
          refine Respects.bind (respects_requireNotNull _) fun item => ?_
          exact respects_startItem trivial _ _ _
        exact (started _).attached (fun _ => rfl) configured

/-- A stream for an answered request. -/
structure Delivery where
  request : Request
  options : VideoOptions
  stream : StreamInfo

/-- The stream that an answer delivers, if it does. -/
def delivered (controller : PlaybackController) (index : Nat)
    (isActive : Bool) (answer : Answer) : Option Delivery :=
  (controller.requests[index]?.filter fun _ => isActive).bind fun request =>
    (controller.optionObjects[request.options]?).bind fun options =>
      (answer.bind (createStreamInfo options)).map fun stream =>
        ⟨request, options, stream⟩

/-- An answer without a stream is routine; another one goes to its callback. -/
theorem respond_cases
    (related : PlaybackController → PlaybackController → Prop)
    [Routine related] (controller : PlaybackController) (index : Nat)
    (isActive : Bool) (answer : Answer) :
    (delivered controller index isActive answer = none ∧
      related controller
        (step controller (.response index isActive answer))) ∨
      ∃ delivery,
        delivered controller index isActive answer = some delivery ∧
          delivery.request ∈ controller.requests ∧
          controller.optionObjects[delivery.request.options]? =
            some delivery.options ∧
          step controller (.response index isActive answer) =
            finalState ((onResponse delivery.request delivery.stream).run
              { controller with
                requests := controller.requests.eraseIdx index }) := by
  have erased :
      related controller
        { controller with
          requests := controller.requests.eraseIdx index } :=
    Routine.answer controller index
  simp only [delivered, step, handle, respond, EStateM.run_bind,
    EStateM.run_get]
  cases found : controller.requests[index]? with
  | none =>
      exact Or.inl ⟨rfl, Std.Refl.refl controller⟩
  | some request =>
      cases isActive with
      | false =>
          exact Or.inl ⟨rfl, erased⟩
      | true =>
          simp only [Option.filter_some, if_true, Option.bind_some]
          cases present : controller.optionObjects[request.options]? with
          | none =>
              exact Or.inl ⟨rfl, erased⟩
          | some options =>
              simp only [EStateM.run_bind, EStateM.run_modify, not_true,
                if_false, requireNotNull, EStateM.run_pure,
                Option.bind_some]
              cases offered : answer.bind (createStreamInfo options) with
              | none =>
                  refine Or.inl ⟨rfl, related_trans erased ?_⟩
                  exact respects_onRequestError request _
              | some stream =>
                  exact Or.inr ⟨⟨request, options, stream⟩, rfl,
                    List.mem_of_getElem? found, present, rfl⟩

theorem attached_step {controller : PlaybackController}
    (attached : controller.Attached) (event : Event) :
    (step controller event).Attached := by
  by_cases started : event.starts
  · cases event with
    | response index isActive answer =>
        rcases respond_cases (Changes False False False) controller index
            isActive answer with
          ⟨-, changed⟩ | ⟨delivery, -, member, -, stepped⟩
        · exact changed.attached False.elim attached
        · have erased :
              Changes False False False controller
                { controller with
                  requests := controller.requests.eraseIdx index } :=
            changes_eraseRequest controller index
          rw [stepped]
          exact attached_onResponse (erased.attached False.elim attached)
            delivery.request (attached.rebuilt delivery.request member)
            delivery.stream
    | _ =>
        cases started
  · exact (changes_step controller event).attached
      (fun starts => absurd starts started) attached

end JellyfinTv.Video
