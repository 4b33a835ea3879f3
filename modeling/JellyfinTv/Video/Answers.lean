import JellyfinTv.Video.Effects

/-!
# What an answered request does

The callback of an answered request stores the stream, chooses the subtitles
and hands the stream to the player, and it may stop at each of these points.
`startedCalls` lists the calls it makes until then; what follows is routine.
-/

namespace JellyfinTv.Video

open JellyfinTv.Library PlaybackController

/-- Whether the stream is stored as the current one. -/
def storesStream (controller : PlaybackController) (request : Request)
    (stream : StreamInfo) : Bool :=
  match request.kind with
  | .changeVideoStream => true
  | .videoStreamInfo =>
      controller.initializedManager.isSome && controller.hasFragment &&
        request.item.isSome &&
        (request.isLiveTv || stream.getSubtitleDeliveryMethod.isOk)

/-- The source of a new stream that can be played. -/
def startedSource (controller : PlaybackController) (request : Request)
    (stream : StreamInfo) : Option MediaSourceInfo :=
  match request.kind with
  | .changeVideoStream => none
  | .videoStreamInfo =>
      if storesStream controller request stream ∧ stream.hasMediaUrl then
        stream.mediaSource
      else
        none

/-- Whether the stream is handed to the video manager. -/
def handsOver (controller : PlaybackController) (request : Request)
    (stream : StreamInfo) : Bool :=
  match request.kind with
  | .changeVideoStream =>
      controller.mVideoManager.isSome && stream.getSubtitleDeliveryMethod.isOk
  | .videoStreamInfo =>
      (startedSource controller request stream).any fun source =>
        controller.mDefaultAudioIndex ≠ -1 || source.mediaStreams.isSome

/-- The choice of subtitles as it is recorded. -/
def subtitleCall (controller : PlaybackController) (options : VideoOptions)
    (source : MediaSourceInfo) : Call :=
  .subtitleSelected source.defaultSubtitleStreamIndex
    (selectSubtitle controller.lastPlayedSubtitleLanguageIsoCode
      options.subtitleStreamIndex source)

def startedCalls (controller : PlaybackController) (request : Request)
    (options : VideoOptions) (stream : StreamInfo) : List Call :=
  (if storesStream controller request stream then
    [.stored stream controller.getCurrentlyPlayingItem]
  else
    []) ++
    ((startedSource controller request stream).map
      (subtitleCall controller options)).toList ++
    if handsOver controller request stream then
      [.setMediaStreamInfo stream controller.getCurrentlyPlayingItem]
    else
      []

theorem requireNotNull_run {Value : Type} {value : Option Value}
    {present : Value} (found : value = some present)
    (controller : PlaybackController) :
    (requireNotNull value).run controller = .ok present controller := by
  rw [found]
  rfl

theorem updateOptions_run {controller : PlaybackController}
    {reference : Nat}
    (present : controller.mCurrentOptions = some reference)
    (change : VideoOptions → VideoOptions) :
    (updateOptions change).run controller =
      .ok ()
        { controller with
          optionObjects :=
            controller.optionObjects.modify reference change } := by
  simp only [updateOptions, EStateM.run_bind, EStateM.run_get, present,
    requireNotNull, EStateM.run_pure, EStateM.run_modify]

theorem currentOptions_run {controller : PlaybackController}
    {options : VideoOptions}
    (found : controller.videoOptions = some options) :
    currentOptions.run controller = .ok options controller := by
  simp only [currentOptions, EStateM.run_bind, EStateM.run_get, found,
    requireNotNull, EStateM.run_pure]

theorem setDefaultAudioIndex_run (controller : PlaybackController)
    (source : MediaSourceInfo) :
    (∃ index,
        (setDefaultAudioIndex source).run controller =
          .ok () { controller with mDefaultAudioIndex := index } ∧
        (controller.mDefaultAudioIndex ≠ -1 ∨
          source.mediaStreams.isSome)) ∨
      (setDefaultAudioIndex source).run controller =
          .error .nullPointer controller ∧
        controller.mDefaultAudioIndex = -1 ∧
        source.mediaStreams = none := by
  simp only [setDefaultAudioIndex, EStateM.run_bind, EStateM.run_get]
  by_cases known : controller.mDefaultAudioIndex ≠ -1
  · rw [if_pos known]
    exact Or.inl ⟨controller.mDefaultAudioIndex, rfl, Or.inl known⟩
  · rw [if_neg known]
    cases streams : source.mediaStreams with
    | none =>
        exact Or.inr ⟨rfl, not_not.mp known, rfl⟩
    | some streams =>
        exact Or.inl ⟨_, rfl, Or.inr rfl⟩

theorem startStream_calls {controller : PlaybackController}
    {reference : Nat} {options : VideoOptions}
    (present : controller.mCurrentOptions = some reference)
    (found : controller.optionObjects[reference]? = some options)
    (item : BaseItemDto) (position : Int) (stream : StreamInfo)
    (source : MediaSourceInfo) :
    (finalState
      ((startStream item position stream source).run controller)).calls =
      controller.calls ++ subtitleCall controller options source ::
        if controller.mDefaultAudioIndex ≠ -1 ∨
            source.mediaStreams.isSome then
          [.setMediaStreamInfo stream controller.getCurrentlyPlayingItem]
        else
          [] := by
  have known : controller.videoOptions = some options := by
    rw [videoOptions, present, Option.bind_some, found]
  have selected :=
    setDefaultAudioIndex_run
      ({ controller with
        optionObjects :=
          controller.optionObjects.modify reference fun stored =>
            { stored with
              subtitleStreamIndex :=
                selectSubtitle controller.lastPlayedSubtitleLanguageIsoCode
                  options.subtitleStreamIndex source } }.record
        (subtitleCall controller options source)) source
  simp only [startStream, EStateM.run_bind,
    currentOptions_run known, EStateM.run_get,
    updateOptions_run present, EStateM.run_modify]
  rcases selected with ⟨index, ran, known⟩ | ⟨ran, unknown, missing⟩
  · have handed :
        controller.mDefaultAudioIndex ≠ -1 ∨ source.mediaStreams.isSome :=
      known
    rw [if_pos handed]
    simp only [subtitleCall] at ran
    rw [ran]
    simp [record, subtitleCall, getCurrentlyPlayingItem]
  · have held :
        ¬(controller.mDefaultAudioIndex ≠ -1 ∨
          source.mediaStreams.isSome) := by
      have index : controller.mDefaultAudioIndex = -1 := unknown
      simp [index, missing]
    rw [if_neg held]
    simp only [subtitleCall] at ran
    rw [ran]
    rfl

/-- The calls of `startItem` after the stream is stored. -/
def playedCalls (controller : PlaybackController) (options : VideoOptions)
    (stream : StreamInfo) : List Call :=
  match stream.mediaSource.filter fun _ => stream.hasMediaUrl with
  | none => []
  | some source =>
      subtitleCall controller options source ::
        if controller.mDefaultAudioIndex ≠ -1 ∨
            source.mediaStreams.isSome then
          [.setMediaStreamInfo stream controller.getCurrentlyPlayingItem]
        else
          []

theorem startStored_calls {controller : PlaybackController}
    {reference : Nat} {options : VideoOptions}
    (present : controller.mCurrentOptions = some reference)
    (found : controller.optionObjects[reference]? = some options)
    (item : BaseItemDto) (position : Int) (stream : StreamInfo) :
    ∃ tail, (∀ call ∈ tail, call.isRoutine) ∧
      (finalState
        ((startStored item position stream).run controller)).calls =
        controller.calls ++ playedCalls controller options stream ++
          tail := by
  cases chosen : stream.mediaSource with
  | none =>
      refine ⟨[], by simp, ?_⟩
      simp only [startStored, chosen, requireNotNull, playedCalls,
        Option.filter_none, List.append_nil]
      rfl
  | some source =>
      simp only [startStored, chosen, requireNotNull, EStateM.run_bind,
        EStateM.run_pure, updateOptions_run present, playedCalls]
      by_cases url : stream.hasMediaUrl
      · have updated :
            (controller.optionObjects.modify reference fun options =>
              { options with
                mediaSourceId := some source.id })[reference]? =
              some { options with mediaSourceId := some source.id } := by
          simp [found]
        have configured :
            { controller with
              optionObjects :=
                controller.optionObjects.modify reference fun options =>
                  { options with
                    mediaSourceId := some source.id } }.mCurrentOptions =
              some reference :=
          present
        refine ⟨[], by simp, ?_⟩
        rw [if_neg (by simp [url]), List.append_nil]
        simp only [url, Option.filter_some, if_true]
        exact startStream_calls configured updated item position stream
          source
      · have retried :
            Respects (Changes False False False)
              (retryWithoutSubtitles position stream) :=
          respects_retryWithoutSubtitles position stream
        obtain ⟨tail, made, routine⟩ := (retried _).calls
        refine ⟨tail, routine.resolve_left id, ?_⟩
        rw [if_pos url, made]
        simp [url]

theorem startItem_run_of_blocked {controller : PlaybackController}
    (blocked :
      controller.initializedManager = none ∨ ¬controller.hasFragment)
    (item : BaseItemDto) (position : Int) (stream : StreamInfo) :
    (startItem item position stream).run controller =
      .ok () controller := by
  simp only [startItem, EStateM.run_bind, EStateM.run_get]
  rw [if_pos blocked]
  rfl

theorem startItem_run {controller : PlaybackController}
    {reference : Nat}
    (present : controller.mCurrentOptions = some reference)
    (ready :
      ¬(controller.initializedManager = none ∨ ¬controller.hasFragment))
    (item : BaseItemDto) (position : Int) (stream : StreamInfo) :
    (startItem item position stream).run controller =
      (startStored item position stream).run
        ({ controller with
          optionObjects :=
            controller.optionObjects.modify reference fun options =>
              { options with audioStreamIndex := none }
          mStartPosition := position
          mCurrentStreamInfo := some stream }.record
          (.stored stream controller.getCurrentlyPlayingItem)) := by
  simp only [startItem, EStateM.run_bind, EStateM.run_get]
  rw [if_neg ready]
  simp only [EStateM.run_bind, updateOptions_run present,
    EStateM.run_modify]
  rfl

theorem startItem_calls {controller : PlaybackController}
    {reference : Nat} {options : VideoOptions}
    (present : controller.mCurrentOptions = some reference)
    (found : controller.optionObjects[reference]? = some options)
    (ready :
      ¬(controller.initializedManager = none ∨ ¬controller.hasFragment))
    (item : BaseItemDto) (position : Int) (stream : StreamInfo) :
    ∃ tail, (∀ call ∈ tail, call.isRoutine) ∧
      (finalState
        ((startItem item position stream).run controller)).calls =
        controller.calls ++
          .stored stream controller.getCurrentlyPlayingItem ::
            playedCalls controller options stream ++ tail := by
  have updated :
      (controller.optionObjects.modify reference fun options =>
        { options with audioStreamIndex := none })[reference]? =
        some { options with audioStreamIndex := none } := by
    simp [found]
  have configured :
      ({ controller with
        optionObjects :=
          controller.optionObjects.modify reference fun options =>
            { options with audioStreamIndex := none }
        mStartPosition := position
        mCurrentStreamInfo := some stream }.record
        (.stored stream
          controller.getCurrentlyPlayingItem)).mCurrentOptions =
        some reference :=
    present
  obtain ⟨tail, routine, made⟩ :=
    startStored_calls configured updated item position stream
  refine ⟨tail, routine, ?_⟩
  rw [startItem_run present ready, made]
  change
    controller.calls ++ [.stored stream controller.getCurrentlyPlayingItem] ++
        playedCalls controller options stream ++ tail = _
  simp

theorem startedCalls_of_stores {controller : PlaybackController}
    {request : Request} {stream : StreamInfo}
    (kind : request.kind = .videoStreamInfo)
    (stores : storesStream controller request stream)
    (options : VideoOptions) :
    startedCalls controller request options stream =
      .stored stream controller.getCurrentlyPlayingItem ::
        playedCalls controller options stream := by
  have source :
      startedSource controller request stream =
        stream.mediaSource.filter fun _ => stream.hasMediaUrl := by
    simp only [startedSource, kind, stores, true_and]
    cases stream.mediaSource with
    | none =>
        simp
    | some source =>
        simp [Option.filter]
  simp only [startedCalls, stores, if_true, source, handsOver, kind,
    playedCalls]
  cases stream.mediaSource.filter fun _ => stream.hasMediaUrl with
  | none =>
      rfl
  | some source =>
      simp

theorem startedCalls_of_not_stores {controller : PlaybackController}
    {request : Request} {stream : StreamInfo}
    (kind : request.kind = .videoStreamInfo)
    (skipped : storesStream controller request stream = false)
    (options : VideoOptions) :
    startedCalls controller request options stream = [] := by
  have source : startedSource controller request stream = none := by
    simp [startedSource, kind, skipped]
  simp [startedCalls, skipped, source, handsOver, kind]

theorem updateBurningSubs_run (controller : PlaybackController)
    (stream : StreamInfo) :
    (∃ burned,
        (updateBurningSubs stream).run controller =
          .ok () { controller with burningSubs := burned } ∧
        stream.getSubtitleDeliveryMethod.isOk) ∨
      ∃ exception,
        (updateBurningSubs stream).run controller =
          .error exception controller ∧
        stream.getSubtitleDeliveryMethod.isOk = false := by
  simp only [updateBurningSubs, EStateM.run_bind]
  cases stream.getSubtitleDeliveryMethod with
  | ok method =>
      exact Or.inl ⟨_, rfl, rfl⟩
  | error exception =>
      exact Or.inr ⟨exception, rfl, rfl⟩

theorem updateAnsweredSubs_run (controller : PlaybackController)
    (request : Request) (stream : StreamInfo) :
    (∃ burned,
        (updateAnsweredSubs request stream).run controller =
          .ok () { controller with burningSubs := burned } ∧
        (request.isLiveTv ||
          stream.getSubtitleDeliveryMethod.isOk) = true) ∨
      ∃ exception,
        (updateAnsweredSubs request stream).run controller =
          .error exception controller ∧
        (request.isLiveTv ||
          stream.getSubtitleDeliveryMethod.isOk) = false := by
  unfold updateAnsweredSubs
  cases request.isLiveTv with
  | true =>
      exact Or.inl ⟨controller.burningSubs, rfl, rfl⟩
  | false =>
      exact updateBurningSubs_run controller stream

theorem onResponse_calls_of_rebuilt (controller : PlaybackController)
    {request : Request} (kind : request.kind = .changeVideoStream)
    (options : VideoOptions) (stream : StreamInfo) :
    ∃ tail, (∀ call ∈ tail, call.isRoutine) ∧
      (finalState ((onResponse request stream).run controller)).calls =
        controller.calls ++ startedCalls controller request options stream ++
          tail := by
  simp only [onResponse, EStateM.run_bind, EStateM.run_get, kind,
    EStateM.run_modify, startedCalls, storesStream, startedSource,
    handsOver]
  rcases updateBurningSubs_run
      ({ controller with mCurrentStreamInfo := some stream }.record
        (.stored stream controller.getCurrentlyPlayingItem)) stream with
    ⟨burned, ran, answered⟩ | ⟨exception, ran, failed⟩
  · simp only [record, getCurrentlyPlayingItem] at ran ⊢
    rw [ran]
    cases manager : controller.mVideoManager with
    | none =>
        exact ⟨[], by simp, by simp⟩
    | some manager =>
        refine ⟨[.start], by simp [Call.isRoutine], ?_⟩
        simp [answered]
  · simp only [record, getCurrentlyPlayingItem] at ran ⊢
    rw [ran]
    exact ⟨[], by simp, by simp [failed]⟩

/-- The answer to `playInternal` is ignored or starts the item. -/
theorem onResponse_new_cases (controller : PlaybackController)
    {request : Request} (kind : request.kind = .videoStreamInfo)
    (stream : StreamInfo) :
    (storesStream controller request stream = false ∧
      ∃ options burned,
        finalState ((onResponse request stream).run controller) =
          { controller with
            mCurrentOptions := options
            burningSubs := burned }) ∨
      storesStream controller request stream = true ∧
        ∃ item burned, request.item = some item ∧
          ¬(controller.initializedManager = none ∨
            ¬controller.hasFragment) ∧
          (onResponse request stream).run controller =
            (startItem item request.position stream).run
              { controller with
                mCurrentOptions := some request.options
                burningSubs := burned } := by
  simp only [onResponse, EStateM.run_bind, EStateM.run_get, kind]
  by_cases missing : controller.mVideoManager = none
  · rw [if_pos missing]
    refine Or.inl ⟨?_, controller.mCurrentOptions, controller.burningSubs, rfl⟩
    simp [storesStream, kind, initializedManager, missing]
  · rw [if_neg missing]
    simp only [EStateM.run_bind, EStateM.run_modify]
    rcases updateAnsweredSubs_run
        { controller with mCurrentOptions := some request.options }
        request stream with
      ⟨burned, ran, answered⟩ | ⟨exception, ran, failed⟩
    · rw [ran]
      cases present : request.item with
      | none =>
          refine Or.inl ⟨?_, some request.options, burned, rfl⟩
          simp [storesStream, kind, present]
      | some item =>
          simp only [requireNotNull, EStateM.run_pure]
          by_cases blocked :
              controller.initializedManager = none ∨ ¬controller.hasFragment
          · have stuck :
                { controller with
                  mCurrentOptions := some request.options
                  burningSubs := burned }.initializedManager = none ∨
                  ¬controller.hasFragment :=
              blocked
            rw [startItem_run_of_blocked stuck]
            refine Or.inl ⟨?_, some request.options, burned, rfl⟩
            rcases blocked with missing | detached
            · simp [storesStream, kind, missing]
            · simp [storesStream, kind, detached]
          · refine Or.inr ⟨?_, item, burned, rfl, blocked, rfl⟩
            rw [not_or, not_not] at blocked
            simp only [storesStream, kind, present, blocked.2, answered]
            simp [Option.isSome_iff_ne_none, blocked.1]
    · rw [ran]
      refine
        Or.inl ⟨?_, some request.options, controller.burningSubs, rfl⟩
      simp only [storesStream, kind, failed, Bool.and_false]

theorem onResponse_calls_of_new {controller : PlaybackController}
    {request : Request} {options : VideoOptions}
    (kind : request.kind = .videoStreamInfo)
    (found : controller.optionObjects[request.options]? = some options)
    (stream : StreamInfo) :
    ∃ tail, (∀ call ∈ tail, call.isRoutine) ∧
      (finalState ((onResponse request stream).run controller)).calls =
        controller.calls ++ startedCalls controller request options stream ++
          tail := by
  rcases onResponse_new_cases controller kind stream with
    ⟨skipped, _, _, reached⟩ | ⟨stores, item, burned, -, ready, reached⟩
  · refine ⟨[], by simp, ?_⟩
    rw [reached, startedCalls_of_not_stores kind skipped, List.append_nil,
      List.append_nil]
  · have configured :
        { controller with
          mCurrentOptions := some request.options
          burningSubs := burned }.mCurrentOptions = some request.options :=
      rfl
    rw [reached, startedCalls_of_stores kind stores]
    exact startItem_calls configured found ready item request.position stream

/-- What the callback of an answered request calls. -/
theorem onResponse_calls {controller : PlaybackController}
    {request : Request} {options : VideoOptions}
    (found : controller.optionObjects[request.options]? = some options)
    (stream : StreamInfo) :
    ∃ tail, (∀ call ∈ tail, call.isRoutine) ∧
      (finalState ((onResponse request stream).run controller)).calls =
        controller.calls ++ startedCalls controller request options stream ++
          tail := by
  cases kind : request.kind with
  | changeVideoStream =>
      exact onResponse_calls_of_rebuilt controller kind options stream
  | videoStreamInfo =>
      exact onResponse_calls_of_new kind found stream

/-- The calls of an event that are not routine. -/
def startingCalls (controller : PlaybackController) : Event → List Call
  | .response index isActive answer =>
      match delivered controller index isActive answer with
      | none => []
      | some delivery =>
          startedCalls controller delivery.request delivery.options
            delivery.stream
  | _ => []

theorem startingCalls_of_not_starts (controller : PlaybackController)
    {event : Event} (routine : ¬event.starts) :
    startingCalls controller event = [] := by
  cases event with
  | response index isActive answer =>
      exact absurd rfl routine
  | _ =>
      rfl

/-- Only an answered request makes calls that are not routine. -/
theorem calls_step_eq (controller : PlaybackController) (event : Event) :
    ∃ tail, (∀ call ∈ tail, call.isRoutine) ∧
      (step controller event).calls =
        controller.calls ++ startingCalls controller event ++ tail := by
  by_cases started : event.starts
  · cases event with
    | response index isActive answer =>
        rcases respond_cases (Changes False False False) controller index
            isActive answer with
          ⟨failed, changed⟩ | ⟨delivery, answered, -, found, stepped⟩
        · obtain ⟨tail, made, routine⟩ := changed.calls
          refine ⟨tail, routine.resolve_left id, ?_⟩
          rw [made, startingCalls, failed, List.append_nil]
        · have kept :
              { controller with
                requests :=
                  controller.requests.eraseIdx
                    index }.optionObjects[delivery.request.options]? =
                some delivery.options :=
            found
          rw [stepped, startingCalls, answered]
          exact onResponse_calls kept delivery.stream
    | _ =>
        cases started
  · obtain ⟨tail, made, routine⟩ := (changes_step controller event).calls
    refine ⟨tail, routine.resolve_left started, ?_⟩
    rw [made, startingCalls_of_not_starts controller started,
      List.append_nil]

end JellyfinTv.Video
