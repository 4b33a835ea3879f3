import JellyfinTv.Video.Answers

/-!
# Streams of items that are no longer played

A request for a stream is sent for the item of that moment, and nothing ties
its answer to it: the callback applies the stream to whatever item is current
by then.  A run hands over only streams of the current item, and none after a
stop, exactly if every answer arrives in time.
-/

namespace JellyfinTv.Video

open JellyfinTv.Library PlaybackController

/-- Whether playback is stopped after the call. -/
def stoppedAfter (stopped : Bool) : Call → Bool
  | .stop => true
  | .play _ | .restart => false
  | _ => stopped

/-- A stream belongs to the item that is current, and it is not handed over
while playback is stopped. -/
def Fits (stopped : Bool) : Call → Prop
  | .stored stream item => item.map BaseItemDto.id = some stream.itemId
  | .setMediaStreamInfo stream item =>
      item.map BaseItemDto.id = some stream.itemId ∧ stopped = false
  | _ => True

instance (stopped : Bool) (call : Call) : Decidable (Fits stopped call) :=
  match call with
  | .stored _ _ => inferInstanceAs (Decidable (_ = _))
  | .setMediaStreamInfo _ _ => inferInstanceAs (Decidable (_ ∧ _))
  | .stop | .play _ | .restart | .subtitleSelected _ _ | .textEnabled _
  | .textDisabled | .start | .seekTo _ | .reportStart _ _ _
  | .reportStopped _ _ _ => inferInstanceAs (Decidable True)

namespace PlaybackController

/-- Whether `stop` was called and `play` was not called since. -/
def isStopped (controller : PlaybackController) : Bool :=
  run stoppedAfter false controller.calls

/-- Every call with a stream was made for the right item and not after a
stop. -/
def StreamsFit (controller : PlaybackController) : Prop :=
  Admitted stoppedAfter Fits false controller.calls

instance (controller : PlaybackController) :
    Decidable controller.StreamsFit :=
  inferInstanceAs (Decidable (Admitted _ _ _ _))

end PlaybackController

/-- A stream that is going to be stored was requested for the item that is
still current, and one that is going to be handed over finds playback not
stopped. -/
def AnswersInTime (controller : PlaybackController) : Event → Prop
  | .response index isActive answer =>
      ∀ delivery ∈ delivered controller index isActive answer,
        (storesStream controller delivery.request delivery.stream →
          controller.getCurrentlyPlayingItem.map BaseItemDto.id =
            some delivery.options.itemId) ∧
        (handsOver controller delivery.request delivery.stream →
          controller.isStopped = false)
  | _ => True

theorem createStreamInfo_itemId {options : VideoOptions}
    {sources : List MediaSourceInfo} {stream : StreamInfo}
    (created : createStreamInfo options sources = some stream) :
    stream.itemId = options.itemId := by
  unfold createStreamInfo at created
  grind

theorem handsOver_stores {controller : PlaybackController}
    {request : Request} {stream : StreamInfo}
    (handed : handsOver controller request stream) :
    storesStream controller request stream := by
  cases kind : request.kind with
  | changeVideoStream =>
      simp [storesStream, kind]
  | videoStreamInfo =>
      by_contra skipped
      simp [handsOver, kind, startedSource, skipped] at handed

theorem delivered_itemId {controller : PlaybackController} {index : Nat}
    {isActive : Bool} {answer : Answer} {delivery : Delivery}
    (answered :
      delivered controller index isActive answer = some delivery) :
    delivery.stream.itemId = delivery.options.itemId := by
  simp only [delivered, Option.bind_eq_some_iff,
    Option.map_eq_some_iff] at answered
  obtain ⟨_, _, _, _, _, ⟨sources, -, created⟩, rfl⟩ := answered
  exact createStreamInfo_itemId created

theorem admitted_routine (stopped : Bool) {calls : List Call}
    (routine : ∀ call ∈ calls, call.isRoutine) :
    Admitted stoppedAfter Fits stopped calls := by
  apply admitted_of_prefixes
  intro early call isEarly
  have member : call ∈ calls := isEarly.subset (by simp)
  have isRoutine := routine call member
  cases call with
  | stored stream item =>
      cases isRoutine
  | setMediaStreamInfo stream item =>
      cases isRoutine
  | _ =>
      trivial

theorem admitted_startedCalls (controller : PlaybackController)
    (request : Request) (options : VideoOptions) (stream : StreamInfo)
    (stopped : Bool) :
    Admitted stoppedAfter Fits stopped
        (startedCalls controller request options stream) ↔
      (storesStream controller request stream →
        controller.getCurrentlyPlayingItem.map BaseItemDto.id =
          some stream.itemId) ∧
        (handsOver controller request stream → stopped = false) := by
  have unstopped :
      run stoppedAfter stopped
          ((if storesStream controller request stream then
            [.stored stream controller.getCurrentlyPlayingItem]
          else
            []) ++
            ((startedSource controller request stream).map
              (subtitleCall controller options)).toList) =
        stopped := by
    cases startedSource controller request stream with
    | none =>
        split <;> rfl
    | some source =>
        split <;> rfl
  have selected :
      Admitted stoppedAfter Fits
        (run stoppedAfter stopped
          (if storesStream controller request stream then
            [.stored stream controller.getCurrentlyPlayingItem]
          else
            []))
        ((startedSource controller request stream).map
          (subtitleCall controller options)).toList := by
    cases startedSource controller request stream with
    | none =>
        trivial
    | some source =>
        exact ⟨trivial, trivial⟩
  rw [startedCalls, admitted_append, admitted_append, unstopped,
    admitted_ite_singleton, admitted_ite_singleton]
  constructor
  · intro given
    obtain ⟨⟨stored, -⟩, handed⟩ := given
    exact ⟨stored, fun hands => (handed hands).2⟩
  · intro given
    obtain ⟨stored, handed⟩ := given
    exact ⟨⟨stored, selected⟩,
      fun hands => ⟨stored (handsOver_stores hands), handed hands⟩⟩

theorem admitted_startingCalls (controller : PlaybackController)
    (event : Event) :
    Admitted stoppedAfter Fits controller.isStopped
        (startingCalls controller event) ↔
      AnswersInTime controller event := by
  cases event with
  | response index isActive answer =>
      rw [startingCalls, AnswersInTime]
      cases answered : delivered controller index isActive answer with
      | none =>
          simp [Admitted]
      | some delivery =>
          simp only [admitted_startedCalls, delivered_itemId answered,
            Option.mem_def, Option.some.injEq, forall_eq']
  | _ =>
      exact iff_of_true trivial trivial

theorem streamsFit_step {controller : PlaybackController}
    (fit : controller.StreamsFit) (event : Event) :
    (step controller event).StreamsFit ↔
      AnswersInTime controller event := by
  obtain ⟨tail, routine, made⟩ := calls_step_eq controller event
  have known :
      Admitted stoppedAfter Fits false controller.calls :=
    fit
  rw [StreamsFit, made, admitted_append, admitted_append,
    ← admitted_startingCalls]
  constructor
  · intro given
    obtain ⟨⟨-, started⟩, -⟩ := given
    exact started
  · intro started
    exact ⟨⟨known, started⟩, admitted_routine _ routine⟩

/-- Every stream of a run fits its moment exactly if every answer arrives in
time. -/
theorem streams_fit_iff_in_time (settings : Settings)
    (items : List BaseItemDto) (startIndex : Nat)
    (audioLanguage subtitleLanguage : Option String)
    (events : List Event) :
    (∀ early, early <+: events →
      (run step
        (create settings items startIndex audioLanguage subtitleLanguage)
        early).StreamsFit) ↔
      Admitted step AnswersInTime
        (create settings items startIndex audioLanguage subtitleLanguage)
        events := by
  apply property_throughout_iff_admitted _ events
  · trivial
  · intro controller event fit
    exact streamsFit_step fit event

/-- A press of next before the first answer. -/
def hastyNext : List Event :=
  [.init (playingAt 0 []) false, .play 0, .next,
    .response 0 true (some [shortSource 1 [] none])]

/-- The answer to the first request starts the first episode although the
second one is current. -/
theorem hasty_next_starts_stale_stream :
    ¬∀ early, early <+: hastyNext →
      (run step
        (create ⟨false, false, false, false⟩
          [shortEpisode (shortSource 1 [] none),
            shortEpisode (shortSource 2 [] none)] 0 none none)
        early).StreamsFit := by
  intro fit
  exact absurd (fit hastyNext List.prefix_rfl) (by decide)

end JellyfinTv.Video
