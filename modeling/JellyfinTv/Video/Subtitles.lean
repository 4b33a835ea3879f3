import JellyfinTv.Video.Answers

/-!
# Subtitles that nobody disabled

The saved subtitle language is the user's choice: the empty text stands for
disabled subtitles and a missing one for no choice.  The same setter also runs
when a stream is prepared, where it saves the language of the applied track, or
the empty text if no track is applied.  Items keep the subtitles that the
server chose exactly if every prepared stream shows a track with a language and
every later choice by that language agrees with the server.
-/

namespace JellyfinTv.Video

open JellyfinTv.Library PlaybackController

/-- The user's choice of a subtitle track or of none. -/
def Event.choosesSubtitle : Event → Bool
  | .setSubtitleIndex _ => true
  | _ => false

/-- The subtitles of a started item are those the server chose, if it chose
any. -/
def AgreesWithServer : Call → Prop
  | .subtitleSelected (some index) chosen => chosen = some index
  | _ => True

/-- Subtitles are not marked as disabled, and each started item got those the
server chose. -/
structure PlaybackController.FollowsServer
    (controller : PlaybackController) : Prop where
  language : controller.lastPlayedSubtitleLanguageIsoCode ≠ some ""
  agrees : ∀ call ∈ controller.calls, AgreesWithServer call

/-- Whether the player has the group of a subtitle stream. -/
def hasGroup (controller : PlaybackController) (index : Int)
    (stream : MediaStream) (streams : List MediaStream) : Bool :=
  if stream.deliveryMethod = some .external then
    controller.initializedManager.all fun manager =>
      (manager.readings.groups.find? fun group =>
        group.isExternalSubtitle index).isSome
  else
    (localSubtitleIndex stream streams).any fun localIndex =>
      controller.initializedManager.all fun manager =>
        ((manager.readings.groups.filter TrackGroup.isText).filter
          fun group => ¬group.isExternalSubtitle index)[localIndex]?.isSome

/-- Whether a subtitle stream is burned in or shown by the player. -/
def canShow (controller : PlaybackController) (index : Int)
    (stream : MediaStream) (streams : List MediaStream) : Bool :=
  stream.deliveryMethod = some .encode ||
    controller.mCurrentStreamInfo.all fun current =>
      controller.shouldBurnInSubtitles current.playMethod ||
        (stream.deliveryMethod ≠ some .drop &&
          stream.deliveryMethod ≠ none &&
          hasGroup controller index stream streams)

/-- Whether the source has a subtitle with a language at the index that can be
shown. -/
def showsSubtitle (controller : PlaybackController) (index : Int)
    (source : MediaSourceInfo) : Bool :=
  (subtitleStream index (source.mediaStreams.getD [])).any fun stream =>
    stream.language ≠ some "" &&
      canShow controller index stream (source.mediaStreams.getD [])

/-- Whether the options name a subtitle that the current source can show. -/
def findsSubtitle (controller : PlaybackController)
    (options : VideoOptions) : Bool :=
  options.subtitleStreamIndex.getD (-1) ≠ -1 &&
    match controller.getCurrentMediaSource with
    | .ok (some source) =>
        showsSubtitle controller (options.subtitleStreamIndex.getD (-1))
          source
    | _ => true

/-- A prepared stream has its subtitles applied: it was not paused, its item is
there, and nothing is burned in. -/
def AppliesSubtitles (controller : PlaybackController) : Prop :=
  (controller.mCurrentStreamInfo.isSome ∧
    (controller.mPlaybackState = .buffering →
      controller.getCurrentlyPlayingItem.isSome)) ∧
    controller.mPlaybackState ≠ .paused ∧
    controller.burningSubs = false ∧ controller.hasFragment

/-- The language leads to the subtitle at the index: it is the requested one,
or the first one of the language if that has no requested one. -/
def LeadsTo (language : String) (requestedIndex : Option Int)
    (index : Int) : Option (List MediaStream) → Prop
  | none => requestedIndex = some index
  | some streams =>
      let matching :=
        streams.filter fun stream =>
          stream.type = .subtitle ∧ stream.language = some language
      (requestedIndex = some index ∧
          ∃ stream ∈ matching, stream.index = index) ∨
        ((∀ stream ∈ matching, some stream.index ≠ requestedIndex) ∧
          matching.head?.map MediaStream.index = some index)

instance (language : String) (requestedIndex : Option Int)
    (index : Int) (streams : Option (List MediaStream)) :
    Decidable (LeadsTo language requestedIndex index streams) :=
  match streams with
  | none => inferInstanceAs (Decidable (_ = _))
  | some _ => inferInstanceAs (Decidable (_ ∨ _))

/-- A prepared stream finds its subtitle, and a new stream gets the default of
the server also by the language that was saved in between. -/
def KeepsSubtitles (controller : PlaybackController) : Event → Prop
  | .onPrepared =>
      AppliesSubtitles controller →
        ∀ options ∈ controller.videoOptions,
          findsSubtitle controller options
  | .response index isActive answer =>
      ∀ delivery ∈ delivered controller index isActive answer,
        ∀ source ∈
            startedSource controller delivery.request delivery.stream,
          ∀ language ∈ controller.lastPlayedSubtitleLanguageIsoCode,
            ∀ subtitle ∈ source.defaultSubtitleStreamIndex,
              LeadsTo language delivery.options.subtitleStreamIndex subtitle
                source.mediaStreams
  | _ => True

instance (controller : PlaybackController) (event : Event) :
    Decidable (KeepsSubtitles controller event) :=
  match event with
  | .onPrepared => inferInstanceAs (Decidable (_ ∧ _ → _))
  | .response _ _ _ => inferInstanceAs (Decidable (∀ _ ∈ _, _))
  | .init _ _ | .play _ | .playPause | .pause | .stop | .next | .prev
  | .skip _ | .skipRunnable | .seek _ _ | .initialSeek _
  | .switchAudioStream _ | .setSubtitleIndex _ | .refreshStream
  | .endPlayback | .onProgress | .onCompletion | .onError _ | .reportTick
  | .segmentsLoaded _ | .delayedStart | .programStarted _
  | .timePasses _ | .playerChanges _ => inferInstanceAs (Decidable True)

/-! ## What is saved -/

section Language

variable {controller : PlaybackController} {options : VideoOptions}

theorem disableSubtitles_language
    (found : controller.videoOptions = some options)
    (fragment : controller.hasFragment) {force : Bool}
    (applied : options.subtitleStreamIndex ≠ some (-1) ∨ force) :
    (finalState
      ((disableSubtitles force).run
        controller)).lastPlayedSubtitleLanguageIsoCode = some "" := by
  have rest :
      Respects (Changes False False False) (do
        updateOptions fun options =>
          { options with subtitleStreamIndex := some (-1) }
        if (← get).burningSubs then
          restartWithSubtitles (-1) false
        else
          disableDefaultSubtitles) := by
    refine Respects.bind (respects_updateOptions _) fun _ => ?_
    refine Respects.bind Respects.get fun controller => ?_
    exact Respects.ite (respects_restartWithSubtitles _ _)
      respects_disableDefaultSubtitles
  have unchanged :
      ¬(options.subtitleStreamIndex = some (-1) ∧ ¬force) := by
    intro given
    obtain ⟨same, free⟩ := given
    rcases applied with different | forced
    · exact different same
    · exact free forced
  simp only [disableSubtitles, EStateM.run_bind,
    currentOptions_run found]
  rw [if_neg unchanged]
  simp only [EStateM.run_bind, EStateM.run_get]
  rw [if_neg (not_not.mpr fragment)]
  exact (rest _).language.resolve_left id

variable (found : controller.videoOptions = some options)
variable (fragment : controller.hasFragment)
variable (different : options.subtitleStreamIndex ≠ some (-1))

include found fragment different

theorem enableGroup_language (index : Int) (group : Option TrackGroup) :
    (finalState
      ((enableGroup index group).run
        controller)).lastPlayedSubtitleLanguageIsoCode = some "" ↔
      controller.lastPlayedSubtitleLanguageIsoCode = some "" ∨
        group.isSome = false := by
  cases group with
  | none =>
      refine iff_of_true ?_ (Or.inr rfl)
      exact disableSubtitles_language found fragment
        (Or.inl different)
  | some group =>
      have changed :
          Respects (Changes False False False) (do
            updateOptions fun options =>
              { options with subtitleStreamIndex := some index }
            modify fun controller =>
              controller.record (.textEnabled group)) :=
        Respects.bind (respects_updateOptions _)
          fun _ => respects_record fun _ => rfl
      have same := (changed controller).language.resolve_left id
      rw [enableGroup, same]
      simp

/-- A group is looked up in the player. -/
theorem lookedUp_language (index : Int)
    (lookup : VideoManager → Option TrackGroup) :
    (finalState
      ((do
        let manager ← requireNotNull (← get).initializedManager
        enableGroup index (lookup manager) : ControllerM Unit).run
        controller)).lastPlayedSubtitleLanguageIsoCode = some "" ↔
      controller.lastPlayedSubtitleLanguageIsoCode = some "" ∨
        (controller.initializedManager.all fun manager =>
          (lookup manager).isSome) = false := by
  simp only [EStateM.run_bind, EStateM.run_get]
  cases controller.initializedManager with
  | none =>
      constructor
      · exact Or.inl
      · intro either
        rcases either with same | impossible
        · exact same
        · cases impossible
  | some manager =>
      exact enableGroup_language found fragment different index _

theorem enableSubtitle_language (index : Int) (stream : MediaStream)
    (streams : List MediaStream) :
    (finalState
      ((enableSubtitle index stream streams).run
        controller)).lastPlayedSubtitleLanguageIsoCode = some "" ↔
      controller.lastPlayedSubtitleLanguageIsoCode = some "" ∨
        hasGroup controller index stream streams = false := by
  unfold enableSubtitle hasGroup
  by_cases isExternal : stream.deliveryMethod = some .external
  · rw [if_pos isExternal, if_pos isExternal]
    exact lookedUp_language found fragment different index _
  · rw [if_neg isExternal, if_neg isExternal]
    cases localSubtitleIndex stream streams with
    | none =>
        refine iff_of_true ?_ (Or.inr rfl)
        exact disableSubtitles_language found fragment
          (Or.inl different)
    | some localIndex =>
        exact lookedUp_language found fragment different index _

theorem applySubtitle_language (index : Int) (stream : MediaStream)
    (streams : List MediaStream) :
    (finalState
      ((applySubtitle index (some stream) streams).run
        controller)).lastPlayedSubtitleLanguageIsoCode = some "" ↔
      controller.lastPlayedSubtitleLanguageIsoCode = some "" ∨
        canShow controller index stream streams = false := by
  have restarted :
      Respects (Changes False False False)
        (restartWithSubtitles index true) :=
    respects_restartWithSubtitles index true
  have same := (restarted controller).language.resolve_left id
  by_cases encoded : stream.deliveryMethod = some .encode
  · have shown : canShow controller index stream streams = true := by
      simp [canShow, encoded]
    simp only [applySubtitle, encoded, if_true, same, shown,
      Bool.true_eq_false, or_false]
  · simp only [applySubtitle, encoded, if_false, EStateM.run_bind,
      EStateM.run_get]
    cases stored : controller.mCurrentStreamInfo with
    | none =>
        have shown : canShow controller index stream streams = true := by
          simp [canShow, stored]
        simp only [shown, Bool.true_eq_false, or_false]
        rfl
    | some current =>
        simp only [requireNotNull, EStateM.run_pure]
        by_cases burned :
            controller.shouldBurnInSubtitles current.playMethod
        · have shown : canShow controller index stream streams = true := by
            simp [canShow, stored, burned]
          simp only [burned, if_true, same, shown, Bool.true_eq_false,
            or_false]
        · rw [if_neg burned]
          by_cases dropped :
              stream.deliveryMethod = some .drop ∨
                stream.deliveryMethod = none
          · have hidden :
                canShow controller index stream streams = false := by
              rcases dropped with isDrop | isNone
              · simp [canShow, stored, burned, isDrop]
              · simp [canShow, stored, burned, isNone]
            rw [if_pos dropped]
            refine iff_of_true ?_ (Or.inr hidden)
            exact disableSubtitles_language found fragment
              (Or.inl different)
          · have shown :
                canShow controller index stream streams =
                  hasGroup controller index stream streams := by
              rw [not_or] at dropped
              simp [canShow, encoded, stored, burned, dropped.1, dropped.2]
            rw [if_neg dropped, shown]
            exact enableSubtitle_language found fragment different
              index stream streams

/-- The language of the applied subtitle is saved before it is applied. -/
theorem savedSubtitle_language (plain : controller.burningSubs = false)
    (index : Int) (source : MediaSourceInfo) :
    (finalState
      ((do
        setLastPlayedSubtitleLanguageIsoCode
          ((subtitleStream index (source.mediaStreams.getD [])).bind
            MediaStream.language)
        if (← get).burningSubs then
          restartWithSubtitles index false
        else
          applySubtitle index
            (subtitleStream index (source.mediaStreams.getD []))
            (source.mediaStreams.getD []) : ControllerM Unit).run
        controller)).lastPlayedSubtitleLanguageIsoCode = some "" ↔
      showsSubtitle controller index source = false := by
  have saved :
      { controller with
        lastPlayedSubtitleLanguageIsoCode :=
          (subtitleStream index (source.mediaStreams.getD [])).bind
            MediaStream.language }.videoOptions = some options :=
    found
  simp only [setLastPlayedSubtitleLanguageIsoCode, EStateM.run_bind,
    EStateM.run_modify, EStateM.run_get, showsSubtitle]
  rw [if_neg (by simp [plain])]
  cases chosen : subtitleStream index (source.mediaStreams.getD []) with
  | none =>
      refine iff_of_true ?_ rfl
      rw [chosen] at saved
      exact disableSubtitles_language saved fragment
        (Or.inl different)
  | some stream =>
      rw [chosen] at saved
      refine (applySubtitle_language saved fragment different index
        stream (source.mediaStreams.getD [])).trans ?_
      change
        stream.language = some "" ∨
            canShow controller index stream (source.mediaStreams.getD []) =
              false ↔ _
      by_cases marked : stream.language = some ""
      · simp [marked]
      · simp [marked]

omit different in
theorem setSubtitleIndex_language
    (plain : controller.burningSubs = false)
    (unmarked : controller.lastPlayedSubtitleLanguageIsoCode ≠ some "") :
    (finalState
      ((setSubtitleIndex (options.subtitleStreamIndex.getD (-1)) true).run
        controller)).lastPlayedSubtitleLanguageIsoCode = some "" ↔
      findsSubtitle controller options = false := by
  by_cases disabled : options.subtitleStreamIndex.getD (-1) = -1
  · have missing : findsSubtitle controller options = false := by
      simp [findsSubtitle, disabled]
    refine iff_of_true ?_ missing
    rw [setSubtitleIndex, if_pos disabled]
    exact disableSubtitles_language found fragment (Or.inr rfl)
  · have different : options.subtitleStreamIndex ≠ some (-1) := by
      intro same
      rw [same] at disabled
      exact disabled rfl
    simp only [setSubtitleIndex, disabled, if_false, EStateM.run_bind,
      currentOptions_run found, not_true, and_false,
      EStateM.run_get, fragment]
    cases current : controller.getCurrentMediaSource with
    | error exception =>
        refine iff_of_false unmarked ?_
        simp [findsSubtitle, disabled, current]
    | ok source =>
        cases source with
        | none =>
            refine iff_of_false unmarked ?_
            simp [findsSubtitle, disabled, current]
        | some source =>
            have finds :
                findsSubtitle controller options =
                  showsSubtitle controller
                    (options.subtitleStreamIndex.getD (-1)) source := by
              simp [findsSubtitle, disabled, current]
            rw [finds]
            exact savedSubtitle_language found fragment different
              plain _ source

end Language

/-! ## Steps -/

/-- What follows a saved language and saves none itself. -/
theorem language_bind {Value Result : Type} {action : ControllerM Value}
    {continuation : Value → ControllerM Result}
    (later :
      ∀ value, Respects (Changes False False False) (continuation value))
    (controller : PlaybackController) :
    (finalState ((action >>= continuation).run
      controller)).lastPlayedSubtitleLanguageIsoCode =
      (finalState
        (action.run controller)).lastPlayedSubtitleLanguageIsoCode := by
  rw [EStateM.run_bind]
  cases action.run controller with
  | ok value middle =>
      exact (later value middle).language.resolve_left id
  | error exception middle =>
      rfl

theorem setSubtitleIndex_language_of_detached
    {controller : PlaybackController} {options : VideoOptions}
    (found : controller.videoOptions = some options)
    (detached : controller.hasFragment = false) (index : Int) :
    (finalState
      ((setSubtitleIndex index true).run
        controller)).lastPlayedSubtitleLanguageIsoCode =
      controller.lastPlayedSubtitleLanguageIsoCode := by
  by_cases disabled : index = -1
  · simp only [setSubtitleIndex, disabled, if_true, disableSubtitles,
      EStateM.run_bind, currentOptions_run found, not_true,
      and_false, if_false, EStateM.run_get, detached]
    rfl
  · simp only [setSubtitleIndex, disabled, if_false, EStateM.run_bind,
      currentOptions_run found, not_true, and_false,
      EStateM.run_get, detached]
    rfl

theorem selectSubtitleTrack_language {controller : PlaybackController}
    (unmarked : controller.lastPlayedSubtitleLanguageIsoCode ≠ some "") :
    (finalState
      (selectSubtitleTrack.run
        controller)).lastPlayedSubtitleLanguageIsoCode ≠ some "" ↔
      (controller.burningSubs = false → controller.hasFragment →
        ∀ options ∈ controller.videoOptions,
          findsSubtitle controller options) := by
  simp only [selectSubtitleTrack, EStateM.run_bind, EStateM.run_get]
  by_cases burned : controller.burningSubs
  · have same :
        Respects (Changes False False False) disableDefaultSubtitles :=
      respects_disableDefaultSubtitles
    rw [if_pos burned, (same controller).language.resolve_left id]
    refine iff_of_true unmarked ?_
    intro plain
    rw [plain] at burned
    cases burned
  · have plain : controller.burningSubs = false := by
      simpa using burned
    rw [if_neg burned]
    cases found : controller.videoOptions with
    | none =>
        refine iff_of_true ?_ (by simp)
        simp only [currentOptions, EStateM.run_bind, EStateM.run_get, found]
        exact unmarked
    | some options =>
        simp only [EStateM.run_bind, currentOptions_run found]
        by_cases fragment : controller.hasFragment
        · rw [ne_eq, setSubtitleIndex_language found fragment plain
            unmarked]
          simp [plain, fragment]
        · have detached : controller.hasFragment = false := by
            simpa using fragment
          rw [setSubtitleIndex_language_of_detached found detached]
          exact iff_of_true unmarked (by simp [detached])

/-- The state of a prepared stream. -/
def PlaybackState.prepared : PlaybackState → PlaybackState
  | .buffering => .playing
  | state => state

@[simp]
theorem PlaybackState.prepared_eq_paused (state : PlaybackState) :
    state.prepared = .paused ↔ state = .paused := by
  cases state <;> decide

theorem PlaybackState.prepared_of_ne {state : PlaybackState}
    (different : state ≠ .buffering) : state.prepared = state := by
  cases state with
  | buffering =>
      exact absurd rfl different
  | _ =>
      rfl

/-- The callback of a prepared stream goes on to its tracks. -/
theorem endBuffering_run {controller : PlaybackController}
    (stored : controller.mCurrentStreamInfo.isSome)
    (current :
      controller.mPlaybackState = .buffering →
        controller.getCurrentlyPlayingItem.isSome) :
    ∃ loop,
      endBuffering.run controller =
        .ok ()
          { controller with
            mPlaybackState := controller.mPlaybackState.prepared
            reportLoop := loop } := by
  simp only [endBuffering, EStateM.run_bind, EStateM.run_get]
  by_cases buffering : controller.mPlaybackState = .buffering
  · obtain ⟨item, playing⟩ :=
      Option.isSome_iff_exists.mp (current buffering)
    obtain ⟨stream, present⟩ := Option.isSome_iff_exists.mp stored
    rw [if_pos buffering]
    simp only [EStateM.run_bind, EStateM.run_modify, playing, present,
      requireNotNull, EStateM.run_pure]
    refine ⟨some .playing, ?_⟩
    simp [startReportLoop, buffering, PlaybackState.prepared]
  · rw [if_neg buffering, PlaybackState.prepared_of_ne buffering]
    exact ⟨controller.reportLoop, rfl⟩

/-- Without a stream, or while an item that is gone is buffering, the callback
throws. -/
theorem onPrepared_language_of_missing {controller : PlaybackController}
    (missing :
      ¬(controller.mCurrentStreamInfo.isSome ∧
        (controller.mPlaybackState = .buffering →
          controller.getCurrentlyPlayingItem.isSome))) :
    (finalState
      (onPrepared.run controller)).lastPlayedSubtitleLanguageIsoCode =
      controller.lastPlayedSubtitleLanguageIsoCode := by
  simp only [onPrepared, endBuffering, EStateM.run_bind, EStateM.run_get]
  by_cases buffering : controller.mPlaybackState = .buffering
  · rw [if_pos buffering]
    cases playing : controller.getCurrentlyPlayingItem with
    | none =>
        rfl
    | some item =>
        have gone : controller.mCurrentStreamInfo = none := by
          simpa [playing] using missing
        rw [gone]
        rfl
  · rw [if_neg buffering]
    have gone : controller.mCurrentStreamInfo = none := by
      simpa [buffering] using missing
    simp only [EStateM.run_pure, gone]
    rfl

theorem onPrepared_language {controller : PlaybackController}
    (unmarked : controller.lastPlayedSubtitleLanguageIsoCode ≠ some "") :
    (finalState
      (onPrepared.run controller)).lastPlayedSubtitleLanguageIsoCode ≠
        some "" ↔
      KeepsSubtitles controller .onPrepared := by
  by_cases prepared :
      controller.mCurrentStreamInfo.isSome ∧
        (controller.mPlaybackState = .buffering →
          controller.getCurrentlyPlayingItem.isSome)
  · obtain ⟨loop, ended⟩ := endBuffering_run prepared.1 prepared.2
    obtain ⟨stream, stored⟩ := Option.isSome_iff_exists.mp prepared.1
    simp only [onPrepared, EStateM.run_bind, ended, EStateM.run_get]
    rw [requireNotNull_run stored]
    dsimp only
    by_cases paused : controller.mPlaybackState = .paused
    · rw [if_pos ((PlaybackState.prepared_eq_paused _).mpr paused)]
      exact iff_of_true unmarked fun applies => absurd paused applies.2.1
    · have kept :
          { controller with
            mPlaybackState := controller.mPlaybackState.prepared
            reportLoop := loop }.lastPlayedSubtitleLanguageIsoCode ≠
            some "" :=
        unmarked
      have playing : controller.mPlaybackState.prepared ≠ .paused :=
        fun same => paused ((PlaybackState.prepared_eq_paused _).mp same)
      rw [if_neg playing, language_bind fun _ => respects_selectAudioTrack]
      refine (selectSubtitleTrack_language kept).trans ?_
      constructor
      · intro finds applies
        exact finds applies.2.2.1 applies.2.2.2
      · intro finds plain fragment
        exact finds ⟨prepared, paused, plain, fragment⟩
  · rw [onPrepared_language_of_missing prepared]
    exact iff_of_true unmarked fun applies => absurd applies.1 prepared

theorem subtitleOfLanguage_eq_some (language : String)
    (requestedIndex : Option Int) (streams : List MediaStream)
    (index : Int) :
    subtitleOfLanguage language requestedIndex streams = some index ↔
      LeadsTo language requestedIndex index (some streams) := by
  simp only [subtitleOfLanguage, LeadsTo]
  generalize
    streams.filter (fun stream =>
      stream.type = .subtitle ∧ stream.language = some language) = matching
  cases requested :
      matching.find? fun stream => some stream.index = requestedIndex with
  | none =>
      have others :
          ∀ stream ∈ matching, some stream.index ≠ requestedIndex := by
        simpa using requested
      rw [Option.none_or]
      constructor
      · intro first
        exact Or.inr ⟨others, first⟩
      · intro either
        rcases either with ⟨rfl, stream, member, same⟩ | ⟨-, first⟩
        · exact absurd (congrArg some same) (others stream member)
        · exact first
  | some stream =>
      have member := List.mem_of_find?_eq_some requested
      have same : some stream.index = requestedIndex := by
        simpa using List.find?_some requested
      rw [Option.some_or, Option.map_some, same]
      constructor
      · intro asked
        refine Or.inl ⟨asked, stream, member, ?_⟩
        exact Option.some.inj (same.trans asked)
      · intro either
        rcases either with ⟨asked, -⟩ | ⟨others, -⟩
        · exact asked
        · exact absurd same (others stream member)

theorem agrees_subtitleCall {controller : PlaybackController}
    (unmarked : controller.lastPlayedSubtitleLanguageIsoCode ≠ some "")
    (options : VideoOptions) (source : MediaSourceInfo) :
    AgreesWithServer (subtitleCall controller options source) ↔
      ∀ language ∈ controller.lastPlayedSubtitleLanguageIsoCode,
        ∀ subtitle ∈ source.defaultSubtitleStreamIndex,
          LeadsTo language options.subtitleStreamIndex subtitle
            source.mediaStreams := by
  unfold subtitleCall
  cases default : source.defaultSubtitleStreamIndex with
  | none =>
      simp [AgreesWithServer]
  | some subtitle =>
      cases saved : controller.lastPlayedSubtitleLanguageIsoCode with
      | none =>
          simp [AgreesWithServer, selectSubtitle, default]
      | some language =>
          have named : ¬language.isEmpty := by
            intro empty
            rw [String.isEmpty_iff] at empty
            exact unmarked (by rw [saved, empty])
          have chosen :
              selectSubtitle (some language) options.subtitleStreamIndex
                  source = some subtitle ↔
                LeadsTo language options.subtitleStreamIndex subtitle
                  source.mediaStreams := by
            simp only [selectSubtitle]
            rw [if_neg named]
            cases source.mediaStreams with
            | none =>
                rfl
            | some streams =>
                exact subtitleOfLanguage_eq_some language _ streams subtitle
          rw [AgreesWithServer, chosen]
          simp

theorem agrees_optional {condition : Prop} [Decidable condition]
    {single : Call} (agrees : AgreesWithServer single) :
    ∀ call ∈ (if condition then [single] else []),
      AgreesWithServer call := by
  intro call member
  split at member
  · rw [List.mem_singleton.mp member]
    exact agrees
  · cases member

/-- Of the calls of an answered request only the choice of subtitles can
disagree. -/
theorem agrees_startedCalls (controller : PlaybackController)
    (request : Request) (options : VideoOptions) (stream : StreamInfo) :
    (∀ call ∈ startedCalls controller request options stream,
        AgreesWithServer call) ↔
      ∀ source ∈ startedSource controller request stream,
        AgreesWithServer (subtitleCall controller options source) := by
  rw [startedCalls, List.forall_mem_append, List.forall_mem_append]
  cases startedSource controller request stream with
  | none =>
      refine iff_of_true ⟨⟨?_, by simp⟩, ?_⟩ (by simp)
      · exact agrees_optional trivial
      · exact agrees_optional trivial
  | some source =>
      constructor
      · rintro ⟨⟨-, agrees⟩, -⟩ other ⟨⟩
        exact agrees _ (by simp)
      · intro agrees
        refine ⟨⟨agrees_optional trivial, ?_⟩, agrees_optional trivial⟩
        intro call member
        rw [List.mem_singleton.mp member]
        exact agrees source rfl

theorem agrees_startingCalls {controller : PlaybackController}
    (unmarked : controller.lastPlayedSubtitleLanguageIsoCode ≠ some "")
    (index : Nat) (isActive : Bool) (answer : Answer) :
    (∀ call ∈ startingCalls controller (.response index isActive answer),
        AgreesWithServer call) ↔
      KeepsSubtitles controller (.response index isActive answer) := by
  simp only [startingCalls, KeepsSubtitles]
  cases answered : delivered controller index isActive answer with
  | none =>
      simp
  | some delivery =>
      refine (agrees_startedCalls controller delivery.request
        delivery.options delivery.stream).trans ?_
      simp only [Option.mem_def, Option.some.injEq, forall_eq',
        agrees_subtitleCall unmarked]

theorem agrees_of_routine {call : Call} (routine : call.isRoutine) :
    AgreesWithServer call := by
  cases call with
  | subtitleSelected server chosen =>
      cases routine
  | _ =>
      trivial

theorem agrees_step {controller : PlaybackController}
    (agrees : ∀ call ∈ controller.calls, AgreesWithServer call)
    (event : Event) :
    (∀ call ∈ (step controller event).calls, AgreesWithServer call) ↔
      ∀ call ∈ startingCalls controller event, AgreesWithServer call := by
  obtain ⟨tail, routine, made⟩ := calls_step_eq controller event
  rw [made, List.forall_mem_append, List.forall_mem_append]
  constructor
  · intro given
    obtain ⟨⟨-, started⟩, -⟩ := given
    exact started
  · intro started
    exact ⟨⟨agrees, started⟩, fun call member =>
      agrees_of_routine (routine call member)⟩

theorem followsServer_step {controller : PlaybackController}
    (follows : controller.FollowsServer) {event : Event}
    (automatic : ¬event.choosesSubtitle) :
    (step controller event).FollowsServer ↔
      KeepsSubtitles controller event := by
  have agrees := agrees_step follows.agrees event
  have whole :
      (step controller event).FollowsServer ↔
        (step controller event).lastPlayedSubtitleLanguageIsoCode ≠
            some "" ∧
          ∀ call ∈ startingCalls controller event,
            AgreesWithServer call := by
    rw [← agrees]
    exact ⟨fun held => ⟨held.language, held.agrees⟩,
      fun held => ⟨held.1, held.2⟩⟩
  rw [whole]
  by_cases saved : event.saves
  · cases event with
    | onPrepared =>
        rw [and_iff_left (by simp [startingCalls])]
        exact onPrepared_language follows.language
    | setSubtitleIndex index =>
        exact absurd rfl automatic
    | _ =>
        cases saved
  · have kept :
        (step controller event).lastPlayedSubtitleLanguageIsoCode ≠
          some "" := by
      rw [(changes_step controller event).language.resolve_left saved]
      exact follows.language
    rw [and_iff_right kept]
    cases event with
    | response index isActive answer =>
        exact agrees_startingCalls follows.language index isActive answer
    | onPrepared =>
        exact absurd rfl saved
    | _ =>
        exact iff_of_true (by simp [startingCalls]) trivial

/-- Items keep the subtitles of the server while the user chooses none exactly
if every step keeps them. -/
theorem subtitles_follow_server_iff_kept (settings : Settings)
    (items : List BaseItemDto) (startIndex : Nat)
    (audioLanguage : Option String) {events : List Event}
    (automatic : ∀ event ∈ events, ¬event.choosesSubtitle) :
    (∀ early, early <+: events →
      (run step (create settings items startIndex audioLanguage none)
        early).FollowsServer) ↔
      Admitted step KeepsSubtitles
        (create settings items startIndex audioLanguage none) events := by
  have exact :
      ∀ (controller : PlaybackController) (event : Event),
        True → ¬event.choosesSubtitle → controller.FollowsServer →
          ((step controller event).FollowsServer ↔
            KeepsSubtitles controller event) :=
    fun _ _ _ automatic follows => followsServer_step follows automatic
  have initial :
      (create settings items startIndex audioLanguage
        none).FollowsServer := by
    refine ⟨?_, fun _ member => absurd member List.not_mem_nil⟩
    exact (Option.some_ne_none "").symm
  exact holds_throughout_iff_admitted (fun _ _ _ _ => trivial) exact trivial
    initial (admitted_of_forall automatic)

/-- A source with an English subtitle that the server chooses. -/
def captioned (id : Nat) : MediaSourceInfo :=
  shortSource id
    [{ type := .subtitle
       index := 0
       language := some "eng"
       deliveryMethod := some .embed
       isExternal := false }]
    (some 0)

/-- The user lets the next of two episodes with subtitles play. -/
def captionedEpisodes : List Event :=
  [.init (playingAt 0 []) false, .play 0] ++
    opening (captioned 1) [⟨true, [none]⟩] ++ [.next] ++
    opening (captioned 2) [⟨true, [none]⟩]

theorem captions_follow_server :
    (run step
      (create ⟨false, false, false, false⟩
        [shortEpisode (captioned 1), shortEpisode (captioned 2)] 0 none
        none) captionedEpisodes).FollowsServer := by
  have automatic :
      ∀ event ∈ captionedEpisodes, ¬event.choosesSubtitle := by
    decide
  apply (subtitles_follow_server_iff_kept ⟨false, false, false, false⟩
    [shortEpisode (captioned 1), shortEpisode (captioned 2)] 0 none
    automatic).mpr
  · decide
  · exact List.prefix_rfl

/-- The first of the two episodes has no subtitles. -/
def uncaptionedFirst : List Event :=
  [.init (playingAt 0 []) false, .play 0] ++
    opening (shortSource 1 [] none) [] ++ [.next] ++
    opening (captioned 2) [⟨true, [none]⟩]

/-- The episode without subtitles marks them as disabled for the next one. -/
theorem uncaptioned_episode_disables_captions :
    ¬∀ early, early <+: uncaptionedFirst →
      (run step
        (create ⟨false, false, false, false⟩
          [shortEpisode (shortSource 1 [] none), shortEpisode (captioned 2)]
          0 none none) early).FollowsServer := by
  intro follows
  have last := follows uncaptionedFirst List.prefix_rfl
  have chosen :
      Call.subtitleSelected (some 0) none ∈
        (run step
          (create ⟨false, false, false, false⟩
            [shortEpisode (shortSource 1 [] none),
              shortEpisode (captioned 2)] 0 none none)
          uncaptionedFirst).calls := by
    decide
  have agreed : none = some (0 : Int) :=
    last.agrees _ chosen
  cases agreed

end JellyfinTv.Video
