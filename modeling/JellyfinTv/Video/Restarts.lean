import JellyfinTv.Video.Positions

/-!
# Operations that keep the track

`Tells` says what an operation does to the position: it keeps `Attends` for the
track that has heard the calls, and if it is strict the track accepts the
starts among them.  Most operations do not touch the position at all.  A
restart stops and plays from the position that the stop has refreshed; it is
strict if the controller was settled.
-/

namespace JellyfinTv.Video

open JellyfinTv.Library PlaybackController

/-- The track follows the calls, and accepts them if this is asked for. -/
abbrev Tells (settled strict : Prop) :
    PlaybackController → PlaybackController → Prop :=
  Narrates Track.hear (fun track call => strict → track.Accepts call)
    PlaybackController.calls (Attends settled)

namespace PlaybackController

/-- What a neutral operation leaves as it is. -/
def located (controller : PlaybackController) :=
  (controller.calls, controller.surroundings, controller.positions,
    controller.mCurrentOptions.isSome, controller.burningSubs)

def HasOptions (controller : PlaybackController) : Prop :=
  controller.mCurrentOptions.isSome

/-- The subtitles are not part of the picture. -/
def Unburned (controller : PlaybackController) : Prop :=
  controller.burningSubs = false

end PlaybackController

/-- A relation that lets through what does not touch the position. -/
class Neutral (related : PlaybackController → PlaybackController → Prop) :
    Prop extends IsPreorder PlaybackController related where
  silent :
    ∀ {before after : PlaybackController},
      after.located = before.located → related before after
  aside :
    ∀ (controller : PlaybackController) {call : Call},
      call.isAside → related controller (controller.record call)

instance (settled strict : Prop) : Neutral (Tells settled strict) where
  silent same := by
    simp only [located, Prod.mk.injEq] at same
    obtain ⟨calls, around, positions, -⟩ := same
    exact Narrates.silent calls fun _ attends => attends.congr around positions
  aside controller call isAside := by
    refine Narrates.entry rfl ?_
    intro track attends
    refine ⟨?_, fun _ => track.accepts_of_isAside isAside⟩
    rw [track.hear_of_isAside isAside]
    exact attends.congr rfl rfl

section Conditions

variable {related : PlaybackController → PlaybackController → Prop}

instance [Neutral related] : Neutral (Given HasOptions related) where
  silent same := by
    intro present
    refine ⟨?_, Neutral.silent same⟩
    simp only [located, Prod.mk.injEq] at same
    rw [HasOptions, same.2.2.2.1]
    exact present
  aside controller call isAside present :=
    ⟨present, Neutral.aside controller isAside⟩

instance [Neutral related] : Neutral (Given Unburned related) where
  silent same := by
    intro unburned
    refine ⟨?_, Neutral.silent same⟩
    simp only [located, Prod.mk.injEq] at same
    rw [Unburned, same.2.2.2.2]
    exact unburned
  aside controller call isAside unburned :=
    ⟨unburned, Neutral.aside controller isAside⟩

end Conditions

/-! ## Neutral operations -/

section Neutral

variable {related : PlaybackController → PlaybackController → Prop}
variable [Neutral related]

theorem neutral_modify {change : PlaybackController → PlaybackController}
    (same :
      ∀ controller, (change controller).located = controller.located) :
    Respects related (modify change : ControllerM PUnit) :=
  Respects.modify fun controller => Neutral.silent (same controller)

theorem neutral_record {call : PlaybackController → Call}
    (aside : ∀ controller, (call controller).isAside) :
    Respects related
      (modify fun controller => controller.record (call controller) :
        ControllerM PUnit) :=
  Respects.modify fun controller =>
    Neutral.aside controller (aside controller)

theorem neutral_lift {Value : Type}
    (computed : Except ControllerException Value) :
    Respects related (lift computed) := by
  cases computed with
  | ok value =>
      exact Respects.pure value
  | error exception =>
      exact Respects.throw exception

theorem neutral_requireNotNull {Value : Type} (value : Option Value) :
    Respects related (requireNotNull value) := by
  cases value with
  | none =>
      exact Respects.throw _
  | some value =>
      exact Respects.pure value

theorem neutral_currentOptions : Respects related currentOptions := by
  unfold currentOptions
  exact Respects.bind Respects.get fun _ => neutral_requireNotNull _

theorem neutral_updateOptions (change : VideoOptions → VideoOptions) :
    Respects related (updateOptions change) := by
  unfold updateOptions
  refine Respects.bind Respects.get fun _ => ?_
  refine Respects.bind (neutral_requireNotNull _) fun _ => ?_
  exact neutral_modify fun _ => rfl

theorem neutral_buildExoPlayerOptions (forcedSubtitleIndex : Option Int)
    (forcedAudioLanguage : Option String) (item : BaseItemDto) :
    Respects related
      (buildExoPlayerOptions forcedSubtitleIndex forcedAudioLanguage
        item) := by
  unfold buildExoPlayerOptions forcedAudioIndex
  refine Respects.bind Respects.get fun _ => ?_
  refine Respects.bind (neutral_lift _) fun _ => ?_
  refine Respects.bind ?_ fun _ => Respects.pure _
  split
  · exact Respects.pure _
  · refine Respects.bind (neutral_requireNotNull _) fun _ => ?_
    exact Respects.bind (neutral_requireNotNull _) fun _ => Respects.pure _

theorem neutral_getAudioStreamIndex :
    Respects related getAudioStreamIndex := by
  unfold getAudioStreamIndex
  refine Respects.bind neutral_currentOptions fun options => ?_
  split
  · exact Respects.pure _
  · refine Respects.bind Respects.get fun controller => ?_
    refine Respects.bind (neutral_lift _) fun source => ?_
    refine Respects.ite ?_ ?_
    · exact Respects.bind (neutral_requireNotNull _) fun _ => Respects.pure _
    · split
      · exact Respects.bind (neutral_requireNotNull _)
          fun _ => Respects.pure _
      · exact Respects.pure _

theorem neutral_setDefaultAudioIndex (source : MediaSourceInfo) :
    Respects related (setDefaultAudioIndex source) := by
  unfold setDefaultAudioIndex
  refine Respects.bind Respects.get fun controller => ?_
  refine Respects.ite (Respects.pure _) ?_
  refine Respects.bind (neutral_requireNotNull _) fun _ => ?_
  exact neutral_modify fun _ => rfl

theorem neutral_setExoPlayerTrack :
    Respects related setExoPlayerTrack := by
  unfold setExoPlayerTrack
  refine Respects.bind Respects.get fun controller => ?_
  refine Respects.ite (Respects.pure _) ?_
  exact Respects.bind (neutral_requireNotNull _) fun _ => Respects.pure _

theorem neutral_disableDefaultSubtitles :
    Respects related disableDefaultSubtitles := by
  unfold disableDefaultSubtitles
  refine Respects.bind Respects.get fun controller => ?_
  refine Respects.bind (neutral_requireNotNull _) fun _ => ?_
  exact neutral_record fun _ => rfl

theorem neutral_setLastPlayedSubtitleLanguageIsoCode
    (isoCode : Option String) :
    Respects related (setLastPlayedSubtitleLanguageIsoCode isoCode) :=
  neutral_modify fun _ => rfl

/-- A group that is missing disables the subtitles. -/
theorem neutral_enableGroup
    (disabled : ∀ force, Respects related (disableSubtitles force))
    (index : Int) (group : Option TrackGroup) :
    Respects related (enableGroup index group) := by
  unfold enableGroup
  split
  · exact disabled false
  · exact Respects.bind (neutral_updateOptions _)
      fun _ => neutral_record fun _ => rfl

theorem neutral_enableSubtitle
    (disabled : ∀ force, Respects related (disableSubtitles force))
    (index : Int) (stream : MediaStream) (streams : List MediaStream) :
    Respects related (enableSubtitle index stream streams) := by
  unfold enableSubtitle
  refine Respects.ite ?_ ?_
  · refine Respects.bind Respects.get fun controller => ?_
    exact Respects.bind (neutral_requireNotNull _)
      fun _ => neutral_enableGroup disabled _ _
  · split
    · exact disabled false
    · refine Respects.bind Respects.get fun controller => ?_
      exact Respects.bind (neutral_requireNotNull _)
        fun _ => neutral_enableGroup disabled _ _

/-- Subtitles that are not burned in are disabled in the player. -/
theorem unburned_disableSubtitles (force : Bool) :
    Respects (Given Unburned related) (disableSubtitles force) := by
  unfold disableSubtitles
  refine Respects.bind neutral_currentOptions fun options => ?_
  refine Respects.ite (Respects.pure _) ?_
  refine Respects.bind Respects.get fun controller => ?_
  refine Respects.ite (Respects.throw _) ?_
  refine Respects.bind (neutral_setLastPlayedSubtitleLanguageIsoCode _)
    fun _ => ?_
  refine Respects.bind (neutral_updateOptions _) fun _ => ?_
  intro controller unburned
  rw [EStateM.run_bind, EStateM.run_get]
  dsimp only
  rw [if_neg (by simpa [Unburned] using unburned)]
  have shown : Respects (Given Unburned related) disableDefaultSubtitles :=
    neutral_disableDefaultSubtitles
  exact shown controller unburned

theorem located_startReportLoop (controller : PlaybackController) :
    controller.startReportLoop.located = controller.located := by
  unfold startReportLoop
  split <;> rfl

theorem located_startPauseReportLoop (controller : PlaybackController) :
    controller.startPauseReportLoop.located = controller.located := by
  unfold startPauseReportLoop
  split <;> rfl

end Neutral

namespace PlaybackController

variable {controller : PlaybackController} {track : Track}
variable {settled strict : Prop}

theorem tells_refresh (controller : PlaybackController) :
    Tells settled strict controller controller.refreshCurrentPosition := by
  refine Narrates.silent (calls_refreshCurrentPosition controller) ?_
  intro track attends
  have refreshed := attends.refresh attends.toOrdinary.refreshes
  exact
    ⟨refreshed.toFollows, refreshed.heard,
      fun _ => refreshed.noticed trivial⟩

/-- A state in which nothing plays leaves no seek unnoticed. -/
theorem Attends.withState (attends : Attends settled track controller)
    {state : PlaybackState} (known : state ≠ .undefined)
    (busy : state ≠ .idle) (still : state ≠ .playing) :
    Attends settled track { controller with mPlaybackState := state } := by
  refine ⟨⟨⟨attends.fragment, attends.player, attends.recorded, attends.items,
    attends.noSkip, attends.requests, known⟩, attends.target,
    attends.position, attends.begun, attends.seeking,
    fun idle => absurd idle busy⟩, attends.heard, ?_⟩
  rintro _ ⟨playing, -⟩
  have reached : state = .playing := by
    simp only [isPlaying, Bool.and_eq_true, decide_eq_true_eq] at playing
    exact playing.1
  exact absurd reached still

theorem tells_withState (controller : PlaybackController)
    (state : PlaybackState) (known : state ≠ .undefined)
    (busy : state ≠ .idle) (still : state ≠ .playing) :
    Tells settled strict controller
      { controller with mPlaybackState := state } :=
  Narrates.silent rfl fun _ attends => attends.withState known busy still

theorem tells_send (controller : PlaybackController) {request : Request}
    (kind : request.kind = .videoStreamInfo) :
    Tells settled strict controller (controller.send request) := by
  refine Narrates.silent rfl ?_
  intro track attends
  refine ⟨⟨⟨attends.fragment, attends.player, attends.recorded, attends.items,
    attends.noSkip, ?_, attends.known⟩, attends.target, attends.position,
    attends.begun, attends.seeking, attends.idle⟩, attends.heard,
    attends.noticed⟩
  intro other member
  rcases List.mem_append.mp member with earlier | new
  · exact attends.requests other earlier
  · rw [List.mem_singleton.mp new]
    exact kind

theorem tells_playInternal (position : Int) (options : Nat) :
    Respects (Tells settled strict) (playInternal position options) := by
  unfold playInternal
  refine Respects.bind Respects.get fun controller => ?_
  refine Respects.ite (Respects.throw _) ?_
  exact Respects.modify fun controller => tells_send controller rfl

/-- The controller at the beginning of a start. -/
def starting (controller : PlaybackController) (position : Int) :
    PlaybackController :=
  { controller.record (.play position) with
    mSeekPosition := max position 0
    mCurrentPosition := 0 }

theorem Rests.starting (rests : controller.Rests) (position : Int) :
    Attends settled (Track.startingAt position)
      (controller.starting position) := by
  refine ⟨⟨⟨rests.fragment, rests.player, rests.recorded, rests.items,
    rests.noSkip, rests.requests, rests.known⟩, fun _ => rfl, ?_, ?_, ?_,
    fun _ => ⟨rests.waits, rests.free⟩⟩, ?_, ?_⟩
  · intro unknown
    have start : max position 0 = -1 := unknown
    omega
  · intro begun
    have finished : controller.finishedInitialSeek := begun
    rw [rests.waits] at finished
    cases finished
  · intro seeking
    have busy : controller.wasSeeking := seeking
    rw [rests.free] at busy
    cases busy
  · rintro (begun | seeking)
    · have finished : controller.finishedInitialSeek := begun
      rw [rests.waits] at finished
      cases finished
    · have busy : controller.wasSeeking := seeking
      rw [rests.free] at busy
      cases busy
  · rintro _ ⟨-, -, seeking⟩
    have busy : controller.wasSeeking := seeking
    rw [rests.free] at busy
    cases busy

theorem located_withMetaDuration (controller : PlaybackController)
    (duration : Int) :
    ({ controller with
      mVideoManager :=
        controller.mVideoManager.map fun manager =>
          { manager with
            mMetaDuration := duration } } : PlaybackController).located =
      controller.located := by
  simp only [located, surroundings, playerReadings, initializedManager]
  cases controller.mVideoManager with
  | none =>
      rfl
  | some manager =>
      simp only [Option.map_some, Option.filter_some, positions]
      cases manager.isInitialized with
      | true =>
          rfl
      | false =>
          rfl

/-- The rest of a start only asks the server. -/
theorem tells_playFromIdle {begun : PlaybackController} {position : Int}
    (ordinary : begun.Ordinary)
    (same :
      { controller with
        mSeekPosition := position
        mCurrentPosition := 0 } = begun)
    (forcedSubtitleIndex : Option Int) :
    Tells settled strict begun
      (finalState
        ((playFromIdle position forcedSubtitleIndex).run controller)) := by
  unfold playFromIdle
  rw [EStateM.run_bind, EStateM.run_modify]
  dsimp only
  rw [same, EStateM.run_bind, EStateM.run_get]
  dsimp only
  split
  · exact Std.Refl.refl begun
  · rename_i item current
    have recorded : decide (item.type = .tvChannel) = false :=
      decide_eq_false (ordinary.items item (List.mem_of_getElem? current))
    split
    · exact Std.Refl.refl begun
    · refine Respects.bind_at (Neutral.silent ?_) fun _ => ?_
      · have plain := of_decide_eq_false recorded
        simp only [EStateM.run_modify, finalState_ok, located, surroundings,
          positions, recorded, if_neg plain, ordinary.recorded]
        rfl
      · refine Respects.bind Respects.get fun _ => ?_
        refine Respects.bind (neutral_buildExoPlayerOptions _ _ _)
          fun _ => ?_
        refine Respects.bind (neutral_modify fun _ => rfl) fun _ => ?_
        refine Respects.bind (tells_playInternal _ _) fun _ => ?_
        refine Respects.modify fun controller => ?_
        exact IsTrans.trans _ _ _
          (Neutral.silent (located_withMetaDuration controller _))
          (tells_withState _ .buffering (by decide) (by decide) (by decide))

/-- Behind a start the calls since then are heard by the new track. -/
def StartsAt (settled strict : Prop) (position : Int)
    (before after : PlaybackController) : Prop :=
  ∃ made,
    after.calls = before.calls ++ .play position :: made ∧
      Attends settled (made.foldl Track.hear (Track.startingAt position))
        after ∧
      Accepted Track.hear (fun track call => strict → track.Accepts call)
        (Track.startingAt position) made

theorem play_startsAt (rests : controller.Rests) (position : Int)
    (forcedSubtitleIndex : Option Int) :
    StartsAt settled strict position controller
      (finalState
        ((play position forcedSubtitleIndex).run controller)) := by
  have attends : Attends settled (Track.startingAt position)
      (controller.starting position) := rests.starting position
  have ran :
      (play position forcedSubtitleIndex).run controller =
        (playFromIdle (max position 0) forcedSubtitleIndex).run
          (controller.record (.play position)) := by
    have fragment :
        ¬¬(controller.record (.play position)).hasFragment :=
      not_not.mpr rests.fragment
    have idle :
        (controller.record (.play position)).mPlaybackState = .idle :=
      rests.idle
    rw [play, EStateM.run_bind, EStateM.run_modify]
    dsimp only
    rw [EStateM.run_bind, EStateM.run_get]
    dsimp only
    rw [if_neg fragment, idle]
  obtain ⟨made, grown, kept, accepted⟩ :=
    tells_playFromIdle attends.toOrdinary rfl forcedSubtitleIndex _ attends
  rw [ran]
  refine ⟨made, ?_, kept, accepted⟩
  rw [grown]
  simp [starting, record]

/-- A track does not hear a stop. -/
theorem stopped_unheard (controller : PlaybackController) (track : Track) :
    ∃ made,
      controller.stopped.calls = controller.calls ++ made ∧
        made.foldl Track.hear track = track ∧
        Accepted Track.hear (fun track call => strict → track.Accepts call)
          track made := by
  obtain ⟨aside, grown, quiet⟩ := stopped_calls_aside controller
  have unheard : ∀ call ∈ aside, track.hear call = track :=
    fun call member => track.hear_of_isAside (quiet call member)
  refine ⟨aside, grown, foldl_hear_of_ignored _ unheard, ?_⟩
  apply accepted_of_ignored _ _ unheard
  exact fun call member _ => track.accepts_of_isAside (quiet call member)

/-- A stop and a start: the track follows, and accepts the start if it goes to
an allowed position. -/
theorem tells_restart {stopped after : PlaybackController} (position : Int)
    (calls : stopped.calls = controller.stopped.calls)
    (starts :
      ∀ track, Attends settled track controller →
        StartsAt settled strict position stopped after)
    (allowed :
      ∀ track, Attends settled track controller → strict →
        track.Allows position) :
    Tells settled strict controller after := by
  intro track attends
  obtain ⟨aside, grown, same, quiet⟩ := stopped_unheard controller track
  obtain ⟨made, played, kept, accepted⟩ := starts track attends
  refine ⟨aside ++ .play position :: made, ?_, ?_, ?_⟩
  · rw [played, calls, grown, List.append_assoc]
  · rw [List.foldl_append, same]
    exact kept
  · rw [accepted_append, same]
    refine ⟨quiet, ?_, accepted⟩
    rintro holds _ ⟨⟩
    exact allowed track attends holds

/-- The position behind a stop is allowed if no seek was unnoticed. -/
theorem Attends.allows_stop (attends : Attends settled track controller)
    (holds : settled) :
    track.Allows controller.stopped.mCurrentPosition :=
  Attends.allows_stopped
    ⟨attends.toFollows, attends.heard, fun _ => attends.noticed holds⟩

theorem tells_stopAndPlay (known : strict → settled) :
    Respects (Tells settled strict)
      (do
        stop
        play (← get).mCurrentPosition none) := by
  intro controller track attends
  have ran :
      (do
        stop
        play (← get).mCurrentPosition none : ControllerM Unit).run
          controller =
        (play controller.stopped.mCurrentPosition none).run
          controller.stopped := by
    rw [EStateM.run_bind, attends.toOrdinary.stop_run]
    rfl
  rw [ran]
  refine tells_restart controller.stopped.mCurrentPosition rfl ?_ ?_ track
    attends
  · exact fun track attends => play_startsAt attends.rests _ none
  · exact fun track attends holds => attends.allows_stop (known holds)

theorem tells_playerErrorEncountered (known : strict → settled)
    (stabilized : Bool) :
    Respects (Tells settled strict) (playerErrorEncountered stabilized) := by
  unfold playerErrorEncountered
  refine Respects.bind (neutral_modify fun _ => rfl) fun _ => ?_
  refine Respects.bind Respects.get fun controller => ?_
  refine Respects.ite (tells_stopAndPlay known) ?_
  exact Respects.modify fun controller =>
    tells_withState controller .error (by decide) (by decide) (by decide)

theorem tells_onError (known : strict → settled) (stabilized : Bool) :
    Respects (Tells settled strict) (onError stabilized) := by
  unfold onError
  refine Respects.bind (neutral_modify fun _ => rfl) fun _ => ?_
  exact tells_playerErrorEncountered known stabilized

theorem Attends.weaken (attends : Attends True track controller) :
    Attends settled track controller :=
  ⟨attends.toFollows, attends.heard, fun _ => attends.noticed trivial⟩

/-- Behind a refresh the rest may rely on it that no seek is unnoticed. -/
theorem tells_refresh_bind {rest : PUnit → ControllerM Unit}
    (told : ∀ value, Respects (Tells True True) (rest value)) :
    Respects (Tells settled strict)
      ((modify refreshCurrentPosition : ControllerM PUnit) >>= rest) := by
  intro controller track attends
  have refreshed := attends.refresh attends.toOrdinary.refreshes
  obtain ⟨made, grown, kept, accepted⟩ :=
    told PUnit.unit controller.refreshCurrentPosition track refreshed
  rw [calls_refreshCurrentPosition] at grown
  refine ⟨made, grown, kept.weaken, accepted.mono ?_⟩
  exact fun _ _ accepts _ => accepts trivial

theorem tells_refreshStream :
    Respects (Tells settled strict) refreshStream := by
  unfold refreshStream
  exact tells_refresh_bind fun _ => tells_stopAndPlay id

/-- A stop without an unnoticed seek. -/
theorem tells_stop : Respects (Tells True True) stop := by
  intro controller track attends
  obtain ⟨aside, grown, same, quiet⟩ := stopped_unheard controller track
  rw [attends.toOrdinary.stop_run]
  refine ⟨aside, grown, ?_, quiet⟩
  rw [same]
  exact attends.stopped

/-! ## Subtitles -/

/-- A restart with other subtitles stores their index in the options. -/
theorem tells_restartWithSubtitles (known : strict → settled) (index : Int)
    (burned : Bool) :
    Respects (Given HasOptions (Tells settled strict))
      (restartWithSubtitles index burned) := by
  intro controller present
  have changes : Changes False False False controller _ :=
    respects_restartWithSubtitles index burned controller
  refine ⟨changes.options present, ?_⟩
  obtain ⟨reference, options⟩ := Option.isSome_iff_exists.mp present
  intro track attends
  let chosen : PlaybackController :=
    { controller.stopped with
      burningSubs := burned
      optionObjects :=
        controller.stopped.optionObjects.modify reference fun options =>
          { options with subtitleStreamIndex := some index } }
  have kept :
      { controller.stopped with burningSubs := burned }.mCurrentOptions =
        some reference :=
    (stopped_mCurrentOptions controller).trans options
  have ran :
      (restartWithSubtitles index burned).run controller =
        (play chosen.mCurrentPosition (some index)).run chosen := by
    rw [restartWithSubtitles, EStateM.run_bind, attends.toOrdinary.stop_run]
    dsimp only
    rw [EStateM.run_bind, EStateM.run_modify]
    dsimp only
    rw [EStateM.run_bind, updateOptions_run kept]
    rfl
  rw [ran]
  refine tells_restart chosen.mCurrentPosition rfl ?_ ?_ track attends
  · intro track attends
    have rests := attends.rests
    refine play_startsAt ?_ _ _
    exact
      ⟨rests.toOrdinary.congr rfl, rests.idle, rests.waits, rests.free⟩
  · exact fun track attends holds => attends.allows_stop (known holds)

theorem tells_disableSubtitles (known : strict → settled) (force : Bool) :
    Respects (Given HasOptions (Tells settled strict))
      (disableSubtitles force) := by
  unfold disableSubtitles
  refine Respects.bind neutral_currentOptions fun options => ?_
  refine Respects.ite (Respects.pure _) ?_
  refine Respects.bind Respects.get fun controller => ?_
  refine Respects.ite (Respects.throw _) ?_
  refine Respects.bind (neutral_setLastPlayedSubtitleLanguageIsoCode _)
    fun _ => ?_
  refine Respects.bind (neutral_updateOptions _) fun _ => ?_
  refine Respects.bind Respects.get fun controller => ?_
  exact Respects.ite (tells_restartWithSubtitles known _ _)
    neutral_disableDefaultSubtitles

theorem tells_applySubtitle (known : strict → settled) (index : Int)
    (found : Option MediaStream) (streams : List MediaStream) :
    Respects (Given HasOptions (Tells settled strict))
      (applySubtitle index found streams) := by
  unfold applySubtitle
  split
  · exact tells_disableSubtitles known false
  · refine Respects.ite (tells_restartWithSubtitles known _ _) ?_
    refine Respects.bind Respects.get fun controller => ?_
    refine Respects.bind (neutral_requireNotNull _) fun _ => ?_
    refine Respects.bind Respects.get fun controller => ?_
    refine Respects.ite (tells_restartWithSubtitles known _ _) ?_
    exact Respects.ite (tells_disableSubtitles known _)
      (neutral_enableSubtitle (tells_disableSubtitles known) _ _ _)

theorem tells_setSubtitleIndex (known : strict → settled) (index : Int)
    (force : Bool) :
    Respects (Given HasOptions (Tells settled strict))
      (setSubtitleIndex index force) := by
  unfold setSubtitleIndex
  refine Respects.ite (tells_disableSubtitles known force) ?_
  refine Respects.bind neutral_currentOptions fun options => ?_
  refine Respects.ite (Respects.pure _) ?_
  refine Respects.bind Respects.get fun controller => ?_
  refine Respects.ite (Respects.throw _) ?_
  refine Respects.bind Respects.get fun controller => ?_
  refine Respects.bind (neutral_lift _) fun _ => ?_
  refine Respects.bind (neutral_requireNotNull _) fun source => ?_
  refine Respects.bind (neutral_setLastPlayedSubtitleLanguageIsoCode _)
    fun _ => ?_
  refine Respects.bind Respects.get fun controller => ?_
  exact Respects.ite (tells_restartWithSubtitles known _ _)
    (tells_applySubtitle known _ _ _)

theorem tells_selectSubtitleTrack (known : strict → settled) :
    Respects (Given HasOptions (Tells settled strict))
      selectSubtitleTrack := by
  unfold selectSubtitleTrack
  refine Respects.bind Respects.get fun controller => ?_
  refine Respects.ite neutral_disableDefaultSubtitles ?_
  exact Respects.bind neutral_currentOptions
    fun _ => tells_setSubtitleIndex known _ _

/-- The stream is burned in: it is delivered so, or a transcoded one is. -/
def burnsStream (controller : PlaybackController) (stream : MediaStream) :
    Bool :=
  stream.deliveryMethod = some .encode ||
    controller.mCurrentStreamInfo.any fun current =>
      controller.shouldBurnInSubtitles current.playMethod

/-- A choice of subtitles restarts playback: burned ones are replaced or
removed, or the chosen ones are to be burned in. -/
def restartsWithSubtitles (controller : PlaybackController) (index : Int)
    (force : Bool) : Bool :=
  match controller.videoOptions with
  | none => false
  | some options =>
      if options.subtitleStreamIndex = some index ∧ ¬force then
        false
      else if index = -1 then
        controller.burningSubs
      else
        match controller.getCurrentMediaSource with
        | .ok (some source) =>
            controller.burningSubs ||
              (subtitleStream index (source.mediaStreams.getD [])).any
                controller.burnsStream
        | _ => false

section Staying

variable {related : PlaybackController → PlaybackController → Prop}
variable [Neutral related]

theorem stays_applySubtitle {index : Int} {found : Option MediaStream}
    (unburned : controller.Unburned)
    (shown : found.any controller.burnsStream = false)
    (streams : List MediaStream) :
    related controller
      (finalState ((applySubtitle index found streams).run controller)) := by
  cases found with
  | none =>
      exact (unburned_disableSubtitles false controller unburned).2
  | some stream =>
      simp only [Option.any_some, burnsStream, Bool.or_eq_false_iff,
        decide_eq_false_iff_not] at shown
      obtain ⟨plain, picture⟩ := shown
      rw [applySubtitle, if_neg plain, EStateM.run_bind, EStateM.run_get]
      dsimp only
      cases stored : controller.mCurrentStreamInfo with
      | none =>
          exact Std.Refl.refl controller
      | some current =>
          rw [stored, Option.any_some] at picture
          rw [EStateM.run_bind, requireNotNull_run rfl]
          dsimp only
          rw [EStateM.run_bind, EStateM.run_get]
          dsimp only
          rw [if_neg (by simp [picture])]
          have rest :
              Respects (Given Unburned related)
                (if stream.deliveryMethod = some .drop ∨
                    stream.deliveryMethod = none then
                  disableSubtitles false
                else
                  enableSubtitle index stream streams) :=
            Respects.ite (unburned_disableSubtitles false)
              (neutral_enableSubtitle unburned_disableSubtitles _ _ _)
          exact (rest controller unburned).2

theorem currentOptions_run_of_none
    (unset : controller.videoOptions = none) :
    currentOptions.run controller = .error .nullPointer controller := by
  rw [currentOptions, EStateM.run_bind, EStateM.run_get]
  dsimp only
  rw [unset]
  rfl

/-- Without options a choice of subtitles fails at once. -/
theorem setSubtitleIndex_run_of_none
    (unset : controller.videoOptions = none) (index : Int) (force : Bool) :
    (setSubtitleIndex index force).run controller =
      .error .nullPointer controller := by
  rw [setSubtitleIndex]
  split
  · rw [disableSubtitles, EStateM.run_bind, currentOptions_run_of_none unset]
  · rw [EStateM.run_bind, currentOptions_run_of_none unset]

/-- Subtitles that are chosen already are left alone. -/
theorem setSubtitleIndex_run_of_same {options : VideoOptions} {index : Int}
    {force : Bool} (chosen : controller.videoOptions = some options)
    (same : options.subtitleStreamIndex = some index ∧ ¬force) :
    (setSubtitleIndex index force).run controller = .ok () controller := by
  rw [setSubtitleIndex]
  split
  · rename_i off
    rw [off] at same
    rw [disableSubtitles, EStateM.run_bind, currentOptions_run chosen]
    dsimp only
    rw [if_pos same]
    rfl
  · rw [EStateM.run_bind, currentOptions_run chosen]
    dsimp only
    rw [if_pos same]
    rfl

/-- A choice of subtitles that does not restart playback. -/
theorem stays_setSubtitleIndex {index : Int} {force : Bool}
    (stays : controller.restartsWithSubtitles index force = false) :
    related controller
      (finalState ((setSubtitleIndex index force).run controller)) := by
  cases chosen : controller.videoOptions with
  | none =>
      rw [setSubtitleIndex_run_of_none chosen]
      exact Std.Refl.refl controller
  | some options =>
      rw [restartsWithSubtitles, chosen] at stays
      dsimp only at stays
      by_cases same : options.subtitleStreamIndex = some index ∧ ¬force
      · rw [setSubtitleIndex_run_of_same chosen same]
        exact Std.Refl.refl controller
      · rw [if_neg same] at stays
        by_cases off : index = -1
        · rw [if_pos off] at stays
          rw [setSubtitleIndex, if_pos off]
          exact (unburned_disableSubtitles force controller stays).2
        · rw [if_neg off] at stays
          rw [setSubtitleIndex, if_neg off, EStateM.run_bind,
            currentOptions_run chosen]
          dsimp only
          rw [if_neg same, EStateM.run_bind, EStateM.run_get]
          dsimp only
          split
          · exact Std.Refl.refl controller
          · rw [EStateM.run_bind, EStateM.run_get]
            dsimp only
            cases found : controller.getCurrentMediaSource with
            | error exception =>
                exact Std.Refl.refl controller
            | ok source =>
                cases source with
                | none =>
                    exact Std.Refl.refl controller
                | some source =>
                    rw [found] at stays
                    simp only [Bool.or_eq_false_iff] at stays
                    let spoken : PlaybackController :=
                      { controller with
                        lastPlayedSubtitleLanguageIsoCode :=
                          (subtitleStream index
                            (source.mediaStreams.getD [])).bind
                              MediaStream.language }
                    have unburned : spoken.Unburned := stays.1
                    have reached :
                        related spoken
                          (finalState
                            ((applySubtitle index
                              (subtitleStream index
                                (source.mediaStreams.getD []))
                              (source.mediaStreams.getD [])).run
                                spoken)) :=
                      stays_applySubtitle unburned stays.2 _
                    have silent : related controller spoken :=
                      Neutral.silent rfl
                    refine IsTrans.trans _ _ _ silent ?_
                    simp only [lift, requireNotNull, EStateM.run_bind,
                      EStateM.run_pure, EStateM.run_modify, EStateM.run_get,
                      setLastPlayedSubtitleLanguageIsoCode]
                    rw [if_neg (by simp [stays.1])]
                    exact reached

end Staying

/-- Behind the refresh playback goes on from an allowed position. -/
theorem tells_applyAudioStream (index : Int) (source : MediaSourceInfo) :
    Respects (Tells settled strict) (applyAudioStream index source) := by
  unfold applyAudioStream
  refine tells_refresh_bind fun _ => ?_
  refine Respects.bind neutral_setExoPlayerTrack fun _ => ?_
  refine Respects.bind (neutral_updateOptions _) fun _ => ?_
  refine Respects.ite (Respects.pure _) ?_
  refine Respects.bind (neutral_modify fun _ => rfl) fun _ => ?_
  refine Respects.bind tells_stop fun _ => ?_
  refine Respects.bind (neutral_record fun _ => rfl) fun _ => ?_
  refine Respects.bind Respects.get fun controller => ?_
  refine Respects.bind (neutral_requireNotNull _) fun _ => ?_
  refine Respects.bind (tells_playInternal _ _) fun _ => ?_
  exact Respects.modify fun controller =>
    tells_withState controller .buffering (by decide) (by decide) (by decide)

theorem tells_switchAudioStream (index : Int) :
    Respects (Tells settled strict) (switchAudioStream index) := by
  unfold switchAudioStream
  refine Respects.bind Respects.get fun controller => ?_
  refine Respects.ite (Respects.pure _) ?_
  refine Respects.bind (neutral_lift _) fun source => ?_
  split
  · exact Respects.pure _
  · split
    · exact Respects.pure _
    · refine Respects.bind (neutral_modify fun _ => rfl) fun _ => ?_
      refine Respects.bind neutral_getAudioStreamIndex fun _ => ?_
      exact Respects.ite (neutral_updateOptions _)
        (tells_applyAudioStream _ _)

theorem tells_selectAudioTrack :
    Respects (Tells settled strict) selectAudioTrack := by
  unfold selectAudioTrack
  refine Respects.bind neutral_currentOptions fun options => ?_
  refine Respects.bind Respects.get fun controller => ?_
  split
  · exact tells_switchAudioStream _
  · refine Respects.bind (neutral_lift _) fun _ => ?_
    refine Respects.bind (neutral_requireNotNull _) fun _ => ?_
    exact tells_switchAudioStream _

theorem tells_updateBurningSubs (stream : StreamInfo) :
    Respects (Tells settled strict) (updateBurningSubs stream) := by
  unfold updateBurningSubs
  refine Respects.bind (neutral_lift _) fun _ => ?_
  refine Respects.modify fun controller => ?_
  exact Narrates.silent rfl fun _ attends => attends.congr rfl rfl

/-- A request that failed for want of subtitles is repeated at its own
position. -/
theorem tells_retryWithoutSubtitles (position : Int) (stream : StreamInfo) :
    Respects (Tells settled False)
      (retryWithoutSubtitles position stream) := by
  unfold retryWithoutSubtitles
  refine Respects.bind (neutral_lift _) fun _ => ?_
  refine Respects.ite ?_ (Respects.pure _)
  refine Respects.bind (Respects.modify fun controller => ?_) fun _ => ?_
  · exact Narrates.silent rfl fun _ attends => attends.congr rfl rfl
  intro controller track attends
  rw [EStateM.run_bind, attends.toOrdinary.stop_run]
  refine tells_restart position rfl ?_ ?_ track attends
  · exact fun track attends => play_startsAt attends.rests _ _
  · exact fun _ _ holds => absurd holds not_false

/-- A stream from the start tells the player to go there. -/
theorem tells_hand (controller : PlaybackController) (stream : StreamInfo)
    (item : Option BaseItemDto) :
    Tells settled strict controller
      (controller.record (.setMediaStreamInfo stream item)) := by
  refine Narrates.entry rfl ?_
  intro track attends
  refine ⟨⟨⟨attends.toOrdinary.congr rfl, attends.target, attends.position,
    ?_, ?_, attends.idle⟩, attends.heard, attends.noticed⟩, ?_⟩
  · intro begun
    exact Bool.or_eq_true_iff.mpr (Or.inl (attends.begun begun))
  · intro seeking
    exact Bool.or_eq_true_iff.mpr (Or.inl (attends.seeking seeking))
  · rintro _ position ⟨⟩

theorem tells_startStream (item : BaseItemDto) (position : Int)
    (stream : StreamInfo) (source : MediaSourceInfo) :
    Respects (Tells settled strict)
      (startStream item position stream source) := by
  unfold startStream
  refine Respects.bind neutral_currentOptions fun options => ?_
  refine Respects.bind Respects.get fun controller => ?_
  refine Respects.bind (neutral_updateOptions _) fun _ => ?_
  refine Respects.bind (neutral_record fun _ => rfl) fun _ => ?_
  refine Respects.bind (neutral_setDefaultAudioIndex _) fun _ => ?_
  refine Respects.bind ?_ fun _ => neutral_modify fun _ => rfl
  exact Respects.modify fun controller => tells_hand controller _ _

theorem tells_startStored (item : BaseItemDto) (position : Int)
    (stream : StreamInfo) :
    Respects (Tells settled False) (startStored item position stream) := by
  unfold startStored
  refine Respects.bind (neutral_requireNotNull _) fun source => ?_
  refine Respects.bind (neutral_updateOptions _) fun _ => ?_
  exact Respects.ite (tells_retryWithoutSubtitles _ _)
    (tells_startStream _ _ _ _)

theorem tells_startItem (item : BaseItemDto) (position : Int)
    (stream : StreamInfo) :
    Respects (Tells settled False) (startItem item position stream) := by
  unfold startItem
  refine Respects.bind Respects.get fun controller => ?_
  refine Respects.ite (Respects.pure _) ?_
  refine Respects.bind (neutral_updateOptions _) fun _ => ?_
  refine Respects.bind ?_ fun _ => tells_startStored _ _ _
  refine Respects.modify fun controller => ?_
  refine IsTrans.trans _
    { controller with
      mStartPosition := position
      mCurrentStreamInfo := some stream } _ (Neutral.silent rfl) ?_
  exact Neutral.aside _ rfl

theorem tells_onResponse {request : Request}
    (kind : request.kind = .videoStreamInfo) (stream : StreamInfo) :
    Respects (Tells settled False) (onResponse request stream) := by
  unfold onResponse updateAnsweredSubs
  refine Respects.bind Respects.get fun controller => ?_
  rw [kind]
  refine Respects.ite (Respects.pure _) ?_
  refine Respects.bind (Respects.modify fun controller => ?_) fun _ => ?_
  · exact Narrates.silent rfl fun _ attends => attends.congr rfl rfl
  · refine Respects.bind ?_ fun _ => ?_
    · exact Respects.ite (Respects.pure _) (tells_updateBurningSubs _)
    · exact Respects.bind (neutral_requireNotNull _)
        fun item => tells_startItem item _ _

theorem tells_respond (index : Nat) (isActive : Bool) (answer : Answer) :
    Respects (Tells settled False) (respond index isActive answer) := by
  intro controller track attends
  unfold respond
  rw [EStateM.run_bind, EStateM.run_get]
  dsimp only
  split
  · exact Std.Refl.refl (r := Tells settled False) controller track attends
  · rename_i request found
    have kind :=
      attends.requests request (List.mem_of_getElem? found)
    refine (?_ : Tells settled False controller _) track attends
    refine Respects.bind_at ?_ ?_
    · refine Narrates.silent rfl ?_
      intro track attends
      refine ⟨⟨⟨attends.fragment, attends.player, attends.recorded,
        attends.items, attends.noSkip, ?_, attends.known⟩, attends.target,
        attends.position, attends.begun, attends.seeking, attends.idle⟩,
        attends.heard, attends.noticed⟩
      intro other member
      exact attends.requests other (List.mem_of_mem_eraseIdx member)
    · intro _
      refine Respects.ite (Respects.pure _) ?_
      refine Respects.bind (neutral_requireNotNull _) fun options => ?_
      split
      · rw [onRequestError, kind]
        exact Respects.pure _
      · exact tells_onResponse kind _

theorem tells_pause : Respects (Tells settled strict) pause := by
  unfold pause
  refine Respects.bind Respects.get fun controller => ?_
  refine Respects.ite (Respects.pure _) ?_
  refine Respects.modify fun controller => ?_
  exact IsTrans.trans _ _ _
    (tells_withState controller .paused (by decide) (by decide) (by decide))
    (Neutral.silent (located_startPauseReportLoop _))

theorem tells_reportTick : Respects (Tells settled strict) reportTick := by
  unfold reportTick
  refine Respects.bind Respects.get fun controller => ?_
  split
  · exact Respects.pure _
  · refine Respects.bind (Respects.modify fun controller => ?_) fun _ => ?_
    · split
      · exact tells_refresh controller
      · exact Std.Refl.refl controller
    · refine neutral_modify fun controller => ?_
      split
      · rfl
      · rfl
  · refine Respects.ite (neutral_modify fun _ => rfl) ?_
    exact Respects.modify tells_refresh

theorem tells_segmentsLoaded (lookup : Lookup) :
    Respects (Tells settled strict) (segmentsLoaded lookup) := by
  unfold segmentsLoaded startVideo
  refine Respects.bind ?_ fun _ => ?_
  · refine Respects.bind Respects.get fun controller => ?_
    refine Respects.ite (neutral_modify fun _ => rfl) ?_
    exact Respects.bind (neutral_requireNotNull _)
      fun _ => neutral_record fun _ => rfl
  · refine Respects.bind Respects.get fun controller => ?_
    refine Respects.ite (Respects.throw _) ?_
    exact neutral_record fun _ => rfl

end PlaybackController

end JellyfinTv.Video
