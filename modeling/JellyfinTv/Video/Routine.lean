import JellyfinTv.Video.Callbacks

/-!
# What routine operations respect

Most operations of the controller start no stream.  A relation of states is
routine if it is respected by their writes and by `stop`: then it is respected
by all of them.  A write to the pending skip or to the saved subtitle language
is asked for apart.
-/

namespace JellyfinTv.Video

open JellyfinTv.Library PlaybackController

/-- The calls that neither start a stream nor report one. -/
def Call.isQuiet : Call → Bool
  | .stored _ _ | .setMediaStreamInfo _ _ | .subtitleSelected _ _ | .start
  | .reportStart _ _ _ | .reportStopped _ _ _ => false
  | _ => true

namespace Event

/-- The events that may change the pending skip. -/
def skips : Event → Bool
  | .skip _ | .skipRunnable | .seek _ true => true
  | _ => false

/-- The events that may save a subtitle language. -/
def saves : Event → Bool
  | .setSubtitleIndex _ | .onPrepared => true
  | _ => false

/-- The events that may start a stream. -/
def starts : Event → Bool
  | .response _ _ _ => true
  | _ => false

end Event

namespace PlaybackController

/-- The part of the state that `Changes` speaks about. -/
def watched (controller : PlaybackController) :=
  (controller.currentSkipPos, controller.skipScheduled,
    controller.lastPlayedSubtitleLanguageIsoCode, controller.calls,
    controller.mVideoManager.isSome, controller.hasFragment,
    controller.mCurrentStreamInfo.isSome, controller.mCurrentOptions,
    controller.requests)

/-- The part of the state that routine operations change in a few ways
only. -/
def accounted (controller : PlaybackController) :=
  (controller.watched, controller.mItems, controller.mCurrentIndex,
    controller.mCurrentStreamInfo, controller.lookups,
    controller.delayedStarts)

/-- The current index is an index of the list. -/
def Inside (controller : PlaybackController) : Prop :=
  controller.mCurrentIndex < controller.mItems.length

theorem inside_of_current {controller : PlaybackController}
    (current : controller.getCurrentlyPlayingItem.isSome) :
    controller.Inside := by
  obtain ⟨item, found⟩ := Option.isSome_iff_exists.mp current
  exact (List.getElem?_eq_some_iff.mp found).1

end PlaybackController

/-- A relation that the writes of routine operations respect. -/
class Routine (related : PlaybackController → PlaybackController → Prop) :
    Prop extends IsPreorder PlaybackController related where
  silent :
    ∀ {before after : PlaybackController},
      after.accounted = before.accounted → related before after
  record :
    ∀ (controller : PlaybackController) {call : Call},
      call.isQuiet → related controller (controller.record call)
  send :
    ∀ (controller : PlaybackController) {request : Request},
      (request.kind = .changeVideoStream →
        controller.mCurrentOptions.isSome) →
      (request.item.isSome → controller.getCurrentlyPlayingItem.isSome) →
        related controller (controller.send request)
  answer :
    ∀ (controller : PlaybackController) (index : Nat),
      related controller
        { controller with
          requests := controller.requests.eraseIdx index }
  move :
    ∀ (controller : PlaybackController) {index : Nat},
      (controller.Inside → index < controller.mItems.length) →
        related controller { controller with mCurrentIndex := index }
  init :
    ∀ (controller : PlaybackController) (readings : PlayerReadings)
      (directStreamLiveTv : Bool),
      related controller (controller.init readings directStreamLiveTv)
  detach :
    ∀ controller : PlaybackController,
      related controller
        { controller with hasFragment := false, mVideoManager := none }
  stop : Respects related stop

/-- A relation that the writes after a stream was stored respect as well. -/
structure Starting
    (related : PlaybackController → PlaybackController → Prop) : Prop where
  select :
    ∀ (controller : PlaybackController) (server chosen : Option Int),
      related controller (controller.record (.subtitleSelected server chosen))
  hand :
    ∀ (controller : PlaybackController) (stream : StreamInfo)
      (item : Option BaseItemDto),
      related controller (controller.record (.setMediaStreamInfo stream item))
  look :
    ∀ (controller : PlaybackController) (lookup : Lookup),
      related controller
        { controller with lookups := controller.lookups ++ [lookup] }

/-- A relation that leaves the pending skip free. -/
def FreesSkips (related : PlaybackController → PlaybackController → Prop) :
    Prop :=
  ∀ (controller : PlaybackController) (pos seekPosition position : Int)
    (scheduled : Bool),
    related controller
      { controller with
        currentSkipPos := pos
        skipScheduled := scheduled
        mSeekPosition := seekPosition
        mCurrentPosition := position }

/-- A relation that leaves the saved subtitle language free. -/
def FreesLanguages
    (related : PlaybackController → PlaybackController → Prop) : Prop :=
  ∀ (controller : PlaybackController) (isoCode : Option String),
    related controller
      { controller with lastPlayedSubtitleLanguageIsoCode := isoCode }

/-! ## Writes -/

theorem accounted_refreshCurrentPosition (controller : PlaybackController) :
    controller.refreshCurrentPosition.accounted = controller.accounted := by
  unfold refreshCurrentPosition
  split
  · rfl
  · split
    · rfl
    · rename_i manager initialized
      have present : controller.mVideoManager = some manager :=
        (Option.filter_eq_some_iff.mp initialized).1
      split
      · rfl
      · split
        · split
          · simp only [accounted, watched, withPosition, present, Option.isSome_some]
          · split <;> rfl
        · rfl

@[simp]
theorem refreshCurrentPosition_mPlaybackState
    (controller : PlaybackController) :
    controller.refreshCurrentPosition.mPlaybackState =
      controller.mPlaybackState := by
  unfold refreshCurrentPosition
  split
  · rfl
  · split
    · rfl
    · split
      · rfl
      · split
        · split
          · rfl
          · split <;> rfl
        · rfl

theorem accounted_startReportLoop (controller : PlaybackController) :
    controller.startReportLoop.accounted = controller.accounted := by
  unfold startReportLoop
  split <;> rfl

theorem accounted_startPauseReportLoop (controller : PlaybackController) :
    controller.startPauseReportLoop.accounted = controller.accounted := by
  unfold startPauseReportLoop
  split <;> rfl

theorem getNextItem_inside {controller : PlaybackController}
    {item : BaseItemDto} (found : controller.getNextItem = some item) :
    controller.mCurrentIndex + 1 < controller.mItems.length := by
  unfold getNextItem hasNextItem at found
  split at found
  case isTrue exists_next =>
    exact of_decide_eq_true exists_next
  case isFalse =>
    cases found

/-- `stop` stays at the current item. -/
theorem respects_stop_place :
    Respects
      (Fixes fun controller : PlaybackController =>
        (controller.mItems, controller.mCurrentIndex)) stop := by
  have refreshed (controller : PlaybackController) :
      Fixes
        (fun controller : PlaybackController =>
          (controller.mItems, controller.mCurrentIndex)) controller
        controller.refreshCurrentPosition := by
    have same := accounted_refreshCurrentPosition controller
    simp only [accounted, Prod.mk.injEq] at same
    exact Prod.ext same.2.1 same.2.2.1
  unfold stop
  refine Respects.bind (Respects.modify refreshed) fun _ => ?_
  refine Respects.bind (Respects.modify fun _ => rfl) fun _ => ?_
  refine Respects.bind Respects.get fun controller => ?_
  refine Respects.ite (Respects.pure _) ?_
  refine Respects.bind (Respects.modify fun _ => rfl) fun _ => ?_
  refine Respects.bind ?_ fun _ => ?_
  · refine Respects.bind Respects.get fun _ => ?_
    exact Respects.ite (Respects.throw _) (Respects.pure _)
  · refine Respects.bind ?_ fun _ => Respects.modify fun _ => rfl
    refine Respects.bind Respects.get fun controller => ?_
    split
    · exact Respects.ite (Respects.throw _) (Respects.modify fun _ => rfl)
    · exact Respects.pure _

section Routine

variable {related : PlaybackController → PlaybackController → Prop}
variable [Routine related]

theorem related_trans {before middle after : PlaybackController}
    (first : related before middle) (second : related middle after) :
    related before after :=
  IsTrans.trans _ _ _ first second

/-- A write outside the accounted part. -/
theorem respects_modify {change : PlaybackController → PlaybackController}
    (same :
      ∀ controller, (change controller).accounted = controller.accounted) :
    Respects related (modify change : ControllerM PUnit) :=
  Respects.modify fun controller => Routine.silent (same controller)

theorem respects_record {call : PlaybackController → Call}
    (quiet : ∀ controller, (call controller).isQuiet) :
    Respects related
      (modify fun controller => controller.record (call controller) :
        ControllerM PUnit) :=
  Respects.modify fun controller =>
    Routine.record controller (quiet controller)

theorem respects_refreshCurrentPosition :
    Respects related
      (modify refreshCurrentPosition : ControllerM PUnit) :=
  respects_modify accounted_refreshCurrentPosition

theorem respects_lift {Value : Type}
    (computed : Except ControllerException Value) :
    Respects related (lift computed) := by
  cases computed with
  | ok value =>
      exact Respects.pure value
  | error exception =>
      exact Respects.throw exception

theorem respects_requireNotNull {Value : Type} (value : Option Value) :
    Respects related (requireNotNull value) := by
  cases value with
  | none =>
      exact Respects.throw _
  | some value =>
      exact Respects.pure value

/-! ## Playing and stopping -/

theorem respects_currentOptions :
    Respects related currentOptions := by
  unfold currentOptions
  exact Respects.bind Respects.get fun _ => respects_requireNotNull _

theorem respects_updateOptions (change : VideoOptions → VideoOptions) :
    Respects related (updateOptions change) := by
  unfold updateOptions
  refine Respects.bind Respects.get fun _ => ?_
  refine Respects.bind (respects_requireNotNull _) fun _ => ?_
  exact respects_modify fun _ => rfl

theorem respects_forcedAudioIndex (forcedAudioLanguage : Option String)
    (currentMediaSource : Option MediaSourceInfo) :
    Respects related
      (forcedAudioIndex forcedAudioLanguage currentMediaSource) := by
  unfold forcedAudioIndex
  split
  · exact Respects.pure _
  · refine Respects.bind (respects_requireNotNull _) fun _ => ?_
    refine Respects.bind (respects_requireNotNull _) fun _ => ?_
    exact Respects.pure _

theorem respects_buildExoPlayerOptions (forcedSubtitleIndex : Option Int)
    (forcedAudioLanguage : Option String) (item : BaseItemDto) :
    Respects related
      (buildExoPlayerOptions forcedSubtitleIndex forcedAudioLanguage
        item) := by
  unfold buildExoPlayerOptions
  refine Respects.bind Respects.get fun _ => ?_
  refine Respects.bind (respects_lift _) fun _ => ?_
  refine Respects.bind (respects_forcedAudioIndex _ _) fun _ => ?_
  exact Respects.pure _

theorem respects_playInternal (position : Int) (options : Nat) :
    Respects related (playInternal position options) := by
  unfold playInternal
  refine Respects.bind Respects.get fun controller => ?_
  refine Respects.ite (Respects.throw _) ?_
  refine Respects.modify fun controller => ?_
  refine Routine.send controller ?_ id
  rintro ⟨⟩

theorem respects_playFromIdle (position : Int)
    (forcedSubtitleIndex : Option Int) :
    Respects related
      (playFromIdle position forcedSubtitleIndex) := by
  unfold playFromIdle
  refine Respects.bind (respects_modify fun _ => rfl) fun _ => ?_
  refine Respects.bind Respects.get fun controller => ?_
  split
  · exact Respects.pure _
  · refine Respects.ite (Respects.pure _) ?_
    refine Respects.bind (respects_modify fun _ => rfl) fun _ => ?_
    refine Respects.bind Respects.get fun controller => ?_
    refine Respects.bind (respects_buildExoPlayerOptions _ _ _) fun _ => ?_
    refine Respects.bind (respects_modify fun _ => rfl) fun _ => ?_
    refine Respects.bind (respects_playInternal _ _) fun _ => ?_
    refine respects_modify fun controller => ?_
    simp only [accounted, watched, Option.isSome_map]

theorem respects_play (position : Int)
    (forcedSubtitleIndex : Option Int) :
    Respects related
      (play position forcedSubtitleIndex) := by
  unfold play
  refine Respects.bind (respects_record fun _ => rfl) fun _ => ?_
  refine Respects.bind Respects.get fun controller => ?_
  refine Respects.ite (Respects.pure _) ?_
  split
  · refine Respects.ite (Respects.pure _) ?_
    exact respects_modify fun _ => accounted_startReportLoop _
  · exact respects_playFromIdle _ _
  · exact Respects.pure _

theorem respects_pause : Respects related pause := by
  unfold pause
  refine Respects.bind Respects.get fun controller => ?_
  refine Respects.ite (Respects.pure _) ?_
  exact respects_modify fun _ => accounted_startPauseReportLoop _

theorem respects_playPause :
    Respects related playPause := by
  unfold playPause
  refine Respects.bind Respects.get fun controller => ?_
  split
  · exact respects_pause
  · exact Respects.bind (respects_modify fun _ => rfl)
      fun _ => respects_play _ _
  · exact Respects.bind (respects_modify fun _ => rfl)
      fun _ => respects_play _ _
  · exact Respects.pure _

theorem respects_refreshStream :
    Respects related refreshStream := by
  unfold refreshStream
  refine Respects.bind respects_refreshCurrentPosition fun _ => ?_
  refine Respects.bind Routine.stop fun _ => ?_
  exact Respects.bind Respects.get fun _ => respects_play _ _

theorem respects_endPlayback : Respects related endPlayback := by
  unfold endPlayback
  refine Respects.bind Routine.stop fun _ => ?_
  refine Respects.modify fun controller => ?_
  have reset :
      related
        { controller with hasFragment := false, mVideoManager := none }
        { controller with
          hasFragment := false
          mVideoManager := none
          playbackRetries := 0 } :=
    Routine.silent rfl
  exact related_trans (Routine.detach controller) reset

/-- A move inside the list stays inside. -/
theorem related_moveTo {controller : PlaybackController} {index : Nat}
    (inside : controller.Inside → index < controller.mItems.length) :
    related controller
      (finalState ((moveTo index).run controller)) := by
  have stopped : related controller (finalState (stop.run controller)) :=
    Routine.stop controller
  have place := respects_stop_place controller
  rw [moveTo, EStateM.run_bind]
  cases outcome : stop.run controller with
  | error exception middle =>
      rw [outcome] at stopped
      exact stopped
  | ok value middle =>
      rw [outcome] at stopped place
      obtain ⟨items, current⟩ := Prod.mk.inj place
      have moved : related middle { middle with mCurrentIndex := index } := by
        refine Routine.move middle fun was_inside => ?_
        have was_before : controller.Inside := by
          rw [Inside, ← items, ← current]
          exact was_inside
        have reached := inside was_before
        rw [← items] at reached
        exact reached
      have reset :
          related { middle with mCurrentIndex := index }
            { middle with
              playbackRetries := 0
              mCurrentIndex := index
              spinnerOff := false } :=
        Routine.silent rfl
      refine related_trans stopped ?_
      refine related_trans (related_trans moved reset) ?_
      exact respects_play 0 none _

theorem respects_next : Respects related next := by
  intro controller
  rw [next, EStateM.run_bind, EStateM.run_get]
  dsimp only
  split
  case isTrue exists_next =>
    exact related_moveTo fun _ => exists_next
  case isFalse =>
    exact Std.Refl.refl controller

theorem respects_prev : Respects related prev := by
  intro controller
  rw [prev, EStateM.run_bind, EStateM.run_get]
  dsimp only
  split
  case isTrue =>
    refine related_moveTo fun inside => ?_
    exact Nat.lt_of_le_of_lt (Nat.sub_le _ 1) inside
  case isFalse =>
    exact Std.Refl.refl controller

theorem respects_itemComplete : Respects related itemComplete := by
  unfold itemComplete
  refine Respects.bind Routine.stop fun _ => ?_
  refine Respects.bind (respects_modify fun _ => rfl) fun _ => ?_
  intro controller
  rw [EStateM.run_bind, EStateM.run_get]
  dsimp only
  split
  · rename_i following _
    split
    · have moved :
          related controller
            { controller with
              mCurrentIndex := controller.mCurrentIndex + 1 } :=
        Routine.move controller fun _ => getNextItem_inside following
      have reset :
          related
            { controller with
              mCurrentIndex := controller.mCurrentIndex + 1 }
            { controller with
              mCurrentIndex := controller.mCurrentIndex + 1
              spinnerOff := false } :=
        Routine.silent rfl
      refine related_trans (related_trans moved reset) ?_
      exact respects_endPlayback _
    · exact respects_next controller
  · exact respects_endPlayback controller

theorem related_rebuildStream (controller : PlaybackController)
    (target : Int) {reference : Nat}
    (present : controller.mCurrentOptions = some reference) :
    related controller
      ({ controller with mPlaybackState := .buffering }.send
        { kind := .changeVideoStream
          isLiveTv := controller.isLiveTv
          item := none
          position := target
          options := reference }) := by
  have buffering :
      related controller
        { controller with mPlaybackState := .buffering } :=
    Routine.silent rfl
  refine related_trans buffering (Routine.send _ ?_ ?_)
  · intro _
    exact Option.isSome_of_mem present
  · rintro ⟨⟩

theorem respects_seekWithin (pos duration : Int) :
    Respects related (seekWithin pos duration) := by
  unfold seekWithin
  refine Respects.bind (respects_modify fun _ => rfl) fun _ => ?_
  intro controller
  rw [EStateM.run_bind, EStateM.run_get]
  dsimp only
  split
  · split
    · split
      · exact Routine.silent rfl
      · cases present : controller.mCurrentOptions with
        | none =>
            exact Routine.silent rfl
        | some reference =>
            exact related_rebuildStream controller _ present
    · have playing :
          related controller
            { controller with mPlaybackState := .playing } :=
        Routine.silent rfl
      refine related_trans (related_trans playing (Routine.record _ ?_))
        (Routine.silent (accounted_startReportLoop _))
      rfl
  · exact Routine.silent rfl

theorem respects_skipToEnd (skipped : FreesSkips related) (duration : Int) :
    Respects related (skipToEnd duration) := by
  unfold skipToEnd
  refine Respects.bind (Respects.modify fun controller => ?_) fun _ => ?_
  · exact skipped controller _ _ _ controller.skipScheduled
  · exact respects_itemComplete

theorem respects_seek (pos : Int) {skipToNext : Bool}
    (skipped : skipToNext → FreesSkips related) :
    Respects related (seek pos skipToNext) := by
  unfold seek
  refine Respects.bind Respects.get fun controller => ?_
  refine Respects.ite (Respects.pure _) ?_
  refine Respects.ite (Respects.ite ?_ (Respects.pure _)) ?_
  · refine Respects.bind respects_refreshCurrentPosition fun _ => ?_
    exact Respects.bind Respects.get fun _ => respects_play _ _
  · refine Respects.bind (respects_modify fun _ => rfl) fun _ => ?_
    refine Respects.bind (respects_lift _) fun duration => ?_
    split
    · rename_i atEnd
      exact respects_skipToEnd (skipped atEnd.1) _
    · exact respects_seekWithin _ _

theorem respects_seek_plain (pos : Int) :
    Respects related (seek pos false) := by
  apply respects_seek
  intro isTrue
  cases isTrue

theorem respects_skipRunnable (skipped : FreesSkips related) :
    Respects related skipRunnable := by
  unfold skipRunnable
  refine Respects.bind (Respects.modify fun controller => ?_) fun _ => ?_
  · exact skipped controller _ _ _ false
  · refine Respects.bind Respects.get fun controller => ?_
    refine Respects.ite (Respects.pure _) ?_
    refine Respects.bind (respects_seek_plain _) fun _ => ?_
    exact Respects.modify fun controller =>
      skipped controller 0 _ _ _

theorem respects_addSkip (skipped : FreesSkips related) (msec : Int) :
    Respects related (addSkip msec) := by
  unfold addSkip
  refine Respects.bind (Respects.modify fun controller => ?_) fun _ => ?_
  · have removed :
        related controller
          { controller with skipScheduled := false } :=
      skipped controller _ _ _ false
    exact related_trans removed
      (Routine.silent (accounted_refreshCurrentPosition _))
  · refine Respects.bind Respects.get fun controller => ?_
    refine Respects.bind (respects_lift _) fun duration => ?_
    exact Respects.modify fun controller =>
      skipped controller _ _ _ _

theorem respects_skip (skipped : FreesSkips related) (msec : Int) :
    Respects related (skip msec) := by
  unfold skip
  refine Respects.bind Respects.get fun controller => ?_
  split
  · exact Respects.pure _
  · refine Respects.ite (Respects.pure _) ?_
    refine Respects.bind (respects_modify fun controller => ?_) fun _ => ?_
    · simp only [accounted, watched, Option.isSome_map]
    · exact Respects.ite (respects_addSkip skipped _) (Respects.pure _)

theorem respects_runInitialSeek (position : Int) :
    Respects related (runInitialSeek position) := by
  unfold runInitialSeek
  refine Respects.bind (respects_modify fun _ => rfl) fun _ => ?_
  refine Respects.bind Respects.get fun controller => ?_
  split
  · exact Respects.pure _
  · refine Respects.ite (respects_modify fun _ => rfl) ?_
    exact Respects.ite (respects_seek_plain _)
      (respects_modify fun _ => rfl)

theorem respects_getAudioStreamIndex :
    Respects related getAudioStreamIndex := by
  unfold getAudioStreamIndex
  refine Respects.bind respects_currentOptions fun options => ?_
  split
  · exact Respects.pure _
  · refine Respects.bind Respects.get fun controller => ?_
    refine Respects.bind (respects_lift _) fun source => ?_
    refine Respects.ite ?_ ?_
    · exact Respects.bind (respects_requireNotNull _)
        fun _ => Respects.pure _
    · split
      · exact Respects.bind (respects_requireNotNull _)
          fun _ => Respects.pure _
      · exact Respects.pure _

theorem respects_setDefaultAudioIndex (source : MediaSourceInfo) :
    Respects related (setDefaultAudioIndex source) := by
  unfold setDefaultAudioIndex
  refine Respects.bind Respects.get fun controller => ?_
  refine Respects.ite (Respects.pure _) ?_
  refine Respects.bind (respects_requireNotNull _) fun _ => ?_
  exact respects_modify fun _ => rfl

theorem respects_setExoPlayerTrack :
    Respects related setExoPlayerTrack := by
  unfold setExoPlayerTrack
  refine Respects.bind Respects.get fun controller => ?_
  refine Respects.ite (Respects.pure _) ?_
  exact Respects.bind (respects_requireNotNull _) fun _ => Respects.pure _

theorem respects_applyAudioStream (index : Int)
    (source : MediaSourceInfo) :
    Respects related (applyAudioStream index source) := by
  unfold applyAudioStream
  refine Respects.bind respects_refreshCurrentPosition fun _ => ?_
  refine Respects.bind respects_setExoPlayerTrack fun _ => ?_
  refine Respects.bind (respects_updateOptions _) fun _ => ?_
  refine Respects.ite (Respects.pure _) ?_
  refine Respects.bind (respects_modify fun _ => rfl) fun _ => ?_
  refine Respects.bind Routine.stop fun _ => ?_
  refine Respects.bind (respects_record fun _ => rfl) fun _ => ?_
  refine Respects.bind Respects.get fun controller => ?_
  refine Respects.bind (respects_requireNotNull _) fun _ => ?_
  refine Respects.bind (respects_playInternal _ _) fun _ => ?_
  exact respects_modify fun _ => rfl

theorem respects_switchAudioStream (index : Int) :
    Respects related (switchAudioStream index) := by
  unfold switchAudioStream
  refine Respects.bind Respects.get fun controller => ?_
  refine Respects.ite (Respects.pure _) ?_
  refine Respects.bind (respects_lift _) fun source => ?_
  split
  · exact Respects.pure _
  · split
    · exact Respects.pure _
    · refine Respects.bind (respects_modify fun _ => rfl) fun _ => ?_
      refine Respects.bind respects_getAudioStreamIndex fun _ => ?_
      exact Respects.ite (respects_updateOptions _)
        (respects_applyAudioStream _ _)

theorem respects_updateBurningSubs (stream : StreamInfo) :
    Respects related (updateBurningSubs stream) := by
  unfold updateBurningSubs
  refine Respects.bind (respects_lift _) fun _ => ?_
  exact respects_modify fun _ => rfl

theorem respects_updateAnsweredSubs (request : Request)
    (stream : StreamInfo) :
    Respects related
      (updateAnsweredSubs request stream) := by
  unfold updateAnsweredSubs
  exact Respects.ite (Respects.pure _) (respects_updateBurningSubs stream)

theorem respects_retryWithoutSubtitles (position : Int)
    (stream : StreamInfo) :
    Respects related
      (retryWithoutSubtitles position stream) := by
  unfold retryWithoutSubtitles
  refine Respects.bind (respects_lift _) fun _ => ?_
  refine Respects.ite ?_ (Respects.pure _)
  refine Respects.bind (respects_modify fun _ => rfl) fun _ => ?_
  exact Respects.bind Routine.stop fun _ => respects_play _ _

theorem respects_onRequestError (request : Request) :
    Respects related (onRequestError request) := by
  unfold onRequestError
  split
  · exact Respects.pure _
  · exact Routine.stop

theorem respects_disableDefaultSubtitles :
    Respects related disableDefaultSubtitles := by
  unfold disableDefaultSubtitles
  refine Respects.bind Respects.get fun controller => ?_
  refine Respects.bind (respects_requireNotNull _) fun _ => ?_
  exact respects_record fun _ => rfl

theorem respects_restartWithSubtitles (index : Int) (burned : Bool) :
    Respects related
      (restartWithSubtitles index burned) := by
  unfold restartWithSubtitles
  refine Respects.bind Routine.stop fun _ => ?_
  refine Respects.bind (respects_modify fun _ => rfl) fun _ => ?_
  refine Respects.bind (respects_updateOptions _) fun _ => ?_
  exact Respects.bind Respects.get fun _ => respects_play _ _

theorem respects_selectAudioTrack :
    Respects related selectAudioTrack := by
  unfold selectAudioTrack
  refine Respects.bind respects_currentOptions fun options => ?_
  refine Respects.bind Respects.get fun controller => ?_
  split
  · exact respects_switchAudioStream _
  · refine Respects.bind (respects_lift _) fun _ => ?_
    refine Respects.bind (respects_requireNotNull _) fun _ => ?_
    exact respects_switchAudioStream _

theorem respects_endBuffering :
    Respects related endBuffering := by
  unfold endBuffering
  refine Respects.bind Respects.get fun controller => ?_
  refine Respects.ite ?_ (Respects.pure _)
  refine Respects.bind (respects_modify fun _ => rfl) fun _ => ?_
  refine Respects.bind (respects_requireNotNull _) fun _ => ?_
  refine Respects.bind (respects_requireNotNull _) fun _ => ?_
  exact respects_modify accounted_startReportLoop

theorem respects_playerErrorEncountered (stabilized : Bool) :
    Respects related
      (playerErrorEncountered stabilized) := by
  unfold playerErrorEncountered
  refine Respects.bind (respects_modify fun _ => rfl) fun _ => ?_
  refine Respects.bind Respects.get fun controller => ?_
  refine Respects.ite ?_ (respects_modify fun _ => rfl)
  refine Respects.bind Routine.stop fun _ => ?_
  exact Respects.bind Respects.get fun _ => respects_play _ _

theorem respects_onError (stabilized : Bool) :
    Respects related (onError stabilized) := by
  unfold onError
  refine Respects.bind (respects_modify fun _ => rfl) fun _ => ?_
  exact respects_playerErrorEncountered stabilized

theorem respects_onProgress :
    Respects related onProgress := by
  unfold onProgress
  refine Respects.bind respects_refreshCurrentPosition fun _ => ?_
  refine Respects.bind Respects.get fun controller => ?_
  refine Respects.ite (Respects.ite ?_ ?_) (Respects.pure _)
  · exact respects_modify fun _ => rfl
  · exact respects_modify fun _ => rfl

theorem respects_reportTick :
    Respects related reportTick := by
  unfold reportTick
  refine Respects.bind Respects.get fun controller => ?_
  split
  · exact Respects.pure _
  · refine Respects.bind (respects_modify fun controller => ?_) fun _ => ?_
    · split
      · exact accounted_refreshCurrentPosition controller
      · rfl
    · refine respects_modify fun controller => ?_
      split <;> rfl
  · refine Respects.ite (respects_modify fun _ => rfl) ?_
    exact respects_refreshCurrentPosition

theorem respects_startStream (starting : Starting related)
    (item : BaseItemDto) (position : Int) (stream : StreamInfo)
    (source : MediaSourceInfo) :
    Respects related (startStream item position stream source) := by
  unfold startStream
  refine Respects.bind respects_currentOptions fun options => ?_
  refine Respects.bind Respects.get fun controller => ?_
  refine Respects.bind (respects_updateOptions _) fun _ => ?_
  refine Respects.bind ?_ fun _ => ?_
  · exact Respects.modify fun controller => starting.select controller _ _
  refine Respects.bind (respects_setDefaultAudioIndex _) fun _ => ?_
  refine Respects.bind ?_ fun _ => ?_
  · exact Respects.modify fun controller => starting.hand controller _ _
  exact Respects.modify fun controller => starting.look controller _

theorem respects_startStored (starting : Starting related)
    (item : BaseItemDto) (position : Int) (stream : StreamInfo) :
    Respects related (startStored item position stream) := by
  unfold startStored
  refine Respects.bind (respects_requireNotNull _) fun source => ?_
  refine Respects.bind (respects_updateOptions _) fun _ => ?_
  refine Respects.ite (respects_retryWithoutSubtitles _ _) ?_
  exact respects_startStream starting _ _ _ _

section Saving

variable (saved : FreesLanguages related)

include saved

omit [Routine related] in
theorem respects_setLastPlayedSubtitleLanguageIsoCode
    (isoCode : Option String) :
    Respects related
      (setLastPlayedSubtitleLanguageIsoCode isoCode) := by
  exact Respects.modify fun controller => saved controller isoCode

theorem respects_disableSubtitles (force : Bool) :
    Respects related (disableSubtitles force) := by
  unfold disableSubtitles
  refine Respects.bind respects_currentOptions fun options => ?_
  refine Respects.ite (Respects.pure _) ?_
  refine Respects.bind Respects.get fun controller => ?_
  refine Respects.ite (Respects.throw _) ?_
  refine Respects.bind
    (respects_setLastPlayedSubtitleLanguageIsoCode saved _) fun _ => ?_
  refine Respects.bind (respects_updateOptions _) fun _ => ?_
  refine Respects.bind Respects.get fun controller => ?_
  exact Respects.ite (respects_restartWithSubtitles _ _)
    respects_disableDefaultSubtitles

theorem respects_enableGroup (index : Int)
    (group : Option TrackGroup) :
    Respects related (enableGroup index group) := by
  unfold enableGroup
  split
  · exact respects_disableSubtitles saved false
  · exact Respects.bind (respects_updateOptions _)
      fun _ => respects_record fun _ => rfl

theorem respects_enableSubtitle (index : Int)
    (stream : MediaStream) (streams : List MediaStream) :
    Respects related
      (enableSubtitle index stream streams) := by
  unfold enableSubtitle
  refine Respects.ite ?_ ?_
  · refine Respects.bind Respects.get fun controller => ?_
    exact Respects.bind (respects_requireNotNull _)
      fun _ => respects_enableGroup saved _ _
  · split
    · exact respects_disableSubtitles saved false
    · refine Respects.bind Respects.get fun controller => ?_
      exact Respects.bind (respects_requireNotNull _)
        fun _ => respects_enableGroup saved _ _

theorem respects_applySubtitle (index : Int)
    (found : Option MediaStream) (streams : List MediaStream) :
    Respects related
      (applySubtitle index found streams) := by
  unfold applySubtitle
  split
  · exact respects_disableSubtitles saved false
  · refine Respects.ite (respects_restartWithSubtitles _ _) ?_
    refine Respects.bind Respects.get fun controller => ?_
    refine Respects.bind (respects_requireNotNull _) fun _ => ?_
    refine Respects.bind Respects.get fun controller => ?_
    refine Respects.ite (respects_restartWithSubtitles _ _) ?_
    exact Respects.ite (respects_disableSubtitles saved _)
      (respects_enableSubtitle saved _ _ _)

theorem respects_setSubtitleIndex (index : Int)
    (force : Bool) :
    Respects related (setSubtitleIndex index force) := by
  unfold setSubtitleIndex
  refine Respects.ite (respects_disableSubtitles saved force) ?_
  refine Respects.bind respects_currentOptions fun options => ?_
  refine Respects.ite (Respects.pure _) ?_
  refine Respects.bind Respects.get fun controller => ?_
  refine Respects.ite (Respects.throw _) ?_
  refine Respects.bind Respects.get fun controller => ?_
  refine Respects.bind (respects_lift _) fun _ => ?_
  refine Respects.bind (respects_requireNotNull _) fun source => ?_
  refine Respects.bind
    (respects_setLastPlayedSubtitleLanguageIsoCode saved _) fun _ => ?_
  refine Respects.bind Respects.get fun controller => ?_
  exact Respects.ite (respects_restartWithSubtitles _ _)
    (respects_applySubtitle saved _ _ _)

theorem respects_selectSubtitleTrack :
    Respects related selectSubtitleTrack := by
  unfold selectSubtitleTrack
  refine Respects.bind Respects.get fun controller => ?_
  refine Respects.ite respects_disableDefaultSubtitles ?_
  exact Respects.bind respects_currentOptions
    fun _ => respects_setSubtitleIndex saved _ _

theorem respects_onPrepared :
    Respects related onPrepared := by
  unfold onPrepared
  refine Respects.bind respects_endBuffering fun _ => ?_
  refine Respects.bind Respects.get fun controller => ?_
  refine Respects.bind (respects_requireNotNull _) fun _ => ?_
  refine Respects.ite (respects_modify fun _ => rfl) ?_
  exact Respects.bind (respects_selectSubtitleTrack saved)
    fun _ => respects_selectAudioTrack

end Saving

namespace Event

/-- The events that neither start a stream nor end the wait of one. -/
def isPlain : Event → Bool
  | .response _ _ _ | .segmentsLoaded _ | .delayedStart => false
  | _ => true

end Event

theorem respects_handle_of_plain {event : Event} (plain : event.isPlain)
    (skipped : event.skips → FreesSkips related)
    (saved : event.saves → FreesLanguages related) :
    Respects related (handle event) := by
  cases event with
  | init readings directStreamLiveTv =>
      exact Respects.modify fun controller => Routine.init controller _ _
  | play position =>
      exact respects_play position none
  | playPause =>
      exact respects_playPause
  | pause =>
      exact respects_pause
  | stop =>
      exact Routine.stop
  | next =>
      exact respects_next
  | prev =>
      exact respects_prev
  | skip msec =>
      exact respects_skip (skipped rfl) msec
  | skipRunnable =>
      refine Respects.bind Respects.get fun controller => ?_
      exact Respects.ite (respects_skipRunnable (skipped rfl)) (Respects.pure _)
  | seek pos skipToNext =>
      refine respects_seek pos fun toNext => skipped ?_
      rw [toNext]
      rfl
  | initialSeek position =>
      refine Respects.bind Respects.get fun controller => ?_
      exact Respects.ite (respects_runInitialSeek _) (Respects.pure _)
  | switchAudioStream index =>
      exact respects_switchAudioStream index
  | setSubtitleIndex index =>
      exact respects_setSubtitleIndex (saved rfl) index false
  | refreshStream =>
      exact respects_refreshStream
  | endPlayback =>
      exact respects_endPlayback
  | onPrepared =>
      exact respects_onPrepared (saved rfl)
  | onProgress =>
      exact respects_onProgress
  | onCompletion =>
      exact respects_itemComplete
  | onError stabilized =>
      exact respects_onError stabilized
  | reportTick =>
      exact respects_reportTick
  | response index isActive answer =>
      cases plain
  | segmentsLoaded index =>
      cases plain
  | delayedStart =>
      cases plain
  | programStarted start =>
      exact respects_modify fun _ => rfl
  | timePasses now =>
      exact respects_modify fun _ => rfl
  | playerChanges readings =>
      refine respects_modify fun controller => ?_
      simp only [accounted, watched, Option.isSome_map]

end Routine

end JellyfinTv.Video
