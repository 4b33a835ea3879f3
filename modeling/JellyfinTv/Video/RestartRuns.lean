import JellyfinTv.Video.Restarts

/-!
# Restarts over whole runs

A run is watched together with its track.  As long as no initial seek is taken
for finished before the player was told, no seek is made without a stream, and
no restart comes upon an unnoticed seek to another position, every restart goes
to the target or to a position that the player has reported behind it.
-/

namespace JellyfinTv.Video

open JellyfinTv.Library PlaybackController

namespace PlaybackController

/-- The calls that the handler of an event makes. -/
def callsMade (controller : PlaybackController) (event : Event) : List Call :=
  (step controller event).calls.drop controller.calls.length

/-- The posted seek is executed, as the duration is known. -/
def runsInitialSeek (controller : PlaybackController) (position : Int) :
    Bool :=
  controller.initialSeeks.contains position &&
    controller.mVideoManager.any fun manager =>
      0 < manager.getDuration && manager.isSeekable

/-- The controller once a stream that was buffering is prepared. -/
def unbuffered (controller : PlaybackController) : PlaybackController :=
  if controller.mPlaybackState = .buffering then
    { controller with mPlaybackState := .playing }
  else
    controller

/-- The subtitles that a prepared stream is to show restart playback. -/
def restartsWhenPrepared (controller : PlaybackController) : Bool :=
  controller.mCurrentStreamInfo.isSome && !controller.burningSubs &&
    controller.videoOptions.any fun options =>
      controller.restartsWithSubtitles
        (options.subtitleStreamIndex.getD (-1)) true

/-- An error within the limit of retries restarts playback. -/
def retriesAfterError (controller : PlaybackController)
    (stabilized : Bool) : Bool :=
  (if controller.playbackRetries > 0 ∧ stabilized then 0
    else controller.playbackRetries) + 1 < 3

/-- The events that happen to a recorded video that can be sought.  A seek that
leads to the next item at the end of the video is none of them. -/
def Happens (controller : PlaybackController) : Event → Prop
  | .seek pos skipToNext =>
      skipToNext → controller.wasSeeking = false →
        ∀ manager ∈ controller.initializedManager,
          max pos 0 < max manager.getDuration 0 - 100
  | .playerChanges readings => readings.isSeekable
  | .init _ _ | .stop | .next | .prev | .skip _ | .skipRunnable
  | .endPlayback | .onCompletion => False
  | _ => True

end PlaybackController

/-- The events that restart playback at its position. -/
def Event.restarts : Event → Bool
  | .setSubtitleIndex _ | .refreshStream | .onPrepared | .onError _ => true
  | _ => false

namespace Track

/-- The position of the player counts from the time it was told. -/
def observe (track : Track) (controller : PlaybackController) : Track :=
  match controller.playerReadings with
  | none => track
  | some readings =>
      if track.told then
        { track with
          reported := track.reported ++ [(readings.currentPosition : Int)] }
      else
        track

/-- A seek that is not cancelled has a new target, cut to the video. -/
def sought (track : Track) (controller : PlaybackController) (pos : Int)
    (made : List Call) : Track :=
  match controller.initializedManager with
  | none => track
  | some manager =>
      if controller.wasSeeking then
        track
      else
        made.foldl hear
          { target := min (max pos 0) (max manager.getDuration 0)
            told := false
            reported := [] }

/-- The track behind an event.  A call of `play` that only resumes playback is
no start. -/
def step (track : Track) (controller : PlaybackController) (event : Event) :
    Track :=
  let track := track.observe controller
  let made := controller.callsMade event
  match event with
  | .play _ | .playPause =>
      if controller.mPlaybackState = .idle then made.foldl hear track
      else track
  | .seek pos _ => track.sought controller pos made
  | .initialSeek position =>
      if controller.runsInitialSeek position then
        track.sought controller position made
      else
        track
  | _ => made.foldl hear track

end Track

/-- A controller and the track of its playback. -/
structure Watched where
  controller : PlaybackController
  track : Track

namespace Watched

/-- Before the first start the target is the beginning. -/
def start (controller : PlaybackController) : Watched where
  controller := controller
  track := Track.startingAt 0

def step (watched : Watched) (event : Event) : Watched where
  controller := Video.step watched.controller event
  track := watched.track.step watched.controller event

/-- The starts of a restart go to the target or to a position that the player
has reported since it was told to go there. -/
def RestartsInPlace (watched : Watched) (event : Event) : Prop :=
  event.restarts →
    Accepted Track.hear Track.Accepts
      (watched.track.observe watched.controller)
      (watched.controller.callsMade event)

instance (watched : Watched) (event : Event) :
    Decidable (watched.RestartsInPlace event) :=
  inferInstanceAs (Decidable (_ → _))

/-- A restart in the state finds no unnoticed seek, or the position of the last
refresh is the one that is sought or was reported. -/
def Notices (watched : Watched) (state : PlaybackController) : Prop :=
  state.SeeksUnnoticed →
    watched.controller.mCurrentPosition = watched.controller.mSeekPosition ∨
      watched.controller.mCurrentPosition ∈
        (watched.track.observe watched.controller).reported

/-- The initial seek is taken for finished only if the player was told, seeks
have a stream, and restarts come upon no unnoticed seek.  `refreshStream`
refreshes twice and notices it by itself. -/
def Proceeds (watched : Watched) (event : Event) : Prop :=
  let controller := watched.controller
  match event with
  | .onProgress =>
      controller.isPlaying → controller.spinnerOff = false →
        controller.mStartPosition ≤ 0 → watched.track.told
  | .seek _ _ =>
      controller.wasSeeking = false → controller.mCurrentStreamInfo.isSome
  | .initialSeek position =>
      controller.runsInitialSeek position → controller.wasSeeking = false →
        controller.mCurrentStreamInfo.isSome
  | .onPrepared =>
      controller.restartsWhenPrepared →
        watched.Notices controller.unbuffered
  | .setSubtitleIndex index =>
      controller.restartsWithSubtitles index false →
        watched.Notices controller
  | .onError stabilized =>
      controller.retriesAfterError stabilized → watched.Notices controller
  | _ => True

/-- What every watched run keeps. -/
structure Sound (watched : Watched) : Prop where
  follows : Follows watched.track watched.controller
  attached : watched.controller.Attached

end Watched

namespace Track

@[simp]
theorem observe_target (track : Track)
    (controller : PlaybackController) :
    (track.observe controller).target = track.target := by
  unfold observe
  split
  · rfl
  · split
    · rfl
    · rfl

@[simp]
theorem observe_told (track : Track)
    (controller : PlaybackController) :
    (track.observe controller).told = track.told := by
  unfold observe
  split
  · rfl
  · split
    · rfl
    · rfl

theorem reported_subset_observe (track : Track)
    (controller : PlaybackController) :
    track.reported ⊆ (track.observe controller).reported := by
  unfold observe
  split
  · exact List.Subset.refl _
  · split
    · exact List.subset_append_left _ _
    · exact List.Subset.refl _

end Track

namespace PlaybackController

variable {controller after : PlaybackController} {track : Track}

theorem Follows.observe (follows : Follows track controller) :
    Follows (track.observe controller) controller := by
  refine ⟨follows.toOrdinary, ?_, ?_, ?_, ?_, follows.idle⟩
  · rw [Track.observe_target]
    exact follows.target
  · intro unknown
    rcases follows.position unknown with atTarget | reported
    · left
      rw [Track.observe_target]
      exact atTarget
    · exact Or.inr (track.reported_subset_observe controller reported)
  · rw [Track.observe_told]
    exact follows.begun
  · rw [Track.observe_told]
    exact follows.seeking

/-- An event begins with the position of the player heard. -/
theorem Follows.attends {settled : Prop} (follows : Follows track controller)
    (noticed :
      settled → controller.SeeksUnnoticed →
        (track.observe controller).Allows controller.mCurrentPosition) :
    Attends settled (track.observe controller) controller := by
  refine ⟨follows.observe, ?_, noticed⟩
  intro taken
  obtain ⟨readings, player, -⟩ := follows.player
  have told : track.told := by
    rcases taken with begun | seeking
    · exact follows.begun begun
    · exact follows.seeking seeking
  refine ⟨readings, player, ?_⟩
  rw [Track.observe, player]
  simp [told]

theorem Follows.attends_unsettled (follows : Follows track controller) :
    Attends False (track.observe controller) controller :=
  follows.attends fun impossible => absurd impossible not_false

/-- The calls of an event are the ones that the log has gained. -/
theorem callsMade_of_append (event : Event) {made : List Call}
    (grown : (step controller event).calls = controller.calls ++ made) :
    controller.callsMade event = made := by
  rw [callsMade, grown, List.drop_left]

theorem Follows.of_tells {event : Event} (follows : Follows track controller)
    (told : Tells False False controller (step controller event)) :
    Follows
      ((controller.callsMade event).foldl Track.hear
        (track.observe controller))
      (step controller event) := by
  obtain ⟨made, grown, kept, -⟩ := told _ follows.attends_unsettled
  rw [callsMade_of_append event grown]
  exact kept.toFollows

/-! ## Starts and seeks -/

theorem Follows.withState (follows : Follows track controller)
    {state : PlaybackState} (known : state ≠ .undefined)
    (busy : state ≠ .idle) :
    Follows track { controller with mPlaybackState := state } :=
  ⟨⟨follows.fragment, follows.player, follows.recorded, follows.items,
    follows.noSkip, follows.requests, known⟩, follows.target,
    follows.position, follows.begun, follows.seeking,
    fun idle => absurd idle busy⟩

theorem Follows.of_located (follows : Follows track controller)
    (same : after.located = controller.located) : Follows track after := by
  simp only [located, Prod.mk.injEq] at same
  exact follows.congr same.2.1 same.2.2.1

theorem calls_of_located (same : after.located = controller.located) :
    after.calls = controller.calls := by
  simp only [located, Prod.mk.injEq] at same
  exact same.1

/-- A call of `play` while something plays is no start. -/
theorem Follows.play_of_busy (follows : Follows track controller)
    (busy : controller.mPlaybackState ≠ .idle) (position : Int) :
    (finalState ((play position none).run controller)).calls =
        controller.calls ++ [.play position] ∧
      Follows track (finalState ((play position none).run controller)) := by
  have recorded : Follows track (controller.record (.play position)) :=
    follows.congr rfl rfl
  have fragment : ¬¬(controller.record (.play position)).hasFragment :=
    not_not.mpr follows.fragment
  rw [play, EStateM.run_bind, EStateM.run_modify]
  dsimp only
  rw [EStateM.run_bind, EStateM.run_get]
  dsimp only
  rw [if_neg fragment]
  split
  · split
    · exact ⟨rfl, recorded⟩
    · let playing : PlaybackController :=
        { controller.record (.play position) with
          mPlaybackState := .playing }
      have resumed : Follows track playing :=
        recorded.withState (by decide) (by decide)
      have same := located_startReportLoop playing
      exact ⟨calls_of_located same, resumed.of_located same⟩
  · rename_i idle
    exact absurd idle busy
  · exact ⟨rfl, recorded⟩

/-- A call of `play` is a start if nothing plays. -/
theorem Follows.play (follows : Follows track controller) (position : Int) :
    ∃ made,
      (finalState ((play position none).run controller)).calls =
          controller.calls ++ made ∧
        Follows
          (if controller.mPlaybackState = .idle then
            made.foldl Track.hear track
          else
            track)
          (finalState ((play position none).run controller)) := by
  by_cases idle : controller.mPlaybackState = .idle
  · have rests : controller.Rests :=
      ⟨follows.toOrdinary, idle, (follows.idle idle).1,
        (follows.idle idle).2⟩
    obtain ⟨made, grown, kept, -⟩ :
        StartsAt False False position controller _ :=
      play_startsAt rests position none
    refine ⟨.play position :: made, grown, ?_⟩
    rw [if_pos idle]
    exact kept.toFollows
  · obtain ⟨grown, kept⟩ := follows.play_of_busy idle position
    refine ⟨[.play position], grown, ?_⟩
    rw [if_neg idle]
    exact kept

theorem Follows.pause (follows : Follows track controller) :
    (finalState (pause.run controller)).calls = controller.calls ∧
      Follows track (finalState (pause.run controller)) := by
  rw [Video.pause, EStateM.run_bind, EStateM.run_get]
  dsimp only
  split
  · exact ⟨rfl, follows⟩
  · let paused : PlaybackController :=
      { controller with mPlaybackState := .paused }
    have stays : Follows track paused :=
      follows.withState (by decide) (by decide)
    have same := located_startPauseReportLoop paused
    have grown : paused.startPauseReportLoop.calls = paused.calls :=
      calls_of_located same
    exact ⟨grown, stays.of_located same⟩

theorem Follows.playPause (follows : Follows track controller) :
    ∃ made,
      (finalState (playPause.run controller)).calls =
          controller.calls ++ made ∧
        Follows
          (if controller.mPlaybackState = .idle then
            made.foldl Track.hear track
          else
            track)
          (finalState (playPause.run controller)) := by
  have reset : Follows track { controller with reportLoop := none } :=
    follows.congr rfl rfl
  rw [Video.playPause, EStateM.run_bind, EStateM.run_get]
  dsimp only
  split
  · rename_i playing
    obtain ⟨grown, kept⟩ := follows.pause
    refine ⟨[], ?_, ?_⟩
    · rw [List.append_nil]
      exact grown
    · rw [playing]
      exact kept
  · exact reset.play _
  · exact reset.play _
  · refine ⟨[], (List.append_nil _).symm, ?_⟩
    rw [List.foldl_nil, ite_self]
    exact follows

/-- A seek within the video tells the player its target. -/
theorem seekWithin_run {manager : VideoManager}
    (initialized : controller.initializedManager = some manager)
    (seekable : manager.isSeekable)
    (stream : controller.mCurrentStreamInfo.isSome) (pos duration : Int) :
    (seekWithin pos duration).run controller =
      .ok ()
        ({ controller with
          mSeekPosition := min pos duration
          mPlaybackState := .playing }.record
            (.seekTo (min pos duration))).startReportLoop := by
  obtain ⟨playing, stored⟩ := Option.isSome_iff_exists.mp stream
  rw [seekWithin, EStateM.run_bind, EStateM.run_modify]
  dsimp only
  rw [EStateM.run_bind, EStateM.run_get]
  dsimp only
  have same :
      { controller with
        mSeekPosition := min pos duration }.initializedManager =
          some manager :=
    initialized
  rw [same, stored]
  dsimp only
  rw [if_neg (not_not.mpr seekable), ← stored]
  rfl

/-- A seek is cancelled by one in progress, or goes to its target. -/
theorem Attends.seek (attends : Attends False track controller) (pos : Int)
    (skipToNext : Bool)
    (inside : controller.Happens (.seek pos skipToNext))
    (stream :
      controller.wasSeeking = false →
        controller.mCurrentStreamInfo.isSome) :
    ∃ made,
      (finalState ((seek pos skipToNext).run controller)).calls =
          controller.calls ++ made ∧
        Follows (track.sought controller pos made)
          (finalState ((seek pos skipToNext).run controller)) := by
  obtain ⟨manager, present, ready, seekable⟩ := attends.toOrdinary.manager
  have initialized := initializedManager_of_ready present ready
  cases seeking : controller.wasSeeking with
  | true =>
      have refreshed :=
        (attends.refresh attends.toOrdinary.refreshes).toFollows
      simp only [Track.sought, initialized, seeking, if_true]
      rw [Video.seek, EStateM.run_bind, EStateM.run_get]
      dsimp only
      rw [if_neg (by simp [initialized]), if_pos seeking]
      split
      · rename_i paused
        have busy :
            controller.refreshCurrentPosition.mPlaybackState ≠ .idle := by
          rw [refreshCurrentPosition_mPlaybackState]
          simp only [isPaused, decide_eq_true_eq] at paused
          rw [paused]
          decide
        let position := controller.refreshCurrentPosition.mCurrentPosition
        obtain ⟨grown, kept⟩ := refreshed.play_of_busy busy position
        rw [calls_refreshCurrentPosition] at grown
        exact ⟨[.play position], grown, kept⟩
      · exact ⟨[], (List.append_nil _).symm, attends.toFollows⟩
  | false =>
      have within :
          ¬(skipToNext ∧
            max pos 0 ≥ max manager.getDuration 0 - 100) := by
        rintro ⟨next, ended⟩
        have before := inside next seeking manager initialized
        omega
      have able : manager.isSeekable := by
        simp [VideoManager.isSeekable, ready, seekable]
      let searching : PlaybackController :=
        { controller with wasSeeking := true }
      have found : searching.initializedManager = some manager :=
        initialized
      have playing : searching.mCurrentStreamInfo.isSome :=
        stream seeking
      rw [seek_run_of_still initialized seeking, if_neg within,
        seekWithin_run found able playing]
      let target := min (max pos 0) (max manager.getDuration 0)
      let told : PlaybackController :=
        { controller with
          wasSeeking := true
          mSeekPosition := target
          mPlaybackState := .playing }.record (.seekTo target)
      have known : PlaybackState.playing ≠ .undefined := by
        decide
      have busy : PlaybackState.playing ≠ .idle := by
        decide
      have goes : Follows ⟨target, true, []⟩ told := by
        refine ⟨⟨attends.fragment, attends.player, attends.recorded,
          attends.items, attends.noSkip, attends.requests, known⟩,
          fun _ => rfl, ?_, fun _ => rfl, fun _ => rfl,
          fun idle => absurd idle busy⟩
        intro unknown
        have below : target = -1 := unknown
        omega
      have same := located_startReportLoop told
      refine ⟨[.seekTo target], calls_of_located same, ?_⟩
      have heard :
          track.sought controller pos [.seekTo target] =
            ⟨target, true, []⟩ := by
        simp [Track.sought, initialized, seeking, Track.hear, target]
      rw [heard]
      exact goes.of_located same

theorem Attends.initialSeek (attends : Attends False track controller)
    (position : Int)
    (stream :
      controller.runsInitialSeek position → controller.wasSeeking = false →
        controller.mCurrentStreamInfo.isSome) :
    ∃ made,
      (step controller (.initialSeek position)).calls =
          controller.calls ++ made ∧
        Follows
          (if controller.runsInitialSeek position then
            track.sought controller position made
          else
            track)
          (step controller (.initialSeek position)) := by
  obtain ⟨manager, present, ready, seekable⟩ := attends.toOrdinary.manager
  have able : manager.isSeekable := by
    simp [VideoManager.isSeekable, ready, seekable]
  have runs :
      controller.runsInitialSeek position =
        (decide (position ∈ controller.initialSeeks) &&
          decide (0 < manager.getDuration)) := by
    simp [runsInitialSeek, present, able]
  rw [Video.step, handle, EStateM.run_bind, EStateM.run_get]
  dsimp only
  by_cases posted : position ∈ controller.initialSeeks
  · let erased : PlaybackController :=
      { controller with
        initialSeeks := controller.initialSeeks.erase position }
    have attendsErased : Attends False track erased :=
      attends.congr rfl rfl
    have found : erased.mVideoManager = some manager :=
      present
    rw [if_pos posted, runInitialSeek, EStateM.run_bind, EStateM.run_modify]
    dsimp only
    rw [EStateM.run_bind, EStateM.run_get]
    dsimp only
    rw [found]
    dsimp only
    by_cases known : manager.getDuration ≤ 0
    · have waits : ¬controller.runsInitialSeek position := by
        rw [runs]
        simp [known]
      rw [if_pos known, ← present]
      refine ⟨[], (List.append_nil _).symm, ?_⟩
      rw [if_neg waits]
      exact attends.toFollows.congr rfl rfl
    · have fires : controller.runsInitialSeek position := by
        rw [runs]
        simp [posted, Int.not_le.mp known]
      rw [if_neg known, if_pos able, ← present]
      obtain ⟨made, grown, kept⟩ :=
        attendsErased.seek position false
          (fun impossible => absurd impossible Bool.false_ne_true)
          (stream fires)
      refine ⟨made, grown, ?_⟩
      rw [if_pos fires]
      exact kept
  · have absent : ¬controller.runsInitialSeek position := by
      rw [runs]
      simp [posted]
    rw [if_neg posted]
    refine ⟨[], (List.append_nil _).symm, ?_⟩
    rw [if_neg absent]
    exact attends.toFollows

/-! ## Callbacks -/

theorem Refreshes.spinner (refreshes : Refreshes controller after) :
    after.spinnerOff = controller.spinnerOff ∧
      after.mStartPosition = controller.mStartPosition := by
  cases refreshes with
  | still quiet known =>
      exact ⟨rfl, rfl⟩
  | kept unknown =>
      exact ⟨rfl, rfl⟩
  | read manager present ready begun =>
      exact ⟨rfl, rfl⟩
  | noticed unnoticed =>
      exact ⟨rfl, rfl⟩
  | waiting waits free known =>
      exact ⟨rfl, rfl⟩

/-- The initial seek is over only if the player was told. -/
theorem Attends.onProgress (attends : Attends False track controller)
    (told :
      controller.isPlaying → controller.spinnerOff = false →
        controller.mStartPosition ≤ 0 → track.told) :
    (step controller .onProgress).calls = controller.calls ∧
      Follows track (step controller .onProgress) := by
  have refreshes := attends.toOrdinary.refreshes
  have follows := (attends.refresh refreshes).toFollows
  have calls := calls_refreshCurrentPosition controller
  obtain ⟨spinner, start⟩ := refreshes.spinner
  have playing := isPlaying_congr refreshes.surroundings
  rw [Video.step, handle, Video.onProgress, EStateM.run_bind,
    EStateM.run_modify]
  dsimp only
  rw [EStateM.run_bind, EStateM.run_get]
  dsimp only
  split
  · rename_i waiting
    split
    · exact ⟨calls, follows.congr rfl rfl⟩
    · rename_i begun
      rw [playing, spinner, Bool.not_eq_true] at waiting
      rw [start] at begun
      have reached : track.told :=
        told waiting.1 waiting.2 (Int.not_lt.mp begun)
      rw [EStateM.run_modify, finalState_ok]
      refine ⟨calls, follows.toOrdinary.congr rfl, follows.target,
        follows.position, fun _ => reached, follows.seeking, ?_⟩
      intro idle
      have state : controller.mPlaybackState = .idle :=
        (refreshCurrentPosition_mPlaybackState controller).symm.trans idle
      have moves := waiting.1
      simp [isPlaying, state] at moves
  · exact ⟨calls, follows⟩

/-- The subtitles are selected without a restart. -/
theorem stays_selectSubtitleTrack
    {related : PlaybackController → PlaybackController → Prop}
    [Neutral related] (stored : controller.mCurrentStreamInfo.isSome)
    (stays : controller.restartsWhenPrepared = false) :
    related controller
      (finalState (selectSubtitleTrack.run controller)) := by
  rw [selectSubtitleTrack, EStateM.run_bind, EStateM.run_get]
  dsimp only
  split
  · exact neutral_disableDefaultSubtitles controller
  · rename_i unburned
    cases chosen : controller.videoOptions with
    | none =>
        rw [EStateM.run_bind, currentOptions_run_of_none chosen]
        exact Std.Refl.refl controller
    | some options =>
        rw [EStateM.run_bind, currentOptions_run chosen]
        apply stays_setSubtitleIndex
        simpa [restartsWhenPrepared, stored, unburned, chosen] using stays

theorem tells_prepared_selectSubtitleTrack {settled strict : Prop}
    (present : controller.HasOptions)
    (stored : controller.mCurrentStreamInfo.isSome)
    (known : controller.restartsWhenPrepared → strict → settled) :
    Tells settled strict controller
      (finalState (selectSubtitleTrack.run controller)) := by
  cases restarts : controller.restartsWhenPrepared with
  | true =>
      exact (tells_selectSubtitleTrack (known restarts) controller present).2
  | false =>
      exact stays_selectSubtitleTrack stored restarts

/-- What `onPrepared` does when the buffering has ended. -/
def selectPreparedTracks : ControllerM Unit := do
  let controller ← get
  let _ ← requireNotNull controller.mCurrentStreamInfo
  if controller.mPlaybackState = .paused then
    modify fun controller => { controller with mPlaybackState := .playing }
  else
    selectSubtitleTrack
    selectAudioTrack

/-- The tracks of a prepared stream are selected, unless it was paused. -/
theorem Attends.selectTracks {settled strict : Prop}
    (attends : Attends settled track controller)
    (configured :
      controller.mCurrentStreamInfo.isSome → controller.HasOptions)
    (known : controller.restartsWhenPrepared → strict → settled) :
    ∃ made,
      (finalState (selectPreparedTracks.run controller)).calls =
          controller.calls ++ made ∧
        Follows (made.foldl Track.hear track)
          (finalState (selectPreparedTracks.run controller)) ∧
        Accepted Track.hear (fun track call => strict → track.Accepts call)
          track made := by
  unfold selectPreparedTracks
  rw [EStateM.run_bind, EStateM.run_get]
  dsimp only
  cases stored : controller.mCurrentStreamInfo with
  | none =>
      exact ⟨[], (List.append_nil _).symm, attends.toFollows, trivial⟩
  | some stream =>
      have streams : controller.mCurrentStreamInfo.isSome :=
        Option.isSome_of_mem stored
      rw [EStateM.run_bind, requireNotNull_run rfl]
      dsimp only
      split
      · refine ⟨[], (List.append_nil _).symm, ?_, trivial⟩
        exact attends.toFollows.withState (by decide) (by decide)
      · have told :
            Tells settled strict controller
              (finalState
                ((do
                  selectSubtitleTrack
                  selectAudioTrack : ControllerM Unit).run controller)) := by
          refine Respects.bind_at ?_ fun _ => tells_selectAudioTrack
          exact
            tells_prepared_selectSubtitleTrack (configured streams) streams
              known
        obtain ⟨made, grown, kept, accepted⟩ := told track attends
        exact ⟨made, grown, kept.toFollows, accepted⟩

theorem startReportLoop_final {First Second : Type} (first : Option First)
    (second : Option Second) (controller : PlaybackController) :
    ∃ loop,
      finalState
        ((do
          let _ ← requireNotNull first
          let _ ← requireNotNull second
          modify startReportLoop : ControllerM Unit).run controller) =
        { controller with reportLoop := loop } := by
  cases first with
  | none =>
      exact ⟨controller.reportLoop, rfl⟩
  | some _ =>
      cases second with
      | none =>
          exact ⟨controller.reportLoop, rfl⟩
      | some _ =>
          by_cases unset : controller.mCurrentStreamInfo = none
          · have same : controller.startReportLoop = controller := by
              rw [startReportLoop, if_pos unset]
            exact ⟨controller.reportLoop, same⟩
          · have same :
                controller.startReportLoop =
                  { controller with reportLoop := some .playing } := by
              rw [startReportLoop, if_neg unset]
            exact ⟨some .playing, same⟩

/-- A stream that was buffering plays, whether its report loop starts or
not. -/
theorem endBuffering_final (controller : PlaybackController) :
    ∃ loop,
      finalState (endBuffering.run controller) =
        { controller.unbuffered with reportLoop := loop } := by
  rw [endBuffering, EStateM.run_bind, EStateM.run_get]
  dsimp only
  by_cases buffering : controller.mPlaybackState = .buffering
  · rw [if_pos buffering, unbuffered, if_pos buffering]
    exact startReportLoop_final _ _
      { controller with mPlaybackState := .playing }
  · rw [if_neg buffering, unbuffered, if_neg buffering]
    exact ⟨controller.reportLoop, rfl⟩

/-- A stream that was buffering plays once it is prepared. -/
theorem Attends.onPrepared {settled strict : Prop}
    (attends : Attends settled track controller.unbuffered)
    (attached : controller.Attached)
    (known : controller.restartsWhenPrepared → strict → settled) :
    ∃ made,
      (step controller .onPrepared).calls = controller.calls ++ made ∧
        Follows (made.foldl Track.hear track)
          (step controller .onPrepared) ∧
        Accepted Track.hear (fun track call => strict → track.Accepts call)
          track made := by
  obtain ⟨loop, same⟩ := endBuffering_final controller
  let prepared : PlaybackController :=
    { controller.unbuffered with reportLoop := loop }
  have kept : Attends settled track prepared := attends.congr rfl rfl
  have calls : prepared.calls = controller.calls := by
    simp only [prepared, unbuffered]
    split
    · rfl
    · rfl
  have stream :
      prepared.mCurrentStreamInfo = controller.mCurrentStreamInfo := by
    simp only [prepared, unbuffered]
    split
    · rfl
    · rfl
  have options : prepared.HasOptions = controller.HasOptions := by
    simp only [prepared, unbuffered]
    split
    · rfl
    · rfl
  have restarts :
      prepared.restartsWhenPrepared = controller.restartsWhenPrepared := by
    simp only [prepared, unbuffered]
    split
    · rfl
    · rfl
  rw [Video.step, handle, Video.onPrepared, EStateM.run_bind, ← calls]
  cases ended : endBuffering.run controller with
  | error exception middle =>
      rw [ended, finalState_error] at same
      subst same
      exact ⟨[], (List.append_nil _).symm, kept.toFollows, trivial⟩
  | ok value middle =>
      rw [ended, finalState_ok] at same
      subst same
      refine kept.selectTracks ?_ ?_
      · rw [stream, options]
        exact attached.stream
      · rw [restarts]
        exact known

theorem tells_step_setSubtitleIndex {settled strict : Prop}
    {controller : PlaybackController} {index : Int}
    (known :
      controller.restartsWithSubtitles index false → strict → settled) :
    Tells settled strict controller
      (step controller (.setSubtitleIndex index)) := by
  cases restarts : controller.restartsWithSubtitles index false with
  | false =>
      exact stays_setSubtitleIndex restarts
  | true =>
      have present : controller.HasOptions := by
        cases unset : controller.mCurrentOptions with
        | some reference =>
            exact Option.isSome_of_mem unset
        | none =>
            rw [restartsWithSubtitles, videoOptions, unset] at restarts
            cases restarts
      exact
        (tells_setSubtitleIndex (known restarts) index false controller
          present).2

/-- Beyond the limit of retries playback is given up. -/
theorem tells_step_onError {settled strict : Prop}
    {controller : PlaybackController} {stabilized : Bool}
    (known :
      controller.retriesAfterError stabilized → strict → settled) :
    Tells settled strict controller
      (step controller (.onError stabilized)) := by
  cases retries : controller.retriesAfterError stabilized with
  | true =>
      exact tells_onError (known retries) stabilized controller
  | false =>
      simp only [retriesAfterError, decide_eq_false_iff_not] at retries
      rw [Video.step, handle, Video.onError, EStateM.run_bind,
        EStateM.run_modify]
      dsimp only
      rw [playerErrorEncountered, EStateM.run_bind, EStateM.run_modify]
      dsimp only
      rw [EStateM.run_bind, EStateM.run_get]
      dsimp only
      rw [if_neg retries]
      let counted : PlaybackController :=
        { controller with
          directStreamLiveTv :=
            controller.directStreamLiveTv &&
              !(controller.hasFragment && controller.isLiveTv)
          playbackRetries :=
            (if controller.playbackRetries > 0 ∧ stabilized then 0
              else controller.playbackRetries) + 1 }
      exact IsTrans.trans _ counted _ (Neutral.silent rfl)
        (tells_withState counted .error (by decide) (by decide) (by decide))

theorem tells_step_segmentsLoaded {settled strict : Prop}
    (controller : PlaybackController) (index : Nat) :
    Tells settled strict controller
      (step controller (.segmentsLoaded index)) := by
  rw [Video.step, handle, EStateM.run_bind, EStateM.run_get]
  dsimp only
  split
  · exact Std.Refl.refl controller
  · refine Respects.bind_at ?_ fun _ => tells_segmentsLoaded _
    exact Neutral.silent rfl

theorem tells_step_delayedStart {settled strict : Prop}
    (controller : PlaybackController) :
    Tells settled strict controller (step controller .delayedStart) := by
  rw [Video.step, handle, EStateM.run_bind, EStateM.run_get]
  dsimp only
  split
  · refine Respects.bind_at (Neutral.silent rfl) fun _ => ?_
    exact Respects.ite (Respects.pure _) (neutral_record fun _ => rfl)
  · exact Std.Refl.refl controller

theorem Follows.playerChanges (follows : Follows track controller)
    {readings : PlayerReadings} (seekable : readings.isSeekable) :
    Follows track (step controller (.playerChanges readings)) := by
  obtain ⟨manager, present, ready, -⟩ := follows.toOrdinary.manager
  have player :
      (step controller (.playerChanges readings)).playerReadings =
        some readings := by
    let changed : VideoManager := { manager with readings := readings }
    have now :
        (step controller (.playerChanges readings)).mVideoManager =
          some changed := by
      rw [Video.step, handle, EStateM.run_modify, finalState_ok, present]
      rfl
    exact playerReadings_of_manager now ready
  exact
    ⟨⟨follows.fragment, ⟨readings, player, seekable⟩, follows.recorded,
      follows.items, follows.noSkip, follows.requests, follows.known⟩,
      follows.target, follows.position, follows.begun, follows.seeking,
      follows.idle⟩

theorem Follows.attends_unbuffered {settled : Prop}
    (follows : Follows track controller)
    (noticed :
      settled → controller.unbuffered.SeeksUnnoticed →
        (track.observe controller).Allows controller.mCurrentPosition) :
    Attends settled (track.observe controller) controller.unbuffered := by
  have attends := follows.attends_unsettled
  unfold unbuffered at noticed ⊢
  split
  · rename_i buffering
    rw [if_pos buffering] at noticed
    have playing :
        Follows (track.observe controller)
          { controller with mPlaybackState := .playing } :=
      attends.toFollows.withState (by decide) (by decide)
    exact ⟨playing, attends.heard, noticed⟩
  · rename_i busy
    rw [if_neg busy] at noticed
    exact ⟨attends.toFollows, attends.heard, noticed⟩

end PlaybackController

theorem Watched.Sound.step {watched : Watched} {event : Event}
    (sound : watched.Sound) (happens : watched.controller.Happens event)
    (proceeds : watched.Proceeds event) : (watched.step event).Sound := by
  have follows := sound.follows
  have attends := follows.attends_unsettled
  refine ⟨?_, attached_step sound.attached event⟩
  cases event with
  | init readings directStreamLiveTv =>
      cases happens
  | play position =>
      obtain ⟨made, grown, kept⟩ := follows.observe.play position
      rw [← callsMade_of_append (.play position) grown] at kept
      exact kept
  | playPause =>
      obtain ⟨made, grown, kept⟩ := follows.observe.playPause
      rw [← callsMade_of_append .playPause grown] at kept
      exact kept
  | pause =>
      exact follows.of_tells (tells_pause watched.controller)
  | stop =>
      cases happens
  | next =>
      cases happens
  | prev =>
      cases happens
  | skip msec =>
      cases happens
  | skipRunnable =>
      cases happens
  | seek pos skipToNext =>
      obtain ⟨made, grown, kept⟩ :=
        attends.seek pos skipToNext happens proceeds
      rw [← callsMade_of_append (.seek pos skipToNext) grown] at kept
      exact kept
  | initialSeek position =>
      obtain ⟨made, grown, kept⟩ := attends.initialSeek position proceeds
      rw [← callsMade_of_append (.initialSeek position) grown] at kept
      exact kept
  | switchAudioStream index =>
      exact follows.of_tells (tells_switchAudioStream index _)
  | setSubtitleIndex index =>
      exact follows.of_tells (tells_step_setSubtitleIndex fun _ => id)
  | refreshStream =>
      exact follows.of_tells (tells_refreshStream _)
  | endPlayback =>
      cases happens
  | onPrepared =>
      have prepared :
          Attends False (watched.track.observe watched.controller)
            watched.controller.unbuffered :=
        follows.attends_unbuffered fun impossible =>
          absurd impossible not_false
      obtain ⟨made, grown, kept, -⟩ :=
        prepared.onPrepared sound.attached fun _ => id
      rw [← callsMade_of_append .onPrepared grown] at kept
      exact kept
  | onProgress =>
      have told := proceeds
      simp only [Watched.Proceeds] at told
      rw [← watched.track.observe_told watched.controller] at told
      obtain ⟨same, kept⟩ := attends.onProgress told
      rw [← List.append_nil watched.controller.calls] at same
      have heard :
          Follows
            (([] : List Call).foldl Track.hear
              (watched.track.observe watched.controller))
            (Video.step watched.controller .onProgress) :=
        kept
      rw [← callsMade_of_append .onProgress same] at heard
      exact heard
  | onCompletion =>
      cases happens
  | onError stabilized =>
      exact follows.of_tells (tells_step_onError fun _ => id)
  | reportTick =>
      exact follows.of_tells (tells_reportTick _)
  | response index isActive answer =>
      exact follows.of_tells (tells_respond index isActive answer _)
  | segmentsLoaded index =>
      exact follows.of_tells (tells_step_segmentsLoaded _ index)
  | delayedStart =>
      exact follows.of_tells (tells_step_delayedStart _)
  | programStarted start =>
      exact follows.of_tells (Neutral.silent rfl)
  | timePasses now =>
      exact follows.of_tells (Neutral.silent rfl)
  | playerChanges readings =>
      have heard :
          Follows
            (([] : List Call).foldl Track.hear
              (watched.track.observe watched.controller))
            (Video.step watched.controller (.playerChanges readings)) :=
        follows.observe.playerChanges happens
      rw [← callsMade_of_append (.playerChanges readings)
        (List.append_nil _).symm] at heard
      exact heard

/-- A seek that a restart notices leaves an allowed position behind. -/
theorem Watched.Sound.allows {watched : Watched} (sound : watched.Sound)
    {state : PlaybackController} (notices : watched.Notices state)
    (unnoticed : state.SeeksUnnoticed) :
    (watched.track.observe watched.controller).Allows
      watched.controller.mCurrentPosition := by
  have follows := sound.follows.observe
  rcases notices unnoticed with same | reported
  · by_cases unknown : watched.controller.mSeekPosition = -1
    · exact follows.position unknown
    · exact Or.inl (same.trans (follows.target unknown))
  · exact Or.inr reported

theorem accepted_of_tells {settled : Prop} {controller : PlaybackController}
    {track : Track} {event : Event}
    (attends : Attends settled track controller)
    (told : Tells settled True controller (step controller event)) :
    Accepted Track.hear Track.Accepts track (controller.callsMade event) := by
  obtain ⟨made, grown, -, accepted⟩ := told track attends
  rw [callsMade_of_append event grown]
  exact accepted.mono fun _ _ accepts => accepts trivial

theorem Watched.Sound.restartsInPlace {watched : Watched} {event : Event}
    (sound : watched.Sound) (proceeds : watched.Proceeds event) :
    watched.RestartsInPlace event := by
  have follows := sound.follows
  intro restarts
  cases event with
  | setSubtitleIndex index =>
      have attends :=
        follows.attends fun restarting => sound.allows (proceeds restarting)
      exact accepted_of_tells attends
        (tells_step_setSubtitleIndex fun restarting _ => restarting)
  | refreshStream =>
      exact accepted_of_tells follows.attends_unsettled
        (tells_refreshStream watched.controller)
  | onPrepared =>
      have attends :=
        follows.attends_unbuffered
          fun restarting => sound.allows (proceeds restarting)
      obtain ⟨made, grown, -, accepted⟩ :=
        attends.onPrepared sound.attached fun restarting _ => restarting
      rw [callsMade_of_append .onPrepared grown]
      exact accepted.mono fun _ _ accepts => accepts trivial
  | onError stabilized =>
      have attends :=
        follows.attends fun restarting => sound.allows (proceeds restarting)
      exact accepted_of_tells attends
        (tells_step_onError fun restarting _ => restarting)
  | init | play | playPause | pause | stop | next | prev | skip
  | skipRunnable | seek | initialSeek | switchAudioStream | endPlayback
  | onProgress | onCompletion | reportTick | response | segmentsLoaded
  | delayedStart | programStarted | timePasses | playerChanges =>
      cases restarts

section Runs

variable {settings : Settings} {items : List BaseItemDto}
variable {startIndex : Nat}
variable {audioLanguage subtitleLanguage : Option String}
variable {readings : PlayerReadings} {directStreamLiveTv : Bool}

theorem start_sound (seekable : readings.isSeekable)
    (recorded : ∀ item ∈ items, item.type ≠ .tvChannel) :
    (Watched.start
      ((create settings items startIndex audioLanguage
        subtitleLanguage).init readings directStreamLiveTv)).Sound := by
  have known : PlaybackState.idle ≠ .undefined := by
    decide
  refine ⟨⟨⟨rfl, ⟨readings, rfl, seekable⟩, rfl, recorded, rfl, ?_,
    known⟩, ?_, ?_, ?_, ?_, ?_⟩, ?_⟩
  · exact fun _ member => absurd member List.not_mem_nil
  · exact fun known => absurd rfl known
  · exact fun _ => Or.inl rfl
  · exact fun begun => absurd begun Bool.false_ne_true
  · exact fun seeking => absurd seeking Bool.false_ne_true
  · exact fun _ => ⟨rfl, rfl⟩
  · exact attached_step
      (attached_create settings items startIndex audioLanguage
        subtitleLanguage) (.init readings directStreamLiveTv)

/-- In every run of a recorded video that can be sought, each of whose events
proceeds, every restart is in place. -/
theorem restarts_keep_position (seekable : readings.isSeekable)
    (recorded : ∀ item ∈ items, item.type ≠ .tvChannel)
    {events : List Event}
    (proceeds :
      Admitted Watched.step
        (fun watched event =>
          watched.controller.Happens event ∧ watched.Proceeds event)
        (Watched.start
          ((create settings items startIndex audioLanguage
            subtitleLanguage).init readings directStreamLiveTv))
        events) :
    Admitted Watched.step Watched.RestartsInPlace
      (Watched.start
        ((create settings items startIndex audioLanguage
          subtitleLanguage).init readings directStreamLiveTv))
      events := by
  refine Admitted.of_invariant ?_ ?_ (start_sound seekable recorded)
    proceeds
  · exact fun _ _ sound met => sound.restartsInPlace met.2
  · exact fun _ _ sound met => sound.step met.1 met.2

end Runs

/-- An episode in the player, before anything plays. -/
def resumable (source : MediaSourceInfo) (readings : PlayerReadings) :
    Watched :=
  Watched.start
    ((create ⟨false, false, false, false⟩ [shortEpisode source] 0 none
      none).init readings false)

/-- The episode is resumed at half a minute; an error comes when the player is
behind that position, and another one before the stream is answered. -/
def resumedTwice : List Event :=
  [.play 30000, .response 0 true (some [shortSource 1 [] none]),
    .segmentsLoaded 0, .onPrepared, .onProgress, .initialSeek 30000,
    .onProgress, .playerChanges (playingAt 31000 []), .onProgress,
    .onError false, .onError false]

/-- The player while the duration of the stream is not known. -/
def loadingAt (position : Nat) : PlayerReadings :=
  { playingAt position [] with duration := 0 }

/-- A source whose duration is not known either. -/
def endlessSource : MediaSourceInfo :=
  { shortSource 1 [] none with runTimeTicks := none }

/-- The posted seek waits for the duration while progress goes on. -/
def delayedSeek : List Event :=
  [.play 30000, .response 0 true (some [endlessSource]), .segmentsLoaded 0,
    .onPrepared, .onProgress, .initialSeek 30000, .onProgress,
    .playerChanges (loadingAt 1000)]

/-- Both errors restart where the player was. -/
theorem errors_resume_in_place :
    Admitted Watched.step Watched.RestartsInPlace
      (resumable (shortSource 1 [] none) (playingAt 0 [])) resumedTwice := by
  apply restarts_keep_position rfl (by decide)
  refine ⟨⟨trivial, trivial⟩, ⟨trivial, trivial⟩, ⟨trivial, trivial⟩,
    ⟨trivial, ?_⟩, ⟨trivial, ?_⟩, ⟨trivial, ?_⟩, ⟨trivial, ?_⟩,
    ⟨rfl, trivial⟩, ⟨trivial, ?_⟩, ⟨trivial, ?_⟩, ⟨trivial, ?_⟩, trivial⟩
  · exact fun _ unnoticed => absurd unnoticed (by decide)
  · exact fun _ _ => by decide
  · exact fun _ _ => by decide
  · exact fun _ _ => by decide
  · exact fun _ => by decide
  · exact fun _ unnoticed => absurd unnoticed (by decide)
  · exact fun _ unnoticed => absurd unnoticed (by decide)

/-- While the posted seek waits for the duration, the second progress takes it
for finished, and an error restarts near the beginning. -/
theorem delayed_seek_loses_position :
    (∀ event ∈ delayedSeek,
      ∀ controller : PlaybackController, controller.Happens event) ∧
    (run Watched.step (resumable endlessSource (loadingAt 0))
        delayedSeek).track = ⟨30000, false, []⟩ ∧
      .play 1000 ∈
        (run Watched.step (resumable endlessSource (loadingAt 0))
          delayedSeek).controller.callsMade (.onError false) ∧
      ¬(run Watched.step (resumable endlessSource (loadingAt 0))
        delayedSeek).RestartsInPlace (.onError false) := by
  refine ⟨?_, ?_⟩
  · intro event member controller
    simp only [delayedSeek, List.mem_cons, List.not_mem_nil, or_false]
      at member
    rcases member with rfl | rfl | rfl | rfl | rfl | rfl | rfl | rfl
    all_goals trivial
  · decide

end JellyfinTv.Video
