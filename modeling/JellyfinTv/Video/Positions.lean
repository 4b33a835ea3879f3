import JellyfinTv.Library.Ghosts
import JellyfinTv.Video.Answers
import JellyfinTv.Video.Stops

/-!
# The position that playback is at

Four fields of the controller hold the position of a playback in turn: the
position to seek to, the current one, and the two marks of a seek in progress
and of a finished initial seek.  A `Track` beside the controller says where
playback was told to go and what the player has reported since.  `Attends`
relates the fields to the track, and the operations of the controller keep it.
-/

namespace JellyfinTv.Video

open JellyfinTv.Library PlaybackController

/-- Where playback goes to, whether the player was told to go there, and the
positions that it has reported since. -/
structure Track where
  target : Int
  told : Bool
  reported : List Int
  deriving DecidableEq, Repr

namespace Track

/-- The target, or a position that was reported behind it. -/
def Allows (track : Track) (position : Int) : Prop :=
  position = track.target ∨ position ∈ track.reported

def startingAt (position : Int) : Track where
  target := max position 0
  told := false
  reported := []

/-- A start has a new target.  The player is told by a seek to the target, and
a stream that it is handed begins at the start. -/
def hear (track : Track) : Call → Track
  | .play position => startingAt position
  | .seekTo position =>
      { track with told := track.told || position = track.target }
  | .setMediaStreamInfo _ _ =>
      { track with told := track.told || track.target = 0 }
  | _ => track

/-- Playback starts at an allowed position. -/
def Accepts (track : Track) (call : Call) : Prop :=
  ∀ position, call = .play position → track.Allows position

instance (track : Track) (position : Int) :
    Decidable (track.Allows position) :=
  inferInstanceAs (Decidable (_ ∨ _))

instance (track : Track) : ∀ call : Call, Decidable (track.Accepts call)
  | .play position =>
      decidable_of_iff (track.Allows position)
        ⟨fun allowed _ same => Call.play.inj same ▸ allowed,
          fun accepts => accepts position rfl⟩
  | .stop | .restart | .stored _ _ | .setMediaStreamInfo _ _
  | .subtitleSelected _ _ | .textEnabled _ | .textDisabled | .start
  | .seekTo _ | .reportStart _ _ _ | .reportStopped _ _ _ =>
      isTrue fun position same => by cases same

end Track

/-- The calls that a track does not hear. -/
def Call.isAside : Call → Bool
  | .play _ | .seekTo _ | .setMediaStreamInfo _ _ => false
  | _ => true

theorem Track.hear_of_isAside (track : Track) {call : Call}
    (aside : call.isAside) : track.hear call = track := by
  cases call <;> first | rfl | cases aside

theorem Track.accepts_of_isAside (track : Track) {call : Call}
    (aside : call.isAside) : track.Accepts call := by
  rintro position rfl
  cases aside

namespace PlaybackController

/-- What the player answers if it is initialized. -/
def playerReadings (controller : PlaybackController) :
    Option PlayerReadings :=
  controller.initializedManager.map VideoManager.readings

theorem isPlaying_eq (controller : PlaybackController) :
    controller.isPlaying =
      (decide (controller.mPlaybackState = .playing) &&
        controller.playerReadings.any PlayerReadings.isPlaying) := by
  simp only [isPlaying, playerReadings, Option.any_map]

/-- The part of the state that does not tell a position. -/
def surroundings (controller : PlaybackController) :=
  (controller.hasFragment, controller.playerReadings, controller.isLiveTv,
    controller.mItems, controller.currentSkipPos, controller.requests,
    controller.mPlaybackState)

/-- The fields that hold the position. -/
def positions (controller : PlaybackController) :=
  (controller.mSeekPosition, controller.mCurrentPosition,
    controller.finishedInitialSeek, controller.wasSeeking)

/-- A recorded video that can be sought, in an initialized player, without
skips. -/
structure Ordinary (controller : PlaybackController) : Prop where
  fragment : controller.hasFragment
  player :
    ∃ readings,
      controller.playerReadings = some readings ∧ readings.isSeekable
  recorded : controller.isLiveTv = false
  items : ∀ item ∈ controller.mItems, item.type ≠ .tvChannel
  noSkip : controller.currentSkipPos = 0
  requests :
    ∀ request ∈ controller.requests, request.kind = .videoStreamInfo
  known : controller.mPlaybackState ≠ .undefined

/-- A position to seek to is the target.  Without one the current position is
allowed.  A seek in progress, or one that is finished, has told the player. -/
structure Follows (track : Track) (controller : PlaybackController) :
    Prop extends controller.Ordinary where
  target :
    controller.mSeekPosition ≠ -1 → controller.mSeekPosition = track.target
  position :
    controller.mSeekPosition = -1 → track.Allows controller.mCurrentPosition
  begun : controller.finishedInitialSeek → track.told
  seeking : controller.wasSeeking → track.told
  idle :
    controller.mPlaybackState = .idle →
      controller.finishedInitialSeek = false ∧ controller.wasSeeking = false

/-- A seek that no refresh has noticed yet, while the player plays. -/
def SeeksUnnoticed (controller : PlaybackController) : Prop :=
  controller.isPlaying ∧ controller.finishedInitialSeek = false ∧
    controller.wasSeeking

instance (controller : PlaybackController) :
    Decidable controller.SeeksUnnoticed :=
  inferInstanceAs (Decidable (_ ∧ _ ∧ _))

/-- Inside an event the reading of the player was heard if it may be taken.
If it is settled, an unnoticed seek leaves an allowed position behind. -/
structure Attends (settled : Prop) (track : Track)
    (controller : PlaybackController) : Prop extends
    Follows track controller where
  heard :
    controller.finishedInitialSeek ∨ controller.wasSeeking →
      ∃ readings,
        controller.playerReadings = some readings ∧
          (readings.currentPosition : Int) ∈ track.reported
  noticed :
    settled → controller.SeeksUnnoticed →
      track.Allows controller.mCurrentPosition

variable {controller before after : PlaybackController}
variable {track : Track} {settled : Prop}

theorem Ordinary.congr (ordinary : before.Ordinary)
    (same : after.surroundings = before.surroundings) : after.Ordinary := by
  simp only [surroundings, Prod.mk.injEq] at same
  obtain ⟨fragment, player, recorded, items, noSkip, requests, state⟩ := same
  refine ⟨?_, ?_, ?_, ?_, ?_, ?_, ?_⟩
  · exact fragment.trans ordinary.fragment
  · rw [player]
    exact ordinary.player
  · exact recorded.trans ordinary.recorded
  · rw [items]
    exact ordinary.items
  · exact noSkip.trans ordinary.noSkip
  · rw [requests]
    exact ordinary.requests
  · rw [state]
    exact ordinary.known

theorem isPlaying_congr (same : after.surroundings = before.surroundings) :
    after.isPlaying = before.isPlaying := by
  simp only [surroundings, Prod.mk.injEq] at same
  obtain ⟨-, player, -, -, -, -, state⟩ := same
  rw [isPlaying_eq, isPlaying_eq, player, state]

theorem Follows.congr (follows : Follows track before)
    (around : after.surroundings = before.surroundings)
    (same : after.positions = before.positions) : Follows track after := by
  have ordinary := follows.toOrdinary.congr around
  simp only [surroundings, Prod.mk.injEq] at around
  simp only [positions, Prod.mk.injEq] at same
  obtain ⟨-, -, -, -, -, -, state⟩ := around
  obtain ⟨target, position, begun, seeking⟩ := same
  refine ⟨ordinary, ?_, ?_, ?_, ?_, ?_⟩
  · rw [target]
    exact follows.target
  · rw [target, position]
    exact follows.position
  · rw [begun]
    exact follows.begun
  · rw [seeking]
    exact follows.seeking
  · rw [state, begun, seeking]
    exact follows.idle

theorem Attends.congr (attends : Attends settled track before)
    (around : after.surroundings = before.surroundings)
    (same : after.positions = before.positions) :
    Attends settled track after := by
  have follows := attends.toFollows.congr around same
  have playing := isPlaying_congr around
  simp only [surroundings, Prod.mk.injEq] at around
  simp only [positions, Prod.mk.injEq] at same
  obtain ⟨-, player, -, -, -, -, -⟩ := around
  obtain ⟨-, position, begun, seeking⟩ := same
  refine ⟨follows, ?_, ?_⟩
  · rw [begun, seeking, player]
    exact attends.heard
  · rw [SeeksUnnoticed, playing, begun, seeking, position]
    exact attends.noticed

theorem Ordinary.manager (ordinary : controller.Ordinary) :
    ∃ manager,
      controller.mVideoManager = some manager ∧ manager.isInitialized ∧
        manager.readings.isSeekable := by
  obtain ⟨readings, player, seekable⟩ := ordinary.player
  obtain ⟨manager, initialized, rfl⟩ := Option.map_eq_some_iff.mp player
  obtain ⟨present, ready⟩ := Option.filter_eq_some_iff.mp initialized
  exact ⟨manager, present, ready, seekable⟩

theorem initializedManager_of_ready {manager : VideoManager}
    (present : controller.mVideoManager = some manager)
    (ready : manager.isInitialized) :
    controller.initializedManager = some manager := by
  rw [initializedManager, present, Option.filter_some]
  simp [ready]

theorem playerReadings_of_manager {manager : VideoManager}
    (present : controller.mVideoManager = some manager)
    (ready : manager.isInitialized) :
    controller.playerReadings = some manager.readings := by
  rw [playerReadings, initializedManager_of_ready present ready]
  rfl

/-- What a refresh does to an ordinary video. -/
inductive Refreshes (controller : PlaybackController) :
    PlaybackController → Prop where
  | still
      (quiet : controller.isPlaying = false)
      (known : controller.mSeekPosition ≠ -1) :
      Refreshes controller
        { controller with mCurrentPosition := controller.mSeekPosition }
  | kept (unknown : controller.mSeekPosition = -1) :
      Refreshes controller controller
  | read (manager : VideoManager)
      (present : controller.mVideoManager = some manager)
      (ready : manager.isInitialized)
      (begun : controller.finishedInitialSeek) :
      Refreshes controller
        { controller with
          mCurrentPosition := manager.readings.currentPosition
          mVideoManager := some manager.polled
          mSeekPosition := -1
          wasSeeking := false }
  | noticed
      (unnoticed : controller.SeeksUnnoticed) :
      Refreshes controller
        { controller with
          finishedInitialSeek := true
          wasSeeking := false }
  | waiting
      (waits : controller.finishedInitialSeek = false)
      (free : controller.wasSeeking = false)
      (known : controller.mSeekPosition ≠ -1) :
      Refreshes controller
        { controller with mCurrentPosition := controller.mSeekPosition }

theorem withPosition_of_known {position : Int} (known : position ≠ -1) :
    controller.withPosition position =
      { controller with mCurrentPosition := position } := by
  rw [withPosition, if_pos known]

theorem withPosition_of_unknown :
    controller.withPosition (-1) = controller :=
  rfl

theorem Ordinary.refreshes (ordinary : controller.Ordinary) :
    Refreshes controller controller.refreshCurrentPosition := by
  obtain ⟨manager, present, ready, -⟩ := ordinary.manager
  have initialized := initializedManager_of_ready present ready
  have recorded :
      ¬(controller.isLiveTv ∧ controller.mCurrentProgramStart.isSome) := by
    simp [ordinary.recorded]
  cases playing : controller.isPlaying with
  | false =>
      by_cases unknown : controller.mSeekPosition = -1
      · have same : controller.refreshCurrentPosition = controller := by
          rw [refreshCurrentPosition, if_neg recorded]
          simp [initialized, ordinary.noSkip, playing, unknown]
        rw [same]
        exact .kept unknown
      · have same :
            controller.refreshCurrentPosition =
              { controller with
                mCurrentPosition := controller.mSeekPosition } := by
          rw [← withPosition_of_known unknown, refreshCurrentPosition,
            if_neg recorded]
          simp [initialized, playing, unknown]
        rw [same]
        exact .still playing unknown
  | true =>
      cases begun : controller.finishedInitialSeek with
      | true =>
          have position := getCurrentPosition_of_playing initialized playing
          have known : manager.getCurrentPosition ≠ -1 := by
            omega
          rw [refresh_of_begun recorded initialized playing begun
            ordinary.noSkip, withPosition_of_known known, position]
          exact .read manager present ready begun
      | false =>
          cases seeking : controller.wasSeeking with
          | true =>
              have same :
                  controller.refreshCurrentPosition =
                    { controller with
                      finishedInitialSeek := true
                      wasSeeking := false } := by
                rw [refreshCurrentPosition, if_neg recorded]
                simp [initialized, ordinary.noSkip, playing, begun, seeking]
              rw [same]
              exact .noticed ⟨playing, begun, seeking⟩
          | false =>
              have same :
                  controller.refreshCurrentPosition =
                    { controller.withPosition controller.mSeekPosition with
                      wasSeeking := false } := by
                rw [refreshCurrentPosition, if_neg recorded]
                simp [initialized, ordinary.noSkip, playing, begun, seeking]
              rw [same]
              by_cases unknown : controller.mSeekPosition = -1
              · rw [unknown, withPosition_of_unknown, ← seeking]
                exact .kept unknown
              · rw [withPosition_of_known unknown, ← seeking]
                exact .waiting begun seeking unknown

theorem Refreshes.surroundings (refreshes : Refreshes controller after) :
    after.surroundings = controller.surroundings := by
  cases refreshes with
  | still quiet known =>
      rfl
  | kept unknown =>
      rfl
  | read manager present ready begun =>
      have player : controller.playerReadings = some manager.readings :=
        playerReadings_of_manager present ready
      simp only [PlaybackController.surroundings, Prod.mk.injEq, player]
      simp [playerReadings, initializedManager, ready]
  | noticed unnoticed =>
      rfl
  | waiting waits free known =>
      rfl

/-- Behind a refresh no seek is unnoticed. -/
theorem Attends.refresh (attends : Attends settled track controller)
    (refreshes : Refreshes controller after) : Attends True track after := by
  have around := refreshes.surroundings
  have ordinary := attends.toOrdinary.congr around
  have state : after.mPlaybackState = controller.mPlaybackState := by
    simp only [PlaybackController.surroundings, Prod.mk.injEq] at around
    exact around.2.2.2.2.2.2
  have player : after.playerReadings = controller.playerReadings := by
    simp only [PlaybackController.surroundings, Prod.mk.injEq] at around
    exact around.2.1
  cases refreshes with
  | still quiet known =>
      refine ⟨⟨ordinary, attends.target, ?_, attends.begun, attends.seeking,
        attends.idle⟩, attends.heard, ?_⟩
      · exact fun unknown => absurd unknown known
      · intro _ unnoticed
        have playing : controller.isPlaying := unnoticed.1
        rw [quiet] at playing
        cases playing
  | kept unknown =>
      refine ⟨attends.toFollows, attends.heard, ?_⟩
      exact fun _ _ => attends.position unknown
  | read manager present ready begun =>
      obtain ⟨readings, answered, reported⟩ := attends.heard (Or.inl begun)
      rw [playerReadings_of_manager present ready] at answered
      obtain rfl := Option.some.inj answered
      refine ⟨⟨ordinary, ?_, ?_, attends.begun, ?_, ?_⟩, ?_, ?_⟩
      · exact fun known => absurd rfl known
      · exact fun _ => Or.inr reported
      · rintro ⟨⟩
      · intro idle
        exact ⟨(attends.idle (state.symm.trans idle)).1, rfl⟩
      · intro _
        rw [player]
        exact attends.heard (Or.inl begun)
      · rintro _ ⟨_, _, ⟨⟩⟩
  | noticed unnoticed =>
      obtain ⟨playing, waits, seeking⟩ := unnoticed
      refine ⟨⟨ordinary, attends.target, attends.position, ?_, ?_, ?_⟩,
        ?_, ?_⟩
      · exact fun _ => attends.seeking seeking
      · rintro ⟨⟩
      · intro idle
        have free := (attends.idle idle).2
        rw [seeking] at free
        cases free
      · exact fun _ => attends.heard (Or.inr seeking)
      · rintro _ ⟨_, ⟨⟩, _⟩
  | waiting waits free known =>
      refine ⟨⟨ordinary, attends.target, ?_, attends.begun, attends.seeking,
        attends.idle⟩, attends.heard, ?_⟩
      · exact fun unknown => absurd unknown known
      · rintro _ ⟨_, _, seeking⟩
        have busy : controller.wasSeeking := seeking
        rw [free] at busy
        cases busy

/-- If no seek is unnoticed, a refresh leads to an allowed position. -/
theorem Attends.allows_refresh (attends : Attends True track controller)
    (refreshes : Refreshes controller after) :
    track.Allows after.mCurrentPosition := by
  cases refreshes with
  | still quiet known =>
      exact Or.inl (attends.target known)
  | kept unknown =>
      exact attends.position unknown
  | read manager present ready begun =>
      obtain ⟨readings, answered, reported⟩ := attends.heard (Or.inl begun)
      rw [playerReadings_of_manager present ready] at answered
      obtain rfl := Option.some.inj answered
      exact Or.inr reported
  | noticed unnoticed =>
      exact attends.noticed trivial unnoticed
  | waiting waits free known =>
      exact Or.inl (attends.target known)

theorem Ordinary.stop_run (ordinary : controller.Ordinary) :
    stop.run controller = .ok () controller.stopped := by
  obtain ⟨manager, present, ready, -⟩ := ordinary.manager
  apply PlaybackController.stop_run ordinary.fragment
  rw [present]
  rintro _ ⟨⟩
  exact ready

/-- Nothing plays. -/
structure Rests (controller : PlaybackController) : Prop extends
    controller.Ordinary where
  idle : controller.mPlaybackState = .idle
  waits : controller.finishedInitialSeek = false
  free : controller.wasSeeking = false

theorem stopped_mCurrentPosition (controller : PlaybackController) :
    controller.stopped.mCurrentPosition =
      controller.refreshCurrentPosition.mCurrentPosition := by
  rw [stopped]
  split
  · rfl
  · rfl

theorem halted_surroundings (ordinary : controller.Ordinary) :
    controller.halted.surroundings = controller.surroundings := by
  rw [← ordinary.refreshes.surroundings]
  rfl

theorem stopped_of_idle (idle : controller.mPlaybackState = .idle) :
    controller.stopped = controller.halted := by
  rw [stopped, if_pos (Or.inl idle)]

theorem stopped_of_busy (ordinary : controller.Ordinary)
    (busy : controller.mPlaybackState ≠ .idle) :
    controller.stopped =
      { controller.halted with
        mPlaybackState := .idle
        calls :=
          controller.halted.calls ++
            controller.halted.stopReports }.clearPlaybackSessionOptions := by
  rw [stopped, if_neg (not_or.mpr ⟨busy, ordinary.known⟩)]

theorem Attends.rests (attends : Attends settled track controller) :
    controller.stopped.Rests := by
  have ordinary := attends.toOrdinary
  have halted := ordinary.congr (halted_surroundings ordinary)
  by_cases idle : controller.mPlaybackState = .idle
  · rw [stopped_of_idle idle]
    have state : controller.refreshCurrentPosition.mPlaybackState = .idle :=
      (refreshCurrentPosition_mPlaybackState controller).trans idle
    obtain ⟨waits, free⟩ := (attends.refresh ordinary.refreshes).idle state
    exact ⟨halted, state, waits, free⟩
  · rw [stopped_of_busy ordinary idle]
    refine ⟨⟨halted.fragment, halted.player, halted.recorded, halted.items,
      halted.noSkip, halted.requests, ?_⟩, rfl, rfl, rfl⟩
    rintro ⟨⟩

/-- A stop keeps an allowed position. -/
theorem Attends.allows_stopped (attends : Attends True track controller) :
    track.Allows controller.stopped.mCurrentPosition := by
  rw [stopped_mCurrentPosition]
  exact attends.allows_refresh attends.toOrdinary.refreshes

theorem Attends.stopped (attends : Attends True track controller) :
    Attends True track controller.stopped := by
  have rests := attends.rests
  have allowed := attends.allows_stopped
  refine ⟨⟨rests.toOrdinary, ?_, fun _ => allowed, ?_, ?_, ?_⟩, ?_, ?_⟩
  · by_cases idle : controller.mPlaybackState = .idle
    · rw [stopped_of_idle idle]
      exact (attends.refresh attends.toOrdinary.refreshes).target
    · rw [stopped_of_busy attends.toOrdinary idle]
      exact fun known => absurd rfl known
  · rw [rests.waits]
    rintro ⟨⟩
  · rw [rests.free]
    rintro ⟨⟩
  · exact fun _ => ⟨rests.waits, rests.free⟩
  · rw [rests.waits, rests.free]
    rintro (⟨⟨⟩⟩ | ⟨⟨⟩⟩)
  · exact fun _ _ => allowed

/-- The calls of a stop are asides. -/
theorem stopped_calls_aside (controller : PlaybackController) :
    ∃ made,
      controller.stopped.calls = controller.calls ++ made ∧
        ∀ call ∈ made, call.isAside := by
  obtain ⟨reported, grown, subset⟩ := stopped_calls controller
  refine ⟨.stop :: reported, grown, ?_⟩
  rw [List.forall_mem_cons]
  refine ⟨rfl, ?_⟩
  intro call member
  obtain ⟨item, stream, position, rfl⟩ := stopReports_cases (subset member)
  rfl

end PlaybackController

end JellyfinTv.Video
