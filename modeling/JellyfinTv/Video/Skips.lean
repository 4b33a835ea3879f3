import JellyfinTv.Video.Effects

/-!
# Skips that outlive their item

A press of fast forward only moves `currentSkipPos`; the seek follows with the
delayed `skipRunnable`, and until then the position of the player is not read.
The field is also used to pin the end position of a skipped item.  It is zero
whenever no seek is scheduled exactly if the runnable never gives up on a
position and no item is skipped to its end; otherwise the next item reports
a position that does not move.
-/

namespace JellyfinTv.Video

open JellyfinTv.Library PlaybackController

namespace PlaybackController

/-- No skip is left behind. -/
def SkipCleared (controller : PlaybackController) : Prop :=
  controller.skipScheduled = false → controller.currentSkipPos = 0

/-- A refresh reads the position of the player and ends the seek. -/
def FollowsPlayer (controller : PlaybackController) : Prop :=
  ∀ manager, controller.initializedManager = some manager →
    controller.refreshCurrentPosition.mCurrentPosition =
        manager.readings.currentPosition ∧
      controller.refreshCurrentPosition.wasSeeking = false

/-- No skip is left behind, and a video that plays without a pending skip is
followed. -/
def SkipSettled (controller : PlaybackController) : Prop :=
  controller.SkipCleared ∧
    (controller.isLiveTv = false → controller.isPlaying →
      controller.finishedInitialSeek → controller.skipScheduled = false →
        controller.FollowsPlayer)

instance (controller : PlaybackController) :
    Decidable controller.SkipCleared :=
  inferInstanceAs (Decidable (_ → _))

/-- Behind the initial seek a refresh asks the player. -/
theorem refresh_of_begun {controller : PlaybackController}
    {manager : VideoManager}
    (ordinary :
      ¬(controller.isLiveTv ∧ controller.mCurrentProgramStart.isSome))
    (initialized : controller.initializedManager = some manager)
    (playing : controller.isPlaying)
    (begun : controller.finishedInitialSeek)
    (noSkip : controller.currentSkipPos = 0) :
    controller.refreshCurrentPosition =
      { controller.withPosition manager.getCurrentPosition with
        mVideoManager := some manager.polled
        mSeekPosition := -1
        wasSeeking := false } := by
  rw [refreshCurrentPosition, if_neg ordinary]
  simp [initialized, noSkip, playing, begun]

/-- A player that plays tells its position. -/
theorem getCurrentPosition_of_playing {controller : PlaybackController}
    {manager : VideoManager}
    (initialized : controller.initializedManager = some manager)
    (playing : controller.isPlaying) :
    manager.getCurrentPosition = manager.readings.currentPosition := by
  have reading : manager.isInitialized ∧ manager.readings.isPlaying := by
    have state := playing
    simp only [isPlaying, initialized, Option.any_some, Bool.and_eq_true]
      at state
    exact ⟨(Option.filter_eq_some_iff.mp initialized).2, state.2⟩
  rw [VideoManager.getCurrentPosition, if_pos reading]

theorem followsPlayer_of_noSkip {controller : PlaybackController}
    (ordinary : controller.isLiveTv = false)
    (playing : controller.isPlaying)
    (begun : controller.finishedInitialSeek)
    (noSkip : controller.currentSkipPos = 0) :
    controller.FollowsPlayer := by
  intro manager initialized
  have position := getCurrentPosition_of_playing initialized playing
  have known : manager.getCurrentPosition ≠ -1 := by
    omega
  have unscheduled :
      ¬(controller.isLiveTv ∧ controller.mCurrentProgramStart.isSome) := by
    simp [ordinary]
  rw [refresh_of_begun unscheduled initialized playing begun noSkip]
  refine ⟨?_, rfl⟩
  rw [← position]
  exact if_pos known

theorem skipSettled_iff (controller : PlaybackController) :
    controller.SkipSettled ↔ controller.SkipCleared := by
  constructor
  · exact And.left
  · intro cleared
    refine ⟨cleared, ?_⟩
    intro ordinary playing begun unscheduled
    exact followsPlayer_of_noSkip ordinary playing begun
      (cleared unscheduled)

end PlaybackController

/-- The runnable finds a video that plays or is paused, or has nothing to seek
to; and an item is not skipped to its end, unless its length is not known or
the runnable is still to come. -/
def ClearsSkip (controller : PlaybackController) : Event → Prop
  | .skipRunnable =>
      controller.skipScheduled →
        controller.isPlaying ∨ controller.isPaused ∨
          controller.currentSkipPos = 0
  | .seek pos true =>
      controller.skipScheduled ∨
        ∀ manager ∈ controller.initializedManager,
          controller.wasSeeking ∨ manager.getDuration ≤ 0 ∨
            max pos 0 < manager.getDuration - 100
  | _ => True

@[simp]
theorem VideoManager.polled_isInitialized (manager : VideoManager) :
    manager.polled.isInitialized = manager.isInitialized := by
  unfold polled
  split <;> rfl

@[simp]
theorem VideoManager.polled_readings (manager : VideoManager) :
    manager.polled.readings = manager.readings := by
  unfold polled
  split <;> rfl

theorem initialized_refreshCurrentPosition
    (controller : PlaybackController) :
    controller.refreshCurrentPosition.initializedManager.isSome =
      controller.initializedManager.isSome := by
  unfold refreshCurrentPosition
  split
  · rfl
  · split
    · rfl
    · rename_i manager initialized
      split
      · rfl
      · split
        · split
          · have ready := (Option.filter_eq_some_iff.mp initialized).2
            rw [initialized]
            simp [initializedManager, Option.filter, ready]
          · split <;> rfl
        · rfl

theorem getDuration_of_initialized {controller : PlaybackController}
    {manager : VideoManager}
    (initialized : controller.initializedManager = some manager) :
    controller.getDuration = .ok (max manager.getDuration 0) := by
  rw [getDuration, initialized]

theorem play_returns_of_paused {controller : PlaybackController}
    (paused : controller.isPaused) (position : Int) :
    ∃ final, (play position none).run controller = .ok () final := by
  have state :
      (controller.record (.play position)).mPlaybackState = .paused := by
    simpa [isPaused, record] using paused
  simp only [play, EStateM.run_bind, EStateM.run_modify, EStateM.run_get,
    state]
  split
  · exact ⟨_, rfl⟩
  · split
    · exact ⟨_, rfl⟩
    · exact ⟨_, rfl⟩

theorem seekWithin_returns {controller : PlaybackController}
    (attached : controller.Attached) (pos duration : Int) :
    ∃ final, (seekWithin pos duration).run controller = .ok () final := by
  simp only [seekWithin, EStateM.run_bind, EStateM.run_modify,
    EStateM.run_get]
  split
  · rename_i stream manager stored initialized
    have present : controller.mVideoManager = some manager :=
      (Option.filter_eq_some_iff.mp initialized).1
    have fragment : controller.hasFragment := by
      apply attached.fragment
      rw [present, Option.isSome_some]
    have configured : controller.mCurrentOptions.isSome := by
      apply attached.stream
      exact Option.isSome_of_mem stored
    obtain ⟨reference, options⟩ := Option.isSome_iff_exists.mp configured
    split
    · simp only [EStateM.run_bind, EStateM.run_modify, fragment, options,
        requireNotNull, EStateM.run_pure]
      exact ⟨_, rfl⟩
    · exact ⟨_, rfl⟩
  · exact ⟨_, rfl⟩

/-- A seek while another one is in progress does not look at the end. -/
theorem seek_run_of_seeking {controller : PlaybackController}
    (seeking : controller.wasSeeking) (pos : Int) :
    (seek pos true).run controller = (seek pos false).run controller := by
  simp only [seek, EStateM.run_bind, EStateM.run_get, seeking, if_true]

theorem seek_run_of_still {controller : PlaybackController}
    {manager : VideoManager}
    (initialized : controller.initializedManager = some manager)
    (still : controller.wasSeeking = false) (pos : Int)
    (skipToNext : Bool) :
    (seek pos skipToNext).run controller =
      (if skipToNext ∧ max pos 0 ≥ max manager.getDuration 0 - 100 then
        skipToEnd (max manager.getDuration 0)
      else
        seekWithin (max pos 0) (max manager.getDuration 0)).run
        { controller with wasSeeking := true } := by
  have present : controller.initializedManager ≠ none := by
    rw [initialized]
    exact Option.some_ne_none manager
  simp only [seek, EStateM.run_bind, EStateM.run_get]
  rw [if_neg present, if_neg (by simp [still])]
  simp only [EStateM.run_bind, EStateM.run_modify, lift,
    getDuration_of_initialized initialized, EStateM.run_pure]

/-- A seek to a position inside the video never throws. -/
theorem seek_returns {controller : PlaybackController}
    (attached : controller.Attached) (pos : Int) :
    ∃ final, (seek pos false).run controller = .ok () final := by
  cases initialized : controller.initializedManager with
  | none =>
      simp only [seek, EStateM.run_bind, EStateM.run_get, initialized,
        if_true]
      exact ⟨_, rfl⟩
  | some manager =>
      cases seeking : controller.wasSeeking with
      | false =>
          have searching :
              { controller with wasSeeking := true }.Attached :=
            ⟨attached.fragment, attached.stream, attached.rebuilt⟩
          rw [seek_run_of_still initialized seeking, if_neg (by simp)]
          exact seekWithin_returns searching _ _
      | true =>
          simp only [seek, EStateM.run_bind, EStateM.run_get, seeking,
            initialized, if_true]
          rw [if_neg (by simp)]
          split
          · rename_i paused
            simp only [EStateM.run_bind, EStateM.run_modify,
              EStateM.run_get]
            apply play_returns_of_paused
            simpa [isPaused] using paused
          · exact ⟨_, rfl⟩

theorem skipCleared_congr {before after : PlaybackController}
    (same :
      after.currentSkipPos = before.currentSkipPos ∧
        after.skipScheduled = before.skipScheduled) :
    after.SkipCleared ↔ before.SkipCleared := by
  rw [SkipCleared, SkipCleared, same.1, same.2]

/-- The runnable either gives up, or seeks and clears the skip. -/
theorem skipCleared_skipRunnable {controller : PlaybackController}
    (attached : controller.Attached) :
    (finalState (skipRunnable.run controller)).SkipCleared ↔
      (controller.isPlaying ∨ controller.isPaused ∨
        controller.currentSkipPos = 0) := by
  have fired :
      { controller with skipScheduled := false }.Attached :=
    ⟨attached.fragment, attached.stream, attached.rebuilt⟩
  by_cases active : controller.isPlaying ∨ controller.isPaused
  · obtain ⟨final, sought⟩ := seek_returns fired controller.currentSkipPos
    have found :
        { controller with skipScheduled := false }.isPlaying ∨
          { controller with skipScheduled := false }.isPaused :=
      active
    have ran :
        skipRunnable.run controller =
          .ok () { final with currentSkipPos := 0 } := by
      simp only [skipRunnable, EStateM.run_bind, EStateM.run_modify,
        EStateM.run_get]
      rw [if_neg (not_not.mpr found), EStateM.run_bind, sought]
      rfl
    rw [ran]
    constructor
    · intro _
      rcases active with playing | paused
      · exact Or.inl playing
      · exact Or.inr (Or.inl paused)
    · intro _ _
      rfl
  · have missed :
        ¬({ controller with skipScheduled := false }.isPlaying ∨
          { controller with skipScheduled := false }.isPaused) :=
      active
    have ran :
        skipRunnable.run controller =
          .ok () { controller with skipScheduled := false } := by
      simp only [skipRunnable, EStateM.run_bind, EStateM.run_modify,
        EStateM.run_get]
      rw [if_pos missed]
      rfl
    rw [ran]
    constructor
    · intro cleared
      exact Or.inr (Or.inr (cleared rfl))
    · intro either _
      rcases either with playing | paused | noSkip
      · exact absurd (Or.inl playing) active
      · exact absurd (Or.inr paused) active
      · exact noSkip

theorem addSkip_schedules {controller : PlaybackController}
    (initialized : controller.initializedManager.isSome) (msec : Int) :
    (finalState
      ((addSkip msec).run controller)).skipScheduled = true := by
  have refreshed :
      { controller with
        skipScheduled :=
          false }.refreshCurrentPosition.initializedManager.isSome := by
    rw [initialized_refreshCurrentPosition]
    exact initialized
  obtain ⟨manager, found⟩ := Option.isSome_iff_exists.mp refreshed
  simp only [addSkip, EStateM.run_bind, EStateM.run_modify,
    EStateM.run_get, getDuration_of_initialized found, lift,
    EStateM.run_pure, finalState_ok]

/-- A press schedules a new seek or changes nothing. -/
theorem skipCleared_skip {controller : PlaybackController}
    (cleared : controller.SkipCleared) (msec : Int) :
    (finalState ((skip msec).run controller)).SkipCleared := by
  simp only [skip, EStateM.run_bind, EStateM.run_get]
  cases initialized : controller.initializedManager with
  | none =>
      exact cleared
  | some manager =>
      dsimp only
      split
      · exact cleared
      · rw [EStateM.run_bind, EStateM.run_modify]
        dsimp only
        split
        · intro unscheduled
          rw [addSkip_schedules] at unscheduled
          · cases unscheduled
          · obtain ⟨present, ready⟩ :=
              Option.filter_eq_some_iff.mp initialized
            simp [initializedManager, present, Option.filter, ready]
        · exact cleared

theorem skipToEnd_skip (controller : PlaybackController) (duration : Int) :
    (finalState ((skipToEnd duration).run controller)).currentSkipPos =
        duration ∧
      (finalState ((skipToEnd duration).run controller)).skipScheduled =
        controller.skipScheduled := by
  have completed :
      Respects (Changes False False False) itemComplete :=
    respects_itemComplete
  exact (completed _).skip.resolve_left id

/-- A seek that completes the item pins the skip to its length. -/
theorem skipCleared_seek_of_end {controller : PlaybackController}
    {manager : VideoManager} {pos : Int}
    (initialized : controller.initializedManager = some manager)
    (still : controller.wasSeeking = false)
    (atEnd : max pos 0 ≥ max manager.getDuration 0 - 100) :
    (finalState ((seek pos true).run controller)).SkipCleared ↔
      (controller.skipScheduled ∨ manager.getDuration ≤ 0) := by
  have ended :
      (seek pos true).run controller =
        (skipToEnd (max manager.getDuration 0)).run
          { controller with wasSeeking := true } := by
    rw [seek_run_of_still initialized still, if_pos ⟨rfl, atEnd⟩]
  obtain ⟨skipped, scheduled⟩ :=
    skipToEnd_skip { controller with wasSeeking := true }
      (max manager.getDuration 0)
  have unknown :
      max manager.getDuration 0 = 0 ↔ manager.getDuration ≤ 0 := by
    omega
  rw [ended, SkipCleared, skipped, scheduled, unknown]
  cases controller.skipScheduled with
  | false =>
      simp
  | true =>
      simp

theorem skipCleared_seek {controller : PlaybackController}
    (cleared : controller.SkipCleared) (pos : Int) :
    (finalState ((seek pos true).run controller)).SkipCleared ↔
      ClearsSkip controller (.seek pos true) := by
  have plain :
      (finalState ((seek pos false).run controller)).SkipCleared := by
    have changed : Respects (Changes False False False) (seek pos false) :=
      respects_seek_plain pos
    have same := (changed controller).skip.resolve_left id
    exact (skipCleared_congr same).mpr cleared
  cases initialized : controller.initializedManager with
  | none =>
      have same :
          (seek pos true).run controller =
            (seek pos false).run controller := by
        simp only [seek, EStateM.run_bind, EStateM.run_get, initialized,
          if_true]
      rw [same]
      refine iff_of_true plain (Or.inr ?_)
      simp [initialized]
  | some manager =>
      by_cases seeking : controller.wasSeeking
      · rw [seek_run_of_seeking seeking]
        exact iff_of_true plain (Or.inr fun _ _ => Or.inl seeking)
      · have still : controller.wasSeeking = false := by
          simpa using seeking
        by_cases atEnd : max pos 0 ≥ max manager.getDuration 0 - 100
        · rw [skipCleared_seek_of_end initialized still atEnd]
          constructor
          · intro either
            rcases either with scheduled | unknown
            · exact Or.inl scheduled
            · right
              intro other member
              obtain rfl := Option.some.inj (initialized.symm.trans member)
              exact Or.inr (Or.inl unknown)
          · intro either
            rcases either with scheduled | inside
            · exact Or.inl scheduled
            · have position := inside manager initialized
              simp only [still, Bool.false_eq_true, false_or] at position
              omega
        · have same :
              (seek pos true).run controller =
                (seek pos false).run controller := by
            rw [seek_run_of_still initialized still,
              seek_run_of_still initialized still,
              if_neg fun ended => atEnd ended.2, if_neg (by simp)]
          rw [same]
          refine iff_of_true plain (Or.inr ?_)
          intro other member
          obtain rfl := Option.some.inj (initialized.symm.trans member)
          omega

theorem clearsSkip_of_not_skips (controller : PlaybackController)
    {event : Event} (ordinary : ¬event.skips) :
    ClearsSkip controller event := by
  cases event with
  | skipRunnable =>
      exact absurd rfl ordinary
  | seek pos skipToNext =>
      cases skipToNext with
      | false =>
          trivial
      | true =>
          exact absurd rfl ordinary
  | _ =>
      trivial

theorem skipCleared_step {controller : PlaybackController}
    (attached : controller.Attached) (cleared : controller.SkipCleared)
    (event : Event) :
    (step controller event).SkipCleared ↔ ClearsSkip controller event := by
  by_cases skipped : event.skips
  · cases event with
    | skip msec =>
        exact iff_of_true (skipCleared_skip cleared msec) trivial
    | skipRunnable =>
        cases scheduled : controller.skipScheduled with
        | false =>
            have waiting : step controller .skipRunnable = controller := by
              simp only [step, handle, EStateM.run_bind, EStateM.run_get,
                scheduled, Bool.false_eq_true, if_false]
              rfl
            rw [waiting]
            refine iff_of_true cleared ?_
            intro isScheduled
            rw [scheduled] at isScheduled
            cases isScheduled
        | true =>
            have fires :
                step controller .skipRunnable =
                  finalState (skipRunnable.run controller) := by
              simp only [step, handle, EStateM.run_bind, EStateM.run_get,
                scheduled, if_true]
            rw [fires, skipCleared_skipRunnable attached]
            simp [ClearsSkip, scheduled]
    | seek pos skipToNext =>
        cases skipToNext with
        | false =>
            cases skipped
        | true =>
            exact skipCleared_seek cleared pos
    | _ =>
        cases skipped
  · have same :=
      (changes_step controller event).skip.resolve_left skipped
    rw [skipCleared_congr same]
    exact iff_of_true cleared (clearsSkip_of_not_skips controller skipped)

/-- No skip is left behind, and a playing video is followed, throughout a run
exactly if every step clears its skip. -/
theorem skips_settled_iff_cleared (settings : Settings)
    (items : List BaseItemDto) (startIndex : Nat)
    (audioLanguage subtitleLanguage : Option String)
    (events : List Event) :
    (∀ early, early <+: events →
      (run step
        (create settings items startIndex audioLanguage subtitleLanguage)
        early).SkipSettled) ↔
      Admitted step ClearsSkip
        (create settings items startIndex audioLanguage subtitleLanguage)
        events := by
  have kept :
      ∀ (controller : PlaybackController) (event : Event),
        controller.Attached → True → (step controller event).Attached :=
    fun controller event attached _ => attached_step attached event
  have exact :
      ∀ (controller : PlaybackController) (event : Event),
        controller.Attached → True → controller.SkipSettled →
          ((step controller event).SkipSettled ↔
            ClearsSkip controller event) := by
    intro controller event attached _ settled
    rw [skipSettled_iff] at settled ⊢
    exact skipCleared_step attached settled event
  apply holds_throughout_iff_admitted kept exact
    (attached_create _ _ _ _ _)
  · rw [skipSettled_iff]
    intro _
    rfl
  · exact admitted_of_forall fun _ _ => trivial

/-- An automatic skip to the end of the first of two episodes; the second one
then plays. -/
def skippedEnding : List Event :=
  [.init (playingAt 0 []) false, .play 0] ++
    opening (shortSource 1 [] none) [] ++ [.seek 60000 true] ++
    opening (shortSource 2 [] none) []

/-- The second episode plays at one second, but a refresh keeps zero. -/
theorem skipped_ending_freezes_next :
    ¬∀ early, early <+: skippedEnding →
      (run step
        (create ⟨false, false, false, false⟩
          [shortEpisode (shortSource 1 [] none),
            shortEpisode (shortSource 2 [] none)] 0 none none)
        early).SkipSettled := by
  intro settled
  have leaked := settled skippedEnding List.prefix_rfl
  have follows :
      (run step
        (create ⟨false, false, false, false⟩
          [shortEpisode (shortSource 1 [] none),
            shortEpisode (shortSource 2 [] none)] 0 none none)
        skippedEnding).FollowsPlayer :=
    leaked.2 (by decide) (by decide) (by decide) (by decide)
  exact absurd (follows _ rfl).1 (by decide)

end JellyfinTv.Video
