import JellyfinTv.Video.Skips

/-!
# What a stop leaves behind

With a fragment and a player `stop` never throws.  It refreshes the position,
and unless nothing plays it reports the end and forgets the session.
-/

namespace JellyfinTv.Video

open JellyfinTv.Library PlaybackController

namespace PlaybackController

/-- The report of the end, if something plays. -/
def stopReports (controller : PlaybackController) : List Call :=
  match controller.getCurrentlyPlayingItem,
    controller.mCurrentStreamInfo with
  | some item, some stream =>
      [.reportStopped item stream controller.mCurrentPosition]
  | _, _ => []

/-- The controller at the check whether anything plays. -/
def halted (controller : PlaybackController) : PlaybackController :=
  { controller.refreshCurrentPosition with reportLoop := none }.record .stop

/-- The controller behind a stop that does not throw. -/
def stopped (controller : PlaybackController) : PlaybackController :=
  if controller.mPlaybackState = .idle ∨
      controller.mPlaybackState = .undefined then
    controller.halted
  else
    { controller.halted with
      mPlaybackState := .idle
      calls :=
        controller.halted.calls ++
          controller.halted.stopReports }.clearPlaybackSessionOptions

theorem calls_refreshCurrentPosition (controller : PlaybackController) :
    controller.refreshCurrentPosition.calls = controller.calls := by
  have same := accounted_refreshCurrentPosition controller
  simp only [accounted, watched, Prod.mk.injEq] at same
  exact same.1.2.2.2.1

theorem initializedManager_refreshCurrentPosition
    (controller : PlaybackController) :
    controller.refreshCurrentPosition.mVideoManager.any
        (fun manager => ¬manager.isInitialized) =
      controller.mVideoManager.any fun manager => ¬manager.isInitialized := by
  unfold refreshCurrentPosition
  split
  · rfl
  · split
    · rfl
    · rename_i manager initialized
      have present := (Option.filter_eq_some_iff.mp initialized).1
      split
      · rfl
      · split
        · split
          · simp [present]
          · split <;> rfl
        · rfl

theorem reportStopped_run {controller : PlaybackController}
    (fragment : controller.hasFragment) :
    reportStopped.run controller =
      .ok ()
        { controller with
          calls := controller.calls ++ controller.stopReports } := by
  cases item : controller.getCurrentlyPlayingItem with
  | none =>
      have nothing : controller.stopReports = [] := by
        simp [stopReports, item]
      rw [nothing, List.append_nil]
      simp only [reportStopped, EStateM.run_bind, EStateM.run_get, item]
      rfl
  | some item' =>
      cases stream : controller.mCurrentStreamInfo with
      | none =>
          have nothing : controller.stopReports = [] := by
            simp [stopReports, stream]
          rw [nothing, List.append_nil]
          simp only [reportStopped, EStateM.run_bind, EStateM.run_get, item,
            stream]
          rw [← stream]
          rfl
      | some stream' =>
          have one :
              controller.stopReports =
                [.reportStopped item' stream'
                  controller.mCurrentPosition] := by
            simp [stopReports, item, stream]
          rw [one]
          simp only [reportStopped, EStateM.run_bind, EStateM.run_get, item,
            stream]
          rw [if_neg (not_not.mpr fragment)]
          rw [← stream]
          rfl

theorem stop_run {controller : PlaybackController}
    (fragment : controller.hasFragment)
    (ready :
      ∀ manager ∈ controller.mVideoManager, manager.isInitialized) :
    stop.run controller = .ok () controller.stopped := by
  have state :
      controller.halted.mPlaybackState = controller.mPlaybackState :=
    refreshCurrentPosition_mPlaybackState controller
  have attached :
      controller.halted.hasFragment = controller.hasFragment := by
    have same := accounted_refreshCurrentPosition controller
    simp only [accounted, watched, Prod.mk.injEq] at same
    exact same.1.2.2.2.2.2.1
  have initialized :
      (controller.halted.mVideoManager.any fun manager =>
        ¬manager.isInitialized) = false := by
    have same := initializedManager_refreshCurrentPosition controller
    have none :
        (controller.mVideoManager.any fun manager =>
          ¬manager.isInitialized) = false := by
      cases found : controller.mVideoManager with
      | none =>
          rfl
      | some manager =>
          simpa using ready manager found
    exact same.trans none
  have begun :
      stop.run controller =
        (if controller.halted.mPlaybackState = .idle ∨
            controller.halted.mPlaybackState = .undefined then
          return ()
        else do
          modify fun controller => { controller with mPlaybackState := .idle }
          stopPlayback
          reportStopped
          modify clearPlaybackSessionOptions : ControllerM Unit).run
          controller.halted :=
    rfl
  rw [begun, state, stopped]
  by_cases inactive :
      controller.mPlaybackState = .idle ∨
        controller.mPlaybackState = .undefined
  · rw [if_pos inactive, if_pos inactive]
    rfl
  · rw [if_neg inactive, if_neg inactive]
    simp only [EStateM.run_bind, EStateM.run_modify, stopPlayback,
      EStateM.run_get, initialized, Bool.false_eq_true, if_false,
      EStateM.run_pure]
    have idle :
        { controller.halted with
          mPlaybackState := .idle }.hasFragment = true :=
      attached.trans fragment
    rw [reportStopped_run idle]
    rfl

theorem halted_calls (controller : PlaybackController) :
    controller.halted.calls = controller.calls ++ [.stop] := by
  rw [← calls_refreshCurrentPosition controller]
  rfl

theorem stopReports_cases {controller : PlaybackController} {call : Call}
    (member : call ∈ controller.stopReports) :
    ∃ item stream position, call = .reportStopped item stream position := by
  unfold stopReports at member
  split at member
  · exact ⟨_, _, _, List.mem_singleton.mp member⟩
  · cases member

/-- A stop is recorded, and at most the report of the end behind it. -/
theorem stopped_calls (controller : PlaybackController) :
    ∃ reported,
      controller.stopped.calls = controller.calls ++ .stop :: reported ∧
        reported ⊆ controller.halted.stopReports := by
  rw [stopped]
  split
  · exact ⟨[], halted_calls controller, List.nil_subset _⟩
  · refine ⟨controller.halted.stopReports, ?_, List.Subset.refl _⟩
    simp [clearPlaybackSessionOptions, halted_calls]

theorem stopped_mCurrentOptions (controller : PlaybackController) :
    controller.stopped.mCurrentOptions = controller.mCurrentOptions := by
  have same := accounted_refreshCurrentPosition controller
  simp only [accounted, watched, Prod.mk.injEq] at same
  rw [← same.1.2.2.2.2.2.2.2.1, stopped]
  split
  · rfl
  · rfl

end PlaybackController

end JellyfinTv.Video
