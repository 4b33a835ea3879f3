import JellyfinTv.Video.Skips
import Mathlib.Data.List.Induction

/-!
# Sums of skips

Presses of fast forward and rewind that follow each other are added up in
`currentSkipPos`, and one seek goes to the sum.  Zero stands for a sum that
has not begun: after presses that lead to the start of the video the next one
counts from the position of the player again.
-/

namespace JellyfinTv.Video

open JellyfinTv.Library PlaybackController

/-- Where the presses lead one after the other. -/
def sumOfSkips (duration position : Int) (amounts : List Int) : Int :=
  amounts.foldl
    (fun reached msec => getSafeSeekPosition (reached + msec) duration)
    position

/-- Where they lead if zero is the mark of a sum that has not begun. -/
def markedSum (duration position : Int) (amounts : List Int) : Int :=
  amounts.foldl
    (fun reached msec =>
      getSafeSeekPosition
        ((if reached = 0 then position else reached) + msec) duration)
    0

/-- A press leads to the same position from two ones: these are the same, the
video has no length, both lead to the start, both to the end, or one to the
end and the other one to the last position in front of it. -/
def SkipsAlike (duration first second msec : Int) : Prop :=
  first = second ∨ duration ≤ 0 ∨
    (first + msec ≤ 0 ∧ second + msec ≤ 0) ∨
    (duration ≤ first + msec ∧
      (duration ≤ second + msec ∨
        max (second + msec) 0 = max (duration - 1000) 0)) ∨
    (duration ≤ second + msec ∧
      max (first + msec) 0 = max (duration - 1000) 0)

namespace PlaybackController

/-- A program of live TV is on whose start is known. -/
abbrev FollowsProgram (controller : PlaybackController) : Prop :=
  controller.isLiveTv ∧ controller.mCurrentProgramStart.isSome

/-- The position that a press counts from while no sum has begun. -/
def knownPosition (controller : PlaybackController) (position : Int) : Int :=
  if controller.FollowsProgram then
    (controller.withPosition controller.getRealTimeProgress).mCurrentPosition
  else
    position

/-- A stream plays at the position behind its initial seek. -/
structure PlaysAt (controller : PlaybackController)
    (position duration : Int) : Prop where
  player :
    ∃ manager,
      controller.initializedManager = some manager ∧
        manager.readings.isPlaying ∧
        manager.readings.currentPosition = position ∧
        max manager.getDuration 0 = duration
  playing : controller.mPlaybackState = .playing
  begun : controller.finishedInitialSeek
  spinner : controller.spinnerOff
  stream : controller.mCurrentStreamInfo.isSome
  attached : controller.Attached

/-- One more seek was made, and it goes to the position: the player is told to
go there, or a stream from there is requested. -/
def SeeksTo (before after : PlaybackController) (position : Int) : Prop :=
  after.calls = before.calls ++ [.seekTo position] ∨
    ∃ request,
      request.kind = .changeVideoStream ∧ request.position = position ∧
        after.requests = before.requests ++ [request]

/-- No seek of live TV is in progress, the first press leads to where it does
from the position of the player, and a press at the start of the video to
where it does from there. -/
structure SkipsAddUp (controller : PlaybackController)
    (position duration : Int) (amounts : List Int) : Prop where
  free : controller.FollowsProgram → controller.wasSeeking = false
  first :
    ∀ msec, [msec] <+: amounts →
      SkipsAlike duration (controller.knownPosition position) position msec
  later :
    ∀ pressed msec, pressed ≠ [] → pressed ++ [msec] <+: amounts →
      sumOfSkips duration position pressed = 0 →
        SkipsAlike duration (controller.knownPosition position) 0 msec

end PlaybackController

theorem skipsAlike_iff (duration first second msec : Int) :
    SkipsAlike duration first second msec ↔
      getSafeSeekPosition (first + msec) duration =
        getSafeSeekPosition (second + msec) duration := by
  unfold SkipsAlike getSafeSeekPosition
  split
  · split
    · omega
    · omega
  · split
    · omega
    · omega

theorem getSafeSeekPosition_bounds {duration : Int} (known : 0 ≤ duration)
    (position : Int) :
    0 ≤ getSafeSeekPosition position duration ∧
      getSafeSeekPosition position duration ≤ duration := by
  unfold getSafeSeekPosition
  split
  · omega
  · omega

theorem markedSum_bounds {duration : Int} (known : 0 ≤ duration)
    (position : Int) (amounts : List Int) :
    0 ≤ markedSum duration position amounts ∧
      markedSum duration position amounts ≤ duration := by
  induction amounts using List.reverseRecOn with
  | nil =>
      exact ⟨Int.le_refl 0, known⟩
  | append_singleton amounts msec _ =>
      rw [markedSum, List.foldl_append]
      exact getSafeSeekPosition_bounds known _

/-- Both sums agree after any presses if and only if each press leads to the
same position in both. -/
theorem markedSum_eq_iff (duration known position : Int)
    (amounts : List Int) :
    (∀ pressed, pressed ≠ [] → pressed <+: amounts →
      markedSum duration known pressed =
        sumOfSkips duration position pressed) ↔
      (∀ msec, [msec] <+: amounts →
        SkipsAlike duration known position msec) ∧
        ∀ pressed msec, pressed ≠ [] → pressed ++ [msec] <+: amounts →
          sumOfSkips duration position pressed = 0 →
            SkipsAlike duration known 0 msec := by
  simp only [skipsAlike_iff]
  constructor
  · intro agree
    refine ⟨?_, ?_⟩
    · intro msec early
      exact agree [msec] (List.cons_ne_nil msec []) early
    · intro pressed msec nonempty early atStart
      have before :=
        agree pressed nonempty
          ((List.prefix_append pressed [msec]).trans early)
      have after := agree (pressed ++ [msec]) (by simp) early
      simp only [markedSum, sumOfSkips, List.foldl_append, List.foldl_cons,
        List.foldl_nil] at before after atStart
      rw [before, atStart] at after
      simpa using after
  · rintro ⟨first, later⟩ pressed nonempty early
    induction pressed using List.reverseRecOn with
    | nil =>
        exact absurd rfl nonempty
    | append_singleton pressed msec inductionHypothesis =>
        by_cases begun : pressed = []
        · subst begun
          exact first msec early
        · have before :=
            inductionHypothesis begun
              ((List.prefix_append pressed [msec]).trans early)
          have atStart := later pressed msec begun early
          simp only [markedSum, sumOfSkips, List.foldl_append,
            List.foldl_cons, List.foldl_nil] at before atStart ⊢
          rw [before]
          split
          · rename_i zero
            rw [atStart zero, zero]
          · rfl

/-! ## Presses -/

theorem VideoManager.polled_getDuration (manager : VideoManager) :
    manager.polled.getDuration = manager.getDuration := by
  unfold polled
  split <;> rfl

namespace PlaybackController

section Presses

variable {controller : PlaybackController} {position duration : Int}

/-- What a refresh does while a stream plays: the position is read if no sum
has begun, and a seek ends then unless the program is followed. -/
structure Refreshed (position duration : Int)
    (before after : PlaybackController) : Prop where
  plays : after.PlaysAt position duration
  skip : after.currentSkipPos = before.currentSkipPos
  program : after.FollowsProgram ↔ before.FollowsProgram
  known : after.knownPosition position = before.knownPosition position
  reads :
    before.currentSkipPos = 0 →
      after.mCurrentPosition = before.knownPosition position
  seeking :
    before.FollowsProgram ∨ before.currentSkipPos ≠ 0 →
      after.wasSeeking = before.wasSeeking
  ended :
    ¬before.FollowsProgram → before.currentSkipPos = 0 →
      after.wasSeeking = false

theorem PlaysAt.isPlaying (plays : controller.PlaysAt position duration) :
    controller.isPlaying := by
  obtain ⟨manager, initialized, running, -, -⟩ := plays.player
  simp [PlaybackController.isPlaying, plays.playing, initialized, running]

/-- A change of the controller that keeps what plays. -/
theorem PlaysAt.congr {after : PlaybackController}
    (plays : controller.PlaysAt position duration)
    (manager :
      after.mVideoManager = controller.mVideoManager ∨
        after.mVideoManager =
          controller.mVideoManager.map VideoManager.polled)
    (same :
      after.mPlaybackState = controller.mPlaybackState ∧
        after.finishedInitialSeek = controller.finishedInitialSeek ∧
        after.spinnerOff = controller.spinnerOff ∧
        after.mCurrentStreamInfo = controller.mCurrentStreamInfo)
    (attached : after.Attached) :
    after.PlaysAt position duration where
  player := by
    obtain ⟨playing, initialized, running, reading, length⟩ := plays.player
    obtain ⟨present, ready⟩ := Option.filter_eq_some_iff.mp initialized
    rcases manager with unchanged | polled
    · refine ⟨playing, ?_, running, reading, length⟩
      rw [initializedManager, unchanged]
      exact initialized
    · refine ⟨playing.polled, ?_, ?_, ?_, ?_⟩
      · rw [initializedManager, polled, present]
        simpa [Option.filter] using ready
      · simpa using running
      · simpa using reading
      · rw [VideoManager.polled_getDuration]
        exact length
  playing := same.1.trans plays.playing
  begun := same.2.1.trans plays.begun
  spinner := same.2.2.1.trans plays.spinner
  stream := by
    rw [same.2.2.2]
    exact plays.stream
  attached := attached

theorem PlaysAt.refresh (plays : controller.PlaysAt position duration) :
    Refreshed position duration controller
      controller.refreshCurrentPosition := by
  have attached : controller.refreshCurrentPosition.Attached := by
    have changed :
        Changes False False False controller
          controller.refreshCurrentPosition :=
      changes_of_accounted (accounted_refreshCurrentPosition controller)
    exact changed.attached False.elim plays.attached
  have running := plays.isPlaying
  obtain ⟨manager, initialized, reading, here, length⟩ := plays.player
  by_cases program : controller.FollowsProgram
  · have refreshed :
        controller.refreshCurrentPosition =
          controller.withPosition controller.getRealTimeProgress := by
      rw [refreshCurrentPosition, if_pos program]
    rw [refreshed] at attached ⊢
    refine ⟨plays.congr (Or.inl rfl) ⟨rfl, rfl, rfl, rfl⟩ attached, rfl,
      Iff.rfl, ?_, ?_, fun _ => rfl, fun other => absurd program other⟩
    · by_cases unknown : controller.getRealTimeProgress = -1
      · rw [withPosition, if_neg (not_not.mpr unknown)]
      · have same :
            (controller.withPosition
              controller.getRealTimeProgress).getRealTimeProgress =
                controller.getRealTimeProgress :=
          rfl
        have still :
            (controller.withPosition
              controller.getRealTimeProgress).FollowsProgram :=
          program
        rw [knownPosition, knownPosition, if_pos program, if_pos still, same]
        simp [withPosition, unknown]
    · intro _
      rw [knownPosition, if_pos program]
  · have still :
        ∀ after : PlaybackController,
          after.isLiveTv = controller.isLiveTv →
            after.mCurrentProgramStart = controller.mCurrentProgramStart →
              (after.FollowsProgram ↔ controller.FollowsProgram) ∧
                after.knownPosition position =
                  controller.knownPosition position := by
      intro after live start
      have same : after.FollowsProgram ↔ controller.FollowsProgram := by
        rw [FollowsProgram, FollowsProgram, live, start]
      refine ⟨same, ?_⟩
      rw [knownPosition, knownPosition, if_neg program,
        if_neg (mt same.mp program)]
    by_cases noSkip : controller.currentSkipPos = 0
    · have reads : manager.getCurrentPosition = position := by
        rw [getCurrentPosition_of_playing initialized running, here]
      rw [refresh_of_begun program initialized running plays.begun noSkip]
        at attached ⊢
      obtain ⟨program', known⟩ :=
        still
          { controller.withPosition manager.getCurrentPosition with
            mVideoManager := some manager.polled
            mSeekPosition := -1
            wasSeeking := false }
          rfl rfl
      refine ⟨plays.congr (Or.inr ?_) ⟨rfl, rfl, rfl, rfl⟩ attached, rfl,
        program', known, ?_, ?_, fun _ _ => rfl⟩
      · rw [(Option.filter_eq_some_iff.mp initialized).1]
        rfl
      · intro _
        rw [knownPosition, if_neg program, ← reads]
        have told : manager.getCurrentPosition ≠ -1 := by
          rw [getCurrentPosition_of_playing initialized running]
          omega
        exact if_pos told
      · rintro (other | other)
        · exact absurd other program
        · exact absurd noSkip other
    · have refreshed :
          controller.refreshCurrentPosition =
            controller.withPosition controller.mSeekPosition := by
        rw [refreshCurrentPosition, if_neg program]
        simp [initialized, noSkip]
      rw [refreshed] at attached ⊢
      obtain ⟨program, known⟩ :=
        still (controller.withPosition controller.mSeekPosition) rfl rfl
      refine ⟨plays.congr (Or.inl rfl) ⟨rfl, rfl, rfl, rfl⟩ attached, rfl,
        program, known, fun zero => absurd zero noSkip, fun _ => rfl,
        fun _ zero => absurd zero noSkip⟩

/-- One press moves the sum and keeps everything that plays. -/
structure Pressed (position duration msec : Int)
    (before after : PlaybackController) : Prop where
  plays : after.PlaysAt position duration
  scheduled : after.skipScheduled
  skip :
    after.currentSkipPos =
      getSafeSeekPosition
        ((if before.currentSkipPos = 0 then before.knownPosition position
          else before.currentSkipPos) + msec) duration
  program : after.FollowsProgram ↔ before.FollowsProgram
  known : after.knownPosition position = before.knownPosition position
  seeking :
    before.FollowsProgram ∨ before.currentSkipPos ≠ 0 →
      after.wasSeeking = before.wasSeeking
  ended :
    ¬before.FollowsProgram → before.currentSkipPos = 0 →
      after.wasSeeking = false

theorem PlaysAt.press (plays : controller.PlaysAt position duration)
    (positive : 0 < position) (msec : Int) :
    Pressed position duration msec controller
      (step controller (.skip msec)) := by
  obtain ⟨manager, initialized, reading, here, length⟩ := plays.player
  have running := plays.isPlaying
  have far : manager.getCurrentPosition > 0 := by
    rw [getCurrentPosition_of_playing initialized running, here]
    exact positive
  let waiting : PlaybackController :=
    { controller with
      mVideoManager := controller.mVideoManager.map VideoManager.polled
      skipScheduled := false }
  have waits : waiting.PlaysAt position duration := by
    refine plays.congr (Or.inr rfl) ⟨rfl, rfl, rfl, rfl⟩ ?_
    refine ⟨?_, plays.attached.stream, plays.attached.rebuilt⟩
    simpa [waiting] using plays.attached.fragment
  have refreshed := waits.refresh
  obtain ⟨asked, found, -, -, known⟩ := refreshed.plays.player
  have pressed :
      step controller (.skip msec) =
        { waiting.refreshCurrentPosition with
          currentSkipPos :=
            getSafeSeekPosition
              ((if waiting.refreshCurrentPosition.currentSkipPos = 0 then
                  waiting.refreshCurrentPosition.mCurrentPosition
                else waiting.refreshCurrentPosition.currentSkipPos) + msec)
              duration
          mSeekPosition :=
            getSafeSeekPosition
              ((if waiting.refreshCurrentPosition.currentSkipPos = 0 then
                  waiting.refreshCurrentPosition.mCurrentPosition
                else waiting.refreshCurrentPosition.currentSkipPos) + msec)
              duration
          skipScheduled := true } := by
    have allowed :
        ¬¬((controller.isPlaying ∨ controller.isPaused) ∧
          controller.spinnerOff) :=
      not_not.mpr ⟨Or.inl running, plays.spinner⟩
    simp only [step, handle, skip, EStateM.run_bind, EStateM.run_get,
      initialized]
    rw [if_neg allowed]
    simp only [EStateM.run_bind, EStateM.run_modify, far, if_true, addSkip,
      EStateM.run_get]
    have asks :
        lift waiting.refreshCurrentPosition.getDuration =
          (pure duration : ControllerM Int) := by
      rw [getDuration_of_initialized found, known]
      rfl
    rw [asks]
    rfl
  have base :
      (if waiting.refreshCurrentPosition.currentSkipPos = 0 then
          waiting.refreshCurrentPosition.mCurrentPosition
        else waiting.refreshCurrentPosition.currentSkipPos) =
        if controller.currentSkipPos = 0 then
          controller.knownPosition position
        else controller.currentSkipPos := by
    rw [refreshed.skip]
    by_cases noSkip : controller.currentSkipPos = 0
    · rw [if_pos noSkip, if_pos noSkip]
      exact refreshed.reads noSkip
    · rw [if_neg noSkip, if_neg noSkip]
  have attached := refreshed.plays.attached
  rw [pressed, base]
  exact
    { plays :=
        refreshed.plays.congr (Or.inl rfl) ⟨rfl, rfl, rfl, rfl⟩
          ⟨attached.fragment, attached.stream, attached.rebuilt⟩
      scheduled := rfl
      skip := rfl
      program := refreshed.program
      known := refreshed.known
      seeking := refreshed.seeking
      ended := refreshed.ended }

/-- The presses behind a state in which no sum has begun. -/
structure Summed (position duration : Int) (start : PlaybackController)
    (pressed : List Int) (controller : PlaybackController) : Prop where
  plays : controller.PlaysAt position duration
  skip :
    controller.currentSkipPos =
      markedSum duration (start.knownPosition position) pressed
  program : controller.FollowsProgram ↔ start.FollowsProgram
  known : controller.knownPosition position = start.knownPosition position
  scheduled : pressed ≠ [] → controller.skipScheduled
  seeking :
    pressed ≠ [] ∨ start.FollowsProgram →
      (controller.wasSeeking = false ↔
        (start.FollowsProgram → start.wasSeeking = false))

theorem PlaysAt.presses (plays : controller.PlaysAt position duration)
    (positive : 0 < position) (noSkip : controller.currentSkipPos = 0)
    (pressed : List Int) :
    Summed position duration controller pressed
      (run step controller (pressed.map Event.skip)) := by
  induction pressed using List.reverseRecOn with
  | nil =>
      refine ⟨plays, noSkip, Iff.rfl, rfl, fun none => absurd rfl none, ?_⟩
      rintro (none | program)
      · exact absurd rfl none
      · exact ⟨fun still _ => still, fun still => still program⟩
  | append_singleton pressed msec summed =>
      rw [List.map_append, run_append]
      have press := summed.plays.press positive msec
      refine ⟨press.plays, ?_, press.program.trans summed.program,
        press.known.trans summed.known, fun _ => press.scheduled, ?_⟩
      · rw [List.map_singleton, run_cons, run_nil, press.skip, summed.skip,
          summed.known, markedSum, markedSum, List.foldl_append]
        rfl
      · intro _
        by_cases program : controller.FollowsProgram
        · have still := press.seeking (Or.inl (summed.program.mpr program))
          rw [← summed.seeking (Or.inr program), ← still]
          rfl
        · refine iff_of_true ?_ fun other => absurd other program
          have apart := mt summed.program.mp program
          by_cases zero :
              (run step controller
                (pressed.map Event.skip)).currentSkipPos = 0
          · exact press.ended apart zero
          · have begun : pressed ≠ [] := by
              rintro rfl
              exact zero noSkip
            have before :=
              (summed.seeking (Or.inl begun)).mpr fun other =>
                absurd other program
            rw [← before]
            exact press.seeking (Or.inr zero)

/-- A seek is told to the player or to the server. -/
theorem seeksTo_seekWithin_iff (attached : controller.Attached)
    (stream : controller.mCurrentStreamInfo.isSome)
    {manager : VideoManager}
    (initialized : controller.initializedManager = some manager)
    (pos duration target : Int) :
    controller.SeeksTo
        (finalState ((seekWithin pos duration).run controller)) target ↔
      min pos duration = target := by
  have present : controller.mVideoManager = some manager :=
    (Option.filter_eq_some_iff.mp initialized).1
  have fragment : controller.hasFragment := by
    apply attached.fragment
    rw [present, Option.isSome_some]
  obtain ⟨reference, options⟩ :=
    Option.isSome_iff_exists.mp (attached.stream stream)
  obtain ⟨playing, stored⟩ := Option.isSome_iff_exists.mp stream
  simp only [seekWithin, EStateM.run_bind, EStateM.run_modify,
    EStateM.run_get]
  split
  · rename_i other same
    split
    · simp [SeeksTo, fragment, options, requireNotNull, send]
    · simp [SeeksTo, startReportLoop, record, stored]
  · rename_i apart
    exact absurd initialized (apart playing manager stored)

/-- While a seek is in progress another one is ignored. -/
theorem seek_run_of_busy {manager : VideoManager}
    (initialized : controller.initializedManager = some manager)
    (seeking : controller.wasSeeking)
    (running : controller.isPaused = false) (pos : Int)
    (skipToNext : Bool) :
    (seek pos skipToNext).run controller = .ok () controller := by
  have present : controller.initializedManager ≠ none := by
    rw [initialized]
    exact Option.some_ne_none manager
  simp only [seek, EStateM.run_bind, EStateM.run_get]
  rw [if_neg present, if_pos seeking, if_neg (by simp [running])]
  rfl

/-- The runnable seeks to the sum unless another seek is in progress. -/
theorem PlaysAt.seeksTo_iff (plays : controller.PlaysAt position duration)
    (scheduled : controller.skipScheduled)
    (low : 0 ≤ controller.currentSkipPos)
    (high : controller.currentSkipPos ≤ duration) (target : Int) :
    controller.SeeksTo (step controller .skipRunnable) target ↔
      controller.wasSeeking = false ∧
        controller.currentSkipPos = target := by
  obtain ⟨manager, initialized, -, -, length⟩ := plays.player
  let waiting : PlaybackController :=
    { controller with skipScheduled := false }
  have ready : waiting.initializedManager = some manager :=
    initialized
  have active : waiting.isPlaying ∨ waiting.isPaused :=
    Or.inl plays.isPlaying
  have fires :
      ∀ final,
        (seek controller.currentSkipPos false).run waiting = .ok () final →
          step controller .skipRunnable =
            { final with currentSkipPos := 0 } := by
    intro final sought
    simp only [step, handle, EStateM.run_bind, EStateM.run_get, scheduled,
      if_true, skipRunnable, EStateM.run_modify]
    rw [if_neg (not_not.mpr active), EStateM.run_bind, sought]
    rfl
  cases seeking : controller.wasSeeking with
  | true =>
      have ignored :
          (seek controller.currentSkipPos false).run waiting =
            .ok () waiting := by
        apply seek_run_of_busy ready seeking
        simp [waiting, isPaused, plays.playing]
      rw [fires waiting ignored]
      simp [SeeksTo, waiting]
  | false =>
      let searching : PlaybackController :=
        { waiting with wasSeeking := true }
      have attached : searching.Attached :=
        ⟨plays.attached.fragment, plays.attached.stream,
          plays.attached.rebuilt⟩
      have goes :=
        seeksTo_seekWithin_iff attached plays.stream initialized
          controller.currentSkipPos duration target
      obtain ⟨final, sought⟩ :=
        seekWithin_returns attached controller.currentSkipPos duration
      have began :
          (seek controller.currentSkipPos false).run waiting =
            .ok () final := by
        rw [seek_run_of_still ready seeking, if_neg (by simp),
          Int.max_eq_left low, length]
        exact sought
      rw [sought, finalState_ok, Int.min_eq_left high] at goes
      have same :
          controller.SeeksTo { final with currentSkipPos := 0 } target ↔
            searching.SeeksTo final target :=
        Iff.rfl
      rw [fires final began, same, goes]
      simp

end Presses

end PlaybackController

/-- Whenever the runnable fires after presses, its seek goes to the sum of
the presses, if and only if the presses add up. -/
theorem skips_add_up_iff {controller : PlaybackController}
    {position duration : Int}
    (plays : controller.PlaysAt position duration)
    (positive : 0 < position) (noSkip : controller.currentSkipPos = 0)
    {amounts : List Int} (nonempty : amounts ≠ []) :
    (∀ pressed, pressed ≠ [] → pressed <+: amounts →
      (run step controller (pressed.map Event.skip)).SeeksTo
        (step (run step controller (pressed.map Event.skip)) .skipRunnable)
        (sumOfSkips duration position pressed)) ↔
      controller.SkipsAddUp position duration amounts := by
  have length : 0 ≤ duration := by
    obtain ⟨manager, -, -, -, length⟩ := plays.player
    omega
  have exact :
      ∀ pressed, pressed ≠ [] →
        ((run step controller (pressed.map Event.skip)).SeeksTo
          (step (run step controller (pressed.map Event.skip))
            .skipRunnable)
          (sumOfSkips duration position pressed) ↔
          (controller.FollowsProgram → controller.wasSeeking = false) ∧
            markedSum duration (controller.knownPosition position)
              pressed = sumOfSkips duration position pressed) := by
    intro pressed begun
    have summed := plays.presses positive noSkip pressed
    have bounds :=
      markedSum_bounds length (controller.knownPosition position) pressed
    rw [← summed.skip] at bounds
    rw [summed.plays.seeksTo_iff (summed.scheduled begun) bounds.1 bounds.2,
      summed.seeking (Or.inl begun), summed.skip]
  obtain ⟨head, tail, rfl⟩ := List.exists_cons_of_ne_nil nonempty
  constructor
  · intro seeks
    have sums :
        ∀ pressed, pressed ≠ [] → pressed <+: head :: tail →
          markedSum duration (controller.knownPosition position) pressed =
            sumOfSkips duration position pressed :=
      fun pressed begun early =>
        ((exact pressed begun).mp (seeks pressed begun early)).2
    obtain ⟨first, later⟩ := (markedSum_eq_iff _ _ _ _).mp sums
    have once : [head] <+: head :: tail := by
      simp
    have free :=
      (exact [head] (List.cons_ne_nil head [])).mp
        (seeks [head] (List.cons_ne_nil head []) once)
    exact ⟨free.1, first, later⟩
  · intro addUp pressed begun early
    have sums :=
      (markedSum_eq_iff duration (controller.knownPosition position)
        position (head :: tail)).mpr ⟨addUp.first, addUp.later⟩
    exact (exact pressed begun).mpr
      ⟨addUp.free, sums pressed begun early⟩

/-- The first minute of an episode, played at five seconds. -/
def playingEpisode : PlaybackController :=
  run step
    (create ⟨false, false, false, false⟩
      [shortEpisode (shortSource 1 [] none)] 0 none none)
    ([.init (playingAt 0 []) false, .play 0] ++
      opening (shortSource 1 [] none) [] ++
      [.playerChanges (playingAt 5000 [])])

theorem playingEpisode_playsAt : playingEpisode.PlaysAt 5000 60000 where
  player := by
    refine ⟨⟨true, playingAt 5000 [], -1, 60000⟩, ?_⟩
    decide
  playing := by
    decide
  begun := by
    decide
  spinner := by
    decide
  stream := by
    decide
  attached := by
    have kept :
        ∀ (controller : PlaybackController) (event : Event),
          controller.Attached → (step controller event).Attached :=
      fun controller event attached => attached_step attached event
    exact run_preserves kept (attached_create _ _ _ _ _) _

theorem playingEpisode_skipsAddUp :
    playingEpisode.SkipsAddUp 5000 60000 [30000, -10000] := by
  refine ⟨fun _ => by decide, fun msec _ => Or.inl (by decide), ?_⟩
  intro pressed msec begun early atStart
  obtain ⟨first, rest, rfl⟩ := List.exists_cons_of_ne_nil begun
  obtain ⟨rfl, short⟩ := List.cons_prefix_cons.mp early
  have length := short.length_le
  have single : rest = [] := by
    cases rest with
    | nil =>
        rfl
    | cons second rest =>
        simp at length
  subst single
  exact absurd atStart (by decide)

/-- A press forward and one back are added up. -/
theorem two_skips_add_up :
    (run step playingEpisode ([30000, -10000].map Event.skip)).SeeksTo
      (step (run step playingEpisode ([30000, -10000].map Event.skip))
        .skipRunnable)
      (sumOfSkips 60000 5000 [30000, -10000]) :=
  (skips_add_up_iff playingEpisode_playsAt (by decide) (by decide)
    (by decide)).mpr playingEpisode_skipsAddUp [30000, -10000] (by decide)
    (List.prefix_refl _)

/-- A press back to the start is forgotten by the next press forward. -/
theorem rewind_to_start_is_forgotten :
    playingEpisode.PlaysAt 5000 60000 ∧
      sumOfSkips 60000 5000 [-10000, 30000] = 30000 ∧
      (run step playingEpisode
        [.skip (-10000), .skip 30000, .skipRunnable]).calls.getLast? =
          some (.seekTo 35000) := by
  refine ⟨playingEpisode_playsAt, ?_⟩
  decide

end JellyfinTv.Video
