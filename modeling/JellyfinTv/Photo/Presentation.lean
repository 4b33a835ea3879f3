import JellyfinTv.Photo.AlbumCycle

/-!
# The timer of the presentation

Each photo that is shown replaces the job of an active presentation, and the
settings are to stand still: showing them cancels the job, hiding them
launches another one.  Starting the presentation and showing a photo do not
ask for the settings, though, so both launch a job behind them.
-/

namespace JellyfinTv.Photo

open JellyfinTv.Library

variable {UUID : Type}

namespace PhotoPlayer

/-- The calls of the view model, and the job whose delay is over. -/
inductive Event (UUID : Type) where
  | loadItem (api : ApiClient UUID) (id : UUID)
  | startPresentation
  | stopPresentation
  | togglePresentation
  | setSettingsVisible (visible : Bool)
  | showNext
  | showPrevious
  | tick (job : Nat)

def step [DecidableEq UUID] (player : PhotoPlayer UUID) :
    Event UUID → Option (PhotoPlayer UUID)
  | .loadItem api id => some (player.loadItem api id)
  | .startPresentation => some player.startPresentation
  | .stopPresentation => some player.stopPresentation
  | .togglePresentation => some player.togglePresentation
  | .setSettingsVisible visible => some (player.setSettingsVisible visible)
  | .showNext => player.showNext
  | .showPrevious => player.showPrevious
  | .tick job => player.tick job

/-- One job is live while the presentation can be seen, and none otherwise. -/
def OneTimer (player : PhotoPlayer UUID) : Prop :=
  player.liveJobs.length =
    if player.presentationActive && !player.settingsVisible then 1 else 0

/-- Behind the settings the presentation is not started, and an active one
shows no photo.  A call of `showPrevious` that throws shows none. -/
def LeavesSettings (player : PhotoPlayer UUID) : Event UUID → Prop
  | .startPresentation =>
      player.settingsVisible = true → player.presentationActive = true
  | .togglePresentation =>
      player.settingsVisible = true → player.presentationActive = true
  | .showNext =>
      player.settingsVisible = true → player.presentationActive = true →
        player.album = []
  | .showPrevious =>
      player.settingsVisible = true → player.presentationActive = true →
        player.album = [] ∨ player.albumIndex = -1
  | _ => True

/-- What every call keeps: the job that is held is the only one that is live,
and the album is entered at one of its items. -/
structure HoldsJob (player : PhotoPlayer UUID) : Prop where
  live : player.liveJobs = player.presentationJob.toList
  idle : player.presentationActive = false → player.presentationJob = none
  onAlbum :
    player.album ≠ [] →
      ∃ position : Nat, player.albumIndex + 1 = position ∧
        position ≤ player.album.length

/-- Between the calls a presentation that can be seen has a job. -/
structure Sound (player : PhotoPlayer UUID) : Prop
    extends HoldsJob player where
  seen :
    player.presentationActive = true → player.settingsVisible = false →
      player.presentationJob ≠ none

variable {player : PhotoPlayer UUID}

/-- With the job that is held, only the settings can be in the way. -/
theorem Sound.oneTimer_iff (sound : player.Sound) :
    player.OneTimer ↔
      (player.settingsVisible = true → player.presentationJob = none) := by
  have idle := sound.idle
  have seen := sound.seen
  unfold OneTimer
  rw [sound.live]
  cases job : player.presentationJob <;>
    cases active : player.presentationActive <;>
    cases settings : player.settingsVisible <;>
    simp_all

theorem HoldsJob.liveJobs_cancel (holds : player.HoldsJob) :
    player.cancelPresentationJob.liveJobs = [] := by
  have live := holds.live
  unfold cancelPresentationJob
  split
  next missing =>
    rw [live, missing]
    rfl
  next job found =>
    rw [live, found]
    simp

theorem restartPresentation_idle
    (active : player.presentationActive = false) :
    player.restartPresentation = player := by
  rw [restartPresentation, active]
  rfl

theorem restartPresentation_active
    (active : player.presentationActive = true) :
    player.restartPresentation =
      player.cancelPresentationJob.launchPresentationJob := by
  rw [restartPresentation, active]
  rfl

theorem HoldsJob.presentationJob_restart (holds : player.HoldsJob) :
    player.restartPresentation.presentationJob = none ↔
      player.presentationActive = false := by
  cases active : player.presentationActive with
  | false =>
      rw [restartPresentation_idle active]
      exact iff_of_true (holds.idle active) rfl
  | true =>
      rw [restartPresentation_active active]
      exact iff_of_false (Option.some_ne_none _) (by decide)

/-- Restarting a presentation leaves it with one job. -/
theorem HoldsJob.restartPresentation (holds : player.HoldsJob) :
    player.restartPresentation.Sound := by
  constructor
  · constructor
    · cases active : player.presentationActive with
      | false =>
          rw [restartPresentation_idle active]
          exact holds.live
      | true =>
          rw [restartPresentation_active active, launchPresentationJob,
            holds.liveJobs_cancel]
          rfl
    · rw [presentationActive_restartPresentation]
      exact holds.presentationJob_restart.mpr
    · rw [album_restartPresentation, albumIndex_restartPresentation]
      exact holds.onAlbum
  · rw [presentationActive_restartPresentation]
    intro active _ missing
    rw [holds.presentationJob_restart.mp missing] at active
    exact Bool.false_ne_true active

theorem HoldsJob.oneTimer_restart (holds : player.HoldsJob) :
    player.restartPresentation.OneTimer ↔
      (player.settingsVisible = true → player.presentationActive = false)
    := by
  rw [holds.restartPresentation.oneTimer_iff,
    settingsVisible_restartPresentation, holds.presentationJob_restart]

theorem Sound.startPresentation (sound : player.Sound) :
    player.startPresentation.Sound := by
  unfold PhotoPlayer.startPresentation
  split
  case isTrue active =>
    exact sound
  case isFalse inactive =>
    rw [Bool.not_eq_true] at inactive
    have missing := sound.idle inactive
    constructor
    · constructor
      · simp [launchPresentationJob, sound.live, missing]
      · intro idle
        exact absurd idle Bool.noConfusion
      · exact sound.onAlbum
    · intro _ _
      exact Option.some_ne_none _

theorem Sound.stopPresentation (sound : player.Sound) :
    player.stopPresentation.Sound := by
  unfold PhotoPlayer.stopPresentation
  split
  case isTrue inactive =>
    exact sound
  case isFalse active =>
    constructor
    · constructor
      · exact sound.liveJobs_cancel
      · intro _
        rfl
      · simpa using sound.onAlbum
    · intro running
      exact absurd running Bool.noConfusion

theorem Sound.togglePresentation (sound : player.Sound) :
    player.togglePresentation.Sound := by
  unfold PhotoPlayer.togglePresentation
  split
  · exact sound.stopPresentation
  · exact sound.startPresentation

theorem HoldsJob.settings (holds : player.HoldsJob) (visible : Bool) :
    { player with settingsVisible := visible }.HoldsJob := by
  exact ⟨holds.live, holds.idle, holds.onAlbum⟩

theorem Sound.setSettingsVisible (sound : player.Sound) (visible : Bool) :
    (player.setSettingsVisible visible).Sound := by
  have holds := sound.toHoldsJob.settings visible
  cases visible with
  | false =>
      exact holds.restartPresentation
  | true =>
      constructor
      · constructor
        · exact holds.liveJobs_cancel
        · intro _
          rfl
        · simpa [PhotoPlayer.setSettingsVisible] using sound.onAlbum
      · intro _ hidden
        simp [PhotoPlayer.setSettingsVisible] at hidden

/-- A photo that is shown restarts the presentation. -/
theorem Sound.showAt {after : PhotoPlayer UUID} {position : Nat}
    (sound : player.Sound) (shown : player.showAt position = some after) :
    after.Sound ∧
      (after.OneTimer ↔
        (player.settingsVisible = true →
          player.presentationActive = false)) := by
  obtain ⟨item, found, rfl⟩ := Option.map_eq_some_iff.mp shown
  rw [itemAt_natCast] at found
  obtain ⟨inside, _⟩ := List.getElem?_eq_some_iff.mp found
  have holds :
      { player with
        albumIndex := position
        currentItem := some item }.HoldsJob :=
    ⟨sound.live, sound.idle, fun _ => ⟨position + 1, rfl, inside⟩⟩
  exact ⟨holds.restartPresentation, holds.oneTimer_restart⟩

theorem showNext_empty (empty : player.album = []) :
    player.showNext = some player := by
  rw [PhotoPlayer.showNext, empty]
  rfl

theorem showPrevious_empty (empty : player.album = []) :
    player.showPrevious = some player := by
  rw [PhotoPlayer.showPrevious, empty]
  rfl

/-- An album without photos leaves the player as it is.  A photo that is
shown leaves one timer unless it launches a job behind the settings. -/
def Shows (player after : PhotoPlayer UUID) : Prop :=
  player.album = [] ∧ after = player ∨
    player.album ≠ [] ∧ after.Sound ∧
      (after.OneTimer ↔
        (player.settingsVisible = true →
          player.presentationActive = false))

/-- A call of `showNext` that does not throw. -/
theorem Sound.showNext_cases {after : PhotoPlayer UUID}
    (sound : player.Sound) (moves : player.showNext = some after) :
    player.Shows after := by
  by_cases empty : player.album = []
  · rw [showNext_empty empty] at moves
    exact Or.inl ⟨empty, (Option.some.inj moves).symm⟩
  · obtain ⟨position, index, atMost⟩ := sound.onAlbum empty
    rw [showNext_eq_showAt empty index atMost] at moves
    exact Or.inr ⟨empty, sound.showAt moves⟩

theorem Sound.showPrevious_cases {after : PhotoPlayer UUID}
    (sound : player.Sound) (moves : player.showPrevious = some after) :
    player.Shows after := by
  by_cases empty : player.album = []
  · rw [showPrevious_empty empty] at moves
    exact Or.inl ⟨empty, (Option.some.inj moves).symm⟩
  · obtain ⟨position, index, atMost⟩ := sound.onAlbum empty
    cases position with
    | zero =>
        have missing : player.albumIndex = -1 := by
          omega
        rw [showPrevious_of_missing empty missing] at moves
        exact absurd moves.symm (Option.some_ne_none after)
    | succ position =>
        have found : player.albumIndex = position := by
          omega
        rw [showPrevious_eq_showAt found atMost] at moves
        exact Or.inr ⟨empty, sound.showAt moves⟩

/-- On an album that was entered, `showNext` does not throw. -/
theorem Sound.exists_showNext (sound : player.Sound) :
    ∃ after, player.showNext = some after := by
  by_cases empty : player.album = []
  · exact ⟨player, showNext_empty empty⟩
  · obtain ⟨position, index, atMost⟩ := sound.onAlbum empty
    obtain ⟨after, moved, _⟩ := showsAt_showNext empty index atMost
    exact ⟨after, moved⟩

theorem Sound.exists_showPrevious (sound : player.Sound)
    (found : player.albumIndex ≠ -1) :
    ∃ after, player.showPrevious = some after := by
  by_cases empty : player.album = []
  · exact ⟨player, showPrevious_empty empty⟩
  · obtain ⟨position, index, atMost⟩ := sound.onAlbum empty
    cases position with
    | zero =>
        exact absurd (by omega) found
    | succ position =>
        have here : player.albumIndex = position := by
          omega
        obtain ⟨after, moved, _⟩ := showsAt_showPrevious here atMost
        exact ⟨after, moved⟩

/-- The timers are right after every call that does not throw, unless a photo
is shown by an active presentation behind the settings. -/
theorem oneTimer_shown_iff (held : player.OneTimer)
    {result : Option (PhotoPlayer UUID)} {missing : Prop}
    (shown : ∀ after, result = some after → player.Shows after)
    (returns : ¬missing → ∃ after, result = some after)
    (throws : player.album ≠ [] → missing → result = none) :
    (∀ after, result = some after → after.OneTimer) ↔
      (player.settingsVisible = true → player.presentationActive = true →
        player.album = [] ∨ missing) := by
  constructor
  · intro timers visible active
    by_contra neither
    rw [not_or] at neither
    obtain ⟨after, moved⟩ := returns neither.2
    rcases shown after moved with ⟨empty, _⟩ | ⟨_, _, timer⟩
    · exact neither.1 empty
    · have idle := timer.mp (timers after moved) visible
      rw [active] at idle
      exact absurd idle Bool.noConfusion
  · intro guarded after moved
    rcases shown after moved with ⟨_, rfl⟩ | ⟨listed, _, timer⟩
    · exact held
    · apply timer.mpr
      intro visible
      rw [← Bool.not_eq_true]
      intro active
      rcases guarded visible active with empty | gone
      · exact listed empty
      · rw [throws listed gone] at moved
        exact absurd moved.symm (Option.some_ne_none after)

theorem Sound.oneTimer_startPresentation (sound : player.Sound)
    (held : player.OneTimer) :
    player.startPresentation.OneTimer ↔
      (player.settingsVisible = true → player.presentationActive = true)
    := by
  cases active : player.presentationActive with
  | true =>
      have kept : player.startPresentation = player := by
        rw [PhotoPlayer.startPresentation, active]
        rfl
      rw [kept]
      exact iff_of_true held fun _ => rfl
  | false =>
      have started :
          player.startPresentation =
            { player with
              presentationActive := true }.launchPresentationJob := by
        rw [PhotoPlayer.startPresentation, active]
        rfl
      rw [sound.startPresentation.oneTimer_iff, started]
      simp [launchPresentationJob]

theorem Sound.oneTimer_stopPresentation (sound : player.Sound)
    (held : player.OneTimer) : player.stopPresentation.OneTimer := by
  cases active : player.presentationActive with
  | false =>
      have kept : player.stopPresentation = player := by
        rw [PhotoPlayer.stopPresentation, active]
        rfl
      rw [kept]
      exact held
  | true =>
      apply sound.stopPresentation.oneTimer_iff.mpr
      intro _
      rw [PhotoPlayer.stopPresentation, active]
      rfl

theorem Sound.oneTimer_setSettingsVisible (sound : player.Sound)
    (visible : Bool) : (player.setSettingsVisible visible).OneTimer := by
  cases visible with
  | false =>
      apply (sound.toHoldsJob.settings false).oneTimer_restart.mpr
      intro shown
      exact absurd shown Bool.false_ne_true
  | true =>
      apply (sound.setSettingsVisible true).oneTimer_iff.mpr
      intro _
      rfl

theorem Sound.oneTimer_togglePresentation (sound : player.Sound)
    (held : player.OneTimer) :
    player.togglePresentation.OneTimer ↔
      (player.settingsVisible = true → player.presentationActive = true)
    := by
  unfold PhotoPlayer.togglePresentation
  split
  case isTrue active =>
    exact
      iff_of_true (sound.oneTimer_stopPresentation held) fun _ => active
  case isFalse inactive =>
    exact sound.oneTimer_startPresentation held

/-- Only the job of a presentation that can be seen can tick. -/
theorem OneTimer.of_mem (held : player.OneTimer) {job : Nat}
    (member : job ∈ player.liveJobs) :
    player.presentationActive = true ∧ player.settingsVisible = false := by
  have some : 0 < player.liveJobs.length := List.length_pos_of_mem member
  rw [held] at some
  cases active : player.presentationActive <;>
    cases settings : player.settingsVisible <;>
    simp_all

section Steps

variable [DecidableEq UUID]

theorem Sound.loadItem (sound : player.Sound) (api : ApiClient UUID)
    (id : UUID) : (player.loadItem api id).Sound := by
  have entered := exists_index_loadItem player api id
  have kept :
      ∃ album index item,
        player.loadItem api id =
          { player with
            album := album
            albumIndex := index
            currentItem := item } := by
    unfold PhotoPlayer.loadItem
    dsimp only
    split
    · exact ⟨_, _, _, rfl⟩
    · exact ⟨_, _, _, rfl⟩
  obtain ⟨album, index, item, loaded⟩ := kept
  rw [loaded] at entered ⊢
  exact ⟨⟨sound.live, sound.idle, fun _ => entered⟩, sound.seen⟩

theorem Sound.step {after : PhotoPlayer UUID} {event : Event UUID}
    (sound : player.Sound) (moves : player.step event = some after) :
    after.Sound := by
  cases event with
  | loadItem api id =>
      obtain rfl := Option.some.inj moves
      exact sound.loadItem api id
  | startPresentation =>
      obtain rfl := Option.some.inj moves
      exact sound.startPresentation
  | stopPresentation =>
      obtain rfl := Option.some.inj moves
      exact sound.stopPresentation
  | togglePresentation =>
      obtain rfl := Option.some.inj moves
      exact sound.togglePresentation
  | setSettingsVisible visible =>
      obtain rfl := Option.some.inj moves
      exact sound.setSettingsVisible visible
  | showNext =>
      rcases sound.showNext_cases moves with ⟨_, rfl⟩ | ⟨_, kept, _⟩
      · exact sound
      · exact kept
  | showPrevious =>
      rcases sound.showPrevious_cases moves with ⟨_, rfl⟩ | ⟨_, kept, _⟩
      · exact sound
      · exact kept
  | tick job =>
      rw [PhotoPlayer.step, tick] at moves
      split at moves
      · rcases sound.showNext_cases moves with ⟨_, rfl⟩ | ⟨_, kept, _⟩
        · exact sound
        · exact kept
      · obtain rfl := Option.some.inj moves
        exact sound

/-- The guard is exact for every step. -/
theorem Sound.oneTimer_step_iff {event : Event UUID}
    (sound : player.Sound) (held : player.OneTimer) :
    (∀ after, player.step event = some after → after.OneTimer) ↔
      player.LeavesSettings event := by
  cases event with
  | loadItem api id =>
      apply iff_of_true _ trivial
      rintro after ⟨⟩
      unfold OneTimer PhotoPlayer.loadItem
      dsimp only
      split
      · exact held
      · exact held
  | startPresentation =>
      have started := sound.oneTimer_startPresentation held
      constructor
      · intro timers
        exact started.mp (timers _ rfl)
      · rintro guarded after ⟨⟩
        exact started.mpr guarded
  | stopPresentation =>
      apply iff_of_true _ trivial
      rintro after ⟨⟩
      exact sound.oneTimer_stopPresentation held
  | togglePresentation =>
      have toggled := sound.oneTimer_togglePresentation held
      constructor
      · intro timers
        exact toggled.mp (timers _ rfl)
      · rintro guarded after ⟨⟩
        exact toggled.mpr guarded
  | setSettingsVisible visible =>
      apply iff_of_true _ trivial
      rintro after ⟨⟩
      exact sound.oneTimer_setSettingsVisible visible
  | showNext =>
      have shown :
          (∀ after, player.showNext = some after → after.OneTimer) ↔
            (player.settingsVisible = true →
              player.presentationActive = true →
                player.album = [] ∨ False) :=
        oneTimer_shown_iff held (fun _ => sound.showNext_cases)
          (fun _ => sound.exists_showNext) (fun _ => False.elim)
      simp only [or_false] at shown
      exact shown
  | showPrevious =>
      exact oneTimer_shown_iff held (fun _ => sound.showPrevious_cases)
        sound.exists_showPrevious showPrevious_of_missing
  | tick job =>
      apply iff_of_true _ trivial
      intro after moves
      rw [PhotoPlayer.step, tick] at moves
      split at moves
      case isTrue member =>
        obtain ⟨_, hidden⟩ := held.of_mem member
        rcases sound.showNext_cases moves with ⟨_, rfl⟩ | ⟨_, _, timer⟩
        · exact held
        · apply timer.mpr
          intro visible
          rw [hidden] at visible
          exact absurd visible Bool.false_ne_true
      case isFalse gone =>
        obtain rfl := Option.some.inj moves
        exact held

end Steps

theorem sound_created : (created : PhotoPlayer UUID).Sound := by
  constructor
  · constructor
    · rfl
    · intro _
      rfl
    · intro listed
      exact absurd rfl listed
  · intro active
    exact absurd active Bool.false_ne_true

/-- There is one timer for a presentation that can be seen, and none
otherwise, exactly as long as nothing is started or shown behind the
settings. -/
theorem one_timer_iff [DecidableEq UUID] (events : List (Event UUID)) :
    (∀ early, early <+: events → ∀ reached,
        run (fallible step) (some created) early = some reached →
          reached.OneTimer) ↔
      Admitted (fallible step) (WhileRunning LeavesSettings) (some created)
        events := by
  have kept :
      ∀ (player : PhotoPlayer UUID) event after, player.Sound →
        player.step event = some after → after.Sound :=
    fun _ _ _ sound moves => sound.step moves
  have exact :
      ∀ (player : PhotoPlayer UUID) event, player.Sound →
        player.OneTimer →
          ((∀ after, player.step event = some after → after.OneTimer) ↔
            player.LeavesSettings event) :=
    fun _ _ sound held => sound.oneTimer_step_iff held
  exact fallible_throughout_iff_admitted kept exact sound_created rfl

/-- The next photo is shown behind the settings. -/
theorem next_behind_settings_ticks :
    ∃ reached,
      run (fallible step) (some (created : PhotoPlayer Nat))
          [.loadItem otherAlbum 2, .startPresentation,
            .setSettingsVisible true, .showNext] =
        some reached ∧
      ¬reached.OneTimer := by
  refine ⟨_, rfl, ?_⟩
  unfold OneTimer
  decide

end PhotoPlayer

end JellyfinTv.Photo
