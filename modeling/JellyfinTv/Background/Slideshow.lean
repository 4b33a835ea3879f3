import Mathlib.Data.List.ReduceOption
import JellyfinTv.Background.BackgroundService
import JellyfinTv.Library.Chains

/-!
# The slideshow

The backgrounds of a request that nothing has followed are shown in turn,
from the first one on and again from the start after the last one.  An
update that was put off happens when its timer does, so a request shows its
first background in any case.
-/

namespace JellyfinTv.Background.BackgroundService

open JellyfinTv.Library

variable {Url ImageBitmap : Type} {service : BackgroundService Url ImageBitmap}

/-- The update is put off, with a timer for the end of the transition, or it
happens. -/
theorem update_cases (service : BackgroundService Url ImageBitmap) :
    (service.update =
        { service with
          updateBackgroundTimerJob :=
            some
              ⟨service.lastBackgroundTimerUpdate + TRANSITION_DURATION,
                false⟩ } ∧
      service.now < service.lastBackgroundTimerUpdate + TRANSITION_DURATION) ∨
    (service.update = service.showCurrent ∧
      service.lastBackgroundTimerUpdate + TRANSITION_DURATION ≤
        service.now) := by
  by_cases early :
      service.now - TRANSITION_DURATION < service.lastBackgroundTimerUpdate
  · left
    have due :
        service.now +
            (service.lastBackgroundTimerUpdate - service.now +
              TRANSITION_DURATION) =
          service.lastBackgroundTimerUpdate + TRANSITION_DURATION := by
      omega
    refine ⟨?_, by omega⟩
    rw [update, if_pos early, setTimer, due]
  · right
    exact ⟨if_neg early, by omega⟩

theorem showCurrent_eq (service : BackgroundService Url ImageBitmap) :
    service.showCurrent =
      let currentIndex :=
        if service.backgrounds.length ≤ service.currentIndex then 0
        else service.currentIndex
      { service with
        lastBackgroundTimerUpdate := service.now
        currentIndex := currentIndex
        currentBackground := service.backgrounds[currentIndex]?
        shown :=
          service.shown ++
            [(service.now, service.backgrounds[currentIndex]?)]
        updateBackgroundTimerJob :=
          if 1 < service.backgrounds.length then
            some ⟨service.now + SLIDESHOW_DURATION, true⟩
          else
            none } := by
  unfold showCurrent
  dsimp only
  split <;> rfl

/-- The changes so far are apart, and the last one is what is shown. -/
structure Recorded (service : BackgroundService Url ImageBitmap) : Prop where
  apart :
    service.shown.IsChain fun first second =>
      first.1 + TRANSITION_DURATION ≤ second.1
  last :
    ∀ change ∈ service.shown.getLast?,
      change.1 = service.lastBackgroundTimerUpdate
  current :
    service.currentBackground = service.shown.getLast?.bind Prod.snd
  clock : service.lastBackgroundTimerUpdate ≤ service.now

theorem recorded_created (now : Nat) :
    (created now : BackgroundService Url ImageBitmap).Recorded where
  apart := List.isChain_nil
  last := by
    intro change member
    cases member
  current := rfl
  clock := Int.natCast_nonneg now

theorem Recorded.update (recorded : service.Recorded) :
    service.update.Recorded := by
  obtain ⟨same, -⟩ | ⟨same, late⟩ := update_cases service
  · rw [same]
    exact ⟨recorded.apart, recorded.last, recorded.current, recorded.clock⟩
  · rw [same, showCurrent_eq]
    refine ⟨?_, ?_, ?_, Int.le_refl _⟩
    · refine List.isChain_append.mpr
        ⟨recorded.apart, List.isChain_singleton _, ?_⟩
      intro earlier member change here
      have time := recorded.last earlier member
      rw [List.head?_cons, Option.mem_some_iff] at here
      rw [← here, time]
      exact late
    · intro change member
      rw [List.getLast?_concat, Option.mem_some_iff] at member
      rw [← member]
    · rw [List.getLast?_concat]
      rfl

theorem Recorded.frame {other : BackgroundService Url ImageBitmap}
    (recorded : service.Recorded) (later : service.now ≤ other.now)
    (shown : other.shown = service.shown)
    (last :
      other.lastBackgroundTimerUpdate = service.lastBackgroundTimerUpdate)
    (current : other.currentBackground = service.currentBackground) :
    other.Recorded := by
  refine ⟨?_, ?_, ?_, ?_⟩
  · rw [shown]
    exact recorded.apart
  · rw [shown, last]
    exact recorded.last
  · rw [shown, current]
    exact recorded.current
  · rw [last]
    exact Int.le_trans recorded.clock later

theorem Recorded.clearBackgrounds (recorded : service.Recorded) :
    service.clearBackgrounds.Recorded := by
  unfold BackgroundService.clearBackgrounds
  dsimp only
  split
  · exact recorded.frame (Int.le_refl _) rfl rfl rfl
  · exact Recorded.update (recorded.frame (Int.le_refl _) rfl rfl rfl)

theorem Recorded.loadBackgrounds (recorded : service.Recorded)
    (backdropUrls : List Url) :
    (service.loadBackgrounds backdropUrls).Recorded := by
  cases backdropUrls with
  | nil =>
      exact recorded.clearBackgrounds
  | cons url remaining =>
      exact recorded.frame (Int.le_refl _) rfl rfl rfl

theorem Recorded.imageAnswered (recorded : service.Recorded)
    (image : Option ImageBitmap) :
    (service.imageAnswered image).Recorded := by
  unfold BackgroundService.imageAnswered
  split
  · exact recorded
  · dsimp only
    split
    · exact Recorded.update (recorded.frame (Int.le_refl _) rfl rfl rfl)
    · exact recorded.frame (Int.le_refl _) rfl rfl rfl

theorem Recorded.timerFires (recorded : service.Recorded) :
    service.timerFires.Recorded := by
  unfold BackgroundService.timerFires
  split
  · exact recorded
  · split
    · exact Recorded.update (recorded.frame (Int.le_refl _) rfl rfl rfl)
    · exact recorded

theorem Recorded.step [DecidableEq Url] (recorded : service.Recorded)
    (event : Event Url ImageBitmap) : (step service event).Recorded := by
  cases event with
  | setBackground backdrops backdropBehavior =>
      simp only [BackgroundService.step, setBackground]
      split
      · exact recorded.clearBackgrounds
      · split
        · exact recorded.clearBackgrounds
        · refine Recorded.loadBackgrounds ?_ _
          exact recorded.frame (Int.le_refl _) rfl rfl rfl
  | setServerBackground splashscreenEnabled splashscreenUrl
      backdropBehavior =>
      simp only [BackgroundService.step, setServerBackground]
      split
      · exact recorded.clearBackgrounds
      · split
        · exact recorded.clearBackgrounds
        · refine Recorded.loadBackgrounds ?_ _
          exact recorded.frame (Int.le_refl _) rfl rfl rfl
  | clearBackgrounds =>
      exact recorded.clearBackgrounds
  | disable =>
      exact recorded.frame (Int.le_refl _) rfl rfl rfl
  | imageAnswered image =>
      exact recorded.imageAnswered image
  | pass milliseconds =>
      refine recorded.frame ?_ rfl rfl rfl
      exact Int.le_add_of_nonneg_right (Int.natCast_nonneg milliseconds)
  | timerFires =>
      exact recorded.timerFires

/-! ## One request -/

/-- The urls that a request loads, with the blur that it asks for, if it does
not clear the backgrounds instead. -/
def Event.asks [DecidableEq Url] :
    Event Url ImageBitmap → Option (Bool × Url × List Url)
  | .setBackground (some urls) backdropBehavior =>
      match urls.eraseDups with
      | [] => none
      | url :: remaining =>
          if backdropBehavior = .DISABLED then none
          else
            some (backdropBehavior = .BACKDROP_WITH_BLUR, url, remaining)
  | .setServerBackground splashscreenEnabled splashscreenUrl
      backdropBehavior =>
      if backdropBehavior = .DISABLED || !splashscreenEnabled then none
      else some (false, splashscreenUrl, [])
  | _ => none

theorem step_of_asks [DecidableEq Url] {request : Event Url ImageBitmap}
    {blur : Bool} {url : Url} {remaining : List Url}
    (asks : request.asks = some (blur, url, remaining)) :
    step service request =
      { service with
        blurBackground := blur
        enabled := true
        loadBackgroundsJob := some ⟨url, remaining, []⟩ } := by
  cases request with
  | setBackground backdrops backdropBehavior =>
      cases backdrops with
      | none =>
          cases asks
      | some urls =>
          rw [Event.asks] at asks
          split at asks
          · cases asks
          · rename_i distinct
            split at asks
            · cases asks
            · rename_i behaves
              cases asks
              simp only [step, setBackground, if_neg behaves, distinct]
              rfl
  | setServerBackground splashscreenEnabled splashscreenUrl
      backdropBehavior =>
      rw [Event.asks] at asks
      split at asks
      · cases asks
      · rename_i allowed
        cases asks
        rw [Bool.or_eq_true, not_or, decide_eq_true_iff] at allowed
        simp only [step, setServerBackground, if_neg allowed.1,
          if_neg allowed.2]
        rfl
  | clearBackgrounds | disable | imageAnswered _ | pass _ | timerFires =>
      cases asks

/-- What happens while nobody calls the service. -/
def Event.IsQuiet : Event Url ImageBitmap → Prop
  | .imageAnswered _ | .pass _ | .timerFires => True
  | _ => False

def answers (events : List (Event Url ImageBitmap)) :
    List (Option ImageBitmap) :=
  events.filterMap fun event =>
    match event with
    | .imageAnswered image => some image
    | _ => none

theorem update_frame (service : BackgroundService Url ImageBitmap) :
    service.update.loadBackgroundsJob = service.loadBackgroundsJob ∧
      service.update.backgrounds = service.backgrounds ∧
        service.update.blurBackground = service.blurBackground ∧
          service.update.enabled = service.enabled := by
  obtain ⟨same, -⟩ | ⟨same, -⟩ := update_cases service
  · rw [same]
    exact ⟨rfl, rfl, rfl, rfl⟩
  · rw [same, showCurrent_eq]
    exact ⟨rfl, rfl, rfl, rfl⟩

theorem timerFires_frame (service : BackgroundService Url ImageBitmap) :
    service.timerFires.loadBackgroundsJob = service.loadBackgroundsJob ∧
      service.timerFires.backgrounds = service.backgrounds ∧
        service.timerFires.blurBackground = service.blurBackground ∧
          service.timerFires.enabled = service.enabled := by
  unfold timerFires
  split
  · exact ⟨rfl, rfl, rfl, rfl⟩
  · split
    · exact update_frame _
    · exact ⟨rfl, rfl, rfl, rfl⟩

/-- How the backgrounds look is left alone while nobody calls. -/
theorem look_of_isQuiet [DecidableEq Url] {event : Event Url ImageBitmap}
    (quiet : event.IsQuiet) :
    (step service event).blurBackground = service.blurBackground ∧
      (step service event).enabled = service.enabled := by
  cases event with
  | imageAnswered image =>
      simp only [step, imageAnswered]
      split
      · exact ⟨rfl, rfl⟩
      · split
        · obtain ⟨-, -, blurred, enabled⟩ := update_frame _
          exact ⟨blurred, enabled⟩
        · exact ⟨rfl, rfl⟩
  | pass milliseconds =>
      exact ⟨rfl, rfl⟩
  | timerFires =>
      obtain ⟨-, -, blurred, enabled⟩ := timerFires_frame service
      exact ⟨blurred, enabled⟩
  | setBackground _ _ | setServerBackground _ _ _ | clearBackgrounds
  | disable =>
      exact quiet.elim

/-- The job of a request that has been answered up to now. -/
def Loading (urls : List Url) (answered : List (Option ImageBitmap))
    (service : BackgroundService Url ImageBitmap) : Prop :=
  ∃ url remaining,
    urls.drop answered.length = url :: remaining ∧
      service.loadBackgroundsJob =
        some ⟨url, remaining, answered.reduceOption⟩

theorem Loading.answered {urls : List Url}
    {answered : List (Option ImageBitmap)}
    (loading : Loading urls answered service) (image : Option ImageBitmap)
    (more : answered.length + 1 < urls.length) :
    Loading urls (answered ++ [image]) (service.imageAnswered image) := by
  obtain ⟨url, remaining, left, job⟩ := loading
  have rest : urls.drop (answered.length + 1) = remaining := by
    rw [← List.drop_drop, left, List.drop_one, List.tail_cons]
  cases shape : remaining with
  | nil =>
      rw [shape, List.drop_eq_nil_iff] at rest
      omega
  | cons next others =>
      refine ⟨next, others, ?_, ?_⟩
      · rw [List.length_append, List.length_singleton, rest, shape]
      · rw [imageAnswered, job, shape, List.reduceOption_append,
          List.reduceOption_singleton]

theorem loading_run [DecidableEq Url] {urls : List Url}
    {events : List (Event Url ImageBitmap)}
    {answered : List (Option ImageBitmap)}
    (loading : Loading urls answered service)
    (quiet : ∀ event ∈ events, event.IsQuiet)
    (more : answered.length + (answers events).length < urls.length) :
    Loading urls (answered ++ answers events) (run step service events) := by
  induction events generalizing service answered with
  | nil =>
      rw [answers, List.filterMap_nil, List.append_nil]
      exact loading
  | cons event rest inductionHypothesis =>
      obtain ⟨silent, later⟩ := List.forall_mem_cons.mp quiet
      cases event with
      | imageAnswered image =>
          have split :
              answers (.imageAnswered image :: rest) = image :: answers rest :=
            rfl
          rw [split, List.length_cons] at more
          have next := loading.answered image (by omega)
          rw [split, List.append_cons]
          refine inductionHypothesis next later ?_
          rw [List.length_append, List.length_singleton]
          omega
      | pass milliseconds =>
          exact inductionHypothesis loading later more
      | timerFires =>
          obtain ⟨url, remaining, left, job⟩ := loading
          have same := (timerFires_frame service).1
          exact inductionHypothesis ⟨url, remaining, left, same.trans job⟩
            later more
      | setBackground _ _ | setServerBackground _ _ _ | clearBackgrounds
      | disable =>
          exact silent.elim

/-! ## The turn -/

/-- Showing the images one after another at these times, and the first one
again after the last. -/
def inTurn (images : List ImageBitmap) (times : List Int) :
    List (Int × Option ImageBitmap) :=
  times.mapIdx fun position time => (time, images[position % images.length]?)

/-- The images are loaded; they wait for the end of a transition, or they
have been shown at the times and the next one is due. -/
structure Turning (images : List ImageBitmap)
    (early : List (Int × Option ImageBitmap)) (times : List Int)
    (service : BackgroundService Url ImageBitmap) : Prop where
  idle : service.loadBackgroundsJob = none
  backgrounds : service.backgrounds = images
  shown : service.shown = early ++ inTurn images times
  apart : times.IsChain fun first second => first + SLIDESHOW_DURATION ≤ second
  waits :
    times = [] →
      service.currentIndex = 0 ∧
        service.updateBackgroundTimerJob =
          some
            ⟨service.lastBackgroundTimerUpdate + TRANSITION_DURATION, false⟩
  shows :
    ∀ time ∈ times.getLast?,
      service.lastBackgroundTimerUpdate = time ∧
        service.currentIndex = (times.length - 1) % images.length ∧
          service.updateBackgroundTimerJob =
            if 1 < images.length then
              some ⟨time + SLIDESHOW_DURATION, true⟩
            else
              none

section Turn

variable {images : List ImageBitmap} {early : List (Int × Option ImageBitmap)}
  {times : List Int}

theorem inTurn_concat (images : List ImageBitmap) (times : List Int)
    (time : Int) :
    inTurn images (times ++ [time]) =
      inTurn images times ++ [(time, images[times.length % images.length]?)] :=
  List.mapIdx_concat

theorem turning_showCurrent {now : Int} (clock : service.now = now)
    (idle : service.loadBackgroundsJob = none)
    (backgrounds : service.backgrounds = images)
    (shown : service.shown = early ++ inTurn images times)
    (apart :
      times.IsChain fun first second => first + SLIDESHOW_DURATION ≤ second)
    (late : ∀ time ∈ times.getLast?, time + SLIDESHOW_DURATION ≤ now)
    (index :
      (if images.length ≤ service.currentIndex then 0
        else service.currentIndex) = times.length % images.length) :
    Turning images early (times ++ [now]) service.showCurrent := by
  rw [showCurrent_eq]
  refine ⟨idle, backgrounds, ?_, ?_, ?_, ?_⟩
  · dsimp only
    rw [backgrounds, index, shown, clock, inTurn_concat, List.append_assoc]
  · refine List.isChain_append.mpr ⟨apart, List.isChain_singleton _, ?_⟩
    intro time member last here
    rw [List.head?_cons, Option.mem_some_iff] at here
    rw [← here]
    exact late time member
  · intro none
    exact absurd none (List.concat_ne_nil now times)
  · intro time member
    rw [List.getLast?_concat, Option.mem_some_iff] at member
    dsimp only
    rw [backgrounds, index, clock, ← member, List.length_append,
      List.length_singleton, Nat.add_sub_cancel]
    exact ⟨rfl, rfl, rfl⟩

/-- The index goes from the last background to the first one. -/
theorem next_index {count : Nat} (several : 1 < count) (position : Nat) :
    (if count ≤ position % count + 1 then 0 else position % count + 1) =
      (position + 1) % count := by
  have inside := Nat.mod_lt position (Nat.zero_lt_of_lt several)
  rw [← Nat.mod_add_mod]
  split
  · have last : position % count + 1 = count := by
      omega
    rw [last, Nat.mod_self]
  · exact (Nat.mod_eq_of_lt (by omega)).symm

/-- The last answer of a request begins a turn. -/
theorem turning_of_update (idle : service.loadBackgroundsJob = none)
    (backgrounds : service.backgrounds = images)
    (first : service.currentIndex = 0) (shown : service.shown = early) :
    ∃ times, Turning images early times service.update := by
  obtain ⟨same, -⟩ | ⟨same, -⟩ := update_cases service
  · refine ⟨[], ?_⟩
    rw [same]
    refine ⟨idle, backgrounds, ?_, List.isChain_nil, fun _ => ⟨first, rfl⟩, ?_⟩
    · rw [inTurn, List.mapIdx_nil, List.append_nil]
      exact shown
    intro time member
    cases member
  · refine ⟨[] ++ [service.now], ?_⟩
    rw [same]
    refine turning_showCurrent rfl idle backgrounds ?_ List.isChain_nil ?_ ?_
    · rw [inTurn, List.mapIdx_nil, List.append_nil]
      exact shown
    · intro time member
      cases member
    · rw [first, ite_self, List.length_nil, Nat.zero_mod]

/-- A timer that is due updates the backgrounds once the transition is
over. -/
theorem timerFires_of_due {job : TimerJob}
    (timer : service.updateBackgroundTimerJob = some job)
    (due : job.due ≤ service.now)
    (late :
      service.lastBackgroundTimerUpdate + TRANSITION_DURATION ≤ service.now) :
    service.timerFires =
      { service with
        updateBackgroundTimerJob := none
        currentIndex :=
          if job.increaseIndex then service.currentIndex + 1
          else service.currentIndex }.showCurrent := by
  rw [BackgroundService.timerFires, timer]
  dsimp only
  rw [if_pos due]
  refine if_neg ?_
  dsimp only
  omega

theorem Turning.timerFires (turning : Turning images early times service) :
    Turning images early times service.timerFires ∨
      Turning images early (times ++ [service.now]) service.timerFires := by
  cases timer : service.updateBackgroundTimerJob with
  | none =>
      rw [BackgroundService.timerFires, timer]
      exact Or.inl turning
  | some job =>
      by_cases due : job.due ≤ service.now
      · right
        rcases List.eq_nil_or_concat times with none | ⟨before, time, last⟩
        · obtain ⟨first, waiting⟩ := turning.waits none
          rw [timer, Option.some_inj] at waiting
          subst waiting
          rw [timerFires_of_due timer due due]
          apply turning_showCurrent
          · rfl
          · exact turning.idle
          · exact turning.backgrounds
          · exact turning.shown
          · exact turning.apart
          · rw [none]
            intro time member
            cases member
          · rw [none]
            simp [first]
        · have member : time ∈ times.getLast? := by
            rw [last, List.concat_eq_append, List.getLast?_concat]
            rfl
          obtain ⟨updated, index, next⟩ := turning.shows time member
          rw [timer] at next
          split at next
          · rename_i several
            rw [Option.some_inj] at next
            subst next
            have late :
                service.lastBackgroundTimerUpdate + TRANSITION_DURATION ≤
                  service.now := by
              rw [updated]
              simp only [TRANSITION_DURATION, SLIDESHOW_DURATION] at due ⊢
              omega
            rw [timerFires_of_due timer due late]
            apply turning_showCurrent
            · rfl
            · exact turning.idle
            · exact turning.backgrounds
            · exact turning.shown
            · exact turning.apart
            · intro other here
              rw [Option.mem_unique here member]
              exact due
            · dsimp only
              rw [if_pos rfl, index, next_index several, last,
                List.concat_eq_append, List.length_append,
                List.length_singleton, Nat.add_sub_cancel]
          · cases next
      · rw [BackgroundService.timerFires, timer]
        dsimp only
        rw [if_neg due]
        exact Or.inl turning

theorem Turning.step [DecidableEq Url] {event : Event Url ImageBitmap}
    (turning : Turning images early times service) (quiet : event.IsQuiet) :
    ∃ more, Turning images early (times ++ more) (step service event) := by
  cases event with
  | imageAnswered image =>
      refine ⟨[], ?_⟩
      rw [List.append_nil, BackgroundService.step, imageAnswered, turning.idle]
      exact turning
  | pass milliseconds =>
      refine ⟨[], ?_⟩
      rw [List.append_nil]
      exact
        ⟨turning.idle, turning.backgrounds, turning.shown, turning.apart,
          turning.waits, turning.shows⟩
  | timerFires =>
      rcases turning.timerFires with same | next
      · refine ⟨[], ?_⟩
        rw [List.append_nil]
        exact same
      · exact ⟨[service.now], next⟩
  | setBackground _ _ | setServerBackground _ _ _ | clearBackgrounds
  | disable =>
      exact quiet.elim

theorem Turning.run [DecidableEq Url] {events : List (Event Url ImageBitmap)}
    (turning : Turning images early times service)
    (quiet : ∀ event ∈ events, event.IsQuiet) :
    ∃ more, Turning images early (times ++ more)
      (Library.run BackgroundService.step service events) := by
  induction events generalizing service times with
  | nil =>
      refine ⟨[], ?_⟩
      rw [List.append_nil]
      exact turning
  | cons event rest inductionHypothesis =>
      obtain ⟨silent, later⟩ := List.forall_mem_cons.mp quiet
      obtain ⟨first, next⟩ := turning.step silent
      obtain ⟨more, final⟩ := inductionHypothesis next later
      refine ⟨first ++ more, ?_⟩
      rw [← List.append_assoc]
      exact final

/-- Once a transition is over, the timer that waits for its end shows the
first background. -/
theorem Turning.settled [DecidableEq Url]
    (turning : Turning images early times service)
    (recorded : service.Recorded) :
    ∃ first more, Turning images early (first :: more)
      (Library.run BackgroundService.step service
        [.pass TRANSITION_DURATION.toNat, .timerFires]) := by
  cases times with
  | nil =>
      obtain ⟨first, waiting⟩ := turning.waits rfl
      let passed :=
        BackgroundService.step service (.pass TRANSITION_DURATION.toNat)
      have due :
          service.lastBackgroundTimerUpdate + TRANSITION_DURATION ≤
            passed.now := by
        have clock := recorded.clock
        simp only [passed, BackgroundService.step, TRANSITION_DURATION]
        omega
      have timer :
          passed.updateBackgroundTimerJob =
            some
              ⟨service.lastBackgroundTimerUpdate + TRANSITION_DURATION,
                false⟩ :=
        waiting
      refine ⟨passed.now, [], ?_⟩
      rw [run_cons, run_cons, run_nil]
      change Turning images early ([] ++ [passed.now]) passed.timerFires
      rw [timerFires_of_due timer due due]
      apply turning_showCurrent
      · rfl
      · exact turning.idle
      · exact turning.backgrounds
      · exact turning.shown
      · exact turning.apart
      · intro time member
        cases member
      · change (if images.length ≤ service.currentIndex then 0
          else service.currentIndex) = 0 % images.length
        rw [first, ite_self, Nat.zero_mod]
  | cons time rest =>
      have quiet :
          ∀ event ∈ [Event.pass TRANSITION_DURATION.toNat, .timerFires],
            (event : Event Url ImageBitmap).IsQuiet := by
        simp [Event.IsQuiet]
      obtain ⟨more, next⟩ := turning.run quiet
      exact ⟨time, rest ++ more, next⟩

end Turn

/-- Whatever was done before, the images of a request are shown in turn from
the first one on once they have been answered, as long as nobody calls.  At
the latest after a transition the first one is shown.  The changes are a
transition apart, and those of one turn are as far apart as the slideshow
asks for. -/
theorem answered_images_in_turn [DecidableEq Url] (now : Nat)
    {request : Event Url ImageBitmap} {blur : Bool} {url : Url}
    {remaining : List Url} (asks : request.asks = some (blur, url, remaining))
    (before loading after : List (Event Url ImageBitmap))
    (quiet : ∀ event ∈ loading ++ after, event.IsQuiet)
    (answered : (answers loading).length = remaining.length)
    (image : Option ImageBitmap) :
    let early := run step (created now) (before ++ request :: loading)
    let final := run step early (.imageAnswered image :: after)
    let images := (answers loading ++ [image]).reduceOption
    (final.shown.IsChain fun first second =>
        first.1 + TRANSITION_DURATION ≤ second.1) ∧
      final.currentBackground = final.shown.getLast?.bind Prod.snd ∧
        final.blurBackground = blur ∧ final.enabled = true ∧
          (∃ times : List Int,
            final.shown = early.shown ++ inTurn images times ∧
              times.IsChain fun first second =>
                first + SLIDESHOW_DURATION ≤ second) ∧
            ∃ first more,
              (run step final
                [.pass TRANSITION_DURATION.toNat, .timerFires]).shown =
                early.shown ++ inTurn images (first :: more) := by
  intro early final images
  rw [List.forall_mem_append] at quiet
  have recorded : final.Recorded := by
    have kept :
        ∀ (service : BackgroundService Url ImageBitmap) event,
          service.Recorded → (step service event).Recorded :=
      fun _ event held => held.step event
    exact run_preserves kept
      (run_preserves kept (recorded_created now) _) _
  have asked :
      early =
        run step (step (run step (created now) before) request) loading := by
    rw [← run_cons, ← run_append]
  have look :
      final.blurBackground = blur ∧ final.enabled = true := by
    have kept :
        ∀ (service : BackgroundService Url ImageBitmap) event,
          (service.blurBackground = blur ∧ service.enabled = true) →
            event.IsQuiet →
              (step service event).blurBackground = blur ∧
                (step service event).enabled = true := by
      rintro service event ⟨blurred, enabled⟩ silent
      rw [← blurred, ← enabled]
      exact look_of_isQuiet silent
    have start :
        (step (run step (created now) before) request).blurBackground = blur ∧
          (step (run step (created now) before) request).enabled = true := by
      rw [step_of_asks asks]
      exact ⟨rfl, rfl⟩
    have loaded :=
      run_invariant kept start (admitted_of_forall quiet.1)
    rw [← asked] at loaded
    have silent :
        ∀ event ∈ Event.imageAnswered image :: after,
          (event : Event Url ImageBitmap).IsQuiet :=
      List.forall_mem_cons.mpr ⟨trivial, quiet.2⟩
    exact run_invariant kept loaded (admitted_of_forall silent)
  have turning : ∃ times, Turning images early.shown times final := by
    have waits :
        Loading (url :: remaining) []
          (step (run step (created now) before) request) := by
      refine ⟨url, remaining, rfl, ?_⟩
      rw [step_of_asks asks]
      rfl
    have loaded := loading_run waits quiet.1 (by simp [answered])
    rw [← asked, List.nil_append] at loaded
    obtain ⟨last, none, left, job⟩ := loaded
    have single : none = [] := by
      have length := congrArg List.length left
      rw [List.length_drop, List.length_cons, List.length_cons,
        answered] at length
      exact List.eq_nil_of_length_eq_zero (by omega)
    subst single
    have images_eq :
        (answers loading).reduceOption ++ image.toList = images := by
      rw [← List.reduceOption_singleton, ← List.reduceOption_append]
    have ends :
        step early (.imageAnswered image) =
          { early with
            loadBackgroundsJob := none
            backgrounds := images
            currentIndex := 0 }.update := by
      rw [step, imageAnswered, job, ← images_eq]
    obtain ⟨times, started⟩ :
        ∃ times,
          Turning images early.shown times
            (step early (.imageAnswered image)) := by
      rw [ends]
      apply turning_of_update
      · rfl
      · rfl
      · rfl
      · rfl
    obtain ⟨more, turning⟩ := started.run quiet.2
    exact ⟨times ++ more, turning⟩
  obtain ⟨times, turning⟩ := turning
  obtain ⟨first, more, settled⟩ := turning.settled recorded
  exact
    ⟨recorded.apart, recorded.current, look.1, look.2,
      ⟨times, turning.shown, turning.apart⟩, first, more, settled.shown⟩

/-- An item with two backdrops, of which its parent has one as well. -/
def twoBackdrops : Event Nat Nat :=
  .setBackground (some [1, 2, 1]) .BACKDROP_WITH_BLUR

/-- The first backdrop comes again after the second one, although the timer
is late once. -/
theorem two_backdrops_in_turn :
    let early :=
      run step (created 5000) [twoBackdrops, .imageAnswered (some 10)]
    let final :=
      run step early
        [.imageAnswered (some 20), .pass 30000, .timerFires, .pass 40000,
          .timerFires]
    final.shown =
        [(5000, some 10), (35000, some 20), (75000, some 10)] ∧
      ∃ times : List Int,
        final.shown = early.shown ++ inTurn [10, 20] times ∧
          times.IsChain fun first second =>
            first + SLIDESHOW_DURATION ≤ second := by
  refine ⟨by decide, ?_⟩
  have quiet :
      ∀ event ∈
        [Event.imageAnswered (some 10)] ++
          [.pass 30000, .timerFires, .pass 40000, .timerFires],
        (event : Event Nat Nat).IsQuiet := by
    simp [Event.IsQuiet]
  have turn :=
    answered_images_in_turn 5000 (show twoBackdrops.asks = some (true, 1, [2])
      by decide) [] [.imageAnswered (some 10)]
      [.pass 30000, .timerFires, .pass 40000, .timerFires] quiet rfl (some 20)
  exact turn.2.2.2.2.1

end JellyfinTv.Background.BackgroundService
