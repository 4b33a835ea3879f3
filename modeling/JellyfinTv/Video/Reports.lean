import JellyfinTv.Library.Lifetimes
import JellyfinTv.Video.Halts

/-!
# The reports of the controller

The start of a stream is reported by the callback of a lookup, with the stream
of the lookup; `stop` reports whatever stream is current.  An observer numbers
the streams in the order in which they are stored, and tells to which of them
each report and each start of the player belongs.
-/

namespace JellyfinTv.Video

open JellyfinTv.Library PlaybackController Lifetime

/-! ## The observer -/

/-- A controller with what was observed of it: how many streams were stored,
the streams of the lookups and of the delayed starts under way, the reports,
and for each report of a start the stream that was current then.  A report of
a start opens its stream, a report of a stop closes it, and a start of the
player touches it. -/
structure Reporting where
  controller : PlaybackController
  stored : Nat
  lookups : List Nat
  delayedStarts : List Nat
  log : List (Lifetime Nat)
  startReports : List (Nat × Option Nat)

namespace Reporting

def observe (controller : PlaybackController) : Reporting :=
  ⟨controller, 0, [], [], [], []⟩

/-- The current stream is the last one that was stored. -/
def current (reporting : Reporting) : Option Nat :=
  reporting.controller.mCurrentStreamInfo.map fun _ => reporting.stored

/-- The stream of a callback.  All delays are equal, so delayed starts run in
their order. -/
def subject (reporting : Reporting) : Event → Option Nat
  | .segmentsLoaded index => reporting.lookups[index]?
  | .delayedStart => reporting.delayedStarts.head?
  | _ => none

/-- A start belongs to the stream of its callback, or to the stream just
stored.  No callback that reports a start changes the current stream. -/
def note (subject : Option Nat) (reporting : Reporting) :
    Notice → Reporting
  | .stored => { reporting with stored := reporting.stored + 1 }
  | .started =>
      { reporting with
        log :=
          reporting.log ++ [.touching (subject.getD reporting.stored)] }
  | .reportedStart =>
      { reporting with
        log := reporting.log ++ [.opening (subject.getD reporting.stored)]
        startReports :=
          reporting.startReports ++
            [(subject.getD reporting.stored, reporting.current)] }
  | .reportedStopped =>
      { reporting with
        log := reporting.log ++ [.closing reporting.stored] }

def remainingLookups (reporting : Reporting) : Event → List Nat
  | .segmentsLoaded index => reporting.lookups.eraseIdx index
  | _ => reporting.lookups

def remainingStarts (reporting : Reporting) : Event → List Nat
  | .delayedStart => reporting.delayedStarts.tail
  | _ => reporting.delayedStarts

/-- What is new belongs to the stream. -/
def extend (waiting : List Nat) (length stream : Nat) : List Nat :=
  waiting ++ List.replicate (length - waiting.length) stream

def step (reporting : Reporting) (event : Event) : Reporting :=
  let after := Video.step reporting.controller event
  let made := after.calls.drop reporting.controller.calls.length
  let noted :=
    (made.filterMap Call.notice).foldl (note (reporting.subject event))
      reporting
  { noted with
    controller := after
    lookups :=
      extend (reporting.remainingLookups event) after.lookups.length
        noted.stored
    delayedStarts :=
      extend (reporting.remainingStarts event) after.delayedStarts
        ((reporting.subject event).getD noted.stored) }

/-- The observer follows the controller. -/
theorem controller_run (reporting : Reporting) (events : List Event) :
    (run step reporting events).controller =
      run Video.step reporting.controller events :=
  run_projection (fun _ _ => rfl) reporting events

/-- What an entry of the log was noted for. -/
def heard : Lifetime Nat → Notice
  | .opening _ => .reportedStart
  | .touching _ => .started
  | .closing _ => .reportedStopped

/-- The log tells of every report and every start of the player, in their
order. -/
def Complete (reporting : Reporting) : Prop :=
  reporting.log.map heard =
    (reporting.controller.calls.filterMap Call.notice).filter
      fun notice => notice ≠ .stored

theorem heard_foldl (subject : Option Nat) (notices : List Notice)
    (reporting : Reporting) :
    (notices.foldl (note subject) reporting).log.map heard =
      reporting.log.map heard ++
        notices.filter fun notice => notice ≠ .stored := by
  induction notices generalizing reporting with
  | nil =>
      exact (List.append_nil _).symm
  | cons notice rest inductionHypothesis =>
      rw [List.foldl_cons, inductionHypothesis]
      cases notice with
      | stored =>
          rfl
      | _ =>
          simp [note, heard]

theorem complete_step (reporting : Reporting) (event : Event)
    (complete : reporting.Complete) : (reporting.step event).Complete := by
  obtain ⟨made, calls, -⟩ :=
    (changes_step reporting.controller event).calls
  simp only [Complete, step, calls, List.drop_left, heard_foldl,
    List.filterMap_append, List.filter_append]
  exact congrArg (· ++ _) complete

theorem complete_run {controller : PlaybackController}
    (fresh : controller.calls = []) (events : List Event) :
    (run step (observe controller) events).Complete := by
  apply run_preserves complete_step
  rw [Complete, observe, fresh]
  rfl

/-- A start is reported only for the stream that is current then; a stream
whose start was reported is reported as stopped exactly once before another
start is reported; and after that it is neither reported nor started. -/
structure WellReported (reporting : Reporting) : Prop where
  current :
    ∀ report ∈ reporting.startReports, report.2 = some report.1
  kept : WellKept reporting.log

/-- An answer that stores a stream finds none that was reported as started and
not as stopped.  A lookup that can report a start, and a delayed start that
finds a video manager, belong to the stream that is still current. -/
def InTime (reporting : Reporting) : Event → Prop
  | .response index isActive answer =>
      ∀ delivery ∈ delivered reporting.controller index isActive answer,
        storesStream reporting.controller delivery.request
            delivery.stream →
          (ledgerOf reporting.log).current = none
  | .segmentsLoaded index =>
      reporting.controller.hasFragment →
        ∀ stream ∈ reporting.lookups[index]?,
          reporting.current = some stream
  | .delayedStart =>
      reporting.controller.mVideoManager.isSome →
        ∀ stream ∈ reporting.delayedStarts.head?,
          reporting.current = some stream
  | _ => True

instance (reporting : Reporting) (event : Event) :
    Decidable (reporting.InTime event) :=
  match event with
  | .response index isActive answer =>
      inferInstanceAs
        (Decidable
          (∀ delivery ∈
              delivered reporting.controller index isActive answer,
            _ → _))
  | .segmentsLoaded index =>
      inferInstanceAs
        (Decidable (_ → ∀ stream ∈ reporting.lookups[index]?, _))
  | .delayedStart =>
      inferInstanceAs
        (Decidable (_ → ∀ stream ∈ reporting.delayedStarts.head?, _))
  | .init _ _ | .play _ | .playPause | .pause | .stop | .next | .prev
  | .skip _ | .skipRunnable | .seek _ _ | .initialSeek _
  | .switchAudioStream _ | .setSubtitleIndex _ | .refreshStream
  | .endPlayback | .onPrepared | .onProgress | .onCompletion | .onError _
  | .reportTick | .programStarted _ | .timePasses _ | .playerChanges _ =>
      inferInstanceAs (Decidable True)

end Reporting

/-- Only the current stream is open, and a stream that has ended is not
current and will not be numbered again. -/
structure Ordered (stored : Nat) (current : Option Nat)
    (log : List (Lifetime Nat)) (reports : List (Nat × Option Nat)) :
    Prop where
  orderly : Orderly log
  open_current : ∀ stream ∈ (ledgerOf log).current, current = some stream
  ended :
    ∀ stream ∈ (ledgerOf log).ended,
      stream ≤ stored ∧ current ≠ some stream
  reports : ∀ report ∈ reports, report.2 = some report.1

namespace Ordered

variable {stored stream : Nat} {current : Option Nat}
variable {log : List (Lifetime Nat)} {reports : List (Nat × Option Nat)}

theorem lives (ordered : Ordered stored (some stream) log reports) :
    stream ∉ (ledgerOf log).ended := by
  intro ended
  exact (ordered.ended stream ended).2 rfl

theorem alone (ordered : Ordered stored (some stream) log reports) :
    ∀ other ∈ (ledgerOf log).current, other = stream := by
  intro other is_open
  exact (Option.some.inj (ordered.open_current other is_open)).symm

/-- The player starts. -/
theorem touch (ordered : Ordered stored (some stream) log reports) :
    Ordered stored (some stream) (log ++ [.touching stream]) reports where
  orderly :=
    (orderly_concat _ _).mpr
      ⟨ordered.orderly, ordered.lives, fun _ _ => Or.inl rfl⟩
  open_current := by
    rw [ledgerOf_concat]
    exact ordered.open_current
  ended := by
    rw [ledgerOf_concat]
    exact ordered.ended
  reports := ordered.reports

/-- A start is reported. -/
theorem start (ordered : Ordered stored (some stream) log reports) :
    Ordered stored (some stream) (log ++ [.opening stream])
      (reports ++ [(stream, some stream)]) where
  orderly :=
    (orderly_concat _ _).mpr
      ⟨ordered.orderly, ordered.lives,
        fun other is_open => Or.inr (ordered.alone other is_open)⟩
  open_current := by
    rw [ledgerOf_concat]
    rintro _ ⟨⟩
    rfl
  ended := by
    rw [ledgerOf_concat]
    exact ordered.ended
  reports := by
    intro report member
    rcases List.mem_append.mp member with earlier | new
    · exact ordered.reports report earlier
    · rw [List.mem_singleton.mp new]

/-- A stop is reported. -/
theorem close (ordered : Ordered stored (some stored) log reports) :
    Ordered stored none (log ++ [.closing stored]) reports where
  orderly :=
    (orderly_concat _ _).mpr
      ⟨ordered.orderly, ordered.lives,
        fun other is_open => Or.inr (ordered.alone other is_open)⟩
  open_current := by
    rw [ledgerOf_concat]
    rintro _ ⟨⟩
  ended := by
    rw [ledgerOf_concat]
    intro other member
    refine ⟨?_, by rintro ⟨⟩⟩
    rcases List.mem_cons.mp member with rfl | earlier
    · exact Nat.le_refl other
    · exact (ordered.ended other earlier).1
  reports := ordered.reports

/-- A stream is stored. -/
theorem store (ordered : Ordered stored current log reports)
    (closed : (ledgerOf log).current = none) :
    Ordered (stored + 1) (some (stored + 1)) log reports where
  orderly := ordered.orderly
  open_current := by
    rw [closed]
    rintro _ ⟨⟩
  ended := by
    intro other member
    have known := (ordered.ended other member).1
    refine ⟨Nat.le_succ_of_le known, ?_⟩
    rintro ⟨⟩
    exact Nat.not_succ_le_self stored known
  reports := ordered.reports

/-- A stream is dropped. -/
theorem drop (ordered : Ordered stored current log reports)
    (closed : (ledgerOf log).current = none) :
    Ordered stored none log reports where
  orderly := ordered.orderly
  open_current := by
    rw [closed]
    rintro _ ⟨⟩
  ended other member := ⟨(ordered.ended other member).1, by rintro ⟨⟩⟩
  reports := ordered.reports

end Ordered

/-! ## Steps -/

namespace Reporting

variable {reporting : Reporting} {event : Event}

/-- The observer knows what is under way, and its log is in order. -/
structure Sound (reporting : Reporting) : Prop where
  lookups :
    reporting.lookups.length = reporting.controller.lookups.length
  delayedStarts :
    reporting.delayedStarts.length = reporting.controller.delayedStarts
  attached : reporting.controller.Attached
  backed : reporting.controller.Backed
  inside :
    reporting.controller.lookups ≠ [] ∨
        (ledgerOf reporting.log).current ≠ none →
      reporting.controller.Inside
  ordered :
    Ordered reporting.stored reporting.current reporting.log
      reporting.startReports

theorem length_extend {waiting : List Nat} {length : Nat}
    (fits : waiting.length ≤ length) (stream : Nat) :
    (extend waiting length stream).length = length := by
  rw [extend, List.length_append, List.length_replicate]
  exact Nat.add_sub_of_le fits

theorem step_eq {made : List Call} {noted : Reporting}
    (calls :
      (Video.step reporting.controller event).calls =
        reporting.controller.calls ++ made)
    (told :
      (made.filterMap Call.notice).foldl (note (reporting.subject event))
        reporting = noted) :
    reporting.step event =
      { noted with
        controller := Video.step reporting.controller event
        lookups :=
          extend (reporting.remainingLookups event)
            (Video.step reporting.controller event).lookups.length
            noted.stored
        delayedStarts :=
          extend (reporting.remainingStarts event)
            (Video.step reporting.controller event).delayedStarts
            ((reporting.subject event).getD noted.stored) } := by
  rw [step, calls, List.drop_left, told]

theorem noted_of_silent {made : List Call} {subject : Option Nat}
    (silent : made.filterMap Call.notice = []) :
    (made.filterMap Call.notice).foldl (note subject) reporting =
      reporting := by
  rw [silent, List.foldl_nil]

theorem noted_of_stored {made : List Call} {notices : List Notice}
    {subject : Option Nat} (stream : StreamInfo) (item : Option BaseItemDto)
    (told : made.filterMap Call.notice = notices) :
    ((Call.stored stream item :: made).filterMap Call.notice).foldl
        (note subject) reporting =
      notices.foldl (note subject)
        { reporting with stored := reporting.stored + 1 } := by
  rw [← told]
  rfl

theorem noted_of_reportedStart {made : List Call} {stream : Nat}
    {subject : Option Nat} (own : subject = some stream)
    (now : reporting.current = some stream)
    (told :
      made.filterMap Call.notice = [.reportedStart] ∨
        made.filterMap Call.notice = [.started, .reportedStart]) :
    ∃ touched, (touched = [] ∨ touched = [Lifetime.touching stream]) ∧
      (made.filterMap Call.notice).foldl (note subject) reporting =
        { reporting with
          log := reporting.log ++ touched ++ [.opening stream]
          startReports :=
            reporting.startReports ++ [(stream, some stream)] } := by
  rw [current] at now
  subst own
  rcases told with reported | started
  · refine ⟨[], Or.inl rfl, ?_⟩
    simp only [reported, List.foldl_cons, List.foldl_nil, note, current, now,
      Option.getD_some, List.append_nil]
  · refine ⟨[.touching stream], Or.inr rfl, ?_⟩
    simp only [started, List.foldl_cons, List.foldl_nil, note, current, now,
      Option.getD_some]

/-- A step is sound if what it notes is in order. -/
theorem Sound.step_of {made : List Call} {noted : Reporting}
    {after : PlaybackController} (sound : reporting.Sound)
    (reached : Video.step reporting.controller event = after)
    (calls : after.calls = reporting.controller.calls ++ made)
    (told :
      (made.filterMap Call.notice).foldl (note (reporting.subject event))
        reporting = noted)
    (lookups :
      (reporting.remainingLookups event).length ≤ after.lookups.length)
    (starts :
      (reporting.remainingStarts event).length ≤ after.delayedStarts)
    (backed : after.Backed)
    (inside :
      after.lookups ≠ [] ∨ (ledgerOf noted.log).current ≠ none →
        after.Inside)
    (ordered :
      Ordered noted.stored
        (after.mCurrentStreamInfo.map fun _ => noted.stored) noted.log
        noted.startReports) :
    (reporting.step event).Sound := by
  subst reached
  rw [step_eq calls told]
  exact ⟨length_extend lookups _, length_extend starts _,
    attached_step sound.attached event, backed, inside, ordered⟩

/-- Without a stream that is open nothing hinders a drop. -/
theorem Sound.closed_of_outside (sound : reporting.Sound)
    (outside : ¬reporting.controller.Inside) :
    (ledgerOf reporting.log).current = none := by
  by_contra is_open
  exact outside (sound.inside (Or.inr is_open))

/-- A step in which no stream is stored. -/
theorem Sound.settle (sound : reporting.Sound)
    (lookups : reporting.remainingLookups event = reporting.lookups)
    (starts : reporting.remainingStarts event = reporting.delayedStarts)
    (settled :
      Settles False reporting.controller
        (Video.step reporting.controller event)) :
    (reporting.step event).Sound := by
  obtain ⟨made, calls, halts⟩ := settled.calls
  obtain ⟨_, same_lookups, nothing⟩ := settled.lookups
  rw [nothing.resolve_left id, List.append_nil] at same_lookups
  have looked :
      (reporting.remainingLookups event).length ≤
        (Video.step reporting.controller event).lookups.length := by
    apply Nat.le_of_eq
    rw [lookups, sound.lookups, same_lookups]
  have started :
      (reporting.remainingStarts event).length ≤
        (Video.step reporting.controller event).delayedStarts := by
    apply Nat.le_of_eq
    rw [starts, sound.delayedStarts, settled.delayedStarts]
  have backed := settled.backed sound.backed
  have ordered := sound.ordered
  cases halts with
  | kept same silent =>
      apply sound.step_of rfl calls (noted_of_silent silent) looked
        started backed
      · rw [same_lookups]
        exact settled.inside ∘ sound.inside
      · rw [same]
        exact ordered
  | reported present gone told =>
      obtain ⟨stream, playing⟩ := Option.isSome_iff_exists.mp present
      rw [current, playing] at ordered
      have noted :
          (made.filterMap Call.notice).foldl
              (note (reporting.subject event)) reporting =
            { reporting with
              log := reporting.log ++ [.closing reporting.stored] } := by
        rw [told]
        rfl
      apply sound.step_of rfl calls noted looked started backed
      · intro either
        rcases either with waiting | is_open
        · rw [same_lookups] at waiting
          exact settled.inside (sound.inside (Or.inl waiting))
        · rw [ledgerOf_concat] at is_open
          exact absurd rfl is_open
      · rw [gone]
        exact ordered.close
  | dropped outside gone silent =>
      have closed := sound.closed_of_outside outside
      apply sound.step_of rfl calls (noted_of_silent silent) looked
        started backed
      · rw [same_lookups]
        exact settled.inside ∘ sound.inside
      · rw [gone]
        exact ordered.drop closed

/-- A step in which a stream is stored while none is open. -/
theorem Sound.store {index : Nat} {isActive : Bool} {answer : Answer}
    {looks : Prop} (sound : reporting.Sound)
    (closed : (ledgerOf reporting.log).current = none)
    (carried : looks → reporting.controller.Inside)
    (stores :
      Stores looks
        { reporting.controller with
          requests := reporting.controller.requests.eraseIdx index }
        (Video.step reporting.controller
          (.response index isActive answer))) :
    (reporting.step (.response index isActive answer)).Sound := by
  have erased : Settles False reporting.controller _ :=
    settles_answer reporting.controller index
  obtain ⟨added, lookups, looked⟩ := stores.lookups
  obtain ⟨stream, item, made, calls, launch⟩ := stores.calls
  have fits :
      reporting.lookups.length ≤
        (Video.step reporting.controller
          (.response index isActive answer)).lookups.length := by
    rw [lookups, sound.lookups, List.length_append]
    exact Nat.le_add_right _ _
  have starts :
      reporting.delayedStarts.length ≤
        (Video.step reporting.controller
          (.response index isActive answer)).delayedStarts := by
    apply Nat.le_of_eq
    rw [stores.delayedStarts, sound.delayedStarts]
  have backed := stores.backed (erased.backed sound.backed)
  have inside :
      (Video.step reporting.controller
          (.response index isActive answer)).lookups ≠ [] →
        (Video.step reporting.controller
          (.response index isActive answer)).Inside := by
    intro waiting
    apply stores.inside
    apply erased.inside
    rcases looked with looks | nothing
    · exact carried looks
    · rw [lookups, nothing, List.append_nil] at waiting
      exact sound.inside (Or.inl waiting)
  have ordered := sound.ordered.store closed
  cases launch with
  | waiting present silent =>
      obtain ⟨_, playing⟩ := Option.isSome_iff_exists.mp present
      apply sound.step_of rfl calls (noted_of_stored stream item silent)
        fits starts backed
      · intro either
        rcases either with waiting | is_open
        · exact inside waiting
        · exact absurd closed is_open
      · rw [playing]
        exact ordered
  | started present told =>
      obtain ⟨_, playing⟩ := Option.isSome_iff_exists.mp present
      apply sound.step_of rfl calls (noted_of_stored stream item told)
        fits starts backed
      · intro either
        rcases either with waiting | is_open
        · exact inside waiting
        · exact absurd
            ((congrArg _ (ledgerOf_concat _ _)).trans closed) is_open
      · rw [playing]
        exact ordered.touch
  | reported gone told =>
      apply sound.step_of rfl calls (noted_of_stored stream item told)
        fits starts backed
      · intro either
        rcases either with waiting | is_open
        · exact inside waiting
        · exact absurd (congrArg _ (ledgerOf_concat _ _)) is_open
      · rw [gone]
        exact ordered.close
  | dropped gone silent =>
      apply sound.step_of rfl calls (noted_of_stored stream item silent)
        fits starts backed
      · intro either
        rcases either with waiting | is_open
        · exact inside waiting
        · exact absurd closed is_open
      · rw [gone]
        exact ordered.drop closed

/-- A lookup is complete. -/
theorem Sound.load {index : Nat} (sound : reporting.Sound)
    (inTime : reporting.InTime (.segmentsLoaded index)) :
    (reporting.step (.segmentsLoaded index)).Sound := by
  cases found : reporting.controller.lookups[index]? with
  | none =>
      have beyond : reporting.lookups.length ≤ index := by
        rw [sound.lookups]
        exact List.getElem?_eq_none_iff.mp found
      apply sound.settle
      · exact List.eraseIdx_of_length_le beyond
      · rfl
      · rw [step_segmentsLoaded_of_none found]
        exact Std.Refl.refl reporting.controller
  | some lookup =>
      have within : index < reporting.lookups.length := by
        rw [sound.lookups]
        exact (List.getElem?_eq_some_iff.mp found).1
      have inside : reporting.controller.Inside := by
        apply sound.inside
        left
        intro nothing
        rw [nothing] at found
        cases found
      obtain ⟨later, made, reached, told⟩ :=
        step_segmentsLoaded sound.attached found
      have fits :
          (reporting.lookups.eraseIdx index).length ≤
            (reporting.controller.lookups.eraseIdx index).length := by
        apply Nat.le_of_eq
        rw [List.length_eraseIdx, List.length_eraseIdx, sound.lookups]
      have starts :
          reporting.delayedStarts.length ≤
            reporting.controller.delayedStarts + later := by
        rw [sound.delayedStarts]
        exact Nat.le_add_right _ _
      rcases told with silent | ⟨fragment, told⟩
      · exact sound.step_of reached rfl (noted_of_silent silent) fits starts
          sound.backed (fun _ => inside) sound.ordered
      · have subject :
            reporting.subject (.segmentsLoaded index) =
              some reporting.lookups[index] :=
          List.getElem?_eq_getElem within
        have now :
            reporting.current = some reporting.lookups[index] :=
          inTime fragment _ subject
        have ordered := sound.ordered
        rw [now] at ordered
        obtain ⟨touched, alternatives, noted⟩ :=
          noted_of_reportedStart subject now told
        refine sound.step_of reached rfl noted fits starts sound.backed
          (fun _ => inside) ?_
        have started :
            Ordered reporting.stored (some reporting.lookups[index])
              (reporting.log ++ touched) reporting.startReports := by
          rcases alternatives with rfl | rfl
          · rw [List.append_nil]
            exact ordered
          · exact ordered.touch
        change Ordered reporting.stored reporting.current _ _
        rw [now]
        exact started.start

/-- A delay has passed. -/
theorem Sound.wake (sound : reporting.Sound)
    (inTime : reporting.InTime .delayedStart) :
    (reporting.step .delayedStart).Sound := by
  rcases Nat.eq_zero_or_pos reporting.controller.delayedStarts with
    none_waits | waits
  · have nothing : reporting.delayedStarts = [] := by
      rw [← List.length_eq_zero_iff, sound.delayedStarts]
      exact none_waits
    apply sound.settle
    · rfl
    · rw [remainingStarts, nothing]
      rfl
    · rw [step_delayedStart_of_none none_waits]
      exact Std.Refl.refl reporting.controller
  · obtain ⟨made, reached, told⟩ := step_delayedStart waits
    have starts :
        reporting.delayedStarts.tail.length ≤
          reporting.controller.delayedStarts - 1 := by
      apply Nat.le_of_eq
      rw [List.length_tail, sound.delayedStarts]
    have lookups :
        reporting.lookups.length ≤
          reporting.controller.lookups.length := by
      apply Nat.le_of_eq
      rw [sound.lookups]
    rcases told with silent | ⟨manager, started⟩
    · exact sound.step_of reached rfl (noted_of_silent silent) lookups
        starts sound.backed sound.inside sound.ordered
    · obtain ⟨stream, first⟩ :
          ∃ stream, reporting.delayedStarts.head? = some stream := by
        rw [← Option.isSome_iff_exists, List.isSome_head?,
          ← List.length_pos_iff, sound.delayedStarts]
        exact waits
      have now : reporting.current = some stream :=
        inTime manager stream first
      have noted :
          (made.filterMap Call.notice).foldl
              (note (reporting.subject .delayedStart)) reporting =
            { reporting with
              log := reporting.log ++ [.touching stream] } := by
        simp only [started, List.foldl_cons, List.foldl_nil, note, subject,
          first, Option.getD_some]
      have ordered := sound.ordered
      rw [now] at ordered
      apply sound.step_of reached rfl noted lookups starts sound.backed
      · rw [ledgerOf_concat]
        exact sound.inside
      · change Ordered reporting.stored reporting.current _ _
        rw [now]
        exact ordered.touch

theorem sound_step (reporting : Reporting) (event : Event)
    (sound : reporting.Sound) (inTime : reporting.InTime event) :
    (reporting.step event).Sound := by
  cases event with
  | response index isActive answer =>
      rcases respond_settles reporting.controller index isActive answer with
        settled | ⟨delivery, answered, stores, member, stored⟩
      · exact sound.settle rfl rfl settled
      · apply sound.store (inTime delivery answered stores) _ stored
        intro carried
        rcases sound.backed with inside | itemless
        · exact inside
        · rw [itemless delivery.request member] at carried
          cases carried
  | segmentsLoaded index =>
      exact sound.load inTime
  | delayedStart =>
      exact sound.wake inTime
  | _ =>
      apply sound.settle rfl rfl
      apply respects_handle_of_plain rfl
      · exact fun _ _ _ _ _ _ => settles_of_tracked rfl
      · exact fun _ _ _ => settles_of_tracked rfl

theorem sound_observe_create (settings : Settings)
    (items : List BaseItemDto) (startIndex : Nat)
    (audioLanguage subtitleLanguage : Option String) :
    (observe
      (create settings items startIndex audioLanguage
        subtitleLanguage)).Sound where
  lookups := rfl
  delayedStarts := rfl
  attached := attached_create _ _ _ _ _
  backed := Or.inr fun _ member => absurd member List.not_mem_nil
  inside := by
    intro either
    rcases either with waiting | is_open
    · exact absurd rfl waiting
    · exact absurd rfl is_open
  ordered :=
    { orderly := trivial
      open_current := by rintro _ ⟨⟩
      ended := fun _ member => absurd member List.not_mem_nil
      reports := fun _ member => absurd member List.not_mem_nil }

end Reporting

open Reporting

/-- In every run in which answers, lookups and delayed starts come in time,
the reports are well bracketed. -/
theorem reports_bracketed_while_in_time (settings : Settings)
    (items : List BaseItemDto) (startIndex : Nat)
    (audioLanguage subtitleLanguage : Option String) (events : List Event)
    (inTime :
      Admitted Reporting.step InTime
        (observe
          (create settings items startIndex audioLanguage
            subtitleLanguage)) events) :
    (run Reporting.step
      (observe
        (create settings items startIndex audioLanguage subtitleLanguage))
      events).WellReported := by
  have sound :=
    run_invariant sound_step
      (sound_observe_create settings items startIndex audioLanguage
        subtitleLanguage) inTime
  exact ⟨sound.ordered.reports,
    wellKept_of_orderly sound.ordered.orderly⟩

/-- Two episodes in a row, each of which is started and stopped. -/
def patientViewing : List Event :=
  [.init (playingAt 0 []) false, .play 0,
    .response 0 true (some [shortSource 1 [] none]), .segmentsLoaded 0,
    .next, .response 0 true (some [shortSource 2 [] none]),
    .segmentsLoaded 0, .stop]

def twoEpisodes : PlaybackController :=
  create ⟨false, false, false, false⟩
    [shortEpisode (shortSource 1 [] none),
      shortEpisode (shortSource 2 [] none)] 0 none none

theorem patient_viewing_bracketed :
    (run Reporting.step (observe twoEpisodes)
      patientViewing).WellReported :=
  reports_bracketed_while_in_time ⟨false, false, false, false⟩
    [shortEpisode (shortSource 1 [] none),
      shortEpisode (shortSource 2 [] none)] 0 none none patientViewing
    (by decide)

/-- A stop while the segments of the stream are looked up. -/
def hastyStop : List Event :=
  [.init (playingAt 0 []) false, .play 0,
    .response 0 true (some [shortSource 1 [] none]), .stop,
    .segmentsLoaded 0]

/-- The player is started, and its start reported, after its stop was. -/
theorem hasty_stop_reported_before_start :
    ¬(run Reporting.step (observe twoEpisodes) hastyStop).WellReported := by
  intro reported
  have observed :
      (run Reporting.step (observe twoEpisodes) hastyStop).log =
        [.closing 1, .touching 1, .opening 1] := by
    decide
  have last :=
    reported.kept.closed_last [] [.touching 1, .opening 1] 1 observed
  exact last (.opening 1) (by simp) rfl

end JellyfinTv.Video
