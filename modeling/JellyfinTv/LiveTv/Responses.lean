import JellyfinTv.LiveTv.Guide
import JellyfinTv.Library.Runs

/-!
# Programs of the current window

Every call of `displayChannels` and `pageGuideTo` asks for programs, and the
answers arrive in any order.  An answer with programs replaces the whole
dictionary of the app, a failure leaves it as it is, and either way the
page that is current by then is drawn from it.
-/

namespace JellyfinTv.LiveTv

open JellyfinTv.Library

variable {UUID : Type} [DecidableEq UUID]

inductive WindowEvent (UUID : Type) where
  | displayChannels (start max : Int)
  | pageGuideTo (startTime now : LocalDateTime)
  | programsArrive (index : Nat) (programs : Option (List (Program UUID)))

/-- The programs of a channel in an answer to a request for the given start
of the window. -/
def programsFor (startTime : LocalDateTime)
    (programs : List (Program UUID)) (channelId : UUID) :
    List (Program UUID) :=
  programs.filter fun program =>
    program.channelId = some channelId ∧
      program.endDate.any (fun endDate => startTime < endDate)

namespace Guide

def window (guide : Guide UUID) : WindowEvent UUID → Option (Guide UUID)
  | .displayChannels start max => guide.displayChannels start max
  | .pageGuideTo startTime now => guide.pageGuideTo startTime now
  | .programsArrive index programs => guide.programsArrive index programs

/-- The request is for the current window. -/
def ForWindow (guide : Guide UUID) (request : ProgramsRequest UUID) :
    Prop :=
  request.startTime = guide.currentGuideStart ∧
    request.endTime = guide.currentGuideEnd

/-- The row was built from the programs that the server returned for its
channel and the current window. -/
def FromServer (guide : Guide UUID) (row : GuideRow UUID) : Prop :=
  ∃ request programs, (request, some programs) ∈ guide.answers ∧
    guide.ForWindow request ∧ some row.channel.id ∈ request.channelIds ∧
    row.programs =
      programsFor request.startTime programs row.channel.id

/-- The latest request failed. -/
def Failed (guide : Guide UUID) : Prop :=
  ∃ request, guide.requests.getLast? = some request ∧
    (request, none) ∈ guide.answers

/-- Every row is of the current window and has the programs of the server,
or none if the request failed. -/
def ShowsWindow (guide : Guide UUID) : Prop :=
  ∀ row ∈ guide.programRows,
    row.windowStart = guide.currentGuideStart ∧
      row.windowEnd = guide.currentGuideEnd ∧
      (guide.FromServer row ∨ row.programs = [] ∧ guide.Failed)

/-- The channels at the positions of the page. -/
def pageChannels (guide : Guide UUID) : List (Channel UUID) :=
  (positions guide.currentDisplayChannelStartNdx
    guide.currentDisplayChannelEndNdx).filterMap guide.manager.getChannel

/-- The request is for the current window and has every channel of the
page. -/
def IsCurrent (guide : Guide UUID) (request : ProgramsRequest UUID) :
    Prop :=
  ∀ channel ∈ guide.pageChannels,
    guide.ForWindow request ∧ some channel.id ∈ request.channelIds

/-- The latest of the answers that brought programs. -/
def latestPrograms (guide : Guide UUID) :
    Option (ProgramsRequest UUID × List (Program UUID)) :=
  (guide.answers.filterMap fun answer =>
    answer.2.map fun programs => (answer.1, programs)).getLast?

/-- The dictionary has no programs for the page. -/
def NoPrograms (guide : Guide UUID) : Prop :=
  ∀ channel ∈ guide.pageChannels,
    (guide.manager.programsDict (some channel.id)).getD [] = []

/-- The answer after which nothing is outstanding brings the programs that
the current window and page ask for.  If it is a failure, the latest
programs are of the current window and page already, or the latest request
is a failed one and there are no programs. -/
def ArrivesInOrder (guide : Guide UUID) : WindowEvent UUID → Prop
  | .programsArrive 0 (some _) =>
      ∀ request, guide.outstanding = [request] → guide.IsCurrent request
  | .programsArrive 0 none =>
      ∀ request, guide.outstanding = [request] →
        (∃ latest, guide.latestPrograms = some latest ∧
            guide.IsCurrent latest.1) ∨
          (guide.Failed ∨ guide.requests.getLast? = some request) ∧
            guide.NoPrograms
  | _ => True

theorem foldlM_addProgram {startTime : LocalDateTime}
    {programs : List (Program UUID)} {dict filled : ProgramsDict UUID}
    (folds :
      programs.foldlM (TvManager.addProgram startTime) dict = some filled)
    (channelId : UUID) :
    (filled (some channelId)).getD [] =
      (dict (some channelId)).getD [] ++
        programsFor startTime programs channelId := by
  induction programs generalizing dict with
  | nil =>
      cases folds
      simp [programsFor]
  | cons program rest inductionHypothesis =>
      rw [List.foldlM_cons] at folds
      obtain ⟨next, added, folds⟩ := Option.bind_eq_some_iff.mp folds
      obtain ⟨endDate, ends, rfl⟩ := Option.map_eq_some_iff.mp added
      rw [inductionHypothesis folds]
      by_cases same : program.channelId = some channelId
      · by_cases later : startTime < endDate
        · simp [programsFor, same, ends, later]
        · simp [programsFor, same, ends, later]
      · simp [programsFor, same, Function.update_of_ne (Ne.symm same)]

theorem programsLoaded_dictionary {manager after : TvManager UUID}
    {programs : List (Program UUID)} {startTime : LocalDateTime}
    (loaded :
      manager.programsLoaded (some programs) startTime = some after)
    (channelId : UUID) :
    (after.programsDict (some channelId)).getD [] =
      programsFor startTime programs channelId := by
  obtain ⟨dict, folds, rfl⟩ := buildProgramsDict_eq loaded
  exact foldlM_addProgram folds channelId

/-- The dictionary was built from the latest programs that arrived. -/
def DictionaryLatest (guide : Guide UUID) : Prop :=
  ∀ latest, guide.latestPrograms = some latest → ∀ channelId,
    (guide.manager.programsDict (some channelId)).getD [] =
      programsFor latest.1.startTime latest.2 channelId

omit [DecidableEq UUID] in
theorem latestPrograms_mem {guide : Guide UUID}
    {latest : ProgramsRequest UUID × List (Program UUID)}
    (arrived : guide.latestPrograms = some latest) :
    (latest.1, some latest.2) ∈ guide.answers := by
  have member := List.mem_of_getLast? arrived
  obtain ⟨⟨request, programs⟩, answered, same⟩ :=
    List.mem_filterMap.mp member
  obtain ⟨list, rfl, rfl⟩ := Option.map_eq_some_iff.mp same
  exact answered

omit [DecidableEq UUID] in
/-- A row is of a channel of the page and has its programs in the
dictionary. -/
theorem displayPrograms_row {guide : Guide UUID} {row : GuideRow UUID}
    (displayed : row ∈ guide.displayPrograms.programRows) :
    row.channel ∈ guide.pageChannels ∧
      row.programs =
        (guide.manager.programsDict (some row.channel.id)).getD [] ∧
      row.windowStart = guide.currentGuideStart ∧
      row.windowEnd = guide.currentGuideEnd := by
  obtain ⟨position, between, made⟩ := List.mem_filterMap.mp displayed
  obtain ⟨channel, at_position, made⟩ := Option.bind_eq_some_iff.mp made
  unfold getProgramRow at made
  split at made
  case isTrue =>
    cases made
  case isFalse shown =>
    cases made
    refine ⟨?_, ?_, rfl, rfl⟩
    · exact List.mem_filterMap.mpr ⟨position, between, at_position⟩
    · unfold TvManager.getProgramsForChannel at shown ⊢
      cases found : guide.manager.programsDict (some channel.id) with
      | none =>
          rfl
      | some results =>
          simp only [found] at shown ⊢
          split
          case isTrue =>
            rfl
          case isFalse filtered =>
            rw [if_neg filtered] at shown
            simp only [true_and, Bool.not_eq_true] at shown
            simp [shown] at filtered

/-- What holds of a guide whose answers arrive in order. -/
structure Answered (guide : Guide UUID) : Prop where
  dictionary : guide.DictionaryLatest
  shows : guide.outstanding = [] → guide.ShowsWindow

variable {guide after : Guide UUID}

theorem Answered.of_loadProgramData (dictionary : guide.DictionaryLatest)
    (loads : guide.loadProgramData = some after) : after.Answered := by
  obtain ⟨request, _, rfl⟩ := loadProgramData_eq loads
  refine ⟨dictionary, ?_⟩
  intro silent
  simp at silent

theorem DictionaryLatest.programsLoaded
    (dictionary : guide.DictionaryLatest)
    {manager : TvManager UUID} {request : ProgramsRequest UUID}
    {programs : Option (List (Program UUID))}
    (loaded :
      guide.manager.programsLoaded programs request.startTime =
        some manager)
    (outstanding : List (ProgramsRequest UUID)) :
    { guide with
      manager := manager
      outstanding := outstanding
      answers := guide.answers ++ [(request, programs)] }.DictionaryLatest := by
  intro latest arrived channelId
  cases programs with
  | none =>
      cases loaded
      apply dictionary latest _ channelId
      simpa [latestPrograms] using arrived
  | some programs =>
      have same : (request, programs) = latest := by
        simpa [latestPrograms] using arrived
      subst same
      exact programsLoaded_dictionary loaded channelId

omit [DecidableEq UUID] in
/-- The one request that is outstanding before the last answer. -/
theorem outstanding_eq_singleton {index : Nat}
    {request : ProgramsRequest UUID}
    (waiting : guide.outstanding[index]? = some request)
    (silent : guide.outstanding.eraseIdx index = []) :
    guide.outstanding = [request] ∧ index = 0 := by
  rcases List.eraseIdx_eq_nil_iff.mp silent with none | ⟨single, first⟩
  · simp [none] at waiting
  · subst first
    obtain ⟨only, alone⟩ := List.length_eq_one_iff.mp single
    rw [alone] at waiting ⊢
    simpa using waiting

theorem Answered.programsArrive (answered : guide.Answered)
    {index : Nat} {programs : Option (List (Program UUID))}
    (in_order : guide.ArrivesInOrder (.programsArrive index programs))
    (arrives : guide.programsArrive index programs = some after) :
    after.Answered := by
  rcases programsArrive_eq arrives with
    ⟨rfl, _⟩ | ⟨request, manager, waiting, loaded, rfl⟩
  · exact answered
  · have dictionary :=
      answered.dictionary.programsLoaded loaded
        (guide.outstanding.eraseIdx index)
    refine ⟨dictionary, ?_⟩
    intro silent row displayed
    obtain ⟨alone, rfl⟩ := outstanding_eq_singleton waiting silent
    obtain ⟨on_page, from_dictionary, starts, ends⟩ :=
      displayPrograms_row displayed
    have page : row.channel ∈ guide.pageChannels := by
      have same := programsLoaded_eq loaded
      simp only [pageChannels] at on_page ⊢
      rwa [same] at on_page
    refine ⟨starts, ends, ?_⟩
    cases programs with
    | some programs =>
        obtain ⟨current, asked⟩ :=
          in_order request alone row.channel page
        refine Or.inl ⟨request, programs, ?_, current, asked, ?_⟩
        · exact List.mem_append_right _ (List.mem_singleton_self _)
        · rw [from_dictionary]
          exact programsLoaded_dictionary loaded row.channel.id
    | none =>
        cases loaded
        rcases in_order request alone with
          ⟨latest, arrived, still⟩ | ⟨failed, empty⟩
        · obtain ⟨current, asked⟩ := still row.channel page
          refine Or.inl ⟨latest.1, latest.2, ?_, current, asked, ?_⟩
          · exact List.mem_append_left _ (latestPrograms_mem arrived)
          · rw [from_dictionary]
            exact answered.dictionary latest arrived row.channel.id
        · refine Or.inr ⟨?_, ?_⟩
          · rw [from_dictionary]
            exact empty row.channel page
          · rcases failed with ⟨last, is_last, answer⟩ | is_last
            · exact ⟨last, is_last, List.mem_append_left _ answer⟩
            · exact
                ⟨request, is_last,
                  List.mem_append_right _ (List.mem_singleton_self _)⟩

theorem Answered.window (answered : guide.Answered)
    (event : WindowEvent UUID) (in_order : guide.ArrivesInOrder event)
    (moves : guide.window event = some after) : after.Answered := by
  cases event with
  | displayChannels start max =>
      obtain ⟨channels, _, loads⟩ := Option.bind_eq_some_iff.mp moves
      refine Answered.of_loadProgramData ?_ loads
      split <;> exact answered.dictionary
  | pageGuideTo startTime now =>
      apply Answered.of_loadProgramData _ moves
      exact answered.dictionary
  | programsArrive index programs =>
      exact answered.programsArrive in_order moves

/-- In a run in which the last outstanding answer always brings what the
current window and page ask for, every row is of the current window and has
the programs of the server whenever nothing is outstanding.  The guide and
the dictionary it finds are arbitrary. -/
theorem rows_show_window_in_order
    (displays_nothing : guide.programRows = [])
    (nothing_arrived : guide.answers = [])
    (events : List (WindowEvent UUID))
    (in_order :
      Admitted (fallible window) (WhileRunning ArrivesInOrder)
        (some guide) events)
    (early : List (WindowEvent UUID)) (isEarly : early <+: events)
    (reached : Guide UUID)
    (reaches : run (fallible window) (some guide) early = some reached)
    (silent : reached.outstanding = []) :
    reached.ShowsWindow := by
  have initially : guide.Answered := by
    constructor
    · intro latest arrived
      simp [latestPrograms, nothing_arrived] at arrived
    · intro _ row displayed
      simp [displays_nothing] at displayed
  have answered : reached.Answered :=
    fallible_invariant
      (fun _ event _ held guarded moves => held.window event guarded moves)
      initially (in_order.earlier isEarly) reaches
  exact answered.shows silent

/-- A guide of one channel whose window begins at midnight. -/
def midnight : Guide Nat where
  manager := ⟨some [⟨10⟩], some [some 10], fun _ => none⟩
  filters := ⟨false, false, false, false, false, false⟩
  allChannels := some [⟨10⟩]
  currentGuideStart := 0
  currentGuideEnd := 32400000
  currentDisplayChannelStartNdx := 0
  currentDisplayChannelEndNdx := 0
  programRows := []
  pagingButtons := []
  loads := 0
  requests := []
  outstanding := []
  answers := []

/-- A program of the first hour. -/
def firstHour : Program Nat where
  channelId := some 10
  startDate := some 0
  endDate := some 3600000
  isMovie := none
  isNews := none
  isSeries := none
  isKids := none
  isSports := none
  isPremiere := none
  isLive := none
  isRepeat := none

theorem midnight_shows_first_hour :
    ∃ reached,
      run (fallible window) (some midnight)
          [.displayChannels 0 75, .programsArrive 0 (some [firstHour])] =
        some reached ∧
      reached.programRows.map GuideRow.programs = [[firstHour]] ∧
      reached.ShowsWindow := by
  have in_order :
      Admitted (fallible window) (WhileRunning ArrivesInOrder)
        (some midnight)
        [.displayChannels 0 75, .programsArrive 0 (some [firstHour])] := by
    refine ⟨?_, ?_, trivial⟩
    · rintro running ⟨⟩
      trivial
    · rintro running ⟨⟩ request ⟨⟩ channel member
      cases List.mem_singleton.mp member
      exact ⟨⟨rfl, rfl⟩, by decide⟩
  refine ⟨_, rfl, rfl, ?_⟩
  exact
    rows_show_window_in_order rfl rfl _ in_order _ (List.prefix_refl _) _
      rfl rfl

/-- The request for a later window fails, and the row keeps the program of
the first hour. -/
theorem failure_shows_programs_of_old_window :
    ∃ reached,
      run (fallible window) (some midnight)
          [.displayChannels 0 75, .programsArrive 0 (some [firstHour]),
            .pageGuideTo 36000000 0, .programsArrive 0 none] =
        some reached ∧
      reached.outstanding = [] ∧
      reached.currentGuideStart = 36000000 ∧
      reached.programRows.map GuideRow.programs = [[firstHour]] ∧
      ¬reached.ShowsWindow := by
  refine ⟨_, rfl, rfl, rfl, rfl, ?_⟩
  intro shows
  obtain ⟨_, _, from_server | ⟨none, _⟩⟩ := shows _ List.mem_cons_self
  · obtain ⟨request, programs, answered, ⟨starts, _⟩, _⟩ := from_server
    rcases List.mem_cons.mp answered with first | later
    · cases first
      exact absurd starts (by decide)
    · cases List.mem_singleton.mp later
  · exact absurd none (by decide)

end Guide

end JellyfinTv.LiveTv
