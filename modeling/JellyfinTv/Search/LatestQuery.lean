import Mathlib.Data.List.Forall2
import JellyfinTv.Search.SearchViewModel

/-!
# The results of the latest query

Only the job of the query that was accepted last can be pending, since every
query that is accepted cancels the job before it.  So whatever is shown later
belongs to that query, and a query that is repeated changes nothing.
-/

namespace JellyfinTv.Search

open JellyfinTv.Library

variable {Item : Type}

/-- Each answer that has arrived is the value at its place. -/
def Gathers {Value : Type} (deferreds : List (Option Value))
    (values : List Value) : Prop :=
  List.Forall₂ (fun deferred value => ∀ found ∈ deferred, found = value)
    deferreds values

section Gathers

variable {Value : Type} {deferreds : List (Option Value)}
  {values : List Value}

theorem gathers_none {Key : Type} (keys : List Key) (value : Key → Value) :
    Gathers (keys.map fun _ => none) (keys.map value) := by
  unfold Gathers
  rw [List.forall₂_map_left_iff, List.forall₂_map_right_iff]
  apply List.forall₂_same.mpr
  rintro key _ found ⟨⟩

theorem Gathers.set (gathers : Gathers deferreds values) (index : Nat)
    {value : Value} (found : values[index]? = some value) :
    Gathers (deferreds.set index (some value)) values := by
  induction gathers generalizing index with
  | nil =>
      exact List.Forall₂.nil
  | @cons deferred first deferreds values head tail inductionHypothesis =>
      cases index with
      | zero =>
          obtain rfl := Option.some.inj found
          refine List.Forall₂.cons ?_ tail
          rintro answer ⟨⟩
          rfl
      | succ index =>
          exact List.Forall₂.cons head (inductionHypothesis index found)

/-- Once all answers have arrived, they are the values. -/
theorem Gathers.all (gathers : Gathers deferreds values)
    (arrived : deferreds.all Option.isSome = true) :
    deferreds.filterMap id = values := by
  induction gathers with
  | nil =>
      rfl
  | @cons deferred first deferreds values head tail inductionHypothesis =>
      rw [List.all_cons, Bool.and_eq_true] at arrived
      obtain ⟨here, later⟩ := arrived
      obtain ⟨answer, rfl⟩ := Option.isSome_iff_exists.mp here
      obtain rfl := head answer rfl
      have rest := inductionHypothesis later
      rw [← rest]
      rfl

end Gathers

inductive Event where
  | searchDebounced (query : String) (debounce : Int)
  | searchImmediately (query : String)
  | delayEnds (job : Nat)
  | searchReturns (job group : Nat)
  | awaitEnds (job : Nat)
  deriving DecidableEq, Repr

/-- The view model and the query that it has accepted last. -/
structure SearchSession (Item : Type) where
  viewModel : SearchViewModel Item
  accepted : Option String
  deriving DecidableEq, Repr

/-- The groups with what the repository answers to a job, in their order. -/
def groupsOf (searchRepository : SearchRepository Item) (job : Nat)
    (trimmed : String) : List (SearchResultGroup Item) :=
  groups.map (searchGroup searchRepository job trimmed)

namespace SearchSession

def created : SearchSession Item where
  viewModel := SearchViewModel.created
  accepted := none

def asked (search : SearchSession Item) (query : String)
    (answer : SearchViewModel Item × Bool) : SearchSession Item where
  viewModel := answer.1
  accepted := if answer.2 then some query else search.accepted

def step (searchRepository : SearchRepository Item)
    (search : SearchSession Item) :
    Event → SearchSession Item
  | .searchDebounced query debounce =>
      search.asked query (search.viewModel.searchDebounced query debounce)
  | .searchImmediately query =>
      search.asked query (search.viewModel.searchImmediately query)
  | .delayEnds job =>
      { search with viewModel := search.viewModel.delayEnds job }
  | .searchReturns job group =>
      { search with
        viewModel :=
          search.viewModel.searchReturns searchRepository job group }
  | .awaitEnds job =>
      { search with viewModel := search.viewModel.awaitEnds job }

/-- The results of the query that was accepted last, which the last job has
searched unless the query is blank. -/
def latestResults (search : SearchSession Item)
    (searchRepository : SearchRepository Item) :
    List (SearchResultGroup Item) :=
  match search.accepted with
  | none => []
  | some query =>
      if isBlank query then
        []
      else
        groupsOf searchRepository (search.viewModel.jobs.length - 1)
          (trim query)

def Idle (search : SearchSession Item) : Prop :=
  ∀ job ∈ search.viewModel.jobs, job.pending = false

/-- The job at this place searches for the query accepted last. -/
structure Latest (search : SearchSession Item) (number : Nat)
    (job : SearchJob Item) : Prop where
  held : search.viewModel.searchJob = some number
  last : number + 1 = search.viewModel.jobs.length
  asked :
    ∃ query, search.accepted = some query ∧ isBlank query = false ∧
      job.trimmed = trim query

structure Sound (searchRepository : SearchRepository Item)
    (search : SearchSession Item) : Prop where
  query : search.viewModel.previousQuery = search.accepted.map trim
  latest :
    ∀ number job, search.viewModel.jobs[number]? = some job →
      job.pending = true → search.Latest number job
  gathers :
    ∀ number trimmed deferreds,
      search.viewModel.jobs[number]? = some ⟨trimmed, .searching deferreds⟩ →
        Gathers deferreds (groupsOf searchRepository number trimmed)
  shown :
    search.Idle →
      search.viewModel.searchResults = search.latestResults searchRepository

variable {searchRepository : SearchRepository Item}
  {search : SearchSession Item}

theorem sound_created :
    (created : SearchSession Item).Sound searchRepository := by
  constructor
  · rfl
  · rintro number job ⟨⟩
  · rintro number trimmed deferreds ⟨⟩
  · intro _
    rfl

theorem Latest.latestResults {number : Nat} {job : SearchJob Item}
    (latest : search.Latest number job) :
    search.latestResults searchRepository =
      groupsOf searchRepository number job.trimmed := by
  obtain ⟨query, accepted, notBlank, trimmed⟩ := latest.asked
  rw [SearchSession.latestResults, accepted]
  dsimp only
  rw [if_neg (by simp [notBlank]), ← latest.last, Nat.add_sub_cancel,
    trimmed]

/-- A step that moves a pending job on and may show its groups. -/
def advanced (search : SearchSession Item) (number : Nat)
    (job : SearchJob Item) (results : List (SearchResultGroup Item)) :
    SearchSession Item :=
  { search with
    viewModel :=
      { search.viewModel with
        searchResults := results
        jobs := search.viewModel.jobs.set number job } }

theorem Latest.advanced {number other : Nat} {job next : SearchJob Item}
    (latest : search.Latest other job)
    (results : List (SearchResultGroup Item)) :
    (search.advanced number next results).Latest other job := by
  refine ⟨latest.held, ?_, latest.asked⟩
  rw [SearchSession.advanced, List.length_set]
  exact latest.last

theorem Sound.advanced {number : Nat} {trimmed : String}
    {phase next : Phase Item} {results : List (SearchResultGroup Item)}
    (sound : search.Sound searchRepository)
    (found : search.viewModel.jobs[number]? = some ⟨trimmed, phase⟩)
    (pending : (⟨trimmed, phase⟩ : SearchJob Item).pending = true)
    (gathers :
      ∀ deferreds, next = .searching deferreds →
        Gathers deferreds (groupsOf searchRepository number trimmed))
    (shown :
      (⟨trimmed, next⟩ : SearchJob Item).pending = false →
        results = groupsOf searchRepository number trimmed) :
    (search.advanced number ⟨trimmed, next⟩ results).Sound
      searchRepository := by
  have latest := sound.latest number ⟨trimmed, phase⟩ found pending
  obtain ⟨inside, _⟩ := List.getElem?_eq_some_iff.mp found
  have here :
      (search.viewModel.jobs.set number ⟨trimmed, next⟩)[number]? =
        some ⟨trimmed, next⟩ :=
    List.getElem?_set_self inside
  have moved :
      (search.advanced number ⟨trimmed, next⟩ results).Latest number
        ⟨trimmed, phase⟩ :=
    latest.advanced results
  constructor
  · exact sound.query
  · intro other job otherFound otherPending
    by_cases same : number = other
    · subst same
      rw [SearchSession.advanced, here] at otherFound
      obtain rfl := Option.some.inj otherFound
      exact ⟨moved.held, moved.last, moved.asked⟩
    · rw [SearchSession.advanced, List.getElem?_set_ne same] at otherFound
      exact (sound.latest other job otherFound otherPending).advanced results
  · intro other otherTrimmed deferreds otherFound
    by_cases same : number = other
    · subst same
      rw [SearchSession.advanced, here] at otherFound
      obtain ⟨rfl, phase⟩ := SearchJob.mk.inj (Option.some.inj otherFound)
      exact gathers deferreds phase
    · rw [SearchSession.advanced, List.getElem?_set_ne same] at otherFound
      exact sound.gathers other otherTrimmed deferreds otherFound
  · intro idle
    rw [moved.latestResults]
    exact shown (idle _ (List.mem_of_getElem? here))

/-- The results are kept, or they are those of the query accepted last. -/
def Follows (searchRepository : SearchRepository Item)
    (before after : SearchSession Item) : Prop :=
  after.viewModel.searchResults = before.viewModel.searchResults ∨
    after.viewModel.searchResults = after.latestResults searchRepository

theorem gathers_searchingAll (number : Nat) (trimmed : String)
    (deferreds : List (Option (SearchResultGroup Item)))
    (started : SearchViewModel.searchingAll = .searching deferreds) :
    Gathers deferreds (groupsOf searchRepository number trimmed) := by
  obtain rfl := Phase.searching.inj started
  exact gathers_none groups _

theorem Sound.delayEnds (sound : search.Sound searchRepository)
    (number : Nat) :
    (search.step searchRepository (.delayEnds number)).Sound
        searchRepository ∧
      Follows searchRepository search
        (search.step searchRepository (.delayEnds number)) := by
  rw [step, SearchViewModel.delayEnds]
  split
  next trimmed found =>
    refine ⟨sound.advanced found rfl ?_ ?_, Or.inl rfl⟩
    · exact gathers_searchingAll number trimmed
    · intro ended
      exact absurd ended.symm Bool.false_ne_true
  next =>
    exact ⟨sound, Or.inl rfl⟩

theorem Sound.searchReturns (sound : search.Sound searchRepository)
    (number group : Nat) :
    (search.step searchRepository (.searchReturns number group)).Sound
        searchRepository ∧
      Follows searchRepository search
        (search.step searchRepository (.searchReturns number group)) := by
  rw [step, SearchViewModel.searchReturns]
  split
  next trimmed deferreds kinds found grouped =>
    refine ⟨sound.advanced found rfl ?_ ?_, Or.inl rfl⟩
    · intro after same
      obtain rfl := Phase.searching.inj same
      apply (sound.gathers number trimmed deferreds found).set
      rw [groupsOf, List.getElem?_map, grouped]
      rfl
    · intro ended
      exact absurd ended.symm Bool.false_ne_true
  next =>
    exact ⟨sound, Or.inl rfl⟩

theorem Sound.awaitEnds (sound : search.Sound searchRepository)
    (number : Nat) :
    (search.step searchRepository (.awaitEnds number)).Sound
        searchRepository ∧
      Follows searchRepository search
        (search.step searchRepository (.awaitEnds number)) := by
  rw [step, SearchViewModel.awaitEnds]
  split
  next trimmed deferreds found =>
    split
    case isTrue arrived =>
      have results :=
        (sound.gathers number trimmed deferreds found).all arrived
      have latest : search.Latest number ⟨trimmed, .searching deferreds⟩ :=
        sound.latest number _ found rfl
      constructor
      · apply sound.advanced found rfl
        · rintro after ⟨⟩
        · intro _
          exact results
      · right
        exact results.trans (latest.advanced _).latestResults.symm
    case isFalse waiting =>
      exact ⟨sound, Or.inl rfl⟩
  next =>
    exact ⟨sound, Or.inl rfl⟩

theorem cancelSearchJob_frame (viewModel : SearchViewModel Item) :
    viewModel.cancelSearchJob.previousQuery = viewModel.previousQuery ∧
      viewModel.cancelSearchJob.searchResults = viewModel.searchResults := by
  unfold SearchViewModel.cancelSearchJob
  split
  · exact ⟨rfl, rfl⟩
  · exact ⟨rfl, rfl⟩

theorem pending_cancel (job : SearchJob Item) :
    job.cancel.pending = false := by
  obtain ⟨trimmed, phase⟩ := job
  cases phase with
  | delaying | searching deferreds | completed | cancelled =>
      rfl

/-- If only the job that is held is pending, nothing is pending after it was
cancelled. -/
theorem pending_cancelSearchJob {viewModel : SearchViewModel Item}
    (held :
      ∀ number job, viewModel.jobs[number]? = some job →
        job.pending = true → viewModel.searchJob = some number) :
    ∀ job ∈ viewModel.cancelSearchJob.jobs, job.pending = false := by
  intro job member
  obtain ⟨number, found⟩ := List.mem_iff_getElem?.mp member
  rw [← Bool.not_eq_true]
  intro pending
  unfold SearchViewModel.cancelSearchJob at found
  split at found
  next none =>
    rw [held number job found pending] at none
    exact Option.some_ne_none number none
  next current searchJob =>
    rw [List.getElem?_modify] at found
    obtain ⟨before, beforeFound, changed⟩ := Option.map_eq_some_iff.mp found
    split at changed
    case isTrue same =>
      rw [← changed, pending_cancel] at pending
      exact Bool.false_ne_true pending
    case isFalse different =>
      obtain rfl : before = job := changed
      rw [held number before beforeFound pending] at searchJob
      exact different (Option.some.inj searchJob).symm

section Asked

variable {viewModel : SearchViewModel Item} {query : String}

/-- A blank query leaves nothing to search. -/
theorem sound_blank (idle : ∀ job ∈ viewModel.jobs, job.pending = false)
    (previous : viewModel.previousQuery = some (trim query))
    (blank : isBlank query = true) :
    (⟨{ viewModel with searchResults := [] }, some query⟩ :
      SearchSession Item).Sound searchRepository := by
  constructor
  · exact previous
  · intro number job found pending
    rw [idle job (List.mem_of_getElem? found)] at pending
    exact absurd pending Bool.false_ne_true
  · intro number trimmed deferreds found
    exact
      absurd (idle _ (List.mem_of_getElem? found)).symm Bool.false_ne_true
  · intro _
    rw [SearchSession.latestResults]
    exact (if_pos blank).symm

theorem pending_launched (trimmed : String) (debounce : Int) :
    (⟨trimmed,
        if 0 < debounce then .delaying else SearchViewModel.searchingAll⟩ :
      SearchJob Item).pending = true := by
  split
  · rfl
  · rfl

theorem launched_cases {number : Nat} {job : SearchJob Item}
    (idle : ∀ job ∈ viewModel.jobs, job.pending = false)
    (trimmed : String) (debounce : Int)
    (found :
      (viewModel.launch trimmed debounce).jobs[number]? = some job) :
    job.pending = false ∨
      number = viewModel.jobs.length ∧ job.trimmed = trimmed ∧
        (job.phase = .delaying ∨ job.phase = SearchViewModel.searchingAll)
    := by
  rw [SearchViewModel.launch, List.getElem?_append] at found
  split at found
  case isTrue earlier =>
    exact Or.inl (idle job (List.mem_of_getElem? found))
  case isFalse later =>
    right
    obtain ⟨inside, rfl⟩ := List.getElem?_eq_some_iff.mp found
    rw [List.length_singleton] at inside
    have last : number = viewModel.jobs.length := by
      omega
    subst last
    refine ⟨rfl, by simp, ?_⟩
    simp only [Nat.sub_self, List.getElem_cons_zero]
    split
    · exact Or.inl rfl
    · exact Or.inr rfl

/-- The job of a query that is not blank is the only one that is pending. -/
theorem sound_launch (idle : ∀ job ∈ viewModel.jobs, job.pending = false)
    (previous : viewModel.previousQuery = some (trim query))
    (notBlank : isBlank query = false) (debounce : Int) :
    (⟨viewModel.launch (trim query) debounce, some query⟩ :
      SearchSession Item).Sound searchRepository := by
  constructor
  · exact previous
  · intro number job found pending
    rcases launched_cases idle (trim query) debounce found with ended |
        ⟨rfl, trimmed, _⟩
    · rw [ended] at pending
      exact absurd pending Bool.false_ne_true
    · refine ⟨rfl, ?_, query, rfl, notBlank, trimmed⟩
      rw [SearchViewModel.launch, List.length_append]
      rfl
  · intro number trimmed deferreds found
    rcases launched_cases idle (trim query) debounce found with ended |
        ⟨_, _, delaying | searching⟩
    · exact absurd ended.symm Bool.false_ne_true
    · cases delaying
    · exact gathers_searchingAll number trimmed deferreds searching.symm
  · intro stopped
    have ended :=
      stopped _ (List.mem_append_right _ (List.mem_singleton_self _))
    rw [pending_launched] at ended
    exact absurd ended.symm Bool.false_ne_true

theorem Sound.asked (sound : search.Sound searchRepository)
    (query : String) (debounce : Int) :
    (search.asked query
        (search.viewModel.searchDebounced query debounce)).Sound
        searchRepository ∧
      Follows searchRepository search
        (search.asked query
          (search.viewModel.searchDebounced query debounce)) := by
  rw [SearchViewModel.searchDebounced]
  dsimp only
  split
  case isTrue repeated =>
    exact ⟨sound, Or.inl rfl⟩
  case isFalse new =>
    have frame :=
      cancelSearchJob_frame
        { search.viewModel with previousQuery := some (trim query) }
    have idle :
        ∀ job ∈ { search.viewModel with
            previousQuery := some (trim query) }.cancelSearchJob.jobs,
          job.pending = false := by
      apply pending_cancelSearchJob
      intro number job found pending
      exact (sound.latest number job found pending).held
    rw [isBlank_trim]
    split
    case isTrue blank =>
      refine ⟨sound_blank idle frame.1 blank, Or.inr ?_⟩
      rw [SearchSession.latestResults]
      exact (if_pos blank).symm
    case isFalse notBlank =>
      rw [Bool.not_eq_true] at notBlank
      exact
        ⟨sound_launch idle frame.1 notBlank debounce, Or.inl frame.2⟩

end Asked

theorem Sound.step (sound : search.Sound searchRepository) (event : Event) :
    (search.step searchRepository event).Sound searchRepository ∧
      Follows searchRepository search
        (search.step searchRepository event) := by
  cases event with
  | searchDebounced query debounce =>
      exact sound.asked query debounce
  | searchImmediately query =>
      exact sound.asked query 0
  | delayEnds number =>
      exact sound.delayEnds number
  | searchReturns number group =>
      exact sound.searchReturns number group
  | awaitEnds number =>
      exact sound.awaitEnds number

/-- Whatever the orders in which the delays and the searches end, the results
change to those of the query accepted last only, and they are its results
when no job is pending. -/
theorem results_follow_latest_query
    (searchRepository : SearchRepository Item) (events : List Event) :
    let reached := run (step searchRepository) created events
    (∀ event,
        Follows searchRepository reached
          (reached.step searchRepository event)) ∧
      (reached.Idle →
        reached.viewModel.searchResults =
          reached.latestResults searchRepository) := by
  have sound :
      (run (step searchRepository) created events).Sound
        searchRepository :=
    run_preserves (fun _ event sound => (sound.step event).1) sound_created
      events
  exact ⟨fun event => (sound.step event).2, sound.shown⟩

end SearchSession

end JellyfinTv.Search
