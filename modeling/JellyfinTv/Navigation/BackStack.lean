import JellyfinTv.Library.Runs

/-!
# The two back stacks

`NavigationRepositoryImpl` keeps a stack of the destinations that were
navigated to since the last reset, and `DestinationFragmentView` one of the
fragments it has shown.  The view has one more entry at the bottom, that of
the reset, which the repository does not know.  Every action that the
repository emits is delivered to the view once and in order.
-/

namespace JellyfinTv.Navigation

open JellyfinTv.Library

section BackStack

variable {FragmentClass Bundle : Type}

/-- `Destination.Fragment`. -/
structure Destination (FragmentClass Bundle : Type) where
  fragment : FragmentClass
  arguments : Bundle
  deriving DecidableEq, Repr

inductive NavigationAction (FragmentClass Bundle : Type) where
  | navigateFragment (destination : Destination FragmentClass Bundle)
      (addToBackStack replace clear : Bool)
  | goBack
  deriving DecidableEq, Repr

structure NavigationRepository (FragmentClass Bundle : Type) where
  defaultDestination : Destination FragmentClass Bundle
  fragmentHistory : List (Destination FragmentClass Bundle)
  deriving DecidableEq, Repr

namespace NavigationRepository

def navigate (repository : NavigationRepository FragmentClass Bundle)
    (destination : Destination FragmentClass Bundle) (replace : Bool) :
    NavigationRepository FragmentClass Bundle ×
      NavigationAction FragmentClass Bundle :=
  let fragmentHistory :=
    if replace ∧ repository.fragmentHistory ≠ [] then
      repository.fragmentHistory.dropLast ++ [destination]
    else
      repository.fragmentHistory ++ [destination]
  ({ repository with fragmentHistory := fragmentHistory },
    .navigateFragment destination true replace false)

def canGoBack (repository : NavigationRepository FragmentClass Bundle) :
    Bool :=
  !repository.fragmentHistory.isEmpty

/-- The answer of `goBack` is whether there is an action. -/
def goBack (repository : NavigationRepository FragmentClass Bundle) :
    NavigationRepository FragmentClass Bundle ×
      Option (NavigationAction FragmentClass Bundle) :=
  if repository.fragmentHistory = [] then
    (repository, none)
  else
    ({ repository with
        fragmentHistory := repository.fragmentHistory.dropLast },
      some .goBack)

def reset (repository : NavigationRepository FragmentClass Bundle)
    (destination : Option (Destination FragmentClass Bundle))
    (clearHistory : Bool) :
    NavigationRepository FragmentClass Bundle ×
      NavigationAction FragmentClass Bundle :=
  ({ repository with fragmentHistory := [] },
    .navigateFragment
      (destination.getD repository.defaultDestination) true false
      clearHistory)

end NavigationRepository

/-- A fragment object is the number of its creation. -/
structure HistoryEntry (FragmentClass Bundle : Type) where
  name : FragmentClass
  arguments : Bundle
  fragment : Option Nat
  deriving DecidableEq, Repr

def HistoryEntry.destination
    (entry : HistoryEntry FragmentClass Bundle) :
    Destination FragmentClass Bundle :=
  ⟨entry.name, entry.arguments⟩

/-- The history of the view, the number of fragments it has created and the
one in its container. -/
structure DestinationFragmentView (FragmentClass Bundle : Type) where
  history : List (HistoryEntry FragmentClass Bundle)
  created : Nat
  content : Option Nat
  deriving DecidableEq, Repr

namespace DestinationFragmentView

/-- `activateHistoryEntry`, which is always called for the last entry. -/
def activateHistoryEntry
    (view : DestinationFragmentView FragmentClass Bundle)
    (below : List (HistoryEntry FragmentClass Bundle))
    (entry : HistoryEntry FragmentClass Bundle) :
    DestinationFragmentView FragmentClass Bundle :=
  match entry.fragment with
  | some fragment =>
      { view with
        history := below ++ [entry]
        content := some fragment }
  | none =>
      { history := below ++ [{ entry with fragment := some view.created }]
        created := view.created + 1
        content := some view.created }

def navigate (view : DestinationFragmentView FragmentClass Bundle)
    (destination : Destination FragmentClass Bundle)
    (addToBackStack replace clear : Bool) :
    DestinationFragmentView FragmentClass Bundle :=
  let entry := ⟨destination.fragment, destination.arguments, none⟩
  let below :=
    if clear then
      []
    else if replace ∧ addToBackStack ∧ view.history ≠ [] then
      view.history.dropLast
    else
      view.history
  view.activateHistoryEntry below entry

/-- At least two entries are required, the current and the previous one. -/
def goBack (view : DestinationFragmentView FragmentClass Bundle) :
    DestinationFragmentView FragmentClass Bundle × Bool :=
  if view.history.length < 2 then
    (view, false)
  else
    let remaining := view.history.dropLast
    match remaining.getLast? with
    | none => (view, false)
    | some entry =>
        (view.activateHistoryEntry remaining.dropLast entry, true)

/-- The container holds the fragment of the last entry, which is one of the
destination. -/
def Shows (view : DestinationFragmentView FragmentClass Bundle)
    (destination : Destination FragmentClass Bundle) : Prop :=
  ∃ below entry,
    view.history = below ++ [entry] ∧
      entry.destination = destination ∧
      entry.fragment.isSome ∧ entry.fragment = view.content

end DestinationFragmentView

structure AppNavigation (FragmentClass Bundle : Type) where
  repository : NavigationRepository FragmentClass Bundle
  view : DestinationFragmentView FragmentClass Bundle
  deriving DecidableEq, Repr

inductive Operation (FragmentClass Bundle : Type) where
  | navigate (destination : Destination FragmentClass Bundle)
      (replace : Bool)
  | goBack
  | reset (destination : Option (Destination FragmentClass Bundle))
      (clearHistory : Bool)
  deriving DecidableEq, Repr

/-- The collector in `AppNavigationHost`. -/
def deliver (view : DestinationFragmentView FragmentClass Bundle) :
    NavigationAction FragmentClass Bundle →
      DestinationFragmentView FragmentClass Bundle
  | .navigateFragment destination addToBackStack replace clear =>
      view.navigate destination addToBackStack replace clear
  | .goBack => view.goBack.1

def step (navigation : AppNavigation FragmentClass Bundle) :
    Operation FragmentClass Bundle → AppNavigation FragmentClass Bundle
  | .navigate destination replace =>
      let (repository, action) :=
        navigation.repository.navigate destination replace
      ⟨repository, deliver navigation.view action⟩
  | .goBack =>
      match navigation.repository.goBack with
      | (repository, none) => ⟨repository, navigation.view⟩
      | (repository, some action) =>
          ⟨repository, deliver navigation.view action⟩
  | .reset destination clearHistory =>
      let (repository, action) :=
        navigation.repository.reset destination clearHistory
      ⟨repository, deliver navigation.view action⟩

/-- The view has one base entry and then those of the repository. -/
def StacksAgree (navigation : AppNavigation FragmentClass Bundle) : Prop :=
  ∃ base,
    navigation.view.history.map HistoryEntry.destination =
      base :: navigation.repository.fragmentHistory

/-- The stacks agree, the repository can go back exactly if the view can, and
after the repository has gone back the view shows what was below its last
entry. -/
structure Agrees (navigation : AppNavigation FragmentClass Bundle) :
    Prop where
  same_stacks : StacksAgree navigation
  canGoBack :
    navigation.repository.canGoBack = navigation.view.goBack.2
  previous :
    navigation.repository.goBack.2.isSome →
      ∃ below entry last,
        navigation.view.history = below ++ [entry, last] ∧
          (step navigation .goBack).view.Shows entry.destination

/-- An entry is not replaced while the repository has none, and a reset clears
the history. -/
def KeepsBase (navigation : AppNavigation FragmentClass Bundle) :
    Operation FragmentClass Bundle → Prop
  | .navigate _ replace =>
      replace = true → navigation.repository.fragmentHistory ≠ []
  | .goBack => True
  | .reset _ clearHistory => clearHistory = true

namespace DestinationFragmentView

variable (view : DestinationFragmentView FragmentClass Bundle)

/-- Activating an entry puts it on top of the entries below. -/
theorem activateHistoryEntry_destinations
    (below : List (HistoryEntry FragmentClass Bundle))
    (entry : HistoryEntry FragmentClass Bundle) :
    (view.activateHistoryEntry below entry).history.map
        HistoryEntry.destination =
      below.map HistoryEntry.destination ++ [entry.destination] := by
  unfold activateHistoryEntry
  split
  · simp
  · simp [HistoryEntry.destination]

theorem activateHistoryEntry_shows
    (below : List (HistoryEntry FragmentClass Bundle))
    (entry : HistoryEntry FragmentClass Bundle) :
    (view.activateHistoryEntry below entry).Shows entry.destination := by
  unfold activateHistoryEntry
  split
  · rename_i fragment created
    exact ⟨below, entry, rfl, rfl, by simp [created], created⟩
  · exact ⟨below, _, rfl, rfl, rfl, rfl⟩

theorem goBack_append (below : List (HistoryEntry FragmentClass Bundle))
    (entry last : HistoryEntry FragmentClass Bundle)
    (stacked : view.history = below ++ [entry, last]) :
    view.goBack = (view.activateHistoryEntry below entry, true) := by
  have remaining : view.history.dropLast = below ++ [entry] := by
    rw [stacked, List.dropLast_append_cons]
    rfl
  have enough : ¬view.history.length < 2 := by
    rw [stacked, List.length_append, List.length_cons, List.length_singleton]
    omega
  unfold goBack
  rw [if_neg enough]
  dsimp only
  rw [remaining]
  simp

end DestinationFragmentView

section Agreement

variable {navigation : AppNavigation FragmentClass Bundle}
variable {base : Destination FragmentClass Bundle}

/-- Where the repository has an entry, the view has one below its last. -/
theorem StacksAgree.split
    (agree :
      navigation.view.history.map HistoryEntry.destination =
        base :: navigation.repository.fragmentHistory)
    (nonempty : navigation.repository.fragmentHistory ≠ []) :
    ∃ below entry last,
      navigation.view.history = below ++ [entry, last] ∧
        (below ++ [entry]).map HistoryEntry.destination =
          base :: navigation.repository.fragmentHistory.dropLast := by
  have lengths := congrArg List.length agree
  have positive := List.length_pos_of_ne_nil nonempty
  rw [List.length_map, List.length_cons] at lengths
  have some : navigation.view.history ≠ [] :=
    List.ne_nil_of_length_pos (by omega)
  have more : navigation.view.history.dropLast ≠ [] := by
    apply List.ne_nil_of_length_pos
    rw [List.length_dropLast]
    omega
  refine
    ⟨navigation.view.history.dropLast.dropLast,
      navigation.view.history.dropLast.getLast more,
      navigation.view.history.getLast some, ?_, ?_⟩
  · rw [List.append_cons, List.dropLast_append_getLast,
      List.dropLast_append_getLast]
  · rw [List.dropLast_append_getLast, List.map_dropLast, agree,
      List.dropLast_cons_of_ne_nil nonempty]

/-- The rest follows from the agreement of the stacks. -/
theorem agrees_iff (navigation : AppNavigation FragmentClass Bundle) :
    Agrees navigation ↔ StacksAgree navigation := by
  refine ⟨Agrees.same_stacks, fun same_stacks => ?_⟩
  obtain ⟨base, agree⟩ := same_stacks
  by_cases empty : navigation.repository.fragmentHistory = []
  · have single : navigation.view.history.length = 1 := by
      have lengths := congrArg List.length agree
      rw [List.length_map, empty] at lengths
      exact lengths
    refine ⟨⟨base, agree⟩, ?_, ?_⟩
    · simp [NavigationRepository.canGoBack,
        DestinationFragmentView.goBack, empty, single]
    · intro went
      simp [NavigationRepository.goBack, empty] at went
  · obtain ⟨below, entry, last, stacked, _⟩ := StacksAgree.split agree empty
    have went :=
      navigation.view.goBack_append below entry last stacked
    refine ⟨⟨base, agree⟩, ?_, ?_⟩
    · rw [went]
      simp [NavigationRepository.canGoBack, empty]
    · intro _
      refine ⟨below, entry, last, stacked, ?_⟩
      have shows :
          (step navigation .goBack).view =
            navigation.view.activateHistoryEntry below entry := by
        simp only [step, NavigationRepository.goBack, if_neg empty, deliver,
          went]
      rw [shows]
      exact navigation.view.activateHistoryEntry_shows below entry

end Agreement

theorem stacksAgree_navigate_iff
    {navigation : AppNavigation FragmentClass Bundle}
    (same_stacks : StacksAgree navigation)
    (destination : Destination FragmentClass Bundle) (replace : Bool) :
    StacksAgree (step navigation (.navigate destination replace)) ↔
      KeepsBase navigation (.navigate destination replace) := by
  obtain ⟨base, agree⟩ := same_stacks
  have some : navigation.view.history ≠ [] := by
    intro none
    rw [none] at agree
    cases agree
  simp only [StacksAgree, step, NavigationRepository.navigate, deliver,
    DestinationFragmentView.navigate, KeepsBase, Bool.false_eq_true,
    if_false, DestinationFragmentView.activateHistoryEntry_destinations]
  cases replace with
  | false =>
      simp [agree, HistoryEntry.destination]
  | true =>
      by_cases empty : navigation.repository.fragmentHistory = []
      · refine iff_of_false ?_ (by simp [empty])
        intro given
        obtain ⟨other, same⟩ := given
        have lengths := congrArg List.length same
        simp [empty, some, agree, List.map_dropLast] at lengths
      · refine iff_of_true ⟨base, ?_⟩ (by simp [empty])
        simp [empty, some, agree, List.map_dropLast,
          List.dropLast_cons_of_ne_nil empty, HistoryEntry.destination]

theorem stacksAgree_goBack
    {navigation : AppNavigation FragmentClass Bundle}
    (same_stacks : StacksAgree navigation) :
    StacksAgree (step navigation .goBack) := by
  obtain ⟨base, agree⟩ := same_stacks
  by_cases empty : navigation.repository.fragmentHistory = []
  · refine ⟨base, ?_⟩
    simp only [step, NavigationRepository.goBack, if_pos empty]
    exact agree
  · obtain ⟨below, entry, last, stacked, remaining⟩ :=
      StacksAgree.split agree empty
    have went :=
      navigation.view.goBack_append below entry last stacked
    refine ⟨base, ?_⟩
    simp only [step, NavigationRepository.goBack, if_neg empty, deliver,
      went]
    rw [DestinationFragmentView.activateHistoryEntry_destinations,
      ← remaining, List.map_append]
    rfl

theorem stacksAgree_reset_iff
    {navigation : AppNavigation FragmentClass Bundle}
    (some : navigation.view.history ≠ [])
    (destination : Option (Destination FragmentClass Bundle))
    (clearHistory : Bool) :
    StacksAgree (step navigation (.reset destination clearHistory)) ↔
      clearHistory = true := by
  simp only [StacksAgree, step, NavigationRepository.reset, deliver,
    DestinationFragmentView.navigate,
    DestinationFragmentView.activateHistoryEntry_destinations]
  cases clearHistory with
  | true =>
      exact iff_of_true ⟨_, rfl⟩ rfl
  | false =>
      refine iff_of_false ?_ (by simp)
      intro given
      obtain ⟨other, same⟩ := given
      have lengths := congrArg List.length same
      simp [some] at lengths

theorem stacksAgree_step_iff
    {navigation : AppNavigation FragmentClass Bundle}
    (same_stacks : StacksAgree navigation)
    (operation : Operation FragmentClass Bundle) :
    StacksAgree (step navigation operation) ↔
      KeepsBase navigation operation := by
  cases operation with
  | navigate destination replace =>
      exact stacksAgree_navigate_iff same_stacks destination replace
  | goBack =>
      exact iff_of_true (stacksAgree_goBack same_stacks) trivial
  | reset destination clearHistory =>
      apply stacksAgree_reset_iff
      obtain ⟨base, agree⟩ := same_stacks
      intro none
      rw [none] at agree
      cases agree

/-- After a reset that clears the history, the back stacks agree throughout a
run if and only if every operation keeps the base entry of the view. -/
theorem back_stacks_agree_iff
    (navigation : AppNavigation FragmentClass Bundle)
    (destination : Option (Destination FragmentClass Bundle))
    (operations : List (Operation FragmentClass Bundle)) :
    (∀ early, early <+: operations →
      Agrees (run step (step navigation (.reset destination true)) early)) ↔
      Admitted step KeepsBase (step navigation (.reset destination true))
        operations := by
  have initially :
      StacksAgree (step navigation (.reset destination true)) := by
    simp [StacksAgree, step, NavigationRepository.reset, deliver,
      DestinationFragmentView.navigate,
      DestinationFragmentView.activateHistoryEntry_destinations]
  simp only [agrees_iff]
  apply property_throughout_iff_admitted _ operations initially
  intro navigation operation same_stacks
  exact stacksAgree_step_iff same_stacks operation

/-- A new repository and a new view. -/
def opened : AppNavigation String Unit where
  repository := ⟨⟨"home", ()⟩, []⟩
  view := ⟨[], 0, none⟩

/-- Right after the reset a replacement takes the base entry of the view: the
repository then goes back, and the view stays where it is. -/
theorem replaced_base_cannot_go_back :
    let replaced :=
      run step opened
        [.reset none true, .navigate ⟨"video", ()⟩ true]
    replaced.repository.canGoBack = true ∧
      replaced.repository.goBack.2 = some .goBack ∧
      replaced.view.goBack.2 = false ∧
      (step replaced .goBack).view = replaced.view ∧
      replaced.view.history.map HistoryEntry.destination =
        replaced.repository.fragmentHistory ∧
      ¬Agrees replaced := by
  refine ⟨by decide, by decide, by decide, by decide, by decide, ?_⟩
  intro agrees
  exact absurd agrees.canGoBack (by decide)

end BackStack

end JellyfinTv.Navigation
