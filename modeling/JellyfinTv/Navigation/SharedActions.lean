import JellyfinTv.Library.SharedFlow
import JellyfinTv.Navigation.BackStack

/-!
# Actions in a shared flow

The repository emits its actions into a shared flow with a replay cache of
one action, and the collector in `AppNavigationHost` takes them at any later
moment.  An action that is emitted while another one waits drops that one,
although the repository has already applied it.
-/

namespace JellyfinTv.Navigation

open JellyfinTv.Library

section SharedActions

variable {FragmentClass Bundle : Type}

/-- The two back stacks with the flow between them. -/
structure HostedNavigation (FragmentClass Bundle : Type) where
  navigation : AppNavigation FragmentClass Bundle
  currentAction : SharedFlow (NavigationAction FragmentClass Bundle) 1

namespace HostedNavigation

variable (host : HostedNavigation FragmentClass Bundle)

/-- The repository has changed and may have emitted an action. -/
def emitted (repository : NavigationRepository FragmentClass Bundle)
    (action : Option (NavigationAction FragmentClass Bundle)) :
    HostedNavigation FragmentClass Bundle where
  navigation := { host.navigation with repository := repository }
  currentAction :=
    match action with
    | none => host.currentAction
    | some action => host.currentAction.emit action

/-- The operations of the repository. -/
def perform :
    Operation FragmentClass Bundle → HostedNavigation FragmentClass Bundle
  | .navigate destination replace =>
      let (repository, action) :=
        host.navigation.repository.navigate destination replace
      host.emitted repository (some action)
  | .goBack =>
      let (repository, action) := host.navigation.repository.goBack
      host.emitted repository action
  | .reset destination clearHistory =>
      let (repository, action) :=
        host.navigation.repository.reset destination clearHistory
      host.emitted repository (some action)

/-- The collector runs once. -/
def collect : HostedNavigation FragmentClass Bundle :=
  match host.currentAction.collect with
  | (none, _) => host
  | (some action, later) =>
      { navigation :=
          { host.navigation with
            view := deliver host.navigation.view action }
        currentAction := later }

/-- A reset that clears the history, and its delivery. -/
def afterReset (destination : Option (Destination FragmentClass Bundle)) :
    HostedNavigation FragmentClass Bundle :=
  (host.perform (.reset destination true)).collect

/-- The stacks as they will be when the collector has caught up. -/
def settled : AppNavigation FragmentClass Bundle :=
  { host.navigation with
    view :=
      host.currentAction.pending.foldl deliver host.navigation.view }

end HostedNavigation

/-- The calls `navigate(d)` and `goBack()`, and the steps of the collector. -/
inductive HostEvent (FragmentClass Bundle : Type) where
  | navigate (destination : Destination FragmentClass Bundle)
  | goBack
  | collect
  deriving DecidableEq, Repr

def hostStep (host : HostedNavigation FragmentClass Bundle) :
    HostEvent FragmentClass Bundle → HostedNavigation FragmentClass Bundle
  | .navigate destination => host.perform (.navigate destination false)
  | .goBack => host.perform .goBack
  | .collect => host.collect

namespace HostedNavigation

variable (host : HostedNavigation FragmentClass Bundle)

/-- One step of the collector catches up. -/
theorem pending_collect : host.collect.currentAction.pending = [] := by
  unfold collect
  cases waiting : host.currentAction.pending with
  | nil =>
      rw [SharedFlow.collect_of_caughtUp waiting]
      exact waiting
  | cons action rest =>
      obtain ⟨later, taken, left⟩ := SharedFlow.collect_of_pending waiting
      have single := host.currentAction.pending_length_le
      rw [waiting, List.length_cons] at single
      rw [taken]
      exact left.trans (List.length_eq_zero_iff.mp (by omega))

theorem settled_collect : host.collect.settled = host.settled := by
  have caughtUp := host.pending_collect
  rw [settled, caughtUp, settled, collect]
  cases waiting : host.currentAction.pending with
  | nil =>
      rw [SharedFlow.collect_of_caughtUp waiting]
  | cons action rest =>
      obtain ⟨later, taken, left⟩ := SharedFlow.collect_of_pending waiting
      have single := host.currentAction.pending_length_le
      rw [waiting, List.length_cons] at single
      have last : rest = [] := List.length_eq_zero_iff.mp (by omega)
      rw [taken, last]
      rfl

theorem settled_of_caughtUp
    (caughtUp : host.currentAction.pending = []) :
    host.settled = host.navigation := by
  rw [settled, caughtUp]
  rfl

theorem navigation_collect : host.collect.navigation = host.settled := by
  rw [← settled_of_caughtUp _ host.pending_collect, settled_collect]

/-- The newest action is the only one that waits. -/
theorem pending_emitted
    (repository : NavigationRepository FragmentClass Bundle)
    (action : NavigationAction FragmentClass Bundle) :
    (host.emitted repository (some action)).currentAction.pending =
      [action] := by
  simp only [emitted, SharedFlow.pending_emit, Nat.add_sub_cancel,
    List.drop_left]

/-- An operation that emits an action makes the collector do what it would
have done at once, on the view as it is. -/
theorem settled_emitted
    (repository : NavigationRepository FragmentClass Bundle)
    (action : NavigationAction FragmentClass Bundle) :
    (host.emitted repository (some action)).settled =
      ⟨repository, deliver host.navigation.view action⟩ := by
  rw [settled, pending_emitted]
  rfl

theorem settled_navigate
    (destination : Destination FragmentClass Bundle) (replace : Bool) :
    (host.perform (.navigate destination replace)).settled =
      step host.navigation (.navigate destination replace) :=
  host.settled_emitted _ _

theorem perform_goBack_of_empty
    (empty : host.navigation.repository.fragmentHistory = []) :
    host.perform .goBack = host := by
  simp only [perform, NavigationRepository.goBack, if_pos empty]
  rfl

theorem perform_goBack_of_nonempty
    (nonempty : host.navigation.repository.fragmentHistory ≠ []) :
    host.perform .goBack =
      host.emitted
        { host.navigation.repository with
          fragmentHistory :=
            host.navigation.repository.fragmentHistory.dropLast }
        (some .goBack) := by
  simp only [perform, NavigationRepository.goBack, if_neg nonempty]

theorem settled_goBack_of_nonempty
    (nonempty : host.navigation.repository.fragmentHistory ≠ []) :
    (host.perform .goBack).settled = step host.navigation .goBack := by
  rw [host.perform_goBack_of_nonempty nonempty, settled_emitted]
  simp only [step, NavigationRepository.goBack, if_neg nonempty]

end HostedNavigation

/-- An action is emitted when the collector has caught up.  Where an action
still waits, the view may only be at its base: for `navigate` the repository
is empty, for `goBack` it has the one entry that the lost action added. -/
def InTime (host : HostedNavigation FragmentClass Bundle) :
    HostEvent FragmentClass Bundle → Prop
  | .navigate _ =>
      host.currentAction.pending = [] ∨
        host.navigation.view.history.length = 1 ∧
          host.navigation.repository.fragmentHistory.length = 0
  | .goBack =>
      host.currentAction.pending = [] ∨
        host.navigation.repository.fragmentHistory = [] ∨
          host.navigation.view.history.length = 1 ∧
            host.navigation.repository.fragmentHistory.length = 1
  | .collect => True

/-- The waiting actions come from `navigate(d)` and `goBack()`. -/
def PlainActions (host : HostedNavigation FragmentClass Bundle) : Prop :=
  ∀ action ∈ host.currentAction.pending,
    action = .goBack ∨
      ∃ destination, action = .navigateFragment destination true false false

theorem plainActions_step {host : HostedNavigation FragmentClass Bundle}
    (plain : PlainActions host) (event : HostEvent FragmentClass Bundle) :
    PlainActions (hostStep host event) := by
  cases event with
  | navigate destination =>
      intro action waiting
      rw [hostStep, HostedNavigation.perform] at waiting
      simp only [HostedNavigation.pending_emitted, List.mem_singleton]
        at waiting
      exact Or.inr ⟨destination, waiting⟩
  | goBack =>
      rw [hostStep]
      by_cases empty : host.navigation.repository.fragmentHistory = []
      · rw [host.perform_goBack_of_empty empty]
        exact plain
      · rw [host.perform_goBack_of_nonempty empty]
        intro action waiting
        simp only [HostedNavigation.pending_emitted, List.mem_singleton]
          at waiting
        exact Or.inl waiting
  | collect =>
      intro action waiting
      rw [hostStep, HostedNavigation.pending_collect] at waiting
      cases waiting

theorem stacksAgree_length {navigation : AppNavigation FragmentClass Bundle}
    (agree : StacksAgree navigation) :
    navigation.view.history.length =
      navigation.repository.fragmentHistory.length + 1 := by
  obtain ⟨base, same⟩ := agree
  have lengths := congrArg List.length same
  rw [List.length_map, List.length_cons] at lengths
  exact lengths

theorem length_navigate (view : DestinationFragmentView FragmentClass Bundle)
    (destination : Destination FragmentClass Bundle) :
    (view.navigate destination true false false).history.length =
      view.history.length + 1 := by
  have destinations :=
    view.activateHistoryEntry_destinations view.history
      ⟨destination.fragment, destination.arguments, none⟩
  have lengths := congrArg List.length destinations
  rw [List.length_map, List.length_append, List.length_map,
    List.length_singleton] at lengths
  simpa [DestinationFragmentView.navigate] using lengths

theorem length_goBack
    (view : DestinationFragmentView FragmentClass Bundle) :
    view.goBack.1.history.length =
      if view.history.length < 2 then view.history.length
      else view.history.length - 1 := by
  unfold DestinationFragmentView.goBack
  split
  · rfl
  · rename_i enough
    have remains : view.history.dropLast ≠ [] := by
      apply List.ne_nil_of_length_pos
      rw [List.length_dropLast]
      omega
    simp only [List.getLast?_eq_some_getLast remains]
    have destinations :=
      view.activateHistoryEntry_destinations view.history.dropLast.dropLast
        (view.history.dropLast.getLast remains)
    have lengths := congrArg List.length destinations
    simp only [List.length_map, List.length_append, List.length_dropLast,
      List.length_singleton] at lengths
    omega

/-- While an action waits and the stacks will agree, the lengths of the
stacks as they are differ by one in a known direction. -/
theorem waiting_lengths {host : HostedNavigation FragmentClass Bundle}
    (plain : PlainActions host) (agree : StacksAgree host.settled)
    (waits : host.currentAction.pending ≠ []) :
    host.navigation.view.history.length =
        host.navigation.repository.fragmentHistory.length ∨
      host.navigation.view.history.length =
          host.navigation.repository.fragmentHistory.length + 2 ∨
        host.navigation.view.history.length = 1 ∧
          host.navigation.repository.fragmentHistory.length = 0 := by
  obtain ⟨action, rest, waiting⟩ := List.exists_cons_of_ne_nil waits
  have single := host.currentAction.pending_length_le
  rw [waiting, List.length_cons] at single
  have last : rest = [] := List.length_eq_zero_iff.mp (by omega)
  have lengths := stacksAgree_length agree
  rw [HostedNavigation.settled, waiting, last] at lengths
  simp only [List.foldl_cons, List.foldl_nil] at lengths
  have asked :=
    plain action (by rw [waiting]; exact List.mem_cons_self)
  rcases asked with rfl | ⟨destination, rfl⟩
  · simp only [deliver, length_goBack] at lengths
    split at lengths <;> omega
  · simp only [deliver, length_navigate] at lengths
    omega

theorem stacksAgree_of_lengths
    {navigation : AppNavigation FragmentClass Bundle}
    (single : navigation.view.history.length = 1)
    (none : navigation.repository.fragmentHistory.length = 0) :
    StacksAgree navigation := by
  obtain ⟨entry, only⟩ := List.length_eq_one_iff.mp single
  refine ⟨entry.destination, ?_⟩
  rw [only, List.length_eq_zero_iff.mp none]
  rfl

/-- A step keeps the stacks on their way to agreement exactly if its action is
emitted in time. -/
theorem settled_step_iff {host : HostedNavigation FragmentClass Bundle}
    (plain : PlainActions host) (agree : StacksAgree host.settled)
    (event : HostEvent FragmentClass Bundle) :
    StacksAgree (hostStep host event).settled ↔ InTime host event := by
  cases event with
  | navigate destination =>
      rw [hostStep, HostedNavigation.settled_navigate, InTime]
      constructor
      · intro agreed
        by_cases caughtUp : host.currentAction.pending = []
        · exact Or.inl caughtUp
        · have lengths := stacksAgree_length agreed
          simp only [step, NavigationRepository.navigate, deliver,
            Bool.false_eq_true, false_and, if_false, length_navigate,
            List.length_append, List.length_singleton] at lengths
          rcases waiting_lengths plain agree caughtUp with
            same | more | based
          · omega
          · omega
          · exact Or.inr based
      · intro either
        rcases either with caughtUp | ⟨single, none⟩
        · rw [HostedNavigation.settled_of_caughtUp host caughtUp] at agree
          exact
            (stacksAgree_navigate_iff agree destination false).mpr
              (fun replaced => by cases replaced)
        · exact
            (stacksAgree_navigate_iff (stacksAgree_of_lengths single none)
              destination false).mpr
              (fun replaced => by cases replaced)
  | goBack =>
      rw [hostStep, InTime]
      by_cases empty : host.navigation.repository.fragmentHistory = []
      · rw [host.perform_goBack_of_empty empty]
        exact iff_of_true agree (Or.inr (Or.inl empty))
      · rw [host.settled_goBack_of_nonempty empty]
        have positive := List.length_pos_of_ne_nil empty
        constructor
        · intro agreed
          by_cases caughtUp : host.currentAction.pending = []
          · exact Or.inl caughtUp
          · have lengths := stacksAgree_length agreed
            simp only [step, NavigationRepository.goBack, if_neg empty,
              deliver, length_goBack, List.length_dropLast] at lengths
            rcases waiting_lengths plain agree caughtUp with
              same | more | based
            · split at lengths
              · exact Or.inr (Or.inr ⟨by omega, by omega⟩)
              · omega
            · split at lengths <;> omega
            · omega
        · intro either
          rcases either with caughtUp | none | ⟨single, one⟩
          · rw [HostedNavigation.settled_of_caughtUp host caughtUp]
              at agree
            exact stacksAgree_goBack agree
          · exact absurd none empty
          · apply stacksAgree_of_lengths
            · simp only [step, NavigationRepository.goBack, if_neg empty,
                deliver, length_goBack, single]
              rfl
            · simp only [step, NavigationRepository.goBack, if_neg empty,
                List.length_dropLast, one]
  | collect =>
      rw [hostStep, HostedNavigation.settled_collect]
      exact iff_of_true agree trivial

theorem stacksAgree_afterReset
    (host : HostedNavigation FragmentClass Bundle)
    (destination : Option (Destination FragmentClass Bundle)) :
    StacksAgree (host.afterReset destination).settled := by
  rw [HostedNavigation.afterReset, HostedNavigation.settled_collect,
    HostedNavigation.perform]
  simp only [HostedNavigation.settled_emitted]
  simp [StacksAgree, NavigationRepository.reset, deliver,
    DestinationFragmentView.navigate,
    DestinationFragmentView.activateHistoryEntry_destinations]

/-- After a delivered reset that clears the history, the view has its base
entry and the history of the repository whenever the collector catches up,
if and only if every action of `navigate` and `goBack` is emitted in time. -/
theorem caught_up_stacks_agree_iff
    (host : HostedNavigation FragmentClass Bundle)
    (destination : Option (Destination FragmentClass Bundle))
    (events : List (HostEvent FragmentClass Bundle)) :
    (∀ early, early <+: events →
      StacksAgree
        (run hostStep (host.afterReset destination)
          early).collect.navigation) ↔
      Admitted hostStep InTime (host.afterReset destination) events := by
  simp only [HostedNavigation.navigation_collect]
  have plain : PlainActions (host.afterReset destination) := by
    intro action waiting
    rw [HostedNavigation.afterReset, HostedNavigation.pending_collect]
      at waiting
    cases waiting
  have everything :
      Admitted hostStep (fun _ _ => True) (host.afterReset destination)
        events :=
    admitted_of_forall fun _ _ => trivial
  have exact_step :
      ∀ (host : HostedNavigation FragmentClass Bundle)
        (event : HostEvent FragmentClass Bundle),
        PlainActions host → True → StacksAgree host.settled →
          (StacksAgree (hostStep host event).settled ↔ InTime host event) :=
    fun _ event plain _ agree => settled_step_iff plain agree event
  have agree := stacksAgree_afterReset host destination
  exact
    @holds_throughout_iff_admitted _ _ hostStep (fun _ _ => True) InTime
      PlainActions (fun host => StacksAgree host.settled)
      (fun _ event plain _ => plainActions_step plain event) exact_step
      _ _ plain agree everything

end SharedActions

/-- A new repository and a new view, with an empty flow between them. -/
def openedHost : HostedNavigation String Unit where
  navigation := opened
  currentAction := SharedFlow.empty

/-- Two calls of `navigate` before the collector runs: the first screen is
never shown, and the second `goBack` succeeds without leaving the base. -/
theorem first_of_two_screens_is_lost :
    let shown :=
      run hostStep (openedHost.afterReset none)
        [.navigate ⟨"details", ()⟩, .navigate ⟨"video", ()⟩, .collect]
    let left := run hostStep shown [.goBack, .collect]
    shown.currentAction.pending = [] ∧
      shown.navigation.repository.fragmentHistory =
        [⟨"details", ()⟩, ⟨"video", ()⟩] ∧
      shown.navigation.view.history.map HistoryEntry.destination =
        [⟨"home", ()⟩, ⟨"video", ()⟩] ∧
      ¬ StacksAgree shown.navigation ∧
      left.navigation.repository.canGoBack = true ∧
      left.navigation.view.goBack.2 = false := by
  intro shown left
  refine ⟨by decide, by decide, by decide, ?_, by decide, by decide⟩
  intro agree
  exact absurd (stacksAgree_length agree) (by decide)

end JellyfinTv.Navigation
