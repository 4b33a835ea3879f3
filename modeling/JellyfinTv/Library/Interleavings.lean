import Mathlib.Data.List.Flatten
import Mathlib.Data.List.Nodup
import Mathlib.Logic.Function.Basic
import JellyfinTv.Library.Runs

/-!
# Interleavings of threads

Every thread is a list of actions, and an interleaving takes the actions of
the threads in any order that keeps the order of each of them.  Where the
threads act on different places of a store, every place has one history in
all interleavings, and so has the store at the end.
-/

namespace JellyfinTv.Library

universe u v

/-- An order of all actions of the threads. -/
inductive Interleaving {Action : Type u} :
    List (List Action) → List Action → Prop
  | done {threads : List (List Action)}
      (ended : ∀ thread ∈ threads, thread = []) :
      Interleaving threads []
  | step {front behind : List (List Action)} {action : Action}
      {rest schedule : List Action}
      (continued : Interleaving (front ++ rest :: behind) schedule) :
      Interleaving (front ++ (action :: rest) :: behind) (action :: schedule)

namespace Interleaving

variable {Action : Type u} {threads : List (List Action)}
  {schedule : List Action}

theorem perm (interleaving : Interleaving threads schedule) :
    schedule.Perm threads.flatten := by
  induction interleaving with
  | done ended =>
      rw [List.flatten_eq_nil_iff.mpr ended]
  | step continued inductionHypothesis =>
      rename_i front behind action rest schedule
      simp only [List.flatten_append, List.flatten_cons,
        List.cons_append] at inductionHypothesis ⊢
      exact (inductionHypothesis.cons action).trans
        List.perm_middle.symm

/-- A thread without actions changes no interleaving. -/
theorem idle (interleaving : Interleaving threads schedule) :
    Interleaving ([] :: threads) schedule := by
  induction interleaving with
  | done ended =>
      exact done (List.forall_mem_cons.mpr ⟨rfl, ended⟩)
  | step continued inductionHypothesis =>
      rename_i front behind action rest schedule
      exact @step Action ([] :: front) behind action rest schedule
        inductionHypothesis

/-- The first thread runs to its end before the others begin. -/
theorem before (interleaving : Interleaving threads schedule)
    (thread : List Action) :
    Interleaving (thread :: threads) (thread ++ schedule) := by
  induction thread with
  | nil =>
      exact interleaving.idle
  | cons action thread inductionHypothesis =>
      exact @step Action [] threads action thread (thread ++ schedule)
        inductionHypothesis

theorem sequential (threads : List (List Action)) :
    Interleaving threads threads.flatten := by
  induction threads with
  | nil =>
      exact done (List.forall_mem_nil _)
  | cons thread threads inductionHypothesis =>
      exact inductionHypothesis.before thread

/-- Two threads that take turns until one of them ends. -/
def alternately : List Action → List Action → List Action
  | [], second => second
  | first, [] => first
  | action :: first, other :: second =>
      action :: other :: alternately first second

theorem alternating (first second : List Action) :
    Interleaving [first, second] (alternately first second) := by
  fun_induction alternately first second with
  | case1 second =>
      have alone := sequential [second]
      rw [List.flatten_singleton] at alone
      exact alone.idle
  | case2 first _ =>
      have alone := sequential [first, []]
      rwa [List.flatten_cons, List.flatten_singleton,
        List.append_nil] at alone
  | case3 action first other second inductionHypothesis =>
      have turned :
          Interleaving [first, other :: second]
            (other :: alternately first second) :=
        @step Action [first] [] other second _ inductionHypothesis
      exact @step Action [] [other :: second] action first _ turned

/-- Actions that only one thread has come in the order of that thread. -/
theorem filter_eq {chosen : Action → Bool}
    (interleaving : Interleaving threads schedule)
    (alone :
      threads.Pairwise fun first second =>
        (∀ action ∈ first, chosen action = false) ∨
          ∀ action ∈ second, chosen action = false) :
    schedule.filter chosen = threads.flatten.filter chosen := by
  induction interleaving with
  | done ended =>
      rw [List.flatten_eq_nil_iff.mpr ended]
  | step continued inductionHypothesis =>
      rename_i front behind action rest schedule
      rw [List.pairwise_append, List.pairwise_cons] at alone
      obtain ⟨inFront, ⟨laterAlone, inBehind⟩, across⟩ := alone
      have remains := inductionHypothesis (by
        rw [List.pairwise_append, List.pairwise_cons]
        refine ⟨inFront, ⟨?_, inBehind⟩, ?_⟩
        · intro second member
          exact (laterAlone second member).imp_left fun none other inRest =>
            none other (List.mem_cons_of_mem action inRest)
        · intro first member second within
          rcases List.mem_cons.mp within with rfl | within
          · exact (across first member _ List.mem_cons_self).imp_right
              fun none other inRest =>
                none other (List.mem_cons_of_mem action inRest)
          · exact across first member second
              (List.mem_cons_of_mem _ within))
      rw [List.flatten_append, List.flatten_cons] at remains ⊢
      rw [List.cons_append]
      simp only [List.filter_append] at remains
      cases known : chosen action with
      | false =>
          simp [known, remains]
      | true =>
          -- No thread in front has such an action.
          have none : front.flatten.filter chosen = [] := by
            rw [List.filter_eq_nil_iff]
            intro other member
            obtain ⟨first, inThreads, within⟩ :=
              List.mem_flatten.mp member
            rcases across first inThreads _ List.mem_cons_self with
              absent | absent
            · simp [absent other within]
            · simp [absent action List.mem_cons_self] at known
          simp [known, remains, none]

end Interleaving

/-- An effect on one place of a store. -/
structure PlaceAction (Place : Type u) (Value : Type v) where
  place : Place
  effect : Value → Value

section Stores

variable {Place : Type u} {Value : Type v} [DecidableEq Place]

def actOn (store : Place → Value) (action : PlaceAction Place Value) :
    Place → Value :=
  Function.update store action.place (action.effect (store action.place))

/-- A place sees the actions on it and no others. -/
theorem run_actOn_apply (store : Place → Value)
    (actions : List (PlaceAction Place Value)) (place : Place) :
    run actOn store actions place =
      run (fun value (action : PlaceAction Place Value) => action.effect value)
        (store place)
        (actions.filter fun action => action.place = place) := by
  induction actions generalizing store with
  | nil =>
      rfl
  | cons action rest inductionHypothesis =>
      rw [run_cons, inductionHypothesis]
      by_cases here : action.place = place
      · subst here
        simp [actOn]
      · rw [List.filter_cons_of_neg (by simpa using here), actOn,
          Function.update_of_ne (Ne.symm here)]

section Separate

variable {threads : List (List (PlaceAction Place Value))}
  {schedule : List (PlaceAction Place Value)}

/-- Where the threads act on different places, every place has the same
actions in every interleaving. -/
theorem filter_place_eq (interleaving : Interleaving threads schedule)
    (separate :
      threads.Pairwise fun first second =>
        ∀ action ∈ first, ∀ other ∈ second, action.place ≠ other.place)
    (place : Place) :
    (schedule.filter fun action => action.place = place) =
      threads.flatten.filter fun action => action.place = place := by
  apply interleaving.filter_eq
  refine separate.imp ?_
  intro first second apart
  by_cases touched : ∃ action ∈ first, action.place = place
  · obtain ⟨action, member, rfl⟩ := touched
    right
    intro other within
    exact decide_eq_false (apart action member other within).symm
  · left
    intro action member
    exact decide_eq_false fun here => touched ⟨action, member, here⟩

end Separate

end Stores

section Items

variable {Item Place : Type u} {Value : Type v} (place : Item → Place)
  (effects : Item → List (Value → Value))

def itemActions (item : Item) : List (PlaceAction Place Value) :=
  (effects item).map fun effect => ⟨place item, effect⟩

variable {place effects}

theorem place_of_mem_itemActions {item : Item}
    {action : PlaceAction Place Value}
    (member : action ∈ itemActions place effects item) :
    action.place = place item := by
  obtain ⟨effect, _, rfl⟩ := List.mem_map.mp member
  rfl

theorem run_map_effect (value : Value) (location : Place)
    (applied : List (Value → Value)) :
    run (fun value (action : PlaceAction Place Value) => action.effect value)
        value (applied.map fun effect => ⟨location, effect⟩) =
      run (fun value effect => effect value) value applied := by
  induction applied generalizing value with
  | nil =>
      rfl
  | cons effect rest inductionHypothesis =>
      exact inductionHypothesis (effect value)

variable [DecidableEq Place] {items : List Item}

theorem filter_flatMap_of_absent {location : Place}
    (absent : ∀ item ∈ items, place item ≠ location) :
    (items.flatMap (itemActions place effects)).filter
        (fun action => action.place = location) =
      [] := by
  rw [List.filter_eq_nil_iff]
  intro action member
  obtain ⟨item, inItems, within⟩ := List.mem_flatMap.mp member
  rw [place_of_mem_itemActions within]
  simpa using absent item inItems

/-- Among items with different places, the actions on the place of one of
them are its own. -/
theorem filter_flatMap_of_mem {item : Item}
    (distinct : (items.map place).Nodup) (member : item ∈ items) :
    (items.flatMap (itemActions place effects)).filter
        (fun action => action.place = place item) =
      itemActions place effects item := by
  have own :
      (itemActions place effects item).filter
          (fun action => action.place = place item) =
        itemActions place effects item := by
    rw [List.filter_eq_self]
    intro action within
    exact decide_eq_true (place_of_mem_itemActions within)
  induction items with
  | nil =>
      exact absurd member List.not_mem_nil
  | cons first rest inductionHypothesis =>
      rw [List.map_cons, List.nodup_cons, List.mem_map] at distinct
      obtain ⟨other, distinct⟩ := distinct
      rw [List.flatMap_cons, List.filter_append]
      rcases List.mem_cons.mp member with rfl | later
      · rw [own, filter_flatMap_of_absent, List.append_nil]
        exact fun behind inRest same => other ⟨behind, inRest, same⟩
      · have foreign :
            (itemActions place effects first).filter
                (fun action => action.place = place item) =
              [] := by
          rw [List.filter_eq_nil_iff]
          intro action within
          rw [place_of_mem_itemActions within]
          simpa using fun same => other ⟨item, later, same.symm⟩
        rw [foreign, List.nil_append, inductionHypothesis distinct later]

section Groups

variable {groups : List (List Item)}
  {schedule : List (PlaceAction Place Value)}

omit [DecidableEq Place] in
/-- Threads of groups of items with different places are separate. -/
theorem separate_groups (distinct : (groups.flatten.map place).Nodup) :
    (groups.map fun group =>
        group.flatMap (itemActions place effects)).Pairwise
      fun first second =>
        ∀ action ∈ first, ∀ other ∈ second,
          action.place ≠ other.place := by
  rw [List.map_flatten, List.nodup_flatten, List.pairwise_map] at distinct
  refine List.pairwise_map.mpr (distinct.2.imp ?_)
  intro first second disjoint action member other within same
  obtain ⟨item, inFirst, isAction⟩ := List.mem_flatMap.mp member
  obtain ⟨behind, inSecond, isOther⟩ := List.mem_flatMap.mp within
  rw [place_of_mem_itemActions isAction,
    place_of_mem_itemActions isOther] at same
  exact disjoint (List.mem_map_of_mem inFirst)
    (same ▸ List.mem_map_of_mem inSecond)

omit [DecidableEq Place] in
theorem flatten_map_flatMap (actions : Item → List (PlaceAction Place Value)) :
    (groups.map fun group => group.flatMap actions).flatten =
      groups.flatten.flatMap actions := by
  simp only [List.flatMap_def, List.map_flatten, List.flatten_flatten,
    List.map_map]
  rfl

variable
  (interleaving :
    Interleaving
      (groups.map fun group => group.flatMap (itemActions place effects))
      schedule)

include interleaving

/-- At any time, an item has had a first part of its effects on its place
and nothing else happened there. -/
theorem exists_effects_of_mem {item : Item}
    {early : List (PlaceAction Place Value)}
    (distinct : (groups.flatten.map place).Nodup)
    (member : item ∈ groups.flatten) (isEarly : early <+: schedule)
    (store : Place → Value) :
    ∃ applied, applied <+: effects item ∧
      run actOn store early (place item) =
        run (fun value effect => effect value) (store (place item))
          applied := by
  have history :
      (schedule.filter fun action => action.place = place item) =
        itemActions place effects item := by
    rw [filter_place_eq interleaving (separate_groups distinct),
      flatten_map_flatMap, filter_flatMap_of_mem distinct member]
  have before := isEarly.filter fun action => action.place = place item
  rw [history, itemActions, List.prefix_map_iff] at before
  obtain ⟨applied, first, acted⟩ := before
  exact ⟨applied, first, by rw [run_actOn_apply, acted, run_map_effect]⟩

/-- All effects of an item have happened in the end. -/
theorem run_groups_of_mem {item : Item}
    (distinct : (groups.flatten.map place).Nodup)
    (member : item ∈ groups.flatten) (store : Place → Value) :
    run actOn store schedule (place item) =
      run (fun value effect => effect value) (store (place item))
        (effects item) := by
  rw [run_actOn_apply,
    filter_place_eq interleaving (separate_groups distinct),
    flatten_map_flatMap, filter_flatMap_of_mem distinct member, itemActions,
    run_map_effect]

/-- Nothing ever happens on a place of no item. -/
theorem run_groups_of_absent {location : Place}
    {early : List (PlaceAction Place Value)}
    (absent : ∀ item ∈ groups.flatten, place item ≠ location)
    (isEarly : early <+: schedule) (store : Place → Value) :
    run actOn store early location = store location := by
  have none : (early.filter fun action => action.place = location) = [] := by
    rw [List.filter_eq_nil_iff]
    intro action member
    have scheduled := isEarly.subset member
    rw [interleaving.perm.mem_iff, flatten_map_flatMap,
      List.mem_flatMap] at scheduled
    obtain ⟨item, inGroups, within⟩ := scheduled
    rw [place_of_mem_itemActions within]
    simpa using absent item inGroups
  rw [run_actOn_apply, none, run_nil]

end Groups

end Items

end JellyfinTv.Library
