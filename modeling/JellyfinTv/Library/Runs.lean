import Mathlib.Data.List.Basic

/-!
# Runs of event-driven machines

A machine is a total step function on states.  A run is the fold of that
function over a list of events, and a guard restricts which events may be
delivered in which state.  The invariant and simulation rules below are the
only inductions over runs that the applications need.
-/

namespace JellyfinTv.Library

universe u v w

section Runs

variable {State : Type u} {Event : Type v}

/-- The state reached by delivering the events in order. -/
def run (step : State → Event → State) :
    State → List Event → State
  | state, [] => state
  | state, event :: rest => run step (step state event) rest

/-- Every event of the run satisfies the guard in the state in which it is
delivered. -/
def Admitted
    (step : State → Event → State) (guard : State → Event → Prop) :
    State → List Event → Prop
  | _, [] => True
  | state, event :: rest =>
      guard state event ∧ Admitted step guard (step state event) rest

instance decidableAdmitted
    (step : State → Event → State) (guard : State → Event → Prop)
    [∀ state event, Decidable (guard state event)] :
    ∀ (state : State) (events : List Event),
      Decidable (Admitted step guard state events)
  | _, [] => inferInstanceAs (Decidable True)
  | state, event :: rest =>
      let _ := decidableAdmitted step guard (step state event) rest
      inferInstanceAs
        (Decidable (guard state event ∧
          Admitted step guard (step state event) rest))

variable {step : State → Event → State}

@[simp]
theorem run_nil (state : State) : run step state [] = state :=
  rfl

@[simp]
theorem run_cons (state : State) (event : Event) (rest : List Event) :
    run step state (event :: rest) = run step (step state event) rest :=
  rfl

theorem run_append (state : State) (first second : List Event) :
    run step state (first ++ second) =
      run step (run step state first) second := by
  induction first generalizing state with
  | nil =>
      rfl
  | cons event rest inductionHypothesis =>
      exact inductionHypothesis (step state event)

theorem admitted_append
    {guard : State → Event → Prop} (state : State)
    (first second : List Event) :
    Admitted step guard state (first ++ second) ↔
      Admitted step guard state first ∧
        Admitted step guard (run step state first) second := by
  induction first generalizing state with
  | nil =>
      simp [Admitted]
  | cons event rest inductionHypothesis =>
      simp only [List.cons_append, Admitted, run_cons,
        inductionHypothesis (step state event), and_assoc]

theorem admitted_ite_singleton
    {guard : State → Event → Prop} (state : State)
    (condition : Prop) [Decidable condition] (event : Event) :
    Admitted step guard state (if condition then [event] else []) ↔
      (condition → guard state event) := by
  split
  case isTrue holds =>
    simp [Admitted, holds]
  case isFalse fails =>
    simp [Admitted, fails]

/-- An admitted run is admitted up to each of its events. -/
theorem Admitted.earlier
    {guard : State → Event → Prop} {state : State}
    {first events : List Event}
    (admitted : Admitted step guard state events)
    (early : first <+: events) :
    Admitted step guard state first := by
  obtain ⟨rest, rfl⟩ := early
  exact ((admitted_append state first rest).mp admitted).1

/-- A run is admitted if each of its events satisfies the guard after the
events before it. -/
theorem admitted_of_prefixes
    {guard : State → Event → Prop} {state : State} {events : List Event}
    (guarded :
      ∀ early event, early ++ [event] <+: events →
        guard (run step state early) event) :
    Admitted step guard state events := by
  induction events generalizing state with
  | nil =>
      trivial
  | cons event rest inductionHypothesis =>
      refine ⟨guarded [] event (by simp), ?_⟩
      apply inductionHypothesis
      intro early later isEarly
      apply guarded (event :: early) later
      exact List.cons_prefix_cons.mpr ⟨rfl, isEarly⟩

/-- A property of all events guards every step. -/
theorem admitted_of_forall
    {property : Event → Prop} {state : State} {events : List Event}
    (holds : ∀ event ∈ events, property event) :
    Admitted step (fun _ event => property event) state events := by
  apply admitted_of_prefixes
  intro early event isEarly
  apply holds
  apply isEarly.subset
  simp

/-- A property of all events joins the guard. -/
theorem Admitted.and_forall
    {guard : State → Event → Prop} {property : Event → Prop}
    {state : State} {events : List Event}
    (admitted : Admitted step guard state events)
    (holds : ∀ event ∈ events, property event) :
    Admitted step (fun state event => guard state event ∧ property event)
      state events := by
  induction events generalizing state with
  | nil =>
      trivial
  | cons event rest inductionHypothesis =>
      rw [List.forall_mem_cons] at holds
      exact
        ⟨⟨admitted.1, holds.1⟩, inductionHypothesis admitted.2 holds.2⟩

/-- An invariant that every admitted step preserves holds after every
admitted run. -/
theorem run_invariant
    {guard : State → Event → Prop} {invariant : State → Prop}
    (preserved :
      ∀ state event, invariant state → guard state event →
        invariant (step state event))
    {state : State} {events : List Event}
    (initial : invariant state)
    (admitted : Admitted step guard state events) :
    invariant (run step state events) := by
  induction events generalizing state with
  | nil =>
      exact initial
  | cons event rest inductionHypothesis =>
      exact inductionHypothesis
        (preserved state event initial admitted.1) admitted.2

/-- What follows from an invariant and the guard holds at every step. -/
theorem Admitted.of_invariant
    {guard other : State → Event → Prop} {invariant : State → Prop}
    (implied :
      ∀ state event, invariant state → guard state event →
        other state event)
    (preserved :
      ∀ state event, invariant state → guard state event →
        invariant (step state event))
    {state : State} {events : List Event} (initial : invariant state)
    (admitted : Admitted step guard state events) :
    Admitted step other state events := by
  induction events generalizing state with
  | nil =>
      trivial
  | cons event rest inductionHypothesis =>
      have next := preserved state event initial admitted.1
      exact
        ⟨implied state event initial admitted.1,
          inductionHypothesis next admitted.2⟩

/-- Where a guard says exactly which allowed steps keep a property, the
property holds after every part of an allowed run if and only if every step
satisfies the guard. -/
theorem holds_throughout_iff_admitted
    {allowed guard : State → Event → Prop} {sound property : State → Prop}
    (kept :
      ∀ state event, sound state → allowed state event →
        sound (step state event))
    (exact :
      ∀ state event, sound state → allowed state event →
        property state →
          (property (step state event) ↔ guard state event))
    {state : State} {events : List Event} (initial : sound state)
    (holds : property state) (permitted : Admitted step allowed state events) :
    (∀ early, early <+: events → property (run step state early)) ↔
      Admitted step guard state events := by
  induction events generalizing state with
  | nil =>
      simp [Admitted, holds]
  | cons event rest inductionHypothesis =>
      have next := kept state event initial permitted.1
      have first := exact state event initial permitted.1 holds
      constructor
      · intro throughout
        have reached : property (step state event) :=
          throughout [event] (by simp)
        refine ⟨first.mp reached, ?_⟩
        apply (inductionHypothesis next reached permitted.2).mp
        intro early isEarly
        exact throughout (event :: early)
          (List.cons_prefix_cons.mpr ⟨rfl, isEarly⟩)
      · rintro ⟨guarded, later⟩ early isEarly
        have reached := first.mpr guarded
        cases early with
        | nil =>
            exact holds
        | cons other early =>
            obtain ⟨rfl, isRest⟩ := List.cons_prefix_cons.mp isEarly
            exact (inductionHypothesis next reached permitted.2).mpr
              later early isRest

/-- The case in which every step is allowed and nothing else is known. -/
theorem property_throughout_iff_admitted
    {guard : State → Event → Prop} {property : State → Prop}
    (exact :
      ∀ state event, property state →
        (property (step state event) ↔ guard state event))
    {state : State} (events : List Event) (holds : property state) :
    (∀ early, early <+: events → property (run step state early)) ↔
      Admitted step guard state events := by
  have everything :
      Admitted step (fun _ _ => True) state events :=
    admitted_of_forall fun _ _ => trivial
  have sound :
      ∀ (state : State) (event : Event), True → True → property state →
        (property (step state event) ↔ guard state event) :=
    fun state event _ _ held => exact state event held
  exact holds_throughout_iff_admitted (fun _ _ _ _ => trivial) sound trivial
    holds everything

/-- Two guards that agree wherever an invariant holds admit the same runs, if
the steps that one of them admits keep the invariant. -/
theorem admitted_iff_of_invariant
    {guard other : State → Event → Prop} {invariant : State → Prop}
    (agree :
      ∀ state event, invariant state →
        (guard state event ↔ other state event))
    (preserved :
      ∀ state event, invariant state → other state event →
        invariant (step state event))
    {state : State} (initial : invariant state) (events : List Event) :
    Admitted step guard state events ↔ Admitted step other state events := by
  induction events generalizing state with
  | nil =>
      exact Iff.rfl
  | cons event rest inductionHypothesis =>
      have first := agree state event initial
      constructor
      · rintro ⟨holds, later⟩
        have admitted := first.mp holds
        have next := preserved state event initial admitted
        exact ⟨admitted, (inductionHypothesis next).mp later⟩
      · rintro ⟨admitted, later⟩
        have next := preserved state event initial admitted
        exact ⟨first.mpr admitted, (inductionHypothesis next).mpr later⟩

/-- An invariant that every step preserves holds after every run. -/
theorem run_preserves {invariant : State → Prop}
    (preserved :
      ∀ state event, invariant state → invariant (step state event))
    {state : State} (initial : invariant state) (events : List Event) :
    invariant (run step state events) := by
  have admitted :
      Admitted step (fun _ _ => True) state events :=
    admitted_of_forall fun _ _ => trivial
  exact run_invariant (fun state event held _ => preserved state event held)
    initial admitted

/-- A property that one event establishes and no event destroys holds after
every run with that event. -/
theorem run_of_mem {allowed : Event → Prop} {invariant property : State → Prop}
    {event : Event}
    (sound :
      ∀ state event, invariant state → allowed event →
        invariant (step state event))
    (kept :
      ∀ state event, property state → allowed event →
        property (step state event))
    (established : ∀ state, invariant state → property (step state event))
    {state : State} {events : List Event} (initial : invariant state)
    (permitted : ∀ event ∈ events, allowed event) (member : event ∈ events) :
    property (run step state events) := by
  obtain ⟨first, rest, rfl⟩ := List.append_of_mem member
  rw [List.forall_mem_append, List.forall_mem_cons] at permitted
  obtain ⟨firstPermitted, _, restPermitted⟩ := permitted
  rw [run_append, run_cons]
  apply run_invariant kept _ (admitted_of_forall restPermitted)
  apply established
  exact run_invariant sound initial (admitted_of_forall firstPermitted)

end Runs

/-! A step that may fail ends the run. -/

section Fallible

variable {State : Type u} {Event : Type v}
variable {step : State → Event → Option State}

def fallible (step : State → Event → Option State)
    (state : Option State) (event : Event) : Option State :=
  state.bind fun state => step state event

/-- A guard that is asked only as long as no step has failed. -/
def WhileRunning (guard : State → Event → Prop)
    (state : Option State) (event : Event) : Prop :=
  ∀ running, state = some running → guard running event

theorem fallible_invariant
    {guard : State → Event → Prop} {invariant : State → Prop}
    (preserved :
      ∀ state event after, invariant state → guard state event →
        step state event = some after → invariant after)
    {state : State} {events : List Event} (initial : invariant state)
    (admitted :
      Admitted (fallible step) (WhileRunning guard) (some state) events)
    {reached : State}
    (reaches : run (fallible step) (some state) events = some reached) :
    invariant reached := by
  have kept :
      ∀ (state : Option State) (event : Event),
        (∀ running, state = some running → invariant running) →
          WhileRunning guard state event →
            ∀ running, fallible step state event = some running →
              invariant running := by
    intro state event held guarded after moves
    obtain ⟨running, rfl, moves⟩ := Option.bind_eq_some_iff.mp moves
    exact preserved running event after (held running rfl)
      (guarded running rfl) moves
  have initially :
      ∀ running, some state = some running → invariant running := by
    rintro running ⟨⟩
    exact initial
  exact run_invariant kept initially admitted reached reaches

/-- Two guards that agree where an invariant holds admit the same runs, if
the second keeps the invariant. -/
theorem fallible_admitted_iff
    {first second : State → Event → Prop} {sound : State → Prop}
    (agree :
      ∀ state event, sound state →
        (first state event ↔ second state event))
    (kept :
      ∀ state event after, sound state → second state event →
        step state event = some after → sound after)
    {state : State} {events : List Event} (initial : sound state) :
    Admitted (fallible step) (WhileRunning first) (some state) events ↔
      Admitted (fallible step) (WhileRunning second) (some state)
        events := by
  induction events generalizing state with
  | nil =>
      exact Iff.rfl
  | cons event rest inductionHypothesis =>
      have now :
          ∀ guard : State → Event → Prop,
            WhileRunning guard (some state) event ↔ guard state event :=
        fun guard => by simp [WhileRunning]
      simp only [Admitted, now, agree state event initial]
      apply and_congr_right
      intro guarded
      cases moves : fallible step (some state) event with
      | none =>
          have continued :
              ∀ (guard : State → Event → Prop) (later : List Event),
                Admitted (fallible step) (WhileRunning guard) none later := by
            intro guard later
            induction later with
            | nil =>
                trivial
            | cons next later ended =>
                exact ⟨by rintro running ⟨⟩, ended⟩
          exact iff_of_true (continued first rest) (continued second rest)
      | some after =>
          exact inductionHypothesis
            (kept state event after initial guarded moves)

/-- Where a guard says exactly which steps keep a property unless they fail,
the property holds until a step fails if and only if the steps before satisfy
the guard. -/
theorem fallible_throughout_iff_admitted
    {guard : State → Event → Prop} {sound property : State → Prop}
    (kept :
      ∀ state event after, sound state → step state event = some after →
        sound after)
    (exact :
      ∀ state event, sound state → property state →
        ((∀ after, step state event = some after → property after) ↔
          guard state event))
    {state : State} {events : List Event} (initial : sound state)
    (holds : property state) :
    (∀ early, early <+: events → ∀ reached,
        run (fallible step) (some state) early = some reached →
          property reached) ↔
      Admitted (fallible step) (WhileRunning guard) (some state)
        events := by
  have soundStep :
      ∀ (state : Option State) (event : Event),
        (∀ running, state = some running → sound running) → True →
          ∀ after, fallible step state event = some after → sound after := by
    intro state event running _ after moves
    obtain ⟨before, rfl, moves⟩ := Option.bind_eq_some_iff.mp moves
    exact kept before event after (running before rfl) moves
  have exactStep :
      ∀ (state : Option State) (event : Event),
        (∀ running, state = some running → sound running) → True →
          (∀ running, state = some running → property running) →
            ((∀ after, fallible step state event = some after →
                property after) ↔
              WhileRunning guard state event) := by
    intro state event running _ held
    cases state with
    | none =>
        constructor
        · rintro _ before ⟨⟩
        · rintro _ after ⟨⟩
    | some before =>
        have now := exact before event (running before rfl) (held before rfl)
        constructor
        · rintro reaches running ⟨⟩
          exact now.mp reaches
        · intro guarded
          exact now.mpr (guarded before rfl)
  have initially : ∀ running, some state = some running → sound running := by
    rintro running ⟨⟩
    exact initial
  have held : ∀ running, some state = some running → property running := by
    rintro running ⟨⟩
    exact holds
  exact holds_throughout_iff_admitted soundStep exactStep initially held
    (admitted_of_forall fun _ _ => trivial)

end Fallible

section Simulation

variable {Concrete : Type u} {Abstract : Type w} {Event : Type v}
variable {step : Concrete → Event → Concrete}
variable {specification : Abstract → Event → Abstract}

/-- A relation kept by every admitted step relates the two machines after
every admitted run. -/
theorem run_simulation
    {guard : Concrete → Event → Prop}
    {related : Concrete → Abstract → Prop}
    (preserved :
      ∀ concrete abstract event,
        related concrete abstract → guard concrete event →
          related (step concrete event) (specification abstract event))
    {concrete : Concrete} {abstract : Abstract} {events : List Event}
    (initial : related concrete abstract)
    (admitted : Admitted step guard concrete events) :
    related (run step concrete events)
      (run specification abstract events) := by
  induction events generalizing concrete abstract with
  | nil =>
      exact initial
  | cons event rest inductionHypothesis =>
      exact inductionHypothesis
        (preserved concrete abstract event initial admitted.1)
        admitted.2

/-- A machine that another one drives along takes the same run. -/
theorem run_projection {projection : Concrete → Abstract}
    (commutes :
      ∀ concrete event,
        projection (step concrete event) =
          specification (projection concrete) event)
    (concrete : Concrete) (events : List Event) :
    projection (run step concrete events) =
      run specification (projection concrete) events := by
  have preserved :
      ∀ concrete abstract event, projection concrete = abstract → True →
        projection (step concrete event) = specification abstract event := by
    rintro concrete _ event rfl _
    exact commutes concrete event
  exact run_simulation preserved rfl (admitted_of_forall fun _ _ => trivial)

end Simulation

end JellyfinTv.Library
