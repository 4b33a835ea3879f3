import JellyfinTv.Library.Runs

/-!
# Two runs of one machine

Statements about what a machine may depend on compare two of its runs.  A
relation between the two states that every step keeps, and that makes every
step answer alike, makes the answers of the runs equal.
-/

namespace JellyfinTv.Library

universe u v w

variable {State : Type u} {Event : Type v} {Answer : Type w}

/-- The answers of the steps of a run. -/
def answers (step : State → Event → State)
    (answer : State → Event → Answer) : State → List Event → List Answer
  | _, [] => []
  | state, event :: rest =>
      answer state event :: answers step answer (step state event) rest

variable {step : State → Event → State} {answer : State → Event → Answer}

/-- A relation that the steps of two runs keep, with their guards, holds after
both. -/
theorem run_related {guard : State → Event → Prop}
    {related : State → State → Prop}
    (preserved :
      ∀ first second event, related first second → guard first event →
        guard second event → related (step first event) (step second event))
    {first second : State} {events : List Event}
    (initial : related first second)
    (admitted_first : Admitted step guard first events)
    (admitted_second : Admitted step guard second events) :
    related (run step first events) (run step second events) := by
  induction events generalizing first second with
  | nil =>
      exact initial
  | cons event rest inductionHypothesis =>
      exact
        inductionHypothesis
          (preserved first second event initial admitted_first.1
            admitted_second.1)
          admitted_first.2 admitted_second.2

/-- Where the steps allowed answer alike and keep the relation, so do the
runs. -/
theorem answers_related {allowed : Event → Prop}
    {related : State → State → Prop}
    (preserved :
      ∀ first second event, related first second → allowed event →
        answer first event = answer second event ∧
          related (step first event) (step second event))
    {first second : State} {events : List Event}
    (initial : related first second)
    (permitted : ∀ event ∈ events, allowed event) :
    answers step answer first events = answers step answer second events ∧
      related (run step first events) (run step second events) := by
  induction events generalizing first second with
  | nil =>
      exact ⟨rfl, initial⟩
  | cons event rest inductionHypothesis =>
      obtain ⟨same, next⟩ :=
        preserved first second event initial
          (permitted event List.mem_cons_self)
      obtain ⟨later, final⟩ :=
        inductionHypothesis next fun other member =>
          permitted other (List.mem_cons_of_mem _ member)
      exact ⟨by rw [answers, answers, same, later], final⟩

end JellyfinTv.Library
