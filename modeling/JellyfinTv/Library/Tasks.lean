import JellyfinTv.Library.Runs

/-!
# Interleaved tasks over a shared state

A call runs until it finishes or suspends as a task, and a suspended task can
be resumed at any time.  Between two suspension points nothing else runs.  The
world is the shared state with the suspended tasks; its events start calls and
resume tasks, so its runs are the interleavings of the calls.
-/

namespace JellyfinTv.Library

universe u

/-- How far a call has come: suspended as a task, or finished. -/
inductive Progress (State Task Result : Type u) where
  | suspended (state : State) (task : Task)
  | finished (state : State) (result : Result)

namespace Progress

variable {State Task Result : Type u}

def state : Progress State Task Result → State
  | suspended state _ => state
  | finished state _ => state

/-- The task that is left behind, if any. -/
def pending : Progress State Task Result → List Task
  | suspended _ task => [task]
  | finished _ _ => []

end Progress

/-- How the calls of a component start and resume. -/
structure System (State Call Task Result : Type u) where
  start : Call → State → Progress State Task Result
  resume : Task → State → Progress State Task Result

/-- The shared state with the suspended tasks. -/
structure World (State Task : Type u) where
  shared : State
  tasks : List Task

inductive Event (Call : Type u) where
  | start (call : Call)
  | resume (position : Nat)

namespace System

variable {State Call Task Result : Type u}

def step (system : System State Call Task Result)
    (world : World State Task) : Event Call → World State Task
  | .start call =>
      let progress := system.start call world.shared
      ⟨progress.state, world.tasks ++ progress.pending⟩
  | .resume position =>
      match world.tasks[position]? with
      | none => world
      | some task =>
          let progress := system.resume task world.shared
          ⟨progress.state,
            world.tasks.eraseIdx position ++ progress.pending⟩

/-- A call that is resumed at once whenever it suspends. -/
def alone (system : System State Call Task Result) :
    Nat → Progress State Task Result → Progress State Task Result
  | 0, progress => progress
  | fuel + 1, .suspended state task =>
      alone system fuel (system.resume task state)
  | _ + 1, .finished state result => .finished state result

/-- Every resumed task satisfies the guard in the state it comes back to. -/
def Resumes (guard : State → Task → Prop) (world : World State Task) :
    Event Call → Prop
  | .start _ => True
  | .resume position =>
      ∀ task ∈ world.tasks[position]?, guard world.shared task

instance (guard : State → Task → Prop)
    [∀ state task, Decidable (guard state task)]
    (world : World State Task) :
    ∀ event : Event Call, Decidable (Resumes guard world event)
  | .start _ => isTrue trivial
  | .resume position =>
      inferInstanceAs (Decidable (∀ task ∈ world.tasks[position]?, _))

variable {system : System State Call Task Result}

theorem alone_finished (fuel : Nat) (state : State) (result : Result) :
    system.alone fuel (.finished state result) =
      .finished state result := by
  cases fuel <;> rfl

/-- Running alone in two stages. -/
theorem alone_add (first second : Nat)
    (progress : Progress State Task Result) :
    system.alone (first + second) progress =
      system.alone second (system.alone first progress) := by
  induction first generalizing progress with
  | zero =>
      rw [Nat.zero_add]
      rfl
  | succ first inductionHypothesis =>
      rw [Nat.succ_add]
      cases progress with
      | suspended state task =>
          exact inductionHypothesis (system.resume task state)
      | finished state result =>
          rw [alone_finished, alone_finished, alone_finished]

/-- A property of the shared state that starting and guarded resuming keep
holds along every interleaving. -/
theorem run_shared {guard : State → Task → Prop} (property : State → Prop)
    (started :
      ∀ call state, property state → property (system.start call state).state)
    (resumed :
      ∀ task state, property state → guard state task →
        property (system.resume task state).state)
    {world : World State Task} {events : List (Event Call)}
    (initial : property world.shared)
    (admitted : Admitted system.step (Resumes guard) world events) :
    property (run system.step world events).shared := by
  have preserved :
      ∀ (world : World State Task) (event : Event Call),
        property world.shared → Resumes guard world event →
          property (system.step world event).shared := by
    intro world event held resumes
    cases event with
    | start call =>
        exact started call world.shared held
    | resume position =>
        simp only [step]
        split
        · exact held
        · rename_i task found
          exact resumed task world.shared held (resumes task found)
  exact run_invariant preserved initial admitted

end System

end JellyfinTv.Library
