import JellyfinTv.Queue.Draws
import JellyfinTv.Queue.Providers

/-!
# Launched queue work

`addSupplier` launches `setIndex(0)` when nothing is current, and the end of a
stream launches `next`.  Both coroutines run later and do not look again at
what has happened since their launch.
-/

namespace JellyfinTv.Queue

open QueueService Library

section Scope

variable {Supplier : Type}

/-- The coroutines that the queue launches. -/
inductive Work where
  | setIndexZero
  | advance
  deriving DecidableEq, Repr

/-- A launched coroutine, and whether a later request has overtaken it. -/
structure Task where
  work : Work
  overtaken : Bool
  deriving DecidableEq, Repr

/-- The queue with the launched coroutines that have not run. -/
structure CoroutineScope (Supplier : Type) where
  queue : QueueService Supplier
  tasks : List Task

/-- The calls and events, and the moments at which a launched coroutine
runs. -/
inductive ScopeEvent (Supplier : Type) where
  | addSupplier (supplier : Supplier)
  | setIndex (index : Int) (saveHistory : Bool)
  | next (usePlaybackOrder useRepeatMode : Bool)
  | clear
  | onMediaStreamEnd
  | dispatch (position : Nat)

/-- The current index and entry. -/
def place (queue : QueueService Supplier) : Int × Option QueueEntry :=
  (queue.entryIndex, queue.entry)

/-- The queue has moved to another entry. -/
def Moved (before after : QueueService Supplier) : Prop :=
  after.entry ≠ none ∧ place after ≠ place before

instance (before after : QueueService Supplier) :
    Decidable (Moved before after) :=
  inferInstanceAs (Decidable (_ ∧ _))

/-- The entry that a jump has selected, if it has returned one. -/
def selectedBy :
    EStateM.Result QueueException (QueueService Supplier)
      (Option QueueEntry) → Option QueueEntry
  | .ok entry _ => entry
  | .error _ _ => none

namespace Task

/-- A selection overtakes `setIndex(0)`, a move to another entry overtakes
`next`. -/
def afterJump (task : Task) (before : QueueService Supplier)
    (result :
      EStateM.Result QueueException (QueueService Supplier)
        (Option QueueEntry)) : Task :=
  match task.work with
  | .setIndexZero =>
      { task with
        overtaken := task.overtaken || (selectedBy result).isSome }
  | .advance =>
      { task with
        overtaken :=
          task.overtaken || decide (Moved before (finalState result)) }

/-- Clearing the queue overtakes `next`. -/
def afterClear (task : Task) : Task :=
  { task with overtaken := task.overtaken || task.work == .advance }

end Task

variable [QueueSupplier Supplier]

/-- The coroutine of `onMediaStreamEnd`, with the entry it has selected. -/
def advance : QueueM Supplier (Option QueueEntry) := do
  let nextEntry ← next true true
  if nextEntry = none ∧ (← get).entryIndex ≠ INDEX_NONE then
    let _ ← setIndex INDEX_NONE true
  return nextEntry

def Work.action : Work → QueueM Supplier (Option QueueEntry)
  | .setIndexZero => Queue.setIndex 0 false
  | .advance => Queue.advance

namespace CoroutineScope

def jump (scope : CoroutineScope Supplier)
    (action : QueueM Supplier (Option QueueEntry)) :
    CoroutineScope Supplier where
  queue := finalState (action.run scope.queue)
  tasks :=
    scope.tasks.map fun task =>
      task.afterJump scope.queue (action.run scope.queue)

/-- Add the supplier; the guard on the index is evaluated at once. -/
def addSupplier (scope : CoroutineScope Supplier) (supplier : Supplier) :
    CoroutineScope Supplier where
  queue := scope.queue.withSupplier supplier
  tasks :=
    if scope.queue.entryIndex = INDEX_NONE then
      scope.tasks ++ [⟨.setIndexZero, false⟩]
    else scope.tasks

def step (scope : CoroutineScope Supplier) :
    ScopeEvent Supplier → CoroutineScope Supplier
  | .addSupplier supplier => scope.addSupplier supplier
  | .setIndex index saveHistory =>
      scope.jump (Queue.setIndex index saveHistory)
  | .next usePlaybackOrder useRepeatMode =>
      scope.jump (Queue.next usePlaybackOrder useRepeatMode)
  | .clear =>
      { queue := scope.queue.clear
        tasks := scope.tasks.map Task.afterClear }
  | .onMediaStreamEnd =>
      { scope with tasks := scope.tasks ++ [⟨.advance, false⟩] }
  | .dispatch position =>
      match scope.tasks[position]? with
      | none => scope
      | some task =>
          jump { scope with tasks := scope.tasks.eraseIdx position }
            task.work.action

/-- A scope without launched work over a new queue. -/
def fresh (order : PlaybackOrder) (mode : RepeatMode) (random : Random) :
    CoroutineScope Supplier where
  queue := QueueService.fresh order mode random
  tasks := []

/-- A coroutine that was overtaken leaves the current entry alone. -/
def KeepsLaterRequest (scope : CoroutineScope Supplier) :
    ScopeEvent Supplier → Prop
  | .dispatch position =>
      ∀ task ∈ scope.tasks[position]?, task.overtaken = true →
        place (scope.step (.dispatch position)).queue = place scope.queue
  | _ => True

instance (scope : CoroutineScope Supplier) :
    ∀ event, Decidable (scope.KeepsLaterRequest event)
  | .dispatch position =>
      inferInstanceAs (Decidable (∀ task ∈ scope.tasks[position]?, _))
  | .addSupplier _ => isTrue trivial
  | .setIndex _ _ => isTrue trivial
  | .next _ _ => isTrue trivial
  | .clear => isTrue trivial
  | .onMediaStreamEnd => isTrue trivial

end CoroutineScope

end Scope

section AtOnce

variable {Supplier : Type} [QueueSupplier Supplier]

theorem finalState_advance (queue : QueueService Supplier) :
    finalState (advance.run queue) = Queue.step queue .mediaStreamEnd := by
  simp only [Queue.step, perform, mediaStreamEnd, advance,
    EStateM.run_bind, EStateM.run_get]
  cases (next true true).run queue with
  | error exception final =>
      rfl
  | ok entry final =>
      by_cases ended : entry = none ∧ final.entryIndex ≠ INDEX_NONE
      · simp only [if_pos ended, EStateM.run_bind]
        cases (setIndex INDEX_NONE true).run final <;> rfl
      · simp only [if_neg ended]
        rfl

/-- The task launched last is dispatched. -/
theorem CoroutineScope.step_dispatch_last {scope : CoroutineScope Supplier}
    {earlier : List Task} {task : Task}
    (tasks : scope.tasks = earlier ++ [task]) :
    (scope.step (.dispatch earlier.length)).queue =
      finalState (task.work.action.run scope.queue) := by
  have found : scope.tasks[earlier.length]? = some task := by
    rw [tasks, List.getElem?_concat_length]
  simp only [CoroutineScope.step, found]
  rfl

/-- A stream end whose coroutine runs at once. -/
theorem CoroutineScope.onMediaStreamEnd_at_once
    (scope : CoroutineScope Supplier) :
    ((scope.step .onMediaStreamEnd).step
        (.dispatch scope.tasks.length)).queue =
      Queue.step scope.queue .mediaStreamEnd := by
  rw [step_dispatch_last rfl]
  exact finalState_advance scope.queue

/-- A supplier whose coroutine runs at once. -/
theorem CoroutineScope.addSupplier_at_once (scope : CoroutineScope Supplier)
    (supplier : Supplier) (nowhere : scope.queue.entryIndex = INDEX_NONE) :
    ((scope.step (.addSupplier supplier)).step
        (.dispatch scope.tasks.length)).queue =
      Queue.step scope.queue (.addSupplier supplier) := by
  have launched :
      (scope.step (.addSupplier supplier)).tasks =
        scope.tasks ++ [⟨.setIndexZero, false⟩] :=
    if_pos nowhere
  have unmoved : (scope.queue.withSupplier supplier).entryIndex =
      INDEX_NONE :=
    nowhere
  rw [step_dispatch_last launched]
  simp only [Queue.step, perform, Queue.addSupplier, startPlaying,
    EStateM.run_bind, EStateM.run_modify, EStateM.run_get, unmoved, if_true]
  change
    finalState ((setIndex 0 false).run
      (scope.queue.withSupplier supplier)) = _
  cases (setIndex 0 false).run (scope.queue.withSupplier supplier) <;> rfl

end AtOnce

/-! ## The current entry is one of the cache -/

section Placed

variable {Supplier : Type}

theorem Draws.place {before after : QueueService Supplier}
    (draws : Draws before after) :
    Queue.place after = Queue.place before := by
  rw [Queue.place, Queue.place, draws.entryIndex, draws.entry]

/-- The current entry is the one of the cache at the current index, or there
is none. -/
structure Placed (queue : QueueService Supplier) : Prop where
  located : queue.entry = entryAt queue.fetchedEntries queue.entryIndex
  nowhere : queue.entry = none → queue.entryIndex = INDEX_NONE

theorem entryAt_of_grown {entries more : List QueueEntry} {index : Int}
    {entry : QueueEntry} (found : entryAt entries index = some entry)
    (grown : entries <+: more) : entryAt more index = some entry := by
  obtain ⟨rest, rfl⟩ := grown
  unfold entryAt at found ⊢
  split at found
  case isTrue nonneg =>
    obtain ⟨inside, _⟩ := List.getElem?_eq_some_iff.mp found
    rw [if_pos nonneg, List.getElem?_append_left inside, found]
  case isFalse =>
    cases found

theorem entryAt_none (entries : List QueueEntry) :
    entryAt entries INDEX_NONE = none :=
  rfl

variable {queue drawn : QueueService Supplier}

theorem Placed.draws (placed : Placed queue) (draws : Draws queue drawn) :
    Placed drawn := by
  have nowhere : drawn.entry = none → drawn.entryIndex = INDEX_NONE := by
    rw [draws.entry, draws.entryIndex]
    exact placed.nowhere
  refine ⟨?_, nowhere⟩
  cases current : drawn.entry with
  | none =>
      rw [nowhere current, entryAt_none]
  | some entry =>
      have before : queue.entry = some entry := by
        rw [← draws.entry, current]
      rw [draws.entryIndex]
      exact
        (entryAt_of_grown (placed.located.symm.trans before)
          draws.fetched).symm

theorem placed_applyIndex (index : Int) (queue : QueueService Supplier) :
    Placed (applyIndex index (entryAt queue.fetchedEntries index) queue) := by
  cases found : entryAt queue.fetchedEntries index with
  | none =>
      exact ⟨rfl, fun _ => rfl⟩
  | some entry =>
      refine ⟨found.symm, ?_⟩
      intro nothing
      cases nothing

theorem placed_clear (queue : QueueService Supplier) :
    Placed queue.clear :=
  ⟨rfl, fun _ => rfl⟩

variable [QueueSupplier Supplier]

theorem placed_setIndex (index : Int) (saveHistory : Bool) :
    Respects (Preserves Placed)
      (setIndex index saveHistory :
        QueueM Supplier (Option QueueEntry)) := by
  intro queue placed
  obtain ⟨drawn, draws, failed | rejected | moved⟩ :=
    setIndex_cases Draws index saveHistory queue
  · obtain ⟨exception, failed⟩ := failed
    rw [failed]
    exact placed.draws draws
  · rw [rejected.2.2]
    exact placed.draws draws
  · rw [moved]
    exact placed_applyIndex index drawn

theorem placed_next (usePlaybackOrder useRepeatMode : Bool) :
    Respects (Preserves Placed)
      (next usePlaybackOrder useRepeatMode :
        QueueM Supplier (Option QueueEntry)) := by
  intro queue placed
  obtain ⟨selected, selects, failed | ended | ⟨index, moved⟩⟩ :=
    next_cases usePlaybackOrder useRepeatMode queue
  · obtain ⟨exception, failed⟩ := failed
    rw [failed]
    exact placed.draws (Draws.of_selects selects)
  · rw [ended.2]
    exact placed.draws (Draws.of_selects selects)
  · rw [moved]
    exact
      placed_setIndex index true selected
        (placed.draws (Draws.of_selects selects))

theorem placed_advance :
    Respects (Preserves Placed)
      (advance : QueueM Supplier (Option QueueEntry)) := by
  refine Respects.bind (placed_next true true) fun entry => ?_
  refine Respects.bind Respects.get fun queue => ?_
  apply Respects.ite
  · exact
      Respects.bind (placed_setIndex INDEX_NONE true) fun _ =>
        Respects.pure entry
  · exact Respects.pure entry

theorem placed_action (work : Work) :
    Respects (Preserves Placed)
      (work.action : QueueM Supplier (Option QueueEntry)) := by
  cases work with
  | setIndexZero =>
      exact placed_setIndex 0 false
  | advance =>
      exact placed_advance

theorem placed_step (scope : CoroutineScope Supplier)
    (event : ScopeEvent Supplier) (placed : Placed scope.queue) :
    Placed (scope.step event).queue := by
  cases event with
  | addSupplier supplier =>
      exact ⟨placed.located, placed.nowhere⟩
  | setIndex index saveHistory =>
      exact placed_setIndex index saveHistory scope.queue placed
  | next usePlaybackOrder useRepeatMode =>
      exact placed_next usePlaybackOrder useRepeatMode scope.queue placed
  | clear =>
      exact placed_clear scope.queue
  | onMediaStreamEnd =>
      exact placed
  | dispatch position =>
      simp only [CoroutineScope.step]
      split
      · exact placed
      · exact placed_action _ scope.queue placed

end Placed

/-! ## Work that leaves the current entry alone -/

section Leaving

variable {Supplier : Type}

/-- The current entry stays, and a call that returns returns it. -/
structure Stays (queue : QueueService Supplier)
    (result :
      EStateM.Result QueueException (QueueService Supplier)
        (Option QueueEntry)) : Prop where
  place : place (finalState result) = place queue
  returns : ∀ entry final, result = .ok entry final → entry = queue.entry

theorem stays_of_error {queue drawn : QueueService Supplier}
    {exception : QueueException}
    (draws : Draws queue drawn) :
    Stays queue (.error exception drawn) where
  place := draws.place
  returns := by
    intro _ _ returned
    cases returned

variable [QueueSupplier Supplier]

/-- Nothing is loaded, and no supplier still to be asked answers with an
item. -/
structure NothingToPlay (queue : QueueService Supplier) : Prop where
  unloaded : queue.fetchedEntries = []
  unanswered :
    ∀ supplier ∈ queue.suppliers.drop queue.currentSupplierIndex,
      ∀ index item next,
        (QueueSupplier.getItem index).run supplier = .ok item next →
          item = none

/-- Nothing is current, the suppliers report no items, and no index is
prepared. -/
structure NothingReported (queue : QueueService Supplier) : Prop where
  nowhere : queue.entryIndex = INDEX_NONE
  unreported : queue.estimatedSize ≤ 0
  unprepared : queue.orderIndexProvider.nextIndices = []

/-- The work would find the first entry current already, would repeat the
current entry, or would find nothing. -/
def Work.LeavesPlace (queue : QueueService Supplier) : Work → Prop
  | .setIndexZero => queue.entryIndex = 0 ∨ NothingToPlay queue
  | .advance =>
      queue.repeatMode ≠ .none ∨ NothingToPlay queue ∨
        NothingReported queue

/-- A coroutine that was overtaken runs only where it has nothing to
change. -/
def CoroutineScope.InTime (scope : CoroutineScope Supplier) :
    ScopeEvent Supplier → Prop
  | .dispatch position =>
      ∀ task ∈ scope.tasks[position]?, task.overtaken = true →
        task.work.LeavesPlace scope.queue
  | _ => True

variable {queue drawn : QueueService Supplier}

/-- A jump to the current index stays. -/
theorem stays_here (placed : Placed queue) (draws : Draws queue drawn)
    (saveHistory : Bool) :
    Stays queue ((setIndex queue.entryIndex saveHistory).run drawn) := by
  obtain ⟨loaded, loads, failed | rejected | moved⟩ :=
    setIndex_cases Draws queue.entryIndex saveHistory drawn
  · obtain ⟨exception, failed⟩ := failed
    rw [failed]
    exact stays_of_error (IsTrans.trans _ _ _ draws loads)
  · obtain ⟨negative, somewhere, ran⟩ := rejected
    have current : queue.entry = none := by
      rw [placed.located, entryAt, if_neg (by omega)]
    exact absurd (placed.nowhere current) somewhere
  · have same := draws.place.symm.trans (Draws.place loads).symm
    have loaded_place := placed.draws (IsTrans.trans _ _ _ draws loads)
    have answer :
        entryAt loaded.fetchedEntries queue.entryIndex = queue.entry := by
      have located := loaded_place.located
      rw [loads.entryIndex, draws.entryIndex, loads.entry, draws.entry]
        at located
      exact located.symm
    rw [moved, answer]
    constructor
    · rw [finalState_ok, Queue.place, applyIndex, Queue.place]
      by_cases nothing : queue.entry = none
      · rw [if_pos nothing, placed.nowhere nothing]
      · rw [if_neg nothing]
    · intro entry final returned
      cases returned
      rfl

theorem nothingToPlay_acceptItem {supplier next : Supplier}
    (nothing : NothingToPlay queue)
    (current :
      queue.suppliers[queue.currentSupplierIndex]? = some supplier) :
    NothingToPlay ((queue.storeSupplier next).acceptItem none) := by
  refine ⟨nothing.unloaded, ?_⟩
  intro other member
  apply nothing.unanswered other
  rw [drop_current current]
  apply List.mem_cons_of_mem
  rw [← drop_succ_storeSupplier queue next]
  exact member

/-- The loop finds nothing. -/
theorem NothingToPlay.supplyLoop (nothing : NothingToPlay queue)
    {index : Int} {fuel : Nat} {changed entriesChanged : Bool}
    (finished :
      (supplyLoop index fuel changed).run queue =
        .ok entriesChanged drawn) :
    drawn.fetchedEntries = [] := by
  induction fuel generalizing queue changed with
  | zero =>
      cases finished
      exact nothing.unloaded
  | succ fuel inductionHypothesis =>
      rw [supplyLoop_succ] at finished
      split at finished
      · cases finished
        exact nothing.unloaded
      · split at finished
        · cases finished
          exact nothing.unloaded
        · rename_i supplier current
          rw [askSupplier_run] at finished
          cases answered :
              (QueueSupplier.getItem
                queue.currentSupplierEntryIndex).run supplier with
          | error exception next =>
              rw [answered] at finished
              cases finished
          | ok item next =>
              have member :
                  supplier ∈
                    queue.suppliers.drop queue.currentSupplierIndex := by
                rw [drop_current current]
                exact List.mem_cons_self
              have missing :=
                nothing.unanswered supplier member _ item next answered
              rw [answered, missing] at finished
              exact
                inductionHypothesis (nothingToPlay_acceptItem nothing current)
                  finished

theorem NothingToPlay.of_frame (nothing : NothingToPlay queue)
    (fetched : drawn.fetchedEntries = queue.fetchedEntries)
    (suppliers : drawn.suppliers = queue.suppliers)
    (index : drawn.currentSupplierIndex = queue.currentSupplierIndex) :
    NothingToPlay drawn := by
  refine ⟨fetched.trans nothing.unloaded, ?_⟩
  rw [suppliers, index]
  exact nothing.unanswered

theorem NothingToPlay.saveCurrentIndex (nothing : NothingToPlay queue)
    (saveHistory : Bool) :
    NothingToPlay (saveCurrentIndex saveHistory queue) := by
  unfold Queue.saveCurrentIndex
  split
  · exact nothing.of_frame rfl rfl rfl
  · exact nothing

theorem NothingToPlay.of_selects (nothing : NothingToPlay queue)
    (selects : Selects queue drawn) : NothingToPlay drawn := by
  rw [selects.frame]
  exact nothing.of_frame rfl rfl rfl

/-- Where nothing is loaded, nothing is current. -/
theorem NothingToPlay.nowhere (nothing : NothingToPlay queue)
    (placed : Placed queue) : place queue = (INDEX_NONE, none) := by
  have current : queue.entry = none := by
    rw [placed.located, nothing.unloaded, entryAt]
    split <;> rfl
  rw [place, placed.nowhere current, current]

/-- A jump in a queue with nothing to play stays. -/
theorem NothingToPlay.setIndex (nothing : NothingToPlay queue)
    (placed : Placed queue) (index : Int) (saveHistory : Bool) :
    Stays queue ((setIndex index saveHistory).run queue) := by
  have here := nothing.nowhere placed
  have current : queue.entry = none := congrArg Prod.snd here
  have saved := draws_saveCurrentIndex saveHistory queue
  by_cases rejected : index < 0 ∧ index ≠ INDEX_NONE
  · rw [Queue.setIndex, if_pos rejected]
    refine ⟨rfl, ?_⟩
    intro entry final returned
    cases returned
    exact current.symm
  · have loads : Draws _ _ :=
      respects_supplyLoop index
        (Queue.saveCurrentIndex saveHistory queue).supplyFuel false
        (Queue.saveCurrentIndex saveHistory queue)
    cases finished :
        (Queue.supplyLoop index
          (Queue.saveCurrentIndex saveHistory queue).supplyFuel false).run
          (Queue.saveCurrentIndex saveHistory queue) with
    | error exception loaded =>
        rw [finished] at loads
        have failed :
            (Queue.setIndex index saveHistory).run queue =
              .error exception loaded := by
          simp only [Queue.setIndex, if_neg rejected, EStateM.run_bind,
            EStateM.run_modify, getOrSupplyEntry, EStateM.run_get, finished]
        rw [failed]
        exact stays_of_error (IsTrans.trans _ _ _ saved loads)
    | ok changed loaded =>
        have unloaded :=
          (nothing.saveCurrentIndex saveHistory).supplyLoop finished
        have answer : entryAt loaded.fetchedEntries index = none := by
          rw [unloaded, entryAt]
          split <;> rfl
        have supplied := getOrSupplyEntry_run finished
        rw [answer] at supplied
        rw [setIndex_run_of_supplied rejected supplied]
        refine ⟨here.symm, ?_⟩
        intro entry final returned
        cases returned
        exact current.symm

/-- A provider that has prepared nothing and knows of no items does not
provide an index. -/
theorem provideIndices_unreported {size : Int} (unreported : size ≤ 0)
    (played : List Int) (provider : OrderIndexProvider)
    (random : Random) {indices : List Int} {source : IndexSource}
    (answered :
      (provider.provideIndices 1 size played INDEX_NONE).run
          ⟨[], random⟩ = .ok indices source) :
    indices = [] := by
  cases provider with
  | default =>
      have remaining : size - INDEX_NONE - 1 ≤ 0 := by
        rw [INDEX_NONE]
        omega
      simp only [OrderIndexProvider.provideIndices,
        DefaultOrderIndexProvider.provideIndices, if_pos remaining]
        at answered
      cases answered
      rfl
  | random prepared =>
      have refused :
          (RandomOrderIndexProvider.provideIndices 1 size).run
              ⟨[], random⟩ =
            .error .illegalArgument ⟨[], random⟩ := by
        simp [RandomOrderIndexProvider.provideIndices, collectIndices,
          collectFrom, RandomOrderIndexProvider.indexAt,
          nextInt_run_of_empty unreported]
      rw [OrderIndexProvider.provideIndices, refused] at answered
      cases answered
  | shuffle prepared =>
      have remaining : size - (played.length : Int) ≤ 0 := by omega
      simp only [OrderIndexProvider.provideIndices,
        ShuffleOrderIndexProvider.provideIndices, if_pos remaining]
        at answered
      cases answered
      rfl

theorem stays_next_repeating (placed : Placed queue)
    (repeating : queue.repeatMode ≠ .none) :
    Stays queue ((next true true).run queue) := by
  obtain ⟨selected, selects, ran⟩ :=
    @next_repeating _ _ queue true true repeating
  rw [ran]
  exact stays_here placed (Draws.of_selects selects) true

theorem NothingToPlay.next (nothing : NothingToPlay queue)
    (placed : Placed queue) :
    Stays queue ((next true true).run queue) := by
  have current : queue.entry = none :=
    congrArg Prod.snd (nothing.nowhere placed)
  obtain ⟨selected, selects, failed | ended | ⟨index, moved⟩⟩ :=
    next_cases true true queue
  · obtain ⟨exception, failed⟩ := failed
    rw [failed]
    exact stays_of_error (Draws.of_selects selects)
  · rw [ended.2]
    refine ⟨(Draws.of_selects selects).place, ?_⟩
    intro entry final returned
    cases returned
    exact current.symm
  · have draws := Draws.of_selects selects
    have stays :=
      (nothing.of_selects selects).setIndex (placed.draws draws) index true
    rw [moved]
    refine ⟨stays.place.trans draws.place, ?_⟩
    intro entry final returned
    rw [stays.returns entry final returned, draws.entry]

theorem NothingReported.getNextIndices (nothing : NothingReported queue)
    (mode : queue.effectiveRepeatMode true = .none) {indices : List Int}
    (picked :
      (getNextIndices 1 true true).run queue = .ok indices drawn) :
    indices = [] := by
  rw [getNextIndices_run_none mode, provideIndices_run] at picked
  have provider : queue.provider true = queue.orderIndexProvider := rfl
  rw [provider, nothing.nowhere, nothing.unprepared] at picked
  cases answered :
      (queue.orderIndexProvider.provideIndices 1 queue.estimatedSize
        queue.currentQueueIndicesPlayed INDEX_NONE).run
        ⟨[], queue.random⟩ with
  | error exception source =>
      rw [answered] at picked
      cases picked
  | ok provided source =>
      rw [answered] at picked
      cases picked
      exact provideIndices_unreported nothing.unreported _ _ _ answered

theorem NothingReported.next (nothing : NothingReported queue)
    (placed : Placed queue) (mode : queue.repeatMode = .none) :
    Stays queue ((next true true).run queue) := by
  have current : queue.entry = none := by
    rw [placed.located, nothing.nowhere, entryAt_none]
  have selects := respects_getNextIndices 1 true true queue
  cases picked : (Queue.getNextIndices 1 true true).run queue with
  | error exception chosen =>
      have failed :
          (Queue.next true true).run queue = .error exception chosen := by
        simp only [Queue.next, EStateM.run_bind, picked]
      rw [picked] at selects
      rw [failed]
      exact stays_of_error (Draws.of_selects selects)
  | ok indices chosen =>
      have none_there := nothing.getNextIndices mode picked
      rw [picked] at selects
      rw [none_there] at picked
      rw [next_run_of_none picked]
      refine ⟨(Draws.of_selects selects).place, ?_⟩
      intro entry final returned
      cases returned
      exact current.symm

/-- `next` stays in a repeat mode and where it finds nothing. -/
theorem stays_next (placed : Placed queue)
    (leaves : Work.LeavesPlace queue .advance) :
    Stays queue ((next true true).run queue) := by
  by_cases repeating : queue.repeatMode = .none
  · rcases leaves with elsewhere | nothing | nothing
    · exact absurd repeating elsewhere
    · exact nothing.next placed
    · exact nothing.next placed repeating
  · exact stays_next_repeating placed repeating

/-- The coroutine of the stream end stays where its `next` stays. -/
theorem stays_advance (placed : Placed queue)
    (stays : Stays queue ((next true true).run queue)) :
    place (finalState (advance.run queue)) = place queue := by
  cases ran : (next true true).run queue with
  | error exception final =>
      rw [ran] at stays
      have failed : advance.run queue = .error exception final := by
        simp only [advance, EStateM.run_bind, ran]
      rw [failed]
      exact stays.place
  | ok entry final =>
      rw [ran] at stays
      have same := stays.returns entry final rfl
      have settled : ¬(entry = none ∧ final.entryIndex ≠ INDEX_NONE) := by
        intro given
        obtain ⟨nothing, somewhere⟩ := given
        have index : final.entryIndex = queue.entryIndex :=
          congrArg Prod.fst stays.place
        rw [index] at somewhere
        exact somewhere (placed.nowhere (same.symm.trans nothing))
      have returned : advance.run queue = .ok entry final := by
        simp only [advance, EStateM.run_bind, EStateM.run_get, ran,
          if_neg settled]
        rfl
      rw [returned]
      exact stays.place

theorem leavesPlace_action (placed : Placed queue) {work : Work}
    (leaves : work.LeavesPlace queue) :
    place (finalState (work.action.run queue)) = place queue := by
  cases work with
  | setIndexZero =>
      rcases leaves with first | nothing
      · have stays := stays_here placed (Std.Refl.refl queue) false
        rw [first] at stays
        exact stays.place
      · exact (nothing.setIndex placed 0 false).place
  | advance =>
      exact stays_advance placed (stays_next placed leaves)

theorem keepsLaterRequest_of_inTime {scope : CoroutineScope Supplier}
    {event : ScopeEvent Supplier} (placed : Placed scope.queue)
    (inTime : scope.InTime event) : scope.KeepsLaterRequest event := by
  cases event with
  | dispatch position =>
      intro task found overtaken
      have leaves := inTime task found overtaken
      rw [CoroutineScope.step, found]
      exact leavesPlace_action placed leaves
  | _ =>
      trivial

end Leaving

/-- In every run in which the overtaken coroutines have nothing to change
where they run, none of them changes the current entry. -/
theorem launched_work_keeps_later_requests {Supplier : Type}
    [QueueSupplier Supplier] (order : PlaybackOrder) (mode : RepeatMode)
    (random : Random) (events : List (ScopeEvent Supplier))
    (inTime :
      Admitted CoroutineScope.step CoroutineScope.InTime
        (.fresh order mode random) events) :
    Admitted CoroutineScope.step CoroutineScope.KeepsLaterRequest
      (.fresh order mode random) events := by
  apply admitted_of_prefixes
  intro early event isEarly
  have guarded :=
    ((admitted_append _ early [event]).mp (inTime.earlier isEarly)).2.1
  have placed :
      Placed (run CoroutineScope.step (.fresh order mode random)
        early).queue :=
    run_preserves (fun scope event => placed_step scope event)
      ⟨rfl, fun _ => rfl⟩ early
  exact keepsLaterRequest_of_inTime placed guarded

/-- A selection of the first entry in the meantime is kept. -/
theorem first_entry_kept :
    Admitted CoroutineScope.step CoroutineScope.KeepsLaterRequest
      (.fresh .default .none (fun _ => 0))
      [.addSupplier (FixedSupplier.ofList [⟨0⟩, ⟨1⟩]),
        .setIndex 0 false, .dispatch 0] := by
  apply launched_work_keeps_later_requests
  refine ⟨trivial, trivial, ?_, trivial⟩
  intro task found _
  have only :
      (run CoroutineScope.step (.fresh .default .none (fun _ => 0))
          [.addSupplier (FixedSupplier.ofList [⟨0⟩, ⟨1⟩]),
            .setIndex 0 false]).tasks[0]? = some ⟨.setIndexZero, true⟩ := by
    decide
  cases found.symm.trans only
  exact Or.inl (by decide)

/-- The end of a track skips the first entry of a new queue. -/
theorem stream_end_skips_first_entry :
    ¬ Admitted CoroutineScope.step CoroutineScope.KeepsLaterRequest
      (.fresh .default .none (fun _ => 0))
      [.addSupplier (FixedSupplier.ofList [⟨0⟩, ⟨1⟩]), .dispatch 0,
        .onMediaStreamEnd, .clear,
        .addSupplier (FixedSupplier.ofList [⟨2⟩, ⟨3⟩]), .dispatch 1,
        .dispatch 0] := by
  decide

end JellyfinTv.Queue
