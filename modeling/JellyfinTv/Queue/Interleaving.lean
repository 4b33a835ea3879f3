import JellyfinTv.Library.Tasks
import JellyfinTv.Queue.Refinement

/-!
# Concurrent calls on the queue

`getOrSupplyEntry` suspends in every `getItem` call of its loop.  The item is
chosen by the supplier position read before the suspension, and the position
is advanced after it, whatever other calls have done in between.  A call that
runs alone is the operation of the service; the interleavings keep the cache a
prefix of the suppliers' items as long as each resumed call finds the supplier
position as it has read it.
-/

namespace JellyfinTv.Queue

open QueueService Library

/-- The calls that load entries. -/
inductive LoadingCall where
  | next (usePlaybackOrder useRepeatMode : Bool)
  | setIndex (index : Int) (saveHistory : Bool)
  | peekNext (amount : Int) (usePlaybackOrder useRepeatMode : Bool)
  | peekPrevious
  deriving DecidableEq, Repr

namespace LoadingCall

def operation : LoadingCall → Operation FixedSupplier
  | next usePlaybackOrder useRepeatMode =>
      .next usePlaybackOrder useRepeatMode
  | setIndex index saveHistory => .setIndex index saveHistory
  | peekNext amount usePlaybackOrder useRepeatMode =>
      .peekNext amount usePlaybackOrder useRepeatMode
  | peekPrevious => .peekPrevious

end LoadingCall

/-- What a call does with the entry it has waited for. -/
inductive Continuation where
  | select (index : Int)
  | peek (found : List QueueEntry) (rest : List Int)
  | peekPrevious
  deriving DecidableEq, Repr

/-- A call suspended in `supplier.getItem`: the local variables of
`getOrSupplyEntry` and the supplier position it has read. -/
structure Suspension where
  index : Int
  entriesChanged : Bool
  supplierIndex : Nat
  supplierEntryIndex : Nat
  continuation : Continuation
  deriving DecidableEq, Repr

abbrev QueueProgress :=
  Progress FixedQueue Suspension (Except QueueException Response)

/-- The loop goes on: the index is not cached and a supplier is left. -/
def NeedsItem (queue : FixedQueue) (index : Int) : Prop :=
  ¬ index < queue.fetchedEntries.length ∧
    queue.currentSupplierIndex < queue.suppliers.length

instance (queue : FixedQueue) (index : Int) :
    Decidable (NeedsItem queue index) :=
  inferInstanceAs (Decidable (_ ∧ _))

/-- Call `getItem` at the current supplier position. -/
def awaitItem (index : Int) (entriesChanged : Bool)
    (continuation : Continuation) (queue : FixedQueue) : QueueProgress :=
  .suspended queue
    { index := index
      entriesChanged := entriesChanged
      supplierIndex := queue.currentSupplierIndex
      supplierEntryIndex := queue.currentSupplierEntryIndex
      continuation := continuation }

/-- `mapNotNull` over the remaining indices of a peek. -/
def peekFrom (found : List QueueEntry) :
    List Int → FixedQueue → QueueProgress
  | [], queue => .finished queue (.ok (.entries found))
  | index :: rest, queue =>
      if NeedsItem queue index then
        awaitItem index false (.peek found rest) queue
      else
        peekFrom
          (found ++ (entryAt queue.fetchedEntries index).toList) rest queue

/-- `getOrSupplyEntry` has returned. -/
def deliver (entry : Option QueueEntry) (queue : FixedQueue) :
    Continuation → QueueProgress
  | .select index =>
      .finished (applyIndex index entry queue) (.ok (.entry entry))
  | .peek found rest => peekFrom (found ++ entry.toList) rest queue
  | .peekPrevious => .finished queue (.ok (.entry entry))

/-- `getOrSupplyEntry` from the test of its loop on. -/
def supply (index : Int) (entriesChanged : Bool)
    (continuation : Continuation) (queue : FixedQueue) : QueueProgress :=
  if NeedsItem queue index then
    awaitItem index entriesChanged continuation queue
  else
    deliver (entryAt queue.fetchedEntries index)
      (if entriesChanged then queue.publish else queue) continuation

/-- The answer of the supplier that the call has asked. -/
def receive (task : Suspension) (queue : FixedQueue) :
    Option QueueEntry × FixedQueue :=
  match queue.suppliers[task.supplierIndex]? with
  | none => (none, queue)
  | some supplier =>
      (supplier.items[task.supplierEntryIndex]?,
        { queue with
          suppliers :=
            queue.suppliers.set task.supplierIndex supplier.afterCall })

def resumeCall (task : Suspension) (queue : FixedQueue) : QueueProgress :=
  let (item, asked) := receive task queue
  supply task.index (task.entriesChanged || item.isSome) task.continuation
    (asked.acceptItem item)

/-- `setIndex` up to its first suspension. -/
def startSetIndex (index : Int) (saveHistory : Bool)
    (queue : FixedQueue) : QueueProgress :=
  if index < 0 ∧ index ≠ INDEX_NONE then
    .finished queue (.ok (.entry none))
  else
    supply index false (.select index) (saveCurrentIndex saveHistory queue)

def startCall (call : LoadingCall) (queue : FixedQueue) : QueueProgress :=
  match call with
  | .setIndex index saveHistory => startSetIndex index saveHistory queue
  | .next usePlaybackOrder useRepeatMode =>
      match (getNextIndices 1 usePlaybackOrder useRepeatMode).run queue with
      | .error exception chosen => .finished chosen (.error exception)
      | .ok [] chosen => .finished chosen (.ok (.entry none))
      | .ok (index :: _) chosen =>
          match (consumeIndex index usePlaybackOrder useRepeatMode).run
              chosen with
          | .error exception consumed =>
              .finished consumed (.error exception)
          | .ok _ consumed => startSetIndex index true consumed
  | .peekNext amount usePlaybackOrder useRepeatMode =>
      match (getNextIndices amount usePlaybackOrder useRepeatMode).run
          queue with
      | .error exception chosen => .finished chosen (.error exception)
      | .ok indices chosen => peekFrom [] indices chosen
  | .peekPrevious =>
      match queue.currentQueueIndicesPlayed.getLast? with
      | none => .finished queue (.ok (.entry none))
      | some index => supply index false .peekPrevious queue

/-- The queue as a system of concurrent calls. -/
def queueSystem :
    System FixedQueue LoadingCall Suspension
      (Except QueueException Response) where
  start := startCall
  resume := resumeCall

theorem peekFrom_cons (found : List QueueEntry) (index : Int)
    (rest : List Int) (queue : FixedQueue) :
    peekFrom found (index :: rest) queue =
      supply index false (.peek found rest) queue := by
  rw [peekFrom, supply]
  rfl

/-- A loop that runs alone ends like the loop of the service. -/
theorem alone_supply {index : Int} {fuel : Nat}
    {entriesChanged changed : Bool} {queue loaded : FixedQueue}
    (enough : pendingCalls queue < fuel)
    (finished :
      (supplyLoop index fuel entriesChanged).run queue =
        .ok changed loaded)
    (continuation : Continuation) :
    ∃ steps,
      queueSystem.alone steps
          (supply index entriesChanged continuation queue) =
        deliver (entryAt loaded.fetchedEntries index)
          (if changed then loaded.publish else loaded) continuation := by
  induction fuel generalizing queue entriesChanged with
  | zero =>
      omega
  | succ fuel inductionHypothesis =>
      rw [supplyLoop_succ] at finished
      split at finished
      · rename_i cached
        injection finished with flag same
        subst flag same
        refine ⟨0, ?_⟩
        rw [supply, if_neg fun needs => needs.1 cached]
        rfl
      · rename_i missing
        split at finished
        · rename_i exhausted
          injection finished with flag same
          subst flag same
          refine ⟨0, ?_⟩
          have outside := List.getElem?_eq_none_iff.mp exhausted
          rw [supply, if_neg fun needs => by have inside := needs.2; omega]
          rfl
        · rename_i supplier current
          obtain ⟨inside, _⟩ := List.getElem?_eq_some_iff.mp current
          have answered :
              (askSupplier supplier).run queue =
                .ok supplier.items[queue.currentSupplierEntryIndex]?
                  (queue.storeSupplier supplier.afterCall) := rfl
          rw [answered] at finished
          have fewer := pendingCalls_acceptItem current answered
          obtain ⟨steps, ended⟩ :=
            inductionHypothesis (by omega) finished
          refine ⟨steps + 1, ?_⟩
          rw [supply, if_pos ⟨missing, inside⟩]
          refine Eq.trans ?_ ended
          simp only [awaitItem, System.alone, queueSystem, resumeCall,
            receive, current]
          rfl

/-- `getOrSupplyEntry` alone returns what the service returns. -/
theorem alone_supply_load (index : Int) (continuation : Continuation)
    (queue : FixedQueue) :
    ∃ steps,
      queueSystem.alone steps (supply index false continuation queue) =
        deliver (entryAt queue.contents index) (load index queue)
          continuation := by
  obtain ⟨changed, loaded, finished, _⟩ :=
    supplyLoop_loads index queue.supplyFuel false queue
  obtain ⟨steps, ended⟩ :=
    alone_supply (pendingCalls_lt_supplyFuel queue) finished continuation
  have returned := (getOrSupplyEntry_spec index queue).1
  rw [getOrSupplyEntry_run finished] at returned
  injection returned with entry final
  rw [entry, final] at ended
  exact ⟨steps, ended⟩

/-- The remaining lookups of a peek alone. -/
theorem alone_peekFrom (indices : List Int) (found : List QueueEntry)
    (queue : FixedQueue) :
    ∃ steps entries final,
      (supplyEntries indices).run queue = .ok entries final ∧
        queueSystem.alone steps (peekFrom found indices queue) =
          .finished final (.ok (.entries (found ++ entries))) := by
  induction indices generalizing found queue with
  | nil =>
      refine ⟨0, [], queue, rfl, ?_⟩
      rw [List.append_nil]
      rfl
  | cons index rest inductionHypothesis =>
      obtain ⟨lookup, returned⟩ :=
        alone_supply_load index (.peek found rest) queue
      obtain ⟨steps, entries, final, others, ended⟩ :=
        inductionHypothesis
          (found ++ (entryAt queue.contents index).toList)
          (load index queue)
      refine
        ⟨lookup + steps, (entryAt queue.contents index).toList ++ entries,
          final, ?_, ?_⟩
      · simp only [supplyEntries, EStateM.run_bind,
          (getOrSupplyEntry_spec index queue).1, others]
        rfl
      · rw [peekFrom_cons, System.alone_add, returned, deliver, ended,
          List.append_assoc]

theorem alone_startSetIndex (index : Int) (saveHistory : Bool)
    (queue : FixedQueue) :
    ∃ steps entry final,
      (setIndex index saveHistory).run queue = .ok entry final ∧
        queueSystem.alone steps (startSetIndex index saveHistory queue) =
          .finished final (.ok (.entry entry)) := by
  rw [setIndex_run, startSetIndex]
  split
  · exact ⟨0, none, queue, rfl, rfl⟩
  · obtain ⟨steps, ended⟩ :=
      alone_supply_load index (.select index)
        (saveCurrentIndex saveHistory queue)
    rw [(Keeps.of_saveCurrentIndex saveHistory queue).contents] at ended
    exact
      ⟨steps, entryAt queue.contents index, jump index saveHistory queue,
        rfl, ended⟩

/-- A call that runs alone is the operation of the service: it ends in the
same state and with the same result. -/
theorem alone_startCall (call : LoadingCall) (queue : FixedQueue) :
    ∃ steps,
      queueSystem.alone steps (startCall call queue) =
        .finished (step queue call.operation)
          (outcome queue call.operation) := by
  simp only [step, outcome]
  cases call with
  | setIndex index saveHistory =>
      obtain ⟨steps, entry, final, ran, ended⟩ :=
        alone_startSetIndex index saveHistory queue
      refine ⟨steps, ended.trans ?_⟩
      simp only [LoadingCall.operation, perform, EStateM.run_bind, ran]
      rfl
  | next usePlaybackOrder useRepeatMode =>
      simp only [startCall, LoadingCall.operation, perform, next,
        EStateM.run_bind]
      cases (getNextIndices 1 usePlaybackOrder useRepeatMode).run queue with
      | error exception chosen =>
          exact ⟨0, rfl⟩
      | ok indices chosen =>
          cases indices with
          | nil =>
              exact ⟨0, rfl⟩
          | cons index rest =>
              simp only [List.head?_cons, EStateM.run_bind]
              cases (consumeIndex index usePlaybackOrder useRepeatMode).run
                  chosen with
              | error exception consumed =>
                  exact ⟨0, rfl⟩
              | ok _ consumed =>
                  obtain ⟨steps, entry, final, ran, ended⟩ :=
                    alone_startSetIndex index true consumed
                  refine ⟨steps, ended.trans ?_⟩
                  simp only [ran]
                  rfl
  | peekNext amount usePlaybackOrder useRepeatMode =>
      simp only [startCall, LoadingCall.operation, perform, peekNext,
        EStateM.run_bind]
      cases (getNextIndices amount usePlaybackOrder useRepeatMode).run
          queue with
      | error exception chosen =>
          exact ⟨0, rfl⟩
      | ok indices chosen =>
          obtain ⟨steps, entries, final, ran, ended⟩ :=
            alone_peekFrom indices [] chosen
          refine ⟨steps, ended.trans ?_⟩
          simp only [ran]
          rfl
  | peekPrevious =>
      simp only [startCall, LoadingCall.operation, perform, peekPrevious,
        EStateM.run_bind, EStateM.run_get]
      cases queue.currentQueueIndicesPlayed.getLast? with
      | none =>
          exact ⟨0, rfl⟩
      | some index =>
          obtain ⟨steps, ended⟩ :=
            alone_supply_load index .peekPrevious queue
          refine ⟨steps, ended.trans ?_⟩
          simp only [(getOrSupplyEntry_spec index queue).1]
          rfl

theorem contents_peekFrom (indices : List Int) (found : List QueueEntry)
    (queue : FixedQueue) :
    (peekFrom found indices queue).state.contents = queue.contents := by
  induction indices generalizing found with
  | nil =>
      rfl
  | cons index rest inductionHypothesis =>
      rw [peekFrom]
      split
      · rfl
      · exact inductionHypothesis _

theorem contents_deliver (entry : Option QueueEntry) (queue : FixedQueue)
    (continuation : Continuation) :
    (deliver entry queue continuation).state.contents = queue.contents := by
  cases continuation with
  | select index =>
      rfl
  | peek found rest =>
      exact contents_peekFrom rest _ queue
  | peekPrevious =>
      rfl

theorem contents_supply (index : Int) (entriesChanged : Bool)
    (continuation : Continuation) (queue : FixedQueue) :
    (supply index entriesChanged continuation queue).state.contents =
      queue.contents := by
  rw [supply]
  split
  · rfl
  · rw [contents_deliver]
    cases entriesChanged <;> rfl

theorem contents_startSetIndex (index : Int) (saveHistory : Bool)
    (queue : FixedQueue) :
    (startSetIndex index saveHistory queue).state.contents =
      queue.contents := by
  rw [startSetIndex]
  split
  · rfl
  · rw [contents_supply]
    exact (Keeps.of_saveCurrentIndex saveHistory queue).contents

/-- Starting a call draws nothing. -/
theorem contents_startCall (call : LoadingCall) (queue : FixedQueue) :
    (startCall call queue).state.contents = queue.contents := by
  cases call with
  | setIndex index saveHistory =>
      exact contents_startSetIndex index saveHistory queue
  | next usePlaybackOrder useRepeatMode =>
      have selected :=
        respects_getNextIndices 1 usePlaybackOrder useRepeatMode queue
      simp only [startCall]
      cases chosenBy :
          (getNextIndices 1 usePlaybackOrder useRepeatMode).run queue with
      | error exception chosen =>
          rw [chosenBy] at selected
          exact (Keeps.of_selects selected).contents
      | ok indices chosen =>
          rw [chosenBy] at selected
          cases indices with
          | nil =>
              exact (Keeps.of_selects selected).contents
          | cons index rest =>
              have used :=
                respects_consumeIndex index usePlaybackOrder useRepeatMode
                  chosen
              simp only
              cases consumedBy :
                  (consumeIndex index usePlaybackOrder useRepeatMode).run
                    chosen with
              | error exception consumed =>
                  rw [consumedBy] at used
                  exact (Keeps.of_selects used).contents.trans
                    (Keeps.of_selects selected).contents
              | ok _ consumed =>
                  rw [consumedBy] at used
                  exact (contents_startSetIndex index true consumed).trans
                    ((Keeps.of_selects used).contents.trans
                      (Keeps.of_selects selected).contents)
  | peekNext amount usePlaybackOrder useRepeatMode =>
      have selected :=
        respects_getNextIndices amount usePlaybackOrder useRepeatMode queue
      simp only [startCall]
      cases chosenBy :
          (getNextIndices amount usePlaybackOrder useRepeatMode).run
            queue with
      | error exception chosen =>
          rw [chosenBy] at selected
          exact (Keeps.of_selects selected).contents
      | ok indices chosen =>
          rw [chosenBy] at selected
          exact (contents_peekFrom indices [] chosen).trans
            (Keeps.of_selects selected).contents
  | peekPrevious =>
      simp only [startCall]
      cases queue.currentQueueIndicesPlayed.getLast? with
      | none =>
          rfl
      | some index =>
          exact contents_supply index false .peekPrevious queue

/-- The supplier position is still the one that the call has read. -/
def PositionUnchanged (queue : FixedQueue) (task : Suspension) : Prop :=
  queue.currentSupplierIndex = task.supplierIndex ∧
    queue.currentSupplierEntryIndex = task.supplierEntryIndex

instance (queue : FixedQueue) (task : Suspension) :
    Decidable (PositionUnchanged queue task) :=
  inferInstanceAs (Decidable (_ ∧ _))

/-- An item accepted at the position it was read for moves from the undrawn
items to the cache. -/
theorem contents_resumeCall {task : Suspension} {queue : FixedQueue}
    (unchanged : PositionUnchanged queue task) :
    (resumeCall task queue).state.contents = queue.contents := by
  simp only [resumeCall, receive, ← unchanged.1, ← unchanged.2]
  cases current : queue.suppliers[queue.currentSupplierIndex]? with
  | none =>
      have skipped :
          (queue.acceptItem none).suppliers[
            (queue.acceptItem none).currentSupplierIndex]? = none := by
        have outside := List.getElem?_eq_none_iff.mp current
        exact List.getElem?_eq_none_iff.mpr (Nat.le_succ_of_le outside)
      rw [contents_supply, contents, contents,
        undrawn_eq_nil_of_exhausted current,
        undrawn_eq_nil_of_exhausted skipped]
      rfl
  | some supplier =>
      rw [contents_supply]
      exact (loads_acceptItem current).contents

/-- No call has been made on these suppliers. -/
def unstarted (order : PlaybackOrder) (mode : RepeatMode) (random : Random)
    (suppliers : List FixedSupplier) : World FixedQueue Suspension where
  shared :=
    { (QueueService.fresh order mode random : FixedQueue) with
      suppliers := suppliers }
  tasks := []

theorem contents_unstarted (order : PlaybackOrder) (mode : RepeatMode)
    (random : Random) (suppliers : List FixedSupplier) :
    (unstarted order mode random suppliers).shared.contents =
      suppliers.flatMap FixedSupplier.items := by
  cases suppliers <;> rfl

/-- In every interleaving in which each resumed call finds the supplier
position as it has read it, the cache is at all times a prefix of the
suppliers' items: none is drawn twice and none is skipped. -/
theorem cache_is_prefix_while_position_unchanged
    (order : PlaybackOrder) (mode : RepeatMode) (random : Random)
    (suppliers : List FixedSupplier) (events : List (Event LoadingCall))
    (unchanged :
      Admitted queueSystem.step (System.Resumes PositionUnchanged)
        (unstarted order mode random suppliers) events) :
    ∀ early, early <+: events →
      (run queueSystem.step (unstarted order mode random suppliers)
          early).shared.fetchedEntries <+:
        suppliers.flatMap FixedSupplier.items := by
  intro early isEarly
  have kept :
      (run queueSystem.step (unstarted order mode random suppliers)
          early).shared.contents =
        suppliers.flatMap FixedSupplier.items := by
    apply System.run_shared fun queue : FixedQueue =>
      queue.contents = suppliers.flatMap FixedSupplier.items
    · intro call queue held
      exact (contents_startCall call queue).trans held
    · intro task queue held position
      exact (contents_resumeCall position).trans held
    · exact contents_unstarted order mode random suppliers
    · exact unchanged.earlier isEarly
  rw [← kept]
  exact List.prefix_append _ _

theorem cache_is_prefix_of_two_suppliers :
    (run queueSystem.step
        (unstarted .default .none (fun _ => 0)
          [.ofList [⟨0⟩], .ofList [⟨1⟩]])
        [.start (.setIndex 0 false), .resume 0,
          .start (.peekNext 1 true true), .start .peekPrevious, .resume 0,
          .resume 0]).shared.fetchedEntries <+:
      [⟨0⟩, ⟨1⟩] :=
  cache_is_prefix_while_position_unchanged .default .none (fun _ => 0)
    [.ofList [⟨0⟩], .ofList [⟨1⟩]]
    [.start (.setIndex 0 false), .resume 0,
      .start (.peekNext 1 true true), .start .peekPrevious, .resume 0,
      .resume 0]
    (by decide) _ List.prefix_rfl

/-- Two calls that wait for the first item both cache it. -/
theorem concurrent_calls_duplicate_first_entry :
    let world :=
      run queueSystem.step
        (unstarted .default .none (fun _ => 0) [.ofList [⟨0⟩, ⟨1⟩]])
        [.start (.setIndex 0 false), .start (.peekNext 1 true true),
          .resume 0, .resume 0]
    world.shared.fetchedEntries = [⟨0⟩, ⟨0⟩] ∧
      ¬ world.shared.fetchedEntries <+: [⟨0⟩, ⟨1⟩] := by
  decide

end JellyfinTv.Queue
