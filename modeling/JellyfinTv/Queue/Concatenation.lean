import JellyfinTv.Queue.Removal

/-!
# When lazy loading refines the concatenation

The cache and the items not yet drawn always make up the expected entries, and
`getOrSupplyEntry` answers from them.  The published entries follow the cache
until a removal throws: `removeEntry` publishes last, and in the random order
`next` throws on a queue that has become empty.
-/

namespace JellyfinTv.Queue

open QueueService Library

namespace QueueService

variable {Supplier : Type} [QueueSupplier Supplier]

/-- In the random order there is an index to go to after the removal of the
entry at `index`: another prepared one, or one that can be drawn. -/
def CanDraw (queue : QueueService Supplier) (index : Nat) : Prop :=
  match queue.orderIndexProvider with
  | .random prepared =>
      (∃ other ∈ prepared, other ≠ index) ∨ 1 < queue.estimatedSize
  | .default | .shuffle _ => True

instance (queue : QueueService Supplier) (index : Nat) :
    Decidable (queue.CanDraw index) := by
  unfold CanDraw
  split <;> infer_instance

/-- The removal of the current entry leaves an index to go to. -/
def RemovalDraws (queue : QueueService Supplier) :
    Operation Supplier → Prop
  | .removeEntry entry =>
      ∀ index ∈ queue.indexOf entry,
        queue.entry = some entry → queue.CanDraw index
  | _ => True

instance (queue : QueueService Supplier) :
    ∀ operation, Decidable (queue.RemovalDraws operation)
  | .removeEntry _ =>
      inferInstanceAs (Decidable (∀ index ∈ queue.indexOf _, _))
  | .addSupplier _ | .setIndex _ _ | .next _ _ | .previous
  | .peekNext _ _ _ | .peekPrevious | .clear | .mediaStreamEnd
  | .setPlaybackOrder _ | .setRepeatMode _ => isTrue trivial

end QueueService

section Removal

variable {queue : FixedQueue}

/-- Behind a removal `next` returns, unless there is nothing to draw. -/
theorem next_returns (start : -1 ≤ queue.entryIndex)
    (nonneg : queue.PreparesNonneg)
    (drawable :
      queue.orderIndexProvider ≠ .random [] ∨ 0 < queue.estimatedSize) :
    ∃ response final, (next true false).run queue = .ok response final := by
  have mode : queue.effectiveRepeatMode false = .none := rfl
  by_cases more : queue.HasNextIndex
  · obtain ⟨target, selected, -, atLeast, jumped⟩ :=
      next_jumps mode start nonneg more
    rw [setIndex_run, if_neg (by omega)] at jumped
    exact ⟨_, _, jumped⟩
  · unfold HasNextIndex at more
    cases chosen : queue.orderIndexProvider with
    | default =>
        rw [chosen] at more
        have provided : queue.provider true = .default := chosen
        have ended := next_default mode provided
        rw [if_neg more] at ended
        exact ⟨_, _, ended⟩
    | random prepared =>
        rw [chosen] at more drawable
        obtain ⟨empty, none⟩ := not_or.mp more
        rw [not_not] at empty
        rw [empty] at drawable
        rcases drawable with other | positive
        · exact absurd rfl other
        · exact absurd positive none
    | shuffle prepared =>
        rw [chosen] at more
        have provided : queue.provider true = .shuffle prepared := chosen
        have finished :
            queue.estimatedSize - queue.currentQueueIndicesPlayed.length ≤
              0 :=
          Int.sub_nonpos_of_le (Int.not_lt.mp more)
        have picked :
            (getNextIndices 1 true false).run queue = .ok [] queue := by
          rw [getNextIndices_run_none mode]
          exact
            provideIndices_of_ok provided
              (shuffleProvider_run_ended finished _)
        exact ⟨_, _, next_run_of_none picked⟩

theorem canDraw_iff {entry : QueueEntry} {index : Nat}
    (found : queue.indexOf entry = some index) :
    queue.CanDraw index ↔
      (queue.dropEntry index).orderIndexProvider ≠ .random [] ∨
        0 < (queue.dropEntry index).estimatedSize := by
  obtain ⟨inside, -, -⟩ := List.idxOf?_eq_some_iff.mp found
  have provider :
      (queue.dropEntry index).orderIndexProvider =
        queue.orderIndexProvider.notifyRemoved index := rfl
  rw [estimatedSize_dropEntry inside, provider]
  unfold CanDraw
  cases queue.orderIndexProvider with
  | default =>
      simp [OrderIndexProvider.notifyRemoved]
  | random prepared =>
      refine or_congr ?_ (by omega)
      simp [OrderIndexProvider.notifyRemoved, shiftRemoved]
  | shuffle prepared =>
      simp [OrderIndexProvider.notifyRemoved]

/-- A removal publishes the cache unless it throws. -/
theorem removeEntry_publishes_iff (published : Published queue)
    (inRange : queue.InRange) (nonneg : queue.PreparesNonneg)
    {entry : QueueEntry} {index : Nat}
    (found : queue.indexOf entry = some index) :
    Published (step queue (.removeEntry entry)) ↔
      (queue.entry = some entry → queue.CanDraw index) := by
  have dropped : (queue.dropEntry index).InRange := inRange.dropEntry found
  have kept : (queue.dropEntry index).PreparesNonneg :=
    OrderIndexProvider.nonneg_notifyRemoved nonneg (Int.natCast_nonneg index)
  have same : (queue.dropEntry index).entry = queue.entry := rfl
  rw [step_removeEntry_eq found, finishRemoval_run, same, canDraw_iff found]
  by_cases current : queue.entry = some entry
  · rw [if_pos current]
    by_cases drawable :
        (queue.dropEntry index).orderIndexProvider ≠ .random [] ∨
          0 < (queue.dropEntry index).estimatedSize
    · obtain ⟨response, final, returned⟩ :=
        next_returns dropped.start kept drawable
      rw [returned]
      exact iff_of_true rfl fun _ => drawable
    · obtain ⟨empty, none⟩ := not_or.mp drawable
      rw [not_not] at empty
      rw [next_random_empty rfl empty (Int.not_lt.mp none)]
      refine iff_of_false ?_ fun draws => drawable (draws current)
      -- the flow still shows the removed entry
      intro shown
      have lengths := congrArg List.length (published.symm.trans shown)
      obtain ⟨inside, -, -⟩ := List.idxOf?_eq_some_iff.mp found
      have shorter :
          (queue.fetchedEntries.eraseIdx index).length =
            queue.fetchedEntries.length - 1 :=
        List.length_eraseIdx_of_lt inside
      have longer :
          queue.fetchedEntries.length =
            (queue.fetchedEntries.eraseIdx index).length := lengths
      omega
  · rw [if_neg current]
    exact iff_of_true rfl fun playing => absurd playing current

theorem step_published_iff (published : Published queue)
    (inRange : queue.InRange) (nonneg : queue.PreparesNonneg)
    (operation : Operation FixedSupplier) :
    Published (step queue operation) ↔ queue.RemovalDraws operation := by
  cases operation using steadyCases with
  | steady operation steady =>
      refine iff_of_true ((step_keeps steady queue).published published) ?_
      cases operation <;> trivial
  | addSupplier supplier =>
      exact
        iff_of_true ((step_addSupplier queue supplier).published published)
          trivial
  | removeEntry entry =>
      cases found : queue.indexOf entry with
      | none =>
          rw [step_removeEntry_of_absent found]
          refine iff_of_true published ?_
          intro index located
          rw [found] at located
          cases located
      | some index =>
          rw [removeEntry_publishes_iff published inRange nonneg found]
          constructor
          · intro draws other located
            rw [found] at located
            cases located
            exact draws
          · exact fun draws => draws index found
  | clear =>
      exact iff_of_true rfl trivial
  | setPlaybackOrder order =>
      refine iff_of_true ?_ trivial
      rw [step_setPlaybackOrder, setPlaybackOrder_frame]
      exact published

end Removal

/-- The queue is the expected list, loaded lazily: the cache goes on with the
items not yet drawn, `getOrSupplyEntry` finds the entry at each position and
`null` elsewhere, and the cache is published. -/
structure Refines (queue : FixedQueue) (ledger : Ledger) : Prop where
  contents : queue.fetchedEntries ++ queue.undrawn = ledger.expected
  answers : ∀ index, ∃ loaded,
    (getOrSupplyEntry index).run queue =
      .ok (entryAt ledger.expected index) loaded
  published : queue.entries = queue.fetchedEntries

theorem Represents.refines_iff {queue : FixedQueue} {ledger : Ledger}
    (represents : Represents queue ledger) :
    Refines queue ledger ↔ Published queue := by
  constructor
  · exact Refines.published
  · intro published
    refine ⟨represents.contents, fun index => ⟨load index queue, ?_⟩, published⟩
    rw [← represents.contents]
    exact (getOrSupplyEntry_spec index queue).1

/-- Over distinct entries the queue refines the concatenation after every
operation of a run just if no removal in it takes the current entry in the
random order without leaving an index to go to. -/
theorem lazyLoading_refines_concatenation_iff
    (order : PlaybackOrder) (mode : RepeatMode) (random : Random)
    (operations : List (Operation FixedSupplier))
    (distinct :
      Admitted step Distinct (QueueService.fresh order mode random)
        operations) :
    (∀ early, early <+: operations →
        Refines (run step (QueueService.fresh order mode random) early)
          (run ledgerStep
            (QueueService.fresh order mode random, Ledger.empty) early).2) ↔
      Admitted step RemovalDraws (QueueService.fresh order mode random)
        operations := by
  have refines_iff : ∀ early, early <+: operations →
      (Refines (run step (QueueService.fresh order mode random) early)
          (run ledgerStep
            (QueueService.fresh order mode random, Ledger.empty) early).2 ↔
        Published (run step (QueueService.fresh order mode random) early)) :=
    fun early before =>
      (run_represents (represents_fresh order mode random)
        (distinct.earlier before)).refines_iff
  rw [forall₂_congr refines_iff]
  have sound :
      (QueueService.fresh order mode random : FixedQueue).InRange ∧
        (QueueService.fresh order mode random).PreparesNonneg :=
    ⟨run_inRange order mode random [], preparesNonneg_ofOrder order⟩
  have kept : ∀ (queue : FixedQueue) operation,
      queue.InRange ∧ queue.PreparesNonneg → queue.Distinct operation →
        (step queue operation).InRange ∧
          (step queue operation).PreparesNonneg := by
    rintro queue operation ⟨inRange, nonneg⟩ -
    exact
      ⟨step_inRange queue operation inRange,
        step_preparesNonneg nonneg operation⟩
  have exact : ∀ (queue : FixedQueue) operation,
      queue.InRange ∧ queue.PreparesNonneg → queue.Distinct operation →
        Published queue →
          (Published (step queue operation) ↔
            queue.RemovalDraws operation) := by
    rintro queue operation ⟨inRange, nonneg⟩ - published
    exact step_published_iff published inRange nonneg operation
  exact holds_throughout_iff_admitted kept exact sound rfl distinct

theorem lazyLoading_refines_after_removal_and_refill :
    let operations : List (Operation FixedSupplier) :=
      [.addSupplier (.ofList [⟨0⟩, ⟨1⟩]), .next true false,
        .next true false, .removeEntry ⟨0⟩, .addSupplier (.ofList [⟨2⟩])]
    let start := QueueService.fresh .random .none fun _ => 0
    (run step start operations).fetchedEntries = [⟨1⟩] ∧
      ∀ early, early <+: operations →
        Refines (run step start early)
          (run ledgerStep (start, Ledger.empty) early).2 := by
  refine ⟨by decide, ?_⟩
  exact (lazyLoading_refines_concatenation_iff .random .none (fun _ => 0) _
    (by decide)).mpr (by decide)

/-- Removing the only entry in the random order leaves it published. -/
theorem emptied_random_queue_shows_removed_entry :
    let operations : List (Operation FixedSupplier) :=
      [.addSupplier (.ofList [⟨0⟩]), .removeEntry ⟨0⟩]
    let start := QueueService.fresh .random .none fun _ => 0
    Admitted step Distinct start operations ∧
      (run step start operations).fetchedEntries = [] ∧
      (run step start operations).entries = [⟨0⟩] ∧
      ¬ Refines (run step start operations)
          (run ledgerStep (start, Ledger.empty) operations).2 := by
  refine ⟨by decide, by decide, by decide, ?_⟩
  intro refines
  exact absurd refines.published (by decide)

end JellyfinTv.Queue
