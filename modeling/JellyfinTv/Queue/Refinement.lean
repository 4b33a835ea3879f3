import JellyfinTv.Queue.Effects

/-!
# Lazy loading refines eager concatenation

The ledger is the abstract queue: the lists added since the last `clear` and
the entries that `removeEntry` has taken out.  Every run over suppliers with
pairwise distinct entries keeps the cache followed by the undrawn items equal
to the concatenation of the added lists without the removed entries.
-/

namespace JellyfinTv.Queue

open QueueService Library

namespace QueueService

/-- All items of the present suppliers. -/
def stock (queue : FixedQueue) : List QueueEntry :=
  queue.suppliers.flatMap FixedSupplier.items

/-- The items an operation brings into the queue. -/
def incoming : Operation FixedSupplier → List QueueEntry
  | .addSupplier supplier => supplier.items
  | _ => []

/-- The entries of all suppliers stay pairwise distinct. -/
def Distinct (queue : FixedQueue) (operation : Operation FixedSupplier) :
    Prop :=
  (queue.stock ++ incoming operation).Nodup

instance (queue : FixedQueue) (operation : Operation FixedSupplier) :
    Decidable (queue.Distinct operation) :=
  inferInstanceAs (Decidable (List.Nodup _))

theorem stock_eq_of_catalogue {before after : FixedQueue}
    (same : after.catalogue = before.catalogue) :
    after.stock = before.stock := by
  have items := congrArg (List.flatMap Prod.fst) same
  simpa [catalogue, stock, List.flatMap_map] using items

theorem stock_withSupplier (queue : FixedQueue)
    (supplier : FixedSupplier) :
    (queue.withSupplier supplier).stock = queue.stock ++ supplier.items := by
  simp [stock, withSupplier]

end QueueService

/-- The abstract queue: added lists and removed entries. -/
structure Ledger where
  added : List (List QueueEntry)
  removed : List QueueEntry
  deriving DecidableEq

namespace Ledger

def empty : Ledger := ⟨[], []⟩

/-- The concatenation of the added lists without the removed entries. -/
def expected (ledger : Ledger) : List QueueEntry :=
  ledger.added.flatten.filter fun entry => entry ∉ ledger.removed

/-- Record an operation on the queue: a removal counts when it finds the entry
in the cache. -/
def record (queue : FixedQueue) (ledger : Ledger) :
    Operation FixedSupplier → Ledger
  | .addSupplier supplier =>
      { ledger with added := ledger.added ++ [supplier.items] }
  | .removeEntry entry =>
      if entry ∈ queue.fetchedEntries then
        { ledger with removed := ledger.removed ++ [entry] }
      else ledger
  | .clear => empty
  | _ => ledger

end Ledger

/-- The queue with the ledger of its operations. -/
def ledgerStep (tracked : FixedQueue × Ledger)
    (operation : Operation FixedSupplier) : FixedQueue × Ledger :=
  (step tracked.1 operation, Ledger.record tracked.1 tracked.2 operation)

/-- The queue is a lazily loaded view of the ledger. -/
structure Represents (queue : FixedQueue) (ledger : Ledger) : Prop where
  contents : queue.contents = ledger.expected
  stock : queue.stock = ledger.added.flatten
  nodup : ledger.added.flatten.Nodup
  removed : ∀ entry ∈ ledger.removed, entry ∈ ledger.added.flatten
  positioned : queue.Positioned

namespace Represents

theorem of_keeps {before after : FixedQueue} {ledger : Ledger}
    (represents : Represents before ledger) (keeps : Keeps before after) :
    Represents after ledger where
  contents := keeps.contents.trans represents.contents
  stock :=
    (stock_eq_of_catalogue keeps.catalogue).trans represents.stock
  nodup := represents.nodup
  removed := represents.removed
  positioned := keeps.positioned represents.positioned

theorem withSupplier {queue : FixedQueue} {ledger : Ledger}
    (represents : Represents queue ledger) {supplier : FixedSupplier}
    (distinct : (queue.stock ++ supplier.items).Nodup) :
    Represents (queue.withSupplier supplier)
      { ledger with added := ledger.added ++ [supplier.items] } := by
  rw [represents.stock] at distinct
  have flattened :
      (ledger.added ++ [supplier.items]).flatten =
        ledger.added.flatten ++ supplier.items := by
    simp
  have untouched :
      supplier.items.filter (fun entry => entry ∉ ledger.removed) =
        supplier.items := by
    apply List.filter_eq_self.mpr
    intro entry member
    have fresh : entry ∉ ledger.removed := by
      intro taken
      exact (List.nodup_append.mp distinct).2.2 entry
        (represents.removed entry taken) entry member rfl
    simpa using fresh
  refine
    { contents := ?_
      stock := ?_
      nodup := ?_
      removed := ?_
      positioned := positioned_withSupplier represents.positioned supplier }
  · rw [contents_withSupplier represents.positioned, represents.contents,
      Ledger.expected, Ledger.expected, flattened, List.filter_append,
      untouched]
  · rw [stock_withSupplier, represents.stock, flattened]
  · rw [flattened]
    exact distinct
  · intro entry taken
    rw [flattened]
    exact List.mem_append_left _ (represents.removed entry taken)

theorem dropEntry {queue : FixedQueue} {ledger : Ledger}
    (represents : Represents queue ledger) {entry : QueueEntry}
    {index : Nat} (found : queue.indexOf entry = some index) :
    Represents (queue.dropEntry index)
      { ledger with removed := ledger.removed ++ [entry] } := by
  have member : entry ∈ queue.fetchedEntries := mem_of_indexOf found
  have listed : entry ∈ ledger.added.flatten := by
    have expected : entry ∈ ledger.expected := by
      rw [← represents.contents]
      exact List.mem_append_left _ member
    exact List.mem_of_mem_filter expected
  refine
    { contents := ?_
      stock := represents.stock
      nodup := represents.nodup
      removed := ?_
      positioned := represents.positioned }
  · have nodup : ledger.expected.Nodup := represents.nodup.filter _
    rw [contents_dropEntry found, represents.contents,
      nodup.erase_eq_filter, Ledger.expected, Ledger.expected,
      List.filter_filter]
    apply List.filter_congr
    intro other _
    by_cases same : other = entry <;> simp [same]
  · intro other taken
    rcases List.mem_append.mp taken with earlier | last
    · exact represents.removed other earlier
    · rw [List.mem_singleton.mp last]
      exact listed

/-- One operation keeps the queue a view of its ledger, even if it throws. -/
theorem step {queue : FixedQueue} {ledger : Ledger}
    (represents : Represents queue ledger)
    {operation : Operation FixedSupplier}
    (distinct : queue.Distinct operation) :
    Represents (Queue.step queue operation)
      (Ledger.record queue ledger operation) := by
  cases operation using steadyCases with
  | steady operation steady =>
      have sameLedger : Ledger.record queue ledger operation = ledger := by
        cases operation <;> first | rfl | exact steady.elim
      rw [sameLedger]
      exact represents.of_keeps (step_keeps steady queue)
  | addSupplier supplier =>
      exact (represents.withSupplier distinct).of_keeps
        (step_addSupplier queue supplier)
  | removeEntry entry =>
      cases found : queue.indexOf entry with
      | none =>
          have absent : entry ∉ queue.fetchedEntries :=
            List.idxOf?_eq_none_iff.mp found
          rw [step_removeEntry_of_absent found, Ledger.record,
            if_neg absent]
          exact represents
      | some index =>
          rw [Ledger.record, if_pos (mem_of_indexOf found)]
          exact (represents.dropEntry found).of_keeps
            (step_removeEntry found)
  | clear =>
      exact
        { contents := rfl
          stock := rfl
          nodup := List.nodup_nil
          removed := by simp [Ledger.record, Ledger.empty]
          positioned := Or.inr ⟨rfl, rfl⟩ }
  | setPlaybackOrder order =>
      rw [step_setPlaybackOrder, setPlaybackOrder_frame]
      exact
        { contents := represents.contents
          stock := represents.stock
          nodup := represents.nodup
          removed := represents.removed
          positioned := represents.positioned }

end Represents

theorem represents_fresh (order : PlaybackOrder) (mode : RepeatMode)
    (random : Random) :
    Represents (QueueService.fresh order mode random) Ledger.empty where
  contents := rfl
  stock := rfl
  nodup := List.nodup_nil
  removed := by simp [Ledger.empty]
  positioned := Or.inr ⟨rfl, rfl⟩

/-- Every run over distinct entries keeps the queue a view of its ledger. -/
theorem run_represents {queue : FixedQueue} {ledger : Ledger}
    {operations : List (Operation FixedSupplier)}
    (represents : Represents queue ledger)
    (distinct : Admitted step Distinct queue operations) :
    Represents (run step queue operations)
      (run ledgerStep (queue, ledger) operations).2 := by
  induction operations generalizing queue ledger with
  | nil =>
      exact represents
  | cons operation rest inductionHypothesis =>
      exact inductionHypothesis (represents.step distinct.1) distinct.2

/-- The published entries are the cache. -/
def Published (queue : FixedQueue) : Prop :=
  queue.entries = queue.fetchedEntries

end JellyfinTv.Queue
