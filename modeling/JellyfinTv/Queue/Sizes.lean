import JellyfinTv.Queue.Refinement

/-!
# Exact sizes

When every supplier reports its exact size, the estimated size of a queue that
has not been cleared is the length of its contents, whatever has been loaded or
removed so far.
-/

namespace JellyfinTv.Queue

open QueueService Library

namespace QueueService

/-- Every supplier reports the number of its items. -/
def ExactSizes (queue : FixedQueue) : Prop :=
  ∀ supplier ∈ queue.suppliers, supplier.Exact

theorem exactSizes_iff_catalogue (queue : FixedQueue) :
    queue.ExactSizes ↔
      ∀ listed ∈ queue.catalogue,
        ∀ served, listed.2 served = listed.1.length := by
  simp [ExactSizes, catalogue, FixedSupplier.Exact]

theorem ExactSizes.of_catalogue {before after : FixedQueue}
    (exact : before.ExactSizes)
    (same : after.catalogue = before.catalogue) : after.ExactSizes := by
  rw [exactSizes_iff_catalogue] at exact ⊢
  rw [same]
  exact exact

theorem ExactSizes.withSupplier {queue : FixedQueue}
    (exact : queue.ExactSizes) {supplier : FixedSupplier}
    (added : supplier.Exact) : (queue.withSupplier supplier).ExactSizes := by
  intro other member
  rcases List.mem_append.mp member with earlier | last
  · exact exact other earlier
  · rw [List.mem_singleton.mp last]
    exact added

theorem ExactSizes.estimatedSize {queue : FixedQueue}
    (exact : queue.ExactSizes) :
    queue.estimatedSize =
      max (queue.fetchedEntries.length : Int)
        ((queue.stock.length : Int) - queue.removedEntries) := by
  have sum :
      ∀ suppliers : List FixedSupplier,
        (∀ supplier ∈ suppliers, supplier.Exact) →
          (suppliers.map QueueSupplier.size).sum =
            ((suppliers.flatMap FixedSupplier.items).length : Int) := by
    intro suppliers all
    induction suppliers with
    | nil =>
        rfl
    | cons supplier later inductionHypothesis =>
        have reported :
            QueueSupplier.size supplier = (supplier.items.length : Int) :=
          all supplier List.mem_cons_self _
        have rest :=
          inductionHypothesis fun other member =>
            all other (List.mem_cons_of_mem supplier member)
        rw [List.map_cons, List.sum_cons, rest, reported,
          List.flatMap_cons, List.length_append]
        omega
  rw [QueueService.estimatedSize, sum queue.suppliers exact, stock]

/-- A new supplier adds its items to the stock and to the contents. -/
theorem lengths_withSupplier {queue : FixedQueue}
    (positioned : queue.Positioned) (supplier : FixedSupplier) :
    (queue.withSupplier supplier).stock.length =
        queue.stock.length + supplier.items.length ∧
      (queue.withSupplier supplier).contents.length =
        queue.contents.length + supplier.items.length := by
  rw [stock_withSupplier, contents_withSupplier positioned,
    List.length_append, List.length_append]
  exact ⟨rfl, rfl⟩

/-- A removed entry leaves the contents. -/
theorem length_contents_dropEntry {queue : FixedQueue}
    {entry : QueueEntry} {index : Nat}
    (found : queue.indexOf entry = some index) :
    (queue.dropEntry index).contents.length + 1 =
      queue.contents.length := by
  have member : entry ∈ queue.contents :=
    List.mem_append_left _ (mem_of_indexOf found)
  have nonempty := List.length_pos_of_mem member
  rw [contents_dropEntry found, List.length_erase_of_mem member]
  omega

/-- A removal moves an entry from the contents to the removed ones. -/
theorem total_dropEntry {queue : FixedQueue} {entry : QueueEntry}
    {index : Nat} (found : queue.indexOf entry = some index) :
    (queue.dropEntry index).contents.length +
        (queue.dropEntry index).removedEntries =
      queue.contents.length + queue.removedEntries := by
  have shorter := length_contents_dropEntry found
  have removed :
      (queue.dropEntry index).removedEntries = queue.removedEntries + 1 :=
    rfl
  rw [removed]
  omega

/-- The items of the suppliers are the contents and the removed entries. -/
structure Counted (queue : FixedQueue) : Prop where
  exact : queue.ExactSizes
  tally :
    queue.stock.length = queue.contents.length + queue.removedEntries

namespace Counted

/-- The estimated size is the number of entries, loaded or not. -/
theorem estimatedSize {queue : FixedQueue} (counted : queue.Counted) :
    queue.estimatedSize = queue.contents.length := by
  have tally := counted.tally
  have total :
      queue.contents.length =
        queue.fetchedEntries.length + queue.undrawn.length :=
    List.length_append
  rw [counted.exact.estimatedSize]
  omega

theorem of_keeps {before after : FixedQueue} (counted : before.Counted)
    (keeps : Keeps before after) : after.Counted where
  exact := counted.exact.of_catalogue keeps.catalogue
  tally := by
    rw [stock_eq_of_catalogue keeps.catalogue, keeps.contents,
      keeps.removedEntries]
    exact counted.tally

theorem withSupplier {queue : FixedQueue} (counted : queue.Counted)
    (positioned : queue.Positioned) {supplier : FixedSupplier}
    (exact : supplier.Exact) : (queue.withSupplier supplier).Counted where
  exact := counted.exact.withSupplier exact
  tally := by
    have tally := counted.tally
    have added := lengths_withSupplier positioned supplier
    rw [added.1, added.2]
    simp only [QueueService.withSupplier]
    omega

theorem dropEntry {queue : FixedQueue} (counted : queue.Counted)
    {entry : QueueEntry} {index : Nat}
    (found : queue.indexOf entry = some index) :
    (queue.dropEntry index).Counted where
  exact := counted.exact
  tally := by
    rw [total_dropEntry found]
    exact counted.tally

end Counted

/-- A queue over `items` whose provider has prepared nothing and whose history
is empty. -/
structure Stocked (order : PlaybackOrder) (mode : RepeatMode)
    (items : List QueueEntry) (queue : FixedQueue) : Prop where
  provider : queue.orderIndexProvider = .ofOrder order
  mode : queue.repeatMode = mode
  history : queue.currentQueueIndicesPlayed = []
  counted : queue.Counted
  positioned : queue.Positioned
  contents : queue.contents = items

theorem stocked_fresh (order : PlaybackOrder) (mode : RepeatMode)
    (random : Random) :
    Stocked order mode [] (QueueService.fresh order mode random) where
  provider := rfl
  mode := rfl
  history := rfl
  counted :=
    ⟨fun _ member => absurd member List.not_mem_nil, rfl⟩
  positioned := Or.inr ⟨rfl, rfl⟩
  contents := rfl

namespace Stocked

variable {order : PlaybackOrder} {mode : RepeatMode}
variable {items : List QueueEntry} {queue : FixedQueue}

theorem jump (stocked : Stocked order mode items queue) (index : Int) :
    Stocked order mode items (QueueService.jump index false queue) := by
  have keeps := keeps_movement.jumps index false queue
  exact
    { provider := (jump_provider index false queue).trans stocked.provider
      mode := (jump_repeatMode index false queue).trans stocked.mode
      history := by
        rw [jump_history, saveCurrentIndex_false]
        exact stocked.history
      counted := stocked.counted.of_keeps keeps
      positioned := keeps.positioned stocked.positioned
      contents := keeps.contents.trans stocked.contents }

theorem addSupplier (stocked : Stocked order mode items queue)
    {supplier : FixedSupplier} (exact : supplier.Exact) :
    Stocked order mode (items ++ supplier.items)
      (step queue (.addSupplier supplier)) := by
  have added :
      Stocked order mode (items ++ supplier.items)
        (queue.withSupplier supplier) :=
    { provider := stocked.provider
      mode := stocked.mode
      history := stocked.history
      counted := stocked.counted.withSupplier stocked.positioned exact
      positioned := positioned_withSupplier stocked.positioned supplier
      contents := by
        rw [contents_withSupplier stocked.positioned, stocked.contents] }
  rw [step_addSupplier_eq]
  split
  · exact added.jump 0
  · exact added

theorem addSuppliers (stocked : Stocked order mode items queue)
    {suppliers : List FixedSupplier}
    (exact : ∀ supplier ∈ suppliers, supplier.Exact) :
    Stocked order mode (items ++ suppliers.flatMap FixedSupplier.items)
      (run step queue (suppliers.map Operation.addSupplier)) := by
  induction suppliers generalizing queue items with
  | nil =>
      simpa using stocked
  | cons supplier later inductionHypothesis =>
      have first :=
        stocked.addSupplier (exact supplier List.mem_cons_self)
      have rest :=
        inductionHypothesis first fun other member =>
          exact other (List.mem_cons_of_mem supplier member)
      simpa [List.append_assoc] using rest

end Stocked

/-- A new queue over the suppliers, with the entry at `current` selected. -/
def filled (order : PlaybackOrder) (mode : RepeatMode) (random : Random)
    (suppliers : List FixedSupplier) (current : Nat) : FixedQueue :=
  run step (QueueService.fresh order mode random)
    (suppliers.map Operation.addSupplier ++ [.setIndex current false])

theorem filled_eq_jump (order : PlaybackOrder) (mode : RepeatMode)
    (random : Random) (suppliers : List FixedSupplier) (current : Nat) :
    filled order mode random suppliers current =
      QueueService.jump current false
        (run step (QueueService.fresh order mode random)
          (suppliers.map Operation.addSupplier)) := by
  rw [filled, run_append, run_cons, run_nil, step_setIndex,
    if_neg (by omega)]

theorem stocked_filled (order : PlaybackOrder) (mode : RepeatMode)
    (random : Random) {suppliers : List FixedSupplier}
    (exact : ∀ supplier ∈ suppliers, supplier.Exact) (current : Nat) :
    Stocked order mode (suppliers.flatMap FixedSupplier.items)
      (filled order mode random suppliers current) := by
  rw [filled_eq_jump]
  exact ((stocked_fresh order mode random).addSuppliers exact).jump current

end QueueService

end JellyfinTv.Queue
