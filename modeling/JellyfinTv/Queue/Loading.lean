import JellyfinTv.Queue.Service

/-!
# Loading entries from the suppliers

`getOrSupplyEntry` draws items until the requested index is cached or the
suppliers are exhausted.  The loop is first shown to stop by its own tests for
every supplier.  Over fixed lists, `contents` is the queue as if it had been
loaded eagerly: the cache followed by the items not yet drawn.  Loading moves
the boundary between the two parts and nothing else.
-/

namespace JellyfinTv.Queue

open QueueService

section Position

variable {Supplier : Type}

@[simp]
theorem storeSupplier_currentSupplierIndex
    (service : QueueService Supplier) (next : Supplier) :
    (service.storeSupplier next).currentSupplierIndex =
      service.currentSupplierIndex :=
  rfl

@[simp]
theorem storeSupplier_currentSupplierEntryIndex
    (service : QueueService Supplier) (next : Supplier) :
    (service.storeSupplier next).currentSupplierEntryIndex =
      service.currentSupplierEntryIndex :=
  rfl

/-- The suppliers from the current one on. -/
theorem drop_current
    {service : QueueService Supplier} {supplier : Supplier}
    (current :
      service.suppliers[service.currentSupplierIndex]? = some supplier) :
    service.suppliers.drop service.currentSupplierIndex =
      supplier ::
        service.suppliers.drop (service.currentSupplierIndex + 1) := by
  obtain ⟨inRange, position⟩ := List.getElem?_eq_some_iff.mp current
  rw [List.drop_eq_getElem_cons inRange, position]

/-- Storing the current supplier replaces exactly that one. -/
theorem drop_storeSupplier
    {service : QueueService Supplier} {supplier : Supplier}
    (current :
      service.suppliers[service.currentSupplierIndex]? = some supplier)
    (next : Supplier) :
    (service.storeSupplier next).suppliers.drop
        service.currentSupplierIndex =
      next ::
        service.suppliers.drop (service.currentSupplierIndex + 1) := by
  simp only [storeSupplier, List.drop_set, drop_current current,
    if_neg (Nat.lt_irrefl service.currentSupplierIndex), Nat.sub_self,
    List.set_cons_zero]

theorem drop_succ_storeSupplier
    (service : QueueService Supplier) (next : Supplier) :
    (service.storeSupplier next).suppliers.drop
        (service.currentSupplierIndex + 1) =
      service.suppliers.drop (service.currentSupplierIndex + 1) :=
  List.drop_set_of_lt (Nat.lt_succ_self _)

end Position

section Loop

variable {Supplier : Type} [QueueSupplier Supplier]

theorem askSupplier_run (supplier : Supplier)
    (service : QueueService Supplier) :
    (askSupplier supplier).run service =
      match (QueueSupplier.getItem
          service.currentSupplierEntryIndex).run supplier with
      | .ok item next => .ok item (service.storeSupplier next)
      | .error exception next =>
          .error exception (service.storeSupplier next) :=
  rfl

theorem supplyLoop_succ (index : Int) (fuel : Nat) (entriesChanged : Bool)
    (service : QueueService Supplier) :
    (supplyLoop index (fuel + 1) entriesChanged).run service =
      if index < service.fetchedEntries.length then
        .ok entriesChanged service
      else
        match service.suppliers[service.currentSupplierIndex]? with
        | none => .ok entriesChanged service
        | some supplier =>
            match (askSupplier supplier).run service with
            | .ok item asked =>
                (supplyLoop index fuel (entriesChanged || item.isSome)).run
                  (asked.acceptItem item)
            | .error exception asked => .error exception asked := by
  simp only [supplyLoop, EStateM.run_bind, EStateM.run_get]
  split
  · rfl
  · cases service.suppliers[service.currentSupplierIndex]? with
    | none =>
        rfl
    | some supplier =>
        simp only [EStateM.run_bind]
        cases (askSupplier supplier).run service <;> rfl

theorem supplyLoop_cached {index : Int} {fuel : Nat}
    {entriesChanged : Bool} {service : QueueService Supplier}
    (cached : index < service.fetchedEntries.length) :
    (supplyLoop index (fuel + 1) entriesChanged).run service =
      .ok entriesChanged service := by
  rw [supplyLoop_succ, if_pos cached]

theorem supplyLoop_exhausted {index : Int} {fuel : Nat}
    {entriesChanged : Bool} {service : QueueService Supplier}
    (missing : ¬ index < service.fetchedEntries.length)
    (exhausted :
      service.suppliers[service.currentSupplierIndex]? = none) :
    (supplyLoop index (fuel + 1) entriesChanged).run service =
      .ok entriesChanged service := by
  rw [supplyLoop_succ, if_neg missing, exhausted]

theorem supplyLoop_answered {index : Int} {fuel : Nat}
    {entriesChanged : Bool} {service asked : QueueService Supplier}
    {supplier : Supplier} {item : Option QueueEntry}
    (missing : ¬ index < service.fetchedEntries.length)
    (current :
      service.suppliers[service.currentSupplierIndex]? = some supplier)
    (answered : (askSupplier supplier).run service = .ok item asked) :
    (supplyLoop index (fuel + 1) entriesChanged).run service =
      (supplyLoop index fuel (entriesChanged || item.isSome)).run
        (asked.acceptItem item) := by
  rw [supplyLoop_succ, if_neg missing, current]
  simp only [answered]

/-- The calls the loop can still make: the unanswered indices of each
remaining supplier and its final `null`. -/
def pendingCalls (service : QueueService Supplier) : Nat :=
  match service.suppliers.drop service.currentSupplierIndex with
  | [] => 0
  | supplier :: later =>
      (QueueSupplier.bound supplier - service.currentSupplierEntryIndex) + 1 +
        (later.map fun other => QueueSupplier.bound other + 1).sum

theorem pendingCalls_lt_supplyFuel (service : QueueService Supplier) :
    pendingCalls service < service.supplyFuel := by
  unfold pendingCalls supplyFuel
  cases service.suppliers.drop service.currentSupplierIndex with
  | nil =>
      simp
  | cons supplier later =>
      simp only [List.map_cons, List.sum_cons]
      omega

/-- Every answered call leaves fewer calls to make. -/
theorem pendingCalls_acceptItem
    {service asked : QueueService Supplier} {supplier : Supplier}
    {item : Option QueueEntry}
    (current :
      service.suppliers[service.currentSupplierIndex]? = some supplier)
    (answered : (askSupplier supplier).run service = .ok item asked) :
    pendingCalls (asked.acceptItem item) < pendingCalls service := by
  rw [askSupplier_run] at answered
  split at answered
  · rename_i reply next call
    injection answered with replyEq stateEq
    subst replyEq stateEq
    have sameBound := QueueSupplier.bound_after_item _ _ _ _ call
    cases reply with
    | none =>
        simp only [pendingCalls, acceptItem, drop_current current,
          storeSupplier_currentSupplierIndex, drop_succ_storeSupplier]
        cases service.suppliers.drop (service.currentSupplierIndex + 1) with
        | nil =>
            simp
        | cons other later =>
            simp only [List.map_cons, List.sum_cons]
            omega
    | some nextEntry =>
        have below := QueueSupplier.index_lt_bound _ _ _ _ call
        simp only [pendingCalls, acceptItem, drop_current current,
          storeSupplier_currentSupplierIndex, drop_storeSupplier current,
          storeSupplier_currentSupplierEntryIndex, sameBound]
        omega
  · cases answered

/-- A finished loop has found the index cached or no supplier left. -/
theorem supplyLoop_exit
    {index : Int} {fuel : Nat} {entriesChanged changed : Bool}
    {service loaded : QueueService Supplier}
    (enough : pendingCalls service < fuel)
    (finished :
      (supplyLoop index fuel entriesChanged).run service =
        .ok changed loaded) :
    index < loaded.fetchedEntries.length ∨
      loaded.suppliers[loaded.currentSupplierIndex]? = none := by
  induction fuel generalizing service entriesChanged with
  | zero =>
      omega
  | succ fuel inductionHypothesis =>
      rw [supplyLoop_succ] at finished
      split at finished
      · rename_i cached
        injection finished with _ same
        subst same
        exact Or.inl cached
      · split at finished
        · rename_i exhausted
          injection finished with _ same
          subst same
          exact Or.inr exhausted
        · rename_i supplier current
          split at finished
          · rename_i item asked answered
            have fewer := pendingCalls_acceptItem current answered
            exact inductionHypothesis (by omega) finished
          · cases finished

theorem askSupplier_fetched {service asked : QueueService Supplier}
    {supplier : Supplier} {item : Option QueueEntry}
    (answered : (askSupplier supplier).run service = .ok item asked) :
    asked.fetchedEntries = service.fetchedEntries := by
  rw [askSupplier_run] at answered
  split at answered
  · injection answered with _ stored
    rw [← stored]
    rfl
  · cases answered

/-- The loop draws no further than the requested index. -/
theorem supplyLoop_bounded
    {index : Int} {fuel : Nat} {entriesChanged changed : Bool}
    {service loaded : QueueService Supplier}
    (finished :
      (supplyLoop index fuel entriesChanged).run service =
        .ok changed loaded) :
    (loaded.fetchedEntries.length : Int) ≤
      max (service.fetchedEntries.length : Int) (index + 1) := by
  induction fuel generalizing service entriesChanged with
  | zero =>
      injection finished with _ same
      rw [← same]
      exact Int.le_max_left _ _
  | succ fuel inductionHypothesis =>
      rw [supplyLoop_succ] at finished
      split at finished
      · injection finished with _ same
        rw [← same]
        exact Int.le_max_left _ _
      · rename_i missing
        split at finished
        · injection finished with _ same
          rw [← same]
          exact Int.le_max_left _ _
        · split at finished
          · rename_i item asked answered
            have bounded := inductionHypothesis finished
            have unasked := askSupplier_fetched answered
            cases item with
            | none =>
                simp only [acceptItem, unasked] at bounded
                exact bounded
            | some entry =>
                simp only [acceptItem, unasked, List.length_append,
                  List.length_singleton] at bounded
                omega
          · cases finished

/-- `getOrSupplyEntry` publishes what the loop has added and reads the
cache. -/
theorem getOrSupplyEntry_run {index : Int} {changed : Bool}
    {service loaded : QueueService Supplier}
    (finished :
      (supplyLoop index service.supplyFuel false).run service =
        .ok changed loaded) :
    (getOrSupplyEntry index).run service =
      .ok (entryAt loaded.fetchedEntries index)
        (if changed then loaded.publish else loaded) := by
  simp only [getOrSupplyEntry, EStateM.run_bind, EStateM.run_get, finished]
  cases changed <;> rfl

/-- A throw of the loop is passed on, and nothing is published. -/
theorem getOrSupplyEntry_run_error {index : Int}
    {service failed : QueueService Supplier} {exception : QueueException}
    (threw :
      (supplyLoop index service.supplyFuel false).run service =
        .error exception failed) :
    (getOrSupplyEntry index).run service = .error exception failed := by
  simp only [getOrSupplyEntry, EStateM.run_bind, EStateM.run_get, threw]

theorem setIndex_run_of_supplied {index : Int} {saveHistory : Bool}
    {service loaded : QueueService Supplier} {entry : Option QueueEntry}
    (accepted : ¬ (index < 0 ∧ index ≠ INDEX_NONE))
    (supplied :
      (getOrSupplyEntry index).run (saveCurrentIndex saveHistory service) =
        .ok entry loaded) :
    (setIndex index saveHistory).run service =
      .ok entry (applyIndex index entry loaded) := by
  simp only [setIndex, if_neg accepted, EStateM.run_bind,
    EStateM.run_modify, supplied]
  rfl

end Loop

/-- A queue over fixed lists. -/
abbrev FixedQueue := QueueService FixedSupplier

namespace QueueService

/-- The items not yet drawn: the rest of the current supplier and all later
suppliers. -/
def undrawn (queue : FixedQueue) : List QueueEntry :=
  match queue.suppliers.drop queue.currentSupplierIndex with
  | [] => []
  | supplier :: later =>
      supplier.items.drop queue.currentSupplierEntryIndex ++
        later.flatMap FixedSupplier.items

/-- The queue as if it had been loaded eagerly. -/
def contents (queue : FixedQueue) : List QueueEntry :=
  queue.fetchedEntries ++ queue.undrawn

/-- The part of each supplier that calls leave alone. -/
def catalogue (queue : FixedQueue) : List (List QueueEntry × (Nat → Int)) :=
  queue.suppliers.map fun supplier =>
    (supplier.items, supplier.reportedSize)

/-- The draw position is at an item or at the start of the supplier that
`addSupplier` would append. -/
def Positioned (queue : FixedQueue) : Prop :=
  queue.currentSupplierIndex < queue.suppliers.length ∨
    queue.currentSupplierIndex = queue.suppliers.length ∧
      queue.currentSupplierEntryIndex = 0

/-- `after` differs from `before` only by entries drawn from the suppliers. -/
structure Loads (before after : FixedQueue) : Prop where
  frame :
    after =
      { before with
        suppliers := after.suppliers
        currentSupplierIndex := after.currentSupplierIndex
        currentSupplierEntryIndex := after.currentSupplierEntryIndex
        fetchedEntries := after.fetchedEntries
        entries := after.entries }
  catalogue : after.catalogue = before.catalogue
  contents : after.contents = before.contents
  fetched : before.fetchedEntries <+: after.fetchedEntries
  positioned : before.Positioned → after.Positioned

namespace Loads

theorem refl (queue : FixedQueue) : Loads queue queue where
  frame := rfl
  catalogue := rfl
  contents := rfl
  fetched := List.prefix_rfl
  positioned := id

theorem trans {first second third : FixedQueue}
    (initial : Loads first second) (further : Loads second third) :
    Loads first third where
  frame := by
    rw [further.frame, initial.frame]
  catalogue := further.catalogue.trans initial.catalogue
  contents := further.contents.trans initial.contents
  fetched := initial.fetched.trans further.fetched
  positioned := further.positioned ∘ initial.positioned

end Loads

/-- One answered call of the loop. -/
theorem loads_acceptItem
    {queue : FixedQueue} {supplier : FixedSupplier}
    (current :
      queue.suppliers[queue.currentSupplierIndex]? = some supplier) :
    Loads queue
      ((queue.storeSupplier supplier.afterCall).acceptItem
        supplier.items[queue.currentSupplierEntryIndex]?) := by
  obtain ⟨inRange, position⟩ := List.getElem?_eq_some_iff.mp current
  have sameCatalogue :
      (queue.suppliers.set queue.currentSupplierIndex
          supplier.afterCall).map
          (fun other => (other.items, other.reportedSize)) =
        queue.catalogue := by
    rw [List.map_set]
    apply List.ext_getElem?
    intro place
    by_cases same : queue.currentSupplierIndex = place
    · subst same
      simp [catalogue, inRange, position]
    · simp [catalogue, same]
  cases answer : supplier.items[queue.currentSupplierEntryIndex]? with
  | some item =>
      obtain ⟨below, value⟩ := List.getElem?_eq_some_iff.mp answer
      refine
        { frame := rfl
          catalogue := sameCatalogue
          contents := ?_
          fetched := List.prefix_append _ _
          positioned := ?_ }
      · simp only [contents, undrawn, acceptItem, drop_current current,
          storeSupplier_currentSupplierIndex, drop_storeSupplier current,
          storeSupplier_currentSupplierEntryIndex,
          FixedSupplier.afterCall_items]
        rw [List.drop_eq_getElem_cons below, value]
        simp [storeSupplier]
      · intro _
        exact Or.inl (by simpa [acceptItem, storeSupplier] using inRange)
  | none =>
      have exhausted :
          supplier.items.length ≤ queue.currentSupplierEntryIndex :=
        List.getElem?_eq_none_iff.mp answer
      refine
        { frame := rfl
          catalogue := sameCatalogue
          contents := ?_
          fetched := List.prefix_rfl
          positioned := ?_ }
      · simp only [contents, undrawn, acceptItem, drop_current current,
          storeSupplier_currentSupplierIndex, drop_succ_storeSupplier,
          List.drop_eq_nil_of_le exhausted, List.nil_append]
        cases queue.suppliers.drop (queue.currentSupplierIndex + 1) with
        | nil =>
            simp [storeSupplier]
        | cons other later =>
            simp [storeSupplier]
      · intro _
        simp only [Positioned, acceptItem, storeSupplier, List.length_set,
          and_true]
        omega

/-- What the loading loop may do to a queue: draw entries without publishing
them, and draw none when it reports no change. -/
structure LoopLoads (before after : FixedQueue)
    (entriesChanged changed : Bool) : Prop where
  loads : Loads before after
  entries : after.entries = before.entries
  unchanged :
    changed = false →
      entriesChanged = false ∧
        after.fetchedEntries = before.fetchedEntries

theorem LoopLoads.refl (queue : FixedQueue) (changed : Bool) :
    LoopLoads queue queue changed changed where
  loads := Loads.refl queue
  entries := rfl
  unchanged same := ⟨same, rfl⟩

/-- The loading loop over fixed lists never throws. -/
theorem supplyLoop_loads
    (index : Int) (fuel : Nat) (entriesChanged : Bool)
    (queue : FixedQueue) :
    ∃ changed loaded,
      (supplyLoop index fuel entriesChanged).run queue =
        .ok changed loaded ∧
      LoopLoads queue loaded entriesChanged changed := by
  induction fuel generalizing queue entriesChanged with
  | zero =>
      exact ⟨entriesChanged, queue, rfl, LoopLoads.refl queue _⟩
  | succ fuel inductionHypothesis =>
      rw [supplyLoop_succ]
      split
      · exact ⟨entriesChanged, queue, rfl, LoopLoads.refl queue _⟩
      · split
        · exact ⟨entriesChanged, queue, rfl, LoopLoads.refl queue _⟩
        · rename_i supplier current
          have firstCall := loads_acceptItem current
          rw [askSupplier_run, FixedSupplier.getItem_eq]
          obtain ⟨changed, loaded, finished, further⟩ :=
            inductionHypothesis
              (entriesChanged ||
                supplier.items[queue.currentSupplierEntryIndex]?.isSome)
              ((queue.storeSupplier supplier.afterCall).acceptItem
                supplier.items[queue.currentSupplierEntryIndex]?)
          refine ⟨changed, loaded, finished,
            firstCall.trans further.loads, ?_, ?_⟩
          · rw [further.entries]
            cases supplier.items[queue.currentSupplierEntryIndex]? <;> rfl
          · intro same
            obtain ⟨flag, fetched⟩ := further.unchanged same
            rw [fetched]
            cases answer :
                supplier.items[queue.currentSupplierEntryIndex]? with
            | none =>
                simpa [answer, acceptItem, storeSupplier] using flag
            | some item =>
                simp [answer] at flag

/-- The queue after `getOrSupplyEntry(index)`. -/
def load (index : Int) (queue : FixedQueue) : FixedQueue :=
  Library.finalState ((getOrSupplyEntry index).run queue)

theorem undrawn_eq_nil_of_exhausted {queue : FixedQueue}
    (exhausted : queue.suppliers[queue.currentSupplierIndex]? = none) :
    queue.undrawn = [] := by
  have outside := List.getElem?_eq_none_iff.mp exhausted
  simp [undrawn, List.drop_eq_nil_of_le outside]

/-- `getOrSupplyEntry` terminates without a throw and answers from the eagerly
loaded queue. -/
theorem getOrSupplyEntry_spec (index : Int) (queue : FixedQueue) :
    (getOrSupplyEntry index).run queue =
        .ok (entryAt queue.contents index) (load index queue) ∧
      Loads queue (load index queue) ∧
      (queue.entries = queue.fetchedEntries →
        (load index queue).entries =
          (load index queue).fetchedEntries) ∧
      (index < (load index queue).fetchedEntries.length ∨
        (load index queue).fetchedEntries = queue.contents) := by
  obtain ⟨changed, loaded, finished, loop⟩ :=
    supplyLoop_loads index queue.supplyFuel false queue
  have reached :
      index < loaded.fetchedEntries.length ∨
        loaded.fetchedEntries = queue.contents := by
    rcases supplyLoop_exit (pendingCalls_lt_supplyFuel queue) finished with
      cached | exhausted
    · exact Or.inl cached
    · apply Or.inr
      rw [← loop.loads.contents, contents,
        undrawn_eq_nil_of_exhausted exhausted, List.append_nil]
  have answer :
      entryAt loaded.fetchedEntries index =
        entryAt queue.contents index := by
    unfold entryAt
    split
    · rcases reached with cached | complete
      · rw [← loop.loads.contents, contents,
          List.getElem?_append_left (by omega)]
      · rw [complete]
    · rfl
  cases changed with
  | false =>
      have outcome :
          (getOrSupplyEntry index).run queue =
            .ok (entryAt queue.contents index) loaded := by
        rw [← answer]
        exact getOrSupplyEntry_run finished
      have stored : load index queue = loaded := by
        rw [load, outcome, Library.finalState_ok]
      rw [stored]
      refine ⟨outcome, loop.loads, ?_, reached⟩
      intro published
      rw [loop.entries, published, (loop.unchanged rfl).2]
  | true =>
      have outcome :
          (getOrSupplyEntry index).run queue =
            .ok (entryAt queue.contents index) loaded.publish := by
        rw [← answer]
        exact getOrSupplyEntry_run finished
      have stored : load index queue = loaded.publish := by
        rw [load, outcome, Library.finalState_ok]
      rw [stored]
      refine ⟨outcome, ?_, fun _ => rfl, reached⟩
      exact
        { frame := by
            rw [publish]
            conv_lhs => rw [loop.loads.frame]
          catalogue := loop.loads.catalogue
          contents := loop.loads.contents
          fetched := loop.loads.fetched
          positioned := loop.loads.positioned }

/-- Loading draws no further than the requested index. -/
theorem load_bounded (index : Int) (queue : FixedQueue) :
    ((load index queue).fetchedEntries.length : Int) ≤
      max (queue.fetchedEntries.length : Int) (index + 1) := by
  obtain ⟨changed, loaded, finished, _⟩ :=
    supplyLoop_loads index queue.supplyFuel false queue
  have bounded := supplyLoop_bounded finished
  rw [load, getOrSupplyEntry_run finished, Library.finalState_ok]
  cases changed <;> exact bounded

instance : IsPreorder FixedQueue Loads where
  refl := Loads.refl
  trans _ _ _ := Loads.trans

theorem respects_getOrSupplyEntry (index : Int) :
    Library.Respects Loads
      (getOrSupplyEntry index :
        QueueM FixedSupplier (Option QueueEntry)) :=
  fun queue => (getOrSupplyEntry_spec index queue).2.1

/-- Peeking at a list of indices only loads entries. -/
theorem respects_supplyEntries :
    ∀ indices : List Int,
      Library.Respects Loads
        (supplyEntries indices : QueueM FixedSupplier (List QueueEntry))
  | [] => Library.Respects.pure _
  | index :: rest =>
      Library.Respects.bind (respects_getOrSupplyEntry index) fun _ =>
        Library.Respects.bind (respects_supplyEntries rest) fun _ =>
          Library.Respects.pure _

end QueueService

end JellyfinTv.Queue
