import JellyfinTv.Queue.Limits

/-!
# What the suppliers buffer

Over a finite list, the buffer of a paged supplier is a beginning of the list
after any calls, and each page starts where the buffer ends.  So every call
ends, no item is loaded twice, and a supplier over the same sequence gives
the same answers.
-/

namespace JellyfinTv.Queue

/-- A subclass whose pages are cut from a list, with the offsets and the
pages it was asked for. -/
structure ListSource where
  items : List QueueEntry
  loaded : List (Nat × List QueueEntry)

namespace ListSource

def loadPage (offset size : Nat) :
    EStateM QueueException ListSource (List QueueEntry) := do
  let source ← get
  let page := (source.items.drop offset).take size
  set { source with loaded := source.loaded ++ [(offset, page)] }
  return page

instance : PageSource ListSource where
  size source := source.items.length
  loadPage := loadPage

/-- The positions of the items of a page. -/
def positions (load : Nat × List QueueEntry) : List Nat :=
  List.range' load.1 load.2.length

/-- The positions of all items that were loaded, in the order of their
loading. -/
def loadedPositions (source : ListSource) : List Nat :=
  source.loaded.flatMap positions

end ListSource

namespace PagedQueueSupplier

/-- The supplier has loaded exactly its buffer, which is a beginning of the
items. -/
structure Loads (items : List QueueEntry)
    (supplier : PagedQueueSupplier ListSource) : Prop where
  source : supplier.source.items = items
  pageSize : 0 < supplier.pageSize
  buffer : supplier.buffer <+: items
  loaded :
    supplier.source.loadedPositions = List.range supplier.buffer.length

section Loads

variable {items : List QueueEntry}
variable {supplier : PagedQueueSupplier ListSource}

/-- The page behind the buffer. -/
def nextPage (supplier : PagedQueueSupplier ListSource) : List QueueEntry :=
  (supplier.source.items.drop supplier.buffer.length).take
    supplier.pageSize

def withPage (supplier : PagedQueueSupplier ListSource) :
    PagedQueueSupplier ListSource where
  source :=
    { supplier.source with
      loaded :=
        supplier.source.loaded ++
          [(supplier.buffer.length, supplier.nextPage)] }
  pageSize := supplier.pageSize
  buffer := supplier.buffer ++ supplier.nextPage

theorem bufferPage_withPage (supplier : PagedQueueSupplier ListSource) :
    (bufferPage supplier.buffer.length).run supplier =
      .ok supplier.nextPage supplier.withPage :=
  rfl

theorem length_withPage (supplier : PagedQueueSupplier ListSource) :
    supplier.withPage.buffer.length =
      supplier.buffer.length + supplier.nextPage.length :=
  List.length_append

theorem Loads.withPage (loads : supplier.Loads items) :
    supplier.withPage.Loads items := by
  obtain ⟨rest, split⟩ := loads.buffer
  have behind :
      supplier.source.items.drop supplier.buffer.length = rest := by
    rw [loads.source, ← split, List.drop_left]
  refine ⟨loads.source, loads.pageSize, ?_, ?_⟩
  · rw [PagedQueueSupplier.withPage, nextPage, behind, ← split]
    exact (List.prefix_append_right_inj supplier.buffer).mpr
      (List.take_prefix _ _)
  · have before := loads.loaded
    have joined :
        List.range' 0 supplier.buffer.length ++
            List.range' supplier.buffer.length supplier.nextPage.length =
          List.range' 0
            (supplier.buffer.length + supplier.nextPage.length) := by
      rw [← List.range'_append_1, Nat.zero_add]
    rw [ListSource.loadedPositions, List.range_eq_range'] at before
    rw [length_withPage, List.range_eq_range', ← joined, ← before]
    calc
      supplier.withPage.source.loadedPositions =
          (supplier.source.loaded ++
            [(supplier.buffer.length, supplier.nextPage)]).flatMap
              ListSource.positions :=
        rfl
      _ = supplier.source.loaded.flatMap ListSource.positions ++
          ListSource.positions (supplier.buffer.length, supplier.nextPage)
          := by
        rw [List.flatMap_append, List.flatMap_singleton]

/-- The page behind the buffer is empty only at the end of the items. -/
theorem Loads.length_le_of_empty (loads : supplier.Loads items)
    (empty : supplier.nextPage = []) :
    items.length ≤ supplier.buffer.length := by
  have pageSize := loads.pageSize
  rw [nextPage, loads.source, List.take_eq_nil_iff, List.drop_eq_nil_iff]
    at empty
  omega

/-- The loop ends with the same answer for every fuel that is enough for
pages of one item. -/
theorem Loads.pageLoop (loads : supplier.Loads items) (index : Nat) :
    ∃ next,
      next.Loads items ∧
        ∀ fuel, 0 < fuel → index + 2 ≤ fuel + supplier.buffer.length →
          (PagedQueueSupplier.pageLoop index fuel
              supplier.buffer.length).run supplier =
            .ok items[index]? next := by
  -- The buffer gets closer to the end of the items with every page.
  induction missing : items.length - supplier.buffer.length
    using Nat.strong_induction_on generalizing supplier with
  | _ missing inductionHypothesis =>
      by_cases cached : index < supplier.buffer.length
      · refine ⟨supplier, loads, ?_⟩
        intro fuel positive _
        obtain ⟨fuel, rfl⟩ := Nat.exists_eq_add_one.mpr positive
        obtain ⟨rest, rfl⟩ := loads.buffer
        rw [pageLoop_succ, if_pos cached, List.getElem?_append_left cached]
      · by_cases empty : supplier.nextPage = []
        · refine ⟨supplier.withPage, loads.withPage, ?_⟩
          intro fuel positive _
          obtain ⟨fuel, rfl⟩ := Nat.exists_eq_add_one.mpr positive
          have atEnd := loads.length_le_of_empty empty
          rw [pageLoop_succ, if_neg cached, bufferPage_withPage,
            List.getElem?_eq_none (by omega)]
          simp only [empty, List.isEmpty_nil, if_true]
        · have grows := List.length_pos_iff.mpr empty
          have longer := supplier.length_withPage
          have inside := loads.withPage.buffer.length_le
          obtain ⟨next, holds, answered⟩ :=
            inductionHypothesis _ (by omega) loads.withPage rfl
          refine ⟨next, holds, ?_⟩
          intro fuel positive enough
          obtain ⟨fuel, rfl⟩ := Nat.exists_eq_add_one.mpr positive
          rw [pageLoop_succ, if_neg cached, bufferPage_withPage]
          simp only [List.isEmpty_iff, empty, if_false]
          rw [← longer]
          exact answered fuel (by omega) (by omega)

theorem Loads.getItem (loads : supplier.Loads items) {index : Nat}
    (inside : index < MAX_SIZE) :
    ∃ next,
      (QueueSupplier.getItem index).run supplier =
          .ok items[index]? next ∧
        next.Loads items := by
  obtain ⟨next, holds, answered⟩ := loads.pageLoop index
  refine ⟨next, ?_, holds⟩
  simp only [QueueSupplier.getItem, PagedQueueSupplier.getItem,
    if_neg (Nat.not_le.mpr inside), EStateM.run_bind, EStateM.run_get]
  exact answered (index + 2) (by omega) (by omega)

theorem loads_ofSource (items : List QueueEntry) {pageSize : Nat}
    (positive : 0 < pageSize) :
    (ofSource (⟨items, []⟩ : ListSource) pageSize).Loads items :=
  ⟨rfl, positive, List.nil_prefix, rfl⟩

end Loads

end PagedQueueSupplier

section Calls

variable {Supplier : Type} [QueueSupplier Supplier]

/-- Completed calls, one after the other. -/
def getItems (indices : List Nat) :
    EStateM QueueException Supplier (List (Option QueueEntry)) :=
  indices.mapM QueueSupplier.getItem

/-- Where each call answers from the items and keeps an invariant, so do all
calls. -/
theorem getItems_run {items : List QueueEntry} {limit : Nat}
    {holds : Supplier → Prop}
    (answers :
      ∀ supplier index, holds supplier → index < limit →
        ∃ next,
          (QueueSupplier.getItem index).run supplier =
              .ok items[index]? next ∧
            holds next)
    {supplier : Supplier} (initial : holds supplier) {indices : List Nat}
    (inside : ∀ index ∈ indices, index < limit) :
    ∃ next,
      (getItems indices).run supplier =
          .ok (indices.map fun index => items[index]?) next ∧
        holds next := by
  induction indices generalizing supplier with
  | nil =>
      exact ⟨supplier, rfl, initial⟩
  | cons index rest inductionHypothesis =>
      rw [List.forall_mem_cons] at inside
      obtain ⟨middle, answered, kept⟩ :=
        answers supplier index initial inside.1
      obtain ⟨next, others, holdsNext⟩ :=
        inductionHypothesis kept inside.2
      refine ⟨next, ?_, holdsNext⟩
      rw [getItems] at others ⊢
      simp only [List.mapM_cons, EStateM.run_bind, answered, others]
      rfl

end Calls

/-- A paged supplier over the items answers the calls from them.  Its buffer
is a beginning of the items, no position was loaded twice, and the loop of
one more call ends. -/
def PagedQueueSupplier.Exact (items : List QueueEntry) (pageSize : Nat)
    (indices : List Nat) : Prop :=
  ∃ paged : PagedQueueSupplier ListSource,
    (getItems indices).run (.ofSource ⟨items, []⟩ pageSize) =
        .ok (indices.map fun index => items[index]?) paged ∧
      paged.buffer <+: items ∧ paged.source.loadedPositions.Nodup ∧
        ∀ index, ∃ next, ∀ fuel, index + 2 ≤ fuel →
          (PagedQueueSupplier.pageLoop index fuel
              paged.buffer.length).run paged =
            .ok items[index]? next

/-- A supplier over the sequence of the items answers the calls from them,
and its buffer is a beginning of the items. -/
def SequenceQueueSupplier.Exact (items : List QueueEntry) (size : Int)
    (indices : List Nat) : Prop :=
  ∃ sequence : SequenceQueueSupplier,
    (getItems indices).run (.ofItems items size) =
        .ok (indices.map fun index => items[index]?) sequence ∧
      sequence.buffer <+: items

theorem PagedQueueSupplier.exact_of_positive (items : List QueueEntry)
    {pageSize : Nat} (positive : 0 < pageSize) {indices : List Nat}
    (inside : ∀ index ∈ indices, index < MAX_SIZE) :
    Exact items pageSize indices := by
  obtain ⟨paged, answered, loads⟩ :=
    getItems_run
      (fun _ _ (loads : Loads items _) inside => loads.getItem inside)
      (loads_ofSource items positive) inside
  refine ⟨paged, answered, loads.buffer, ?_, ?_⟩
  · rw [loads.loaded]
    exact List.nodup_range
  · intro index
    obtain ⟨next, _, ends⟩ := loads.pageLoop index
    exact ⟨next, fun fuel enough => ends fuel (by omega) (by omega)⟩

theorem SequenceQueueSupplier.exact_of_inside (items : List QueueEntry)
    (size : Int) {indices : List Nat}
    (inside : ∀ index ∈ indices, index < MAX_SIZE) :
    Exact items size indices := by
  have unread : (ofItems items size).Holds items :=
    rfl
  obtain ⟨sequence, answered, holds⟩ :=
    getItems_run
      (fun _ _ (holds : Holds items _) inside => holds.getItem inside)
      unread inside
  exact ⟨sequence, answered, sequence.itemIterator, holds⟩

/-- Over a list, the paged supplier and the one over the sequence answer all
calls alike. -/
theorem buffers_are_prefixes (items : List QueueEntry) (pageSize : Nat)
    (positive : 0 < pageSize) (size : Int) (indices : List Nat)
    (inside : ∀ index ∈ indices, index < PagedQueueSupplier.MAX_SIZE) :
    PagedQueueSupplier.Exact items pageSize indices ∧
      SequenceQueueSupplier.Exact items size indices :=
  ⟨PagedQueueSupplier.exact_of_positive items positive inside,
    SequenceQueueSupplier.exact_of_inside items size inside⟩

/-- Three items in pages of two, asked for past the end and then again. -/
theorem two_pages_are_prefixes :
    PagedQueueSupplier.Exact [⟨7⟩, ⟨8⟩, ⟨9⟩] 2 [2, 0, 5, 4] ∧
      SequenceQueueSupplier.Exact [⟨7⟩, ⟨8⟩, ⟨9⟩] 3 [2, 0, 5, 4] :=
  buffers_are_prefixes _ 2 (by decide) 3 _ (by decide)

end JellyfinTv.Queue
