import Mathlib.Tactic.Common
import JellyfinTv.Queue.Supplier

/-!
# Paged suppliers

`PagedQueueSupplier` buffers the pages that its subclass loads.  The
subclasses over a query of the library learn the total number of items with
the first page and report the size zero before.
-/

namespace JellyfinTv.Queue

/-- What a subclass of `PagedQueueSupplier` implements. -/
class PageSource (Source : Type) where
  size : Source → Int
  loadPage : Nat → Nat → EStateM QueueException Source (List QueueEntry)

structure PagedQueueSupplier (Source : Type) where
  source : Source
  pageSize : Nat
  buffer : List QueueEntry

namespace PagedQueueSupplier

def MAX_SIZE : Nat := 100

variable {Source : Type} [PageSource Source]

/-- The supplier before its first page. -/
def ofSource (source : Source) (pageSize : Nat) :
    PagedQueueSupplier Source :=
  ⟨source, pageSize, []⟩

/-- `loadPage(pageOffset, pageSize)`, and the items added to the buffer. -/
def bufferPage (pageOffset : Nat) :
    EStateM QueueException (PagedQueueSupplier Source)
      (List QueueEntry) := fun supplier =>
  match (PageSource.loadPage pageOffset supplier.pageSize).run
      supplier.source with
  | .ok page source =>
      .ok page
        { supplier with
          source := source
          buffer := supplier.buffer ++ page }
  | .error exception source =>
      .error exception { supplier with source := source }

/-- The loop of `getItem`.  Every page that does not end it adds to the
buffer. -/
def pageLoop (index : Nat) : Nat → Nat →
    EStateM QueueException (PagedQueueSupplier Source) (Option QueueEntry)
  | 0, _ => return none
  | fuel + 1, pageOffset => do
      let supplier ← get
      if index < supplier.buffer.length then
        return supplier.buffer[index]?
      else
        let page ← bufferPage pageOffset
        if page.isEmpty then return none
        else pageLoop index fuel (pageOffset + page.length)

def getItem (index : Nat) :
    EStateM QueueException (PagedQueueSupplier Source)
      (Option QueueEntry) := do
  if MAX_SIZE ≤ index then throw .illegalArgument
  else pageLoop index (index + 2) (← get).buffer.length

instance : QueueSupplier (PagedQueueSupplier Source) where
  size supplier := PageSource.size supplier.source
  getItem := getItem
  bound _ := MAX_SIZE
  index_lt_bound := by
    intro index supplier next item answered
    by_contra outside
    have refused :
        (getItem index).run supplier =
          .error .illegalArgument supplier := by
      simp only [getItem, if_pos (Nat.not_lt.mp outside)]
      rfl
    rw [refused] at answered
    cases answered
  bound_after_item := by
    intro _ _ _ _ _
    rfl

theorem pageLoop_succ (index fuel pageOffset : Nat)
    (supplier : PagedQueueSupplier Source) :
    (pageLoop index (fuel + 1) pageOffset).run supplier =
      if index < supplier.buffer.length then
        .ok supplier.buffer[index]? supplier
      else
        match (bufferPage pageOffset).run supplier with
        | .ok page next =>
            if page.isEmpty then .ok none next
            else
              (pageLoop index fuel (pageOffset + page.length)).run next
        | .error exception next => .error exception next := by
  simp only [pageLoop, EStateM.run_bind, EStateM.run_get]
  split
  · rfl
  · simp only [EStateM.run_bind]
    cases (bufferPage pageOffset).run supplier with
    | ok page next =>
        simp only
        split <;> rfl
    | error exception next =>
        rfl

end PagedQueueSupplier

/-- The items that the server has for the query, and the field `size`. -/
structure LibraryQuery where
  items : List QueueEntry
  size : Int

/-- `loadPage` of `AudioAlbumQueueSupplier` and `EpisodeQueueSupplier`, which
differ in the query. -/
def LibraryQuery.loadPage (offset size : Nat) :
    EStateM QueueException LibraryQuery (List QueueEntry) := do
  let query ← get
  set { query with size := query.items.length }
  return (query.items.drop offset).take size

instance : PageSource LibraryQuery where
  size := LibraryQuery.size
  loadPage := LibraryQuery.loadPage

/-- A supplier over the episodes of a season. -/
def EpisodeQueueSupplier (episodes : List QueueEntry) (pageSize : Nat) :
    PagedQueueSupplier LibraryQuery :=
  .ofSource ⟨episodes, 0⟩ pageSize

/-- A supplier over the tracks of an album. -/
def AudioAlbumQueueSupplier (tracks : List QueueEntry) (pageSize : Nat) :
    PagedQueueSupplier LibraryQuery :=
  .ofSource ⟨tracks, 0⟩ pageSize

namespace PagedQueueSupplier

/-- The supplier has buffered the beginning of the items. -/
structure Buffers (items : List QueueEntry)
    (supplier : PagedQueueSupplier LibraryQuery) : Prop where
  query : supplier.source.items = items
  pageSize : 0 < supplier.pageSize
  buffer : supplier.buffer <+: items

variable {items : List QueueEntry}
variable {supplier : PagedQueueSupplier LibraryQuery}

/-- The page behind the buffer. -/
def page (supplier : PagedQueueSupplier LibraryQuery) : List QueueEntry :=
  (supplier.source.items.drop supplier.buffer.length).take
    supplier.pageSize

def afterPage (supplier : PagedQueueSupplier LibraryQuery) :
    PagedQueueSupplier LibraryQuery where
  source :=
    { supplier.source with size := supplier.source.items.length }
  pageSize := supplier.pageSize
  buffer := supplier.buffer ++ supplier.page

theorem bufferPage_run (supplier : PagedQueueSupplier LibraryQuery) :
    (bufferPage supplier.buffer.length).run supplier =
      .ok supplier.page supplier.afterPage :=
  rfl

theorem Buffers.afterPage (buffers : supplier.Buffers items) :
    supplier.afterPage.Buffers items := by
  refine ⟨buffers.query, buffers.pageSize, ?_⟩
  obtain ⟨rest, split⟩ := buffers.buffer
  have after : supplier.source.items.drop supplier.buffer.length = rest := by
    rw [buffers.query, ← split, List.drop_left]
  rw [PagedQueueSupplier.afterPage, page, after, ← split]
  exact (List.prefix_append_right_inj supplier.buffer).mpr
    (List.take_prefix _ _)

/-- A page is empty only behind the last item. -/
theorem Buffers.length_le_of_empty (buffers : supplier.Buffers items)
    (empty : supplier.page = []) :
    items.length ≤ supplier.buffer.length := by
  have pageSize := buffers.pageSize
  rw [page, buffers.query, List.take_eq_nil_iff, List.drop_eq_nil_iff]
    at empty
  omega

/-- With fuel for the pages up to the index the loop answers from the
items. -/
theorem Buffers.pageLoop (buffers : supplier.Buffers items)
    {index fuel : Nat} (enough : index + 2 ≤ fuel + supplier.buffer.length)
    (positive : 0 < fuel) :
    ∃ next,
      (PagedQueueSupplier.pageLoop index fuel supplier.buffer.length).run
          supplier =
        .ok items[index]? next ∧
      next.Buffers items ∧
      (next.source.size = items.length ∨
        next = supplier ∧ index < supplier.buffer.length) := by
  induction fuel generalizing supplier with
  | zero =>
      exact absurd positive (Nat.lt_irrefl 0)
  | succ fuel inductionHypothesis =>
      rw [pageLoop_succ]
      by_cases cached : index < supplier.buffer.length
      · refine ⟨supplier, ?_, buffers, Or.inr ⟨rfl, cached⟩⟩
        obtain ⟨rest, rfl⟩ := buffers.buffer
        rw [if_pos cached, List.getElem?_append_left cached]
      · rw [if_neg cached, bufferPage_run]
        have total : supplier.afterPage.source.size = items.length := by
          rw [PagedQueueSupplier.afterPage, buffers.query]
        by_cases empty : supplier.page = []
        · have bounded := buffers.length_le_of_empty empty
          refine
            ⟨supplier.afterPage, ?_, buffers.afterPage, Or.inl total⟩
          rw [List.getElem?_eq_none (by omega)]
          simp only [empty, List.isEmpty_nil, if_true]
        · have grows := List.length_pos_iff.mpr empty
          have longer :
              supplier.afterPage.buffer.length =
                supplier.buffer.length + supplier.page.length :=
            List.length_append
          obtain ⟨next, finished, holds, known⟩ :=
            inductionHypothesis buffers.afterPage (by omega) (by omega)
          refine ⟨next, ?_, holds, Or.inl ?_⟩
          · simp only [List.isEmpty_iff, empty, if_false]
            rw [← longer, finished]
          · rcases known with size | ⟨same, _⟩
            · exact size
            · rw [same]
              exact total

/-- `getItem` answers from the items and knows the total afterwards. -/
theorem Buffers.getItem (buffers : supplier.Buffers items)
    {index : Nat} (inside : index < MAX_SIZE) :
    ∃ next,
      (QueueSupplier.getItem index).run supplier =
        .ok items[index]? next ∧
      next.Buffers items ∧
      (next.source.size = items.length ∨
        next = supplier ∧ supplier.buffer ≠ []) := by
  have enough : index + 2 ≤ (index + 2) + supplier.buffer.length := by
    omega
  obtain ⟨next, finished, holds, known⟩ :=
    buffers.pageLoop enough (Nat.succ_pos _)
  refine ⟨next, ?_, holds, ?_⟩
  · have accepted : ¬MAX_SIZE ≤ index := Nat.not_le.mpr inside
    simp only [QueueSupplier.getItem, PagedQueueSupplier.getItem,
      if_neg accepted, EStateM.run_bind, EStateM.run_get]
    exact finished
  · rcases known with size | ⟨same, cached⟩
    · exact Or.inl size
    · refine Or.inr ⟨same, ?_⟩
      exact List.length_pos_iff.mp (by omega)

end PagedQueueSupplier

end JellyfinTv.Queue
