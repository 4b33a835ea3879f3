import JellyfinTv.Queue.Paged
import JellyfinTv.Queue.Providers

/-!
# Every supplier in its turn

`next` looks for another entry only if the estimated size is larger than the
cache.  The estimate adds up the sizes that the suppliers report, and a paged
supplier reports zero before its first page.  A supplier is therefore reached
only if it, or another one behind it, reports its items beforehand.
-/

namespace JellyfinTv.Queue

open QueueService

/-- A supplier over the items at hand, or a paged one over an album or a
season. -/
inductive SupplierKind where
  | baseItems
  | audioAlbum
  | episodes
  deriving DecidableEq, Repr

/-- A fixed list of items that a paged supplier can answer, with its
supplier. -/
structure Listing where
  items : List QueueEntry
  kind : SupplierKind
  pageSize : Nat
  short : items.length < PagedQueueSupplier.MAX_SIZE
  positive : 0 < pageSize

/-- Suppliers over a list at hand and paged ones. -/
abbrev AppSupplier := FixedSupplier ⊕ PagedQueueSupplier LibraryQuery

namespace Listing

def supplier (listing : Listing) : AppSupplier :=
  match listing.kind with
  | .baseItems => .inl (FixedSupplier.ofList listing.items)
  | .audioAlbum =>
      .inr (AudioAlbumQueueSupplier listing.items listing.pageSize)
  | .episodes =>
      .inr (EpisodeQueueSupplier listing.items listing.pageSize)

/-- The supplier reports its size before it is asked. -/
def sizeKnown (listing : Listing) : Bool :=
  listing.kind == .baseItems

/-- The size that the supplier reports before or after the first call. -/
def sizeWhen (listing : Listing) (asked : Bool) : Int :=
  if listing.sizeKnown || asked then listing.items.length else 0

/-- The supplier is one of the listing, asked or not. -/
def Offers (listing : Listing) (asked : Bool) : AppSupplier → Prop
  | .inl supplier =>
      listing.sizeKnown = true ∧ supplier.items = listing.items ∧
        supplier.Exact
  | .inr supplier =>
      listing.sizeKnown = false ∧ supplier.Buffers listing.items ∧
        supplier.source.size = listing.sizeWhen asked ∧
        (asked = false → supplier.buffer = [])

theorem offers_supplier (listing : Listing) :
    listing.Offers false listing.supplier := by
  have paged :
      ∀ supplier : PagedQueueSupplier LibraryQuery,
        supplier = .ofSource ⟨listing.items, 0⟩ listing.pageSize →
          listing.sizeKnown = false →
            listing.Offers false (.inr supplier) := by
    rintro supplier rfl unknown
    refine ⟨unknown, ⟨rfl, listing.positive, List.nil_prefix⟩, ?_, ?_⟩
    · rw [sizeWhen, unknown]
      rfl
    · intro _
      rfl
  unfold supplier
  cases kind : listing.kind with
  | baseItems =>
      refine ⟨?_, rfl, FixedSupplier.ofList_exact listing.items⟩
      simp [sizeKnown, kind]
  | audioAlbum =>
      exact paged _ rfl (by simp [sizeKnown, kind])
  | episodes =>
      exact paged _ rfl (by simp [sizeKnown, kind])

variable {listing : Listing} {asked : Bool} {supplier : AppSupplier}

theorem Offers.size (offers : listing.Offers asked supplier) :
    QueueSupplier.size supplier = listing.sizeWhen asked := by
  cases supplier with
  | inl supplier =>
      obtain ⟨known, items, exact⟩ := offers
      rw [sizeWhen, known, Bool.true_or, if_pos rfl, ← items]
      exact exact _
  | inr supplier =>
      exact offers.2.2.1

/-- The supplier answers from its items and has been asked afterwards. -/
theorem Offers.getItem (offers : listing.Offers asked supplier)
    {index : Nat} (inside : index ≤ listing.items.length) :
    ∃ next,
      (QueueSupplier.getItem index).run supplier =
        .ok listing.items[index]? next ∧
      listing.Offers true next := by
  cases supplier with
  | inl supplier =>
      obtain ⟨known, items, exact⟩ := offers
      refine ⟨.inl supplier.afterCall, ?_, known, items, exact⟩
      rw [← items]
      rfl
  | inr supplier =>
      obtain ⟨unknown, buffers, size, start⟩ := offers
      have accepted : index < PagedQueueSupplier.MAX_SIZE :=
        Nat.lt_of_le_of_lt inside listing.short
      obtain ⟨next, answered, holds, known⟩ := buffers.getItem accepted
      refine ⟨.inr next, ?_, unknown, holds, ?_, by simp⟩
      · simp only [QueueSupplier.getItem, sumGetItem, EStateM.run]
          at answered ⊢
        rw [answered]
      · have total : listing.sizeWhen true = listing.items.length := by
          simp [sizeWhen]
        rw [total]
        rcases known with loaded | ⟨same, buffered⟩
        · exact loaded
        · have was_asked : asked = true := by
            by_contra fresh
            exact buffered (start (by simpa using fresh))
          rw [same, size, was_asked, total]

end Listing

/-! ## Drawing from the suppliers -/

/-- A queue in the default order that has drawn everything from the past
suppliers and some items from the current one, and whose later suppliers
were not asked yet. -/
structure Drawing (queue : QueueService AppSupplier) (past : List Listing)
    (current : Listing) (drawn : Nat) (later : List Listing) : Prop where
  order : queue.orderIndexProvider = .default
  mode : queue.repeatMode = .none
  removed : queue.removedEntries = 0
  supplierIndex : queue.currentSupplierIndex = past.length
  entryIndex : queue.currentSupplierEntryIndex = drawn
  bounded : drawn ≤ current.items.length
  fetched :
    queue.fetchedEntries =
      past.flatMap Listing.items ++ current.items.take drawn
  suppliers : ∃ before supplier after,
    queue.suppliers = before ++ supplier :: after ∧
      List.Forall₂ (Listing.Offers · true) past before ∧
      current.Offers (decide (0 < drawn)) supplier ∧
      List.Forall₂ (Listing.Offers · false) later after

/-- The items that a supplier of the rest of the list reports before it is
asked. -/
def reported (later : List Listing) : Int :=
  (later.map fun listing => listing.sizeWhen false).sum

theorem sum_sizes {asked : Bool} {listings : List Listing}
    {suppliers : List AppSupplier}
    (offered :
      List.Forall₂ (Listing.Offers · asked) listings suppliers) :
    (suppliers.map QueueSupplier.size).sum =
      (listings.map fun listing => listing.sizeWhen asked).sum := by
  induction offered with
  | nil =>
      rfl
  | cons offers _ inductionHypothesis =>
      simp only [List.map_cons, List.sum_cons, offers.size,
        inductionHypothesis]

theorem sum_asked (listings : List Listing) :
    (listings.map fun listing => listing.sizeWhen true).sum =
      ((listings.flatMap Listing.items).length : Int) := by
  induction listings with
  | nil =>
      rfl
  | cons listing rest inductionHypothesis =>
      have first : listing.sizeWhen true = listing.items.length := by
        simp [Listing.sizeWhen]
      rw [List.map_cons, List.sum_cons, inductionHypothesis, first,
        List.flatMap_cons, List.length_append]
      omega

theorem reported_nonneg (later : List Listing) : 0 ≤ reported later := by
  induction later with
  | nil =>
      exact Int.le_refl 0
  | cons listing rest inductionHypothesis =>
      have first : 0 ≤ listing.sizeWhen false := by
        unfold Listing.sizeWhen
        split <;> omega
      rw [reported, List.map_cons, List.sum_cons]
      exact Int.add_nonneg first inductionHypothesis

namespace Drawing

variable {queue : QueueService AppSupplier} {past later : List Listing}
variable {current : Listing} {drawn : Nat}

theorem length_fetched
    (drawing : Drawing queue past current drawn later) :
    queue.fetchedEntries.length =
      (past.flatMap Listing.items).length + drawn := by
  rw [drawing.fetched, List.length_append, List.length_take,
    Nat.min_eq_left drawing.bounded]

/-- Once the current supplier was asked, the estimate has the cache, the
rest of the current supplier and what the later ones report. -/
theorem estimatedSize
    (drawing : Drawing queue past current drawn later)
    (asked : 0 < drawn) :
    queue.estimatedSize =
      queue.fetchedEntries.length +
        ((current.items.length : Int) - drawn + reported later) := by
  obtain ⟨before, supplier, after, suppliers, olds, offers, news⟩ :=
    drawing.suppliers
  have bounded := drawing.bounded
  have nonneg := reported_nonneg later
  have size : current.sizeWhen (decide (0 < drawn)) = current.items.length := by
    simp [Listing.sizeWhen, asked]
  have sum :
      (queue.suppliers.map QueueSupplier.size).sum =
        ((past.flatMap Listing.items).length : Int) +
          (current.items.length + reported later) := by
    rw [suppliers, List.map_append, List.sum_append, List.map_cons,
      List.sum_cons, sum_sizes olds, sum_asked, offers.size, size,
      sum_sizes news]
    rfl
  rw [QueueService.estimatedSize, sum, drawing.removed,
    drawing.length_fetched]
  omega

/-- The current supplier answers the next call from its items. -/
theorem ask (drawing : Drawing queue past current drawn later) :
    ∃ supplier next,
      queue.suppliers[queue.currentSupplierIndex]? = some supplier ∧
      (askSupplier supplier).run queue =
        .ok current.items[drawn]? (queue.storeSupplier next) ∧
      ∃ before after,
        (queue.storeSupplier next).suppliers = before ++ next :: after ∧
          List.Forall₂ (Listing.Offers · true) past before ∧
          current.Offers true next ∧
          List.Forall₂ (Listing.Offers · false) later after := by
  obtain ⟨before, supplier, after, suppliers, olds, offers, news⟩ :=
    drawing.suppliers
  have place : queue.currentSupplierIndex = before.length := by
    rw [drawing.supplierIndex, olds.length_eq]
  obtain ⟨next, answered, asked⟩ := offers.getItem drawing.bounded
  refine ⟨supplier, next, ?_, ?_, before, after, ?_, olds, asked, news⟩
  · rw [suppliers, place, List.getElem?_append_right (Nat.le_refl _)]
    simp
  · rw [askSupplier_run, drawing.entryIndex, answered]
  · rw [storeSupplier, suppliers, place]
    simp

/-- The call draws the next item of the current supplier. -/
theorem draw (drawing : Drawing queue past current drawn later)
    {item : QueueEntry} (found : current.items[drawn]? = some item) :
    ∃ supplier asked,
      queue.suppliers[queue.currentSupplierIndex]? = some supplier ∧
      (askSupplier supplier).run queue = .ok (some item) asked ∧
      Drawing (asked.acceptItem (some item)) past current (drawn + 1)
        later ∧
      (asked.acceptItem (some item)).fetchedEntries =
        queue.fetchedEntries ++ [item] := by
  obtain ⟨supplier, next, here, answered, before, after, suppliers, olds,
    asked, news⟩ := drawing.ask
  rw [found] at answered
  obtain ⟨inside, value⟩ := List.getElem?_eq_some_iff.mp found
  refine ⟨supplier, _, here, answered, ?_, rfl⟩
  exact
    { order := drawing.order
      mode := drawing.mode
      removed := drawing.removed
      supplierIndex := drawing.supplierIndex
      entryIndex := congrArg (· + 1) drawing.entryIndex
      bounded := inside
      fetched := by
        rw [List.take_add_one, found, ← List.append_assoc,
          ← drawing.fetched]
        rfl
      suppliers := ⟨before, next, after, suppliers, olds, by simpa, news⟩ }

/-- The call finds the current supplier exhausted and goes on to the next
one, if there is one. -/
theorem pass {other : Listing}
    (drawing : Drawing queue past current drawn (other :: later))
    (none_left : current.items.length ≤ drawn) :
    ∃ supplier asked,
      queue.suppliers[queue.currentSupplierIndex]? = some supplier ∧
      (askSupplier supplier).run queue = .ok none asked ∧
      Drawing (asked.acceptItem none) (past ++ [current]) other 0 later ∧
      (asked.acceptItem none).fetchedEntries = queue.fetchedEntries := by
  obtain ⟨supplier, next, here, answered, before, after, suppliers, olds,
    asked, news⟩ := drawing.ask
  rw [List.getElem?_eq_none none_left] at answered
  obtain ⟨first, rest, offers, others⟩ :
      ∃ first rest, other.Offers false first ∧
        List.Forall₂ (Listing.Offers · false) later rest ∧
          after = first :: rest := by
    cases news with
    | cons offers others => exact ⟨_, _, offers, others, rfl⟩
  refine ⟨supplier, _, here, answered, ?_, rfl⟩
  exact
    { order := drawing.order
      mode := drawing.mode
      removed := drawing.removed
      supplierIndex := by
        rw [List.length_append, ← drawing.supplierIndex]
        rfl
      entryIndex := rfl
      bounded := Nat.zero_le _
      fetched := by
        have all := List.take_of_length_le none_left
        rw [List.flatMap_append, List.take_zero, List.append_nil,
          List.flatMap_singleton, ← all, ← drawing.fetched]
        rfl
      suppliers := by
        refine ⟨before ++ [next], first, rest, ?_, ?_, offers, others.1⟩
        · rw [List.append_assoc, List.singleton_append, ← others.2]
          exact suppliers
        · exact List.rel_append olds (List.Forall₂.cons asked .nil) }

end Drawing

/-- The next item is one of the current listing, or all items of it are
drawn and the next one is the first of a later listing behind empty
ones. -/
inductive Follows (current : Listing) (drawn : Nat) (later : List Listing) :
    Listing → Nat → List Listing → Prop
  | same (more : drawn < current.items.length) :
      Follows current drawn later current drawn later
  | later (used_up : current.items.length ≤ drawn) (empty : List Listing)
      (following : Listing) (others : List Listing)
      (split : later = empty ++ following :: others)
      (none_between : ∀ listing ∈ empty, listing.items = [])
      (some_item : following.items ≠ []) :
      Follows current drawn later following 0 others

namespace Drawing

/-- The loop stops with the next item of the current supplier. -/
theorem supplyLoop_here
    (drawing : Drawing queue past current drawn later)
    {item : QueueEntry} (found : current.items[drawn]? = some item)
    {fuel : Nat} (enough : pendingCalls queue < fuel) (changed : Bool) :
    ∃ loaded,
      (supplyLoop queue.fetchedEntries.length fuel changed).run queue =
          .ok true loaded ∧
        Drawing loaded past current (drawn + 1) later ∧
        loaded.fetchedEntries = queue.fetchedEntries ++ [item] := by
  obtain ⟨supplier, asked, here, answered, drawn_on, fetched⟩ :=
    drawing.draw found
  have fewer := pendingCalls_acceptItem here answered
  obtain ⟨spare, rfl⟩ : ∃ spare, fuel = spare + 1 + 1 :=
    ⟨fuel - 2, by omega⟩
  refine ⟨_, ?_, drawn_on, fetched⟩
  have missing :
      ¬(queue.fetchedEntries.length : Int) <
        queue.fetchedEntries.length :=
    Int.lt_irrefl _
  rw [supplyLoop_answered missing here answered, Option.isSome_some,
    Bool.or_true]
  apply supplyLoop_cached
  rw [fetched, List.length_append, List.length_singleton]
  omega

/-- The loop goes on to the next supplier behind an exhausted one. -/
theorem supplyLoop_passed {other : Listing}
    (drawing : Drawing queue past current drawn (other :: later))
    (none_left : current.items.length ≤ drawn) {fuel : Nat}
    (enough : pendingCalls queue < fuel) (changed : Bool) :
    ∃ passed spare,
      (supplyLoop queue.fetchedEntries.length fuel changed).run queue =
          (supplyLoop passed.fetchedEntries.length spare changed).run
            passed ∧
        Drawing passed (past ++ [current]) other 0 later ∧
        passed.fetchedEntries = queue.fetchedEntries ∧
        pendingCalls passed < spare := by
  obtain ⟨supplier, asked, here, answered, passed, fetched⟩ :=
    drawing.pass none_left
  have fewer := pendingCalls_acceptItem here answered
  obtain ⟨spare, rfl⟩ : ∃ spare, fuel = spare + 1 :=
    ⟨fuel - 1, by omega⟩
  have missing :
      ¬(queue.fetchedEntries.length : Int) <
        queue.fetchedEntries.length :=
    Int.lt_irrefl _
  refine ⟨_, spare, ?_, passed, fetched, by omega⟩
  rw [supplyLoop_answered missing here answered, fetched,
    Option.isSome_none, Bool.or_false]

/-- The loop that looks for the entry behind the cache. -/
theorem supplyLoop_follows {current : Listing} {later : List Listing} :
    ∀ {queue : QueueService AppSupplier} {past : List Listing}
      {drawn fuel : Nat} {changed : Bool} {entry : QueueEntry}
      {rest : List QueueEntry},
      Drawing queue past current drawn later →
        current.items.drop drawn ++ later.flatMap Listing.items =
            entry :: rest →
          pendingCalls queue < fuel →
            ∃ loaded past' current' drawn' later',
              (supplyLoop queue.fetchedEntries.length fuel
                  changed).run queue = .ok true loaded ∧
                Drawing loaded past' current' (drawn' + 1) later' ∧
                loaded.fetchedEntries = queue.fetchedEntries ++ [entry] ∧
                current'.items.drop (drawn' + 1) ++
                    later'.flatMap Listing.items = rest ∧
                Follows current drawn later current' drawn' later' := by
  induction later generalizing current with
  | nil =>
      intro queue past drawn fuel changed entry rest drawing next enough
      rw [List.flatMap_nil, List.append_nil] at next
      have found : current.items[drawn]? = some entry := by
        rw [← List.head?_drop, next, List.head?_cons]
      obtain ⟨inside, _⟩ := List.getElem?_eq_some_iff.mp found
      obtain ⟨loaded, finished, drawn_on, fetched⟩ :=
        drawing.supplyLoop_here found enough changed
      refine
        ⟨loaded, past, current, drawn, [], finished, drawn_on, fetched, ?_,
          .same inside⟩
      rw [List.flatMap_nil, List.append_nil, ← List.tail_drop, next,
        List.tail_cons]
  | cons other later inductionHypothesis =>
      intro queue past drawn fuel changed entry rest drawing next enough
      by_cases inside : drawn < current.items.length
      · have split := List.drop_eq_getElem_cons inside
        rw [split, List.cons_append] at next
        obtain ⟨same, tail⟩ := List.cons.inj next
        have found : current.items[drawn]? = some entry := by
          rw [List.getElem?_eq_getElem inside, same]
        obtain ⟨loaded, finished, drawn_on, fetched⟩ :=
          drawing.supplyLoop_here found enough changed
        exact
          ⟨loaded, past, current, drawn, other :: later, finished,
            drawn_on, fetched, tail, .same inside⟩
      · have none_left : current.items.length ≤ drawn := by omega
        obtain ⟨passed, spare, continues, passes, fetched, less⟩ :=
          drawing.supplyLoop_passed none_left enough changed
        rw [List.drop_eq_nil_of_le none_left, List.nil_append,
          List.flatMap_cons] at next
        obtain ⟨loaded, past', current', drawn', later', finished, drawn_on,
          more, tail, follows⟩ := inductionHypothesis passes next less
        refine
          ⟨loaded, past', current', drawn', later',
            continues.trans finished, drawn_on, ?_, tail, ?_⟩
        · rw [more, fetched]
        · cases follows with
          | same more =>
              refine .later none_left [] other later rfl (by simp) ?_
              exact List.length_pos_iff.mp more
          | later used_up empty _ _ split none_between some_item =>
              refine
                .later none_left (other :: empty) current' later'
                  (by rw [split]; rfl) ?_ some_item
              intro listing member
              rcases List.mem_cons.mp member with rfl | between
              · exact List.length_eq_zero_iff.mp (Nat.le_zero.mp used_up)
              · exact none_between listing between

/-- The loop ends with what is in the cache if nothing is left. -/
theorem supplyLoop_ends {current : Listing} {later : List Listing} :
    ∀ {queue : QueueService AppSupplier} {past : List Listing}
      {drawn fuel : Nat} {changed : Bool},
      Drawing queue past current drawn later →
        current.items.drop drawn ++ later.flatMap Listing.items = [] →
          pendingCalls queue < fuel →
            ∃ loaded,
              (supplyLoop queue.fetchedEntries.length fuel
                  changed).run queue = .ok changed loaded ∧
                loaded.fetchedEntries = queue.fetchedEntries := by
  induction later generalizing current with
  | nil =>
      intro queue past drawn fuel changed drawing used_up enough
      rw [List.flatMap_nil, List.append_nil, List.drop_eq_nil_iff] at used_up
      obtain ⟨supplier, next, here, answered, before, after, suppliers,
        olds, _, news⟩ := drawing.ask
      rw [List.getElem?_eq_none used_up] at answered
      have fewer := pendingCalls_acceptItem here answered
      obtain ⟨spare, rfl⟩ : ∃ spare, fuel = spare + 1 + 1 :=
        ⟨fuel - 2, by omega⟩
      have missing :
          ¬(queue.fetchedEntries.length : Int) <
            queue.fetchedEntries.length :=
        Int.lt_irrefl _
      refine ⟨(queue.storeSupplier next).acceptItem none, ?_, rfl⟩
      rw [supplyLoop_answered missing here answered, Option.isSome_none,
        Bool.or_false]
      refine supplyLoop_exhausted (Int.lt_irrefl _) ?_
      cases news
      have length := olds.length_eq
      have position := drawing.supplierIndex
      simp only [acceptItem, suppliers, storeSupplier_currentSupplierIndex,
        List.getElem?_eq_none_iff, List.length_append,
        List.length_singleton]
      omega
  | cons other later inductionHypothesis =>
      intro queue past drawn fuel changed drawing used_up enough
      obtain ⟨none_left, none_later⟩ := List.append_eq_nil_iff.mp used_up
      rw [List.drop_eq_nil_iff] at none_left
      rw [List.flatMap_cons] at none_later
      obtain ⟨passed, spare, continues, passes, fetched, less⟩ :=
        drawing.supplyLoop_passed none_left enough changed
      obtain ⟨loaded, finished, same⟩ :=
        inductionHypothesis passes none_later less
      exact ⟨loaded, continues.trans finished, same.trans fetched⟩

theorem publish (drawing : Drawing queue past current drawn later) :
    Drawing queue.publish past current drawn later :=
  ⟨drawing.order, drawing.mode, drawing.removed, drawing.supplierIndex,
    drawing.entryIndex, drawing.bounded, drawing.fetched,
    drawing.suppliers⟩

theorem saveCurrentIndex
    (drawing : Drawing queue past current drawn later)
    (saveHistory : Bool) :
    Drawing (saveCurrentIndex saveHistory queue) past current drawn
      later := by
  unfold Queue.saveCurrentIndex
  split
  · exact
      ⟨drawing.order, drawing.mode, drawing.removed, drawing.supplierIndex,
        drawing.entryIndex, drawing.bounded, drawing.fetched,
        drawing.suppliers⟩
  · exact drawing

theorem applyIndex (drawing : Drawing queue past current drawn later)
    (index : Int) (entry : Option QueueEntry) :
    Drawing (applyIndex index entry queue) past current drawn later :=
  ⟨drawing.order, drawing.mode, drawing.removed, drawing.supplierIndex,
    drawing.entryIndex, drawing.bounded, drawing.fetched,
    drawing.suppliers⟩

/-- The cursor is at the last entry of the cache, which is one of the
current listing. -/
structure AtEnd (queue : QueueService AppSupplier) (past : List Listing)
    (current : Listing) (drawn : Nat) (later : List Listing) : Prop where
  drawing : Drawing queue past current drawn later
  cursor : queue.entryIndex + 1 = queue.fetchedEntries.length
  asked : 0 < drawn

/-- A jump behind the cache makes the next item current. -/
theorem setIndex_follows
    (drawing : Drawing queue past current drawn later)
    {entry : QueueEntry} {rest : List QueueEntry}
    (next :
      current.items.drop drawn ++ later.flatMap Listing.items =
        entry :: rest)
    (saveHistory : Bool) :
    ∃ moved past' current' drawn' later',
      (setIndex queue.fetchedEntries.length saveHistory).run queue =
          .ok (some entry) moved ∧
        AtEnd moved past' current' (drawn' + 1) later' ∧
        current'.items.drop (drawn' + 1) ++ later'.flatMap Listing.items =
          rest ∧
        Follows current drawn later current' drawn' later' := by
  have saved := drawing.saveCurrentIndex saveHistory
  have cached :
      (Queue.saveCurrentIndex saveHistory queue).fetchedEntries =
        queue.fetchedEntries := by
    rw [saved.fetched, drawing.fetched]
  obtain ⟨loaded, past', current', drawn', later', finished, drawn_on,
    fetched, tail, follows⟩ :=
    @supplyLoop_follows _ _ _ past drawn _ false entry rest saved next
      (pendingCalls_lt_supplyFuel _)
  rw [cached] at finished fetched
  have supplied := getOrSupplyEntry_run finished
  have answer :
      entryAt loaded.fetchedEntries queue.fetchedEntries.length =
        some entry := by
    rw [entryAt, if_pos (Int.natCast_nonneg _), fetched, Int.toNat_natCast,
      List.getElem?_concat_length]
  rw [answer, if_pos rfl] at supplied
  have accepted :
      ¬((queue.fetchedEntries.length : Int) < 0 ∧
        (queue.fetchedEntries.length : Int) ≠ INDEX_NONE) := by
    omega
  refine
    ⟨_, past', current', drawn', later',
      setIndex_run_of_supplied accepted supplied, ?_, tail, follows⟩
  refine ⟨drawn_on.publish.applyIndex _ _, ?_, Nat.succ_pos _⟩
  simp [Queue.applyIndex, QueueService.publish, fetched]

end Drawing

section Playing

variable {Supplier : Type} [QueueSupplier Supplier]

/-- The entries returned by so many calls of `next`, up to the first null. -/
def playOn (usePlaybackOrder useRepeatMode : Bool) :
    Nat → QueueM Supplier (List QueueEntry)
  | 0 => return []
  | calls + 1 => do
      match ← next usePlaybackOrder useRepeatMode with
      | none => return []
      | some entry =>
          let others ← playOn usePlaybackOrder useRepeatMode calls
          return entry :: others

/-- The entries that become current from `setIndex(0)` on. -/
def playFromStart (usePlaybackOrder useRepeatMode : Bool) (calls : Nat) :
    QueueM Supplier (List QueueEntry) := do
  match ← setIndex 0 false with
  | none => return []
  | some entry =>
      let others ← playOn usePlaybackOrder useRepeatMode calls
      return entry :: others

theorem playOn_ends {usePlaybackOrder useRepeatMode : Bool} {calls : Nat}
    {queue after : QueueService Supplier}
    (ended :
      (next usePlaybackOrder useRepeatMode).run queue = .ok none after) :
    (playOn usePlaybackOrder useRepeatMode (calls + 1)).run queue =
      .ok [] after := by
  simp only [playOn, EStateM.run_bind, ended]
  rfl

theorem playOn_continues {usePlaybackOrder useRepeatMode : Bool}
    {calls : Nat} {queue after final : QueueService Supplier}
    {entry : QueueEntry} {others : List QueueEntry}
    (moved :
      (next usePlaybackOrder useRepeatMode).run queue =
        .ok (some entry) after)
    (played :
      (playOn usePlaybackOrder useRepeatMode calls).run after =
        .ok others final) :
    (playOn usePlaybackOrder useRepeatMode (calls + 1)).run queue =
      .ok (entry :: others) final := by
  simp only [playOn, EStateM.run_bind, moved, played]
  rfl

end Playing

/-- At the end of every supplier with items, if a later one has items too,
some later one has reported them. -/
def Announced : List Listing → Prop
  | [] => True
  | listing :: later =>
      (listing.items ≠ [] →
        later.flatMap Listing.items = [] ∨ 0 < reported later) ∧
        Announced later

theorem announced_of_empty {listings : List Listing}
    (empty : listings.flatMap Listing.items = []) : Announced listings := by
  induction listings with
  | nil =>
      trivial
  | cons listing rest inductionHypothesis =>
      rw [List.flatMap_cons, List.append_eq_nil_iff] at empty
      exact ⟨fun some_item => absurd empty.1 some_item,
        inductionHypothesis empty.2⟩

theorem announced_append {empty rest : List Listing}
    (none_there : ∀ listing ∈ empty, listing.items = []) :
    Announced (empty ++ rest) ↔ Announced rest := by
  induction empty with
  | nil =>
      rfl
  | cons listing others inductionHypothesis =>
      rw [List.forall_mem_cons] at none_there
      rw [List.cons_append, Announced, inductionHypothesis none_there.2]
      simp [none_there.1]

theorem reported_eq_zero {listings : List Listing}
    (empty : listings.flatMap Listing.items = []) :
    reported listings = 0 := by
  induction listings with
  | nil =>
      rfl
  | cons listing rest inductionHypothesis =>
      rw [List.flatMap_cons, List.append_eq_nil_iff] at empty
      have first : listing.sizeWhen false = 0 := by
        simp [Listing.sizeWhen, empty.1]
      have others := inductionHypothesis empty.2
      rw [reported] at others ⊢
      rw [List.map_cons, List.sum_cons, first, others]
      rfl

namespace Drawing

variable {queue : QueueService AppSupplier} {past later : List Listing}
variable {current : Listing} {drawn : Nat}

namespace AtEnd

theorem next_eq (atEnd : AtEnd queue past current drawn later)
    (usePlaybackOrder useRepeatMode : Bool) :
    (next usePlaybackOrder useRepeatMode).run queue =
      if 0 < (current.items.length : Int) - drawn + reported later then
        (setIndex queue.fetchedEntries.length true).run queue
      else .ok none queue := by
  have mode : queue.effectiveRepeatMode useRepeatMode = .none := by
    cases useRepeatMode with
    | false => rfl
    | true => exact atEnd.drawing.mode
  have provider : queue.provider usePlaybackOrder = .default := by
    cases usePlaybackOrder with
    | false => rfl
    | true => exact atEnd.drawing.order
  rw [next_default mode provider, atEnd.cursor,
    atEnd.drawing.estimatedSize atEnd.asked]
  by_cases more : 0 < (current.items.length : Int) - drawn + reported later
  · rw [if_pos more, if_pos (by omega)]
  · rw [if_neg more, if_neg (by omega)]

/-- What is heard from here on is all that is left if and only if every
later supplier with items is announced. -/
theorem playOn_iff (usePlaybackOrder useRepeatMode : Bool)
    {calls : Nat} :
    ∀ {queue : QueueService AppSupplier} {past later : List Listing}
      {current : Listing} {drawn : Nat},
      AtEnd queue past current drawn later →
        (current.items.drop drawn ++
            later.flatMap Listing.items).length ≤ calls →
          ∃ heard final,
            (playOn usePlaybackOrder useRepeatMode calls).run queue =
                .ok heard final ∧
              (heard =
                  current.items.drop drawn ++
                    later.flatMap Listing.items ↔
                Announced (current :: later)) := by
  induction calls with
  | zero =>
      intro queue past later current drawn atEnd enough
      have used_up := List.length_eq_zero_iff.mp (Nat.le_zero.mp enough)
      refine ⟨[], queue, rfl, iff_of_true used_up.symm ?_⟩
      have none_later := (List.append_eq_nil_iff.mp used_up).2
      exact ⟨fun _ => Or.inl none_later, announced_of_empty none_later⟩
  | succ calls inductionHypothesis =>
      intro queue past later current drawn atEnd enough
      have bounded := atEnd.drawing.bounded
      have moves := atEnd.next_eq usePlaybackOrder useRepeatMode
      by_cases more :
          0 < (current.items.length : Int) - drawn + reported later
      · rw [if_pos more] at moves
        have some_left :
            current.items.drop drawn ++ later.flatMap Listing.items ≠
              [] := by
          intro used_up
          obtain ⟨none_left, none_later⟩ :=
            List.append_eq_nil_iff.mp used_up
          rw [List.drop_eq_nil_iff] at none_left
          rw [reported_eq_zero none_later] at more
          omega
        obtain ⟨entry, rest, left⟩ := List.exists_cons_of_ne_nil some_left
        obtain ⟨moved, past', current', drawn', later', jumped, atEnd',
          tail, follows⟩ := atEnd.drawing.setIndex_follows left true
        rw [left, List.length_cons] at enough
        obtain ⟨heard, final, played, exactly⟩ :=
          inductionHypothesis atEnd' (by rw [tail]; omega)
        refine
          ⟨entry :: heard, final,
            playOn_continues (moves.trans jumped) played, ?_⟩
        rw [left, List.cons_inj_right, ← tail, exactly]
        cases follows with
        | same =>
            rfl
        | later used_up empty _ _ split none_between some_item =>
            have told : 0 < reported later := by omega
            have same :
                Announced later ↔ Announced (current' :: later') := by
              rw [split]
              exact announced_append none_between
            rw [← same]
            exact ⟨fun rest => ⟨fun _ => Or.inr told, rest⟩, And.right⟩
      · rw [if_neg more] at moves
        have nonneg := reported_nonneg later
        have none_left : current.items.length ≤ drawn := by omega
        have some_item : current.items ≠ [] := by
          have asked := atEnd.asked
          exact List.length_pos_iff.mp (by omega)
        refine ⟨[], queue, playOn_ends moves, ?_⟩
        rw [List.drop_eq_nil_of_le none_left, List.nil_append]
        constructor
        · intro used_up
          exact ⟨fun _ => Or.inl used_up.symm,
            announced_of_empty used_up.symm⟩
        · intro given
          obtain ⟨told, _⟩ := given
          rcases told some_item with used_up | positive
          · exact used_up.symm
          · omega

end AtEnd

end Drawing

/-! ## From the first entry -/

/-- A new queue over the suppliers of the listings. -/
def queueOver (random : Random) (listings : List Listing) :
    QueueService AppSupplier :=
  { (QueueService.fresh .default .none random :
        QueueService AppSupplier) with
    suppliers := listings.map Listing.supplier }

theorem drawing_queueOver (random : Random) (first : Listing)
    (later : List Listing) :
    Drawing (queueOver random (first :: later)) [] first 0 later where
  order := rfl
  mode := rfl
  removed := rfl
  supplierIndex := rfl
  entryIndex := rfl
  bounded := Nat.zero_le _
  fetched := rfl
  suppliers := by
    refine
      ⟨[], first.supplier, later.map Listing.supplier, rfl, .nil,
        first.offers_supplier, ?_⟩
    induction later with
    | nil =>
        exact .nil
    | cons listing rest inductionHypothesis =>
        exact .cons listing.offers_supplier inductionHypothesis

/-- The last supplier with items reports its size beforehand, or it is the
only one with items. -/
def LastKnown (listings : List Listing) : Prop :=
  ∀ early last late, listings = early ++ last :: late →
    last.items ≠ [] → (∀ listing ∈ late, listing.items = []) →
      last.sizeKnown = true ∨ ∀ listing ∈ early, listing.items = []

theorem reported_pos_iff (listings : List Listing) :
    0 < reported listings ↔
      ∃ listing ∈ listings,
        listing.sizeKnown = true ∧ listing.items ≠ [] := by
  induction listings with
  | nil =>
      simp [reported]
  | cons listing rest inductionHypothesis =>
      have nonneg := reported_nonneg rest
      have split :
          reported (listing :: rest) =
            listing.sizeWhen false + reported rest := by
        rw [reported, List.map_cons, List.sum_cons]
        rfl
      rw [split, List.exists_mem_cons_iff, ← inductionHypothesis]
      by_cases known : listing.sizeKnown = true ∧ listing.items ≠ []
      · have size := List.length_pos_iff.mpr known.2
        refine iff_of_true ?_ (Or.inl known)
        simp only [Listing.sizeWhen, known.1, Bool.true_or, if_true]
        omega
      · have size : listing.sizeWhen false = 0 := by
          unfold Listing.sizeWhen
          split
          case isTrue told =>
            rw [Bool.or_false] at told
            have empty : listing.items = [] := by
              by_contra some_item
              exact known ⟨told, some_item⟩
            simp [empty]
          case isFalse =>
            rfl
        rw [size, Int.zero_add, or_iff_right known]

theorem announced_iff (listings : List Listing) :
    Announced listings ↔
      ∀ early listing later, listings = early ++ listing :: later →
        listing.items ≠ [] →
          later.flatMap Listing.items = [] ∨ 0 < reported later := by
  induction listings with
  | nil =>
      simp [Announced]
  | cons first rest inductionHypothesis =>
      rw [Announced, inductionHypothesis]
      constructor
      · intro given early listing later split some_item
        obtain ⟨here, there⟩ := given
        cases early with
        | nil =>
            cases split
            exact here some_item
        | cons other early =>
            obtain ⟨_, split⟩ := List.cons.inj split
            exact there early listing later split some_item
      · intro everywhere
        refine ⟨everywhere [] first rest rfl, ?_⟩
        intro early listing later split
        exact everywhere (first :: early) listing later
          (by rw [split, List.cons_append])

/-- The last listing with items. -/
theorem exists_last_with_items {listings : List Listing}
    (some_items : ∃ listing ∈ listings, listing.items ≠ []) :
    ∃ early last late, listings = early ++ last :: late ∧
      last.items ≠ [] ∧ ∀ listing ∈ late, listing.items = [] := by
  induction listings with
  | nil =>
      simp at some_items
  | cons first rest inductionHypothesis =>
      by_cases more : ∃ listing ∈ rest, listing.items ≠ []
      · obtain ⟨early, last, late, split, some_item, none_behind⟩ :=
          inductionHypothesis more
        exact
          ⟨first :: early, last, late, by rw [split, List.cons_append],
            some_item, none_behind⟩
      · have none_behind : ∀ listing ∈ rest, listing.items = [] := by
          intro listing member
          by_contra some_item
          exact more ⟨listing, member, some_item⟩
        obtain ⟨listing, member, some_item⟩ := some_items
        rcases List.mem_cons.mp member with rfl | behind
        · exact ⟨[], listing, rest, rfl, some_item, none_behind⟩
        · exact absurd (none_behind listing behind) some_item

theorem announced_iff_lastKnown (listings : List Listing) :
    Announced listings ↔ LastKnown listings := by
  rw [announced_iff]
  constructor
  · intro told early last late split some_item none_behind
    by_cases alone : ∀ listing ∈ early, listing.items = []
    · exact Or.inr alone
    · left
      obtain ⟨first, before, between, rfl, some_before, none_between⟩ :=
        exists_last_with_items
          (by simpa only [not_forall, exists_prop] using alone)
      rw [List.append_assoc, List.cons_append] at split
      rcases told first before _ split some_before with empty | positive
      · simp [some_item] at empty
      · obtain ⟨listing, member, known, nonempty⟩ :=
          (reported_pos_iff _).mp positive
        rcases List.mem_append.mp member with inside | there
        · exact absurd (none_between listing inside) nonempty
        · rcases List.mem_cons.mp there with rfl | behind
          · exact known
          · exact absurd (none_behind listing behind) nonempty
  · intro lastKnown early listing later split some_item
    by_cases more : ∃ other ∈ later, other.items ≠ []
    · obtain ⟨between, last, late, rfl, some_last, none_behind⟩ :=
        exists_last_with_items more
      have regrouped :
          listings = (early ++ listing :: between) ++ last :: late := by
        rw [split, List.append_assoc, List.cons_append]
      rcases lastKnown _ last late regrouped some_last none_behind with
        known | alone
      · refine Or.inr ((reported_pos_iff _).mpr ⟨last, ?_, known, some_last⟩)
        exact List.mem_append_right _ List.mem_cons_self
      · exact absurd (alone listing (by simp)) some_item
    · left
      apply List.flatMap_eq_nil_iff.mpr
      intro other member
      by_contra nonempty
      exact more ⟨other, member, nonempty⟩

/-- Without any items the first call returns null. -/
theorem playFromStart_empty (random : Random) {listings : List Listing}
    (empty : listings.flatMap Listing.items = [])
    (usePlaybackOrder useRepeatMode : Bool) (calls : Nat) :
    ∃ final,
      (playFromStart usePlaybackOrder useRepeatMode calls).run
          (queueOver random listings) = .ok [] final := by
  have ended :
      ∃ loaded,
        (supplyLoop 0 (queueOver random listings).supplyFuel false).run
            (queueOver random listings) = .ok false loaded ∧
          loaded.fetchedEntries = [] := by
    cases listings with
    | nil =>
        exact ⟨_, supplyLoop_exhausted (Int.lt_irrefl _) rfl, rfl⟩
    | cons first later =>
        exact
          (drawing_queueOver random first later).supplyLoop_ends empty
            (pendingCalls_lt_supplyFuel _)
  obtain ⟨loaded, finished, cached⟩ := ended
  have answer : entryAt loaded.fetchedEntries 0 = none := by
    rw [cached]
    rfl
  have supplied :
      (getOrSupplyEntry 0).run
          (saveCurrentIndex false (queueOver random listings)) =
        .ok none loaded := by
    rw [← answer]
    exact getOrSupplyEntry_run finished
  have jumped := setIndex_run_of_supplied (by decide) supplied
  refine ⟨applyIndex 0 none loaded, ?_⟩
  simp only [playFromStart, EStateM.run_bind, jumped]
  rfl

/-- What is heard from the first entry on is everything if and only if every
later supplier with items is announced. -/
theorem playFromStart_iff (random : Random) (first : Listing)
    (later : List Listing)
    (some_items : (first :: later).flatMap Listing.items ≠ [])
    (usePlaybackOrder useRepeatMode : Bool) (extra : Nat) :
    ∃ heard final,
      (playFromStart usePlaybackOrder useRepeatMode
          (((first :: later).flatMap Listing.items).length + extra)).run
          (queueOver random (first :: later)) = .ok heard final ∧
        (heard = (first :: later).flatMap Listing.items ↔
          Announced (first :: later)) := by
  obtain ⟨entry, rest, all⟩ := List.exists_cons_of_ne_nil some_items
  obtain ⟨moved, past', current', drawn', later', jumped, atEnd, tail,
    follows⟩ :=
    (drawing_queueOver random first later).setIndex_follows all false
  have enough :
      (current'.items.drop (drawn' + 1) ++
          later'.flatMap Listing.items).length ≤
        ((first :: later).flatMap Listing.items).length + extra := by
    rw [tail, all, List.length_cons]
    omega
  obtain ⟨others, final, played, exactly⟩ :=
    atEnd.playOn_iff usePlaybackOrder useRepeatMode enough
  refine ⟨entry :: others, final, ?_, ?_⟩
  · have start :
        (setIndex 0 false).run (queueOver random (first :: later)) =
          .ok (some entry) moved :=
      jumped
    simp only [playFromStart, EStateM.run_bind, start, played]
    rfl
  · rw [all, List.cons_inj_right, ← tail, exactly]
    cases follows with
    | same =>
        rfl
    | later used_up empty _ _ split none_between =>
        have no_items : first.items = [] :=
          List.length_eq_zero_iff.mp (Nat.le_zero.mp used_up)
        have none_before :
            ∀ listing ∈ first :: empty, listing.items = [] :=
          List.forall_mem_cons.mpr ⟨no_items, none_between⟩
        rw [split, ← List.cons_append]
        exact (announced_append none_before).symm

/-- `next` visits all items of all suppliers in order before it returns null
if and only if the last supplier with items reports its size beforehand or is
the only one with items. -/
theorem every_supplier_plays_iff (random : Random)
    (listings : List Listing) (usePlaybackOrder useRepeatMode : Bool)
    (extra : Nat) :
    (∃ final,
      (playFromStart usePlaybackOrder useRepeatMode
          ((listings.flatMap Listing.items).length + extra)).run
          (queueOver random listings) =
        .ok (listings.flatMap Listing.items) final) ↔
      LastKnown listings := by
  rw [← announced_iff_lastKnown]
  by_cases empty : listings.flatMap Listing.items = []
  · refine iff_of_true ?_ (announced_of_empty empty)
    rw [empty]
    exact
      playFromStart_empty random empty usePlaybackOrder useRepeatMode _
  · cases listings with
    | nil =>
        exact absurd rfl empty
    | cons first later =>
        obtain ⟨heard, final, played, exactly⟩ :=
          playFromStart_iff random first later empty usePlaybackOrder
            useRepeatMode extra
        rw [← exactly, played]
        constructor
        · intro given
          obtain ⟨_, same⟩ := given
          cases same
          rfl
        · intro all
          exact ⟨final, by rw [all]⟩

/-- An album with one track. -/
def single (track : QueueEntry) : Listing where
  items := [track]
  kind := .audioAlbum
  pageSize := 10
  short := by
    rw [List.length_singleton]
    decide
  positive := by decide

/-- Behind an album that has ended the next album is not asked. -/
theorem second_album_never_plays :
    ¬ ∃ final,
      (playFromStart true false 3).run
          (queueOver (fun _ => 0) [single ⟨0⟩, single ⟨1⟩]) =
        .ok [⟨0⟩, ⟨1⟩] final := by
  intro given
  obtain ⟨final, everything⟩ := given
  obtain ⟨stopped, heard⟩ :
      ∃ stopped,
        (playFromStart true false 3).run
            (queueOver (fun _ => 0) [single ⟨0⟩, single ⟨1⟩]) =
          .ok [⟨0⟩] stopped :=
    ⟨_, rfl⟩
  rw [heard] at everything
  cases everything

end JellyfinTv.Queue
