import JellyfinTv.Queue.Draws
import JellyfinTv.Queue.Paged

/-!
# Suppliers with a limit

The paged suppliers and the ones over a sequence answer at most `MAX_SIZE`
items: they throw when they are asked for an index from the limit on.  The
queue goes on to the next supplier only after a `null`, so a supplier with
`MAX_SIZE` items or more is never left.
-/

namespace JellyfinTv.Queue

open QueueService Library

/-- `SequenceQueueSupplier`, with the items its iterator has still to give. -/
structure SequenceQueueSupplier where
  size : Int
  itemIterator : List QueueEntry
  buffer : List QueueEntry

namespace SequenceQueueSupplier

def MAX_SIZE : Nat := 100

/-- The loop of `getItem`: the buffer grows until it reaches the index or the
iterator ends. -/
def bufferLoop (index : Nat) :
    (itemIterator buffer : List QueueEntry) →
      Option QueueEntry × List QueueEntry × List QueueEntry
  | [], buffer =>
      if index < buffer.length then (buffer[index]?, [], buffer)
      else (none, [], buffer)
  | item :: rest, buffer =>
      if index < buffer.length then (buffer[index]?, item :: rest, buffer)
      else bufferLoop index rest (buffer ++ [item])

def getItem (index : Nat) :
    EStateM QueueException SequenceQueueSupplier (Option QueueEntry) := do
  if MAX_SIZE ≤ index then throw .illegalArgument
  else
    let supplier ← get
    let (item, itemIterator, buffer) :=
      bufferLoop index supplier.itemIterator supplier.buffer
    set { supplier with itemIterator := itemIterator, buffer := buffer }
    return item

instance : QueueSupplier SequenceQueueSupplier where
  size := SequenceQueueSupplier.size
  getItem := getItem
  bound _ := MAX_SIZE
  index_lt_bound := by
    intro index supplier next item answered
    by_contra outside
    have refused :
        (getItem index).run supplier =
          .error .illegalArgument supplier := by
      simp only [getItem, if_pos (Nat.not_lt.mp outside)]
      rfl
    rw [refused] at answered
    cases answered
  bound_after_item := by
    intro _ _ _ _ _
    rfl

/-- The supplier over a finite sequence. -/
def ofItems (items : List QueueEntry) (size : Int) :
    SequenceQueueSupplier :=
  ⟨size, items, []⟩

/-- The buffer and what the iterator has still to give are the items. -/
def Holds (items : List QueueEntry) (supplier : SequenceQueueSupplier) :
    Prop :=
  supplier.buffer ++ supplier.itemIterator = items

/-- The loop answers from the items and loses none. -/
theorem bufferLoop_answers (index : Nat) (itemIterator : List QueueEntry) :
    ∀ buffer : List QueueEntry,
      (bufferLoop index itemIterator buffer).1 =
          (buffer ++ itemIterator)[index]? ∧
        (bufferLoop index itemIterator buffer).2.2 ++
            (bufferLoop index itemIterator buffer).2.1 =
          buffer ++ itemIterator := by
  induction itemIterator with
  | nil =>
      intro buffer
      unfold bufferLoop
      split
      · exact ⟨by rw [List.append_nil], rfl⟩
      · rw [List.append_nil, List.getElem?_eq_none (by omega)]
        exact ⟨rfl, rfl⟩
  | cons item rest inductionHypothesis =>
      intro buffer
      unfold bufferLoop
      split
      · rename_i inside
        exact ⟨by rw [List.getElem?_append_left inside], rfl⟩
      · have further := inductionHypothesis (buffer ++ [item])
        rw [List.append_assoc, List.singleton_append] at further
        exact further

theorem Holds.getItem {items : List QueueEntry}
    {supplier : SequenceQueueSupplier} (holds : supplier.Holds items)
    {index : Nat} (inside : index < MAX_SIZE) :
    ∃ next,
      (QueueSupplier.getItem index).run supplier = .ok items[index]? next ∧
        next.Holds items := by
  obtain ⟨answer, kept⟩ :=
    bufferLoop_answers index supplier.itemIterator supplier.buffer
  obtain ⟨size, itemIterator, buffered⟩ := supplier
  have same : buffered ++ itemIterator = items := holds
  rw [same] at answer kept
  refine
    ⟨⟨size, (bufferLoop index itemIterator buffered).2.1,
      (bufferLoop index itemIterator buffered).2.2⟩, ?_, kept⟩
  rw [← answer]
  simp only [QueueSupplier.getItem, SequenceQueueSupplier.getItem,
    if_neg (Nat.not_le.mpr inside)]
  rfl

end SequenceQueueSupplier

/-! ## Walking over limited suppliers -/

section Walk

variable {Supplier : Type} [QueueSupplier Supplier]

/-- Suppliers over lists of items that refuse the indices from a limit on. -/
structure Limited (limit : Nat)
    (holds : List QueueEntry → Supplier → Prop) : Prop where
  answers :
    ∀ {items : List QueueEntry} {supplier : Supplier} {index : Nat},
      holds items supplier → index < limit →
        ∃ next,
          (QueueSupplier.getItem index).run supplier =
              .ok items[index]? next ∧
            holds items next
  refuses :
    ∀ {items : List QueueEntry} {supplier : Supplier} {index : Nat},
      holds items supplier → limit ≤ index →
        ∃ exception,
          (QueueSupplier.getItem index).run supplier =
            .error exception supplier

variable {limit : Nat} {holds : List QueueEntry → Supplier → Prop}
variable {lists : List (List QueueEntry)} {queue : QueueService Supplier}

/-- The items of the current supplier. -/
def currentItems (lists : List (List QueueEntry))
    (queue : QueueService Supplier) : List QueueEntry :=
  lists[queue.currentSupplierIndex]?.getD []

/-- The queue has drawn everything from the suppliers before the current one,
all of them shorter than the limit, and the beginning of the current one. -/
structure Walked (limit : Nat) (holds : List QueueEntry → Supplier → Prop)
    (lists : List (List QueueEntry)) (queue : QueueService Supplier) :
    Prop where
  suppliers : List.Forall₂ holds lists queue.suppliers
  inside : queue.currentSupplierIndex ≤ lists.length
  past :
    ∀ items ∈ lists.take queue.currentSupplierIndex, items.length < limit
  drawn :
    queue.currentSupplierEntryIndex ≤
      ((currentItems lists queue).take limit).length
  fetched :
    queue.fetchedEntries =
      (lists.take queue.currentSupplierIndex).flatten ++
        (currentItems lists queue).take queue.currentSupplierEntryIndex

omit [QueueSupplier Supplier] in
theorem Walked.publish (walked : Walked limit holds lists queue) :
    Walked limit holds lists queue.publish :=
  ⟨walked.suppliers, walked.inside, walked.past, walked.drawn,
    walked.fetched⟩

omit [QueueSupplier Supplier] in
theorem forall₂_at {index : Nat} {supplier : Supplier}
    {suppliers : List Supplier} (all : List.Forall₂ holds lists suppliers)
    (found : suppliers[index]? = some supplier) :
    ∃ items, lists[index]? = some items ∧ holds items supplier ∧
      ∀ next, holds items next →
        List.Forall₂ holds lists (suppliers.set index next) := by
  induction all generalizing index with
  | nil =>
      simp at found
  | cons first rest inductionHypothesis =>
      cases index with
      | zero =>
          cases found
          exact ⟨_, rfl, first, fun next holdsNext => .cons holdsNext rest⟩
      | succ index =>
          obtain ⟨items, located, holdsItems, replaced⟩ :=
            inductionHypothesis found
          exact
            ⟨items, located, holdsItems, fun next holdsNext =>
              .cons first (replaced next holdsNext)⟩

theorem take_succ_of_getElem? {lists : List (List QueueEntry)}
    {index : Nat} {items : List QueueEntry}
    (located : lists[index]? = some items) :
    lists.take (index + 1) = lists.take index ++ [items] := by
  rw [List.take_add_one, located]
  rfl

/-- Asking the current supplier walks on, or throws at the limit. -/
theorem Walked.ask (limited : Limited limit holds)
    (walked : Walked limit holds lists queue) {supplier : Supplier}
    (current :
      queue.suppliers[queue.currentSupplierIndex]? = some supplier) :
    (∃ item asked,
        (askSupplier supplier).run queue = .ok item asked ∧
          Walked limit holds lists (asked.acceptItem item)) ∨
      ∃ exception failed,
        (askSupplier supplier).run queue = .error exception failed ∧
          Walked limit holds lists failed ∧
          failed.currentSupplierEntryIndex = limit ∧
          failed.currentSupplierIndex < lists.length ∧
          failed.fetchedEntries = queue.fetchedEntries := by
  obtain ⟨items, located, holdsItems, replaced⟩ :=
    forall₂_at walked.suppliers current
  have same : currentItems lists queue = items := by
    rw [currentItems, located]
    rfl
  have inside := (List.getElem?_eq_some_iff.mp located).1
  have drawn := walked.drawn
  have fetched := walked.fetched
  rw [same] at drawn fetched
  rw [List.length_take] at drawn
  rw [askSupplier_run]
  by_cases early : queue.currentSupplierEntryIndex < limit
  · obtain ⟨next, answered, holdsNext⟩ := limited.answers holdsItems early
    rw [answered]
    refine Or.inl ⟨_, _, rfl, ?_⟩
    cases found : items[queue.currentSupplierEntryIndex]? with
    | some entry =>
        have below := (List.getElem?_eq_some_iff.mp found).1
        refine
          { suppliers := replaced next holdsNext
            inside := walked.inside
            past := walked.past
            drawn := ?_
            fetched := ?_ }
        · rw [currentItems]
          simp only [acceptItem, storeSupplier, located, Option.getD_some,
            List.length_take]
          omega
        · rw [currentItems]
          simp only [acceptItem, storeSupplier, located, Option.getD_some,
            fetched, List.append_assoc]
          rw [List.take_add_one, found]
          rfl
    | none =>
        have passed := List.getElem?_eq_none_iff.mp found
        have short : items.length < limit := by omega
        refine
          { suppliers := replaced next holdsNext
            inside := inside
            past := ?_
            drawn := Nat.zero_le _
            fetched := ?_ }
        · intro other member
          simp only [acceptItem, storeSupplier,
            take_succ_of_getElem? located, List.mem_append,
            List.mem_singleton] at member
          rcases member with earlier | rfl
          · exact walked.past other earlier
          · exact short
        · simp only [acceptItem, storeSupplier, fetched,
            take_succ_of_getElem? located, List.flatten_append,
            List.flatten_singleton, List.take_zero, List.append_nil,
            List.take_of_length_le passed]
  · have reached := Nat.not_lt.mp early
    obtain ⟨exception, refused⟩ := limited.refuses holdsItems reached
    rw [refused]
    refine Or.inr ⟨_, _, rfl, ?_, ?_, inside, rfl⟩
    · exact
        ⟨replaced supplier holdsItems, walked.inside, walked.past,
          walked.drawn, walked.fetched⟩
    · have same : queue.currentSupplierEntryIndex = limit := by omega
      exact same

/-- The loop walks on to the index or the end of the suppliers, or throws at
the limit of a supplier in front of the index. -/
theorem Walked.supplyLoop (limited : Limited limit holds)
    (index : Int) (fuel : Nat) :
    ∀ {queue : QueueService Supplier} (changed : Bool),
      Walked limit holds lists queue →
        (∃ answer loaded,
            (Queue.supplyLoop index fuel changed).run queue =
                .ok answer loaded ∧
              Walked limit holds lists loaded) ∨
          ∃ exception failed,
            (Queue.supplyLoop index fuel changed).run queue =
                .error exception failed ∧
              Walked limit holds lists failed ∧
              failed.currentSupplierEntryIndex = limit ∧
              failed.currentSupplierIndex < lists.length ∧
              (failed.fetchedEntries.length : Int) ≤ index := by
  induction fuel with
  | zero =>
      exact fun changed walked => Or.inl ⟨changed, _, rfl, walked⟩
  | succ fuel inductionHypothesis =>
      intro queue changed walked
      rw [supplyLoop_succ]
      split
      · exact Or.inl ⟨_, _, rfl, walked⟩
      rename_i missing
      split
      · exact Or.inl ⟨_, _, rfl, walked⟩
      rename_i supplier current
      rcases walked.ask limited current with
        ⟨item, asked, answered, further⟩ |
          ⟨exception, failed, threw, kept, atLimit, inside, same⟩
      · rw [answered]
        exact inductionHypothesis _ further
      · rw [threw]
        refine Or.inr ⟨exception, failed, rfl, kept, atLimit, inside, ?_⟩
        rw [same]
        omega

/-- The lists one after the other, each of them up to the limit. -/
def truncated (limit : Nat) (lists : List (List QueueEntry)) :
    List QueueEntry :=
  (lists.map (List.take limit)).flatten

theorem truncated_append (limit : Nat)
    (first second : List (List QueueEntry)) :
    truncated limit (first ++ second) =
      truncated limit first ++ truncated limit second := by
  rw [truncated, List.map_append, List.flatten_append]
  rfl

theorem truncated_singleton (limit : Nat) (items : List QueueEntry) :
    truncated limit [items] = items.take limit := by
  simp [truncated]

theorem truncated_of_short {lists : List (List QueueEntry)}
    (short : ∀ items ∈ lists, items.length < limit) :
    truncated limit lists = lists.flatten := by
  have same : lists.map (List.take limit) = lists := by
    conv_rhs => rw [← List.map_id lists]
    apply List.map_congr_left
    intro items member
    exact List.take_of_length_le (Nat.le_of_lt (short items member))
  rw [truncated, same]

theorem truncated_mono {first second : List (List QueueEntry)}
    (isPrefix : first <+: second) (limit : Nat) :
    truncated limit first <+: truncated limit second := by
  obtain ⟨rest, rfl⟩ := isPrefix
  rw [truncated_append]
  exact List.prefix_append _ _

omit [QueueSupplier Supplier] in
/-- The cache is the beginning of the truncated lists up to the current
one. -/
theorem Walked.fetched_prefix (walked : Walked limit holds lists queue) :
    queue.fetchedEntries <+:
      truncated limit (lists.take (queue.currentSupplierIndex + 1)) := by
  have earlier := truncated_of_short walked.past
  have drawn := walked.drawn
  rw [walked.fetched]
  cases located : lists[queue.currentSupplierIndex]? with
  | none =>
      have whole := List.getElem?_eq_none_iff.mp located
      rw [currentItems, located, Option.getD_none, List.take_nil,
        List.append_nil, ← earlier]
      exact truncated_mono (List.take_prefix_take_left (by omega)) limit
  | some items =>
      rw [currentItems, located, Option.getD_some] at drawn ⊢
      rw [take_succ_of_getElem? located, truncated_append, earlier,
        truncated_singleton]
      refine (List.prefix_append_right_inj _).mpr ?_
      rw [List.length_take] at drawn
      have least : min queue.currentSupplierEntryIndex limit =
          queue.currentSupplierEntryIndex := by omega
      rw [← least, ← List.take_take]
      exact List.take_prefix _ _

/-- No supplier with `limit` items or more ends at the index or in front of
it. -/
def InFrontOfLimits (limit : Nat) (lists : List (List QueueEntry))
    (index : Nat) : Prop :=
  ∀ before long after, lists = before ++ long :: after →
    limit ≤ long.length → index < (truncated limit before).length + limit

omit [QueueSupplier Supplier] in
/-- What is in the cache lies in front of the limits. -/
theorem Walked.inFront_of_cached
    (walked : Walked limit holds lists queue) {index : Nat}
    (cached : index < queue.fetchedEntries.length) :
    InFrontOfLimits limit lists index := by
  intro before long after split reaches
  have behind : queue.currentSupplierIndex ≤ before.length := by
    by_contra passed
    have member : long ∈ lists.take queue.currentSupplierIndex := by
      rw [split, List.take_append,
        List.take_of_length_le (by omega)]
      apply List.mem_append_right
      obtain ⟨more, positive⟩ :
          ∃ more, queue.currentSupplierIndex - before.length = more + 1 :=
        ⟨queue.currentSupplierIndex - before.length - 1, by omega⟩
      rw [positive, List.take_succ_cons]
      exact List.mem_cons_self
    have short := walked.past long member
    omega
  have upTo :
      lists.take (queue.currentSupplierIndex + 1) <+: before ++ [long] := by
    have whole : before ++ [long] <+: lists := by
      rw [split]
      exact ⟨after, by simp⟩
    refine List.prefix_of_prefix_length_le (List.take_prefix _ _) whole ?_
    rw [List.length_take, List.length_append, List.length_singleton]
    omega
  have lengths :=
    (walked.fetched_prefix.trans (truncated_mono upTo limit)).length_le
  rw [truncated_append, truncated_singleton, List.length_append,
    List.length_take] at lengths
  omega

omit [QueueSupplier Supplier] in
/-- At the limit of a supplier, the index behind the cache is not. -/
theorem Walked.not_inFront_of_atLimit
    (walked : Walked limit holds lists queue)
    (inside : queue.currentSupplierIndex < lists.length)
    (atLimit : queue.currentSupplierEntryIndex = limit) {index : Nat}
    (behind : queue.fetchedEntries.length ≤ index) :
    ¬ InFrontOfLimits limit lists index := by
  intro inFront
  have located := List.getElem?_eq_getElem inside
  have drawn := walked.drawn
  have fetched := walked.fetched
  rw [currentItems, located, Option.getD_some, atLimit] at drawn fetched
  rw [List.length_take] at drawn
  have early :=
    inFront (lists.take queue.currentSupplierIndex)
      lists[queue.currentSupplierIndex]
      (lists.drop (queue.currentSupplierIndex + 1))
      (by rw [← List.drop_eq_getElem_cons inside, List.take_append_drop])
      (by omega)
  rw [truncated_of_short walked.past] at early
  rw [fetched, List.length_append, List.length_take] at behind
  omega

omit [QueueSupplier Supplier] in
/-- A loop that stops with the index in the cache, or with no supplier left,
has the entry of the truncated lists. -/
theorem Walked.entryAt_of_reached
    (walked : Walked limit holds lists queue) {index : Nat}
    (reached :
      (index : Int) < queue.fetchedEntries.length ∨
        queue.suppliers[queue.currentSupplierIndex]? = none) :
    entryAt queue.fetchedEntries index = (truncated limit lists)[index]? ∧
      InFrontOfLimits limit lists index := by
  have whole :=
    walked.fetched_prefix.trans
      (truncated_mono (List.take_prefix _ lists) limit)
  rw [entryAt, if_pos (Int.natCast_nonneg index), Int.toNat_natCast]
  by_cases cached : index < queue.fetchedEntries.length
  · refine ⟨?_, walked.inFront_of_cached cached⟩
    obtain ⟨rest, same⟩ := whole
    rw [← same, List.getElem?_append_left cached]
  · have exhausted := reached.resolve_left (by omega)
    have ended := List.getElem?_eq_none_iff.mp exhausted
    rw [← walked.suppliers.length_eq] at ended
    have short := walked.past
    rw [List.take_of_length_le ended] at short
    have fetched := walked.fetched
    rw [List.take_of_length_le ended, currentItems,
      List.getElem?_eq_none ended, Option.getD_none, List.take_nil,
      List.append_nil] at fetched
    refine ⟨?_, ?_⟩
    · rw [truncated_of_short short, ← fetched]
    · intro before long after split reaches
      have member : long ∈ lists := by simp [split]
      have below := short long member
      omega

/-- Loading an index keeps the walk, and answers with the entry of the
truncated lists exactly in front of the limits. -/
theorem Walked.getOrSupplyEntry (limited : Limited limit holds)
    (walked : Walked limit holds lists queue) (index : Nat) :
    Walked limit holds lists
        (finalState ((Queue.getOrSupplyEntry index).run queue)) ∧
      ((∃ final,
          (Queue.getOrSupplyEntry index).run queue =
            .ok (truncated limit lists)[index]? final) ↔
        InFrontOfLimits limit lists index) := by
  rcases Walked.supplyLoop limited index queue.supplyFuel false walked with
    ⟨changed, loaded, finished, further⟩ |
      ⟨exception, failed, threw, kept, atLimit, inside, behind⟩
  · have reached :=
      supplyLoop_exit (pendingCalls_lt_supplyFuel queue) finished
    have answered := further.entryAt_of_reached reached
    have kept :
        Walked limit holds lists
          (if changed then loaded.publish else loaded) := by
      split
      · exact further.publish
      · exact further
    rw [getOrSupplyEntry_run finished, answered.1]
    exact ⟨kept, iff_of_true ⟨_, rfl⟩ answered.2⟩
  · have ran :
        (Queue.getOrSupplyEntry index).run queue =
          .error exception failed := by
      simp only [Queue.getOrSupplyEntry, EStateM.run_bind,
        EStateM.run_get, threw]
    rw [ran]
    refine ⟨kept, iff_of_false ?_ ?_⟩
    · intro given
      obtain ⟨_, answered⟩ := given
      cases answered
    · exact kept.not_inFront_of_atLimit inside atLimit (by omega)

end Walk

/-- Paged suppliers and suppliers over a sequence. -/
abbrev LimitedSupplier :=
  PagedQueueSupplier LibraryQuery ⊕ SequenceQueueSupplier

/-- The kinds of limited suppliers, with their items. -/
inductive LimitedListing where
  | paged (items : List QueueEntry) (pageSize : Nat)
      (positive : 0 < pageSize)
  | sequence (items : List QueueEntry) (size : Int)

namespace LimitedListing

def items : LimitedListing → List QueueEntry
  | .paged items _ _ => items
  | .sequence items _ => items

def supplier : LimitedListing → LimitedSupplier
  | .paged items pageSize _ => .inl (.ofSource ⟨items, 0⟩ pageSize)
  | .sequence items size => .inr (.ofItems items size)

end LimitedListing

/-- The supplier answers from the items. -/
def HoldsItems (items : List QueueEntry) : LimitedSupplier → Prop
  | .inl supplier => supplier.Buffers items
  | .inr supplier => supplier.Holds items

theorem holdsItems_supplier (listing : LimitedListing) :
    HoldsItems listing.items listing.supplier := by
  cases listing with
  | paged items pageSize positive =>
      exact ⟨rfl, positive, List.nil_prefix⟩
  | sequence items size =>
      exact List.nil_append items

theorem limited_holdsItems :
    Limited PagedQueueSupplier.MAX_SIZE HoldsItems where
  answers := by
    intro items supplier index holds early
    cases supplier with
    | inl supplier =>
        have buffers : supplier.Buffers items := holds
        obtain ⟨next, answered, kept, _⟩ := buffers.getItem early
        refine ⟨.inl next, ?_, kept⟩
        simp only [QueueSupplier.getItem, sumGetItem, EStateM.run]
          at answered ⊢
        rw [answered]
    | inr supplier =>
        have holds : supplier.Holds items := holds
        obtain ⟨next, answered, kept⟩ := holds.getItem early
        refine ⟨.inr next, ?_, kept⟩
        simp only [QueueSupplier.getItem, sumGetItem, EStateM.run]
          at answered ⊢
        rw [answered]
  refuses := by
    intro items supplier index holds late
    cases supplier with
    | inl supplier =>
        refine ⟨.illegalArgument, ?_⟩
        simp only [QueueSupplier.getItem, sumGetItem, EStateM.run,
          PagedQueueSupplier.getItem, if_pos late]
        rfl
    | inr supplier =>
        refine ⟨.illegalArgument, ?_⟩
        have late : SequenceQueueSupplier.MAX_SIZE ≤ index := late
        simp only [QueueSupplier.getItem, sumGetItem, EStateM.run,
          SequenceQueueSupplier.getItem, if_pos late]
        rfl

/-- A queue over the suppliers, before any call. -/
def queueWith (order : PlaybackOrder) (mode : RepeatMode) (random : Random)
    (listings : List LimitedListing) : QueueService LimitedSupplier :=
  { (QueueService.fresh order mode random : QueueService LimitedSupplier) with
    suppliers := listings.map LimitedListing.supplier }

/-- The queue after `getOrSupplyEntry(index)`, also if it throws. -/
def afterLoading {Supplier : Type} [QueueSupplier Supplier]
    (queue : QueueService Supplier) (index : Int) : QueueService Supplier :=
  finalState ((getOrSupplyEntry index).run queue)

theorem walked_queueWith (order : PlaybackOrder) (mode : RepeatMode)
    (random : Random) (listings : List LimitedListing) :
    Walked PagedQueueSupplier.MAX_SIZE HoldsItems
      (listings.map LimitedListing.items)
      (queueWith order mode random listings) where
  suppliers := by
    simp only [queueWith, List.forall₂_map_left_iff,
      List.forall₂_map_right_iff]
    exact List.forall₂_same.mpr fun listing _ => holdsItems_supplier listing
  inside := Nat.zero_le _
  past := by
    intro items member
    simp only [queueWith, QueueService.fresh, List.take_zero,
      List.not_mem_nil] at member
  drawn := Nat.zero_le _
  fetched := by
    simp [queueWith, QueueService.fresh]

theorem run_walked (order : PlaybackOrder) (mode : RepeatMode)
    (random : Random) (listings : List LimitedListing)
    (earlier : List Nat) :
    Walked PagedQueueSupplier.MAX_SIZE HoldsItems
      (listings.map LimitedListing.items)
      (run (fun queue index => afterLoading queue (index : Nat))
        (queueWith order mode random listings) earlier) := by
  refine run_preserves ?_ (walked_queueWith order mode random listings) earlier
  intro queue index walked
  exact (walked.getOrSupplyEntry limited_holdsItems index).1

/-- Over any paged suppliers and sequences, and after any earlier loads,
`getOrSupplyEntry(index)` answers with the entry of the lists cut off at
`MAX_SIZE` items exactly if the index is in front of the end of every supplier
with that many items. -/
theorem limited_suppliers_end_cleanly_iff (order : PlaybackOrder)
    (mode : RepeatMode) (random : Random) (listings : List LimitedListing)
    (earlier : List Nat) (index : Nat) :
    let queue :=
      run (fun queue index => afterLoading queue (index : Nat))
        (queueWith order mode random listings) earlier
    let lists := listings.map LimitedListing.items
    (∃ final,
        (getOrSupplyEntry index).run queue =
          .ok (truncated PagedQueueSupplier.MAX_SIZE lists)[index]?
            final) ↔
      ∀ before long after, lists = before ++ long :: after →
        PagedQueueSupplier.MAX_SIZE ≤ long.length →
          index <
            (truncated PagedQueueSupplier.MAX_SIZE before).length +
              PagedQueueSupplier.MAX_SIZE := by
  intro queue lists
  have walked := run_walked order mode random listings earlier
  exact (walked.getOrSupplyEntry limited_holdsItems index).2

/-- Behind a sequence of a hundred items the next supplier is never reached:
the call that looks for its first item throws. -/
theorem supplier_behind_limit_is_lost :
    ¬ ∃ final,
      (getOrSupplyEntry 100).run
          (queueWith .default .none (fun _ => 0)
            [.sequence (List.replicate 100 ⟨0⟩) 100,
              .sequence [⟨1⟩] 1]) =
        .ok
          (truncated PagedQueueSupplier.MAX_SIZE
            [List.replicate 100 ⟨0⟩, [⟨1⟩]])[100]?
          final := by
  intro answered
  have walked :=
    walked_queueWith .default .none (fun _ => 0)
      [.sequence (List.replicate 100 ⟨0⟩) 100, .sequence [⟨1⟩] 1]
  have inFront :=
    (walked.getOrSupplyEntry limited_holdsItems 100).2.mp answered
  have early :=
    inFront [] (List.replicate 100 ⟨0⟩) [[⟨1⟩]] rfl
      (List.length_replicate.ge)
  exact absurd early (by decide)

end JellyfinTv.Queue
