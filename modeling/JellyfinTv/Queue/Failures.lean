import JellyfinTv.Queue.Bounds
import JellyfinTv.Queue.Paged
import JellyfinTv.Queue.Rewind

/-!
# What a failed supply leaves behind

A supplier may throw after it has delivered some entries.  They stay in the
cache, but the loop that counted them is lost and nothing is published.  The
history, the prepared indices and the repeat mode have been written before the
first supplier is asked.
-/

namespace JellyfinTv.Queue

open QueueService Library

section Breaking

variable {Supplier : Type} [QueueSupplier Supplier]

/-- The suppliers, asked from an index of the first one on, deliver this many
entries and then throw. -/
inductive BreaksAfter : List Supplier → Nat → Nat → Prop
  | throws {supplier failed : Supplier} {exception : QueueException}
      (later : List Supplier) (index : Nat)
      (threw :
        (QueueSupplier.getItem index).run supplier =
          .error exception failed) :
      BreaksAfter (supplier :: later) index 0
  | delivers {supplier after : Supplier} {entry : QueueEntry}
      {later : List Supplier} {index count : Nat}
      (answered :
        (QueueSupplier.getItem index).run supplier =
          .ok (some entry) after)
      (rest : BreaksAfter (after :: later) (index + 1) count) :
      BreaksAfter (supplier :: later) index (count + 1)
  | exhausted {supplier after : Supplier} {later : List Supplier}
      {index count : Nat}
      (answered :
        (QueueSupplier.getItem index).run supplier = .ok none after)
      (rest : BreaksAfter later 0 count) :
      BreaksAfter (supplier :: later) index count

/-- The suppliers throw at one point only. -/
theorem BreaksAfter.unique {suppliers : List Supplier}
    {index first second : Nat}
    (breaks : BreaksAfter suppliers index first)
    (other : BreaksAfter suppliers index second) : first = second := by
  induction breaks generalizing second with
  | throws later index threw =>
      cases other with
      | throws _ _ _ =>
          rfl
      | delivers answered rest =>
          rw [threw] at answered
          cases answered
      | exhausted answered rest =>
          rw [threw] at answered
          cases answered
  | delivers answered rest inductionHypothesis =>
      cases other with
      | throws _ _ threw =>
          rw [threw] at answered
          cases answered
      | delivers same others =>
          rw [answered] at same
          cases same
          rw [inductionHypothesis others]
      | exhausted ended others =>
          rw [answered] at ended
          cases ended
  | exhausted answered rest inductionHypothesis =>
      cases other with
      | throws _ _ threw =>
          rw [threw] at answered
          cases answered
      | delivers same others =>
          rw [answered] at same
          cases same
      | exhausted ended others =>
          exact inductionHypothesis others

end Breaking

namespace QueueService

variable {Supplier : Type} [QueueSupplier Supplier]

/-- The suppliers of the queue deliver `count` more entries and then throw. -/
def Breaks (queue : QueueService Supplier) (count : Nat) : Prop :=
  BreaksAfter (queue.suppliers.drop queue.currentSupplierIndex)
    queue.currentSupplierEntryIndex count

/-- One more answered call moves the throw closer. -/
theorem breaks_of_answered {queue asked : QueueService Supplier}
    {supplier : Supplier} {item : Option QueueEntry} {count : Nat}
    (current :
      queue.suppliers[queue.currentSupplierIndex]? = some supplier)
    (answered : (askSupplier supplier).run queue = .ok item asked)
    (breaks : (asked.acceptItem item).Breaks count) :
    queue.Breaks (count + item.toList.length) := by
  rw [askSupplier_run] at answered
  split at answered
  · rename_i reply after call
    cases answered
    cases item with
    | none =>
        simp only [Breaks, acceptItem, storeSupplier_currentSupplierIndex,
          drop_succ_storeSupplier] at breaks
        rw [Breaks, drop_current current]
        exact .exhausted call breaks
    | some entry =>
        simp only [Breaks, acceptItem, storeSupplier_currentSupplierIndex,
          drop_storeSupplier current,
          storeSupplier_currentSupplierEntryIndex] at breaks
        rw [Breaks, drop_current current]
        exact .delivers call breaks
  · cases answered

theorem breaks_of_thrown {queue failed : QueueService Supplier}
    {supplier : Supplier} {exception : QueueException}
    (current :
      queue.suppliers[queue.currentSupplierIndex]? = some supplier)
    (threw : (askSupplier supplier).run queue = .error exception failed) :
    queue.Breaks 0 ∧ failed.fetchedEntries = queue.fetchedEntries ∧
      failed.entries = queue.entries := by
  rw [askSupplier_run] at threw
  split at threw
  · cases threw
  · rename_i call
    cases threw
    rw [Breaks, drop_current current]
    exact ⟨.throws _ _ call, rfl, rfl⟩

omit [QueueSupplier Supplier] in
theorem length_acceptItem (queue : QueueService Supplier)
    (item : Option QueueEntry) :
    (queue.acceptItem item).fetchedEntries.length =
      queue.fetchedEntries.length + item.toList.length := by
  cases item <;> simp [acceptItem]

theorem entries_of_answered {queue asked : QueueService Supplier}
    {supplier : Supplier} {item : Option QueueEntry}
    (answered : (askSupplier supplier).run queue = .ok item asked) :
    (asked.acceptItem item).entries = queue.entries := by
  rw [askSupplier_run] at answered
  split at answered
  · cases answered
    cases item <;> rfl
  · cases answered

/-- A loop that throws has loaded what the suppliers had left to deliver, no
more than it was asked for, and has published nothing. -/
theorem supplyLoop_throws {index : Int} {fuel : Nat} {changed : Bool}
    {queue failed : QueueService Supplier} {exception : QueueException}
    (threw :
      (supplyLoop index fuel changed).run queue =
        .error exception failed) :
    ∃ count, queue.Breaks count ∧
      failed.fetchedEntries.length =
        queue.fetchedEntries.length + count ∧
      (failed.fetchedEntries.length : Int) ≤ index ∧
      failed.entries = queue.entries := by
  induction fuel generalizing queue changed with
  | zero =>
      cases threw
  | succ fuel inductionHypothesis =>
      rw [supplyLoop_succ] at threw
      split at threw
      · cases threw
      rename_i missing
      split at threw
      · cases threw
      rename_i supplier current
      split at threw
      · rename_i item asked answered
        obtain ⟨count, breaks, loaded, inside, same⟩ :=
          inductionHypothesis threw
        refine
          ⟨count + item.toList.length,
            breaks_of_answered current answered breaks, ?_, inside,
            same.trans (entries_of_answered answered)⟩
        rw [loaded, length_acceptItem, askSupplier_fetched answered]
        omega
      · rename_i thrown asked failing
        cases threw
        obtain ⟨breaks, fetched, same⟩ := breaks_of_thrown current failing
        exact
          ⟨0, breaks, by rw [fetched]; rfl, by rw [fetched]; omega, same⟩

/-- What a loop that returns has loaded was in front of the throw; it tells
whether it has loaded anything. -/
theorem supplyLoop_returns {index : Int} {fuel : Nat}
    {changed answer : Bool} {queue loaded : QueueService Supplier}
    (returned :
      (supplyLoop index fuel changed).run queue = .ok answer loaded) :
    (∀ count, loaded.Breaks count → ∃ further,
      queue.Breaks (count + further) ∧
        loaded.fetchedEntries.length =
          queue.fetchedEntries.length + further) ∧
      loaded.entries = queue.entries ∧
      (answer = false →
        changed = false ∧ loaded.fetchedEntries = queue.fetchedEntries) := by
  induction fuel generalizing queue changed with
  | zero =>
      cases returned
      exact
        ⟨fun count breaks => ⟨0, breaks, rfl⟩, rfl,
          fun idle => ⟨idle, rfl⟩⟩
  | succ fuel inductionHypothesis =>
      rw [supplyLoop_succ] at returned
      split at returned
      · cases returned
        exact
          ⟨fun count breaks => ⟨0, breaks, rfl⟩, rfl,
            fun idle => ⟨idle, rfl⟩⟩
      split at returned
      · cases returned
        exact
          ⟨fun count breaks => ⟨0, breaks, rfl⟩, rfl,
            fun idle => ⟨idle, rfl⟩⟩
      rename_i supplier current
      split at returned
      · rename_i item asked answered
        obtain ⟨delivered, same, unchanged⟩ := inductionHypothesis returned
        refine
          ⟨fun count breaks => ?_,
            same.trans (entries_of_answered answered), fun idle => ?_⟩
        · obtain ⟨further, earlier, grown⟩ := delivered count breaks
          have moved := breaks_of_answered current answered earlier
          rw [Nat.add_assoc] at moved
          refine ⟨further + item.toList.length, moved, ?_⟩
          rw [grown, length_acceptItem, askSupplier_fetched answered]
          omega
        · obtain ⟨nothing, fetched⟩ := unchanged idle
          obtain ⟨before, absent⟩ := Bool.or_eq_false_iff.mp nothing
          have skipped : item = none := by
            cases item with
            | none => rfl
            | some entry => cases absent
          subst skipped
          have asks := askSupplier_fetched answered
          rw [← asks]
          exact ⟨before, fetched⟩
      · cases returned

/-! ## Single entries -/

/-- The published entries are the loaded ones. -/
def PublishesAll (queue : QueueService Supplier) : Prop :=
  queue.entries = queue.fetchedEntries

theorem not_breaks_of_exhausted {queue : QueueService Supplier}
    (exhausted : queue.suppliers[queue.currentSupplierIndex]? = none)
    (count : Nat) : ¬ queue.Breaks count := by
  intro breaks
  have none : queue.suppliers.drop queue.currentSupplierIndex = [] :=
    List.drop_eq_nil_iff.mpr (List.getElem?_eq_none_iff.mp exhausted)
  rw [Breaks, none] at breaks
  cases breaks

/-- A failed `getOrSupplyEntry` leaves the entries that were delivered before
the throw in the cache and publishes nothing. -/
theorem getOrSupplyEntry_throws {index : Int}
    {queue failed : QueueService Supplier} {exception : QueueException}
    (threw :
      (getOrSupplyEntry index).run queue = .error exception failed) :
    ∃ count, queue.Breaks count ∧
      failed.fetchedEntries.length =
        queue.fetchedEntries.length + count ∧
      (failed.fetchedEntries.length : Int) ≤ index ∧
      failed.entries = queue.entries := by
  cases finished :
      (supplyLoop index queue.supplyFuel false).run queue with
  | ok changed loaded =>
      rw [getOrSupplyEntry_run finished] at threw
      cases threw
  | error thrown loaded =>
      rw [getOrSupplyEntry_run_error finished] at threw
      cases threw
      exact supplyLoop_throws finished

theorem getOrSupplyEntry_finishes {index : Int}
    {queue loaded : QueueService Supplier} {entry : Option QueueEntry}
    (returned : (getOrSupplyEntry index).run queue = .ok entry loaded) :
    ∃ changed final,
      (supplyLoop index queue.supplyFuel false).run queue =
          .ok changed final ∧
        loaded = if changed then final.publish else final := by
  cases finished :
      (supplyLoop index queue.supplyFuel false).run queue with
  | error thrown final =>
      rw [getOrSupplyEntry_run_error finished] at returned
      cases returned
  | ok changed final =>
      rw [getOrSupplyEntry_run finished] at returned
      injection returned with _ same
      exact ⟨changed, final, rfl, same.symm⟩

/-- One that returns publishes what it has loaded. -/
theorem getOrSupplyEntry_publishes {index : Int}
    {queue loaded : QueueService Supplier} {entry : Option QueueEntry}
    (returned : (getOrSupplyEntry index).run queue = .ok entry loaded)
    (published : queue.PublishesAll) : loaded.PublishesAll := by
  obtain ⟨changed, final, finished, rfl⟩ :=
    getOrSupplyEntry_finishes returned
  obtain ⟨_, sameEntries, idle⟩ := supplyLoop_returns finished
  cases changed with
  | true =>
      rfl
  | false =>
      rw [if_neg (by decide), PublishesAll, sameEntries, (idle rfl).2]
      exact published

/-- If the suppliers break later, it has loaded exactly up to the index, if
anything. -/
theorem getOrSupplyEntry_returns {index : Int}
    {queue loaded : QueueService Supplier} {entry : Option QueueEntry}
    (returned : (getOrSupplyEntry index).run queue = .ok entry loaded)
    {count : Nat} (breaks : loaded.Breaks count) :
    ∃ further, queue.Breaks (count + further) ∧
      loaded.fetchedEntries.length =
        queue.fetchedEntries.length + further ∧
      index < loaded.fetchedEntries.length ∧
      (0 < further →
        (loaded.fetchedEntries.length : Int) = index + 1) := by
  obtain ⟨changed, final, finished, rfl⟩ :=
    getOrSupplyEntry_finishes returned
  have fetched :
      (if changed then final.publish else final).fetchedEntries =
        final.fetchedEntries := by
    split <;> rfl
  have later : final.Breaks count := by
    split at breaks <;> exact breaks
  obtain ⟨delivered, _, _⟩ := supplyLoop_returns finished
  obtain ⟨further, earlier, grown⟩ := delivered count later
  have bounded := supplyLoop_bounded finished
  have reached :=
    (supplyLoop_exit (pendingCalls_lt_supplyFuel queue)
      finished).resolve_right fun exhausted =>
        not_breaks_of_exhausted exhausted count later
  rw [fetched]
  exact ⟨further, earlier, grown, reached, by omega⟩

/-- After a failed `getOrSupplyEntry` the published entries are the loaded ones
only if nothing was delivered before the throw. -/
theorem publishesAll_of_thrown_iff {index : Int}
    {queue failed : QueueService Supplier} {exception : QueueException}
    (threw :
      (getOrSupplyEntry index).run queue = .error exception failed)
    (published : queue.PublishesAll) {count : Nat}
    (breaks : queue.Breaks count) : failed.PublishesAll ↔ count = 0 := by
  obtain ⟨delivered, breaksThere, grown, _, same⟩ :=
    getOrSupplyEntry_throws threw
  obtain rfl : delivered = count := BreaksAfter.unique breaksThere breaks
  have draws : Draws queue failed := by
    have respects :
        Respects Draws
          (getOrSupplyEntry index :
            QueueM Supplier (Option QueueEntry)) :=
      Queue.respects_getOrSupplyEntry index
    have drawn := respects queue
    rwa [threw] at drawn
  rw [PublishesAll, same, published]
  constructor
  · intro equal
    have lengths := congrArg List.length equal
    omega
  · intro none
    exact draws.fetched.eq_of_length (by omega)

/-! ## Peeking at several entries -/

/-- A failed peek has loaded everything in front of the throw; all of it is
published if the throw was next, or if the last entry in front of it has been
asked for before the first missing one. -/
theorem supplyEntries_throws {indices : List Int}
    {queue failed : QueueService Supplier} {exception : QueueException}
    (threw :
      (supplyEntries indices).run queue = .error exception failed)
    (published : queue.PublishesAll) :
    ∃ count, queue.Breaks count ∧
      (failed.PublishesAll ↔
        count = 0 ∨
          (queue.fetchedEntries.length : Int) + count - 1 ∈
            indices.takeWhile fun index =>
              index < (queue.fetchedEntries.length : Int) + count) := by
  induction indices generalizing queue with
  | nil =>
      cases threw
  | cons index rest inductionHypothesis =>
      simp only [supplyEntries, EStateM.run_bind] at threw
      cases supplied : (getOrSupplyEntry index).run queue with
      | error thrown final =>
          rw [supplied] at threw
          cases threw
          obtain ⟨count, breaks, grown, inside, _⟩ :=
            getOrSupplyEntry_throws supplied
          have missing :
              ¬ index < (queue.fetchedEntries.length : Int) + count := by
            omega
          refine ⟨count, breaks, ?_⟩
          rw [List.takeWhile_cons_of_neg (by simpa using missing),
            publishesAll_of_thrown_iff supplied published breaks]
          simp only [List.not_mem_nil, or_false]
      | ok entry loaded =>
          rw [supplied] at threw
          simp only at threw
          cases others : (supplyEntries rest).run loaded with
          | ok entries final =>
              rw [others] at threw
              cases threw
          | error thrown final =>
              rw [others] at threw
              cases threw
              obtain ⟨count, later, publishes⟩ :=
                inductionHypothesis others
                  (getOrSupplyEntry_publishes supplied published)
              obtain ⟨further, breaks, grown, reached, exactly⟩ :=
                getOrSupplyEntry_returns supplied later
              have total :
                  (loaded.fetchedEntries.length : Int) + count =
                    (queue.fetchedEntries.length : Int) +
                      ((count + further : Nat) : Int) := by
                omega
              have present :
                  index < (queue.fetchedEntries.length : Int) +
                    ((count + further : Nat) : Int) := by
                omega
              refine ⟨count + further, breaks, ?_⟩
              rw [publishes, total,
                List.takeWhile_cons_of_pos (by simpa using present),
                List.mem_cons]
              constructor
              · intro either
                rcases either with atThrow | earlier
                · by_cases none : further = 0
                  · exact Or.inl (by omega)
                  · have last := exactly (Nat.pos_of_ne_zero none)
                    exact Or.inr (Or.inl (by omega))
                · exact Or.inr (Or.inr earlier)
              · intro either
                rcases either with none | last | earlier
                · exact Or.inl (by omega)
                · exact Or.inl (by omega)
                · exact Or.inr earlier

/-- The place in the queue and the order provider are the same. -/
structure Untouched (before after : QueueService Supplier) : Prop
    extends SamePlace before after where
  provider : after.orderIndexProvider = before.orderIndexProvider

omit [QueueSupplier Supplier] in
instance : IsPreorder (QueueService Supplier) Untouched where
  refl _ := ⟨⟨rfl, rfl, rfl⟩, rfl⟩
  trans _ _ _ first second :=
    ⟨⟨second.entryIndex.trans first.entryIndex,
        second.entry.trans first.entry,
        second.history.trans first.history⟩,
      second.provider.trans first.provider⟩

omit [QueueSupplier Supplier] in
instance : Fetching (@Untouched Supplier) where
  stores _ _ := ⟨⟨rfl, rfl, rfl⟩, rfl⟩
  accepts queue item := by
    cases item <;> exact ⟨⟨rfl, rfl, rfl⟩, rfl⟩
  publishes _ := ⟨⟨rfl, rfl, rfl⟩, rfl⟩

/-- The call throws while it loads an entry from a supplier. -/
def SupplyThrows (queue : QueueService Supplier) :
    Operation Supplier → Prop
  | .setIndex index saveHistory =>
      ∃ exception failed,
        (setIndex index saveHistory).run queue = .error exception failed
  | .next usePlaybackOrder useRepeatMode =>
      ∃ index selected exception failed,
        (chooseNext usePlaybackOrder useRepeatMode).run queue =
            .ok (some index) selected ∧
          (setIndex index true).run selected = .error exception failed
  | .previous =>
      ∃ exception failed, previous.run queue = .error exception failed
  | .peekNext amount usePlaybackOrder useRepeatMode =>
      ∃ indices selected exception failed,
        (getNextIndices amount usePlaybackOrder useRepeatMode).run queue =
            .ok indices selected ∧
          (supplyEntries indices).run selected = .error exception failed
  | .peekPrevious =>
      ∃ exception failed, peekPrevious.run queue = .error exception failed
  | _ => False

/-- The cursor, the current entry, the history and the prepared indices are as
before the call, and what is published still is what is loaded. -/
structure LeavesIntact (queue : QueueService Supplier)
    (operation : Operation Supplier) : Prop where
  entryIndex : (step queue operation).entryIndex = queue.entryIndex
  entry : (step queue operation).entry = queue.entry
  history :
    (step queue operation).currentQueueIndicesPlayed =
      queue.currentQueueIndicesPlayed
  prepared :
    (step queue operation).orderIndexProvider.nextIndices =
      queue.orderIndexProvider.nextIndices
  published :
    queue.PublishesAll → (step queue operation).PublishesAll

/-- A failed jump has saved the history and loaded entries. -/
theorem setIndex_throws {index : Int} {saveHistory : Bool}
    {queue failed : QueueService Supplier} {exception : QueueException}
    (threw :
      (setIndex index saveHistory).run queue = .error exception failed) :
    (getOrSupplyEntry index).run (saveCurrentIndex saveHistory queue) =
        .error exception failed ∧
      Untouched (saveCurrentIndex saveHistory queue) failed := by
  have failing :
      (getOrSupplyEntry index).run (saveCurrentIndex saveHistory queue) =
        .error exception failed := by
    by_cases rejected : index < 0 ∧ index ≠ INDEX_NONE
    · rw [setIndex, if_pos rejected] at threw
      cases threw
    · simp only [setIndex, if_neg rejected, EStateM.run_bind,
        EStateM.run_modify] at threw
      cases supplied :
          (getOrSupplyEntry index).run
            (saveCurrentIndex saveHistory queue) with
      | ok entry loaded =>
          rw [supplied] at threw
          cases threw
      | error thrown loaded =>
          rw [supplied] at threw
          exact threw
  have respects :
      Respects Untouched
        (getOrSupplyEntry index : QueueM Supplier (Option QueueEntry)) :=
    Queue.respects_getOrSupplyEntry index
  have untouched := respects (saveCurrentIndex saveHistory queue)
  rw [failing] at untouched
  exact ⟨failing, untouched⟩

/-- The next call of a supplier throws, unless the cache was not published
before. -/
def ThrowsAtOnce (queue : QueueService Supplier) : Prop :=
  queue.PublishesAll → queue.Breaks 0

omit [QueueSupplier Supplier] in
theorem saveCurrentIndex_keeps (saveHistory : Bool)
    (queue : QueueService Supplier) :
    saveCurrentIndex saveHistory queue =
      { queue with
        currentQueueIndicesPlayed :=
          (saveCurrentIndex saveHistory queue).currentQueueIndicesPlayed } := by
  unfold saveCurrentIndex
  split <;> rfl

omit [QueueSupplier Supplier] in
theorem saveCurrentIndex_history_iff {saveHistory : Bool}
    {queue : QueueService Supplier} :
    (saveCurrentIndex saveHistory queue).currentQueueIndicesPlayed =
        queue.currentQueueIndicesPlayed ↔
      ¬ (saveHistory = true ∧ queue.entryIndex ≠ INDEX_NONE) := by
  unfold saveCurrentIndex
  split
  · rename_i saves
    refine iff_of_false ?_ fun kept => kept saves
    intro same
    have lengths := congrArg List.length same
    simp at lengths
  · rename_i kept
    exact iff_of_true rfl kept

/-- After a failed jump: the cursor and the entry stay, the history stays
unless the current index is saved, and the published entries stay the loaded
ones if the throw was next. -/
theorem thrown_jump {index : Int} {saveHistory : Bool}
    {queue failed : QueueService Supplier} {exception : QueueException}
    (threw :
      (setIndex index saveHistory).run queue = .error exception failed) :
    (failed.entryIndex = queue.entryIndex ∧ failed.entry = queue.entry) ∧
      (failed.currentQueueIndicesPlayed = queue.currentQueueIndicesPlayed ↔
        ¬ (saveHistory = true ∧ queue.entryIndex ≠ INDEX_NONE)) ∧
      failed.orderIndexProvider = queue.orderIndexProvider ∧
      ((queue.PublishesAll → failed.PublishesAll) ↔
        queue.ThrowsAtOnce) := by
  obtain ⟨failing, untouched⟩ := setIndex_throws threw
  obtain ⟨count, breaks, _⟩ := getOrSupplyEntry_throws failing
  have publishes := fun published =>
    publishesAll_of_thrown_iff failing published breaks
  have entryIndex := untouched.entryIndex
  have entry := untouched.entry
  have provider := untouched.provider
  rw [untouched.history, saveCurrentIndex_history_iff]
  rw [saveCurrentIndex_keeps] at entryIndex entry provider breaks publishes
  refine ⟨⟨entryIndex, entry⟩, Iff.rfl, provider, ?_⟩
  refine forall_congr' fun published => ?_
  rw [publishes published]
  constructor
  · rintro rfl
    exact breaks
  · exact fun atOnce => BreaksAfter.unique breaks atOnce

theorem next_run_of_throws {queue selected failed : QueueService Supplier}
    {usePlaybackOrder useRepeatMode : Bool} {index : Int}
    {exception : QueueException}
    (chooses :
      (chooseNext usePlaybackOrder useRepeatMode).run queue =
        .ok (some index) selected)
    (threw :
      (setIndex index true).run selected = .error exception failed) :
    (next usePlaybackOrder useRepeatMode).run queue =
      .error exception failed := by
  rw [next_run_choice, chooses]
  exact threw

/-- In a repeat mode `next` asks no supplier. -/
theorem mode_of_throws {queue failed : QueueService Supplier}
    {usePlaybackOrder useRepeatMode : Bool} {exception : QueueException}
    (inRange : queue.InRange)
    (threw :
      (next usePlaybackOrder useRepeatMode).run queue =
        .error exception failed) :
    queue.effectiveRepeatMode useRepeatMode = .none := by
  by_contra repeating
  obtain ⟨selected, selects, ran⟩ :
      ∃ selected, Selects queue selected ∧
        (next usePlaybackOrder useRepeatMode).run queue =
          (setIndex queue.entryIndex true).run selected :=
    next_repeating repeating
  rw [ran] at threw
  obtain ⟨failing, _⟩ := setIndex_throws threw
  have below := inRange.below
  have cached :
      queue.entryIndex <
        (saveCurrentIndex true selected).fetchedEntries.length := by
    rw [saveCurrentIndex_keeps, selects.frame]
    exact below
  rw [getOrSupplyEntry_cached cached] at failing
  cases failing

theorem chooseNext_runs {queue selected : QueueService Supplier}
    {usePlaybackOrder useRepeatMode : Bool} {index : Int}
    (chooses :
      (chooseNext usePlaybackOrder useRepeatMode).run queue =
        .ok (some index) selected) :
    ∃ rest computed,
      (getNextIndices 1 usePlaybackOrder useRepeatMode).run queue =
          .ok (index :: rest) computed ∧
        (consumeIndex index usePlaybackOrder useRepeatMode).run computed =
          .ok () selected := by
  obtain ⟨indices, computed, picked, chosen⟩ := exists_of_run_bind chooses
  cases indices with
  | nil =>
      cases chosen
  | cons first rest =>
      obtain ⟨_, final, consumed, returned⟩ := exists_of_run_bind chosen
      cases returned
      exact ⟨rest, computed, picked, consumed⟩

theorem chooseNext_selects {queue selected : QueueService Supplier}
    {usePlaybackOrder useRepeatMode : Bool} {index : Int}
    (chooses :
      (chooseNext usePlaybackOrder useRepeatMode).run queue =
        .ok (some index) selected) : Selects queue selected := by
  obtain ⟨rest, computed, picked, consumed⟩ := chooseNext_runs chooses
  have picks :=
    respects_getNextIndices 1 usePlaybackOrder useRepeatMode queue
  have consumes :=
    respects_consumeIndex index usePlaybackOrder useRepeatMode computed
  rw [picked, finalState_ok] at picks
  rw [consumed, finalState_ok] at consumes
  exact IsTrans.trans _ _ _ picks consumes

/-- Before it jumps, `next` has used up a prepared index or drawn one and
dropped it. -/
theorem chosen_prepared_iff {queue selected : QueueService Supplier}
    {usePlaybackOrder useRepeatMode : Bool} {index : Int}
    (mode : queue.effectiveRepeatMode useRepeatMode = .none)
    (chooses :
      (chooseNext usePlaybackOrder useRepeatMode).run queue =
        .ok (some index) selected) :
    selected.orderIndexProvider.nextIndices =
        queue.orderIndexProvider.nextIndices ↔
      (queue.provider usePlaybackOrder).nextIndices = [] := by
  obtain ⟨rest, computed, picked, consumed⟩ := chooseNext_runs chooses
  have sameMode := mode_of_computed picked
  rw [mode] at sameMode
  rw [consumeIndex_run_none sameMode] at consumed
  obtain ⟨kept, rfl, holds⟩ := computed_holds picked mode
  cases usePlaybackOrder with
  | false =>
      cases consumed
      exact iff_of_true rfl rfl
  | true =>
      simp only [useNextIndex, EStateM.run] at consumed
      split at consumed
      · rename_i used outcome
        cases consumed
        obtain ⟨_, dropped⟩ := OrderIndexProvider.useNextIndex_spec outcome
        have stored :
            ((queue.storeSource true kept).storeProvider true
                used).orderIndexProvider.nextIndices =
              ((queue.provider true).withNextIndices
                kept.nextIndices).nextIndices.tail := dropped
        have same :
            queue.orderIndexProvider = queue.provider true := rfl
        rw [stored, same]
        by_cases default : queue.provider true = .default
        · rw [default]
          exact iff_of_true rfl rfl
        · rw [OrderIndexProvider.nextIndices_withNextIndices default]
          exact (holds.resolve_left default).tail_eq_iff
      · cases consumed

/-- The provider answers with `amount` indices without drawing one. -/
def DrawsNothing (queue : QueueService Supplier) (amount : Int) :
    OrderIndexProvider → Prop
  | .default => True
  | .random prepared => amount ≤ prepared.length
  | .shuffle prepared =>
      amount ≤ 0 ∨
        queue.estimatedSize - queue.currentQueueIndicesPlayed.length ≤ 0 ∨
        min amount
            (queue.estimatedSize - queue.currentQueueIndicesPlayed.length) <
          prepared.length

/-- What it then answers. -/
def heldIndices (queue : QueueService Supplier) (amount : Int) :
    OrderIndexProvider → List Int
  | .default => upcoming amount queue.estimatedSize queue.entryIndex
  | .random prepared => prepared.take amount.toNat
  | .shuffle prepared =>
      prepared.take
        (min amount
          (queue.estimatedSize -
            queue.currentQueueIndicesPlayed.length)).toNat

/-- A peek at `amount` entries draws no index. -/
def PeeksAtHeld (queue : QueueService Supplier) (amount : Int)
    (usePlaybackOrder useRepeatMode : Bool) : Prop :=
  match queue.effectiveRepeatMode useRepeatMode with
  | .none => queue.DrawsNothing amount (queue.provider usePlaybackOrder)
  | .repeatEntryOnce =>
      queue.DrawsNothing (amount - 1) (queue.provider usePlaybackOrder)
  | .repeatEntryInfinite => True

/-- The indices of a peek that draws none. -/
def peekedIndices (queue : QueueService Supplier) (amount : Int)
    (usePlaybackOrder useRepeatMode : Bool) : List Int :=
  match queue.effectiveRepeatMode useRepeatMode with
  | .none => queue.heldIndices amount (queue.provider usePlaybackOrder)
  | .repeatEntryOnce =>
      queue.entryIndex ::
        queue.heldIndices (amount - 1) (queue.provider usePlaybackOrder)
  | .repeatEntryInfinite => List.replicate amount.toNat queue.entryIndex

theorem randomIndexAt_reaches {size : Int} {position : Nat}
    {source kept : IndexSource} {index : Int}
    (inside : position ≤ source.nextIndices.length)
    (drawn :
      (RandomOrderIndexProvider.indexAt size position).run source =
        .ok index kept) :
    position + 1 ≤ kept.nextIndices.length := by
  simp only [RandomOrderIndexProvider.indexAt, EStateM.run_bind,
    EStateM.run_get] at drawn
  cases found : source.nextIndices[position]? with
  | some held =>
      rw [found] at drawn
      cases drawn
      exact (List.getElem?_eq_some_iff.mp found).1
  | none =>
      rw [found] at drawn
      by_cases positive : 0 < size
      · simp only [EStateM.run_bind, nextInt_run positive] at drawn
        cases drawn
        simpa using inside
      · simp only [EStateM.run_bind,
          nextInt_run_of_empty (Int.not_lt.mp positive)] at drawn
        cases drawn

/-- After an answer the random provider holds at least as many indices. -/
theorem collectFrom_reaches {size : Int} {count : Nat} :
    ∀ {start : Nat} {source kept : IndexSource} {indices : List Int},
      start ≤ source.nextIndices.length →
        (collectFrom (RandomOrderIndexProvider.indexAt size) start
            count).run source = .ok indices kept →
          start + count ≤ kept.nextIndices.length := by
  induction count with
  | zero =>
      intro start source kept indices inside collected
      cases collected
      exact inside
  | succ count inductionHypothesis =>
      intro start source kept indices inside collected
      obtain ⟨index, drawn, rest, first, others, _⟩ :=
        collectFrom_succ collected
      have further :=
        inductionHypothesis (randomIndexAt_reaches inside first) others
      omega

theorem random_held {size : Int} {amount : Nat} {indices : List Int}
    {source kept : IndexSource}
    (answered :
      (RandomOrderIndexProvider.provideIndices amount size).run source =
        .ok indices kept) :
    (amount ≤ source.nextIndices.length →
        indices = source.nextIndices.take amount ∧ kept = source) ∧
      (kept.nextIndices = source.nextIndices →
        amount ≤ source.nextIndices.length) := by
  constructor
  · intro enough
    rw [randomProvider_run (Or.inr enough)] at answered
    simp only [prepare_of_le enough,
      Nat.sub_eq_zero_of_le enough] at answered
    injection answered with sameIndices sameSource
    exact ⟨sameIndices.symm, sameSource.symm⟩
  · intro same
    rw [RandomOrderIndexProvider.provideIndices,
      collectIndices_run] at answered
    have reached := collectFrom_reaches (Nat.zero_le _) answered
    rw [same] at reached
    omega

theorem shuffle_held {size : Int} {playedIndices indices : List Int}
    {amount : Nat} {source kept : IndexSource}
    (answered :
      (ShuffleOrderIndexProvider.provideIndices amount size
        playedIndices).run source = .ok indices kept) :
    ((amount : Int) ≤ 0 ∨ size - playedIndices.length ≤ 0 ∨
        min (amount : Int) (size - playedIndices.length) <
          source.nextIndices.length →
      indices =
          source.nextIndices.take
            (min (amount : Int) (size - playedIndices.length)).toNat ∧
        kept = source) ∧
      (kept.nextIndices = source.nextIndices →
        (amount : Int) ≤ 0 ∨ size - playedIndices.length ≤ 0 ∨
          min (amount : Int) (size - playedIndices.length) <
            source.nextIndices.length) := by
  by_cases ended : size - playedIndices.length ≤ 0
  · rw [shuffleProvider_run_ended ended] at answered
    cases answered
    refine ⟨fun _ => ⟨?_, rfl⟩, fun _ => Or.inr (Or.inl ended)⟩
    rw [show (min (amount : Int)
      (size - playedIndices.length)).toNat = 0 by omega, List.take_zero]
  by_cases none : amount = 0
  · subst none
    have ran :=
      provideIndices_zero_run (.shuffle []) size playedIndices 0 source
    have same := answered.symm.trans ran
    injection same with sameIndices sameSource
    refine ⟨fun _ => ⟨?_, sameSource⟩, fun _ => Or.inl (by omega)⟩
    rw [sameIndices, show (min ((0 : Nat) : Int)
      (size - playedIndices.length)).toNat = 0 by omega, List.take_zero]
  obtain ⟨count, counted⟩ :
      ∃ count : Nat,
        min (amount : Int) (size - playedIndices.length) = count :=
    Int.eq_ofNat_of_zero_le (by omega)
  have more := Int.not_le.mp ended
  rw [counted, Int.toNat_natCast]
  by_cases before : count < source.nextIndices.length
  · rw [shuffleProvider_run_prepared more counted before] at answered
    cases answered
    exact ⟨fun _ => ⟨rfl, rfl⟩, fun _ => Or.inr (Or.inr (by omega))⟩
  · have nonempty :
        ShuffleOrderIndexProvider.remainingIndices size playedIndices
          source.nextIndices ≠ [] :=
      remainingIndices_ne_nil (by omega)
    obtain ⟨grown, ran, longer⟩ :=
      shuffleProvider_run more counted nonempty
    rw [ran] at answered
    cases answered
    refine ⟨fun few => by omega, fun same => ?_⟩
    rw [same] at longer
    omega

/-- The provider keeps its indices exactly if it need not draw, and then
answers with what it holds. -/
theorem provided_held {queue : QueueService Supplier}
    {usePlaybackOrder : Bool} {amount : Nat} {indices : List Int}
    {kept : IndexSource}
    (answered :
      (queue.provided usePlaybackOrder amount).run
        (queue.source usePlaybackOrder) = .ok indices kept) :
    (queue.provider usePlaybackOrder = .default ∨
        kept.nextIndices =
          (queue.provider usePlaybackOrder).nextIndices ↔
      queue.DrawsNothing amount (queue.provider usePlaybackOrder)) ∧
    (queue.DrawsNothing amount (queue.provider usePlaybackOrder) →
      indices =
        queue.heldIndices amount (queue.provider usePlaybackOrder)) := by
  have held :
      (queue.source usePlaybackOrder).nextIndices =
        (queue.provider usePlaybackOrder).nextIndices := rfl
  rw [provided] at answered
  cases chosen : queue.provider usePlaybackOrder with
  | default =>
      rw [chosen] at answered
      have ran :=
        defaultProvider_run (Int.natCast_nonneg amount) queue.estimatedSize
          queue.entryIndex (queue.source usePlaybackOrder)
      have same := answered.symm.trans ran
      injection same with sameIndices _
      exact ⟨iff_of_true (Or.inl rfl) trivial, fun _ => sameIndices⟩
  | random prepared =>
      rw [chosen] at answered held
      obtain ⟨answers, draws⟩ := random_held answered
      rw [held] at answers draws
      refine ⟨⟨?_, fun enough => Or.inr ?_⟩, fun enough => ?_⟩
      · intro either
        rcases either with drawing | same
        · cases drawing
        · exact Int.ofNat_le.mpr (draws same)
      · rw [(answers (Int.ofNat_le.mp enough)).2, held]
      · exact (answers (Int.ofNat_le.mp enough)).1
  | shuffle prepared =>
      rw [chosen] at answered held
      obtain ⟨answers, draws⟩ := shuffle_held answered
      rw [held] at answers draws
      refine ⟨⟨?_, fun enough => Or.inr ?_⟩, fun enough => ?_⟩
      · intro either
        rcases either with drawing | same
        · cases drawing
        · exact draws same
      · rw [(answers enough).2, held]
      · exact (answers enough).1

omit [QueueSupplier Supplier] in
theorem stored_prepared_iff (queue : QueueService Supplier)
    (usePlaybackOrder : Bool) (kept : IndexSource) :
    (queue.storeSource usePlaybackOrder
          kept).orderIndexProvider.nextIndices =
        queue.orderIndexProvider.nextIndices ↔
      queue.provider usePlaybackOrder = .default ∨
        kept.nextIndices = (queue.provider usePlaybackOrder).nextIndices := by
  cases usePlaybackOrder with
  | false =>
      exact iff_of_true rfl (Or.inl rfl)
  | true =>
      have stored :
          (queue.storeSource true kept).orderIndexProvider =
            queue.orderIndexProvider.withNextIndices kept.nextIndices := rfl
      have provider : queue.provider true = queue.orderIndexProvider := rfl
      rw [stored, provider]
      by_cases default : queue.orderIndexProvider = .default
      · rw [default]
        exact iff_of_true rfl (Or.inl rfl)
      · rw [OrderIndexProvider.nextIndices_withNextIndices default,
          or_iff_right default]

/-- Without an amount there are no indices. -/
theorem provideIndices_nonpos {provider : OrderIndexProvider}
    {amount size currentIndex : Int} {playedIndices indices : List Int}
    {source kept : IndexSource} (few : amount ≤ 0)
    (answered :
      (provider.provideIndices amount size playedIndices currentIndex).run
        source = .ok indices kept) : indices = [] := by
  rcases Int.lt_or_eq_of_le few with negative | rfl
  · cases provider with
    | default =>
        simp only [OrderIndexProvider.provideIndices,
          DefaultOrderIndexProvider.provideIndices] at answered
        split at answered
        · cases answered
          rfl
        · rw [if_pos (by omega)] at answered
          cases answered
    | random prepared =>
        simp only [OrderIndexProvider.provideIndices,
          RandomOrderIndexProvider.provideIndices, collectIndices,
          if_pos negative] at answered
        cases answered
    | shuffle prepared =>
        simp only [OrderIndexProvider.provideIndices,
          ShuffleOrderIndexProvider.provideIndices] at answered
        split at answered
        · cases answered
          rfl
        · simp only [EStateM.run_bind, EStateM.run_get,
            collectIndices] at answered
          rw [if_pos (by omega)] at answered
          cases answered
  · rw [provideIndices_zero_run] at answered
    cases answered
    rfl

theorem getNextIndices_nonpos {queue selected : QueueService Supplier}
    {usePlaybackOrder useRepeatMode : Bool} {amount : Int}
    {indices : List Int} (few : amount ≤ 0)
    (computed :
      (getNextIndices amount usePlaybackOrder useRepeatMode).run queue =
        .ok indices selected) : indices = [] := by
  simp only [getNextIndices, EStateM.run_bind, EStateM.run_get] at computed
  cases mode : queue.effectiveRepeatMode useRepeatMode with
  | none =>
      simp only [mode, provideIndices_run] at computed
      split at computed
      · rename_i answered
        cases computed
        exact provideIndices_nonpos few answered
      · cases computed
  | repeatEntryOnce =>
      simp only [mode] at computed
      split at computed
      · cases computed
      · have none : amount.toNat = 0 := by omega
        simp only [EStateM.run_bind, none, List.take_zero] at computed
        split at computed
        · cases computed
          rfl
        · cases computed
  | repeatEntryInfinite =>
      simp only [mode] at computed
      split at computed
      · cases computed
      · have none : amount.toNat = 0 := by omega
        rw [none] at computed
        cases computed
        rfl

/-- What the indices of a peek leave in the provider. -/
theorem computed_held {queue selected : QueueService Supplier}
    {usePlaybackOrder useRepeatMode : Bool} {amount : Int}
    {indices : List Int} (some : 0 < amount)
    (computed :
      (getNextIndices amount usePlaybackOrder useRepeatMode).run queue =
        .ok indices selected) :
    (selected.orderIndexProvider.nextIndices =
        queue.orderIndexProvider.nextIndices ↔
      queue.PeeksAtHeld amount usePlaybackOrder useRepeatMode) ∧
    (queue.PeeksAtHeld amount usePlaybackOrder useRepeatMode →
      indices =
        queue.peekedIndices amount usePlaybackOrder useRepeatMode) := by
  obtain ⟨count, rfl⟩ : ∃ count : Nat, amount = (count + 1 : Nat) :=
    ⟨amount.toNat - 1, by omega⟩
  have less : ((count + 1 : Nat) : Int) - 1 = (count : Nat) := by omega
  rw [getNextIndices_run_call] at computed
  split at computed
  · rename_i answer kept answered
    cases computed
    rw [stored_prepared_iff]
    cases mode : queue.effectiveRepeatMode useRepeatMode with
    | none =>
        simp only [indicesCall, mode] at answered
        simp only [PeeksAtHeld, peekedIndices, mode]
        exact provided_held answered
    | repeatEntryOnce =>
        simp only [PeeksAtHeld, peekedIndices, mode, less]
        cases called :
            (queue.provided usePlaybackOrder (count : Nat)).run
              (queue.source usePlaybackOrder) with
        | error exception failed =>
            simp only [indicesCall, mode, EStateM.run_bind, less, called]
              at answered
            cases answered
        | ok further final =>
            rw [indicesCall_once mode called, List.take_succ_cons,
              List.take_of_length_le
                (length_provideIndices_le called)] at answered
            cases answered
            obtain ⟨keeps, holds⟩ := provided_held called
            exact ⟨keeps, fun enough => congrArg _ (holds enough)⟩
    | repeatEntryInfinite =>
        simp only [indicesCall, mode] at answered
        cases answered
        simp only [PeeksAtHeld, peekedIndices, mode]
        exact ⟨iff_of_true (Or.inr rfl) trivial, fun _ => rfl⟩
  · cases computed

/-! ## When a failed call leaves the queue intact -/

/-- The condition on the state before the call. -/
def KeepsOnFailure (queue : QueueService Supplier) :
    Operation Supplier → Prop
  | .setIndex _ saveHistory =>
      ¬ (saveHistory = true ∧ queue.entryIndex ≠ INDEX_NONE) ∧
        queue.ThrowsAtOnce
  | .next usePlaybackOrder _ =>
      queue.entryIndex = INDEX_NONE ∧
        (queue.provider usePlaybackOrder).nextIndices = [] ∧
        queue.ThrowsAtOnce
  | .peekNext amount usePlaybackOrder useRepeatMode =>
      queue.PeeksAtHeld amount usePlaybackOrder useRepeatMode ∧
        (queue.PublishesAll → ∃ count, queue.Breaks count ∧
          (count = 0 ∨
            (queue.fetchedEntries.length : Int) + count - 1 ∈
              (queue.peekedIndices amount usePlaybackOrder
                useRepeatMode).takeWhile fun index =>
                  index < (queue.fetchedEntries.length : Int) + count))
  | _ => True

theorem setIndex_intact_iff {queue : QueueService Supplier} {index : Int}
    {saveHistory : Bool}
    (throws : queue.SupplyThrows (.setIndex index saveHistory)) :
    queue.LeavesIntact (.setIndex index saveHistory) ↔
      queue.KeepsOnFailure (.setIndex index saveHistory) := by
  obtain ⟨exception, failed, threw⟩ := throws
  have final : step queue (.setIndex index saveHistory) = failed := by
    simp only [step, perform, EStateM.run_bind, threw]
    rfl
  obtain ⟨⟨entryIndex, entry⟩, history, provider, published⟩ :=
    thrown_jump threw
  rw [KeepsOnFailure, ← history, ← published, ← final]
  rw [← final] at entryIndex entry provider
  exact
    ⟨fun intact => ⟨intact.history, intact.published⟩,
      fun kept => ⟨entryIndex, entry, kept.1, by rw [provider], kept.2⟩⟩

theorem next_intact_iff {queue : QueueService Supplier}
    {usePlaybackOrder useRepeatMode : Bool} (inRange : queue.InRange)
    (throws : queue.SupplyThrows (.next usePlaybackOrder useRepeatMode)) :
    queue.LeavesIntact (.next usePlaybackOrder useRepeatMode) ↔
      queue.KeepsOnFailure (.next usePlaybackOrder useRepeatMode) := by
  obtain ⟨index, selected, exception, failed, chooses, threw⟩ := throws
  have ran := next_run_of_throws chooses threw
  have final :
      step queue (.next usePlaybackOrder useRepeatMode) = failed := by
    simp only [step, perform, EStateM.run_bind, ran]
    rfl
  have mode := mode_of_throws inRange ran
  have prepared := chosen_prepared_iff mode chooses
  have frame := (chooseNext_selects chooses).frame
  obtain ⟨⟨entryIndex, entry⟩, history, provider, published⟩ :=
    thrown_jump threw
  rw [← final] at entryIndex entry history provider published
  rw [← provider] at prepared
  rw [frame] at entryIndex entry history published
  have start :
      ¬ (true = true ∧ queue.entryIndex ≠ INDEX_NONE) ↔
        queue.entryIndex = INDEX_NONE := by
    simp
  rw [KeepsOnFailure, ← prepared, ← start]
  exact
    ⟨fun intact =>
        ⟨history.mp intact.history, intact.prepared,
          published.mp intact.published⟩,
      fun kept =>
        ⟨entryIndex, entry, history.mpr kept.1, kept.2.1,
          published.mpr kept.2.2⟩⟩

theorem peekNext_intact_iff {queue : QueueService Supplier}
    {amount : Int} {usePlaybackOrder useRepeatMode : Bool}
    (throws :
      queue.SupplyThrows
        (.peekNext amount usePlaybackOrder useRepeatMode)) :
    queue.LeavesIntact (.peekNext amount usePlaybackOrder useRepeatMode) ↔
      queue.KeepsOnFailure
        (.peekNext amount usePlaybackOrder useRepeatMode) := by
  obtain ⟨indices, selected, exception, failed, computed, threw⟩ := throws
  have final :
      step queue (.peekNext amount usePlaybackOrder useRepeatMode) =
        failed := by
    simp only [step, perform, peekNext, EStateM.run_bind, computed, threw]
    rfl
  have some : 0 < amount := by
    by_contra few
    rw [getNextIndices_nonpos (Int.not_lt.mp few) computed] at threw
    cases threw
  obtain ⟨keeps, holds⟩ := computed_held some computed
  have selects :=
    respects_getNextIndices amount usePlaybackOrder useRepeatMode queue
  rw [computed, finalState_ok] at selects
  have respects :
      Respects Untouched
        (supplyEntries indices : QueueM Supplier (List QueueEntry)) :=
    Queue.respects_supplyEntries indices
  have untouched := respects selected
  rw [threw, finalState_error, ← final] at untouched
  have entryIndex := untouched.entryIndex
  have entry := untouched.entry
  have history := untouched.history
  have prepared :=
    congrArg OrderIndexProvider.nextIndices untouched.provider
  have publishes := supplyEntries_throws threw
  rw [selects.frame] at entryIndex entry history publishes
  rw [← final] at publishes
  constructor
  · intro intact
    have held := keeps.mp (prepared.symm.trans intact.prepared)
    refine ⟨held, fun published => ?_⟩
    obtain ⟨count, breaks, published_iff⟩ := publishes published
    rw [← holds held]
    exact ⟨count, breaks, published_iff.mp (intact.published published)⟩
  · intro given
    obtain ⟨held, atThrow⟩ := given
    refine
      ⟨entryIndex, entry, history, prepared.trans (keeps.mpr held),
        fun published => ?_⟩
    obtain ⟨count, breaks, published_iff⟩ := publishes published
    obtain ⟨other, same, reached⟩ := atThrow published
    obtain rfl : other = count := BreaksAfter.unique same breaks
    rw [← holds held] at reached
    exact published_iff.mpr reached

/-- Going back asks no supplier. -/
theorem not_previous_throws {queue : QueueService Supplier}
    (inRange : queue.InRange) : ¬ queue.SupplyThrows .previous := by
  intro given
  obtain ⟨exception, failed, threw⟩ := given
  cases last : queue.currentQueueIndicesPlayed.getLast? with
  | none =>
      rw [previous_stays (List.getLast?_eq_none_iff.mp last)] at threw
      cases threw
  | some index =>
      rw [previous_goes_back inRange last] at threw
      cases threw

theorem not_peekPrevious_throws {queue : QueueService Supplier}
    (inRange : queue.InRange) : ¬ queue.SupplyThrows .peekPrevious := by
  intro given
  obtain ⟨exception, failed, threw⟩ := given
  simp only [peekPrevious, EStateM.run_bind, EStateM.run_get] at threw
  cases last : queue.currentQueueIndicesPlayed.getLast? with
  | none =>
      rw [last] at threw
      cases threw
  | some index =>
      have below := (inRange.history index (List.mem_of_getLast? last)).2
      rw [last] at threw
      simp only [getOrSupplyEntry_cached below] at threw
      cases threw

end QueueService

/-- In every reachable state, a call that throws while it loads an entry leaves
the queue intact exactly when it had nothing to save, to use up or to draw, and
the throw was next or everything in front of it has been published. -/
theorem failed_supply_leaves_intact_iff {Supplier : Type}
    [QueueSupplier Supplier] (order : PlaybackOrder) (mode : RepeatMode)
    (random : Random) (operations : List (Operation Supplier))
    (operation : Operation Supplier)
    (throws :
      (run step (QueueService.fresh order mode random)
        operations).SupplyThrows operation) :
    let queue := run step (QueueService.fresh order mode random) operations
    queue.LeavesIntact operation ↔ queue.KeepsOnFailure operation := by
  intro queue
  have inRange : queue.InRange := run_inRange order mode random operations
  cases operation with
  | setIndex index saveHistory =>
      exact setIndex_intact_iff throws
  | next usePlaybackOrder useRepeatMode =>
      exact next_intact_iff inRange throws
  | peekNext amount usePlaybackOrder useRepeatMode =>
      exact peekNext_intact_iff throws
  | previous =>
      exact absurd throws (not_previous_throws inRange)
  | peekPrevious =>
      exact absurd throws (not_peekPrevious_throws inRange)
  | addSupplier | removeEntry | clear | mediaStreamEnd | setPlaybackOrder
    | setRepeatMode =>
      exact throws.elim

/-- A query of the library whose page requests fail from an offset on. -/
structure InterruptedQuery where
  items : List QueueEntry
  available : Nat

/-- `loadPage` of a query whose later requests fail. -/
def InterruptedQuery.loadPage (offset size : Nat) :
    EStateM QueueException InterruptedQuery (List QueueEntry) := do
  let query ← get
  if offset < query.available then
    return (query.items.drop offset).take size
  else throw .noSuchElement

instance : PageSource InterruptedQuery where
  size query := query.items.length
  loadPage := InterruptedQuery.loadPage

/-- A supplier of pages of one item whose requests fail after the first
`available` items. -/
def interruptedSupplier (items : List QueueEntry) (available : Nat) :
    PagedQueueSupplier InterruptedQuery :=
  .ofSource ⟨items, available⟩ 1

theorem failed_jump_leaves_intact :
    (run step (QueueService.fresh .default .none (fun _ => 0))
      [.addSupplier (interruptedSupplier [⟨0⟩, ⟨1⟩, ⟨2⟩] 1)]).LeavesIntact
        (.setIndex 2 false) := by
  refine
    (failed_supply_leaves_intact_iff .default .none (fun _ => 0)
      [.addSupplier (interruptedSupplier [⟨0⟩, ⟨1⟩, ⟨2⟩] 1)]
      (.setIndex 2 false) ⟨_, _, rfl⟩).mpr ?_
  exact ⟨by simp, fun _ => .throws _ _ rfl⟩

/-- A failed `next` saves the current entry to the history although it keeps
playing, and a failed jump leaves loaded entries unpublished. -/
theorem failed_supply_changes_queue :
    let queue :=
      run step (QueueService.fresh .default .none (fun _ => 0))
        [.addSupplier (interruptedSupplier [⟨0⟩, ⟨1⟩, ⟨2⟩] 1)]
    let behind :=
      run step (QueueService.fresh .default .none (fun _ => 0))
        [.addSupplier (interruptedSupplier [⟨0⟩, ⟨1⟩, ⟨2⟩] 2)]
    (outcome queue (.next true false) = .error .noSuchElement ∧
        ¬ queue.LeavesIntact (.next true false)) ∧
      outcome behind (.setIndex 2 false) = .error .noSuchElement ∧
        ¬ behind.LeavesIntact (.setIndex 2 false) := by
  refine ⟨⟨rfl, fun intact => ?_⟩, rfl, fun intact => ?_⟩
  · exact absurd intact.history (by decide)
  · exact absurd (intact.published rfl) (by unfold PublishesAll; decide)

end JellyfinTv.Queue
