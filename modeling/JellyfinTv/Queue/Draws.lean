import JellyfinTv.Queue.Effects

/-!
# What calls leave alone over any suppliers

A supplier may throw and may answer differently with every call.  Whatever it
does, loading and peeking only draw entries to the end of the cache, and
`setIndex` either gives up or makes an entry of the cache current.
-/

namespace JellyfinTv.Queue

open QueueService Library

variable {Supplier : Type}

/-- A relation that the writes of loading respect. -/
class Fetching
    (related : QueueService Supplier → QueueService Supplier → Prop) :
    Prop extends IsPreorder (QueueService Supplier) related where
  stores :
    ∀ (queue : QueueService Supplier) (supplier : Supplier),
      related queue (queue.storeSupplier supplier)
  accepts :
    ∀ (queue : QueueService Supplier) (item : Option QueueEntry),
      related queue (queue.acceptItem item)
  publishes : ∀ queue : QueueService Supplier, related queue queue.publish

/-- A relation that choosing indices respects as well. -/
class Peeking
    (related : QueueService Supplier → QueueService Supplier → Prop) :
    Prop extends Fetching related where
  selects :
    ∀ {before after : QueueService Supplier},
      Selects before after → related before after

/-- A relation that the writes of loading, peeking and saving respect. -/
class Supplying
    (related : QueueService Supplier → QueueService Supplier → Prop) :
    Prop extends Peeking related where
  saves :
    ∀ (saveHistory : Bool) (queue : QueueService Supplier),
      related queue (saveCurrentIndex saveHistory queue)

section Loading

variable [QueueSupplier Supplier]
variable {related : QueueService Supplier → QueueService Supplier → Prop}

theorem respects_askSupplier [Fetching related] (supplier : Supplier) :
    Respects related (askSupplier supplier) := by
  intro queue
  rw [askSupplier_run]
  split
  · exact Fetching.stores queue _
  · exact Fetching.stores queue _

theorem respects_supplyLoop [Fetching related] (index : Int) (fuel : Nat)
    (changed : Bool) :
    Respects related
      (supplyLoop index fuel changed : QueueM Supplier Bool) := by
  induction fuel generalizing changed with
  | zero =>
      exact Respects.pure changed
  | succ fuel inductionHypothesis =>
      refine Respects.bind Respects.get fun queue => ?_
      apply Respects.ite
      · exact Respects.pure changed
      · split
        · exact Respects.pure changed
        · refine Respects.bind (respects_askSupplier _) fun item => ?_
          refine Respects.bind (Respects.modify ?_) fun _ => ?_
          · exact fun queue => Fetching.accepts queue item
          · exact inductionHypothesis _

theorem respects_getOrSupplyEntry [Fetching related] (index : Int) :
    Respects related
      (getOrSupplyEntry index : QueueM Supplier (Option QueueEntry)) := by
  refine Respects.bind Respects.get fun queue => ?_
  refine Respects.bind (respects_supplyLoop _ _ _) fun changed => ?_
  cases changed with
  | false =>
      exact Respects.bind Respects.get fun _ => Respects.pure _
  | true =>
      refine Respects.bind (Respects.modify Fetching.publishes) fun _ => ?_
      exact Respects.bind Respects.get fun _ => Respects.pure _

theorem respects_supplyEntries [Fetching related] (indices : List Int) :
    Respects related
      (supplyEntries indices : QueueM Supplier (List QueueEntry)) := by
  induction indices with
  | nil =>
      exact Respects.pure _
  | cons index rest inductionHypothesis =>
      refine Respects.bind (respects_getOrSupplyEntry index) fun _ => ?_
      exact Respects.bind inductionHypothesis fun _ => Respects.pure _

theorem respects_peekNext [Peeking related] (amount : Int)
    (usePlaybackOrder useRepeatMode : Bool) :
    Respects related
      (peekNext amount usePlaybackOrder useRepeatMode :
        QueueM Supplier (List QueueEntry)) := by
  have chosen :
      Respects related
        (getNextIndices amount usePlaybackOrder useRepeatMode :
          QueueM Supplier (List Int)) := by
    intro queue
    exact
      Peeking.selects
        (respects_getNextIndices amount usePlaybackOrder useRepeatMode queue)
  exact Respects.bind chosen fun _ => respects_supplyEntries _

theorem respects_peekPrevious [Fetching related] :
    Respects related
      (peekPrevious : QueueM Supplier (Option QueueEntry)) := by
  refine Respects.bind Respects.get fun queue => ?_
  split
  · exact Respects.pure _
  · exact respects_getOrSupplyEntry _

end Loading

/-- Only entries were loaded and the play history, the order provider, the
random source or the repeat mode changed. -/
structure Draws (before after : QueueService Supplier) : Prop where
  entryIndex : after.entryIndex = before.entryIndex
  entry : after.entry = before.entry
  fetched : before.fetchedEntries <+: after.fetchedEntries

instance : IsPreorder (QueueService Supplier) Draws where
  refl _ := ⟨rfl, rfl, List.prefix_rfl⟩
  trans _ _ _ first second :=
    ⟨second.entryIndex.trans first.entryIndex,
      second.entry.trans first.entry, first.fetched.trans second.fetched⟩

theorem Draws.of_selects {before after : QueueService Supplier}
    (selects : Selects before after) : Draws before after := by
  rw [selects.frame]
  exact ⟨rfl, rfl, List.prefix_rfl⟩

theorem draws_saveCurrentIndex (saveHistory : Bool)
    (queue : QueueService Supplier) :
    Draws queue (saveCurrentIndex saveHistory queue) := by
  unfold saveCurrentIndex
  split
  · exact ⟨rfl, rfl, List.prefix_rfl⟩
  · exact Std.Refl.refl queue

theorem draws_acceptItem (queue : QueueService Supplier)
    (item : Option QueueEntry) : Draws queue (queue.acceptItem item) := by
  cases item with
  | none =>
      exact ⟨rfl, rfl, List.prefix_rfl⟩
  | some entry =>
      exact ⟨rfl, rfl, List.prefix_append _ _⟩

instance : Supplying (@Draws Supplier) where
  selects := Draws.of_selects
  stores _ _ := ⟨rfl, rfl, List.prefix_rfl⟩
  accepts := draws_acceptItem
  publishes _ := ⟨rfl, rfl, List.prefix_rfl⟩
  saves := draws_saveCurrentIndex

section Cases

variable [QueueSupplier Supplier]
variable (related : QueueService Supplier → QueueService Supplier → Prop)

/-- `getOrSupplyEntry` throws or answers from the cache it leaves. -/
theorem getOrSupplyEntry_cases [Fetching related] (index : Int)
    (queue : QueueService Supplier) :
    ∃ drawn, related queue drawn ∧
      ((∃ exception,
          (getOrSupplyEntry index).run queue = .error exception drawn) ∨
        (getOrSupplyEntry index).run queue =
          .ok (entryAt drawn.fetchedEntries index) drawn) := by
  have draws :
      related queue (finalState ((getOrSupplyEntry index).run queue)) :=
    respects_getOrSupplyEntry index queue
  cases answered : (getOrSupplyEntry index).run queue with
  | error exception drawn =>
      rw [answered] at draws
      exact ⟨drawn, draws, Or.inl ⟨exception, rfl⟩⟩
  | ok entry drawn =>
      rw [answered] at draws
      refine ⟨drawn, draws, Or.inr ?_⟩
      cases finished :
          (supplyLoop index queue.supplyFuel false).run queue with
      | error exception loaded =>
          rw [getOrSupplyEntry_run_error finished] at answered
          cases answered
      | ok changed loaded =>
          rw [getOrSupplyEntry_run finished] at answered
          cases answered
          cases changed <;> rfl

/-- `setIndex` rejects a negative index, throws, or makes the entry of the
cache current. -/
theorem setIndex_cases [Supplying related] (index : Int)
    (saveHistory : Bool) (queue : QueueService Supplier) :
    ∃ drawn, related queue drawn ∧
      ((∃ exception,
          (setIndex index saveHistory).run queue =
            .error exception drawn) ∨
        (index < 0 ∧ index ≠ INDEX_NONE ∧
          (setIndex index saveHistory).run queue = .ok none drawn) ∨
        (setIndex index saveHistory).run queue =
          .ok (entryAt drawn.fetchedEntries index)
            (applyIndex index (entryAt drawn.fetchedEntries index)
              drawn)) := by
  by_cases rejected : index < 0 ∧ index ≠ INDEX_NONE
  · refine
      ⟨queue, Std.Refl.refl queue,
        Or.inr (Or.inl ⟨rejected.1, rejected.2, ?_⟩)⟩
    rw [setIndex, if_pos rejected]
    rfl
  · have saved : related queue (saveCurrentIndex saveHistory queue) :=
      Supplying.saves saveHistory queue
    obtain ⟨drawn, draws, failed | supplied⟩ :=
      getOrSupplyEntry_cases related index
        (saveCurrentIndex saveHistory queue)
    · obtain ⟨exception, failed⟩ := failed
      refine
        ⟨drawn, IsTrans.trans _ _ _ saved draws, Or.inl ⟨exception, ?_⟩⟩
      simp only [setIndex, if_neg rejected, EStateM.run_bind,
        EStateM.run_modify, failed]
    · exact
        ⟨drawn, IsTrans.trans _ _ _ saved draws,
          Or.inr (Or.inr (setIndex_run_of_supplied rejected supplied))⟩

end Cases

end JellyfinTv.Queue
