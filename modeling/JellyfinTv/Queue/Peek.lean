import JellyfinTv.Queue.Cursor
import JellyfinTv.Queue.Forecast
import JellyfinTv.Queue.Sizes

/-!
# Peeking and advancing

`peekNext` and `next` ask the order provider independently, so they agree only
if the provider forecasts and loading the peeked entries does not change what
the provider sees of the queue.  `PeekReliable` is the condition on the state
that gives both.
-/

namespace JellyfinTv.Queue

open QueueService Library

namespace QueueService

/-- Peeking at indices returns the entries of the eagerly loaded queue and
draws no further than they reach. -/
theorem supplyEntries_run (indices : List Int) (queue : FixedQueue) :
    ∃ loaded,
      (supplyEntries indices).run queue =
        .ok (indices.filterMap (entryAt queue.contents)) loaded ∧
      Loads queue loaded ∧
      ∀ limit : Int, (queue.fetchedEntries.length : Int) ≤ limit →
        (∀ index ∈ indices, index < limit) →
          (loaded.fetchedEntries.length : Int) ≤ limit := by
  induction indices generalizing queue with
  | nil =>
      exact ⟨queue, rfl, Loads.refl queue, fun _ bounded _ => bounded⟩
  | cons index rest inductionHypothesis =>
      obtain ⟨supplied, loads, _⟩ := getOrSupplyEntry_spec index queue
      obtain ⟨loaded, others, further, bounded⟩ :=
        inductionHypothesis (load index queue)
      rw [loads.contents] at others
      refine ⟨loaded, ?_, loads.trans further, ?_⟩
      · simp only [supplyEntries, EStateM.run_bind, supplied, others]
        cases found : entryAt queue.contents index with
        | none =>
            simp [found]
        | some entry =>
            simp [found]
      · intro limit short below
        have reached := load_bounded index queue
        have first := below index List.mem_cons_self
        refine bounded limit (by omega) ?_
        intro other member
        exact below other (List.mem_cons_of_mem index member)

theorem estimatedSize_of_loads {before after : FixedQueue}
    (exact : before.ExactSizes) (loads : Loads before after)
    (bounded :
      (after.fetchedEntries.length : Int) ≤ before.estimatedSize) :
    after.estimatedSize = before.estimatedSize := by
  have grown := loads.fetched.length_le
  have removed : after.removedEntries = before.removedEntries := by
    rw [loads.frame]
  rw [exact.estimatedSize] at bounded ⊢
  rw [(exact.of_catalogue loads.catalogue).estimatedSize,
    stock_eq_of_catalogue loads.catalogue, removed]
  omega

theorem fetched_le_estimatedSize (queue : FixedQueue) :
    (queue.fetchedEntries.length : Int) ≤ queue.estimatedSize :=
  Int.le_max_left _ _

/-- After a peek the provider is in its settled state and would be called the
same way again. -/
structure Peeked (usePlaybackOrder : Bool) (kept : IndexSource)
    (before after : FixedQueue) : Prop where
  source : after.source usePlaybackOrder = kept
  call :
    ∀ useRepeatMode,
      after.indicesCall usePlaybackOrder useRepeatMode =
        before.indicesCall usePlaybackOrder useRepeatMode
  contents : after.contents = before.contents
  order :
    (after.provider usePlaybackOrder).order =
      (before.provider usePlaybackOrder).order
  mode : after.repeatMode = before.repeatMode

theorem provided_withNextIndices (provider : OrderIndexProvider)
    (indices : List Int) (amount size : Int) (playedIndices : List Int)
    (currentIndex : Int) :
    (provider.withNextIndices indices).provideIndices amount size
        playedIndices currentIndex =
      provider.provideIndices amount size playedIndices currentIndex := by
  cases provider <;> rfl

theorem peeked_storeSource (queue : FixedQueue) {usePlaybackOrder : Bool}
    {kept : IndexSource}
    (fits :
      queue.provider usePlaybackOrder = .default → kept.nextIndices = []) :
    Peeked usePlaybackOrder kept queue
      (queue.storeSource usePlaybackOrder kept) := by
  cases usePlaybackOrder with
  | false =>
      refine ⟨?_, fun _ => rfl, rfl, rfl, rfl⟩
      have empty := fits rfl
      obtain ⟨next, random⟩ := kept
      simp only at empty
      subst empty
      rfl
  | true =>
      refine ⟨?_, ?_, rfl, ?_, rfl⟩
      · obtain ⟨next, random⟩ := kept
        cases chosen : queue.orderIndexProvider with
        | default =>
            have empty : next = [] := fits chosen
            subst empty
            simp [source, storeSource, storeProvider, provider, chosen,
              OrderIndexProvider.withNextIndices,
              OrderIndexProvider.nextIndices]
        | random prepared =>
            simp [source, storeSource, storeProvider, provider, chosen,
              OrderIndexProvider.withNextIndices,
              OrderIndexProvider.nextIndices]
        | shuffle prepared =>
            simp [source, storeSource, storeProvider, provider, chosen,
              OrderIndexProvider.withNextIndices,
              OrderIndexProvider.nextIndices]
      · intro useRepeatMode
        funext amount
        have same :
            ∀ amount,
              (queue.storeSource true kept).provided true amount =
                queue.provided true amount := by
          intro amount
          exact provided_withNextIndices queue.orderIndexProvider
            kept.nextIndices amount _ _ _
        have mode :
            (queue.storeSource true kept).effectiveRepeatMode
                useRepeatMode =
              queue.effectiveRepeatMode useRepeatMode := rfl
        simp only [indicesCall, same, mode]
        rfl
      · exact OrderIndexProvider.order_withNextIndices
          queue.orderIndexProvider kept.nextIndices

theorem Peeked.of_loads {usePlaybackOrder : Bool} {kept : IndexSource}
    {before middle after : FixedQueue}
    (peeked : Peeked usePlaybackOrder kept before middle)
    (loads : Loads middle after)
    (size : after.estimatedSize = middle.estimatedSize) :
    Peeked usePlaybackOrder kept before after := by
  have frame := loads.frame
  have source :
      after.source usePlaybackOrder = middle.source usePlaybackOrder := by
    rw [frame]
    rfl
  have order :
      (after.provider usePlaybackOrder).order =
        (middle.provider usePlaybackOrder).order := by
    rw [frame]
    rfl
  have mode : after.repeatMode = middle.repeatMode := by
    rw [frame]
  refine ⟨source.trans peeked.source, ?_,
    loads.contents.trans peeked.contents, order.trans peeked.order,
    mode.trans peeked.mode⟩
  intro useRepeatMode
  rw [← peeked.call useRepeatMode]
  funext amount
  have effective :
      after.effectiveRepeatMode useRepeatMode =
        middle.effectiveRepeatMode useRepeatMode := by
    rw [effectiveRepeatMode, mode]
    rfl
  have same :
      ∀ amount,
        after.provided usePlaybackOrder amount =
          middle.provided usePlaybackOrder amount := by
    intro amount
    rw [provided, provided, size]
    rw [frame]
    rfl
  have index : after.entryIndex = middle.entryIndex := by
    rw [frame]
  simp only [indicesCall, same, effective, index]

theorem contents_storeSource (queue : FixedQueue)
    (usePlaybackOrder : Bool) (kept : IndexSource) :
    (queue.storeSource usePlaybackOrder kept).contents =
      queue.contents := by
  cases usePlaybackOrder <;> rfl

theorem estimatedSize_storeSource (queue : FixedQueue)
    (usePlaybackOrder : Bool) (kept : IndexSource) :
    (queue.storeSource usePlaybackOrder kept).estimatedSize =
      queue.estimatedSize := by
  cases usePlaybackOrder <;> rfl

theorem exactSizes_storeSource {queue : FixedQueue}
    (exact : queue.ExactSizes) (usePlaybackOrder : Bool)
    (kept : IndexSource) :
    (queue.storeSource usePlaybackOrder kept).ExactSizes := by
  cases usePlaybackOrder <;> exact exact

section Predictions

variable {queue : FixedQueue} {usePlaybackOrder useRepeatMode : Bool}
variable {indices : List Int} {kept : IndexSource} {amount : Nat}

theorem peekNext_run_call
    (called :
      (queue.indicesCall usePlaybackOrder useRepeatMode amount).run
        (queue.source usePlaybackOrder) = .ok indices kept) :
    ∃ peeked,
      (peekNext amount usePlaybackOrder useRepeatMode).run queue =
        .ok (indices.filterMap (entryAt queue.contents)) peeked ∧
      Loads (queue.storeSource usePlaybackOrder kept) peeked ∧
      ∀ limit : Int, (queue.fetchedEntries.length : Int) ≤ limit →
        (∀ index ∈ indices, index < limit) →
          (peeked.fetchedEntries.length : Int) ≤ limit := by
  obtain ⟨peeked, supplied, loads, bounded⟩ :=
    supplyEntries_run indices (queue.storeSource usePlaybackOrder kept)
  rw [contents_storeSource] at supplied
  refine ⟨peeked, ?_, loads, ?_⟩
  · simp only [peekNext, EStateM.run_bind, getNextIndices_run_call, called,
      supplied]
  · cases usePlaybackOrder <;> exact bounded

/-- A peek whose indices stay below the estimated size keeps the provider's
view of the queue. -/
theorem peekNext_settles (exact : queue.ExactSizes)
    (called :
      (queue.indicesCall usePlaybackOrder useRepeatMode amount).run
        (queue.source usePlaybackOrder) = .ok indices kept)
    (fits :
      queue.provider usePlaybackOrder = .default → kept.nextIndices = [])
    (below : ∀ index ∈ indices, index < queue.estimatedSize) :
    ∃ peeked,
      (peekNext amount usePlaybackOrder useRepeatMode).run queue =
        .ok (indices.filterMap (entryAt queue.contents)) peeked ∧
      Peeked usePlaybackOrder kept queue peeked := by
  obtain ⟨peeked, ran, loads, bounded⟩ := peekNext_run_call called
  refine ⟨peeked, ran, (peeked_storeSource queue fits).of_loads loads ?_⟩
  refine estimatedSize_of_loads
    (exactSizes_storeSource exact usePlaybackOrder kept) loads ?_
  rw [estimatedSize_storeSource]
  exact bounded _ queue.fetched_le_estimatedSize below

theorem Peeked.getNextIndices_run {peeked : FixedQueue} {count : Nat}
    (settled : Peeked usePlaybackOrder kept queue peeked)
    (called :
      (queue.indicesCall usePlaybackOrder useRepeatMode count).run kept =
        .ok indices kept) :
    (getNextIndices count usePlaybackOrder useRepeatMode).run peeked =
      .ok indices peeked := by
  have unchanged := storeSource_unchanged peeked usePlaybackOrder
  have same : peeked.source usePlaybackOrder = kept := settled.source
  rw [QueueService.source] at same
  rw [same] at unchanged
  rw [getNextIndices_run_call, settled.call, settled.source, called]
  simp only [unchanged]

/-- All indices lead to entries, or none does. -/
def Aligned (entries : List QueueEntry) (indices : List Int) : Prop :=
  (∀ index ∈ indices, (entryAt entries index).isSome) ∨
    ∀ index ∈ indices, entryAt entries index = none

theorem Aligned.take_filterMap {entries : List QueueEntry}
    {indices : List Int} (aligned : Aligned entries indices)
    (count : Nat) :
    (indices.take count).filterMap (entryAt entries) =
      (indices.filterMap (entryAt entries)).take count := by
  rcases aligned with present | absent
  · induction indices generalizing count with
    | nil =>
        simp
    | cons index rest inductionHypothesis =>
        obtain ⟨entry, found⟩ :=
          Option.isSome_iff_exists.mp (present index List.mem_cons_self)
        cases count with
        | zero =>
            rfl
        | succ count =>
            have further :=
              inductionHypothesis count fun other member =>
                present other (List.mem_cons_of_mem index member)
            simp [found, further]
  · have none : indices.filterMap (entryAt entries) = [] :=
      List.filterMap_eq_nil_iff.mpr absent
    have noneEarlier :
        (indices.take count).filterMap (entryAt entries) = [] :=
      List.filterMap_eq_nil_iff.mpr fun index member =>
        absent index (List.mem_of_mem_take member)
    rw [none, noneEarlier, List.take_nil]

theorem Aligned.head?_filterMap {entries : List QueueEntry}
    {index : Int} {rest : List Int}
    (aligned : Aligned entries (index :: rest)) :
    ((index :: rest).filterMap (entryAt entries)).head? =
      entryAt entries index := by
  rcases aligned with present | absent
  · obtain ⟨entry, found⟩ :=
      Option.isSome_iff_exists.mp (present index List.mem_cons_self)
    simp [found]
  · rw [List.filterMap_eq_nil_iff.mpr absent,
      absent index List.mem_cons_self]
    rfl

theorem useNextIndex_of_prepared {provider : OrderIndexProvider}
    (usable : provider = .default ∨ provider.nextIndices ≠ []) :
    ∃ used, provider.useNextIndex = .ok used := by
  match provider, usable with
  | .default, _ => exact ⟨_, rfl⟩
  | .random (_ :: _), _ => exact ⟨_, rfl⟩
  | .shuffle (_ :: _), _ => exact ⟨_, rfl⟩
  | .random [], Or.inr prepared => exact absurd rfl prepared
  | .shuffle [], Or.inr prepared => exact absurd rfl prepared

/-- `next` can consume an index that the provider has prepared. -/
theorem consumeIndex_of_usable {Supplier : Type}
    {service : QueueService Supplier} (index : Int)
    (usable :
      service.effectiveRepeatMode useRepeatMode = .none →
        service.provider usePlaybackOrder = .default ∨
          (service.provider usePlaybackOrder).nextIndices ≠ []) :
    ∃ consumed,
      (consumeIndex index usePlaybackOrder useRepeatMode).run service =
        .ok () consumed := by
  cases mode : service.effectiveRepeatMode useRepeatMode with
  | none =>
      obtain ⟨used, outcome⟩ := useNextIndex_of_prepared (usable mode)
      rw [consumeIndex_run_none mode]
      refine ⟨service.storeProvider usePlaybackOrder used, ?_⟩
      simp only [useNextIndex, EStateM.run, outcome]
  | repeatEntryOnce =>
      simp only [consumeIndex, EStateM.run_bind, EStateM.run_get, mode]
      split
      · exact ⟨_, rfl⟩
      · exact ⟨_, rfl⟩
  | repeatEntryInfinite =>
      simp only [consumeIndex, EStateM.run_bind, EStateM.run_get, mode]
      exact ⟨_, rfl⟩

/-- `next` returns the entry at the first index of the repeated answer. -/
theorem next_run_first {service : FixedQueue} {index : Int}
    (picked :
      (getNextIndices 1 usePlaybackOrder useRepeatMode).run service =
        .ok [index] service)
    (valid : INDEX_NONE ≤ index)
    (usable :
      service.effectiveRepeatMode useRepeatMode = .none →
        service.provider usePlaybackOrder = .default ∨
          (service.provider usePlaybackOrder).nextIndices ≠ []) :
    ∃ final,
      (next usePlaybackOrder useRepeatMode).run service =
        .ok (entryAt service.contents index) final := by
  obtain ⟨consumed, used⟩ := consumeIndex_of_usable index usable
  have selects :=
    respects_consumeIndex index usePlaybackOrder useRepeatMode service
  rw [used, finalState_ok] at selects
  have same := (Keeps.of_selects selects).contents
  simp only [INDEX_NONE] at valid
  rw [next_run_of_chosen picked used, setIndex_run,
    if_neg (by simp only [INDEX_NONE]; omega), same]
  exact ⟨_, rfl⟩

end Predictions

/-- `next` returns the first peeked entry, a second peek returns the same
entries, and a peek at fewer entries returns a prefix of them. -/
def PeekPredicts (queue : FixedQueue) (amount : Nat)
    (usePlaybackOrder useRepeatMode : Bool) : Prop :=
  ∃ entries peeked,
    (peekNext amount usePlaybackOrder useRepeatMode).run queue =
        .ok entries peeked ∧
      outcome peeked (.next usePlaybackOrder useRepeatMode) =
        .ok (.entry entries.head?) ∧
      outcome peeked (.peekNext amount usePlaybackOrder useRepeatMode) =
        .ok (.entries entries) ∧
      ∀ count : Nat, 1 ≤ count → count ≤ amount →
        outcome queue (.peekNext count usePlaybackOrder useRepeatMode) =
          .ok (.entries (entries.take count))

theorem outcome_peekNext_of_run {service final : FixedQueue}
    {entries : List QueueEntry} {amount : Int}
    {usePlaybackOrder useRepeatMode : Bool}
    (ran :
      (peekNext amount usePlaybackOrder useRepeatMode).run service =
        .ok entries final) :
    outcome service (.peekNext amount usePlaybackOrder useRepeatMode) =
      .ok (.entries entries) := by
  simp only [outcome, perform, EStateM.run_bind, ran]
  rfl

theorem provider_eq_default {provider : OrderIndexProvider}
    (order : provider.order = .default) : provider = .default := by
  cases provider with
  | default => rfl
  | random => cases order
  | shuffle => cases order

section Reliability

variable {queue : FixedQueue} {usePlaybackOrder useRepeatMode : Bool}
variable {indices : List Int} {kept : IndexSource} {amount : Nat}

/-- A forecast of indices inside the queue makes the peek a prediction. -/
theorem peekPredicts_of_forecast (exact : queue.ExactSizes)
    (positive : 1 ≤ amount)
    (forecast :
      Forecast (queue.indicesCall usePlaybackOrder useRepeatMode)
        (queue.source usePlaybackOrder) 1 amount indices kept)
    (fits :
      queue.provider usePlaybackOrder = .default → kept.nextIndices = [])
    (usable :
      queue.effectiveRepeatMode useRepeatMode = .none → indices ≠ [] →
        queue.provider usePlaybackOrder = .default ∨
          kept.nextIndices ≠ [])
    (bounds :
      ∀ index ∈ indices,
        INDEX_NONE ≤ index ∧ index < queue.estimatedSize)
    (aligned : Aligned queue.contents indices) :
    PeekPredicts queue amount usePlaybackOrder useRepeatMode := by
  obtain ⟨peeked, ran, settled⟩ :=
    peekNext_settles exact forecast.settles fits fun index member =>
      (bounds index member).2
  have picked :=
    settled.getNextIndices_run
      (forecast.repeats 1 (Nat.le_refl 1) positive)
  refine ⟨_, peeked, ran, ?_, ?_, ?_⟩
  · cases indices with
    | nil =>
        exact outcome_next_of_run (next_run_of_none picked)
    | cons index rest =>
        have mode :
            peeked.effectiveRepeatMode useRepeatMode =
              queue.effectiveRepeatMode useRepeatMode := by
          rw [effectiveRepeatMode, settled.mode]
          rfl
        have usableHere :
            peeked.effectiveRepeatMode useRepeatMode = .none →
              peeked.provider usePlaybackOrder = .default ∨
                (peeked.provider usePlaybackOrder).nextIndices ≠ [] := by
          intro noRepeat
          rw [mode] at noRepeat
          rcases usable noRepeat (List.cons_ne_nil index rest) with
            default | prepared
          · apply Or.inl
            apply provider_eq_default
            rw [settled.order, default]
            rfl
          · apply Or.inr
            have same := congrArg IndexSource.nextIndices settled.source
            rw [← same] at prepared
            exact prepared
        obtain ⟨final, advanced⟩ :=
          next_run_first picked (bounds index List.mem_cons_self).1
            usableHere
        rw [settled.contents, ← aligned.head?_filterMap] at advanced
        exact outcome_next_of_run advanced
  · have repeated :=
      settled.getNextIndices_run (forecast.again positive)
    obtain ⟨final, supplied, _⟩ := supplyEntries_run indices peeked
    rw [settled.contents] at supplied
    have second :
        (peekNext amount usePlaybackOrder useRepeatMode).run peeked =
          .ok (indices.filterMap (entryAt queue.contents)) final := by
      simp only [peekNext, EStateM.run_bind, repeated, supplied]
    exact outcome_peekNext_of_run second
  · intro count least most
    obtain ⟨other, called⟩ := forecast.prefixes count least most
    obtain ⟨final, shorter, _⟩ := peekNext_run_call called
    rw [aligned.take_filterMap] at shorter
    exact outcome_peekNext_of_run shorter

end Reliability

/-! ## When peeking is reliable -/

/-- The provider repeats its answer for `amount` indices and stays inside the
queue: the random provider has no index of an earlier queue left and something
to draw from, the shuffle provider stops before its last prepared index. -/
def ReliableProvider (size remaining : Int) (amount : Nat) :
    OrderIndexProvider → Prop
  | .default => True
  | .random prepared =>
      amount = 0 ∨
        (0 < size ∨ amount ≤ prepared.length) ∧
          ∀ index ∈ prepared.take amount, 0 ≤ index ∧ index < size
  | .shuffle prepared =>
      amount = 0 ∨ remaining ≤ 0 ∨
        min (amount : Int) remaining < prepared.length ∧
          ∀ index ∈ prepared.take (min (amount : Int) remaining).toNat,
            0 ≤ index ∧ index < size

/-- The provider has no index behind the missing current entry. -/
def ProvidesNothing (size remaining : Int) (amount : Nat) :
    OrderIndexProvider → Prop
  | .default => amount = 0 ∨ size ≤ 0
  | .random _ => amount = 0
  | .shuffle _ => amount = 0 ∨ remaining ≤ 0

instance (size remaining : Int) (amount : Nat) :
    ∀ provider, Decidable (ReliableProvider size remaining amount provider)
  | .default => isTrue trivial
  | .random _ => inferInstanceAs (Decidable (_ ∨ _))
  | .shuffle _ => inferInstanceAs (Decidable (_ ∨ _))

instance (size remaining : Int) (amount : Nat) :
    ∀ provider, Decidable (ProvidesNothing size remaining amount provider)
  | .default => inferInstanceAs (Decidable (_ ∨ _))
  | .random _ => inferInstanceAs (Decidable (_ = _))
  | .shuffle _ => inferInstanceAs (Decidable (_ ∨ _))

/-- The conditions on the queue for each repeat mode: repeating the entry once
needs a current entry or nothing behind it. -/
def ReliableUnder (queue : FixedQueue) (amount : Nat)
    (provider : OrderIndexProvider) : RepeatMode → Prop
  | .none =>
      ReliableProvider queue.estimatedSize
        (queue.estimatedSize - queue.currentQueueIndicesPlayed.length)
        amount provider
  | .repeatEntryOnce =>
      if queue.entryIndex = INDEX_NONE then
        ProvidesNothing queue.estimatedSize
          (queue.estimatedSize - queue.currentQueueIndicesPlayed.length)
          (amount - 1) provider
      else
        ReliableProvider queue.estimatedSize
          (queue.estimatedSize - queue.currentQueueIndicesPlayed.length)
          (amount - 1) provider
  | .repeatEntryInfinite => True

instance (queue : FixedQueue) (amount : Nat)
    (provider : OrderIndexProvider) :
    ∀ mode, Decidable (queue.ReliableUnder amount provider mode)
  | .none => inferInstanceAs (Decidable (ReliableProvider _ _ _ _))
  | .repeatEntryOnce =>
      inferInstanceAs
        (Decidable
          (if queue.entryIndex = INDEX_NONE then
            ProvidesNothing _ _ _ provider
          else ReliableProvider _ _ _ provider))
  | .repeatEntryInfinite => isTrue trivial

/-- The state conditions under which a peek at `amount` entries predicts. -/
def PeekReliable (queue : FixedQueue) (amount : Nat)
    (usePlaybackOrder useRepeatMode : Bool) : Prop :=
  queue.ReliableUnder amount (queue.provider usePlaybackOrder)
    (queue.effectiveRepeatMode useRepeatMode)

instance (queue : FixedQueue) (amount : Nat)
    (usePlaybackOrder useRepeatMode : Bool) :
    Decidable
      (queue.PeekReliable amount usePlaybackOrder useRepeatMode) :=
  inferInstanceAs (Decidable (queue.ReliableUnder _ _ _))

/-- The current index is missing or inside the cache. -/
def CursorValid (queue : FixedQueue) : Prop :=
  INDEX_NONE ≤ queue.entryIndex ∧
    queue.entryIndex < queue.fetchedEntries.length

/-- The facts about reachable queues over exact suppliers. -/
structure Sound (queue : FixedQueue) : Prop where
  exact : queue.ExactSizes
  tally :
    queue.stock.length ≤ queue.contents.length + queue.removedEntries
  cursor : queue.CursorValid
  positioned : queue.Positioned

theorem Sound.estimatedSize_le {queue : FixedQueue}
    (sound : queue.Sound) :
    queue.estimatedSize ≤ queue.contents.length := by
  have tally := sound.tally
  have total :
      queue.contents.length =
        queue.fetchedEntries.length + queue.undrawn.length :=
    List.length_append
  rw [sound.exact.estimatedSize]
  omega

theorem Sound.found {queue : FixedQueue} (sound : queue.Sound)
    {index : Int} (start : 0 ≤ index) (below : index < queue.estimatedSize) :
    (entryAt queue.contents index).isSome := by
  have bounded := sound.estimatedSize_le
  have inside : index.toNat < queue.contents.length := by omega
  rw [entryAt, if_pos start, List.getElem?_eq_getElem inside]
  rfl

/-- What a reliable provider forecasts: indices inside the queue, the first of
which `next` can use. -/
structure Supplies (queue : FixedQueue) (usePlaybackOrder : Bool)
    (amount : Nat) (indices : List Int) (kept : IndexSource) : Prop where
  forecast :
    Forecast (fun count => queue.provided usePlaybackOrder count)
      (queue.source usePlaybackOrder) 0 amount indices kept
  fits :
    queue.provider usePlaybackOrder = .default → kept.nextIndices = []
  usable :
    indices ≠ [] →
      queue.provider usePlaybackOrder = .default ∨ kept.nextIndices ≠ []
  inside : ∀ index ∈ indices, 0 ≤ index ∧ index < queue.estimatedSize

theorem source_of_default {queue : FixedQueue} {usePlaybackOrder : Bool}
    (chosen : queue.provider usePlaybackOrder = .default) :
    (queue.source usePlaybackOrder).nextIndices = [] := by
  rw [source, chosen]
  rfl

theorem supplies_zero (queue : FixedQueue) (usePlaybackOrder : Bool) :
    Supplies queue usePlaybackOrder 0 []
      (queue.source usePlaybackOrder) where
  forecast := forecast_zero queue usePlaybackOrder
  fits := source_of_default
  usable nonempty := absurd rfl nonempty
  inside _ member := absurd member List.not_mem_nil

theorem supplies_default {queue : FixedQueue} {usePlaybackOrder : Bool}
    (sound : queue.Sound)
    (chosen : queue.provider usePlaybackOrder = .default) (amount : Nat) :
    Supplies queue usePlaybackOrder amount
      (upcoming amount queue.estimatedSize queue.entryIndex)
      (queue.source usePlaybackOrder) where
  forecast := by
    have forecast :=
      forecast_default queue.estimatedSize queue.entryIndex
        (queue.source usePlaybackOrder) amount
    simp only [provided, chosen]
    exact forecast
  fits := source_of_default
  usable _ := Or.inl chosen
  inside := by
    intro index member
    have bounds := mem_upcoming member
    have cursor := sound.cursor.1
    simp only [INDEX_NONE] at cursor
    omega

theorem supplies_random {queue : FixedQueue} {usePlaybackOrder : Bool}
    {prepared : List Int} {amount : Nat}
    (chosen : queue.provider usePlaybackOrder = .random prepared)
    (drawable : 0 < queue.estimatedSize ∨ amount ≤ prepared.length)
    (inside :
      ∀ index ∈ prepared.take amount,
        0 ≤ index ∧ index < queue.estimatedSize) :
    Supplies queue usePlaybackOrder amount
      ((prepare queue.estimatedSize prepared amount queue.random).take
        amount)
      ⟨prepare queue.estimatedSize prepared amount queue.random,
        queue.random.drop (amount - prepared.length)⟩ where
  forecast := by
    have forecast :
        Forecast _ (⟨prepared, queue.random⟩ : IndexSource) 0 amount _ _ :=
      forecast_random drawable
    simp only [provided, source, chosen]
    exact forecast
  fits default := by
    rw [chosen] at default
    cases default
  usable nonempty := by
    apply Or.inr
    intro empty
    apply nonempty
    simp only at empty
    rw [empty, List.take_nil]
  inside := by
    intro index member
    rw [prepare, List.take_append, List.mem_append] at member
    rcases member with kept | drawn
    · exact inside index kept
    · have short : prepared.length < amount := by
        by_contra enough
        have none : amount - prepared.length = 0 := by omega
        rw [none] at drawn
        exact absurd drawn List.not_mem_nil
      have positive : 0 < queue.estimatedSize := by omega
      exact mem_draws_bounds positive (List.mem_of_mem_take drawn)

theorem supplies_shuffle_ended {queue : FixedQueue}
    {usePlaybackOrder : Bool} {prepared : List Int}
    (chosen : queue.provider usePlaybackOrder = .shuffle prepared)
    (ended :
      queue.estimatedSize - queue.currentQueueIndicesPlayed.length ≤ 0)
    (amount : Nat) :
    Supplies queue usePlaybackOrder amount []
      (queue.source usePlaybackOrder) where
  forecast := by
    have forecast :=
      forecast_shuffle_ended ended (queue.source usePlaybackOrder) amount
    simp only [provided, chosen]
    exact forecast
  fits := source_of_default
  usable nonempty := absurd rfl nonempty
  inside _ member := absurd member List.not_mem_nil

theorem supplies_shuffle_prepared {queue : FixedQueue}
    {usePlaybackOrder : Bool} {prepared : List Int} {amount : Nat}
    (chosen : queue.provider usePlaybackOrder = .shuffle prepared)
    (more :
      0 < queue.estimatedSize - queue.currentQueueIndicesPlayed.length)
    (before :
      min (amount : Int)
          (queue.estimatedSize - queue.currentQueueIndicesPlayed.length) <
        prepared.length)
    (inside :
      ∀ index ∈ prepared.take
          (min (amount : Int)
            (queue.estimatedSize -
              queue.currentQueueIndicesPlayed.length)).toNat,
        0 ≤ index ∧ index < queue.estimatedSize) :
    Supplies queue usePlaybackOrder amount
      (prepared.take
        (min (amount : Int)
          (queue.estimatedSize -
            queue.currentQueueIndicesPlayed.length)).toNat)
      (queue.source usePlaybackOrder) where
  forecast := by
    have forecast :
        Forecast _ (⟨prepared, queue.random⟩ : IndexSource) 0 amount _ _ :=
      forecast_shuffle_prepared more before
    simp only [provided, source, chosen]
    exact forecast
  fits := source_of_default
  usable nonempty := by
    apply Or.inr
    rw [source, chosen]
    intro empty
    apply nonempty
    rw [show prepared = [] from empty, List.take_nil]
  inside := inside

/-- A reliable provider supplies indices. -/
theorem supplies_of_reliable {queue : FixedQueue} (sound : queue.Sound)
    {usePlaybackOrder : Bool} {amount : Nat}
    (reliable :
      ReliableProvider queue.estimatedSize
        (queue.estimatedSize - queue.currentQueueIndicesPlayed.length)
        amount (queue.provider usePlaybackOrder)) :
    ∃ indices kept,
      Supplies queue usePlaybackOrder amount indices kept := by
  cases chosen : queue.provider usePlaybackOrder with
  | default =>
      exact ⟨_, _, supplies_default sound chosen amount⟩
  | random prepared =>
      rw [chosen] at reliable
      rcases reliable with none | ⟨drawable, inside⟩
      · subst none
        exact ⟨_, _, supplies_zero queue usePlaybackOrder⟩
      · exact ⟨_, _, supplies_random chosen drawable inside⟩
  | shuffle prepared =>
      rw [chosen] at reliable
      rcases reliable with none | ended | ⟨before, inside⟩
      · subst none
        exact ⟨_, _, supplies_zero queue usePlaybackOrder⟩
      · exact ⟨_, _, supplies_shuffle_ended chosen ended amount⟩
      · by_cases ended :
            queue.estimatedSize -
              queue.currentQueueIndicesPlayed.length ≤ 0
        · exact ⟨_, _, supplies_shuffle_ended chosen ended amount⟩
        · exact ⟨_, _,
            supplies_shuffle_prepared chosen (by omega) before inside⟩

/-- Without a current entry, a provider with nothing behind it supplies no
index. -/
theorem supplies_nothing {queue : FixedQueue} (sound : queue.Sound)
    {usePlaybackOrder : Bool} {amount : Nat}
    (idle : queue.entryIndex = INDEX_NONE)
    (nothing :
      ProvidesNothing queue.estimatedSize
        (queue.estimatedSize - queue.currentQueueIndicesPlayed.length)
        amount (queue.provider usePlaybackOrder)) :
    ∃ kept, Supplies queue usePlaybackOrder amount [] kept := by
  cases chosen : queue.provider usePlaybackOrder with
  | default =>
      rw [chosen] at nothing
      rcases nothing with none | empty
      · subst none
        exact ⟨_, supplies_zero queue usePlaybackOrder⟩
      · have supplies := supplies_default sound chosen amount
        have ended :
            upcoming amount queue.estimatedSize queue.entryIndex = [] := by
          rw [idle, upcoming]
          have zero :
              (min (amount : Int)
                (queue.estimatedSize - INDEX_NONE - 1)).toNat = 0 := by
            simp only [INDEX_NONE]
            omega
          rw [zero]
          rfl
        rw [ended] at supplies
        exact ⟨_, supplies⟩
  | random prepared =>
      rw [chosen] at nothing
      have none : amount = 0 := nothing
      subst none
      exact ⟨_, supplies_zero queue usePlaybackOrder⟩
  | shuffle prepared =>
      rw [chosen] at nothing
      rcases nothing with none | ended
      · subst none
        exact ⟨_, supplies_zero queue usePlaybackOrder⟩
      · exact ⟨_, supplies_shuffle_ended chosen ended amount⟩

/-- Peeking predicts wherever it is reliable. -/
theorem peekPredicts_of_reliable {queue : FixedQueue} (sound : queue.Sound)
    {amount : Nat} (positive : 1 ≤ amount)
    {usePlaybackOrder useRepeatMode : Bool}
    (reliable :
      queue.PeekReliable amount usePlaybackOrder useRepeatMode) :
    queue.PeekPredicts amount usePlaybackOrder useRepeatMode := by
  have cached := queue.fetched_le_estimatedSize
  obtain ⟨valid, below⟩ := sound.cursor
  have missing : entryAt queue.contents INDEX_NONE = none := rfl
  cases mode : queue.effectiveRepeatMode useRepeatMode with
  | none =>
      rw [PeekReliable, mode] at reliable
      obtain ⟨indices, kept, supplies⟩ :=
        supplies_of_reliable sound reliable
      refine peekPredicts_of_forecast sound.exact positive
        (forecast_none mode supplies.forecast) supplies.fits
        (fun _ => supplies.usable) ?_ (Or.inl ?_)
      · intro index member
        have inside := supplies.inside index member
        simp only [INDEX_NONE]
        omega
      · intro index member
        have inside := supplies.inside index member
        exact sound.found inside.1 inside.2
  | repeatEntryOnce =>
      simp only [PeekReliable, mode, ReliableUnder] at reliable
      obtain ⟨less, rfl⟩ : ∃ less, amount = less + 1 :=
        ⟨amount - 1, by omega⟩
      rw [Nat.add_sub_cancel] at reliable
      split at reliable
      · rename_i idle
        obtain ⟨kept, supplies⟩ := supplies_nothing sound idle reliable
        have forecast := forecast_once mode supplies.forecast
        rw [idle] at forecast
        refine peekPredicts_of_forecast sound.exact positive forecast
          supplies.fits (fun noRepeat => by
            rw [mode] at noRepeat
            cases noRepeat)
          ?_ (Or.inr ?_)
        · intro index member
          rw [List.mem_singleton.mp member]
          simp only [INDEX_NONE]
          omega
        · intro index member
          rw [List.mem_singleton.mp member]
          exact missing
      · rename_i playing
        obtain ⟨indices, kept, supplies⟩ :=
          supplies_of_reliable sound reliable
        simp only [INDEX_NONE] at valid playing
        have inside :
            ∀ index ∈ queue.entryIndex :: indices,
              0 ≤ index ∧ index < queue.estimatedSize := by
          intro index member
          rcases List.mem_cons.mp member with current | later
          · rw [current]
            omega
          · exact supplies.inside index later
        refine peekPredicts_of_forecast sound.exact positive
          (forecast_once mode supplies.forecast) supplies.fits
          (fun noRepeat => by rw [mode] at noRepeat; cases noRepeat)
          ?_ (Or.inl ?_)
        · intro index member
          have bounds := inside index member
          simp only [INDEX_NONE]
          omega
        · intro index member
          exact sound.found (inside index member).1 (inside index member).2
  | repeatEntryInfinite =>
      refine peekPredicts_of_forecast sound.exact positive
        (forecast_infinite mode usePlaybackOrder amount) source_of_default
        (fun noRepeat => by rw [mode] at noRepeat; cases noRepeat) ?_ ?_
      · intro index member
        rw [List.eq_of_mem_replicate member]
        exact ⟨valid, by omega⟩
      · by_cases idle : queue.entryIndex = INDEX_NONE
        · apply Or.inr
          intro index member
          rw [List.eq_of_mem_replicate member, idle]
          exact missing
        · apply Or.inl
          intro index member
          rw [List.eq_of_mem_replicate member]
          simp only [INDEX_NONE] at valid idle
          exact sound.found (by omega) (by omega)

/-! ## Reachable queues -/

theorem cursorValid_movement : Movement (Preserves CursorValid) where
  selects selects valid := by
    rw [selects.frame]
    exact valid
  loads index queue valid := by
    obtain ⟨_, loads, _⟩ := getOrSupplyEntry_spec index queue
    have longer := loads.fetched.length_le
    have same : (load index queue).entryIndex = queue.entryIndex := by
      rw [loads.frame]
    obtain ⟨start, below⟩ := valid
    refine ⟨?_, ?_⟩
    · rw [same]
      exact start
    · rw [same]
      omega
  jumps index saveHistory queue _ := by
    rcases pointsAtEntry_jump index saveHistory queue with
      ⟨none, _⟩ | ⟨start, below, _⟩
    · refine ⟨Int.le_of_eq none.symm, ?_⟩
      rw [none, INDEX_NONE]
      omega
    · refine ⟨?_, below⟩
      simp only [INDEX_NONE]
      omega
  forgets _ valid := valid

theorem cursorValid_dropEntry {queue : FixedQueue} {index : Nat}
    (valid : queue.CursorValid)
    (inside : index < queue.fetchedEntries.length) :
    (queue.dropEntry index).CursorValid := by
  obtain ⟨start, below⟩ := valid
  simp only [CursorValid, dropEntry, INDEX_NONE,
    List.length_eraseIdx_of_lt inside] at start ⊢
  split
  · omega
  · omega

/-- The supplier of an `addSupplier` reports its exact size. -/
def AddsExact (_ : FixedQueue) : Operation FixedSupplier → Prop
  | .addSupplier supplier => supplier.Exact
  | _ => True

theorem Sound.of_keeps {before after : FixedQueue} (sound : before.Sound)
    (keeps : Keeps before after) (cursor : after.CursorValid) :
    after.Sound where
  exact := sound.exact.of_catalogue keeps.catalogue
  tally := by
    rw [stock_eq_of_catalogue keeps.catalogue, keeps.contents,
      keeps.removedEntries]
    exact sound.tally
  cursor := cursor
  positioned := keeps.positioned sound.positioned

theorem Sound.withSupplier {queue : FixedQueue} (sound : queue.Sound)
    {supplier : FixedSupplier} (exact : supplier.Exact) :
    (queue.withSupplier supplier).Sound where
  exact := sound.exact.withSupplier exact
  tally := by
    have tally := sound.tally
    have added := lengths_withSupplier sound.positioned supplier
    rw [added.1, added.2]
    simp only [QueueService.withSupplier]
    omega
  cursor := sound.cursor
  positioned := positioned_withSupplier sound.positioned supplier

theorem Sound.dropEntry {queue : FixedQueue} (sound : queue.Sound)
    {entry : QueueEntry} {index : Nat}
    (found : queue.indexOf entry = some index) :
    (queue.dropEntry index).Sound where
  exact := sound.exact
  tally := by
    rw [total_dropEntry found]
    exact sound.tally
  cursor := cursorValid_dropEntry sound.cursor (indexOf_lt found)
  positioned := sound.positioned

theorem step_sound (queue : FixedQueue)
    (operation : Operation FixedSupplier) (sound : queue.Sound)
    (exact : queue.AddsExact operation) :
    (step queue operation).Sound := by
  cases operation using steadyCases with
  | steady operation steady =>
      exact sound.of_keeps (step_keeps steady queue)
        (cursorValid_movement.perform steady queue sound.cursor)
  | addSupplier supplier =>
      exact (sound.withSupplier exact).of_keeps
        (step_addSupplier queue supplier)
        (cursorValid_movement.step_addSupplier queue supplier
          sound.cursor)
  | removeEntry entry =>
      cases found : queue.indexOf entry with
      | none =>
          rw [step_removeEntry_of_absent found]
          exact sound
      | some index =>
          have dropped := sound.dropEntry found
          refine dropped.of_keeps (step_removeEntry found) ?_
          rw [step_removeEntry_eq found]
          exact cursorValid_movement.finishRemoval (fun _ => id) entry
            (queue.dropEntry index) dropped.cursor
  | clear =>
      exact
        { exact := fun _ member => absurd member List.not_mem_nil
          tally := Nat.zero_le _
          cursor := ⟨Int.le_refl _, show (-1 : Int) < 0 by decide⟩
          positioned := Or.inr ⟨rfl, rfl⟩ }
  | setPlaybackOrder order =>
      rw [step_setPlaybackOrder, setPlaybackOrder_frame]
      exact
        { exact := sound.exact
          tally := sound.tally
          cursor := sound.cursor
          positioned := sound.positioned }

theorem sound_fresh (order : PlaybackOrder) (mode : RepeatMode)
    (random : Random) :
    (QueueService.fresh order mode random : FixedQueue).Sound where
  exact := fun _ member => absurd member List.not_mem_nil
  tally := Nat.zero_le _
  cursor := ⟨Int.le_refl _, show (-1 : Int) < 0 by decide⟩
  positioned := Or.inr ⟨rfl, rfl⟩

end QueueService

/-- In every reachable state over suppliers with exact sizes, for every pair of
flags, amount and random outcome: where the peek is reliable, `next` returns
the first peeked entry, a second peek returns the same entries and smaller
peeks return prefixes. -/
theorem peekNext_predicts_next
    (order : PlaybackOrder) (mode : RepeatMode) (random : Random)
    (operations : List (Operation FixedSupplier))
    (exact :
      Admitted step AddsExact (QueueService.fresh order mode random)
        operations)
    (amount : Nat) (positive : 1 ≤ amount)
    (usePlaybackOrder useRepeatMode : Bool)
    (reliable :
      (run step (QueueService.fresh order mode random)
        operations).PeekReliable amount usePlaybackOrder useRepeatMode) :
    (run step (QueueService.fresh order mode random)
      operations).PeekPredicts amount usePlaybackOrder useRepeatMode :=
  peekPredicts_of_reliable
    (run_invariant step_sound (sound_fresh order mode random) exact)
    positive reliable

theorem peekNext_predicts_in_random_order :
    PeekPredicts
      (run step (QueueService.fresh .random .repeatEntryOnce (fun _ => 1))
        [.addSupplier (.ofList [⟨0⟩, ⟨1⟩]), .peekNext 1 true false])
      3 true true :=
  peekNext_predicts_next .random .repeatEntryOnce (fun _ => 1)
    [.addSupplier (.ofList [⟨0⟩, ⟨1⟩]), .peekNext 1 true false]
    ⟨FixedSupplier.ofList_exact _, trivial, trivial⟩ 3 (by decide) true true
    (by decide)

/-- In the shuffle order `next` draws again after a peek at one entry. -/
theorem peekNext_misses_next_in_shuffle_order :
    ¬ PeekPredicts
      (run step (QueueService.fresh .shuffle .none (fun _ => 0))
        [.addSupplier (.ofList [⟨0⟩, ⟨1⟩])]) 1 true false := by
  rintro ⟨entries, peeked, ran, advanced, _⟩
  injection ran with first second
  subst first second
  exact absurd advanced (by decide)

end JellyfinTv.Queue
