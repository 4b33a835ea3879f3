import JellyfinTv.Queue.Loading
import JellyfinTv.Queue.Providers

/-!
# Forecasts

A forecast is an answer of the order provider that it repeats, also for smaller
amounts, once it has been given.  The default and the random provider forecast;
the shuffle provider does as long as it does not reach its last prepared index.
-/

namespace JellyfinTv.Queue

open QueueService Library

/-- From `source` on, the call answers `indices` and settles in `kept`, where it
repeats itself for every amount from `least` on. -/
structure Forecast (call : Nat → ProviderM (List Int))
    (source : IndexSource) (least amount : Nat) (indices : List Int)
    (kept : IndexSource) : Prop where
  settles : (call amount).run source = .ok indices kept
  prefixes :
    ∀ count, least ≤ count → count ≤ amount →
      ∃ other, (call count).run source = .ok (indices.take count) other
  repeats :
    ∀ count, least ≤ count → count ≤ amount →
      (call count).run kept = .ok (indices.take count) kept
  length : indices.length ≤ amount

theorem Forecast.again {call : Nat → ProviderM (List Int)}
    {source kept : IndexSource} {least amount : Nat} {indices : List Int}
    (forecast : Forecast call source least amount indices kept)
    (enough : least ≤ amount) :
    (call amount).run kept = .ok indices kept := by
  have same := forecast.repeats amount enough (Nat.le_refl amount)
  rw [List.take_of_length_le forecast.length] at same
  exact same

theorem Forecast.raise {call : Nat → ProviderM (List Int)}
    {source kept : IndexSource} {least more amount : Nat}
    {indices : List Int}
    (forecast : Forecast call source least amount indices kept)
    (fewer : least ≤ more) :
    Forecast call source more amount indices kept where
  settles := forecast.settles
  prefixes count bound := forecast.prefixes count (fewer.trans bound)
  repeats count bound := forecast.repeats count (fewer.trans bound)
  length := forecast.length

/-- A call that leaves its source alone and answers prefixes of one list. -/
theorem forecast_of_unchanged {call : Nat → ProviderM (List Int)}
    {source : IndexSource} {amount : Nat} {indices : List Int}
    (answers :
      ∀ count, count ≤ amount →
        (call count).run source = .ok (indices.take count) source)
    (length : indices.length ≤ amount) :
    Forecast call source 0 amount indices source where
  settles := by
    have same := answers amount (Nat.le_refl amount)
    rw [List.take_of_length_le length] at same
    exact same
  prefixes count _ below := ⟨source, answers count below⟩
  repeats count _ below := answers count below
  length := length

theorem length_upcoming_le (amount : Nat) (size currentIndex : Int) :
    (upcoming amount size currentIndex).length ≤ amount := by
  simp only [upcoming, List.length_map, List.length_range]
  omega

theorem take_upcoming {count amount : Nat} (below : count ≤ amount)
    (size currentIndex : Int) :
    (upcoming amount size currentIndex).take count =
      upcoming count size currentIndex := by
  rw [upcoming, upcoming, ← List.map_take, List.take_range]
  congr 2
  omega

theorem mem_upcoming {amount size currentIndex index : Int}
    (member : index ∈ upcoming amount size currentIndex) :
    currentIndex < index ∧ index < size := by
  obtain ⟨position, inside, rfl⟩ := List.mem_map.mp member
  have below := List.mem_range.mp inside
  omega

theorem forecast_default (size currentIndex : Int) (source : IndexSource)
    (amount : Nat) :
    Forecast
      (fun count =>
        DefaultOrderIndexProvider.provideIndices count size currentIndex)
      source 0 amount (upcoming amount size currentIndex) source := by
  refine forecast_of_unchanged ?_ (length_upcoming_le _ _ _)
  intro count below
  rw [take_upcoming below]
  exact defaultProvider_run (Int.natCast_nonneg count) size currentIndex
    source

theorem take_draws (size : Int) :
    ∀ {count amount : Nat}, count ≤ amount → ∀ random : Random,
      (draws size amount random).take count = draws size count random
  | 0, _, _, _ => List.take_zero
  | _ + 1, _ + 1, below, random =>
      congrArg (_ :: ·)
        (take_draws size (Nat.le_of_succ_le_succ below) random.tail)

theorem take_prepare (size : Int) (prepared : List Int)
    {count amount : Nat} (below : count ≤ amount) (random : Random) :
    (prepare size prepared amount random).take count =
      (prepare size prepared count random).take count := by
  simp only [prepare, List.take_append]
  congr 1
  rw [take_draws size (Nat.le_refl _), take_draws size (by omega)]

theorem take_prepare_split (size : Int) (prepared : List Int)
    (amount : Nat) (random : Random) :
    (prepare size prepared amount random).take amount =
      prepared.take amount ++
        draws size (amount - prepared.length) random := by
  rw [prepare, List.take_append,
    take_draws size (Nat.le_refl _) random]

theorem length_prepare_ge (size : Int) (prepared : List Int)
    (amount : Nat) (random : Random) :
    amount ≤ (prepare size prepared amount random).length := by
  simp only [prepare, List.length_append, length_draws]
  omega

theorem forecast_random {size : Int} {amount : Nat} {source : IndexSource}
    (drawable : 0 < size ∨ amount ≤ source.nextIndices.length) :
    Forecast
      (fun count => RandomOrderIndexProvider.provideIndices count size)
      source 0 amount
      ((prepare size source.nextIndices amount source.random).take amount)
      ⟨prepare size source.nextIndices amount source.random,
        source.random.drop (amount - source.nextIndices.length)⟩ where
  settles := randomProvider_run drawable
  prefixes count _ below := by
    have enough : 0 < size ∨ count ≤ source.nextIndices.length := by
      omega
    rw [List.take_take, Nat.min_eq_left below, take_prepare _ _ below]
    exact ⟨_, randomProvider_run enough⟩
  repeats count _ below := by
    have longer :=
      length_prepare_ge size source.nextIndices amount source.random
    have enough :
        count ≤
          (prepare size source.nextIndices amount source.random).length :=
      Nat.le_trans below longer
    rw [randomProvider_run (Or.inr enough)]
    simp only [prepare_of_le enough, Nat.sub_eq_zero_of_le enough,
      List.take_take, Nat.min_eq_left below]
    rfl
  length := by
    rw [List.length_take]
    omega

theorem forecast_shuffle_ended {size : Int} {playedIndices : List Int}
    (ended : size - playedIndices.length ≤ 0) (source : IndexSource)
    (amount : Nat) :
    Forecast
      (fun count =>
        ShuffleOrderIndexProvider.provideIndices count size playedIndices)
      source 0 amount [] source := by
  refine forecast_of_unchanged ?_ (Nat.zero_le amount)
  intro count _
  rw [List.take_nil]
  exact shuffleProvider_run_ended ended source

theorem forecast_shuffle_prepared {size : Int} {playedIndices : List Int}
    {source : IndexSource} {amount : Nat}
    (more : 0 < size - playedIndices.length)
    (before :
      min (amount : Int) (size - playedIndices.length) <
        source.nextIndices.length) :
    Forecast
      (fun count =>
        ShuffleOrderIndexProvider.provideIndices count size playedIndices)
      source 0 amount
      (source.nextIndices.take
        (min (amount : Int) (size - playedIndices.length)).toNat)
      source := by
  refine forecast_of_unchanged ?_ ?_
  · intro count below
    have counted :
        min (count : Int) (size - playedIndices.length) =
          ((min (count : Int) (size - playedIndices.length)).toNat : Int) := by
      omega
    rw [List.take_take]
    refine (shuffleProvider_run_prepared more counted (by omega)).trans ?_
    congr 2
    omega
  · rw [List.length_take]
    omega

namespace QueueService

section Calls

variable {Supplier : Type} [QueueSupplier Supplier]

/-- The state on which the chosen provider is called. -/
def source (queue : QueueService Supplier) (usePlaybackOrder : Bool) :
    IndexSource :=
  ⟨(queue.provider usePlaybackOrder).nextIndices, queue.random⟩

/-- The call of the chosen provider for the queue as it is. -/
def provided (queue : QueueService Supplier) (usePlaybackOrder : Bool)
    (amount : Int) : ProviderM (List Int) :=
  (queue.provider usePlaybackOrder).provideIndices amount
    queue.estimatedSize queue.currentQueueIndicesPlayed queue.entryIndex

/-- `getNextIndices` for an amount that is not negative, as a call on the
provider's state. -/
def indicesCall (queue : QueueService Supplier)
    (usePlaybackOrder useRepeatMode : Bool) (amount : Nat) :
    ProviderM (List Int) :=
  match queue.effectiveRepeatMode useRepeatMode with
  | .none => queue.provided usePlaybackOrder amount
  | .repeatEntryOnce => do
      let indices ← queue.provided usePlaybackOrder ((amount : Int) - 1)
      return (queue.entryIndex :: indices).take amount
  | .repeatEntryInfinite => return List.replicate amount queue.entryIndex

theorem getNextIndices_run_call (queue : QueueService Supplier)
    (usePlaybackOrder useRepeatMode : Bool) (amount : Nat) :
    (getNextIndices amount usePlaybackOrder useRepeatMode).run queue =
      match (queue.indicesCall usePlaybackOrder useRepeatMode amount).run
          (queue.source usePlaybackOrder) with
      | .ok indices kept =>
          .ok indices (queue.storeSource usePlaybackOrder kept)
      | .error exception kept =>
          .error exception (queue.storeSource usePlaybackOrder kept) := by
  have nonneg : ¬ ((amount : Int) < 0) := by omega
  simp only [getNextIndices, EStateM.run_bind, EStateM.run_get, indicesCall]
  cases queue.effectiveRepeatMode useRepeatMode with
  | none =>
      rfl
  | repeatEntryOnce =>
      simp only [if_neg nonneg, EStateM.run_bind, provideIndices_run,
        Int.toNat_natCast]
      cases outcome :
          (queue.provided usePlaybackOrder ((amount : Int) - 1)).run
            (queue.source usePlaybackOrder) with
      | ok indices kept =>
          rw [provided, source] at outcome
          rw [outcome]
          rfl
      | error exception kept =>
          rw [provided, source] at outcome
          rw [outcome]
  | repeatEntryInfinite =>
      have unchanged := storeSource_unchanged queue usePlaybackOrder
      simp only [if_neg nonneg, Int.toNat_natCast, source]
      exact congrArg _ unchanged.symm

end Calls

section Modes

variable {Supplier : Type} [QueueSupplier Supplier]
variable {queue : QueueService Supplier}
variable {usePlaybackOrder useRepeatMode : Bool}
variable {indices : List Int} {kept : IndexSource} {amount : Nat}

theorem forecast_none
    (mode : queue.effectiveRepeatMode useRepeatMode = .none)
    (forecast :
      Forecast (fun count => queue.provided usePlaybackOrder count)
        (queue.source usePlaybackOrder) 0 amount indices kept) :
    Forecast (queue.indicesCall usePlaybackOrder useRepeatMode)
      (queue.source usePlaybackOrder) 1 amount indices kept := by
  have call :
      queue.indicesCall usePlaybackOrder useRepeatMode =
        fun count : Nat => queue.provided usePlaybackOrder count := by
    funext count
    simp only [indicesCall, mode]
  rw [call]
  exact forecast.raise (Nat.zero_le 1)

theorem indicesCall_once {count : Nat} {source other : IndexSource}
    {further : List Int}
    (mode : queue.effectiveRepeatMode useRepeatMode = .repeatEntryOnce)
    (called :
      (queue.provided usePlaybackOrder (count : Nat)).run source =
        .ok further other) :
    (queue.indicesCall usePlaybackOrder useRepeatMode (count + 1)).run
        source =
      .ok ((queue.entryIndex :: further).take (count + 1)) other := by
  have less : ((count + 1 : Nat) : Int) - 1 = (count : Nat) := by omega
  simp only [indicesCall, mode, EStateM.run_bind, less, called]
  rfl

theorem forecast_once
    (mode : queue.effectiveRepeatMode useRepeatMode = .repeatEntryOnce)
    (forecast :
      Forecast (fun count => queue.provided usePlaybackOrder count)
        (queue.source usePlaybackOrder) 0 amount indices kept) :
    Forecast (queue.indicesCall usePlaybackOrder useRepeatMode)
      (queue.source usePlaybackOrder) 1 (amount + 1)
      (queue.entryIndex :: indices) kept where
  settles := by
    rw [indicesCall_once mode forecast.settles, List.take_succ_cons,
      List.take_of_length_le forecast.length]
  prefixes := by
    intro count least most
    obtain ⟨less, rfl⟩ : ∃ less, count = less + 1 :=
      ⟨count - 1, by omega⟩
    obtain ⟨other, called⟩ :=
      forecast.prefixes less (Nat.zero_le _) (by omega)
    refine ⟨other, ?_⟩
    rw [indicesCall_once mode called, List.take_succ_cons,
      List.take_succ_cons, List.take_take, Nat.min_self]
  repeats := by
    intro count least most
    obtain ⟨less, rfl⟩ : ∃ less, count = less + 1 :=
      ⟨count - 1, by omega⟩
    have called := forecast.repeats less (Nat.zero_le _) (by omega)
    rw [indicesCall_once mode called, List.take_succ_cons,
      List.take_succ_cons, List.take_take, Nat.min_self]
  length := Nat.succ_le_succ forecast.length

theorem forecast_infinite
    (mode :
      queue.effectiveRepeatMode useRepeatMode = .repeatEntryInfinite)
    (usePlaybackOrder : Bool) (amount : Nat) :
    Forecast (queue.indicesCall usePlaybackOrder useRepeatMode)
      (queue.source usePlaybackOrder) 1 amount
      (List.replicate amount queue.entryIndex)
      (queue.source usePlaybackOrder) := by
  have answers :
      ∀ count, count ≤ amount →
        (queue.indicesCall usePlaybackOrder useRepeatMode count).run
            (queue.source usePlaybackOrder) =
          .ok ((List.replicate amount queue.entryIndex).take count)
            (queue.source usePlaybackOrder) := by
    intro count below
    rw [List.take_replicate, Nat.min_eq_left below]
    simp only [indicesCall, mode]
    rfl
  have forecast :=
    forecast_of_unchanged answers (Nat.le_of_eq List.length_replicate)
  exact forecast.raise (Nat.zero_le 1)

theorem provided_zero (queue : FixedQueue) (usePlaybackOrder : Bool)
    (source : IndexSource) :
    (queue.provided usePlaybackOrder (0 : Nat)).run source =
      .ok [] source := by
  rw [provided]
  cases queue.provider usePlaybackOrder with
  | default =>
      have answered :=
        defaultProvider_run (Int.natCast_nonneg 0) queue.estimatedSize
          queue.entryIndex source
      refine answered.trans ?_
      rw [List.eq_nil_of_length_eq_zero
        (Nat.le_zero.mp (length_upcoming_le 0 _ _))]
  | random prepared =>
      rfl
  | shuffle prepared =>
      simp only [OrderIndexProvider.provideIndices,
        ShuffleOrderIndexProvider.provideIndices]
      split
      · rfl
      · rename_i more
        have none :
            min ((0 : Nat) : Int)
                (queue.estimatedSize -
                  queue.currentQueueIndicesPlayed.length) = (0 : Nat) := by
          omega
        simp only [EStateM.run_bind, EStateM.run_get, none,
          collectIndices_run]
        rfl

theorem forecast_zero (queue : FixedQueue) (usePlaybackOrder : Bool) :
    Forecast (fun count => queue.provided usePlaybackOrder count)
      (queue.source usePlaybackOrder) 0 0 []
      (queue.source usePlaybackOrder) := by
  refine forecast_of_unchanged ?_ (Nat.le_refl 0)
  intro count below
  rw [Nat.le_zero.mp below]
  exact provided_zero queue usePlaybackOrder _

end Modes

end QueueService

end JellyfinTv.Queue
