import Mathlib.Data.List.Nodup
import Mathlib.Data.List.Perm.Subperm
import Mathlib.Data.Stream.Init
import Mathlib.Tactic.Tauto
import JellyfinTv.Queue.Effects

/-!
# What the order providers answer

One equation for each provider: the default provider counts up from the
current index, the random provider extends its prepared list by fresh draws,
and the shuffle provider draws again wherever the position is not strictly
before the last prepared index.
-/

namespace JellyfinTv.Queue

open QueueService Library

/-- The positions after `currentIndex`, at most `amount` of them. -/
def upcoming (amount size currentIndex : Int) : List Int :=
  (List.range (min amount (size - currentIndex - 1)).toNat).map
    fun i : Nat => currentIndex + i + 1

theorem defaultProvider_run {amount : Int} (nonneg : 0 ≤ amount)
    (size currentIndex : Int) (source : IndexSource) :
    (DefaultOrderIndexProvider.provideIndices amount size
        currentIndex).run source =
      .ok (upcoming amount size currentIndex) source := by
  unfold DefaultOrderIndexProvider.provideIndices upcoming
  by_cases exhausted : size - currentIndex - 1 ≤ 0
  · have none : (min amount (size - currentIndex - 1)).toNat = 0 := by
      omega
    simp [exhausted, none]
  · have counted : ¬ min amount (size - currentIndex - 1) < 0 := by
      omega
    simp [exhausted, counted]

theorem defaultProvider_unchanged (amount size currentIndex : Int)
    (source : IndexSource) :
    finalState
        ((DefaultOrderIndexProvider.provideIndices amount size
          currentIndex).run source) = source := by
  simp only [DefaultOrderIndexProvider.provideIndices]
  split
  · rfl
  · split <;> rfl

/-- The next `count` draws below `size`. -/
def draws (size : Int) : Nat → Random → List Int
  | 0, _ => []
  | count + 1, random =>
      ((random.head : Int) % size) :: draws size count random.tail

@[simp]
theorem length_draws (size : Int) (count : Nat) (random : Random) :
    (draws size count random).length = count := by
  induction count generalizing random with
  | zero =>
      rfl
  | succ count inductionHypothesis =>
      simp [draws, inductionHypothesis]

theorem mem_draws_bounds {size : Int} (positive : 0 < size) :
    ∀ {count : Nat} {random : Random} {index : Int},
      index ∈ draws size count random → 0 ≤ index ∧ index < size
  | 0, _, _, member => by
      simp [draws] at member
  | count + 1, random, index, member => by
      simp only [draws, List.mem_cons] at member
      rcases member with rfl | later
      · exact ⟨Int.emod_nonneg _ (Int.ne_of_gt positive),
          Int.emod_lt_of_pos _ positive⟩
      · exact mem_draws_bounds positive later

/-- The prepared list once it has at least `count` elements. -/
def prepare (size : Int) (prepared : List Int) (count : Nat)
    (random : Random) : List Int :=
  prepared ++ draws size (count - prepared.length) random

theorem prepare_of_le {size : Int} {prepared : List Int} {count : Nat}
    (enough : count ≤ prepared.length) (random : Random) :
    prepare size prepared count random = prepared := by
  simp [prepare, Nat.sub_eq_zero_of_le enough, draws]

theorem nonneg_prepare {size : Int} {prepared : List Int} {count : Nat}
    (nonneg : NonnegPrepared prepared)
    (drawable : 0 < size ∨ count ≤ prepared.length) (random : Random) :
    NonnegPrepared (prepare size prepared count random) := by
  intro index member
  rcases List.mem_append.mp member with kept | drawn
  · exact nonneg index kept
  · rcases drawable with positive | enough
    · exact (mem_draws_bounds positive drawn).1
    · simp [Nat.sub_eq_zero_of_le enough, draws] at drawn

private theorem indexAt_prepared {size : Int} {position : Nat}
    {source : IndexSource} {index : Int}
    (found : source.nextIndices[position]? = some index) :
    (RandomOrderIndexProvider.indexAt size position).run source =
      .ok index source := by
  simp [RandomOrderIndexProvider.indexAt, found]

private theorem indexAt_drawn {size : Int} (positive : 0 < size)
    {position : Nat} {source : IndexSource}
    (missing : source.nextIndices[position]? = none) :
    (RandomOrderIndexProvider.indexAt size position).run source =
      .ok ((source.random.head : Int) % size)
        ⟨source.nextIndices ++ [(source.random.head : Int) % size],
          source.random.tail⟩ := by
  simp [RandomOrderIndexProvider.indexAt, missing, nextInt_run positive,
    addNextIndex]

theorem prepare_cons {size : Int} {prepared : List Int} {count : Nat}
    (short : prepared.length < count) (random : Random) :
    prepare size prepared count random =
      prepare size (prepared ++ [(random.head : Int) % size]) count
        random.tail := by
  obtain ⟨missing, rfl⟩ :
      ∃ missing, count = prepared.length + missing + 1 :=
    ⟨count - prepared.length - 1, by omega⟩
  have before :
      prepared.length + missing + 1 - prepared.length = missing + 1 := by
    omega
  have after :
      prepared.length + missing + 1 -
        (prepared ++ [(random.head : Int) % size]).length = missing := by
    simp
  rw [prepare, prepare, before, after, draws, List.append_assoc]
  rfl

theorem prepare_drop_eq_cons {size : Int} {prepared : List Int}
    {start total : Nat} {random : Random}
    (inside : start < prepared.length) :
    (prepare size prepared total random).drop start =
      prepared[start] ::
        (prepare size prepared total random).drop (start + 1) := by
  have longer :
      start < (prepare size prepared total random).length := by
    simp only [prepare, List.length_append]
    omega
  rw [List.drop_eq_getElem_cons longer]
  congr 1
  exact List.getElem_append_left inside

private theorem collectFrom_random (size : Int) (total count : Nat) :
    ∀ (start : Nat) (source : IndexSource),
      0 < size ∨ total ≤ source.nextIndices.length →
      start + count = total → start ≤ source.nextIndices.length →
        (collectFrom (RandomOrderIndexProvider.indexAt size)
            start count).run source =
          .ok
            (((prepare size source.nextIndices total
              source.random).drop start).take count)
            ⟨prepare size source.nextIndices total source.random,
              source.random.drop (total - source.nextIndices.length)⟩ := by
  induction count with
  | zero =>
      intro start source _ reached inside
      have enough : total ≤ source.nextIndices.length := by omega
      simp [collectFrom, prepare_of_le enough,
        Nat.sub_eq_zero_of_le enough]
  | succ count inductionHypothesis =>
      intro start source drawable reached inside
      have further : start + 1 + count = total := by omega
      simp only [collectFrom, EStateM.run_bind]
      rcases Nat.lt_or_eq_of_le inside with prepared | atEnd
      · have found :
            source.nextIndices[start]? =
              some source.nextIndices[start] :=
          List.getElem?_eq_getElem prepared
        rw [indexAt_prepared found]
        simp only [inductionHypothesis (start + 1) source drawable
          further prepared]
        rw [prepare_drop_eq_cons prepared, List.take_succ_cons]
        rfl
      · have missing : source.nextIndices[start]? = none :=
          List.getElem?_eq_none (Nat.le_of_eq atEnd.symm)
        have short : source.nextIndices.length < total := by omega
        have positive : 0 < size := by omega
        rw [indexAt_drawn positive missing, prepare_cons short]
        have grown :
            start + 1 ≤
              (source.nextIndices ++
                [(source.random.head : Int) % size]).length := by
          simp [atEnd]
        simp only [inductionHypothesis (start + 1) ⟨_, _⟩
          (Or.inl positive) further grown]
        have drawn :
            (source.nextIndices ++
              [(source.random.head : Int) % size])[start] =
                (source.random.head : Int) % size := by
          simp [atEnd]
        have remaining :
            source.random.drop (total - source.nextIndices.length) =
              source.random.tail.drop
                (total - (source.nextIndices ++
                  [(source.random.head : Int) % size]).length) := by
          obtain ⟨missing, rfl⟩ :
              ∃ missing,
                total = source.nextIndices.length + missing + 1 :=
            ⟨total - source.nextIndices.length - 1, by omega⟩
          rw [List.length_append, List.length_singleton,
            show source.nextIndices.length + missing + 1 -
              source.nextIndices.length = missing + 1 by omega,
            show source.nextIndices.length + missing + 1 -
              (source.nextIndices.length + 1) = missing by omega]
          rfl
        rw [prepare_drop_eq_cons grown, List.take_succ_cons, drawn,
          remaining]
        rfl

/-- The random provider answers from its prepared list, extended by draws. -/
theorem randomProvider_run {size : Int} {amount : Nat}
    {source : IndexSource}
    (drawable : 0 < size ∨ amount ≤ source.nextIndices.length) :
    (RandomOrderIndexProvider.provideIndices amount size).run source =
      .ok
        ((prepare size source.nextIndices amount source.random).take amount)
        ⟨prepare size source.nextIndices amount source.random,
          source.random.drop (amount - source.nextIndices.length)⟩ := by
  rw [RandomOrderIndexProvider.provideIndices, collectIndices_run]
  exact collectFrom_random size amount amount 0 source drawable
    (Nat.zero_add amount) (Nat.zero_le _)

/-- Fewer indices taken than the range holds leave a candidate. -/
theorem remainingIndices_ne_nil {size : Int}
    {playedIndices nextIndices : List Int}
    (few :
      ((playedIndices.length + nextIndices.length : Nat) : Int) ≤ size) :
    ShuffleOrderIndexProvider.remainingIndices size playedIndices
      nextIndices ≠ [] := by
  intro empty
  have covered :
      (List.range (size + 1).toNat).map (fun i : Nat => (i : Int)) ⊆
        playedIndices ++ nextIndices := by
    intro index member
    have dropped := List.filter_eq_nil_iff.mp empty index member
    simp only [decide_eq_true_eq] at dropped
    simp only [List.mem_append]
    tauto
  have distinct :
      ((List.range (size + 1).toNat).map fun i : Nat => (i : Int)).Nodup :=
    List.Nodup.map (fun _ _ same => Int.ofNat.inj same) List.nodup_range
  have bounded := (List.subperm_of_subset distinct covered).length_le
  simp only [List.length_map, List.length_range, List.length_append]
    at bounded
  omega

theorem shuffleProvider_run_ended {amount size : Int}
    {playedIndices : List Int}
    (ended : size - playedIndices.length ≤ 0) (source : IndexSource) :
    (ShuffleOrderIndexProvider.provideIndices amount size
        playedIndices).run source = .ok [] source := by
  simp only [ShuffleOrderIndexProvider.provideIndices, if_pos ended]
  rfl

private theorem collectFrom_shuffle (candidates : List Int)
    (source : IndexSource) (count : Nat) :
    ∀ start, start + count < source.nextIndices.length →
      (collectFrom (ShuffleOrderIndexProvider.indexAt candidates)
          start count).run source =
        .ok ((source.nextIndices.drop start).take count) source := by
  induction count with
  | zero =>
      intro start _
      simp [collectFrom]
  | succ count inductionHypothesis =>
      intro start before
      have early :
          (start : Int) < (source.nextIndices.length : Int) - 1 := by
        omega
      have inside : start < source.nextIndices.length := by omega
      simp only [collectFrom, EStateM.run_bind,
        shuffleIndexAt_prepared early,
        inductionHypothesis (start + 1) (by omega)]
      rw [List.drop_eq_getElem_cons inside, List.take_succ_cons,
        List.getD_eq_getElem?_getD, List.getElem?_eq_getElem inside]
      rfl

/-- Before the last prepared index the shuffle provider answers from its
prepared list. -/
theorem shuffleProvider_run_prepared {amount size : Int}
    {playedIndices : List Int} {source : IndexSource} {count : Nat}
    (more : 0 < size - playedIndices.length)
    (counted : min amount (size - playedIndices.length) = count)
    (before : count < source.nextIndices.length) :
    (ShuffleOrderIndexProvider.provideIndices amount size
        playedIndices).run source =
      .ok (source.nextIndices.take count) source := by
  simp only [ShuffleOrderIndexProvider.provideIndices,
    if_neg (Int.not_le.mpr more), EStateM.run_bind, EStateM.run_get,
    counted, collectIndices_run]
  rw [collectFrom_shuffle _ source count 0 (by omega), List.drop_zero]

/-- With at most one index prepared, the shuffle provider draws the first
index from the candidates. -/
theorem shuffleProvider_run_one {size : Int}
    {playedIndices prepared : List Int}
    (more : 0 < size - playedIndices.length)
    (short : prepared.length ≤ 1)
    (nonempty :
      ShuffleOrderIndexProvider.remainingIndices size playedIndices
        prepared ≠ []) (random : Random) :
    (ShuffleOrderIndexProvider.provideIndices 1 size playedIndices).run
        ⟨prepared, random⟩ =
      .ok
        [pick (ShuffleOrderIndexProvider.remainingIndices size
          playedIndices prepared) random]
        ⟨prepared ++
          [pick (ShuffleOrderIndexProvider.remainingIndices size
            playedIndices prepared) random], random.tail⟩ := by
  have late : ¬ ((0 : Nat) : Int) < (prepared.length : Int) - 1 := by
    omega
  have drawn :
      (ShuffleOrderIndexProvider.indexAt
          (ShuffleOrderIndexProvider.remainingIndices size playedIndices
            prepared) 0).run ⟨prepared, random⟩ =
        _ := shuffleIndexAt_drawn nonempty late
  have single : min 1 (size - (playedIndices.length : Int)) = (1 : Nat) := by
    omega
  simp only [ShuffleOrderIndexProvider.provideIndices,
    if_neg (Int.not_le.mpr more), EStateM.run_bind, EStateM.run_get,
    single, collectIndices_run, collectFrom, drawn]
  rfl

/-! ## The service's view of its provider -/

/-- A provider that has not drawn leaves the service as it was. -/
theorem storeSource_unchanged {Supplier : Type}
    (service : QueueService Supplier)
    (usePlaybackOrder : Bool) :
    service.storeSource usePlaybackOrder
        ⟨(service.provider usePlaybackOrder).nextIndices,
          service.random⟩ = service := by
  cases usePlaybackOrder with
  | false =>
      rfl
  | true =>
      have same :
          service.orderIndexProvider.withNextIndices
              service.orderIndexProvider.nextIndices =
            service.orderIndexProvider := by
        cases service.orderIndexProvider <;> rfl
      simp only [storeSource, provider, storeProvider, if_true, same]

theorem storeProvider_default {Supplier : Type}
    {service : QueueService Supplier}
    {usePlaybackOrder : Bool}
    (chosen : service.provider usePlaybackOrder = .default) :
    service.storeProvider usePlaybackOrder .default = service := by
  cases usePlaybackOrder with
  | false =>
      rfl
  | true =>
      have same : service.orderIndexProvider = .default := chosen
      simp only [storeProvider, if_true, ← same]

theorem useNextIndex_default {Supplier : Type}
    {service : QueueService Supplier}
    {usePlaybackOrder : Bool}
    (chosen : service.provider usePlaybackOrder = .default) :
    (useNextIndex usePlaybackOrder).run service = .ok () service := by
  simp only [useNextIndex, EStateM.run, chosen,
    OrderIndexProvider.useNextIndex, storeProvider_default chosen]

theorem provideIndices_zero_run (provider : OrderIndexProvider)
    (size : Int) (playedIndices : List Int) (currentIndex : Int)
    (source : IndexSource) :
    (provider.provideIndices 0 size playedIndices currentIndex).run source =
      .ok [] source := by
  cases provider with
  | default =>
      simp only [OrderIndexProvider.provideIndices,
        DefaultOrderIndexProvider.provideIndices]
      by_cases ended : size - currentIndex - 1 ≤ 0
      · rw [if_pos ended]
        rfl
      · have none : min 0 (size - currentIndex - 1) = 0 := by omega
        rw [if_neg ended, none]
        rfl
  | random indices =>
      rfl
  | shuffle indices =>
      simp only [OrderIndexProvider.provideIndices,
        ShuffleOrderIndexProvider.provideIndices]
      by_cases ended : size - playedIndices.length ≤ 0
      · rw [if_pos ended]
        rfl
      · have none : min 0 (size - (playedIndices.length : Int)) = 0 := by
          omega
        rw [if_neg ended, none]
        rfl

section Service

variable {Supplier : Type} [QueueSupplier Supplier]

/-- A provider that answers without drawing leaves the service as it was. -/
theorem provideIndices_of_ok {service : QueueService Supplier}
    {usePlaybackOrder : Bool} {provider : OrderIndexProvider}
    {amount : Int} {indices : List Int}
    (chosen : service.provider usePlaybackOrder = provider)
    (answered :
      (provider.provideIndices amount service.estimatedSize
          service.currentQueueIndicesPlayed service.entryIndex).run
          ⟨provider.nextIndices, service.random⟩ =
        .ok indices ⟨provider.nextIndices, service.random⟩) :
    (provideIndices amount usePlaybackOrder).run service =
      .ok indices service := by
  subst chosen
  rw [provideIndices_run, answered]
  exact congrArg _ (storeSource_unchanged service usePlaybackOrder)

/-- So does one that throws before it draws. -/
theorem provideIndices_of_error {service : QueueService Supplier}
    {usePlaybackOrder : Bool} {provider : OrderIndexProvider}
    {amount : Int} {exception : QueueException}
    (chosen : service.provider usePlaybackOrder = provider)
    (failed :
      (provider.provideIndices amount service.estimatedSize
          service.currentQueueIndicesPlayed service.entryIndex).run
          ⟨provider.nextIndices, service.random⟩ =
        .error exception ⟨provider.nextIndices, service.random⟩) :
    (provideIndices amount usePlaybackOrder).run service =
      .error exception service := by
  subst chosen
  rw [provideIndices_run, failed]
  exact congrArg _ (storeSource_unchanged service usePlaybackOrder)

theorem provideIndices_default {service : QueueService Supplier}
    {usePlaybackOrder : Bool}
    (chosen : service.provider usePlaybackOrder = .default)
    {amount : Int} (nonneg : 0 ≤ amount) :
    (provideIndices amount usePlaybackOrder).run service =
      .ok (upcoming amount service.estimatedSize service.entryIndex)
        service :=
  provideIndices_of_ok chosen
    (defaultProvider_run nonneg service.estimatedSize service.entryIndex
      ⟨[], service.random⟩)

/-- The default order never changes the service, whatever is asked for. -/
theorem provideIndices_default_unchanged
    {service : QueueService Supplier} {usePlaybackOrder : Bool}
    (chosen : service.provider usePlaybackOrder = .default)
    (amount : Int) :
    finalState ((provideIndices amount usePlaybackOrder).run service) =
      service := by
  have unchanged := storeSource_unchanged service usePlaybackOrder
  have same :=
    defaultProvider_unchanged amount service.estimatedSize
      service.entryIndex
      ⟨(service.provider usePlaybackOrder).nextIndices, service.random⟩
  rw [provideIndices_run]
  rw [chosen] at same unchanged ⊢
  simp only [OrderIndexProvider.provideIndices]
  split
  · rename_i answered
    rw [answered, finalState_ok] at same
    rw [same]
    exact unchanged
  · rename_i failed
    rw [failed, finalState_error] at same
    rw [same]
    exact unchanged

/-- The service after the random provider has prepared `amount` indices. -/
def withPrepared (service : QueueService Supplier) (prepared : List Int)
    (amount : Nat) : QueueService Supplier :=
  { service with
    orderIndexProvider :=
      .random (prepare service.estimatedSize prepared amount service.random)
    random := service.random.drop (amount - prepared.length) }

theorem provideIndices_random {service : QueueService Supplier}
    {prepared : List Int} {amount : Nat}
    (chosen : service.orderIndexProvider = .random prepared)
    (drawable :
      0 < service.estimatedSize ∨ amount ≤ prepared.length) :
    (provideIndices amount true).run service =
      .ok
        ((prepare service.estimatedSize prepared amount
          service.random).take amount)
        (withPrepared service prepared amount) := by
  have provided : service.provider true = .random prepared := chosen
  rw [provideIndices_run, provided, OrderIndexProvider.provideIndices,
    randomProvider_run drawable]
  simp only [storeSource, provided, storeProvider, if_true]
  rfl

theorem upcoming_one (size currentIndex : Int) :
    upcoming 1 size currentIndex =
      if currentIndex + 1 < size then [currentIndex + 1] else [] := by
  unfold upcoming
  split
  · rename_i more
    have one : (min 1 (size - currentIndex - 1)).toNat = 1 := by omega
    simp [one]
  · rename_i ended
    have zero : (min 1 (size - currentIndex - 1)).toNat = 0 := by omega
    simp [zero]

/-- In the default order `next` goes to the following position, as long as the
estimated size says that there is one. -/
theorem next_default {service : QueueService Supplier}
    {usePlaybackOrder useRepeatMode : Bool}
    (mode : service.effectiveRepeatMode useRepeatMode = .none)
    (chosen : service.provider usePlaybackOrder = .default) :
    (next usePlaybackOrder useRepeatMode).run service =
      if service.entryIndex + 1 < service.estimatedSize then
        (setIndex (service.entryIndex + 1) true).run service
      else .ok none service := by
  have picked :
      (getNextIndices 1 usePlaybackOrder useRepeatMode).run service =
        .ok (upcoming 1 service.estimatedSize service.entryIndex)
          service := by
    rw [getNextIndices_run_none mode,
      provideIndices_default chosen (by decide)]
  rw [upcoming_one] at picked
  split
  · rename_i more
    rw [if_pos more] at picked
    refine next_run_of_chosen picked ?_
    rw [consumeIndex_run_none mode, useNextIndex_default chosen]
  · rename_i ended
    rw [if_neg ended] at picked
    exact next_run_of_none picked

/-- In the random order `next` takes the first prepared index. -/
theorem next_random {service : QueueService Supplier}
    {useRepeatMode : Bool} {prepared : List Int}
    (mode : service.effectiveRepeatMode useRepeatMode = .none)
    (chosen : service.orderIndexProvider = .random prepared)
    (drawable : 0 < service.estimatedSize ∨ 1 ≤ prepared.length) :
    ∃ index rest,
      prepare service.estimatedSize prepared 1 service.random =
        index :: rest ∧
      (next true useRepeatMode).run service =
        (setIndex index true).run
          { withPrepared service prepared 1 with
            orderIndexProvider := .random rest } := by
  have picked :
      (getNextIndices (1 : Nat) true useRepeatMode).run service =
        .ok
          ((prepare service.estimatedSize prepared 1
            service.random).take 1)
          (withPrepared service prepared 1) := by
    rw [getNextIndices_run_none mode, provideIndices_random chosen drawable]
  obtain ⟨index, rest, shape⟩ :
      ∃ index rest,
        prepare service.estimatedSize prepared 1 service.random =
          index :: rest := by
    apply List.exists_cons_of_length_pos
    simp only [prepare, List.length_append, length_draws]
    omega
  refine ⟨index, rest, shape, ?_⟩
  rw [shape] at picked
  refine next_run_of_chosen picked ?_
  have sameMode :
      (withPrepared service prepared 1).effectiveRepeatMode
        useRepeatMode = .none := mode
  rw [consumeIndex_run_none sameMode]
  simp only [useNextIndex, EStateM.run, provider, if_true, withPrepared,
    shape, OrderIndexProvider.useNextIndex, storeProvider]

/-- In the shuffle order with at most one index prepared, `next` draws, drops
the first prepared index and jumps to the drawn one. -/
theorem next_shuffle {service : QueueService Supplier}
    {useRepeatMode : Bool} {prepared : List Int} {index : Int}
    (mode : service.effectiveRepeatMode useRepeatMode = .none)
    (chosen : service.orderIndexProvider = .shuffle prepared)
    (short : prepared.length ≤ 1)
    (more :
      (service.currentQueueIndicesPlayed.length : Int) <
        service.estimatedSize)
    (nonempty :
      ShuffleOrderIndexProvider.remainingIndices service.estimatedSize
        service.currentQueueIndicesPlayed prepared ≠ [])
    (drawn :
      pick (ShuffleOrderIndexProvider.remainingIndices
        service.estimatedSize service.currentQueueIndicesPlayed prepared)
        service.random = index) :
    (getNextIndices 1 true useRepeatMode).run service =
        .ok [index]
          { service with
            orderIndexProvider := .shuffle (prepared ++ [index])
            random := service.random.tail } ∧
      (next true useRepeatMode).run service =
        (setIndex index true).run
          { service with
            orderIndexProvider := .shuffle (prepared ++ [index]).tail
            random := service.random.tail } := by
  have provided : service.provider true = .shuffle prepared := chosen
  have picked :
      (getNextIndices 1 true useRepeatMode).run service =
        .ok [index]
          { service with
            orderIndexProvider := .shuffle (prepared ++ [index])
            random := service.random.tail } := by
    rw [getNextIndices_run_none mode, provideIndices_run, provided]
    simp only [OrderIndexProvider.provideIndices,
      OrderIndexProvider.nextIndices,
      shuffleProvider_run_one (Int.sub_pos.mpr more) short nonempty,
      drawn, storeSource, provided, storeProvider, if_true]
    rfl
  refine ⟨picked, next_run_of_chosen picked ?_⟩
  have sameMode :
      effectiveRepeatMode
        { service with
          orderIndexProvider := .shuffle (prepared ++ [index])
          random := service.random.tail } useRepeatMode = .none := mode
  rw [consumeIndex_run_none sameMode]
  cases prepared with
  | nil =>
      rfl
  | cons first rest =>
      rfl

theorem provideIndices_shuffle_prepared {service : QueueService Supplier}
    {prepared : List Int} {amount : Int} {count : Nat}
    (chosen : service.orderIndexProvider = .shuffle prepared)
    (more :
      0 < service.estimatedSize - service.currentQueueIndicesPlayed.length)
    (counted :
      min amount
        (service.estimatedSize -
          service.currentQueueIndicesPlayed.length) = count)
    (before : count < prepared.length) :
    (provideIndices amount true).run service =
      .ok (prepared.take count) service := by
  have provided : service.provider true = .shuffle prepared := chosen
  exact
    provideIndices_of_ok provided
      (shuffleProvider_run_prepared more counted before)

/-- In the shuffle order with more than one index prepared, `next` jumps to the
first of them. -/
theorem next_shuffle_prepared {service : QueueService Supplier}
    {useRepeatMode : Bool} {index other : Int} {rest : List Int}
    (mode : service.effectiveRepeatMode useRepeatMode = .none)
    (chosen :
      service.orderIndexProvider = .shuffle (index :: other :: rest))
    (more :
      (service.currentQueueIndicesPlayed.length : Int) <
        service.estimatedSize) :
    (next true useRepeatMode).run service =
      (setIndex index true).run
        { service with orderIndexProvider := .shuffle (other :: rest) } := by
  have single :
      min 1 (service.estimatedSize -
        (service.currentQueueIndicesPlayed.length : Int)) = (1 : Nat) := by
    omega
  have picked :
      (getNextIndices 1 true useRepeatMode).run service =
        .ok [index] service := by
    rw [getNextIndices_run_none mode]
    exact provideIndices_shuffle_prepared chosen (by omega) single (by simp)
  refine next_run_of_chosen picked ?_
  have provided :
      service.provider true = .shuffle (index :: other :: rest) := chosen
  rw [consumeIndex_run_none mode]
  simp only [useNextIndex, EStateM.run, provided,
    OrderIndexProvider.useNextIndex, storeProvider, if_true]

/-- Asking a provider for no index changes nothing. -/
theorem provideIndices_zero (usePlaybackOrder : Bool)
    (service : QueueService Supplier) :
    (provideIndices 0 usePlaybackOrder).run service = .ok [] service := by
  rw [provideIndices_run, provideIndices_zero_run]
  cases usePlaybackOrder with
  | false =>
      rfl
  | true =>
      obtain ⟨_, _, _, _, _, provider⟩ := service
      cases provider <;> rfl

theorem getNextIndices_repeating {service : QueueService Supplier}
    {usePlaybackOrder useRepeatMode : Bool}
    (mode : service.effectiveRepeatMode useRepeatMode ≠ .none) :
    (getNextIndices 1 usePlaybackOrder useRepeatMode).run service =
      .ok [service.entryIndex] service := by
  simp only [getNextIndices, EStateM.run_bind, EStateM.run_get]
  rw [if_neg (by decide)]
  cases repeated : service.effectiveRepeatMode useRepeatMode with
  | none =>
      exact absurd repeated mode
  | repeatEntryOnce =>
      simp only [EStateM.run_bind, Int.sub_self, provideIndices_zero]
      rfl
  | repeatEntryInfinite =>
      rfl

/-- In a repeat mode `next` goes to the current index once more. -/
theorem next_repeating {service : QueueService Supplier}
    {usePlaybackOrder useRepeatMode : Bool}
    (mode : service.effectiveRepeatMode useRepeatMode ≠ .none) :
    ∃ selected, Selects service selected ∧
      (next usePlaybackOrder useRepeatMode).run service =
        (setIndex service.entryIndex true).run selected := by
  cases repeated : service.effectiveRepeatMode useRepeatMode with
  | none =>
      exact absurd repeated mode
  | repeatEntryOnce =>
      have used :
          (consumeIndex service.entryIndex usePlaybackOrder
            useRepeatMode).run service =
              .ok () (service.setRepeatMode .none) := by
        simp only [consumeIndex, EStateM.run_bind, EStateM.run_get,
          repeated, if_true]
        rfl
      exact ⟨service.setRepeatMode .none, ⟨rfl, rfl, id⟩,
        next_run_of_chosen (getNextIndices_repeating mode) used⟩
  | repeatEntryInfinite =>
      have used :
          (consumeIndex service.entryIndex usePlaybackOrder
            useRepeatMode).run service = .ok () service := by
        simp only [consumeIndex, EStateM.run_bind, EStateM.run_get,
          repeated]
        rfl
      exact ⟨service, ⟨rfl, rfl, id⟩,
        next_run_of_chosen (getNextIndices_repeating mode) used⟩

end Service

end JellyfinTv.Queue
