import JellyfinTv.Queue.Loading

/-!
# What the operations may change

Choosing indices touches only the order provider, the random source and the
repeat mode (`Selects`).  Jumping and peeking also load entries and move the
cursor, but keep the eagerly loaded queue (`Keeps`).  Only `addSupplier`,
`removeEntry` and `clear` change the contents, and `step_contents` says how.
-/

namespace JellyfinTv.Queue

open QueueService Library

namespace OrderIndexProvider

/-- The playback order a provider implements. -/
def order : OrderIndexProvider → PlaybackOrder
  | .default => .default
  | .random _ => .random
  | .shuffle _ => .shuffle

@[simp]
theorem order_ofOrder (order : PlaybackOrder) :
    (ofOrder order).order = order := by
  cases order <;> rfl

@[simp]
theorem order_withNextIndices (provider : OrderIndexProvider)
    (indices : List Int) :
    (provider.withNextIndices indices).order = provider.order := by
  cases provider <;> rfl

@[simp]
theorem order_notifyRemoved (provider : OrderIndexProvider) (index : Int) :
    (provider.notifyRemoved index).order = provider.order := by
  cases provider <;> rfl

theorem nonneg_withNextIndices {provider : OrderIndexProvider}
    {indices : List Int}
    (nonneg : NonnegPrepared provider.nextIndices → NonnegPrepared indices) :
    NonnegPrepared provider.nextIndices →
      NonnegPrepared (provider.withNextIndices indices).nextIndices := by
  cases provider with
  | default => exact id
  | random next => exact nonneg
  | shuffle next => exact nonneg

theorem nonneg_notifyRemoved {provider : OrderIndexProvider}
    (nonneg : NonnegPrepared provider.nextIndices) {index : Int}
    (start : 0 ≤ index) :
    NonnegPrepared (provider.notifyRemoved index).nextIndices := by
  cases provider with
  | default => exact nonneg
  | random next => exact nonneg.shiftRemoved start
  | shuffle next => exact nonneg.shiftRemoved start

/-- Using an index drops the first prepared one. -/
theorem useNextIndex_spec {provider used : OrderIndexProvider}
    (outcome : provider.useNextIndex = .ok used) :
    used.order = provider.order ∧
      used.nextIndices = provider.nextIndices.tail := by
  cases provider with
  | default =>
      injection outcome with same
      rw [← same]
      exact ⟨rfl, rfl⟩
  | random next =>
      cases next with
      | nil => cases outcome
      | cons head rest =>
          injection outcome with same
          rw [← same]
          exact ⟨rfl, rfl⟩
  | shuffle next =>
      cases next with
      | nil => cases outcome
      | cons head rest =>
          injection outcome with same
          rw [← same]
          exact ⟨rfl, rfl⟩

end OrderIndexProvider

section Selection

variable {Supplier : Type}

/-- Only the order provider, the random source and the repeat mode differ; the
provider keeps its order and prepares no negative index. -/
structure Selects (before after : QueueService Supplier) : Prop where
  frame :
    after =
      { before with
        orderIndexProvider := after.orderIndexProvider
        random := after.random
        repeatMode := after.repeatMode }
  order : after.orderIndexProvider.order = before.orderIndexProvider.order
  nonneg :
    NonnegPrepared before.orderIndexProvider.nextIndices →
      NonnegPrepared after.orderIndexProvider.nextIndices

instance : IsPreorder (QueueService Supplier) Selects where
  refl _ := ⟨rfl, rfl, id⟩
  trans _ _ _ first second :=
    ⟨by rw [second.frame, first.frame], second.order.trans first.order,
      second.nonneg ∘ first.nonneg⟩

theorem selects_storeProvider (service : QueueService Supplier)
    (usePlaybackOrder : Bool) {provider : OrderIndexProvider}
    (sameOrder :
      provider.order = (service.provider usePlaybackOrder).order)
    (nonneg :
      NonnegPrepared (service.provider usePlaybackOrder).nextIndices →
        NonnegPrepared provider.nextIndices) :
    Selects service (service.storeProvider usePlaybackOrder provider) := by
  cases usePlaybackOrder with
  | false => exact ⟨rfl, rfl, id⟩
  | true => exact ⟨rfl, sameOrder, nonneg⟩

theorem selects_storeSource (service : QueueService Supplier)
    (usePlaybackOrder : Bool) {source : IndexSource}
    (nonneg :
      NonnegPrepared (service.provider usePlaybackOrder).nextIndices →
        NonnegPrepared source.nextIndices) :
    Selects service (service.storeSource usePlaybackOrder source) := by
  have stored :=
    selects_storeProvider service usePlaybackOrder
      (OrderIndexProvider.order_withNextIndices
        (service.provider usePlaybackOrder) source.nextIndices)
      (OrderIndexProvider.nonneg_withNextIndices nonneg)
  refine ⟨?_, stored.order, stored.nonneg⟩
  rw [storeSource]
  conv_lhs => rw [stored.frame]

theorem respects_useNextIndex (usePlaybackOrder : Bool) :
    Respects Selects
      (useNextIndex usePlaybackOrder : QueueM Supplier Unit) := by
  intro service
  simp only [useNextIndex, EStateM.run]
  split
  · rename_i provider used
    obtain ⟨sameOrder, rest⟩ := OrderIndexProvider.useNextIndex_spec used
    refine selects_storeProvider service usePlaybackOrder sameOrder ?_
    intro nonneg index member
    rw [rest] at member
    exact nonneg index (List.mem_of_mem_tail member)
  · exact Std.Refl.refl service

theorem respects_consumeIndex (index : Int)
    (usePlaybackOrder useRepeatMode : Bool) :
    Respects Selects
      (consumeIndex index usePlaybackOrder useRepeatMode :
        QueueM Supplier Unit) := by
  unfold consumeIndex
  refine Respects.bind Respects.get fun service => ?_
  split
  · exact respects_useNextIndex usePlaybackOrder
  · apply Respects.ite
    · exact Respects.modify fun _ => ⟨rfl, rfl, id⟩
    · exact Respects.pure _
  · exact Respects.pure _

theorem consumeIndex_run_none {service : QueueService Supplier}
    {useRepeatMode : Bool}
    (mode : service.effectiveRepeatMode useRepeatMode = .none)
    (index : Int) (usePlaybackOrder : Bool) :
    (consumeIndex index usePlaybackOrder useRepeatMode).run service =
      (useNextIndex usePlaybackOrder).run service := by
  simp only [consumeIndex, EStateM.run_bind, EStateM.run_get, mode]

variable [QueueSupplier Supplier]

theorem provideIndices_run (amount : Int) (usePlaybackOrder : Bool)
    (service : QueueService Supplier) :
    (provideIndices amount usePlaybackOrder).run service =
      match ((service.provider usePlaybackOrder).provideIndices amount
          service.estimatedSize service.currentQueueIndicesPlayed
          service.entryIndex).run
          ⟨(service.provider usePlaybackOrder).nextIndices,
            service.random⟩ with
      | .ok indices source =>
          .ok indices (service.storeSource usePlaybackOrder source)
      | .error exception source =>
          .error exception (service.storeSource usePlaybackOrder source) :=
  rfl

theorem respects_provideIndices (amount : Int) (usePlaybackOrder : Bool) :
    Respects Selects
      (provideIndices amount usePlaybackOrder :
        QueueM Supplier (List Int)) := by
  intro service
  have nonneg :=
    respects_provideIndices_nonneg amount service.estimatedSize
      service.currentQueueIndicesPlayed service.entryIndex
      (service.provider usePlaybackOrder)
      ⟨(service.provider usePlaybackOrder).nextIndices, service.random⟩
  rw [provideIndices_run]
  split
  · rename_i answered
    rw [answered] at nonneg
    exact selects_storeSource service usePlaybackOrder nonneg
  · rename_i failed
    rw [failed] at nonneg
    exact selects_storeSource service usePlaybackOrder nonneg

theorem respects_getNextIndices (amount : Int)
    (usePlaybackOrder useRepeatMode : Bool) :
    Respects Selects
      (getNextIndices amount usePlaybackOrder useRepeatMode :
        QueueM Supplier (List Int)) := by
  unfold getNextIndices
  refine Respects.bind Respects.get fun service => ?_
  split
  · exact respects_provideIndices amount usePlaybackOrder
  · refine Respects.ite (Respects.throw _) (Respects.bind ?_ ?_)
    · exact respects_provideIndices (amount - 1) usePlaybackOrder
    · exact fun _ => Respects.pure _
  · exact Respects.ite (Respects.throw _) (Respects.pure _)

theorem getNextIndices_run_none {service : QueueService Supplier}
    {useRepeatMode : Bool}
    (mode : service.effectiveRepeatMode useRepeatMode = .none)
    (amount : Int) (usePlaybackOrder : Bool) :
    (getNextIndices amount usePlaybackOrder useRepeatMode).run service =
      (provideIndices amount usePlaybackOrder).run service := by
  simp only [getNextIndices, EStateM.run_bind, EStateM.run_get, mode]

theorem next_run_of_chosen {service chosen consumed : QueueService Supplier}
    {usePlaybackOrder useRepeatMode : Bool} {index : Int}
    {rest : List Int}
    (picked :
      (getNextIndices 1 usePlaybackOrder useRepeatMode).run service =
        .ok (index :: rest) chosen)
    (used :
      (consumeIndex index usePlaybackOrder useRepeatMode).run chosen =
        .ok () consumed) :
    (next usePlaybackOrder useRepeatMode).run service =
      (setIndex index true).run consumed := by
  simp only [next, EStateM.run_bind, picked, List.head?_cons, used]

theorem next_run_of_none {service chosen : QueueService Supplier}
    {usePlaybackOrder useRepeatMode : Bool}
    (picked :
      (getNextIndices 1 usePlaybackOrder useRepeatMode).run service =
        .ok [] chosen) :
    (next usePlaybackOrder useRepeatMode).run service =
      .ok none chosen := by
  simp only [next, EStateM.run_bind, picked, List.head?_nil]
  rfl

theorem outcome_next_of_run {service final : QueueService Supplier}
    {entry : Option QueueEntry} {usePlaybackOrder useRepeatMode : Bool}
    (ran :
      (next usePlaybackOrder useRepeatMode).run service =
        .ok entry final) :
    outcome service (.next usePlaybackOrder useRepeatMode) =
      .ok (.entry entry) := by
  simp only [outcome, perform, EStateM.run_bind, ran]
  rfl

theorem step_next {service final : QueueService Supplier}
    {entry : Option QueueEntry} {usePlaybackOrder useRepeatMode : Bool}
    (ran :
      (next usePlaybackOrder useRepeatMode).run service =
        .ok entry final) :
    step service (.next usePlaybackOrder useRepeatMode) = final := by
  simp only [step, perform, EStateM.run_bind, ran]
  rfl

theorem step_peekNext {service final : QueueService Supplier}
    {entries : List QueueEntry} {amount : Int}
    {usePlaybackOrder useRepeatMode : Bool}
    (ran :
      (peekNext amount usePlaybackOrder useRepeatMode).run service =
        .ok entries final) :
    step service (.peekNext amount usePlaybackOrder useRepeatMode) =
      final := by
  simp only [step, perform, EStateM.run_bind, ran]
  rfl

/-- `next` throws or gives up while it chooses an index, or jumps to it. -/
theorem next_cases (usePlaybackOrder useRepeatMode : Bool)
    (service : QueueService Supplier) :
    ∃ selected, Selects service selected ∧
      ((∃ exception,
          (next usePlaybackOrder useRepeatMode).run service =
            .error exception selected) ∨
        ((getNextIndices 1 usePlaybackOrder useRepeatMode).run service =
            .ok [] selected ∧
          (next usePlaybackOrder useRepeatMode).run service =
            .ok none selected) ∨
        ∃ index,
          (next usePlaybackOrder useRepeatMode).run service =
            (setIndex index true).run selected) := by
  have chosen :=
    respects_getNextIndices 1 usePlaybackOrder useRepeatMode service
  simp only [next, EStateM.run_bind]
  cases outcome :
      (getNextIndices 1 usePlaybackOrder useRepeatMode).run service with
  | error exception selected =>
      rw [outcome] at chosen
      exact ⟨selected, chosen, Or.inl ⟨exception, rfl⟩⟩
  | ok indices selected =>
      rw [outcome] at chosen
      cases indices with
      | nil =>
          exact ⟨selected, chosen, Or.inr (Or.inl ⟨rfl, rfl⟩)⟩
      | cons index rest =>
          have consumed :=
            respects_consumeIndex index usePlaybackOrder useRepeatMode
              selected
          simp only [List.head?_cons, EStateM.run_bind]
          cases consumption :
              (consumeIndex index usePlaybackOrder useRepeatMode).run
                selected with
          | error exception final =>
              rw [consumption] at consumed
              exact ⟨final, IsTrans.trans _ _ _ chosen consumed,
                Or.inl ⟨exception, rfl⟩⟩
          | ok _ final =>
              rw [consumption] at consumed
              exact ⟨final, IsTrans.trans _ _ _ chosen consumed,
                Or.inr (Or.inr ⟨index, rfl⟩)⟩

end Selection

namespace QueueService

/-- The eagerly loaded queue, the suppliers and the playback order stay as they
are; the cache may grow and the cursor may move. -/
structure Keeps (before after : FixedQueue) : Prop where
  catalogue : after.catalogue = before.catalogue
  contents : after.contents = before.contents
  fetched : before.fetchedEntries <+: after.fetchedEntries
  positioned : before.Positioned → after.Positioned
  published :
    before.entries = before.fetchedEntries →
      after.entries = after.fetchedEntries
  removedEntries : after.removedEntries = before.removedEntries
  playbackOrder : after.playbackOrder = before.playbackOrder
  order : after.orderIndexProvider.order = before.orderIndexProvider.order

instance : IsPreorder FixedQueue Keeps where
  refl _ := ⟨rfl, rfl, List.prefix_rfl, id, id, rfl, rfl, rfl⟩
  trans _ _ _ first second :=
    { catalogue := second.catalogue.trans first.catalogue
      contents := second.contents.trans first.contents
      fetched := first.fetched.trans second.fetched
      positioned := second.positioned ∘ first.positioned
      published := second.published ∘ first.published
      removedEntries := second.removedEntries.trans first.removedEntries
      playbackOrder := second.playbackOrder.trans first.playbackOrder
      order := second.order.trans first.order }

theorem Keeps.of_selects {before after : FixedQueue}
    (selected : Selects before after) : Keeps before after := by
  have order := selected.order
  rw [selected.frame] at order ⊢
  exact ⟨rfl, rfl, List.prefix_rfl, id, id, rfl, rfl, order⟩

theorem Keeps.of_load (index : Int) (queue : FixedQueue) :
    Keeps queue (load index queue) := by
  obtain ⟨_, loads, published, _⟩ := getOrSupplyEntry_spec index queue
  exact
    { catalogue := loads.catalogue
      contents := loads.contents
      fetched := loads.fetched
      positioned := loads.positioned
      published := published
      removedEntries := by rw [loads.frame]
      playbackOrder := by rw [loads.frame]
      order := by rw [loads.frame] }

theorem Keeps.of_saveCurrentIndex (saveHistory : Bool)
    (queue : FixedQueue) :
    Keeps queue (saveCurrentIndex saveHistory queue) := by
  unfold saveCurrentIndex
  split
  · exact ⟨rfl, rfl, List.prefix_rfl, id, id, rfl, rfl, rfl⟩
  · exact Std.Refl.refl queue

theorem Keeps.of_applyIndex (index : Int) (entry : Option QueueEntry)
    (queue : FixedQueue) :
    Keeps queue (applyIndex index entry queue) :=
  ⟨rfl, rfl, List.prefix_rfl, id, id, rfl, rfl, rfl⟩

/-- The queue after `setIndex` with an index it does not reject. -/
def jump (index : Int) (saveHistory : Bool) (queue : FixedQueue) :
    FixedQueue :=
  applyIndex index (entryAt queue.contents index)
    (load index (saveCurrentIndex saveHistory queue))

theorem setIndex_run (index : Int) (saveHistory : Bool)
    (queue : FixedQueue) :
    (setIndex index saveHistory).run queue =
      if index < 0 ∧ index ≠ INDEX_NONE then .ok none queue
      else
        .ok (entryAt queue.contents index)
          (jump index saveHistory queue) := by
  have supplied :=
    (getOrSupplyEntry_spec index (saveCurrentIndex saveHistory queue)).1
  rw [(Keeps.of_saveCurrentIndex saveHistory queue).contents] at supplied
  split
  · rename_i rejected
    simp only [setIndex, if_pos rejected]
    rfl
  · rename_i accepted
    exact setIndex_run_of_supplied accepted supplied

theorem load_provider (index : Int) (queue : FixedQueue) :
    (load index queue).orderIndexProvider = queue.orderIndexProvider := by
  rw [(getOrSupplyEntry_spec index queue).2.1.frame]

theorem saveCurrentIndex_provider (saveHistory : Bool)
    (queue : FixedQueue) :
    (saveCurrentIndex saveHistory queue).orderIndexProvider =
      queue.orderIndexProvider := by
  unfold saveCurrentIndex
  split <;> rfl

theorem jump_provider (index : Int) (saveHistory : Bool)
    (queue : FixedQueue) :
    (jump index saveHistory queue).orderIndexProvider =
      queue.orderIndexProvider :=
  (load_provider index _).trans (saveCurrentIndex_provider _ _)

theorem jump_history (index : Int) (saveHistory : Bool)
    (queue : FixedQueue) :
    (jump index saveHistory queue).currentQueueIndicesPlayed =
      (saveCurrentIndex saveHistory queue).currentQueueIndicesPlayed := by
  simp only [jump, applyIndex]
  rw [(getOrSupplyEntry_spec index _).2.1.frame]

theorem jump_repeatMode (index : Int) (saveHistory : Bool)
    (queue : FixedQueue) :
    (jump index saveHistory queue).repeatMode = queue.repeatMode := by
  simp only [jump, applyIndex]
  rw [(getOrSupplyEntry_spec index _).2.1.frame, saveCurrentIndex]
  split <;> rfl

theorem saveCurrentIndex_false (queue : FixedQueue) :
    saveCurrentIndex false queue = queue := by
  simp [saveCurrentIndex]

theorem length_saveCurrentIndex_le (saveHistory : Bool)
    (queue : FixedQueue) :
    (saveCurrentIndex saveHistory queue).currentQueueIndicesPlayed.length ≤
      queue.currentQueueIndicesPlayed.length + 1 := by
  unfold saveCurrentIndex
  split
  · simp
  · exact Nat.le_succ _

theorem step_setIndex (index : Int) (saveHistory : Bool)
    (queue : FixedQueue) :
    step queue (.setIndex index saveHistory) =
      if index < 0 ∧ index ≠ INDEX_NONE then queue
      else jump index saveHistory queue := by
  simp only [step, perform, EStateM.run_bind, setIndex_run]
  by_cases rejected : index < 0 ∧ index ≠ INDEX_NONE
  · simp only [if_pos rejected]
    rfl
  · simp only [if_neg rejected]
    rfl

/-- A queue without a current entry starts at its first position. -/
theorem startPlaying_run (queue : FixedQueue) :
    startPlaying.run queue =
      .ok ()
        (if queue.entryIndex = INDEX_NONE then jump 0 false queue
        else queue) := by
  have first :
      (setIndex 0 false).run queue =
        .ok (entryAt queue.contents 0) (jump 0 false queue) := by
    rw [setIndex_run, if_neg (by decide)]
  simp only [startPlaying, EStateM.run_bind, EStateM.run_get]
  by_cases idle : queue.entryIndex = INDEX_NONE
  · simp only [if_pos idle, EStateM.run_bind, first]
    rfl
  · simp only [if_neg idle]
    rfl

theorem step_addSupplier_eq (queue : FixedQueue)
    (supplier : FixedSupplier) :
    step queue (.addSupplier supplier) =
      if queue.entryIndex = INDEX_NONE then
        jump 0 false (queue.withSupplier supplier)
      else queue.withSupplier supplier := by
  simp only [step, perform, addSupplier, EStateM.run_bind,
    EStateM.run_modify, startPlaying_run]
  rfl

/-- A relation that holds across choosing indices, loading entries, jumping
and dropping the last index of the history.  It then holds across every
operation that leaves the contents alone. -/
structure Movement (related : FixedQueue → FixedQueue → Prop) : Prop where
  selects :
    ∀ {before after : FixedQueue},
      Selects before after → related before after
  loads :
    ∀ (index : Int) (queue : FixedQueue), related queue (load index queue)
  jumps :
    ∀ (index : Int) (saveHistory : Bool) (queue : FixedQueue),
      related queue (jump index saveHistory queue)
  forgets :
    ∀ queue : FixedQueue,
      related queue
        { queue with
          currentQueueIndicesPlayed :=
            queue.currentQueueIndicesPlayed.dropLast }

/-- The operations that leave the contents and the playback order alone. -/
def Steady : Operation FixedSupplier → Prop
  | .addSupplier _ | .removeEntry _ | .clear | .setPlaybackOrder _ => False
  | _ => True

/-- One case for all steady operations and one for each other operation. -/
@[elab_as_elim]
theorem steadyCases {motive : Operation FixedSupplier → Prop}
    (operation : Operation FixedSupplier)
    (steady : ∀ operation, Steady operation → motive operation)
    (addSupplier : ∀ supplier, motive (.addSupplier supplier))
    (removeEntry : ∀ entry, motive (.removeEntry entry))
    (clear : motive .clear)
    (setPlaybackOrder : ∀ order, motive (.setPlaybackOrder order)) :
    motive operation := by
  cases operation with
  | addSupplier supplier =>
      exact addSupplier supplier
  | removeEntry entry =>
      exact removeEntry entry
  | clear =>
      exact clear
  | setPlaybackOrder order =>
      exact setPlaybackOrder order
  | setIndex | next | previous | peekNext | peekPrevious
    | mediaStreamEnd | setRepeatMode =>
      exact steady _ trivial

namespace Movement

variable {related : FixedQueue → FixedQueue → Prop}
variable [IsPreorder FixedQueue related]

theorem setIndex (movement : Movement related) (index : Int)
    (saveHistory : Bool) :
    Respects related
      (Queue.setIndex index saveHistory :
        QueueM FixedSupplier (Option QueueEntry)) := by
  intro queue
  rw [setIndex_run]
  split
  · exact Std.Refl.refl queue
  · exact movement.jumps index saveHistory queue

theorem next (movement : Movement related)
    (usePlaybackOrder useRepeatMode : Bool) :
    Respects related
      (Queue.next usePlaybackOrder useRepeatMode :
        QueueM FixedSupplier (Option QueueEntry)) := by
  intro queue
  obtain ⟨selected, selects, failed | ⟨_, ended⟩ | ⟨index, jumped⟩⟩ :=
    next_cases usePlaybackOrder useRepeatMode queue
  · obtain ⟨exception, outcome⟩ := failed
    rw [outcome]
    exact movement.selects selects
  · rw [ended]
    exact movement.selects selects
  · rw [jumped]
    exact IsTrans.trans _ _ _ (movement.selects selects)
      (movement.setIndex index true selected)

theorem previous (movement : Movement related) :
    Respects related
      (Queue.previous : QueueM FixedSupplier (Option QueueEntry)) := by
  refine Respects.bind Respects.get fun queue => ?_
  split
  · exact Respects.pure _
  · exact Respects.bind (Respects.modify movement.forgets)
      fun _ => movement.setIndex _ false

theorem peekPrevious (movement : Movement related) :
    Respects related
      (Queue.peekPrevious : QueueM FixedSupplier (Option QueueEntry)) := by
  refine Respects.bind Respects.get fun queue => ?_
  split
  · exact Respects.pure _
  · exact movement.loads _

theorem supplyEntries (movement : Movement related) :
    ∀ indices : List Int,
      Respects related
        (Queue.supplyEntries indices :
          QueueM FixedSupplier (List QueueEntry))
  | [] => Respects.pure _
  | index :: rest =>
      Respects.bind (movement.loads index) fun _ =>
        Respects.bind (movement.supplyEntries rest) fun _ =>
          Respects.pure _

theorem peekNext (movement : Movement related) (amount : Int)
    (usePlaybackOrder useRepeatMode : Bool) :
    Respects related
      (Queue.peekNext amount usePlaybackOrder useRepeatMode :
        QueueM FixedSupplier (List QueueEntry)) := by
  refine Respects.bind ?_ movement.supplyEntries
  intro queue
  exact movement.selects
    (respects_getNextIndices amount usePlaybackOrder useRepeatMode queue)

theorem mediaStreamEnd (movement : Movement related) :
    Respects related
      (Queue.mediaStreamEnd : QueueM FixedSupplier Unit) := by
  refine Respects.bind (movement.next true true) fun entry => ?_
  refine Respects.bind Respects.get fun queue => ?_
  refine Respects.ite ?_ (Respects.pure _)
  exact Respects.bind (movement.setIndex INDEX_NONE true)
    fun _ => Respects.pure _

theorem startPlaying (movement : Movement related) :
    Respects related
      (Queue.startPlaying : QueueM FixedSupplier Unit) := by
  refine Respects.bind Respects.get fun queue => ?_
  refine Respects.ite ?_ (Respects.pure _)
  exact Respects.bind (movement.setIndex 0 false) fun _ => Respects.pure _

theorem finishRemoval (movement : Movement related)
    (publishes : ∀ queue : FixedQueue, related queue queue.publish)
    (entry : QueueEntry) :
    Respects related
      (Queue.finishRemoval entry : QueueM FixedSupplier Unit) := by
  refine Respects.bind Respects.get fun current => ?_
  refine Respects.ite ?_ (Respects.modify publishes)
  exact Respects.bind (movement.next true false) fun _ =>
    Respects.modify publishes

theorem perform (movement : Movement related)
    {operation : Operation FixedSupplier} (steady : Steady operation) :
    Respects related (Queue.perform operation) := by
  cases operation with
  | addSupplier | removeEntry | clear | setPlaybackOrder =>
      exact steady.elim
  | setIndex index saveHistory =>
      exact Respects.bind (movement.setIndex index saveHistory)
        fun _ => Respects.pure _
  | next usePlaybackOrder useRepeatMode =>
      exact Respects.bind (movement.next usePlaybackOrder useRepeatMode)
        fun _ => Respects.pure _
  | previous =>
      exact Respects.bind movement.previous fun _ => Respects.pure _
  | peekNext amount usePlaybackOrder useRepeatMode =>
      exact Respects.bind
        (movement.peekNext amount usePlaybackOrder useRepeatMode)
        fun _ => Respects.pure _
  | peekPrevious =>
      exact Respects.bind movement.peekPrevious fun _ => Respects.pure _
  | mediaStreamEnd =>
      exact Respects.bind movement.mediaStreamEnd fun _ => Respects.pure _
  | setRepeatMode mode =>
      refine Respects.bind (Respects.modify ?_) fun _ => Respects.pure _
      exact fun _ => movement.selects ⟨rfl, rfl, id⟩

/-- The effect of `addSupplier` after the supplier has been appended. -/
theorem step_addSupplier (movement : Movement related)
    (queue : FixedQueue) (supplier : FixedSupplier) :
    related (queue.withSupplier supplier)
      (step queue (.addSupplier supplier)) := by
  have rest :
      Respects related
        (Queue.startPlaying >>= fun _ => pure Response.done :
          QueueM FixedSupplier Response) :=
    Respects.bind movement.startPlaying fun _ => Respects.pure _
  exact rest (queue.withSupplier supplier)

end Movement

theorem keeps_movement : Movement Keeps where
  selects := Keeps.of_selects
  loads := Keeps.of_load
  jumps index saveHistory queue :=
    IsTrans.trans _ _ _ (Keeps.of_saveCurrentIndex saveHistory queue) <|
      IsTrans.trans _ _ _ (Keeps.of_load index _) <|
        Keeps.of_applyIndex index _ _
  forgets _ := ⟨rfl, rfl, List.prefix_rfl, id, id, rfl, rfl, rfl⟩

theorem Keeps.of_publish (queue : FixedQueue) :
    Keeps queue queue.publish :=
  ⟨rfl, rfl, List.prefix_rfl, id, fun _ => rfl, rfl, rfl, rfl⟩

theorem step_keeps {operation : Operation FixedSupplier}
    (steady : Steady operation) (queue : FixedQueue) :
    Keeps queue (step queue operation) :=
  keeps_movement.perform steady queue

theorem step_addSupplier (queue : FixedQueue) (supplier : FixedSupplier) :
    Keeps (queue.withSupplier supplier)
      (step queue (.addSupplier supplier)) :=
  keeps_movement.step_addSupplier queue supplier

theorem undrawn_withSupplier {queue : FixedQueue}
    (positioned : queue.Positioned) (supplier : FixedSupplier) :
    (queue.withSupplier supplier).undrawn =
      queue.undrawn ++ supplier.items := by
  rcases positioned with inside | ⟨atEnd, start⟩
  · have nonempty :
        queue.suppliers.drop queue.currentSupplierIndex ≠ [] := by
      simpa [List.drop_eq_nil_iff] using inside
    simp only [undrawn, withSupplier,
      List.drop_append_of_le_length (Nat.le_of_lt inside)]
    cases remaining :
        queue.suppliers.drop queue.currentSupplierIndex with
    | nil =>
        exact absurd remaining nonempty
    | cons current later =>
        simp
  · simp [undrawn, withSupplier, atEnd, start]

theorem contents_withSupplier {queue : FixedQueue}
    (positioned : queue.Positioned) (supplier : FixedSupplier) :
    (queue.withSupplier supplier).contents =
      queue.contents ++ supplier.items := by
  rw [contents, undrawn_withSupplier positioned, ← List.append_assoc]
  rfl

theorem positioned_withSupplier {queue : FixedQueue}
    (positioned : queue.Positioned) (supplier : FixedSupplier) :
    (queue.withSupplier supplier).Positioned := by
  unfold Positioned at positioned
  apply Or.inl
  simp only [withSupplier, List.length_append, List.length_singleton]
  omega

theorem indexOf_lt {Supplier : Type} {queue : QueueService Supplier}
    {entry : QueueEntry} {index : Nat}
    (found : queue.indexOf entry = some index) :
    index < queue.fetchedEntries.length := by
  obtain ⟨inRange, _⟩ := List.idxOf?_eq_some_iff.mp found
  exact inRange

theorem mem_of_indexOf {Supplier : Type} {queue : QueueService Supplier}
    {entry : QueueEntry} {index : Nat}
    (found : queue.indexOf entry = some index) :
    entry ∈ queue.fetchedEntries := by
  apply List.isSome_idxOf?.mp
  rw [indexOf] at found
  rw [found]
  rfl

theorem contents_dropEntry {queue : FixedQueue} {entry : QueueEntry}
    {index : Nat} (found : queue.indexOf entry = some index) :
    (queue.dropEntry index).contents = queue.contents.erase entry := by
  have fetched :
      queue.fetchedEntries.eraseIdx index =
        queue.fetchedEntries.erase entry := by
    rw [List.erase_eq_eraseIdx]
    rw [indexOf] at found
    simp only [found]
  rw [contents, contents,
    List.erase_append_left _ (mem_of_indexOf found), ← fetched]
  rfl

section Removal

variable {Supplier : Type} [QueueSupplier Supplier]

theorem step_removeEntry_of_absent {queue : QueueService Supplier}
    {entry : QueueEntry} (absent : queue.indexOf entry = none) :
    step queue (.removeEntry entry) = queue := by
  simp only [step, perform, removeEntry, EStateM.run_bind, EStateM.run_get,
    absent]
  rfl

/-- Leaving a removed current entry: `next` decides how the removal ends. -/
theorem finishRemoval_run (entry : QueueEntry)
    (queue : QueueService Supplier) :
    (finishRemoval entry).run queue =
      if queue.entry = some entry then
        match (next true false).run queue with
        | .ok _ moved => .ok () moved.publish
        | .error exception moved => .error exception moved
      else .ok () queue.publish := by
  simp only [finishRemoval, EStateM.run_bind, EStateM.run_get]
  split
  · simp only [EStateM.run_bind]
    cases (next true false).run queue <;> rfl
  · rfl

theorem perform_removeEntry {queue : QueueService Supplier}
    {entry : QueueEntry} {index : Nat}
    (found : queue.indexOf entry = some index) :
    (perform (.removeEntry entry)).run queue =
      match (finishRemoval entry).run (queue.dropEntry index) with
      | .ok _ final => .ok Response.done final
      | .error exception final => .error exception final := by
  simp only [perform, removeEntry, EStateM.run_bind, EStateM.run_get,
    found, EStateM.run_modify]
  cases (finishRemoval entry).run (queue.dropEntry index) <;> rfl

theorem step_removeEntry_eq {queue : QueueService Supplier}
    {entry : QueueEntry} {index : Nat}
    (found : queue.indexOf entry = some index) :
    step queue (.removeEntry entry) =
      finalState ((finishRemoval entry).run (queue.dropEntry index)) := by
  rw [step, perform_removeEntry found]
  cases (finishRemoval entry).run (queue.dropEntry index) <;> rfl

end Removal

theorem step_removeEntry {queue : FixedQueue} {entry : QueueEntry}
    {index : Nat} (found : queue.indexOf entry = some index) :
    Keeps (queue.dropEntry index) (step queue (.removeEntry entry)) := by
  rw [step_removeEntry_eq found]
  exact keeps_movement.finishRemoval Keeps.of_publish entry
    (queue.dropEntry index)

theorem step_setPlaybackOrder (queue : FixedQueue) (order : PlaybackOrder) :
    step queue (.setPlaybackOrder order) = queue.setPlaybackOrder order :=
  rfl

/-- Changing the playback order touches nothing but the order. -/
theorem setPlaybackOrder_frame (queue : FixedQueue)
    (order : PlaybackOrder) :
    queue.setPlaybackOrder order =
      { queue with
        playbackOrder := (queue.setPlaybackOrder order).playbackOrder
        orderIndexProvider :=
          (queue.setPlaybackOrder order).orderIndexProvider } := by
  unfold setPlaybackOrder
  split <;> rfl

end QueueService

end JellyfinTv.Queue
