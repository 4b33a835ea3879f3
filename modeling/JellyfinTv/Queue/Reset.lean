import JellyfinTv.Queue.Providers
import JellyfinTv.Queue.Range

/-!
# Clearing a queue

`clear` resets every field of the service but two: the counter of removed
entries and the indices prepared by the order provider.  The cleared queue
behaves like a new one exactly when both are in their initial state.
-/

namespace JellyfinTv.Queue

open QueueService Library

section Installed

variable {Supplier : Type}

/-- The order provider is the one for the current playback order. -/
def OrderInstalled (service : QueueService Supplier) : Prop :=
  service.orderIndexProvider.order = service.playbackOrder

theorem orderInstalled_of_selects {before after : QueueService Supplier}
    (selects : Selects before after) :
    Preserves OrderInstalled before after := by
  intro installed
  rw [OrderInstalled, selects.order, installed, selects.frame]

instance :
    Roaming (Preserves (OrderInstalled : QueueService Supplier → Prop)) where
  selects := orderInstalled_of_selects
  stores _ _ := id
  accepts queue item := by
    cases item with
    | none =>
        exact id
    | some entry =>
        exact id
  publishes _ := id
  saves saveHistory queue installed := by
    unfold saveCurrentIndex
    split
    · exact installed
    · exact installed
  settles _ _ := id
  forgets _ := id

variable [QueueSupplier Supplier]

theorem step_orderInstalled (service : QueueService Supplier)
    (operation : Operation Supplier)
    (installed : OrderInstalled service) :
    OrderInstalled (step service operation) := by
  refine step_preserves_of_roaming ?_ ?_ ?_ ?_ service operation installed
  · exact fun _ _ => id
  · intro queue entry index _ installed
    rw [OrderInstalled, dropEntry, OrderIndexProvider.order_notifyRemoved]
    exact installed
  · exact fun _ => id
  · intro queue order installed
    unfold setPlaybackOrder
    split
    · exact installed
    · exact OrderIndexProvider.order_ofOrder order

/-- In every reachable state the provider fits the playback order. -/
theorem run_orderInstalled (order : PlaybackOrder) (mode : RepeatMode)
    (random : Random) (operations : List (Operation Supplier)) :
    OrderInstalled
      (run step (QueueService.fresh order mode random) operations) := by
  have initial :
      OrderInstalled
        (QueueService.fresh order mode random : QueueService Supplier) :=
    OrderIndexProvider.order_ofOrder order
  exact run_preserves step_orderInstalled initial operations

end Installed

section Observations

variable {Supplier : Type} [QueueSupplier Supplier]

/-- The return value or exception of a call and the state flows after it. -/
structure Observation where
  outcome : Except QueueException Response
  entryIndex : Int
  entry : Option QueueEntry
  entries : List QueueEntry
  deriving DecidableEq

def observe (service : QueueService Supplier)
    (operation : Operation Supplier) : Observation where
  outcome := outcome service operation
  entryIndex := (step service operation).entryIndex
  entry := (step service operation).entry
  entries := (step service operation).entries

/-- The observations along a sequence of calls. -/
def observations (service : QueueService Supplier) :
    List (Operation Supplier) → List Observation
  | [] => []
  | operation :: rest =>
      observe service operation ::
        observations (step service operation) rest

theorem observations_append (service : QueueService Supplier)
    (first second : List (Operation Supplier)) :
    observations service (first ++ second) =
      observations service first ++
        observations (run step service first) second := by
  induction first generalizing service with
  | nil =>
      rfl
  | cons operation rest inductionHypothesis =>
      simp only [List.cons_append, observations, run_cons,
        inductionHypothesis (step service operation)]

/-- The calls on which a cleared and a new queue are compared. -/
def QueueCall : Operation Supplier → Prop
  | .addSupplier _ | .setIndex _ _ | .next _ _ | .previous
  | .peekNext _ _ _ | .removeEntry _ => True
  | _ => False

/-- The service with the draws still to come replaced. -/
def withRandom (service : QueueService Supplier) (random : Random) :
    QueueService Supplier :=
  { service with random := random }

/-- After `clear`, every sequence of calls is observed as on a new queue with
the same playback order, repeat mode and random source. -/
def ResetsFully (service : QueueService Supplier) : Prop :=
  ∀ (random : Random) (calls : List (Operation Supplier)),
    (∀ call ∈ calls, QueueCall call) →
      observations (withRandom service.clear random) calls =
        observations
          (QueueService.fresh service.playbackOrder service.repeatMode
            random) calls

theorem ResetsFully.outcome_eq {service : QueueService Supplier}
    (resets : ResetsFully service) (random : Random)
    {calls : List (Operation Supplier)} {last : Operation Supplier}
    (before : ∀ call ∈ calls, QueueCall call) (final : QueueCall last) :
    outcome (run step (withRandom service.clear random) calls) last =
      outcome
        (run step
          (QueueService.fresh service.playbackOrder service.repeatMode
            random) calls) last := by
  have same := resets random (calls ++ [last]) (by
    intro call member
    rcases List.mem_append.mp member with earlier | single
    · exact before call earlier
    · rw [List.mem_singleton.mp single]
      exact final)
  rw [observations_append, observations_append] at same
  have lasts := congrArg List.getLast? same
  simp only [observations, List.getLast?_append, List.getLast?_singleton,
    Option.some_or, Option.some.injEq] at lasts
  exact congrArg Observation.outcome lasts

end Observations

/-! ## Two entries tell a cleared queue from a new one -/

section Primed

variable {Other : Type} [QueueSupplier Other]

/-- A queue after `clear`, in terms of what `clear` keeps. -/
def blank (removed : Nat) (provider : OrderIndexProvider)
    (order : PlaybackOrder) (mode : RepeatMode) (random : Random) :
    QueueService (Other ⊕ FixedSupplier) :=
  { QueueService.fresh order mode random with
    removedEntries := removed
    orderIndexProvider := provider }

/-- Add a supplier of two entries. -/
def fill : Operation (Other ⊕ FixedSupplier) :=
  .addSupplier (.inr (.ofList [⟨0⟩, ⟨1⟩]))

/-- The blank queue after `fill`: the first entry is loaded and current. -/
def primed (removed : Nat) (provider : OrderIndexProvider)
    (order : PlaybackOrder) (mode : RepeatMode) (random : Random) :
    QueueService (Other ⊕ FixedSupplier) where
  suppliers := [.inr (FixedSupplier.afterCall (.ofList [⟨0⟩, ⟨1⟩]))]
  currentSupplierIndex := 0
  currentSupplierEntryIndex := 1
  fetchedEntries := [⟨0⟩]
  removedEntries := removed
  orderIndexProvider := provider
  currentQueueIndicesPlayed := []
  entryIndex := 0
  entry := some ⟨0⟩
  entries := [⟨0⟩]
  playbackOrder := order
  repeatMode := mode
  random := random

variable (removed : Nat) (provider : OrderIndexProvider)
variable (order : PlaybackOrder) (mode : RepeatMode) (random : Random)

theorem step_fill :
    step (blank removed provider order mode random) fill =
      (primed removed provider order mode random :
        QueueService (Other ⊕ FixedSupplier)) :=
  rfl

theorem estimatedSize_primed :
    (primed removed provider order mode random :
        QueueService (Other ⊕ FixedSupplier)).estimatedSize =
      max 1 (2 - (removed : Int)) :=
  rfl

variable (Other) in
theorem estimatedSize_primed_zero :
    (primed 0 provider order mode random :
        QueueService (Other ⊕ FixedSupplier)).estimatedSize = 2 :=
  rfl

/-- The two entries by their indices. -/
def answer (index : Int) : Option QueueEntry :=
  if index = 0 then some ⟨0⟩ else if index = 1 then some ⟨1⟩ else none

variable (Other) in
theorem setIndex_primed (index : Int) :
    ∃ final,
      (setIndex index true).run
          (primed removed provider order mode random :
            QueueService (Other ⊕ FixedSupplier)) =
        .ok (answer index) final := by
  by_cases first : index = 0
  · subst first
    exact ⟨_, rfl⟩
  · by_cases second : index = 1
    · subst second
      exact ⟨_, rfl⟩
    · have missing : answer index = none := by
        rw [answer, if_neg first, if_neg second]
      rw [missing]
      by_cases rejected : index < 0 ∧ index ≠ INDEX_NONE
      · exact ⟨_, by simp only [setIndex, if_pos rejected]; rfl⟩
      · have loop :
            ∃ changed loaded,
              (supplyLoop index 4 false).run
                  (saveCurrentIndex true
                    (primed removed provider order mode random :
                      QueueService (Other ⊕ FixedSupplier))) =
                .ok changed loaded ∧
              entryAt loaded.fetchedEntries index = none := by
          by_cases negative : index < 0
          · have cached : index < ((1 : Nat) : Int) := by omega
            refine ⟨_, _, supplyLoop_cached cached, ?_⟩
            rw [entryAt, if_neg (by omega)]
          · have uncached : ¬ index < ((1 : Nat) : Int) := by omega
            have beyond : ¬ index < ((2 : Nat) : Int) := by omega
            have outside : 2 ≤ index.toNat := by omega
            refine ⟨_, _,
              (supplyLoop_answered uncached rfl rfl).trans <|
                (supplyLoop_answered beyond rfl rfl).trans <|
                  supplyLoop_exhausted ?_ rfl, ?_⟩
            · exact beyond
            · rw [entryAt, if_pos (by omega)]
              exact List.getElem?_eq_none outside
        obtain ⟨changed, loaded, finished, outside⟩ := loop
        have supplied := getOrSupplyEntry_run finished
        rw [outside] at supplied
        exact ⟨_, setIndex_run_of_supplied rejected supplied⟩

/-- In the default order the removed counter hides the second entry. -/
theorem outcome_default_primed :
    outcome
        (primed removed provider order mode random :
          QueueService (Other ⊕ FixedSupplier)) (.next false false) =
      .ok (.entry (if removed = 0 then some ⟨1⟩ else none)) := by
  have noRepeat :
      (primed removed provider order mode random :
        QueueService (Other ⊕ FixedSupplier)).effectiveRepeatMode false =
          .none := rfl
  have chosen :
      (primed removed provider order mode random :
        QueueService (Other ⊕ FixedSupplier)).provider false =
          .default := rfl
  have ran := next_default noRepeat chosen
  rw [estimatedSize_primed] at ran
  have index :
      (primed removed provider order mode random :
        QueueService (Other ⊕ FixedSupplier)).entryIndex = 0 := rfl
  rw [index] at ran
  split
  · rename_i unremoved
    rw [if_pos (by omega)] at ran
    obtain ⟨final, jumped⟩ :=
      setIndex_primed Other removed provider order mode random 1
    exact outcome_next_of_run (ran.trans jumped)
  · rename_i counted
    rw [if_neg (by omega)] at ran
    exact outcome_next_of_run ran

/-- In the random order the first prepared index is taken. -/
theorem outcome_random_primed (index : Int) (rest : List Int) :
    outcome
        (primed removed (.random (index :: rest)) order mode random :
          QueueService (Other ⊕ FixedSupplier)) (.next true false) =
      .ok (.entry (answer index)) := by
  have noRepeat :
      (primed removed (.random (index :: rest)) order mode random :
        QueueService (Other ⊕ FixedSupplier)).effectiveRepeatMode false =
          .none := rfl
  obtain ⟨head, remaining, shape, ran⟩ :=
    next_random noRepeat rfl (Or.inr (by simp))
  rw [prepare_of_le (by simp), List.cons.injEq] at shape
  obtain ⟨rfl, rfl⟩ := shape
  obtain ⟨final, jumped⟩ :=
    setIndex_primed Other removed (.random rest) order mode
      (random.drop (1 - (index :: rest).length)) index
  exact outcome_next_of_run (ran.trans jumped)

theorem outcome_random_fresh :
    outcome
        (primed 0 (.random []) order mode random :
          QueueService (Other ⊕ FixedSupplier)) (.next true false) =
      .ok (.entry (answer ((random.head : Int) % 2))) := by
  have noRepeat :
      (primed 0 (.random []) order mode random :
        QueueService (Other ⊕ FixedSupplier)).effectiveRepeatMode false =
          .none := rfl
  have positive :
      0 < (primed 0 (.random []) order mode random :
        QueueService (Other ⊕ FixedSupplier)).estimatedSize := by
    rw [estimatedSize_primed]
    decide
  obtain ⟨head, remaining, shape, ran⟩ :=
    next_random noRepeat rfl (Or.inl positive)
  obtain ⟨rfl, rfl⟩ := List.cons.inj shape
  obtain ⟨final, jumped⟩ :=
    setIndex_primed Other 0 (.random []) order mode random.tail
      ((random.head : Int) % 2)
  exact outcome_next_of_run (ran.trans jumped)

theorem outcome_shuffle_prepared (index other : Int) (rest : List Int) :
    outcome
        (primed 0 (.shuffle (index :: other :: rest)) order mode random :
          QueueService (Other ⊕ FixedSupplier)) (.next true false) =
      .ok (.entry (answer index)) := by
  have noRepeat :
      (primed 0 (.shuffle (index :: other :: rest)) order mode random :
        QueueService (Other ⊕ FixedSupplier)).effectiveRepeatMode false =
          .none := rfl
  have size :=
    estimatedSize_primed_zero Other (.shuffle (index :: other :: rest))
      order mode random
  have ran := next_shuffle_prepared noRepeat rfl (by
    rw [size]
    exact show (0 : Int) < 2 by decide)
  obtain ⟨final, jumped⟩ :=
    setIndex_primed Other 0 (.shuffle (other :: rest)) order
      mode random index
  exact outcome_next_of_run (ran.trans jumped)

/-- With at most one prepared index a call on the two entries draws. -/
theorem shuffle_primed {prepared : List Int} {index : Int}
    (short : prepared.length ≤ 1)
    (drawn :
      pick (ShuffleOrderIndexProvider.remainingIndices 2 [] prepared)
        random = index) :
    (getNextIndices 1 true false).run
        (primed 0 (.shuffle prepared) order mode random :
          QueueService (Other ⊕ FixedSupplier)) =
      .ok [index]
        (primed 0 (.shuffle (prepared ++ [index])) order mode
          random.tail) ∧
    (next true false).run
        (primed 0 (.shuffle prepared) order mode random :
          QueueService (Other ⊕ FixedSupplier)) =
      (setIndex index true).run
        (primed 0 (.shuffle (prepared ++ [index]).tail) order mode
          random.tail) := by
  have noRepeat :
      (primed 0 (.shuffle prepared) order mode random :
        QueueService (Other ⊕ FixedSupplier)).effectiveRepeatMode false =
          .none := rfl
  have nonempty :
      ShuffleOrderIndexProvider.remainingIndices 2 [] prepared ≠ [] := by
    apply remainingIndices_ne_nil
    simp only [List.length_nil]
    omega
  have size :=
    estimatedSize_primed_zero Other (.shuffle prepared) order mode random
  have played :
      (primed 0 (.shuffle prepared) order mode random :
        QueueService (Other ⊕ FixedSupplier)).currentQueueIndicesPlayed =
          [] := rfl
  have more :
      ((primed 0 (.shuffle prepared) order mode random :
        QueueService (Other ⊕ FixedSupplier)).currentQueueIndicesPlayed.length
          : Int) <
        (primed 0 (.shuffle prepared) order mode random :
          QueueService (Other ⊕ FixedSupplier)).estimatedSize := by
    rw [size, played]
    decide
  rw [← size, ← played] at nonempty drawn
  exact next_shuffle noRepeat rfl short more nonempty drawn

theorem outcome_shuffle_primed (prepared : List Int) {index : Int}
    (short : prepared.length ≤ 1)
    (drawn :
      pick (ShuffleOrderIndexProvider.remainingIndices 2 [] prepared)
        random = index) :
    outcome
        (primed 0 (.shuffle prepared) order mode random :
          QueueService (Other ⊕ FixedSupplier)) (.next true false) =
      .ok (.entry (answer index)) := by
  obtain ⟨final, jumped⟩ :=
    setIndex_primed Other 0
      (.shuffle (prepared ++ [index]).tail) order mode random.tail index
  exact outcome_next_of_run
    ((shuffle_primed order mode random short drawn).2.trans jumped)

/-- Peeking at the entry that is already loaded only prepares its index. -/
theorem step_peek_primed (prepared : List Int)
    (short : prepared.length ≤ 1)
    (drawn :
      pick (ShuffleOrderIndexProvider.remainingIndices 2 [] prepared)
        random = 0) :
    step
        (primed 0 (.shuffle prepared) order mode random :
          QueueService (Other ⊕ FixedSupplier)) (.peekNext 1 true false) =
      primed 0 (.shuffle (prepared ++ [0])) order mode random.tail := by
  simp only [step, perform, peekNext, EStateM.run_bind,
    (shuffle_primed order mode random short drawn).1]
  rfl

theorem pick_remaining_of_ne {index : Int} (nonzero : index ≠ 0) :
    pick (ShuffleOrderIndexProvider.remainingIndices 2 [] [index])
      (Stream'.const 0) = 0 := by
  have first :
      ShuffleOrderIndexProvider.remainingIndices 2 [] [index] =
        0 :: ([1, 2] : List Int).filter fun other => other ≠ index := by
    have range :
        ((List.range ((2 : Int) + 1).toNat).map fun i : Nat => (i : Int)) =
          [0, 1, 2] := rfl
    rw [ShuffleOrderIndexProvider.remainingIndices, range]
    simp [List.filter_cons, nonzero.symm]
  rw [first]
  simp [pick]

variable (Other) in
/-- Some sequence of calls is observed differently on a cleared queue with this
provider and on a new queue. -/
def Distinguished (mode : RepeatMode) (provider : OrderIndexProvider) :
    Prop :=
  ∃ random calls last,
    (∀ call ∈ calls, QueueCall call) ∧ QueueCall last ∧
      outcome
          (run step
            (blank 0 provider provider.order mode random :
              QueueService (Other ⊕ FixedSupplier)) calls) last ≠
        outcome
          (run step (QueueService.fresh provider.order mode random) calls)
          last

variable {mode}

theorem distinguished_by {provider : OrderIndexProvider}
    (random : Random) (calls : List (Operation (Other ⊕ FixedSupplier)))
    (before : ∀ call ∈ calls, QueueCall call)
    {stale new : Option QueueEntry}
    (cleared :
      outcome
          (run step (blank 0 provider provider.order mode random) calls)
          (.next true false) = .ok (.entry stale))
    (fresh :
      outcome
          (run step (QueueService.fresh provider.order mode random) calls)
          (.next true false) = .ok (.entry new))
    (differs : stale ≠ new) : Distinguished Other mode provider := by
  refine ⟨random, calls, .next true false, before, trivial, ?_⟩
  rw [cleared, fresh]
  simpa using differs

theorem distinguished_by_next {provider : OrderIndexProvider}
    (random : Random) {stale new : Option QueueEntry}
    (cleared :
      outcome
          (primed 0 provider provider.order mode random :
            QueueService (Other ⊕ FixedSupplier)) (.next true false) =
        .ok (.entry stale))
    (fresh :
      outcome
          (primed 0 (.ofOrder provider.order) provider.order mode random :
            QueueService (Other ⊕ FixedSupplier)) (.next true false) =
        .ok (.entry new))
    (differs : stale ≠ new) : Distinguished Other mode provider :=
  distinguished_by random [fill] (by simp [fill, QueueCall]) cleared fresh
    differs

/-- An index other than the answer of the draw `0`. -/
theorem answer_ne {index : Int} (nonzero : index ≠ 0) :
    answer index ≠ answer 0 := by
  unfold answer
  rw [if_neg nonzero, if_pos rfl]
  split <;> simp

theorem distinguished_random (index : Int) (rest : List Int) :
    Distinguished Other mode (.random (index :: rest)) := by
  by_cases first : index = 0
  · subst first
    exact distinguished_by_next (Stream'.const 1)
      (outcome_random_primed 0 .random mode _ 0 rest)
      (outcome_random_fresh .random mode (Stream'.const 1)) (by decide)
  · exact distinguished_by_next (Stream'.const 0)
      (outcome_random_primed 0 .random mode _ index rest)
      (outcome_random_fresh .random mode (Stream'.const 0))
      (answer_ne first)

theorem distinguished_shuffle_prepared (index other : Int)
    (rest : List Int) :
    Distinguished Other mode (.shuffle (index :: other :: rest)) := by
  by_cases first : index = 0
  · subst first
    exact distinguished_by_next (Stream'.const 1)
      (outcome_shuffle_prepared .shuffle mode _ 0 other rest)
      (outcome_shuffle_primed .shuffle mode (Stream'.const 1)
        [] (Nat.zero_le 1) rfl) (by decide)
  · exact distinguished_by_next (Stream'.const 0)
      (outcome_shuffle_prepared .shuffle mode _ index other rest)
      (outcome_shuffle_primed .shuffle mode (Stream'.const 0)
        [] (Nat.zero_le 1) rfl) (answer_ne first)

/-- A single prepared index is skipped by the first call and shows after a
peek. -/
theorem distinguished_shuffle_single (index : Int) :
    Distinguished Other mode (.shuffle [index]) := by
  by_cases first : index = 0
  · subst first
    exact distinguished_by_next (Stream'.const 0)
      (outcome_shuffle_primed .shuffle mode (Stream'.const 0)
        [0] (Nat.le_refl 1) rfl)
      (outcome_shuffle_primed .shuffle mode (Stream'.const 0)
        [] (Nat.zero_le 1) rfl) (by decide)
  · by_cases second : index = 1
    · subst second
      exact distinguished_by_next (Stream'.const 1)
        (outcome_shuffle_primed .shuffle mode (Stream'.const 1)
          [1] (Nat.le_refl 1) rfl)
        (outcome_shuffle_primed .shuffle mode (Stream'.const 1)
          [] (Nat.zero_le 1) rfl) (by decide)
    · have cleared :
          outcome
              (run step
                (blank 0 (.shuffle [index]) .shuffle mode
                  (Stream'.const 0) : QueueService (Other ⊕ FixedSupplier))
                [fill, .peekNext 1 true false]) (.next true false) =
            .ok (.entry none) := by
        have outside : answer index = none := by
          rw [answer, if_neg first, if_neg second]
        rw [run_cons, run_cons, run_nil, step_fill,
          step_peek_primed .shuffle mode _ [index] (Nat.le_refl 1)
            (pick_remaining_of_ne first), ← outside]
        exact outcome_shuffle_prepared .shuffle mode _ index 0 []
      have fresh :
          outcome
              (run step
                (blank 0 (.shuffle []) .shuffle mode (Stream'.const 0) :
                  QueueService (Other ⊕ FixedSupplier))
                [fill, .peekNext 1 true false]) (.next true false) =
            .ok (.entry (some ⟨1⟩)) := by
        rw [run_cons, run_cons, run_nil, step_fill,
          step_peek_primed .shuffle mode _ [] (Nat.zero_le 1) rfl]
        exact outcome_shuffle_primed .shuffle mode _ [0] (Nat.le_refl 1)
          rfl
      exact distinguished_by (Stream'.const 0)
        [fill, .peekNext 1 true false] (by simp [fill, QueueCall])
        cleared fresh (by simp)

/-- Prepared indices always tell a cleared queue from a new one. -/
theorem distinguished_of_prepared {provider : OrderIndexProvider}
    (prepared : provider.nextIndices ≠ []) :
    Distinguished Other mode provider := by
  match provider with
  | .default => exact absurd rfl prepared
  | .random [] => exact absurd rfl prepared
  | .shuffle [] => exact absurd rfl prepared
  | .random (index :: rest) => exact distinguished_random index rest
  | .shuffle [index] => exact distinguished_shuffle_single index
  | .shuffle (index :: other :: rest) =>
      exact distinguished_shuffle_prepared index other rest

end Primed

/-- Clearing a reachable queue resets it fully exactly when no entry has been
removed and the order provider has no prepared index. -/
theorem clear_resets_fully_iff {Other : Type} [QueueSupplier Other]
    (order : PlaybackOrder) (mode : RepeatMode) (random : Random)
    (operations : List (Operation (Other ⊕ FixedSupplier))) :
    let service :=
      run step (QueueService.fresh order mode random) operations
    ResetsFully service ↔
      service.removedEntries = 0 ∧
        service.orderIndexProvider.nextIndices = [] := by
  intro service
  have installed : OrderInstalled service :=
    run_orderInstalled order mode random operations
  constructor
  · intro resets
    have unremoved : service.removedEntries = 0 := by
      have calls :
          ∀ call ∈ [(fill : Operation (Other ⊕ FixedSupplier))],
            QueueCall call := by
        simp [fill, QueueCall]
      have final :
          QueueCall
            (.next false false : Operation (Other ⊕ FixedSupplier)) :=
        trivial
      have same := resets.outcome_eq random calls final
      have cleared :=
        (outcome_default_primed service.removedEntries
          service.orderIndexProvider service.playbackOrder
          service.repeatMode random).symm.trans same
      have equal :=
        cleared.trans
          (outcome_default_primed 0 (.ofOrder service.playbackOrder)
            service.playbackOrder service.repeatMode random)
      by_contra removed
      simp [removed] at equal
    refine ⟨unremoved, ?_⟩
    by_contra prepared
    obtain ⟨draws, calls, last, before, final, differs⟩ :
        Distinguished Other service.repeatMode
          service.orderIndexProvider :=
      distinguished_of_prepared prepared
    have cleared :
        withRandom service.clear draws =
          blank 0 service.orderIndexProvider service.playbackOrder
            service.repeatMode draws := by
      rw [← unremoved]
      rfl
    have same := resets.outcome_eq draws before final
    rw [cleared] at same
    rw [installed] at differs
    exact differs same
  · rintro ⟨unremoved, unprepared⟩ draws calls _
    have provider :
        service.orderIndexProvider = .ofOrder service.playbackOrder := by
      rw [← installed]
      cases chosen : service.orderIndexProvider with
      | default =>
          rfl
      | random next =>
          rw [chosen] at unprepared
          rw [show next = [] from unprepared]
          rfl
      | shuffle next =>
          rw [chosen] at unprepared
          rw [show next = [] from unprepared]
          rfl
    have reset :
        withRandom service.clear draws =
          QueueService.fresh service.playbackOrder service.repeatMode
            draws := by
      simp only [withRandom, clear, QueueService.fresh, unremoved, provider]
    rw [reset]

/-- After a removal and `clear`, a new queue of two entries ends after its first
entry. -/
theorem clear_keeps_removed_counter :
    ¬ ResetsFully
      (run step
        (QueueService.fresh .default .none (fun _ => 0) : FixedQueue)
        [.addSupplier (.ofList [⟨0⟩, ⟨1⟩]), .removeEntry ⟨0⟩]) := by
  intro resets
  have same :=
    resets (fun _ => 0)
      [.addSupplier (.ofList [⟨2⟩, ⟨3⟩]), .next true false]
      (by simp [QueueCall])
  exact absurd same (by decide)

end JellyfinTv.Queue
