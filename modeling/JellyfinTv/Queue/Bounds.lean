import JellyfinTv.Queue.Peek
import JellyfinTv.Queue.Range

/-!
# Which indices the order providers can answer

Each provider is a partial operation: the random one draws below the estimated
size, the shuffle one draws up to it and including it, and a list of a negative
length cannot be built.  For every provider the condition below says exactly
when its answer, whatever is drawn, is a list of indices of the queue.
-/

namespace JellyfinTv.Queue

open QueueService Library

/-- A call answers with at most `amount` indices below `size`. -/
def AnswersInside (call : ProviderM (List Int)) (source : IndexSource)
    (amount : Nat) (size : Int) : Prop :=
  ∃ indices kept, call.run source = .ok indices kept ∧
    indices.length ≤ amount ∧ ∀ index ∈ indices, 0 ≤ index ∧ index < size

/-- A call answers inside the queue whatever is drawn. -/
def AlwaysAnswersInside (call : ProviderM (List Int))
    (prepared : List Int) (amount : Nat) (size : Int) : Prop :=
  ∀ random, AnswersInside call ⟨prepared, random⟩ amount size

theorem default_answersInside {size currentIndex : Int}
    (start : -1 ≤ currentIndex) (amount : Nat) (source : IndexSource) :
    AnswersInside
      (DefaultOrderIndexProvider.provideIndices amount size currentIndex)
      source amount size := by
  refine
    ⟨_, source,
      defaultProvider_run (Int.natCast_nonneg amount) size currentIndex
        source,
      length_upcoming_le amount size currentIndex, ?_⟩
  intro index member
  obtain ⟨after, below⟩ := mem_upcoming member
  exact ⟨by omega, below⟩

/-- A list is built from its first element and the rest. -/
theorem collectFrom_succ {init : Nat → ProviderM Int} {count start : Nat}
    {source kept : IndexSource} {indices : List Int}
    (collected :
      (collectFrom init start (count + 1)).run source = .ok indices kept) :
    ∃ index drawn rest,
      (init start).run source = .ok index drawn ∧
        (collectFrom init (start + 1) count).run drawn = .ok rest kept ∧
        indices = index :: rest := by
  obtain ⟨index, drawn, first, others⟩ := exists_of_run_bind collected
  obtain ⟨rest, final, collectedRest, built⟩ := exists_of_run_bind others
  cases built
  exact ⟨index, drawn, rest, first, collectedRest, rfl⟩

theorem length_collectFrom {init : Nat → ProviderM Int} {count : Nat} :
    ∀ {start : Nat} {source kept : IndexSource} {indices : List Int},
      (collectFrom init start count).run source = .ok indices kept →
        indices.length = count := by
  induction count with
  | zero =>
      intro start source kept indices collected
      cases collected
      rfl
  | succ count inductionHypothesis =>
      intro start source kept indices collected
      obtain ⟨index, drawn, rest, _, others, rfl⟩ :=
        collectFrom_succ collected
      rw [List.length_cons, inductionHypothesis others]

/-- The random provider answers inside a queue that is not empty, as long as
the indices prepared earlier are still inside it. -/
theorem random_answersInside_iff {prepared : List Int}
    (nonneg : NonnegPrepared prepared) (amount : Nat) (size : Int) :
    AlwaysAnswersInside
        (RandomOrderIndexProvider.provideIndices amount size) prepared
        amount size ↔
      amount = 0 ∨
        0 < size ∧ ∀ index ∈ prepared.take amount, index < size := by
  constructor
  · intro answers
    by_cases none : amount = 0
    · exact Or.inl none
    · obtain ⟨indices, kept, ran, _, inside⟩ := answers (fun _ => 0)
      have counted : indices.length = amount := by
        rw [RandomOrderIndexProvider.provideIndices,
          collectIndices_run] at ran
        exact length_collectFrom ran
      have positive : 0 < size := by
        obtain ⟨index, member⟩ :=
          List.exists_mem_of_length_pos
            (counted ▸ Nat.pos_of_ne_zero none)
        have bounds := inside index member
        omega
      refine Or.inr ⟨positive, fun index member => ?_⟩
      have answered :
          (RandomOrderIndexProvider.provideIndices amount size).run
              ⟨prepared, fun _ => 0⟩ = _ :=
        randomProvider_run (Or.inl positive)
      rw [answered, take_prepare_split] at ran
      injection ran with same _
      exact
        (inside index (same ▸ List.mem_append_left _ member)).2
  · intro either random
    rcases either with rfl | ⟨positive, below⟩
    · exact ⟨[], ⟨prepared, random⟩, rfl, Nat.le_refl 0, by simp⟩
    · refine
        ⟨_, _, randomProvider_run (Or.inl positive),
          List.length_take_le _ _, ?_⟩
      intro index member
      rw [take_prepare_split] at member
      rcases List.mem_append.mp member with earlier | drawn
      · exact
          ⟨nonneg index (List.mem_of_mem_take earlier),
            below index earlier⟩
      · exact mem_draws_bounds positive drawn

/-! ## The shuffle order -/

/-- The candidates that the next `count` draws select. -/
def picks (candidates : List Int) : Nat → Random → List Int
  | 0, _ => []
  | count + 1, random =>
      pick candidates random :: picks candidates count random.tail

theorem mem_of_mem_picks {candidates : List Int}
    (nonempty : candidates ≠ []) :
    ∀ {count : Nat} {random : Random} {index : Int},
      index ∈ picks candidates count random → index ∈ candidates
  | 0, _, _, member => by
      cases member
  | count + 1, random, index, member => by
      rcases List.mem_cons.mp member with rfl | later
      · exact pick_mem nonempty random
      · exact mem_of_mem_picks nonempty later

@[simp]
theorem length_picks (candidates : List Int) (count : Nat)
    (random : Random) : (picks candidates count random).length = count := by
  induction count generalizing random with
  | zero =>
      rfl
  | succ count inductionHypothesis =>
      simp [picks, inductionHypothesis]

/-- From the last prepared index on every position is drawn. -/
theorem collectFrom_drawn {candidates : List Int}
    (nonempty : candidates ≠ []) (count : Nat) :
    ∀ (start : Nat) (source : IndexSource),
      source.nextIndices.length ≤ start + 1 →
        ∃ kept,
          (collectFrom (ShuffleOrderIndexProvider.indexAt candidates)
              start count).run source =
            .ok (picks candidates count source.random) kept ∧
          kept.nextIndices.length = source.nextIndices.length + count := by
  induction count with
  | zero =>
      exact fun start source _ => ⟨source, rfl, rfl⟩
  | succ count inductionHypothesis =>
      intro start source late
      have drawn :=
        shuffleIndexAt_drawn nonempty
          (by omega :
            ¬ (start : Int) < (source.nextIndices.length : Int) - 1)
      obtain ⟨kept, collected, longer⟩ :=
        inductionHypothesis (start + 1)
          ⟨source.nextIndices ++ [pick candidates source.random],
            source.random.tail⟩
          (by simpa using late)
      refine ⟨kept, ?_, ?_⟩
      · simp only [collectFrom, EStateM.run_bind, drawn, collected]
        rfl
      · rw [longer, List.length_append, List.length_singleton]
        omega

/-- The shuffle provider takes the indices strictly before the last prepared
one and draws the others. -/
theorem collectFrom_shuffled {candidates : List Int}
    (nonempty : candidates ≠ []) (count : Nat) :
    ∀ (start : Nat) (source : IndexSource),
      ∃ kept,
        (collectFrom (ShuffleOrderIndexProvider.indexAt candidates)
            start count).run source =
          .ok
            ((source.nextIndices.dropLast.drop start).take count ++
              picks candidates
                (count - (source.nextIndices.length - 1 - start))
                source.random)
            kept ∧
        kept.nextIndices.length =
          source.nextIndices.length +
            (count - (source.nextIndices.length - 1 - start)) := by
  induction count with
  | zero =>
      intro start source
      refine ⟨source, ?_, by omega⟩
      simp [collectFrom, picks]
  | succ count inductionHypothesis =>
      intro start source
      by_cases early : start < source.nextIndices.length - 1
      · obtain ⟨kept, collected, longer⟩ :=
          inductionHypothesis (start + 1) source
        have inside : start < source.nextIndices.dropLast.length := by
          rw [List.length_dropLast]
          exact early
        have prepared :
            source.nextIndices.getD start 0 =
              source.nextIndices.dropLast[start] := by
          rw [List.getElem_dropLast, List.getD_eq_getElem?_getD,
            List.getElem?_eq_getElem (by omega)]
          rfl
        have missing :
            count + 1 - (source.nextIndices.length - 1 - start) =
              count - (source.nextIndices.length - 1 - (start + 1)) := by
          omega
        refine ⟨kept, ?_, by omega⟩
        rw [List.drop_eq_getElem_cons inside, List.take_succ_cons, missing]
        simp only [collectFrom, EStateM.run_bind,
          shuffleIndexAt_prepared
            (by omega :
              (start : Int) < (source.nextIndices.length : Int) - 1),
          collected, prepared]
        rfl
      · obtain ⟨kept, collected, longer⟩ :=
          collectFrom_drawn nonempty (count + 1) start source (by omega)
        have none : source.nextIndices.dropLast.drop start = [] := by
          rw [List.drop_eq_nil_iff, List.length_dropLast]
          omega
        have all :
            count + 1 - (source.nextIndices.length - 1 - start) =
              count + 1 := by
          omega
        refine ⟨kept, ?_, by omega⟩
        rw [none, all, collected]
        rfl

/-- What the shuffle provider answers while there is something to draw. -/
theorem shuffleProvider_run {amount size : Int}
    {playedIndices : List Int} {source : IndexSource} {count : Nat}
    (more : 0 < size - playedIndices.length)
    (counted : min amount (size - playedIndices.length) = count)
    (nonempty :
      ShuffleOrderIndexProvider.remainingIndices size playedIndices
        source.nextIndices ≠ []) :
    ∃ kept,
      (ShuffleOrderIndexProvider.provideIndices amount size
          playedIndices).run source =
        .ok
          (source.nextIndices.dropLast.take count ++
            picks
              (ShuffleOrderIndexProvider.remainingIndices size
                playedIndices source.nextIndices)
              (count - (source.nextIndices.length - 1)) source.random)
          kept ∧
      kept.nextIndices.length =
        source.nextIndices.length +
          (count - (source.nextIndices.length - 1)) := by
  obtain ⟨kept, collected, longer⟩ :=
    collectFrom_shuffled nonempty count 0 source
  rw [List.drop_zero, Nat.sub_zero] at collected
  refine ⟨kept, ?_, longer⟩
  simp only [ShuffleOrderIndexProvider.provideIndices,
    if_neg (Int.not_le.mpr more), EStateM.run_bind, EStateM.run_get,
    counted, collectIndices_run]
  exact collected

theorem mem_remainingIndices {size : Int}
    {playedIndices nextIndices : List Int} {index : Int} :
    index ∈ ShuffleOrderIndexProvider.remainingIndices size playedIndices
        nextIndices ↔
      (0 ≤ index ∧ index ≤ size) ∧ index ∉ playedIndices ∧
        index ∉ nextIndices := by
  rw [ShuffleOrderIndexProvider.remainingIndices, List.mem_filter,
    decide_eq_true_eq]
  refine and_congr_left fun _ => ?_
  constructor
  · intro member
    obtain ⟨position, inside, rfl⟩ := List.mem_map.mp member
    have below := List.mem_range.mp inside
    omega
  · intro given
    obtain ⟨start, most⟩ := given
    exact List.mem_map.mpr ⟨index.toNat, List.mem_range.mpr (by omega), by omega⟩

/-- Some draw selects any given candidate. -/
theorem exists_pick {candidates : List Int} {index : Int}
    (candidate : index ∈ candidates) :
    ∃ random, pick candidates random = index := by
  obtain ⟨position, inside, found⟩ := List.getElem_of_mem candidate
  have small :
      ((position : Int) % candidates.length).toNat = position := by
    rw [Int.emod_eq_of_lt (Int.natCast_nonneg position) (by omega),
      Int.toNat_natCast]
  refine ⟨Stream'.const position, ?_⟩
  unfold pick
  rw [show (Stream'.const position).head = position from rfl, small,
    List.getD_eq_getElem?_getD, List.getElem?_eq_getElem inside]
  exact found

/-- What the shuffle provider may answer: the indices before the last prepared
one, and then draws, which may be equal to the size of the queue unless that
number happens to be prepared. -/
def ShufflesInside (size remaining : Int) (prepared : List Int)
    (amount : Nat) : Prop :=
  amount = 0 ∨ remaining ≤ 0 ∨
    (∀ index ∈ prepared.dropLast.take (min (amount : Int) remaining).toNat,
        index < size) ∧
      (min (amount : Int) remaining < prepared.length ∨ size ∈ prepared)

section Shuffle

variable {size : Int} {playedIndices prepared : List Int}
variable {amount count : Nat}

/-- A call that reaches the last prepared index draws. -/
theorem shuffleProvider_run_drawn
    (more : 0 < size - playedIndices.length)
    (counted :
      min (amount : Int) (size - playedIndices.length) = count)
    (reached : prepared.length ≤ count) (random : Random) :
    ∃ kept,
      (ShuffleOrderIndexProvider.provideIndices amount size
          playedIndices).run ⟨prepared, random⟩ =
        .ok
          (prepared.dropLast.take count ++
            picks
              (ShuffleOrderIndexProvider.remainingIndices size
                playedIndices prepared)
              (count - (prepared.length - 1)) random)
          kept ∧
      (0 < count → kept.nextIndices ≠ []) := by
  have nonempty :
      ShuffleOrderIndexProvider.remainingIndices size playedIndices
        prepared ≠ [] :=
    remainingIndices_ne_nil (by omega)
  obtain ⟨kept, ran, longer⟩ :
      ∃ kept,
        (ShuffleOrderIndexProvider.provideIndices amount size
            playedIndices).run ⟨prepared, random⟩ = .ok _ kept ∧
          kept.nextIndices.length =
            prepared.length + (count - (prepared.length - 1)) :=
    shuffleProvider_run more counted nonempty
  refine ⟨kept, ran, fun some empty => ?_⟩
  rw [empty, List.length_nil] at longer
  omega

theorem take_dropLast_of_lt {count : Nat} {indices : List Int}
    (before : count < indices.length) :
    indices.dropLast.take count = indices.take count := by
  rw [List.dropLast_eq_take, List.take_take]
  congr 1
  omega

/-- Drawing selects the size itself unless that number is prepared. -/
theorem size_mem_of_drawn_inside
    (more : 0 < size - playedIndices.length)
    (counted :
      min (amount : Int) (size - playedIndices.length) = count)
    (reached : prepared.length ≤ count) (some : 0 < count)
    (unplayed : size ∉ playedIndices)
    (answers :
      AlwaysAnswersInside
        (ShuffleOrderIndexProvider.provideIndices amount size
          playedIndices) prepared amount size) :
    size ∈ prepared := by
  by_contra unprepared
  have candidate :=
    mem_remainingIndices.mpr
      ⟨⟨by omega, Int.le_refl size⟩, unplayed, unprepared⟩
  obtain ⟨random, drawn⟩ := exists_pick candidate
  obtain ⟨kept, ran, _⟩ :=
    shuffleProvider_run_drawn more counted reached random
  obtain ⟨indices, _, answered, _, inside⟩ := answers random
  rw [ran] at answered
  injection answered with same _
  obtain ⟨further, drawsOne⟩ :
      ∃ further, count - (prepared.length - 1) = further + 1 :=
    ⟨count - (prepared.length - 1) - 1, by omega⟩
  have member : size ∈ indices := by
    rw [← same, drawsOne, picks, drawn]
    exact List.mem_append_right _ List.mem_cons_self
  exact Int.lt_irrefl size (inside size member).2

theorem shufflesInside_of_answers (unplayed : size ∉ playedIndices)
    (answers :
      AlwaysAnswersInside
        (ShuffleOrderIndexProvider.provideIndices amount size
          playedIndices) prepared amount size) :
    ShufflesInside size (size - playedIndices.length) prepared amount := by
  by_cases none : amount = 0
  · exact Or.inl none
  by_cases ended : size - playedIndices.length ≤ 0
  · exact Or.inr (Or.inl ended)
  obtain ⟨count, counted⟩ :
      ∃ count : Nat,
        min (amount : Int) (size - playedIndices.length) = count :=
    Int.eq_ofNat_of_zero_le (by omega)
  have more := Int.not_le.mp ended
  obtain ⟨indices, kept, ran, _, inside⟩ := answers (Stream'.const 0)
  refine Or.inr (Or.inr ?_)
  rw [counted, Int.toNat_natCast]
  by_cases before : count < prepared.length
  · have answered :
        (ShuffleOrderIndexProvider.provideIndices amount size
            playedIndices).run ⟨prepared, Stream'.const 0⟩ = _ :=
      shuffleProvider_run_prepared more counted before
    rw [answered] at ran
    injection ran with same _
    rw [take_dropLast_of_lt before, same]
    exact ⟨fun index member => (inside index member).2, Or.inl (by omega)⟩
  · have reached := Nat.not_lt.mp before
    obtain ⟨_, answered, _⟩ :=
      shuffleProvider_run_drawn more counted reached (Stream'.const 0)
    rw [answered] at ran
    injection ran with same _
    refine ⟨fun index member => ?_, Or.inr ?_⟩
    · exact (inside index (same ▸ List.mem_append_left _ member)).2
    · exact
        size_mem_of_drawn_inside more counted reached (by omega) unplayed
          answers

theorem answers_of_shufflesInside (nonneg : NonnegPrepared prepared)
    (shuffles :
      ShufflesInside size (size - playedIndices.length) prepared amount) :
    AlwaysAnswersInside
      (ShuffleOrderIndexProvider.provideIndices amount size
        playedIndices) prepared amount size := by
  intro random
  by_cases ended : size - playedIndices.length ≤ 0
  · exact
      ⟨[], _, shuffleProvider_run_ended ended _, Nat.zero_le _, by simp⟩
  have more := Int.not_le.mp ended
  obtain ⟨count, counted⟩ :
      ∃ count : Nat,
        min (amount : Int) (size - playedIndices.length) = count :=
    Int.eq_ofNat_of_zero_le (by omega)
  rcases shuffles with rfl | none | ⟨below, drawable⟩
  · exact
      ⟨[], _,
        provideIndices_zero_run (.shuffle prepared) size playedIndices 0 _,
        Nat.le_refl 0, by simp⟩
  · exact absurd none ended
  rw [counted] at below drawable
  rw [Int.toNat_natCast] at below
  have early :
      ∀ index ∈ prepared.dropLast.take count,
        0 ≤ index ∧ index < size := fun index member =>
    ⟨nonneg index (List.dropLast_subset _ (List.mem_of_mem_take member)),
      below index member⟩
  by_cases before : count < prepared.length
  · rw [take_dropLast_of_lt before] at early
    refine ⟨_, _, shuffleProvider_run_prepared more counted before, ?_, early⟩
    rw [List.length_take]
    omega
  · have reached := Nat.not_lt.mp before
    have sizePrepared : size ∈ prepared :=
      drawable.resolve_left fun short => before (by omega)
    have nonempty :
        ShuffleOrderIndexProvider.remainingIndices size playedIndices
          prepared ≠ [] :=
      remainingIndices_ne_nil (by omega)
    obtain ⟨kept, ran, _⟩ :=
      shuffleProvider_run_drawn more counted reached random
    refine ⟨_, kept, ran, ?_, fun index member => ?_⟩
    · rw [List.length_append, List.length_take, List.length_dropLast,
        length_picks]
      omega
    · rcases List.mem_append.mp member with kept | drawn
      · exact early index kept
      · obtain ⟨⟨start, most⟩, _, unprepared⟩ :=
          mem_remainingIndices.mp (mem_of_mem_picks nonempty drawn)
        have different : index ≠ size := fun same =>
          unprepared (same ▸ sizePrepared)
        omega

end Shuffle

theorem shuffle_answersInside_iff {size : Int}
    {playedIndices prepared : List Int} (nonneg : NonnegPrepared prepared)
    (unplayed : size ∉ playedIndices) (amount : Nat) :
    AlwaysAnswersInside
        (ShuffleOrderIndexProvider.provideIndices amount size
          playedIndices) prepared amount size ↔
      ShufflesInside size (size - playedIndices.length) prepared amount :=
  ⟨shufflesInside_of_answers unplayed, answers_of_shufflesInside nonneg⟩

/-! ## Any provider -/

theorem length_collectIndices {amount : Int} {init : Nat → ProviderM Int}
    {source kept : IndexSource} {indices : List Int}
    (collected :
      (collectIndices amount init).run source = .ok indices kept) :
    indices.length = amount.toNat := by
  unfold collectIndices at collected
  split at collected
  · cases collected
  · exact length_collectFrom collected

/-- No provider answers with more indices than it is asked for. -/
theorem length_provideIndices_le {provider : OrderIndexProvider}
    {amount : Nat} {size currentIndex : Int} {playedIndices : List Int}
    {source kept : IndexSource} {indices : List Int}
    (answered :
      (provider.provideIndices amount size playedIndices
        currentIndex).run source = .ok indices kept) :
    indices.length ≤ amount := by
  cases provider with
  | default =>
      have ran :=
        defaultProvider_run (Int.natCast_nonneg amount) size currentIndex
          source
      have same := answered.symm.trans ran
      injection same with same _
      rw [same]
      exact length_upcoming_le amount size currentIndex
  | random prepared =>
      have collected :
          (collectIndices amount
            (RandomOrderIndexProvider.indexAt size)).run source =
              .ok indices kept := answered
      have counted := length_collectIndices collected
      omega
  | shuffle prepared =>
      simp only [OrderIndexProvider.provideIndices,
        ShuffleOrderIndexProvider.provideIndices] at answered
      split at answered
      · cases answered
        exact Nat.zero_le amount
      · simp only [EStateM.run_bind, EStateM.run_get] at answered
        have counted := length_collectIndices answered
        omega

/-- A list of one index is built from position `0`. -/
theorem collectIndices_one {init : Nat → ProviderM Int}
    {source kept : IndexSource} {indices : List Int}
    (collected :
      (collectIndices 1 init).run source = .ok indices kept) :
    ∃ index, (init 0).run source = .ok index kept := by
  have single :
      (collectIndices 1 init).run source =
        (collectFrom init 0 1).run source := collectIndices_run 1 init source
  rw [single] at collected
  obtain ⟨index, drawn, rest, first, others, _⟩ :=
    collectFrom_succ collected
  cases others
  exact ⟨index, first⟩

/-- What a provider holds after it has answered with one index: one drawn
index, the indices it held before, or a single one and another behind it. -/
inductive HoldsOne : List Int → List Int → Prop
  | drawn (index : Int) : HoldsOne [] [index]
  | kept {prepared : List Int} (some : prepared ≠ []) :
      HoldsOne prepared prepared
  | added {first drawn : Int} (other : drawn ≠ first) :
      HoldsOne [first] [first, drawn]

theorem HoldsOne.ne_nil {before after : List Int}
    (holds : HoldsOne before after) : after ≠ [] := by
  cases holds with
  | drawn index =>
      exact List.cons_ne_nil _ _
  | kept some =>
      exact some
  | added other =>
      exact List.cons_ne_nil _ _

/-- Using the first index restores the provider only if it held none. -/
theorem HoldsOne.tail_eq_iff {before after : List Int}
    (holds : HoldsOne before after) : after.tail = before ↔ before = [] := by
  cases holds with
  | drawn index =>
      exact iff_of_true rfl rfl
  | kept some =>
      refine iff_of_false (fun same => ?_) some
      have lengths := congrArg List.length same
      have positive := List.length_pos_of_ne_nil some
      rw [List.length_tail] at lengths
      omega
  | added other =>
      refine iff_of_false (fun same => ?_) (List.cons_ne_nil _ _)
      exact other (List.cons.inj same).1

theorem randomIndexAt_holds {size : Int} {source kept : IndexSource}
    {index : Int}
    (drawn :
      (RandomOrderIndexProvider.indexAt size 0).run source =
        .ok index kept) :
    HoldsOne source.nextIndices kept.nextIndices := by
  cases source with
  | mk next random =>
      cases next with
      | cons first rest =>
          cases drawn
          exact .kept (List.cons_ne_nil _ _)
      | nil =>
          by_cases positive : 0 < size
          · simp only [RandomOrderIndexProvider.indexAt,
              EStateM.run_bind, EStateM.run_get, List.getElem?_nil,
              nextInt_run positive] at drawn
            cases drawn
            exact .drawn _
          · simp only [RandomOrderIndexProvider.indexAt,
              EStateM.run_bind, EStateM.run_get, List.getElem?_nil,
              nextInt_run_of_empty (Int.not_lt.mp positive)] at drawn
            cases drawn

theorem shuffleIndexAt_holds {candidates : List Int}
    {source kept : IndexSource} {index : Int}
    (unprepared : ∀ other ∈ candidates, other ∉ source.nextIndices)
    (drawn :
      (ShuffleOrderIndexProvider.indexAt candidates 0).run source =
        .ok index kept) :
    HoldsOne source.nextIndices kept.nextIndices := by
  by_cases early :
      ((0 : Nat) : Int) < (source.nextIndices.length : Int) - 1
  · rw [shuffleIndexAt_prepared early] at drawn
    cases drawn
    exact .kept (List.ne_nil_of_length_pos (by omega))
  · by_cases empty : candidates = []
    · subst empty
      simp only [ShuffleOrderIndexProvider.indexAt, EStateM.run_bind,
        EStateM.run_get, if_neg early, randomElement_run_empty] at drawn
      cases drawn
    · have other := unprepared _ (pick_mem empty source.random)
      rw [shuffleIndexAt_drawn empty early] at drawn
      cases drawn
      cases next : source.nextIndices with
      | nil =>
          exact .drawn _
      | cons first rest =>
          cases rest with
          | nil =>
              rw [next] at other
              exact .added (by simpa using other)
          | cons second later =>
              rw [next] at early
              simp only [List.length_cons] at early
              omega

/-- A provider that has answered with an index holds one to use. -/
theorem provideIndices_one_holds {provider : OrderIndexProvider}
    {size currentIndex index : Int} {playedIndices rest : List Int}
    {source kept : IndexSource}
    (answered :
      (provider.provideIndices 1 size playedIndices currentIndex).run
        source = .ok (index :: rest) kept) :
    provider = .default ∨
      HoldsOne source.nextIndices kept.nextIndices := by
  cases provider with
  | default =>
      exact Or.inl rfl
  | random prepared =>
      have collected :
          (collectIndices 1
            (RandomOrderIndexProvider.indexAt size)).run source =
              .ok (index :: rest) kept := answered
      obtain ⟨_, drawn⟩ := collectIndices_one collected
      exact Or.inr (randomIndexAt_holds drawn)
  | shuffle prepared =>
      simp only [OrderIndexProvider.provideIndices,
        ShuffleOrderIndexProvider.provideIndices] at answered
      split at answered
      · cases answered
      · have single : min 1 (size - (playedIndices.length : Int)) = 1 := by
          omega
        simp only [EStateM.run_bind, EStateM.run_get, single] at answered
        obtain ⟨_, drawn⟩ := collectIndices_one answered
        refine Or.inr (shuffleIndexAt_holds ?_ drawn)
        exact fun _ candidate => (mem_remainingIndices.mp candidate).2.2

/-- The provider answers inside the queue, whatever it draws. -/
def Provides (size remaining : Int) (amount : Nat) :
    OrderIndexProvider → Prop
  | .default => True
  | .random prepared =>
      amount = 0 ∨
        0 < size ∧ ∀ index ∈ prepared.take amount, index < size
  | .shuffle prepared => ShufflesInside size remaining prepared amount

theorem provider_answersInside_iff (provider : OrderIndexProvider)
    {size currentIndex : Int} {playedIndices : List Int}
    (start : -1 ≤ currentIndex)
    (nonneg : NonnegPrepared provider.nextIndices)
    (unplayed : size ∉ playedIndices) (amount : Nat) :
    AlwaysAnswersInside
        (provider.provideIndices amount size playedIndices currentIndex)
        provider.nextIndices amount size ↔
      Provides size (size - playedIndices.length) amount provider := by
  cases provider with
  | default =>
      exact
        iff_of_true
          (fun random => default_answersInside start amount ⟨[], random⟩)
          trivial
  | random prepared =>
      exact random_answersInside_iff nonneg amount size
  | shuffle prepared =>
      exact shuffle_answersInside_iff nonneg unplayed amount

/-- The provider answers before it builds a list. -/
def AnswersEarly (size remaining currentIndex : Int) :
    OrderIndexProvider → Prop
  | .default => size - currentIndex - 1 ≤ 0
  | .random _ => False
  | .shuffle _ => remaining ≤ 0

/-- One index less than none cannot be provided, except by a provider that has
nothing left. -/
theorem provideIndices_negative_iff (provider : OrderIndexProvider)
    (size currentIndex : Int) (playedIndices : List Int)
    (source : IndexSource) :
    (∃ indices kept,
      (provider.provideIndices (-1) size playedIndices currentIndex).run
        source = .ok indices kept) ↔
      AnswersEarly size (size - playedIndices.length) currentIndex
        provider := by
  cases provider with
  | default =>
      simp only [OrderIndexProvider.provideIndices,
        DefaultOrderIndexProvider.provideIndices, AnswersEarly]
      by_cases ended : size - currentIndex - 1 ≤ 0
      · rw [if_pos ended]
        exact iff_of_true ⟨_, _, rfl⟩ ended
      · rw [if_neg ended, if_pos (by omega)]
        refine iff_of_false ?_ ended
        intro given
        obtain ⟨_, _, answered⟩ := given
        cases answered
  | random prepared =>
      refine iff_of_false ?_ id
      intro given
      obtain ⟨_, _, answered⟩ := given
      cases answered
  | shuffle prepared =>
      simp only [OrderIndexProvider.provideIndices,
        ShuffleOrderIndexProvider.provideIndices, AnswersEarly]
      by_cases ended : size - playedIndices.length ≤ 0
      · rw [if_pos ended]
        exact iff_of_true ⟨_, _, rfl⟩ ended
      · rw [if_neg ended]
        refine iff_of_false ?_ ended
        intro given
        obtain ⟨_, _, answered⟩ := given
        simp only [EStateM.run_bind, EStateM.run_get, collectIndices] at answered
        rw [if_pos (by omega)] at answered
        cases answered

namespace QueueService

variable {Supplier : Type} [QueueSupplier Supplier]

/-- The state allows `amount` indices to be computed: in a repeat mode there
has to be a current entry, and repeating it once asks the provider for one
index less. -/
def InBounds (queue : QueueService Supplier)
    (usePlaybackOrder useRepeatMode : Bool) (amount : Nat) : Prop :=
  match queue.effectiveRepeatMode useRepeatMode, amount with
  | .none, amount =>
      Provides queue.estimatedSize
        (queue.estimatedSize - queue.currentQueueIndicesPlayed.length)
        amount (queue.provider usePlaybackOrder)
  | .repeatEntryOnce, 0 =>
      AnswersEarly queue.estimatedSize
        (queue.estimatedSize - queue.currentQueueIndicesPlayed.length)
        queue.entryIndex (queue.provider usePlaybackOrder)
  | .repeatEntryOnce, count + 1 =>
      0 ≤ queue.entryIndex ∧
        Provides queue.estimatedSize
          (queue.estimatedSize - queue.currentQueueIndicesPlayed.length)
          count (queue.provider usePlaybackOrder)
  | .repeatEntryInfinite, amount => amount = 0 ∨ 0 ≤ queue.entryIndex

omit [QueueSupplier Supplier] in
theorem nonneg_provider {queue : QueueService Supplier}
    (nonneg : NonnegPrepared queue.orderIndexProvider.nextIndices)
    (usePlaybackOrder : Bool) :
    NonnegPrepared (queue.provider usePlaybackOrder).nextIndices := by
  cases usePlaybackOrder with
  | false =>
      exact fun _ member => absurd member List.not_mem_nil
  | true =>
      exact nonneg

theorem InRange.lt_estimatedSize {queue : QueueService Supplier}
    (inRange : queue.InRange) :
    queue.entryIndex < queue.estimatedSize ∧
      queue.estimatedSize ∉ queue.currentQueueIndicesPlayed := by
  have fetched :
      (queue.fetchedEntries.length : Int) ≤ queue.estimatedSize :=
    Int.le_max_left _ _
  have below := inRange.below
  refine ⟨by omega, fun member => ?_⟩
  have inside := (inRange.history _ member).2
  omega

section Computing

variable {queue : QueueService Supplier}
variable {usePlaybackOrder useRepeatMode : Bool}

/-- Repeating the current entry once puts its index in front of what the
provider answers. -/
theorem answersInside_once_iff {source : IndexSource}
    (mode : queue.effectiveRepeatMode useRepeatMode = .repeatEntryOnce)
    (below : queue.entryIndex < queue.estimatedSize) (count : Nat) :
    AnswersInside
        (queue.indicesCall usePlaybackOrder useRepeatMode (count + 1))
        source (count + 1) queue.estimatedSize ↔
      0 ≤ queue.entryIndex ∧
        AnswersInside (queue.provided usePlaybackOrder (count : Nat))
          source count queue.estimatedSize := by
  cases called :
      (queue.provided usePlaybackOrder (count : Nat)).run source with
  | error exception failed =>
      have less : ((count + 1 : Nat) : Int) - 1 = (count : Nat) := by omega
      refine iff_of_false ?_ ?_
      · intro given
        obtain ⟨_, _, answered, _⟩ := given
        simp only [indicesCall, mode, EStateM.run_bind, less, called]
          at answered
        cases answered
      · intro given
        obtain ⟨_, _, _, answered, _⟩ := given
        rw [called] at answered
        cases answered
  | ok further kept =>
      have short := length_provideIndices_le called
      have combined :
          (queue.indicesCall usePlaybackOrder useRepeatMode
            (count + 1)).run source =
              .ok (queue.entryIndex :: further) kept := by
        rw [indicesCall_once mode called, List.take_succ_cons,
          List.take_of_length_le short]
      constructor
      · intro given
        obtain ⟨_, _, answered, _, inside⟩ := given
        rw [combined] at answered
        cases answered
        exact
          ⟨(inside _ List.mem_cons_self).1, further, kept, called, short,
            fun index member =>
              inside index (List.mem_cons_of_mem _ member)⟩
      · intro given
        obtain ⟨start, _, _, answered, _, inside⟩ := given
        rw [called] at answered
        cases answered
        refine ⟨_, kept, combined, Nat.succ_le_succ short, ?_⟩
        intro index member
        rcases List.mem_cons.mp member with rfl | later
        · exact ⟨start, below⟩
        · exact inside index later

theorem answersInside_once_zero_iff {source : IndexSource}
    (mode : queue.effectiveRepeatMode useRepeatMode = .repeatEntryOnce) :
    AnswersInside
        (queue.indicesCall usePlaybackOrder useRepeatMode 0) source 0
        queue.estimatedSize ↔
      ∃ indices kept,
        (queue.provided usePlaybackOrder (-1)).run source =
          .ok indices kept := by
  have call :
      queue.indicesCall usePlaybackOrder useRepeatMode 0 =
        (do
          let _ ← queue.provided usePlaybackOrder (-1)
          return []) := by
    simp only [indicesCall, mode]
    rfl
  rw [call, AnswersInside]
  cases called : (queue.provided usePlaybackOrder (-1)).run source with
  | error exception failed =>
      refine iff_of_false ?_ ?_
      · intro given
        obtain ⟨_, _, answered, _⟩ := given
        simp only [EStateM.run_bind, called] at answered
        cases answered
      · intro given
        obtain ⟨_, _, answered⟩ := given
        cases answered
  | ok indices kept =>
      refine iff_of_true ⟨[], kept, ?_, Nat.le_refl 0, by simp⟩ ⟨_, _, rfl⟩
      simp only [EStateM.run_bind, called]
      rfl

theorem indicesCall_answersInside_iff (inRange : queue.InRange)
    (nonneg : NonnegPrepared queue.orderIndexProvider.nextIndices)
    (amount : Nat) :
    AlwaysAnswersInside
        (queue.indicesCall usePlaybackOrder useRepeatMode amount)
        (queue.provider usePlaybackOrder).nextIndices amount
        queue.estimatedSize ↔
      queue.InBounds usePlaybackOrder useRepeatMode amount := by
  have start : -1 ≤ queue.entryIndex := inRange.start
  obtain ⟨below, unplayed⟩ := inRange.lt_estimatedSize
  have provides :=
    provider_answersInside_iff (queue.provider usePlaybackOrder) start
      (nonneg_provider nonneg usePlaybackOrder) unplayed
  cases mode : queue.effectiveRepeatMode useRepeatMode with
  | none =>
      simp only [InBounds, mode, ← provides amount, indicesCall, provided]
  | repeatEntryOnce =>
      cases amount with
      | zero =>
          simp only [InBounds, mode]
          constructor
          · intro answers
            exact
              (provideIndices_negative_iff _ _ _ _ _).mp
                ((answersInside_once_zero_iff mode).mp
                  (answers (Stream'.const 0)))
          · intro early random
            exact
              (answersInside_once_zero_iff mode).mpr
                ((provideIndices_negative_iff _ _ _ _ _).mpr early)
      | succ count =>
          simp only [InBounds, mode, ← provides count]
          constructor
          · intro answers
            refine ⟨?_, fun random => ?_⟩
            · exact
                ((answersInside_once_iff mode below count).mp
                  (answers (Stream'.const 0))).1
            · exact
                ((answersInside_once_iff mode below count).mp
                  (answers random)).2
          · intro given random
            obtain ⟨playing, answers⟩ := given
            exact
              (answersInside_once_iff mode below count).mpr
                ⟨playing, answers random⟩
  | repeatEntryInfinite =>
      have answered :
          ∀ source,
            (queue.indicesCall usePlaybackOrder useRepeatMode amount).run
                source =
              .ok (List.replicate amount queue.entryIndex) source := by
        intro source
        simp only [indicesCall, mode]
        rfl
      simp only [InBounds, mode]
      constructor
      · intro answers
        obtain ⟨_, _, ran, _, inside⟩ := answers (Stream'.const 0)
        rw [answered] at ran
        cases ran
        refine or_iff_not_imp_left.mpr fun some => ?_
        exact (inside _ (List.mem_replicate.mpr ⟨some, rfl⟩)).1
      · intro playing random
        refine
          ⟨_, _, answered _, Nat.le_of_eq List.length_replicate, ?_⟩
        intro index member
        obtain ⟨some, rfl⟩ := List.mem_replicate.mp member
        exact ⟨playing.resolve_left some, below⟩

/-! ## Calls of the queue -/

/-- Whatever is drawn, computing `amount` indices ends in at most that many
indices of the queue. -/
def ComputesInside (queue : QueueService Supplier)
    (usePlaybackOrder useRepeatMode : Bool) (amount : Nat) : Prop :=
  ∀ random, ∃ indices selected,
    (getNextIndices amount usePlaybackOrder useRepeatMode).run
        { queue with random := random } = .ok indices selected ∧
      indices.length ≤ amount ∧
      ∀ index ∈ indices, 0 ≤ index ∧ index < queue.estimatedSize

theorem computesInside_iff (inRange : queue.InRange)
    (nonneg : NonnegPrepared queue.orderIndexProvider.nextIndices)
    (amount : Nat) :
    queue.ComputesInside usePlaybackOrder useRepeatMode amount ↔
      queue.InBounds usePlaybackOrder useRepeatMode amount := by
  rw [← indicesCall_answersInside_iff inRange nonneg]
  refine forall_congr' fun random => ?_
  have call := getNextIndices_run_call { queue with random := random }
    usePlaybackOrder useRepeatMode amount
  have sameCall :
      indicesCall { queue with random := random } usePlaybackOrder
          useRepeatMode amount =
        queue.indicesCall usePlaybackOrder useRepeatMode amount := rfl
  have sameSource :
      source { queue with random := random } usePlaybackOrder =
        ⟨(queue.provider usePlaybackOrder).nextIndices, random⟩ := rfl
  rw [sameCall, sameSource] at call
  rw [call, AnswersInside]
  cases (queue.indicesCall usePlaybackOrder useRepeatMode amount).run
      ⟨(queue.provider usePlaybackOrder).nextIndices, random⟩ with
  | error exception kept =>
      refine iff_of_false ?_ ?_
      · intro given
        obtain ⟨_, _, answered, _⟩ := given
        cases answered
      · intro given
        obtain ⟨_, _, answered, _⟩ := given
        cases answered
  | ok indices kept =>
      constructor
      · intro given
        obtain ⟨_, _, answered, inside⟩ := given
        cases answered
        exact ⟨indices, kept, rfl, inside⟩
      · intro given
        obtain ⟨_, _, answered, inside⟩ := given
        cases answered
        exact ⟨indices, _, rfl, inside⟩

end Computing

/-- The part of `next` before it jumps: the index it goes to. -/
def chooseNext (usePlaybackOrder useRepeatMode : Bool) :
    QueueM Supplier (Option Int) := do
  match (← getNextIndices 1 usePlaybackOrder useRepeatMode).head? with
  | none => return none
  | some index =>
      consumeIndex index usePlaybackOrder useRepeatMode
      return some index

theorem next_run_choice (usePlaybackOrder useRepeatMode : Bool)
    (queue : QueueService Supplier) :
    (next usePlaybackOrder useRepeatMode).run queue =
      match (chooseNext usePlaybackOrder useRepeatMode).run queue with
      | .ok none selected => .ok none selected
      | .ok (some index) selected => (setIndex index true).run selected
      | .error exception selected => .error exception selected := by
  simp only [next, chooseNext, EStateM.run_bind]
  cases (getNextIndices 1 usePlaybackOrder useRepeatMode).run queue with
  | error exception selected =>
      rfl
  | ok indices selected =>
      cases indices with
      | nil =>
          rfl
      | cons index rest =>
          simp only [List.head?_cons, EStateM.run_bind]
          cases (consumeIndex index usePlaybackOrder useRepeatMode).run
              selected <;> rfl

/-- What the provider holds after one index has been computed in the repeat
mode `NONE`. -/
theorem computed_holds {usePlaybackOrder useRepeatMode : Bool}
    {queue selected : QueueService Supplier} {index : Int}
    {rest : List Int}
    (computed :
      (getNextIndices 1 usePlaybackOrder useRepeatMode).run queue =
        .ok (index :: rest) selected)
    (mode : queue.effectiveRepeatMode useRepeatMode = .none) :
    ∃ kept,
      selected = queue.storeSource usePlaybackOrder kept ∧
        (queue.provider usePlaybackOrder = .default ∨
          HoldsOne (queue.provider usePlaybackOrder).nextIndices
            kept.nextIndices) := by
  rw [getNextIndices_run_none mode, provideIndices_run] at computed
  split at computed
  · rename_i indices kept answered
    cases computed
    exact ⟨kept, rfl, provideIndices_one_holds answered⟩
  · cases computed

theorem OrderIndexProvider.nextIndices_withNextIndices
    {provider : OrderIndexProvider} (drawing : provider ≠ .default)
    (indices : List Int) :
    (provider.withNextIndices indices).nextIndices = indices := by
  cases provider with
  | default =>
      exact absurd rfl drawing
  | random prepared =>
      rfl
  | shuffle prepared =>
      rfl

theorem mode_of_computed {usePlaybackOrder useRepeatMode : Bool}
    {queue selected : QueueService Supplier} {indices : List Int}
    (computed :
      (getNextIndices 1 usePlaybackOrder useRepeatMode).run queue =
        .ok indices selected) :
    selected.effectiveRepeatMode useRepeatMode =
      queue.effectiveRepeatMode useRepeatMode := by
  have call :=
    getNextIndices_run_call queue usePlaybackOrder useRepeatMode 1
  rw [show ((1 : Nat) : Int) = 1 from rfl, computed] at call
  split at call
  · cases call
    cases usePlaybackOrder <;> rfl
  · cases call

/-- What is left after computing an index can be used. -/
theorem usable_of_computed {usePlaybackOrder useRepeatMode : Bool}
    {queue selected : QueueService Supplier} {index : Int}
    {rest : List Int}
    (computed :
      (getNextIndices 1 usePlaybackOrder useRepeatMode).run queue =
        .ok (index :: rest) selected)
    (mode : selected.effectiveRepeatMode useRepeatMode = .none) :
    selected.provider usePlaybackOrder = .default ∨
      (selected.provider usePlaybackOrder).nextIndices ≠ [] := by
  cases usePlaybackOrder with
  | false =>
      exact Or.inl rfl
  | true =>
      rw [mode_of_computed computed] at mode
      obtain ⟨kept, rfl, holds⟩ := computed_holds computed mode
      have stored :
          (queue.storeSource true kept).provider true =
            (queue.provider true).withNextIndices kept.nextIndices := rfl
      rw [stored]
      by_cases default : queue.provider true = .default
      · rw [default]
        exact Or.inl rfl
      · rw [OrderIndexProvider.nextIndices_withNextIndices default]
        exact Or.inr (holds.resolve_left default).ne_nil

/-- Once the indices are computed, `next` has an index to use. -/
theorem chooseNext_completes {usePlaybackOrder useRepeatMode : Bool}
    {queue selected : QueueService Supplier} {indices : List Int}
    (computed :
      (getNextIndices 1 usePlaybackOrder useRepeatMode).run queue =
        .ok indices selected) :
    ∃ target chosen,
      (chooseNext usePlaybackOrder useRepeatMode).run queue =
        .ok target chosen := by
  cases indices with
  | nil =>
      refine ⟨none, selected, ?_⟩
      simp only [chooseNext, EStateM.run_bind, computed, List.head?_nil]
      rfl
  | cons index rest =>
      obtain ⟨consumed, used⟩ :=
        consumeIndex_of_usable index (usable_of_computed computed)
      refine ⟨some index, consumed, ?_⟩
      simp only [chooseNext, EStateM.run_bind, computed, List.head?_cons,
        used]
      rfl

/-- Every supplier answers every call. -/
def SuppliersAnswer (Supplier : Type) [QueueSupplier Supplier] : Prop :=
  ∀ (index : Nat) (supplier : Supplier),
    ∃ item next, (QueueSupplier.getItem index).run supplier = .ok item next

theorem supplyLoop_completes (answer : SuppliersAnswer Supplier)
    (index : Int) (fuel : Nat) :
    ∀ (entriesChanged : Bool) (queue : QueueService Supplier),
      ∃ changed loaded,
        (supplyLoop index fuel entriesChanged).run queue =
          .ok changed loaded := by
  induction fuel with
  | zero =>
      exact fun entriesChanged queue => ⟨entriesChanged, queue, rfl⟩
  | succ fuel inductionHypothesis =>
      intro entriesChanged queue
      rw [supplyLoop_succ]
      split
      · exact ⟨_, _, rfl⟩
      · split
        · exact ⟨_, _, rfl⟩
        · rename_i supplier _
          obtain ⟨item, after, answered⟩ :=
            answer queue.currentSupplierEntryIndex supplier
          rw [askSupplier_run, answered]
          exact inductionHypothesis _ _

theorem getOrSupplyEntry_completes (answer : SuppliersAnswer Supplier)
    (index : Int) (queue : QueueService Supplier) :
    ∃ entry loaded,
      (getOrSupplyEntry index).run queue = .ok entry loaded := by
  obtain ⟨changed, loaded, finished⟩ :=
    supplyLoop_completes answer index queue.supplyFuel false queue
  exact ⟨_, _, getOrSupplyEntry_run finished⟩

theorem supplyEntries_completes (answer : SuppliersAnswer Supplier)
    (indices : List Int) (queue : QueueService Supplier) :
    ∃ entries loaded,
      (supplyEntries indices).run queue = .ok entries loaded := by
  induction indices generalizing queue with
  | nil =>
      exact ⟨[], queue, rfl⟩
  | cons index rest inductionHypothesis =>
      obtain ⟨entry, loaded, supplied⟩ :=
        getOrSupplyEntry_completes answer index queue
      obtain ⟨others, final, further⟩ := inductionHypothesis loaded
      refine ⟨entry.toList ++ others, final, ?_⟩
      simp only [supplyEntries, EStateM.run_bind, supplied, further]
      rfl

theorem setIndex_completes (answer : SuppliersAnswer Supplier)
    (index : Int) (saveHistory : Bool) (queue : QueueService Supplier) :
    ∃ entry final,
      (setIndex index saveHistory).run queue = .ok entry final := by
  by_cases rejected : index < 0 ∧ index ≠ INDEX_NONE
  · rw [setIndex, if_pos rejected]
    exact ⟨none, queue, rfl⟩
  · obtain ⟨entry, loaded, supplied⟩ :=
      getOrSupplyEntry_completes answer index
        (saveCurrentIndex saveHistory queue)
    exact ⟨_, _, setIndex_run_of_supplied rejected supplied⟩

/-- The order providers do not crash the queue: the indices computed for
`peekNext` and for `next` are inside it, both calls throw nothing but what
loading an entry from a supplier throws, and over suppliers that answer they
complete. -/
structure NeverCrashes (queue : QueueService Supplier)
    (usePlaybackOrder useRepeatMode : Bool) (amount : Nat) : Prop where
  peeked : queue.ComputesInside usePlaybackOrder useRepeatMode amount
  taken : queue.ComputesInside usePlaybackOrder useRepeatMode 1
  peekNext :
    ∀ random exception failed,
      (Queue.peekNext amount usePlaybackOrder useRepeatMode).run
          { queue with random := random } = .error exception failed →
        ∃ indices selected,
          (getNextIndices amount usePlaybackOrder useRepeatMode).run
              { queue with random := random } = .ok indices selected ∧
            (supplyEntries indices).run selected = .error exception failed
  next :
    ∀ random exception failed,
      (Queue.next usePlaybackOrder useRepeatMode).run
          { queue with random := random } = .error exception failed →
        ∃ index selected,
          (chooseNext usePlaybackOrder useRepeatMode).run
              { queue with random := random } = .ok (some index) selected ∧
            (setIndex index true).run selected = .error exception failed
  completes :
    SuppliersAnswer Supplier → ∀ random,
      Completes { queue with random := random }
          (.peekNext amount usePlaybackOrder useRepeatMode) ∧
        Completes { queue with random := random }
          (.next usePlaybackOrder useRepeatMode)

section Safety

variable {queue : QueueService Supplier}
variable {usePlaybackOrder useRepeatMode : Bool} {amount : Nat}

theorem neverCrashes_of_computes
    (peeked : queue.ComputesInside usePlaybackOrder useRepeatMode amount)
    (taken : queue.ComputesInside usePlaybackOrder useRepeatMode 1) :
    queue.NeverCrashes usePlaybackOrder useRepeatMode amount where
  peeked := peeked
  taken := taken
  peekNext := by
    intro random exception failed threw
    obtain ⟨indices, selected, computed, _⟩ := peeked random
    simp only [Queue.peekNext, EStateM.run_bind, computed] at threw
    exact ⟨indices, selected, computed, threw⟩
  next := by
    intro random exception failed threw
    obtain ⟨indices, selected, computed, _⟩ := taken random
    obtain ⟨target, chosen, chooses⟩ := chooseNext_completes computed
    rw [next_run_choice, chooses] at threw
    cases target with
    | none =>
        cases threw
    | some index =>
        exact ⟨index, chosen, chooses, threw⟩
  completes := by
    intro answer random
    constructor
    · obtain ⟨indices, selected, computed, _⟩ := peeked random
      obtain ⟨entries, final, supplied⟩ :=
        supplyEntries_completes answer indices selected
      refine ⟨.entries entries, final, ?_⟩
      simp only [perform, Queue.peekNext, EStateM.run_bind, computed,
        supplied]
      rfl
    · obtain ⟨indices, selected, computed, _⟩ := taken random
      obtain ⟨target, chosen, chooses⟩ := chooseNext_completes computed
      have ran :=
        next_run_choice usePlaybackOrder useRepeatMode
          { queue with random := random }
      rw [chooses] at ran
      cases target with
      | none =>
          refine ⟨.entry none, chosen, ?_⟩
          simp only [perform, EStateM.run_bind, ran]
          rfl
      | some index =>
          obtain ⟨entry, final, jumped⟩ :=
            setIndex_completes answer index true chosen
          refine ⟨.entry entry, final, ?_⟩
          simp only [perform, EStateM.run_bind, ran, jumped]
          rfl

end Safety

end QueueService

/-- In every reachable state the order providers do not crash the queue exactly
when the indices for `peekNext(amount)` and for `next` are in bounds. -/
theorem providers_never_crash_iff {Supplier : Type}
    [QueueSupplier Supplier] (order : PlaybackOrder) (mode : RepeatMode)
    (random : Random) (operations : List (Operation Supplier))
    (usePlaybackOrder useRepeatMode : Bool) (amount : Nat) :
    let queue := run step (QueueService.fresh order mode random) operations
    queue.NeverCrashes usePlaybackOrder useRepeatMode amount ↔
      queue.InBounds usePlaybackOrder useRepeatMode amount ∧
        queue.InBounds usePlaybackOrder useRepeatMode 1 := by
  intro queue
  have inRange : queue.InRange := run_inRange order mode random operations
  have nonneg := run_nonnegPrepared order mode random operations
  rw [← computesInside_iff inRange nonneg, ← computesInside_iff inRange nonneg]
  exact
    ⟨fun safe => ⟨safe.peeked, safe.taken⟩,
      fun computes => neverCrashes_of_computes computes.1 computes.2⟩

/-- An empty queue in the random order throws when it is peeked at. -/
theorem empty_random_queue_crashes :
    let queue : FixedQueue :=
      run step (QueueService.fresh .random .none (fun _ => 0)) []
    outcome queue (.peekNext 1 true false) = .error .illegalArgument ∧
      ¬ queue.NeverCrashes true false 1 := by
  refine ⟨rfl, fun safe => ?_⟩
  obtain ⟨_, _, computed, _⟩ := safe.peeked (fun _ => 0)
  cases computed

end JellyfinTv.Queue
