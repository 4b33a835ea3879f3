import Mathlib.Data.Stream.Defs
import JellyfinTv.Library.Effect
import JellyfinTv.Queue.Supplier

/-!
# Playback orders and their index providers

The random source is a stream of draws: quantifying over the stream quantifies
over every outcome of the random choices.  A provider's own list of pre-drawn
indices and the random source form the state its calls run on.
-/

namespace JellyfinTv.Queue

open Library

/-- `Queue.INDEX_NONE`. -/
def INDEX_NONE : Int := -1

inductive PlaybackOrder where
  | default
  | random
  | shuffle
  deriving DecidableEq, Repr

inductive RepeatMode where
  | none
  | repeatEntryOnce
  | repeatEntryInfinite
  deriving DecidableEq, Repr

/-- The draws still to come from `kotlin.random.Random`. -/
abbrev Random := Stream' Nat

/-- The mutable list of a provider together with the random source. -/
structure IndexSource where
  nextIndices : List Int
  random : Random

abbrev ProviderM := EStateM QueueException IndexSource

/-- `Random.nextInt(until)`, which rejects an empty range. -/
def nextInt (limit : Int) : ProviderM Int := do
  if limit ≤ 0 then throw .illegalArgument
  else
    let source ← get
    set { source with random := source.random.tail }
    return (source.random.head : Int) % limit

/-- `Collection.random()`, which rejects an empty collection. -/
def randomElement (candidates : List Int) : ProviderM Int := do
  if candidates = [] then throw .noSuchElement
  else
    let position ← nextInt candidates.length
    return candidates.getD position.toNat 0

/-- The candidate that the next draw selects. -/
def pick (candidates : List Int) (random : Random) : Int :=
  candidates.getD ((random.head : Int) % candidates.length).toNat 0

/-- `nextIndices.add(index)`. -/
def addNextIndex (index : Int) : ProviderM Unit :=
  modify fun source =>
    { source with nextIndices := source.nextIndices ++ [index] }

/-- The elements `init start, init (start + 1), ...` in evaluation order. -/
def collectFrom (init : Nat → ProviderM Int) :
    (start count : Nat) → ProviderM (List Int)
  | _, 0 => pure []
  | start, count + 1 => do
      let index ← init start
      let rest ← collectFrom init (start + 1) count
      return index :: rest

/-- The Kotlin constructor `List(amount) { i -> ... }`. -/
def collectIndices (amount : Int) (init : Nat → ProviderM Int) :
    ProviderM (List Int) :=
  if amount < 0 then throw .illegalArgument
  else collectFrom init 0 amount.toNat

/-- Drop the removed index and shift the later ones down. -/
def shiftRemoved (index : Int) (indices : List Int) : List Int :=
  (indices.filter fun other => other ≠ index).map fun other =>
    if other > index then other - 1 else other

namespace DefaultOrderIndexProvider

def provideIndices (amount size : Int) (currentIndex : Int) :
    ProviderM (List Int) :=
  let remainingItemsSize := size - currentIndex - 1
  if remainingItemsSize ≤ 0 then return []
  else
    let count := min amount remainingItemsSize
    if count < 0 then throw .negativeArraySize
    else
      return (List.range count.toNat).map fun i : Nat =>
        currentIndex + i + 1

end DefaultOrderIndexProvider

namespace RandomOrderIndexProvider

/-- The body of the list constructor at position `i`. -/
def indexAt (size : Int) (i : Nat) : ProviderM Int := do
  match (← get).nextIndices[i]? with
  | some index => return index
  | none =>
      let index ← nextInt size
      addNextIndex index
      return index

def provideIndices (amount size : Int) : ProviderM (List Int) :=
  collectIndices amount (indexAt size)

end RandomOrderIndexProvider

namespace ShuffleOrderIndexProvider

/-- `(0..size).filterNot { it in playedIndices || it in nextIndices }`, with
the inclusive upper end of the Kotlin range. -/
def remainingIndices
    (size : Int) (playedIndices nextIndices : List Int) : List Int :=
  ((List.range (size + 1).toNat).map fun i : Nat => (i : Int)).filter
    fun index => index ∉ playedIndices ∧ index ∉ nextIndices

/-- The body of the list constructor at position `i`: the comparison is with
`nextIndices.lastIndex`, one less than the length. -/
def indexAt (candidates : List Int) (i : Nat) : ProviderM Int := do
  let source ← get
  if (i : Int) < (source.nextIndices.length : Int) - 1 then
    return source.nextIndices.getD i 0
  else
    let index ← randomElement candidates
    addNextIndex index
    return index

def provideIndices
    (amount size : Int) (playedIndices : List Int) :
    ProviderM (List Int) := do
  let remainingItemsSize := size - playedIndices.length
  if remainingItemsSize ≤ 0 then return []
  else
    let source ← get
    collectIndices (min amount remainingItemsSize)
      (indexAt (remainingIndices size playedIndices source.nextIndices))

end ShuffleOrderIndexProvider

/-- The provider objects with their pre-drawn indices. -/
inductive OrderIndexProvider where
  | default
  | random (nextIndices : List Int)
  | shuffle (nextIndices : List Int)
  deriving DecidableEq, Repr

namespace OrderIndexProvider

/-- The provider that the collector of `state.playbackOrder` installs. -/
def ofOrder : PlaybackOrder → OrderIndexProvider
  | .default => .default
  | .random => .random []
  | .shuffle => .shuffle []

def nextIndices : OrderIndexProvider → List Int
  | .default => []
  | .random next => next
  | .shuffle next => next

/-- Write back the list a call has left behind. -/
def withNextIndices : OrderIndexProvider → List Int → OrderIndexProvider
  | .default, _ => .default
  | .random _, next => .random next
  | .shuffle _, next => .shuffle next

/-- `provideIndices` of the three providers. -/
def provideIndices (amount size : Int) (playedIndices : List Int)
    (currentIndex : Int) : OrderIndexProvider → ProviderM (List Int)
  | .default =>
      DefaultOrderIndexProvider.provideIndices amount size currentIndex
  | .random _ => RandomOrderIndexProvider.provideIndices amount size
  | .shuffle _ =>
      ShuffleOrderIndexProvider.provideIndices amount size playedIndices

/-- `notifyRemoved`: nothing to do for the default provider. -/
def notifyRemoved (index : Int) : OrderIndexProvider → OrderIndexProvider
  | .default => .default
  | .random next => .random (shiftRemoved index next)
  | .shuffle next => .shuffle (shiftRemoved index next)

/-- `useNextIndex`: `removeAt(0)` throws on an empty list. -/
def useNextIndex :
    OrderIndexProvider → Except QueueException OrderIndexProvider
  | .default => .ok .default
  | .random [] => .error .indexOutOfBounds
  | .random (_ :: rest) => .ok (.random rest)
  | .shuffle [] => .error .indexOutOfBounds
  | .shuffle (_ :: rest) => .ok (.shuffle rest)

end OrderIndexProvider

theorem nextInt_run {limit : Int} (positive : 0 < limit)
    (source : IndexSource) :
    (nextInt limit).run source =
      .ok ((source.random.head : Int) % limit)
        { source with random := source.random.tail } := by
  simp [nextInt, Int.not_le.mpr positive]

theorem nextInt_run_of_empty {limit : Int} (empty : limit ≤ 0)
    (source : IndexSource) :
    (nextInt limit).run source = .error .illegalArgument source := by
  simp only [nextInt, if_pos empty]
  rfl

theorem collectIndices_run (amount : Nat) (init : Nat → ProviderM Int)
    (source : IndexSource) :
    (collectIndices amount init).run source =
      (collectFrom init 0 amount).run source := by
  have nonneg : ¬ ((amount : Int) < 0) := by omega
  rw [collectIndices, if_neg nonneg, Int.toNat_natCast]

theorem respects_collectFrom
    {related : IndexSource → IndexSource → Prop}
    [IsPreorder IndexSource related] {init : Nat → ProviderM Int}
    (each : ∀ position, Respects related (init position)) :
    ∀ count start, Respects related (collectFrom init start count)
  | 0, _ => Respects.pure _
  | count + 1, start =>
      Respects.bind (each start) fun _ =>
        Respects.bind (respects_collectFrom each count (start + 1))
          fun _ => Respects.pure _

theorem respects_collectIndices
    {related : IndexSource → IndexSource → Prop}
    [IsPreorder IndexSource related] {init : Nat → ProviderM Int}
    (each : ∀ position, Respects related (init position)) (amount : Int) :
    Respects related (collectIndices amount init) :=
  Respects.ite (Respects.throw _) (respects_collectFrom each _ _)

/-- No prepared index is negative. -/
def NonnegPrepared (prepared : List Int) : Prop :=
  ∀ index ∈ prepared, 0 ≤ index

theorem NonnegPrepared.concat {prepared : List Int}
    (nonneg : NonnegPrepared prepared) {index : Int}
    (last : 0 ≤ index) : NonnegPrepared (prepared ++ [index]) := by
  intro other member
  rcases List.mem_append.mp member with earlier | final
  · exact nonneg other earlier
  · rw [List.mem_singleton.mp final]
    exact last

theorem NonnegPrepared.shiftRemoved {prepared : List Int}
    (nonneg : NonnegPrepared prepared) {index : Int} (start : 0 ≤ index) :
    NonnegPrepared (Queue.shiftRemoved index prepared) := by
  intro other member
  obtain ⟨original, kept, rfl⟩ := List.mem_map.mp member
  have bound := nonneg original (List.mem_of_mem_filter kept)
  split <;> omega

theorem NonnegPrepared.tail {index : Int} {rest : List Int}
    (nonneg : NonnegPrepared (index :: rest)) : NonnegPrepared rest :=
  fun other member => nonneg other (List.mem_cons_of_mem index member)

/-- The relation of the calls that prepare no negative index. -/
abbrev KeepsNonneg : IndexSource → IndexSource → Prop :=
  Preserves fun source => NonnegPrepared source.nextIndices

theorem respects_randomIndexAt (size : Int) (position : Nat) :
    Respects KeepsNonneg
      (RandomOrderIndexProvider.indexAt size position) := by
  intro source nonneg
  cases found : source.nextIndices[position]? with
  | some index =>
      simpa [RandomOrderIndexProvider.indexAt, found] using nonneg
  | none =>
      by_cases positive : 0 < size
      · simpa [RandomOrderIndexProvider.indexAt, found,
          nextInt_run positive, addNextIndex] using
            nonneg.concat
              (Int.emod_nonneg source.random.head (Int.ne_of_gt positive))
      · simpa [RandomOrderIndexProvider.indexAt, found,
          nextInt_run_of_empty (Int.not_lt.mp positive)] using nonneg

theorem randomElement_run {candidates : List Int}
    (nonempty : candidates ≠ []) (source : IndexSource) :
    (randomElement candidates).run source =
      .ok (pick candidates source.random)
        { source with random := source.random.tail } := by
  have positive : 0 < (candidates.length : Int) := by
    exact_mod_cast List.length_pos_of_ne_nil nonempty
  simp [randomElement, nonempty, nextInt_run positive, pick]

/-- A random element is one of the candidates. -/
theorem pick_mem {candidates : List Int} (nonempty : candidates ≠ [])
    (random : Random) : pick candidates random ∈ candidates := by
  have positive : 0 < (candidates.length : Int) := by
    exact_mod_cast List.length_pos_of_ne_nil nonempty
  have below :
      ((random.head : Int) % candidates.length).toNat <
        candidates.length := by
    have upper := Int.emod_lt_of_pos (random.head : Int) positive
    omega
  rw [pick, List.getD_eq_getElem?_getD, List.getElem?_eq_getElem below]
  exact List.getElem_mem below

theorem randomElement_run_empty (source : IndexSource) :
    (randomElement []).run source = .error .noSuchElement source :=
  rfl

/-- The shuffle provider reuses a prepared index strictly before the last
one. -/
theorem shuffleIndexAt_prepared {candidates : List Int} {position : Nat}
    {source : IndexSource}
    (early : (position : Int) < (source.nextIndices.length : Int) - 1) :
    (ShuffleOrderIndexProvider.indexAt candidates position).run source =
      .ok (source.nextIndices.getD position 0) source := by
  simp only [ShuffleOrderIndexProvider.indexAt, EStateM.run_bind,
    EStateM.run_get, if_pos early]
  rfl

/-- Everywhere else it draws one of the candidates. -/
theorem shuffleIndexAt_drawn {candidates : List Int} {position : Nat}
    {source : IndexSource} (nonempty : candidates ≠ [])
    (late : ¬ (position : Int) < (source.nextIndices.length : Int) - 1) :
    (ShuffleOrderIndexProvider.indexAt candidates position).run source =
      .ok (pick candidates source.random)
        ⟨source.nextIndices ++ [pick candidates source.random],
          source.random.tail⟩ := by
  simp only [ShuffleOrderIndexProvider.indexAt, EStateM.run_bind,
    EStateM.run_get, if_neg late, randomElement_run nonempty]
  rfl

theorem respects_shuffleIndexAt {candidates : List Int}
    (bounded : NonnegPrepared candidates) (position : Nat) :
    Respects KeepsNonneg
      (ShuffleOrderIndexProvider.indexAt candidates position) := by
  intro source nonneg
  by_cases early :
      (position : Int) < (source.nextIndices.length : Int) - 1
  · rw [shuffleIndexAt_prepared early]
    exact nonneg
  · by_cases empty : candidates = []
    · subst empty
      simpa [ShuffleOrderIndexProvider.indexAt, early,
        randomElement_run_empty] using nonneg
    · rw [shuffleIndexAt_drawn empty early]
      exact nonneg.concat (bounded _ (pick_mem empty source.random))

theorem remainingIndices_nonneg
    (size : Int) (playedIndices nextIndices : List Int) :
    NonnegPrepared
      (ShuffleOrderIndexProvider.remainingIndices size playedIndices
        nextIndices) := by
  intro index member
  obtain ⟨position, _, same⟩ :=
    List.mem_map.mp (List.mem_of_mem_filter member)
  rw [← same]
  exact Int.natCast_nonneg position

/-- No provider ever prepares a negative index. -/
theorem respects_provideIndices_nonneg (amount size : Int)
    (playedIndices : List Int) (currentIndex : Int) :
    ∀ provider : OrderIndexProvider,
      Respects KeepsNonneg
        (provider.provideIndices amount size playedIndices currentIndex)
  | .default =>
      Respects.ite (Respects.pure _)
        (Respects.ite (Respects.throw _) (Respects.pure _))
  | .random _ =>
      respects_collectIndices (respects_randomIndexAt size) amount
  | .shuffle _ =>
      Respects.ite (Respects.pure _)
        (Respects.bind Respects.get fun _ =>
          respects_collectIndices
            (respects_shuffleIndexAt (remainingIndices_nonneg _ _ _)) _)

end JellyfinTv.Queue
