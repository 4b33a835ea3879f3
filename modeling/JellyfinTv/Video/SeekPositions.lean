import JellyfinTv.Library.Chains
import Mathlib.Data.Int.Init
import Mathlib.Tactic.Linarith
import Mathlib.Tactic.Ring

/-!
# Seek positions

`CustomSeekProvider` lays a grid over the video whose steps are the skips of
the user, such that the current position is on it, and adds the beginning and
the end of the video.  The first and the last point of the grid are taken to
be different ones; they are if a whole skip fits before or behind the current
position.
-/

namespace JellyfinTv.Video.CustomSeekProvider

open JellyfinTv.Library

/-- What the provider asks of its `VideoPlayerAdapter`. -/
structure VideoPlayerAdapter where
  canSeek : Bool
  currentPosition : Int
  duration : Int
  deriving DecidableEq, Repr

inductive SeekException where
  | illegalArgument
  deriving DecidableEq, Repr

/-- `Long.toInt`, which keeps the lower 32 bits; the sums of `Int` wrap in the
same way. -/
def toInt (value : Int) : Int :=
  value.bmod 4294967296

/-- The positions that are added to the list, in their order. -/
def addedPositions (firstSeekPosition lastSeekPosition seekPositionCount
    videoEndPosition forwardTime : Int) : List Int :=
  [0] ++
    (if firstSeekPosition ≠ 0 then [firstSeekPosition] else []) ++
    progression firstSeekPosition forwardTime
      (seekPositionCount - 2).toNat ++
    (if lastSeekPosition ≠ videoEndPosition then [lastSeekPosition]
      else []) ++
    (if videoEndPosition ≠ 0 then [videoEndPosition] else [])

/-- A list cannot be created with a negative capacity. -/
def getSeekPositions (forwardTime : Int)
    (videoPlayerAdapter : VideoPlayerAdapter) :
    Except SeekException (List Int) :=
  if ¬videoPlayerAdapter.canSeek then
    .ok []
  else
    let currentSeekPosition := videoPlayerAdapter.currentPosition
    let videoEndPosition := videoPlayerAdapter.duration
    let firstSeekPosition := currentSeekPosition.tmod forwardTime
    let lastSeekPosition :=
      videoEndPosition -
        (videoEndPosition - currentSeekPosition).tmod forwardTime
    let seekPositionCount :=
      toInt
        (toInt ((lastSeekPosition - firstSeekPosition).tdiv forwardTime) + 1)
    if toInt (seekPositionCount + 2) < 0 then
      .error .illegalArgument
    else
      .ok
        (addedPositions firstSeekPosition lastSeekPosition seekPositionCount
          videoEndPosition forwardTime)

/-- The positions ascend from the beginning to the end of the video in steps
of at most one skip and pass the current position. -/
structure ProperGrid (forwardTime : Int) (adapter : VideoPlayerAdapter)
    (positions : List Int) : Prop where
  ascending : positions.Pairwise (· < ·)
  starts : positions.head? = some 0
  ends : positions.getLast? = some adapter.duration
  current : adapter.currentPosition ∈ positions
  near :
    positions.IsChain fun first second => second - first ≤ forwardTime

/-- The number of whole skips that fit into the video from the current
position. -/
def wholeSkips (forwardTime : Int) (adapter : VideoPlayerAdapter) : Int :=
  adapter.currentPosition / forwardTime +
    (adapter.duration - adapter.currentPosition) / forwardTime

/-- A whole skip fits before or behind the current position, or the video is
empty; and the number of positions is an `Int`. -/
def FitsSkip (forwardTime : Int) (adapter : VideoPlayerAdapter) : Prop :=
  (adapter.duration = 0 ∨ forwardTime ≤ adapter.currentPosition ∨
    forwardTime ≤ adapter.duration - adapter.currentPosition) ∧
    wholeSkips forwardTime adapter + 3 < 2147483648

/-- The next position, at most one skip further. -/
abbrev Step (forwardTime first second : Int) : Prop :=
  first < second ∧ second - first ≤ forwardTime

section Positions

variable {forwardTime first skips rest : Int}

theorem step_iff (positive : 0 < forwardTime)
    (rest first second : Int) :
    Step forwardTime (rest + first * forwardTime)
        (rest + second * forwardTime) ↔
      second = first + 1 := by
  have apart :
      rest + second * forwardTime - (rest + first * forwardTime) =
        (second - first) * forwardTime := by
    ring
  have ahead :
      rest + first * forwardTime < rest + second * forwardTime ↔
        0 < second - first := by
    rw [← sub_pos, apart, mul_pos_iff_of_pos_right positive]
  have near :
      (second - first) * forwardTime ≤ forwardTime ↔ second - first ≤ 1 :=
    mul_le_iff_le_one_left positive
  rw [Step, apart, ahead, near]
  omega

theorem addedPositions_eq (last count videoEnd : Int) :
    addedPositions first last count videoEnd forwardTime =
      0 :: ((if first ≠ 0 then [first] else []) ++
        (progression first forwardTime (count - 2).toNat ++
          ((if last ≠ videoEnd then [last] else []) ++
            (if videoEnd ≠ 0 then [videoEnd] else [])))) := by
  simp [addedPositions]

/-- The positions are a chain of steps if the last one between the first and
the last point of the grid is followed by the latter. -/
theorem isChain_addedPositions_iff (positive : 0 < forwardTime)
    (firstLow : 0 ≤ first) (firstHigh : first < forwardTime)
    (skipsLow : 0 ≤ skips) (restLow : 0 ≤ rest)
    (restHigh : rest < forwardTime) (count : Int) :
    (addedPositions first (first + skips * forwardTime) count
        (first + skips * forwardTime + rest) forwardTime).IsChain
        (Step forwardTime) ↔
      first + skips * forwardTime + rest = 0 ∨
        skips = (count - 2).toNat + 1 := by
  have start :
      (0 :: (if first ≠ 0 then [first] else [])).IsChain
        (Step forwardTime) := by
    by_cases zero : first = 0
    · simp [zero]
    · simp only [ne_eq, zero, not_false_eq_true, if_true,
        List.isChain_pair]
      omega
  have begun :
      (if first ≠ 0 then [first] else []).getLastD 0 = first := by
    by_cases zero : first = 0
    · simp [zero]
    · simp [zero]
  rw [addedPositions_eq, isChain_append_iff, begun, isChain_append_iff,
    getLastD_progression, and_iff_right start,
    and_iff_right
      (isChain_progression (fun position => by omega) first
        (count - 2).toNat)]
  generalize (count - 2).toNat = steps
  have far : 0 ≤ skips * forwardTime :=
    Int.mul_nonneg skipsLow positive.le
  have next := step_iff positive first steps skips
  by_cases empty : first + skips * forwardTime + rest = 0
  · have whole : first + skips * forwardTime = 0 := by
      omega
    rw [empty, whole]
    simp
  · by_cases divides : rest = 0
    · rw [divides, Int.add_zero] at empty ⊢
      simp only [ne_eq, not_true_eq_false, if_false, empty,
        not_false_eq_true, if_true, List.nil_append, List.isChain_pair,
        next, false_or]
    · have partly : first + skips * forwardTime ≠
          first + skips * forwardTime + rest := by
        omega
      have last : Step forwardTime (first + skips * forwardTime)
          (first + skips * forwardTime + rest) := by
        constructor <;> omega
      simp only [ne_eq, partly, not_false_eq_true, if_true, empty,
        List.cons_append, List.nil_append, List.isChain_cons_cons,
        List.IsChain.singleton, and_true, next, false_or]
      exact and_iff_left last

theorem isChain_of_properGrid {adapter : VideoPlayerAdapter}
    {positions : List Int}
    (proper : ProperGrid forwardTime adapter positions) :
    positions.IsChain (Step forwardTime) :=
  (isChain_and_iff positions).mp ⟨proper.ascending.isChain, proper.near⟩

/-- A chain of steps from the beginning to the end that passes the current
position is all that is needed. -/
theorem properGrid_of_isChain {adapter : VideoPlayerAdapter}
    {positions : List Int} (chain : positions.IsChain (Step forwardTime))
    (starts : positions.head? = some 0)
    (ends : positions.getLast? = some adapter.duration)
    (current : adapter.currentPosition ∈ positions) :
    ProperGrid forwardTime adapter positions := by
  have both := (isChain_and_iff positions).mpr chain
  exact
    { ascending := List.isChain_iff_pairwise.mp both.1
      starts := starts
      ends := ends
      current := current
      near := both.2 }

theorem getLast?_addedPositions {videoEnd : Int} (present : videoEnd ≠ 0)
    (last count : Int) :
    (addedPositions first last count videoEnd forwardTime).getLast? =
      some videoEnd := by
  rw [addedPositions, if_pos present, List.getLast?_concat]

/-- Each point of the grid is added: the first one as the beginning or on its
own, and the last one on its own or as the end. -/
theorem mem_addedPositions {point count : Int} (pointLow : 0 ≤ point)
    (pointHigh : point ≤ skips) (exact : skips = (count - 2).toNat + 1)
    (present : first + skips * forwardTime + rest ≠ 0) :
    first + point * forwardTime ∈
      addedPositions first (first + skips * forwardTime) count
        (first + skips * forwardTime + rest) forwardTime := by
  simp only [addedPositions, List.mem_append]
  by_cases lowest : point = 0
  · subst lowest
    by_cases zero : first = 0 <;> simp [zero]
  · by_cases highest : point = skips
    · subst highest
      by_cases divides : rest = 0
      · simp_all
      · simp [divides]
    · refine Or.inl (Or.inl (Or.inr (mem_progression.mpr ?_)))
      refine ⟨(point - 1).toNat, by omega, ?_⟩
      rw [Int.toNat_of_nonneg (by omega), Int.sub_add_cancel]

end Positions

/-- The number of positions as the code computes it. -/
def positionCount (skips : Int) : Int :=
  toInt (toInt skips + 1)

theorem positionCount_of_small {skips : Int} (low : 0 ≤ skips)
    (small : skips + 3 < 2147483648) :
    positionCount skips = skips + 1 ∧
      toInt (positionCount skips + 2) = skips + 3 := by
  simp only [positionCount, toInt, Int.bmod_def]
  omega

/-- Too many positions are counted wrongly, unless the list is not even
created. -/
theorem positionCount_of_large {skips : Int}
    (large : 2147483648 ≤ skips + 3)
    (created : ¬toInt (positionCount skips + 2) < 0) :
    skips ≠ (positionCount skips - 2).toNat + 1 := by
  simp only [positionCount, toInt, Int.bmod_def] at created ⊢
  omega

section Numbers

variable {forwardTime : Int} {adapter : VideoPlayerAdapter}

/-- The end of the video in terms of the grid. -/
theorem duration_eq (forwardTime : Int) (adapter : VideoPlayerAdapter) :
    adapter.duration =
      adapter.currentPosition % forwardTime +
        wholeSkips forwardTime adapter * forwardTime +
        (adapter.duration - adapter.currentPosition) % forwardTime := by
  have current := Int.mul_ediv_add_emod adapter.currentPosition forwardTime
  have behind :=
    Int.mul_ediv_add_emod (adapter.duration - adapter.currentPosition)
      forwardTime
  rw [wholeSkips]
  linarith

variable (positive : 0 < forwardTime)
variable (begun : 0 ≤ adapter.currentPosition)
variable (within : adapter.currentPosition ≤ adapter.duration)

include positive begun within

theorem getSeekPositions_eq (seekable : adapter.canSeek) :
    getSeekPositions forwardTime adapter =
      (if toInt (positionCount (wholeSkips forwardTime adapter) + 2) < 0 then
        .error .illegalArgument
      else
        .ok
          (addedPositions (adapter.currentPosition % forwardTime)
            (adapter.currentPosition % forwardTime +
              wholeSkips forwardTime adapter * forwardTime)
            (positionCount (wholeSkips forwardTime adapter))
            adapter.duration forwardTime)) := by
  have last :
      adapter.duration -
          (adapter.duration - adapter.currentPosition) % forwardTime =
        adapter.currentPosition % forwardTime +
          wholeSkips forwardTime adapter * forwardTime := by
    have whole := duration_eq forwardTime adapter
    omega
  have counted :
      (wholeSkips forwardTime adapter * forwardTime).tdiv forwardTime =
        wholeSkips forwardTime adapter :=
    Int.mul_tdiv_cancel _ positive.ne'
  rw [getSeekPositions, if_neg (not_not.mpr seekable)]
  simp only [Int.tmod_eq_emod_of_nonneg begun,
    Int.tmod_eq_emod_of_nonneg (sub_nonneg.mpr within), last,
    add_sub_cancel_left, counted, positionCount]
  rfl

theorem wholeSkips_nonneg : 0 ≤ wholeSkips forwardTime adapter := by
  have before := Int.ediv_nonneg begun positive.le
  have behind := Int.ediv_nonneg (sub_nonneg.mpr within) positive.le
  exact Int.add_nonneg before behind

theorem wholeSkips_pos_iff :
    0 < wholeSkips forwardTime adapter ↔
      forwardTime ≤ adapter.currentPosition ∨
        forwardTime ≤ adapter.duration - adapter.currentPosition := by
  have before := Int.ediv_nonneg begun positive.le
  have behind := Int.ediv_nonneg (sub_nonneg.mpr within) positive.le
  have fitsBefore :
      1 ≤ adapter.currentPosition / forwardTime ↔
        forwardTime ≤ adapter.currentPosition := by
    rw [Int.le_ediv_iff_mul_le positive, Int.one_mul]
  have fitsBehind :
      1 ≤ (adapter.duration - adapter.currentPosition) / forwardTime ↔
        forwardTime ≤ adapter.duration - adapter.currentPosition := by
    rw [Int.le_ediv_iff_mul_le positive, Int.one_mul]
  rw [wholeSkips, ← fitsBefore, ← fitsBehind]
  omega

/-- With a sensible number of positions the grid is proper if and only if it
has two points, or the video is empty. -/
theorem properGrid_iff_of_small
    (small : wholeSkips forwardTime adapter + 3 < 2147483648) :
    ProperGrid forwardTime adapter
        (addedPositions (adapter.currentPosition % forwardTime)
          (adapter.currentPosition % forwardTime +
            wholeSkips forwardTime adapter * forwardTime)
          (wholeSkips forwardTime adapter + 1)
          adapter.duration forwardTime) ↔
      adapter.duration = 0 ∨ 0 < wholeSkips forwardTime adapter := by
  have whole := duration_eq forwardTime adapter
  have firstLow :=
    Int.emod_nonneg adapter.currentPosition positive.ne'
  have firstHigh := Int.emod_lt_of_pos adapter.currentPosition positive
  have restLow :=
    Int.emod_nonneg (adapter.duration - adapter.currentPosition)
      positive.ne'
  have restHigh :=
    Int.emod_lt_of_pos (adapter.duration - adapter.currentPosition) positive
  have skipsLow := wholeSkips_nonneg positive begun within
  have chain :=
    isChain_addedPositions_iff positive firstLow firstHigh skipsLow restLow
      restHigh (wholeSkips forwardTime adapter + 1)
  rw [← whole] at chain
  constructor
  · intro proper
    have either := chain.mp (isChain_of_properGrid proper)
    omega
  · intro either
    by_cases empty : adapter.duration = 0
    · have still : adapter.currentPosition = 0 := by
        omega
      have noSkip : wholeSkips forwardTime adapter = 0 := by
        simp [wholeSkips, empty, still]
      refine properGrid_of_isChain (chain.mpr (by omega)) rfl ?_ ?_
      · simp [noSkip, empty, still, addedPositions, progression]
      · simp [noSkip, empty, still, addedPositions, progression]
    · refine properGrid_of_isChain (chain.mpr (by omega)) rfl ?_ ?_
      · exact getLast?_addedPositions empty _ _
      · have onGrid :=
          Int.emod_add_mul_ediv adapter.currentPosition forwardTime
        have low := Int.ediv_nonneg begun positive.le
        have high :
            adapter.currentPosition / forwardTime ≤
              wholeSkips forwardTime adapter := by
          have behind :=
            Int.ediv_nonneg (sub_nonneg.mpr within) positive.le
          rw [wholeSkips]
          omega
        have member :
            adapter.currentPosition % forwardTime +
                adapter.currentPosition / forwardTime * forwardTime ∈
              addedPositions (adapter.currentPosition % forwardTime)
                (adapter.currentPosition % forwardTime +
                  wholeSkips forwardTime adapter * forwardTime)
                (wholeSkips forwardTime adapter + 1)
                (adapter.currentPosition % forwardTime +
                  wholeSkips forwardTime adapter * forwardTime +
                  (adapter.duration - adapter.currentPosition) % forwardTime)
                forwardTime :=
          mem_addedPositions low high (by omega) (by omega)
        rw [← whole, Int.mul_comm (_ / _), onGrid] at member
        exact member

end Numbers

/-- The seek positions of a seekable video are a proper grid if and only if a
whole skip fits before or behind the current position, or the video is empty,
and the number of positions is an `Int`. -/
theorem seekPositions_proper_iff {forwardTime : Int}
    {adapter : VideoPlayerAdapter} (positive : 0 < forwardTime)
    (begun : 0 ≤ adapter.currentPosition)
    (within : adapter.currentPosition ≤ adapter.duration)
    (seekable : adapter.canSeek) :
    (∃ positions,
      getSeekPositions forwardTime adapter = .ok positions ∧
        ProperGrid forwardTime adapter positions) ↔
      FitsSkip forwardTime adapter := by
  have low := wholeSkips_nonneg positive begun within
  rw [getSeekPositions_eq positive begun within seekable, FitsSkip,
    ← wholeSkips_pos_iff positive begun within]
  by_cases small : wholeSkips forwardTime adapter + 3 < 2147483648
  · obtain ⟨counted, capacity⟩ := positionCount_of_small low small
    rw [if_neg (by omega), counted, and_iff_left small]
    simp only [Except.ok.injEq, exists_eq_left']
    exact properGrid_iff_of_small positive begun within small
  · refine iff_of_false ?_ fun fits => small fits.2
    rintro ⟨positions, answered, proper⟩
    by_cases created :
        toInt (positionCount (wholeSkips forwardTime adapter) + 2) < 0
    · rw [if_pos created] at answered
      cases answered
    · rw [if_neg created] at answered
      cases answered
      have chain := isChain_of_properGrid proper
      have whole := duration_eq forwardTime adapter
      have firstLow :=
        Int.emod_nonneg adapter.currentPosition positive.ne'
      have restLow :=
        Int.emod_nonneg (adapter.duration - adapter.currentPosition)
          positive.ne'
      rw [whole] at chain
      have either :=
        (isChain_addedPositions_iff positive firstLow
          (Int.emod_lt_of_pos _ positive) low restLow
          (Int.emod_lt_of_pos _ positive) _).mp chain
      rcases either with empty | exact
      · have far :
            wholeSkips forwardTime adapter ≤
              wholeSkips forwardTime adapter * forwardTime :=
          le_mul_of_one_le_right low positive
        omega
      · exact positionCount_of_large (by omega) created exact

/-- The player in the middle of a video. -/
theorem middle_positions_proper :
    ∃ positions,
      getSeekPositions 10000 ⟨true, 32500, 60000⟩ = .ok positions ∧
        ProperGrid 10000 ⟨true, 32500, 60000⟩ positions :=
  (seekPositions_proper_iff (by decide) (by decide) (by decide) rfl).mpr
    (by unfold FitsSkip; decide)

/-- In a video that is shorter than a skip a position is added twice. -/
theorem short_video_repeats_position :
    ¬∃ positions,
      getSeekPositions 10000 ⟨true, 5000, 8000⟩ = .ok positions ∧
        ProperGrid 10000 ⟨true, 5000, 8000⟩ positions := by
  rintro ⟨positions, answered, proper⟩
  have added :
      getSeekPositions 10000 ⟨true, 5000, 8000⟩ =
        .ok [0, 5000, 5000, 8000] := by
    decide
  rw [added] at answered
  cases answered
  exact absurd proper.ascending (by decide)

end JellyfinTv.Video.CustomSeekProvider
