import Mathlib.Data.List.FinRange
import JellyfinTv.Library.RoundRobin

/-!
# The groups of a download

`ScreensaverImageList` downloads the images of the screensaver with several
threads and deals the names of the images to them in turn.  The number of
threads is what the platform reports, which may be zero where it is not
known.
-/

namespace JellyfinTv.Screensaver

open JellyfinTv.Library

/-- The largest value of the `int` that counts the images. -/
def INT_MAX : Nat :=
  2147483647

/-- Where the loop has no defined result. -/
inductive Fault where
  | divisionByZero
  | outOfRange
  | signedOverflow
  deriving DecidableEq, Repr

namespace ScreensaverImageList

/-- `threadGroups.at(i % threadNum).emplace_back(imagename)`. -/
def emplaceBack (threadNum i : Nat) (imagename : String)
    (threadGroups : List (List String)) :
    Except Fault (List (List String)) :=
  if threadNum = 0 then .error .divisionByZero
  else
    match threadGroups[i % threadNum]? with
    | none => .error .outOfRange
    | some group =>
        .ok (threadGroups.set (i % threadNum) (group ++ [imagename]))

/-- The loop over the images from `i` on. -/
def groupLoop (threadNum : Nat) :
    Nat → List String → List (List String) →
      Except Fault (List (List String))
  | _, [], threadGroups => .ok threadGroups
  | i, imagename :: rest, threadGroups => do
      let threadGroups ← emplaceBack threadNum i imagename threadGroups
      -- `++i` is undefined for the largest `int`.
      if i = INT_MAX then .error .signedOverflow
      else groupLoop threadNum (i + 1) rest threadGroups

def threadNum (images : List String) (hardware_concurrency : UInt32) :
    Nat :=
  if images.length ≤ 4 then 1 else hardware_concurrency.toNat

/-- The groups of `downloadScreensaverRemoteImageListToLocalPath`. -/
def threadGroups (images : List String) (hardware_concurrency : UInt32) :
    Except Fault (List (List String)) :=
  let threadNum := threadNum images hardware_concurrency
  groupLoop threadNum 0 images (List.replicate threadNum [])

/-- The loop ends without a fault, every position of the list is in exactly
one group, and the sizes of the groups differ by at most one. -/
def SplitsWithoutLoss (images : List String)
    (hardware_concurrency : UInt32) : Prop :=
  ∃ positions : List (List (Fin images.length)),
    threadGroups images hardware_concurrency =
        .ok (positions.map (List.map images.get)) ∧
      positions.flatten.Perm (List.finRange images.length) ∧
        ∀ first ∈ positions, ∀ second ∈ positions,
          first.length ≤ second.length + 1

theorem emplaceBack_of_positive {threadNum i : Nat} {imagename : String}
    {threadGroups : List (List String)} (positive : 0 < threadNum)
    (length : threadGroups.length = threadNum) :
    emplaceBack threadNum i imagename threadGroups =
      .ok
        (threadGroups.modify (i % threadNum) fun group =>
          group ++ [imagename]) := by
  have inside : i % threadNum < threadGroups.length := by
    rw [length]
    exact Nat.mod_lt i positive
  rw [emplaceBack, if_neg (Nat.ne_of_gt positive),
    List.modify_eq_set_getElem?, List.getElem?_eq_getElem inside]
  rfl

theorem groupLoop_ok {threadNum i : Nat} {images : List String}
    {threadGroups : List (List String)} (positive : 0 < threadNum)
    (length : threadGroups.length = threadNum)
    (counted : i + images.length ≤ INT_MAX) :
    groupLoop threadNum i images threadGroups =
      .ok (dealFrom threadNum i images threadGroups) := by
  induction images generalizing i threadGroups with
  | nil =>
      rfl
  | cons imagename rest inductionHypothesis =>
      rw [List.length_cons] at counted
      have below : i ≠ INT_MAX := by
        omega
      have kept :
          (threadGroups.modify (i % threadNum) fun group =>
            group ++ [imagename]).length = threadNum := by
        rw [List.length_modify, length]
      rw [groupLoop, emplaceBack_of_positive positive length]
      simp only [Except.bind, bind, if_neg below]
      exact inductionHypothesis kept (by omega)

theorem groupLoop_zero (i : Nat) (imagename : String)
    (rest : List String) (threadGroups : List (List String)) :
    groupLoop 0 i (imagename :: rest) threadGroups =
      .error .divisionByZero :=
  rfl

/-- Behind the largest `int` the loop does not end with groups. -/
theorem groupLoop_overflow {threadNum i : Nat} {images : List String}
    {threadGroups groups : List (List String)} (started : i ≤ INT_MAX)
    (counted : INT_MAX < i + images.length) :
    groupLoop threadNum i images threadGroups ≠ .ok groups := by
  induction images generalizing i threadGroups with
  | nil =>
      rw [List.length_nil] at counted
      omega
  | cons imagename rest inductionHypothesis =>
      rw [List.length_cons] at counted
      rw [groupLoop]
      cases emplaceBack threadNum i imagename threadGroups with
      | error fault =>
          rintro ⟨⟩
      | ok emplaced =>
          simp only [Except.bind, bind]
          split
          · rintro ⟨⟩
          · exact inductionHypothesis (by omega) (by omega)

theorem threadNum_eq_zero_iff {images : List String}
    {hardware_concurrency : UInt32} :
    threadNum images hardware_concurrency = 0 ↔
      4 < images.length ∧ hardware_concurrency = 0 := by
  rw [threadNum, ← UInt32.toNat_inj]
  split
  · omega
  · rw [UInt32.toNat_zero]
    omega

/-- The images are split without loss exactly if there are at most four or
the platform knows its threads, and an `int` can count them. -/
theorem splitsWithoutLoss_iff (images : List String)
    (hardware_concurrency : UInt32) :
    SplitsWithoutLoss images hardware_concurrency ↔
      (images.length ≤ 4 ∨ hardware_concurrency ≠ 0) ∧
        images.length ≤ INT_MAX := by
  constructor
  · rintro ⟨positions, split, _⟩
    rw [threadGroups] at split
    constructor
    · by_contra neither
      rw [not_or, not_le, not_not] at neither
      rw [threadNum_eq_zero_iff.mpr neither] at split
      cases images with
      | nil =>
          exact absurd neither.1 (by decide)
      | cons imagename rest =>
          rw [groupLoop_zero] at split
          cases split
    · by_contra more
      exact
        groupLoop_overflow (Nat.zero_le _) (by omega) split
  · rintro ⟨threads, counted⟩
    have positive : 0 < threadNum images hardware_concurrency := by
      rw [Nat.pos_iff_ne_zero, Ne, threadNum_eq_zero_iff]
      rintro ⟨many, none⟩
      rcases threads with few | known
      · omega
      · exact known none
    refine
      ⟨deal (threadNum images hardware_concurrency)
          (List.finRange images.length), ?_,
        flatten_deal_perm positive _,
        (evenlyDealt_deal positive _).length_le⟩
    rw [map_deal, List.map_get_finRange, threadGroups]
    exact
      groupLoop_ok positive List.length_replicate
        ((Nat.zero_add _).symm ▸ counted)

/-- With five images on a platform that does not know its threads, the loop
divides by zero. -/
theorem five_images_divide_by_zero :
    threadGroups ["a", "b", "c", "d", "e"] 0 = .error .divisionByZero ∧
      ¬SplitsWithoutLoss ["a", "b", "c", "d", "e"] 0 := by
  have divides :
      threadGroups ["a", "b", "c", "d", "e"] 0 = .error .divisionByZero :=
    rfl
  refine ⟨divides, ?_⟩
  rintro ⟨positions, split, _⟩
  rw [divides] at split
  cases split

end ScreensaverImageList

end JellyfinTv.Screensaver
