import Mathlib.Order.Lattice
import Mathlib.Data.List.Basic
import Mathlib.Algebra.BigOperators.Group.List.Basic
import Mathlib.Algebra.Ring.Int.Defs

/-!
# Tilings of an interval

Items are laid out side by side, each from the right edge of the one before.
Items tile an interval if each begins where the one before ends and ends
later than it begins.  If the size of each item is how much a measure grows
from its beginning to its end, then the item is laid out at the measure of
its beginning, and the first item that ends behind a point is the one that
contains it.
-/

namespace JellyfinTv.Library

universe u v

variable {Item : Type u}

section Layouts

variable (size : Item → Int)

/-- The items with their left edges. -/
def laidOut : Int → List Item → List (Item × Int)
  | _, [] => []
  | left, item :: rest => (item, left) :: laidOut (left + size item) rest

def totalSize (items : List Item) : Int :=
  (items.map size).sum

@[simp]
theorem totalSize_nil : totalSize size [] = 0 :=
  rfl

@[simp]
theorem totalSize_cons (item : Item) (rest : List Item) :
    totalSize size (item :: rest) = size item + totalSize size rest := by
  rw [totalSize, List.map_cons, List.sum_cons]
  rfl

theorem totalSize_append (first second : List Item) :
    totalSize size (first ++ second) =
      totalSize size first + totalSize size second := by
  rw [totalSize, List.map_append, List.sum_append]
  rfl

/-- The items behind others are laid out from their right edge on. -/
theorem laidOut_append (left : Int) (first second : List Item) :
    laidOut size left (first ++ second) =
      laidOut size left first ++
        laidOut size (left + totalSize size first) second := by
  induction first generalizing left with
  | nil =>
      rw [totalSize_nil, Int.add_zero]
      rfl
  | cons item rest inductionHypothesis =>
      rw [List.cons_append, laidOut, inductionHypothesis, totalSize_cons,
        Int.add_assoc]
      rfl

theorem map_fst_laidOut (left : Int) (items : List Item) :
    (laidOut size left items).map Prod.fst = items := by
  induction items generalizing left with
  | nil =>
      rfl
  | cons item rest inductionHypothesis =>
      rw [laidOut, List.map_cons, inductionHypothesis]

/-- Every item is laid out somewhere. -/
theorem exists_laidOut {item : Item} {items : List Item}
    (member : item ∈ items) (left : Int) :
    ∃ edge, (item, edge) ∈ laidOut size left items := by
  rw [← map_fst_laidOut size left items] at member
  obtain ⟨⟨_, edge⟩, placed, rfl⟩ := List.mem_map.mp member
  exact ⟨edge, placed⟩

theorem mem_of_laidOut {placed : Item × Int} {left : Int}
    {items : List Item} (member : placed ∈ laidOut size left items) :
    placed.1 ∈ items := by
  rw [← map_fst_laidOut size left items]
  exact List.mem_map_of_mem member

end Layouts

section Tilings

variable {Point : Type v} [LinearOrder Point]
variable (begins ends : Item → Point)

/-- The items tile the interval from the first point to the last. -/
def Tiles : Point → List Item → Point → Prop
  | first, [], last => first = last
  | first, item :: rest, last =>
      begins item = first ∧ first < ends item ∧
        Tiles (ends item) rest last

variable {begins ends} {first last : Point} {items : List Item}

theorem Tiles.append {middle : Point} {more : List Item}
    (tiles : Tiles begins ends first items middle)
    (continued : Tiles begins ends middle more last) :
    Tiles begins ends first (items ++ more) last := by
  induction items generalizing first with
  | nil =>
      cases tiles
      exact continued
  | cons item rest inductionHypothesis =>
      obtain ⟨start, later, tiled⟩ := tiles
      exact ⟨start, later, inductionHypothesis tiled⟩

/-- One more item at the end. -/
theorem Tiles.concat {item : Item}
    (tiles : Tiles begins ends first items (begins item))
    (positive : begins item < ends item) :
    Tiles begins ends first (items ++ [item]) (ends item) := by
  apply tiles.append
  exact ⟨rfl, positive, rfl⟩

theorem Tiles.positive (tiles : Tiles begins ends first items last) :
    ∀ item ∈ items, begins item < ends item := by
  induction items generalizing first with
  | nil =>
      intro item member
      cases member
  | cons item rest inductionHypothesis =>
      obtain ⟨rfl, positive, tiled⟩ := tiles
      exact List.forall_mem_cons.mpr ⟨positive, inductionHypothesis tiled⟩

theorem Tiles.le (tiles : Tiles begins ends first items last) :
    first ≤ last := by
  induction items generalizing first with
  | nil =>
      exact le_of_eq tiles
  | cons item rest inductionHypothesis =>
      obtain ⟨_, later, tiled⟩ := tiles
      exact le_trans (le_of_lt later) (inductionHypothesis tiled)

section Measure

variable {size : Item → Int} {measure : Point → Int}

/-- The total size is how much the measure grows. -/
theorem Tiles.total (tiles : Tiles begins ends first items last)
    (sized :
      ∀ item ∈ items,
        size item = measure (ends item) - measure (begins item)) :
    measure first + totalSize size items = measure last := by
  induction items generalizing first with
  | nil =>
      cases tiles
      rw [totalSize_nil, Int.add_zero]
  | cons item rest inductionHypothesis =>
      obtain ⟨rfl, _, tiled⟩ := tiles
      rw [List.forall_mem_cons] at sized
      have remaining := inductionHypothesis tiled sized.2
      rw [totalSize_cons, sized.1]
      omega

/-- Every item is laid out at the measure of its beginning. -/
theorem Tiles.placed (tiles : Tiles begins ends first items last)
    (sized :
      ∀ item ∈ items,
        size item = measure (ends item) - measure (begins item))
    {placed : Item × Int}
    (member : placed ∈ laidOut size (measure first) items) :
    placed.2 = measure (begins placed.1) := by
  induction items generalizing first with
  | nil =>
      cases member
  | cons item rest inductionHypothesis =>
      obtain ⟨rfl, _, tiled⟩ := tiles
      rw [List.forall_mem_cons] at sized
      have edge :
          measure (begins item) + size item = measure (ends item) := by
        rw [sized.1]
        omega
      rw [laidOut, edge] at member
      rcases List.mem_cons.mp member with rfl | later
      · rfl
      · exact inductionHypothesis tiled sized.2 later

end Measure

/-- The first item that ends behind a point of the interval contains it. -/
theorem Tiles.find? (tiles : Tiles begins ends first items last)
    {point : Point} (lower : first ≤ point) (upper : point < last) :
    ∃ item ∈ items,
      items.find? (fun item => point < ends item) = some item ∧
        begins item ≤ point ∧ point < ends item := by
  induction items generalizing first with
  | nil =>
      cases tiles
      exact absurd upper (not_lt_of_ge lower)
  | cons item rest inductionHypothesis =>
      obtain ⟨rfl, _, tiled⟩ := tiles
      by_cases inside : point < ends item
      · have found :
            (item :: rest).find? (fun item => point < ends item) =
              some item :=
          List.find?_cons_of_pos (by simpa using inside)
        exact ⟨item, List.mem_cons_self, found, lower, inside⟩
      · have beyond : ends item ≤ point := le_of_not_gt inside
        obtain ⟨later, member, found, contains⟩ :=
          inductionHypothesis tiled beyond
        have skipped :
            (item :: rest).find? (fun item => point < ends item) =
              some later := by
          rw [List.find?_cons_of_neg (by simpa using inside)]
          exact found
        exact
          ⟨later, List.mem_cons_of_mem item member, skipped, contains⟩

end Tilings

end JellyfinTv.Library
