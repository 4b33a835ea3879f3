import Mathlib.Data.List.Forall2
import Mathlib.Data.List.InsertIdx

/-!
# Patches of a list

A list announces its changes to a view, which shows one cell for each item.
A cell is empty until it is bound to the item at its place, and a patch moves
the bound cells along.  Patches only look at places, so that what they do to
one view they do to any other.
-/

namespace JellyfinTv.Library

universe u v

inductive Patch where
  | insert (position count : Nat)
  | remove (position count : Nat)
  | move (source target : Nat)
  | change (position count : Nat)
  deriving DecidableEq, Repr

namespace Patch

variable {Item : Type u} {Other : Type v}

/-- Cells that come, go or move; none if a place is out of range. -/
def apply : Patch → List (Option Item) → Option (List (Option Item))
  | insert position count, cells =>
      if position ≤ cells.length then
        some
          (cells.take position ++ List.replicate count none ++
            cells.drop position)
      else
        none
  | remove position count, cells =>
      if position + count ≤ cells.length then
        some (cells.take position ++ cells.drop (position + count))
      else
        none
  | move source target, cells =>
      match cells[source]? with
      | none => none
      | some cell =>
          if target < cells.length then
            some ((cells.eraseIdx source).insertIdx target cell)
          else
            none
  | change position count, cells =>
      if position + count ≤ cells.length then
        some
          (cells.take position ++ List.replicate count none ++
            cells.drop (position + count))
      else
        none

def applyAll : List Patch → List (Option Item) → Option (List (Option Item))
  | [], cells => some cells
  | patch :: rest, cells => (patch.apply cells).bind (applyAll rest)

theorem applyAll_singleton (patch : Patch) (cells : List (Option Item)) :
    applyAll [patch] cells = patch.apply cells := by
  rw [applyAll]
  cases patch.apply cells with
  | none =>
      rfl
  | some changed =>
      rfl

section Places

variable {place : Option Item → Option Other}

/-- A patch does to the cells of one view what it does to those of another,
as long as empty cells stay empty. -/
theorem apply_map (empty : place none = none) (patch : Patch)
    (cells : List (Option Item)) :
    patch.apply (cells.map place) =
      (patch.apply cells).map (List.map place) := by
  cases patch with
  | insert position count =>
      simp only [apply, List.length_map]
      split
      · simp [empty]
      · rfl
  | remove position count =>
      simp only [apply, List.length_map]
      split
      · simp
      · rfl
  | move source target =>
      simp only [apply, List.getElem?_map, List.length_map]
      cases cells[source]? with
      | none =>
          rfl
      | some cell =>
          simp only [Option.map_some]
          split
          · simp [List.eraseIdx_map, List.map_insertIdx]
          · rfl
  | change position count =>
      simp only [apply, List.length_map]
      split
      · simp [empty]
      · rfl

theorem applyAll_map (empty : place none = none) (patches : List Patch)
    (cells : List (Option Item)) :
    applyAll patches (cells.map place) =
      (applyAll patches cells).map (List.map place) := by
  induction patches generalizing cells with
  | nil =>
      rfl
  | cons patch rest inductionHypothesis =>
      rw [applyAll, applyAll, apply_map empty]
      cases patch.apply cells with
      | none =>
          rfl
      | some changed =>
          exact inductionHypothesis changed

end Places

end Patch

theorem insertIdx_eq_append {Item : Type u} {items : List Item}
    {position : Nat} (inside : position ≤ items.length) {element : Item} :
    items.insertIdx position element =
      items.take position ++ [element] ++ items.drop position := by
  induction position generalizing items with
  | zero =>
      rfl
  | succ position inductionHypothesis =>
      cases items with
      | nil =>
          exact absurd inside (Nat.not_succ_le_zero position)
      | cons first rest =>
          rw [List.insertIdx_succ_cons,
            inductionHypothesis (Nat.le_of_succ_le_succ inside)]
          rfl

section Views

variable {Item : Type u} {Alike : Item → Item → Prop}

/-- Each cell is empty or bound to an item like the one at its place. -/
abbrev Shows (Alike : Item → Item → Prop) :
    List (Option Item) → List Item → Prop :=
  List.Forall₂ fun cell item => ∀ shown ∈ cell, Alike shown item

theorem shows_replicate_none (items : List Item) :
    Shows Alike (List.replicate items.length none) items := by
  induction items with
  | nil =>
      exact .nil
  | cons item rest inductionHypothesis =>
      refine .cons ?_ inductionHypothesis
      rintro shown ⟨⟩

namespace Shows

variable {cells : List (Option Item)} {items : List Item}

/-- New items are announced where they are put. -/
theorem insert (shows : Shows Alike cells items) {position : Nat}
    (inside : position ≤ items.length) (new : List Item) :
    ∃ changed,
      (Patch.insert position new.length).apply cells = some changed ∧
        Shows Alike changed
          (items.take position ++ new ++ items.drop position) := by
  refine ⟨_, if_pos (shows.length_eq ▸ inside), ?_⟩
  exact
    List.rel_append
      (List.rel_append (List.forall₂_take position shows)
        (shows_replicate_none new))
      (List.forall₂_drop position shows)

theorem remove (shows : Shows Alike cells items) {position count : Nat}
    (inside : position + count ≤ items.length) :
    ∃ changed,
      (Patch.remove position count).apply cells = some changed ∧
        Shows Alike changed
          (items.take position ++ items.drop (position + count)) := by
  refine ⟨_, if_pos (shows.length_eq ▸ inside), ?_⟩
  exact
    List.rel_append (List.forall₂_take position shows)
      (List.forall₂_drop (position + count) shows)

/-- Items that are put in the place of others are bound anew. -/
theorem change (shows : Shows Alike cells items) {position : Nat}
    (new : List Item) (inside : position + new.length ≤ items.length) :
    ∃ changed,
      (Patch.change position new.length).apply cells = some changed ∧
        Shows Alike changed
          (items.take position ++ new ++
            items.drop (position + new.length)) := by
  refine ⟨_, if_pos (shows.length_eq ▸ inside), ?_⟩
  exact
    List.rel_append
      (List.rel_append (List.forall₂_take position shows)
        (shows_replicate_none new))
      (List.forall₂_drop (position + new.length) shows)

/-- A cell may be bound to its item at any time. -/
theorem bind (shows : Shows Alike cells items) {position : Nat}
    {item : Item} (here : items[position]? = some item)
    (alike : Alike item item) :
    Shows Alike (cells.set position (some item)) items := by
  obtain ⟨sizes, each⟩ := List.forall₂_iff_get.mp shows
  refine List.forall₂_iff_get.mpr ⟨?_, fun index left right => ?_⟩
  · rw [List.length_set, sizes]
  rw [List.get_eq_getElem, List.getElem_set]
  split
  · rename_i same
    subst same
    rintro shown ⟨⟩
    rw [List.getElem?_eq_getElem right] at here
    cases here
    exact alike
  · rw [List.length_set] at left
    exact each index left right

/-- Binding all the empty cells, so that an item is shown at each place. -/
theorem layout (shows : Shows Alike cells items)
    (alike : ∀ item, Alike item item) :
    List.Forall₂ Alike
      (List.zipWith (fun cell item => cell.getD item) cells items) items := by
  induction shows with
  | nil =>
      exact .nil
  | @cons cell item _ _ here _ inductionHypothesis =>
      refine .cons ?_ inductionHypothesis
      cases cell with
      | none =>
          exact alike item
      | some shown =>
          exact here shown rfl

end Shows

/-- Patches that lead from a list of one size to one of another.  Where a
cell has been bound before, its old place carries over to the new one. -/
def LeadTo (carries : Nat → Nat → Prop) (oldSize newSize : Nat)
    (patches : List Patch) : Prop :=
  ∃ cells,
    Patch.applyAll patches ((List.range oldSize).map some) = some cells ∧
      cells.length = newSize ∧
        ∀ target source, cells[target]? = some (some source) →
          carries source target

/-- What is known of the places is enough for every view. -/
theorem Shows.lead {cells : List (Option Item)} {old new : List Item}
    {carries : Nat → Nat → Prop} {patches : List Patch}
    (shows : Shows Alike cells old)
    (leads : LeadTo carries old.length new.length patches)
    (alike :
      ∀ source target earlier later shown,
        carries source target → old[source]? = some earlier →
          new[target]? = some later → Alike shown earlier →
            Alike shown later) :
    ∃ changed,
      Patch.applyAll patches cells = some changed ∧
        Shows Alike changed new := by
  obtain ⟨places, patched, size, carried⟩ := leads
  let place : Option Nat → Option Item := fun source =>
    source.bind fun source => cells[source]?.join
  have named : cells = ((List.range old.length).map some).map place := by
    refine List.ext_getElem ?_ fun index inside _ => ?_
    · simp [shows.length_eq]
    · simp [place, List.getElem?_eq_getElem inside]
  refine ⟨places.map place, ?_, ?_⟩
  · rw [named, Patch.applyAll_map rfl, patched]
    rfl
  · obtain ⟨sizes, each⟩ := List.forall₂_iff_get.mp shows
    refine List.forall₂_iff_get.mpr ⟨?_, fun target left right => ?_⟩
    · rw [List.length_map, size]
    rw [List.get_eq_getElem, List.getElem_map]
    rw [List.length_map] at left
    intro shown bound
    obtain ⟨source, there, found⟩ := Option.bind_eq_some_iff.mp bound
    obtain ⟨inside, stored⟩ :=
      List.getElem?_eq_some_iff.mp (Option.join_eq_some_iff.mp found)
    have within : source < old.length := sizes ▸ inside
    refine
      alike source target old[source] (new.get ⟨target, right⟩) shown
        (carried target source ?_) (List.getElem?_eq_getElem within)
        (List.getElem?_eq_getElem right)
        (each source inside within shown ?_)
    · rw [List.getElem?_eq_getElem left, there]
    · rw [List.get_eq_getElem, stored]
      rfl

end Views

end JellyfinTv.Library
