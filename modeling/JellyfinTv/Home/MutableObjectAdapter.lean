import JellyfinTv.Library.Patches
import JellyfinTv.Library.Runs

/-!
# Adapters of the rows

A `MutableObjectAdapter` is a list that tells the leanback views how it
changes.  The view binds its cells to the items when it lays them out, and
relies on the notifications for the rest: it crashes if they do not fit the
items, and shows old items if a change is not announced.
-/

namespace JellyfinTv.Home

open JellyfinTv.Library

universe u

/-- `DiffUtil.calculateDiff`, given the sizes of the lists and which places
have the same item and the same contents, with the updates it dispatches. -/
abbrev CalculateDiff :=
  Nat → Nat → (Nat → Nat → Bool) → (Nat → Nat → Bool) → List Patch

/-- The updates convert the old list into the new one, where only items with
the same contents are kept as they are. -/
def CalculateDiff.Converts (calculateDiff : CalculateDiff) : Prop :=
  ∀ oldSize newSize areItemsTheSame areContentsTheSame,
    LeadTo
      (fun source target =>
        areItemsTheSame source target = true ∧
          areContentsTheSame source target = true)
      oldSize newSize
      (calculateDiff oldSize newSize areItemsTheSame areContentsTheSame)

inductive Throwable where
  | indexOutOfBoundsException
  | illegalArgumentException
  deriving DecidableEq, Repr

structure MutableObjectAdapter (Item : Type u) where
  data : List Item
  deriving DecidableEq, Repr

variable {Item : Type u} [BEq Item]

namespace MutableObjectAdapter

def empty : MutableObjectAdapter Item :=
  ⟨[]⟩

def add (adapter : MutableObjectAdapter Item) (element : Item) :
    MutableObjectAdapter Item × List Patch :=
  let data := adapter.data ++ [element]
  (⟨data⟩, [.insert (data.length - 1) 1])

def addAt (adapter : MutableObjectAdapter Item) (index : Int)
    (element : Item) :
    Except Throwable (MutableObjectAdapter Item × List Patch) :=
  if index < 0 ∨ adapter.data.length < index then
    .error .indexOutOfBoundsException
  else
    .ok
      (⟨adapter.data.insertIdx index.toNat element⟩,
        [.insert index.toNat 1])

def set (adapter : MutableObjectAdapter Item) (index : Int) (element : Item) :
    Except Throwable (MutableObjectAdapter Item × List Patch) :=
  if index < 0 ∨ adapter.data.length ≤ index then
    .error .indexOutOfBoundsException
  else
    .ok (⟨adapter.data.set index.toNat element⟩, [.change index.toNat 1])

def replaceAll (calculateDiff : CalculateDiff)
    (adapter : MutableObjectAdapter Item) (items : List Item)
    (areItemsTheSame areContentsTheSame : Item → Item → Bool) :
    MutableObjectAdapter Item × List Patch :=
  let both (test : Item → Item → Bool) (oldItemPosition newItemPosition : Nat)
      : Bool :=
    match adapter.data[oldItemPosition]?, items[newItemPosition]? with
    | some old, some new => test old new
    | _, _ => false
  (⟨items⟩,
    calculateDiff adapter.data.length items.length (both areItemsTheSame)
      (both areContentsTheSame))

def clear (adapter : MutableObjectAdapter Item) :
    MutableObjectAdapter Item × List Patch :=
  let size := adapter.data.length
  if size = 0 then (adapter, []) else (⟨[]⟩, [.remove 0 size])

/-- Part of the list is a `subList`, which has to fit. -/
def removeAt (adapter : MutableObjectAdapter Item) (index length : Int) :
    Except Throwable (Bool × MutableObjectAdapter Item × List Patch) :=
  if index < 0 ∨ adapter.data.length ≤ index then
    .ok (false, adapter, [])
  else if adapter.data.length < index + length then
    .error .indexOutOfBoundsException
  else if length < 0 then
    .error .illegalArgumentException
  else
    .ok
      (true,
        ⟨adapter.data.take index.toNat ++
          adapter.data.drop (index.toNat + length.toNat)⟩,
        [.remove index.toNat length.toNat])

def indexOf (adapter : MutableObjectAdapter Item) (item : Item) : Int :=
  match adapter.data.findIdx? (item == ·) with
  | none => -1
  | some index => index

def remove (adapter : MutableObjectAdapter Item) (element : Item) :
    Except Throwable (Bool × MutableObjectAdapter Item × List Patch) :=
  let index := adapter.indexOf element
  if index = -1 then .ok (false, adapter, []) else adapter.removeAt index 1

inductive Operation (Item : Type u) where
  | add (element : Item)
  | addAt (index : Int) (element : Item)
  | set (index : Int) (element : Item)
  | replaceAll (items : List Item)
      (areItemsTheSame areContentsTheSame : Item → Item → Bool)
  | clear
  | remove (element : Item)
  | removeAt (index length : Int)

def perform (calculateDiff : CalculateDiff)
    (adapter : MutableObjectAdapter Item) :
    Operation Item → Except Throwable (MutableObjectAdapter Item × List Patch)
  | .add element => .ok (adapter.add element)
  | .addAt index element => adapter.addAt index element
  | .set index element => adapter.set index element
  | .replaceAll items areItemsTheSame areContentsTheSame =>
      .ok
        (adapter.replaceAll calculateDiff items areItemsTheSame
          areContentsTheSame)
  | .clear => .ok adapter.clear
  | .remove element => (adapter.remove element).map Prod.snd
  | .removeAt index length => (adapter.removeAt index length).map Prod.snd

end MutableObjectAdapter

open MutableObjectAdapter (Operation)

/-- An adapter and the cells of its view, none once the view has crashed. -/
structure Display (Item : Type u) where
  adapter : MutableObjectAdapter Item
  cells : Option (List (Option Item))
  deriving DecidableEq, Repr

namespace Display

inductive Event (Item : Type u) where
  | perform (operation : Operation Item)
  | bind (position : Nat)
  | layout

def created : Display Item where
  adapter := .empty
  cells := some []

/-- Binding the cell at a position to the item of the adapter. -/
def bind (display : Display Item) (position : Nat) : Display Item :=
  match display.adapter.data[position]? with
  | none => display
  | some item =>
      { display with
        cells := display.cells.map fun cells =>
          match cells[position]? with
          | some none => cells.set position (some item)
          | _ => cells }

/-- Binding all the cells that are not bound yet. -/
def layout (display : Display Item) : Display Item :=
  { display with
    cells := display.cells.map fun cells =>
      List.zipWith (fun cell item => some (cell.getD item)) cells
        display.adapter.data }

/-- A call that throws changes nothing. -/
def step (calculateDiff : CalculateDiff) (display : Display Item) :
    Event Item → Display Item
  | .perform operation =>
      match display.adapter.perform calculateDiff operation with
      | .error _ => display
      | .ok (adapter, patches) =>
          { adapter := adapter
            cells := display.cells.bind (Patch.applyAll patches) }
  | .bind position => display.bind position
  | .layout => display.layout

end Display

variable {Alike : Item → Item → Prop} {calculateDiff : CalculateDiff}
  {adapter : MutableObjectAdapter Item} {cells : List (Option Item)}

/-- What is shown for an item may be kept for one that replaces it. -/
def MutableObjectAdapter.Operation.Keeps (Alike : Item → Item → Prop) :
    Operation Item → Prop
  | .replaceAll _ areItemsTheSame areContentsTheSame =>
      ∀ old new shown, areItemsTheSame old new = true →
        areContentsTheSame old new = true → Alike shown old → Alike shown new
  | _ => True

theorem of_map_eq_ok {Error Value Other : Type*} {call : Value → Other}
    {result : Except Error Value} {other : Other}
    (returned : result.map call = .ok other) :
    ∃ value, result = .ok value ∧ call value = other := by
  cases result with
  | error thrown =>
      cases returned
  | ok value =>
      cases returned
      exact ⟨value, rfl, rfl⟩

namespace MutableObjectAdapter

omit [BEq Item] in
theorem removeAt_shows (shows : Shows Alike cells adapter.data)
    {index length : Int} {removed : Bool}
    {after : MutableObjectAdapter Item} {patches : List Patch}
    (returned : adapter.removeAt index length = .ok (removed, after, patches)) :
    ∃ changed,
      Patch.applyAll patches cells = some changed ∧
        Shows Alike changed after.data := by
  unfold removeAt at returned
  split_ifs at returned with outside beyond negative
  · cases returned
    exact ⟨cells, rfl, shows⟩
  · cases returned
    rw [Patch.applyAll_singleton]
    apply shows.remove
    omega

theorem indexOf_eq [LawfulBEq Item] (adapter : MutableObjectAdapter Item)
    (element : Item) :
    adapter.indexOf element =
      match adapter.data.idxOf? element with
      | none => -1
      | some index => (index : Int) := by
  have same : (element == ·) = (· == element) := by
    funext other
    exact BEq.comm
  rw [indexOf, same]
  rfl

/-- Removing an element removes the first one like it. -/
theorem perform_remove [LawfulBEq Item] (adapter : MutableObjectAdapter Item)
    (element : Item) :
    ∃ patches,
      adapter.perform calculateDiff (.remove element) =
        .ok (⟨adapter.data.erase element⟩, patches) := by
  change
    ∃ patches, Except.map Prod.snd (adapter.remove element) = .ok (_, patches)
  rw [List.erase_eq_eraseIdx, remove]
  cases found : adapter.data.idxOf? element with
  | none =>
      have position : adapter.indexOf element = -1 := by
        rw [indexOf_eq, found]
      rw [position, if_pos rfl]
      exact ⟨[], rfl⟩
  | some index =>
      obtain ⟨inside, -⟩ := List.findIdx?_eq_some_iff_getElem.mp found
      have there : ¬(index : Int) = -1 := by omega
      have within :
          ¬((index : Int) < 0 ∨ (adapter.data.length : Int) ≤ index) := by
        omega
      have fits : ¬(adapter.data.length : Int) < index + 1 := by omega
      have position : adapter.indexOf element = index := by
        rw [indexOf_eq, found]
      dsimp only
      rw [position, if_neg there, removeAt, if_neg within, if_neg fits,
        if_neg (by decide), List.eraseIdx_eq_take_drop_succ]
      exact ⟨_, rfl⟩

/-- Whatever a call notifies, the view can follow, and it shows the items of
the adapter then. -/
theorem perform_shows (converts : calculateDiff.Converts)
    (shows : Shows Alike cells adapter.data) {operation : Operation Item}
    (keeps : operation.Keeps Alike) {after : MutableObjectAdapter Item}
    {patches : List Patch}
    (returned :
      adapter.perform calculateDiff operation = .ok (after, patches)) :
    ∃ changed,
      Patch.applyAll patches cells = some changed ∧
        Shows Alike changed after.data := by
  cases operation with
  | add element =>
      cases returned
      have followed := shows.insert (Nat.le_refl _) [element]
      rw [List.take_length, List.drop_length, List.append_nil] at followed
      rw [Patch.applyAll_singleton, List.length_append, List.length_singleton,
        Nat.add_sub_cancel]
      exact followed
  | addAt index element =>
      simp only [perform, addAt] at returned
      split_ifs at returned with outside
      cases returned
      have inside : index.toNat ≤ adapter.data.length := by omega
      rw [Patch.applyAll_singleton, insertIdx_eq_append inside]
      exact shows.insert inside [element]
  | set index element =>
      simp only [perform, set] at returned
      split_ifs at returned with outside
      cases returned
      have inside : index.toNat < adapter.data.length := by omega
      rw [Patch.applyAll_singleton, List.set_eq_take_append_cons_drop,
        if_pos inside, List.append_cons]
      exact shows.change [element] inside
  | replaceAll items areItemsTheSame areContentsTheSame =>
      cases returned
      refine shows.lead (converts _ _ _ _) ?_
      rintro source target old new shown ⟨sameItem, sameContents⟩ here there
        alike
      dsimp only at there sameItem sameContents
      rw [here, there] at sameItem sameContents
      exact keeps old new shown sameItem sameContents alike
  | clear =>
      simp only [perform, clear] at returned
      split_ifs at returned with nothing
      · cases returned
        exact ⟨cells, rfl, shows⟩
      · cases returned
        have inside : 0 + adapter.data.length ≤ adapter.data.length :=
          Nat.le_of_eq (Nat.zero_add _)
        have followed := shows.remove inside
        rw [List.take_zero, Nat.zero_add, List.drop_length] at followed
        rw [Patch.applyAll_singleton]
        exact followed
  | remove element =>
      change (adapter.remove element).map Prod.snd = _ at returned
      obtain ⟨⟨removed, same⟩, returned, rfl⟩ := of_map_eq_ok returned
      unfold remove at returned
      dsimp only at returned
      split_ifs at returned with missing
      · cases returned
        exact ⟨cells, rfl, shows⟩
      · exact removeAt_shows shows returned
  | removeAt index length =>
      change (adapter.removeAt index length).map Prod.snd = _ at returned
      obtain ⟨⟨removed, same⟩, returned, rfl⟩ := of_map_eq_ok returned
      exact removeAt_shows shows returned

end MutableObjectAdapter

namespace Display

/-- Calls leave nothing behind that is shown though it is outdated. -/
def Event.Keeps (Alike : Item → Item → Prop) : Event Item → Prop
  | .perform operation => operation.Keeps Alike
  | _ => True

/-- The view is there, and it shows items like those of the adapter. -/
def Mirrors (Alike : Item → Item → Prop) (display : Display Item) : Prop :=
  ∃ cells,
    display.cells = some cells ∧ Shows Alike cells display.adapter.data

omit [BEq Item] in
theorem Mirrors.bind {display : Display Item}
    (mirrors : display.Mirrors Alike) (alike : ∀ item, Alike item item)
    (position : Nat) : (display.bind position).Mirrors Alike := by
  obtain ⟨cells, there, shows⟩ := mirrors
  unfold Display.bind
  split
  · exact ⟨cells, there, shows⟩
  · rename_i item here
    refine ⟨_, congrArg (Option.map _) there, ?_⟩
    dsimp only
    split
    · exact shows.bind here (alike item)
    · exact shows

omit [BEq Item] in
/-- After a layout, each cell is bound. -/
theorem Mirrors.layout {display : Display Item}
    (mirrors : display.Mirrors Alike) (alike : ∀ item, Alike item item) :
    ∃ shown,
      display.layout.cells = some (shown.map some) ∧
        List.Forall₂ Alike shown display.adapter.data := by
  obtain ⟨cells, there, shows⟩ := mirrors
  refine
    ⟨List.zipWith (fun cell item => cell.getD item) cells
      display.adapter.data, ?_, ?_⟩
  · rw [Display.layout, there, List.map_zipWith]
    rfl
  · exact shows.layout alike

omit [BEq Item] in
theorem Mirrors.laidOut {display : Display Item}
    (mirrors : display.Mirrors Alike) (alike : ∀ item, Alike item item) :
    display.layout.Mirrors Alike := by
  obtain ⟨shown, bound, same⟩ := mirrors.layout alike
  refine ⟨shown.map some, bound, ?_⟩
  rw [Shows, List.forall₂_map_left_iff]
  refine same.imp fun shown item alike other here => ?_
  cases here
  exact alike

theorem Mirrors.step (converts : calculateDiff.Converts)
    (alike : ∀ item, Alike item item) {display : Display Item}
    (mirrors : display.Mirrors Alike) {event : Event Item}
    (keeps : event.Keeps Alike) :
    (display.step calculateDiff event).Mirrors Alike := by
  cases event with
  | perform operation =>
      unfold Display.step
      dsimp only
      split
      · exact mirrors
      · rename_i after patches returned
        obtain ⟨cells, there, shows⟩ := mirrors
        obtain ⟨changed, followed, shown⟩ :=
          MutableObjectAdapter.perform_shows converts shows keeps returned
        refine ⟨changed, ?_, shown⟩
        rw [there]
        exact followed
  | bind position =>
      exact mirrors.bind alike position
  | layout =>
      exact mirrors.laidOut alike

/-- Whatever calls are made and whenever cells are bound, the view of an
adapter never crashes, each bound cell shows an item like the one at its
place, and a layout shows the items of the adapter from first to last. -/
theorem view_follows_adapter (converts : calculateDiff.Converts)
    (alike : ∀ item, Alike item item) (events : List (Event Item))
    (keeps : ∀ event ∈ events, event.Keeps Alike) :
    let display := run (Display.step calculateDiff) .created events
    (∃ cells,
      display.cells = some cells ∧ Shows Alike cells display.adapter.data) ∧
    (∃ shown,
      display.layout.cells = some (shown.map some) ∧
        List.Forall₂ Alike shown display.adapter.data) := by
  have mirrors :
      (run (Display.step calculateDiff) .created events).Mirrors Alike := by
    refine run_invariant (fun display event mirrors kept => ?_) ?_
      (admitted_of_forall keeps)
    · exact mirrors.step converts alike kept
    · exact ⟨[], rfl, .nil⟩
  exact ⟨mirrors, mirrors.layout alike⟩

/-- The updates for lists that have no item in common. -/
def replaceWholly : CalculateDiff := fun oldSize newSize _ _ =>
  (if oldSize = 0 then [] else [.remove 0 oldSize]) ++
    if newSize = 0 then [] else [.insert 0 newSize]

theorem converts_replaceWholly : replaceWholly.Converts := by
  intro oldSize newSize areItemsTheSame areContentsTheSame
  refine ⟨List.replicate newSize none, ?_, List.length_replicate, ?_⟩
  · by_cases noOld : oldSize = 0 <;> by_cases noNew : newSize = 0 <;>
      simp [replaceWholly, Patch.applyAll, Patch.apply, noOld, noNew]
  · intro target source bound
    have member := List.mem_of_getElem? bound
    cases List.eq_of_mem_replicate member

def otherRow : List (Event Nat) :=
  [.perform (.add 5), .perform (.addAt 0 6), .layout,
    .perform (.replaceAll [7] (· == ·) (· == ·)), .perform (.removeAt 0 2)]

theorem view_follows_adapter_other_row :
    let display := run (Display.step replaceWholly) .created otherRow
    (∃ cells,
      display.cells = some cells ∧ Shows (· = ·) cells display.adapter.data) ∧
    (∃ shown,
      display.layout.cells = some (shown.map some) ∧
        List.Forall₂ (· = ·) shown display.adapter.data) :=
  view_follows_adapter converts_replaceWholly (fun _ => rfl) otherRow (by
    simp [otherRow, Event.Keeps, MutableObjectAdapter.Operation.Keeps])

end Display

end JellyfinTv.Home
