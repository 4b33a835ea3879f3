import Mathlib.Data.List.Basic
import Mathlib.Data.List.Flatten

/-!
# Dealing items in turn

Items are dealt to a fixed number of groups one after the other, starting
again at the first group behind the last one.  Nothing is lost, and no group
gets two items more than another one.
-/

namespace JellyfinTv.Library

universe u v

variable {Item : Type u} {Image : Type v}

/-- The items from a position on, added to the groups. -/
def dealFrom (count : Nat) :
    Nat → List Item → List (List Item) → List (List Item)
  | _, [], groups => groups
  | position, item :: rest, groups =>
      dealFrom count (position + 1) rest
        (groups.modify (position % count) fun group => group ++ [item])

def deal (count : Nat) (items : List Item) : List (List Item) :=
  dealFrom count 0 items (List.replicate count [])

theorem flatten_modify_perm {groups : List (List Item)} {index : Nat}
    (inside : index < groups.length) (item : Item) :
    (groups.modify index fun group => group ++ [item]).flatten.Perm
      (groups.flatten ++ [item]) := by
  induction groups generalizing index with
  | nil =>
      exact absurd inside (Nat.not_lt_zero index)
  | cons group rest inductionHypothesis =>
      cases index with
      | zero =>
          rw [List.modify_zero_cons, List.flatten_cons, List.flatten_cons,
            List.append_assoc, List.append_assoc]
          exact List.perm_append_comm.append_left group
      | succ index =>
          rw [List.modify_succ_cons, List.flatten_cons, List.flatten_cons,
            List.append_assoc]
          have later : index < rest.length :=
            Nat.lt_of_succ_lt_succ inside
          exact (inductionHypothesis later).append_left group

theorem flatten_dealFrom_perm {count : Nat} (positive : 0 < count)
    (position : Nat) (items : List Item) {groups : List (List Item)}
    (length : groups.length = count) :
    (dealFrom count position items groups).flatten.Perm
      (groups.flatten ++ items) := by
  induction items generalizing position groups with
  | nil =>
      rw [dealFrom, List.append_nil]
  | cons item rest inductionHypothesis =>
      have inside : position % count < groups.length := by
        rw [length]
        exact Nat.mod_lt position positive
      have dealt := flatten_modify_perm inside item
      rw [dealFrom]
      refine (inductionHypothesis (position + 1) ?_).trans ?_
      · rw [List.length_modify, length]
      · rw [List.append_cons]
        exact dealt.append_right rest

/-- The groups have exactly the items. -/
theorem flatten_deal_perm {count : Nat} (positive : 0 < count)
    (items : List Item) : (deal count items).flatten.Perm items := by
  have dealt :=
    flatten_dealFrom_perm positive 0 items (List.length_replicate (a := []))
  rwa [List.flatten_replicate_nil, List.nil_append] at dealt

/-- After a number of items, every group has as many as there were full
turns, and those before the next group one more. -/
def EvenlyDealt (count position : Nat) (groups : List (List Item)) : Prop :=
  ∃ turns next,
    next < count ∧ position = turns * count + next ∧
      ∀ index group, groups[index]? = some group →
        group.length = if index < next then turns + 1 else turns

theorem EvenlyDealt.modify {count position : Nat} {groups : List (List Item)}
    (even : EvenlyDealt count position groups) (length : groups.length = count)
    (item : Item) :
    EvenlyDealt count (position + 1)
      (groups.modify (position % count) fun group => group ++ [item]) := by
  obtain ⟨turns, next, inside, rfl, sizes⟩ := even
  have turn : (turns * count + next) % count = next := by
    rw [Nat.mul_add_mod_self_right, Nat.mod_eq_of_lt inside]
  rw [turn]
  have dealt :
      ∀ index group,
        (groups.modify next fun group => group ++ [item])[index]? =
            some group →
          index < count ∧
            group.length = if index < next + 1 then turns + 1 else turns := by
    intro index group found
    rw [List.getElem?_modify] at found
    obtain ⟨before, located, rfl⟩ := Option.map_eq_some_iff.mp found
    have size := sizes index before located
    have below := (List.getElem?_eq_some_iff.mp located).1
    refine ⟨length ▸ below, ?_⟩
    by_cases here : next = index
    · subst here
      simp [size]
    · rw [if_neg here, size]
      have same : index < next + 1 ↔ index < next := by
        omega
      simp only [same]
  by_cases last : next + 1 < count
  · exact
      ⟨turns, next + 1, last, rfl, fun index group found =>
        (dealt index group found).2⟩
  · -- The turn is over and the first group is the next one.
    refine ⟨turns + 1, 0, by omega, ?_, ?_⟩
    · rw [Nat.succ_mul]
      omega
    · intro index group found
      obtain ⟨below, size⟩ := dealt index group found
      rw [size, if_pos (by omega), if_neg (Nat.not_lt_zero index)]

theorem EvenlyDealt.dealFrom {count position : Nat} {groups : List (List Item)}
    (even : EvenlyDealt count position groups) (length : groups.length = count)
    (items : List Item) :
    EvenlyDealt count (position + items.length)
      (dealFrom count position items groups) := by
  induction items generalizing position groups with
  | nil =>
      exact even
  | cons item rest inductionHypothesis =>
      have dealt := even.modify length item
      have kept :
          (groups.modify (position % count) fun group =>
            group ++ [item]).length = count := by
        rw [List.length_modify, length]
      have final := inductionHypothesis dealt kept
      rw [Nat.add_assoc, Nat.add_comm 1] at final
      exact final

theorem evenlyDealt_deal {count : Nat} (positive : 0 < count)
    (items : List Item) :
    EvenlyDealt count items.length (deal count items) := by
  have empty : EvenlyDealt count 0 (List.replicate count ([] : List Item)) := by
    refine ⟨0, 0, positive, by rw [Nat.zero_mul], ?_⟩
    intro index group found
    rw [List.eq_of_mem_replicate (List.mem_of_getElem? found)]
    rfl
  have dealt := empty.dealFrom List.length_replicate items
  rwa [Nat.zero_add] at dealt

/-- The sizes of two groups differ by at most one. -/
theorem EvenlyDealt.length_le {count position : Nat} {groups : List (List Item)}
    (even : EvenlyDealt count position groups) :
    ∀ first ∈ groups, ∀ second ∈ groups,
      first.length ≤ second.length + 1 := by
  obtain ⟨turns, next, _, _, sizes⟩ := even
  intro first firstMember second secondMember
  obtain ⟨index, firstFound⟩ := List.mem_iff_getElem?.mp firstMember
  obtain ⟨other, secondFound⟩ := List.mem_iff_getElem?.mp secondMember
  rw [sizes index first firstFound, sizes other second secondFound]
  split <;> split <;> omega

theorem map_dealFrom (image : Item → Image) (count position : Nat)
    (items : List Item) (groups : List (List Item)) :
    (dealFrom count position items groups).map (List.map image) =
      dealFrom count position (items.map image)
        (groups.map (List.map image)) := by
  induction items generalizing position groups with
  | nil =>
      rfl
  | cons item rest inductionHypothesis =>
      rw [dealFrom, inductionHypothesis, List.map_cons, dealFrom]
      congr 1
      apply List.ext_getElem?
      intro index
      simp only [List.getElem?_map, List.getElem?_modify]
      split <;> cases groups[index]? <;> simp

/-- The items are dealt like their positions. -/
theorem map_deal (image : Item → Image) (count : Nat) (items : List Item) :
    (deal count items).map (List.map image) =
      deal count (items.map image) := by
  rw [deal, map_dealFrom, List.map_replicate]
  rfl

end JellyfinTv.Library
