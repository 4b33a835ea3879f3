import Mathlib.Data.List.Sort

/-!
# Stable sorting by a key

`sortedBy key` is a stable sort: items with equal keys keep their order.  A
list is determined by being ascending in the key and by its items at each key,
which is the way in which the results of several sorts are compared.
-/

namespace JellyfinTv.Library

universe u v

variable {Item : Type u} {Key : Type v} [LinearOrder Key]

def sortedBy (key : Item → Key) (items : List Item) : List Item :=
  items.insertionSort fun first second => key first ≤ key second

/-- The items at one key, in their order. -/
def atKey (key : Item → Key) (value : Key) (items : List Item) : List Item :=
  items.filter fun item => key item = value

def Ascending (key : Item → Key) (items : List Item) : Prop :=
  items.Pairwise fun first second => key first ≤ key second

variable (key : Item → Key)

theorem sortedBy_perm (items : List Item) :
    (sortedBy key items).Perm items :=
  List.perm_insertionSort _ items

@[simp]
theorem mem_sortedBy {item : Item} {items : List Item} :
    item ∈ sortedBy key items ↔ item ∈ items :=
  (sortedBy_perm key items).mem_iff

theorem ascending_sortedBy (items : List Item) :
    Ascending key (sortedBy key items) := by
  have : Std.Total fun first second : Item => key first ≤ key second :=
    ⟨fun first second => le_total (key first) (key second)⟩
  have : IsTrans Item fun first second => key first ≤ key second :=
    ⟨fun _ _ _ first second => le_trans first second⟩
  exact List.pairwise_insertionSort _ items

@[simp]
theorem mem_atKey {value : Key} {item : Item} {items : List Item} :
    item ∈ atKey key value items ↔ item ∈ items ∧ key item = value := by
  simp [atKey]

theorem atKey_append (value : Key) (first second : List Item) :
    atKey key value (first ++ second) =
      atKey key value first ++ atKey key value second :=
  List.filter_append ..

theorem atKey_eq_nil {value : Key} {items : List Item}
    (absent : ∀ item ∈ items, key item ≠ value) :
    atKey key value items = [] := by
  apply List.filter_eq_nil_iff.mpr
  intro item member
  simpa using absent item member

/-- Sorting is stable. -/
theorem atKey_sortedBy (value : Key) (items : List Item) :
    atKey key value (sortedBy key items) = atKey key value items := by
  have : Std.Total fun first second : Item => key first ≤ key second :=
    ⟨fun first second => le_total (key first) (key second)⟩
  have : IsTrans Item fun first second => key first ≤ key second :=
    ⟨fun _ _ _ first second => le_trans first second⟩
  have level :
      (atKey key value items).Pairwise
        fun first second => key first ≤ key second := by
    apply List.pairwise_of_forall_mem_list
    intro first firstMember second secondMember
    rw [mem_atKey] at firstMember secondMember
    exact le_of_eq (firstMember.2.trans secondMember.2.symm)
  have inSorted : (atKey key value items).Sublist (sortedBy key items) :=
    List.sublist_insertionSort level List.filter_sublist
  have atSorted :
      (atKey key value items).Sublist
        (atKey key value (sortedBy key items)) := by
    have filtered := inSorted.filter fun item => decide (key item = value)
    simpa [atKey] using filtered
  have sameLength :
      (atKey key value items).length =
        (atKey key value (sortedBy key items)).length :=
    ((sortedBy_perm key items).filter _).length_eq.symm
  exact (atSorted.eq_of_length sameLength).symm

/-- The head of an ascending list has the least key. -/
theorem Ascending.head_le {key : Item → Key} {head item : Item}
    {tail : List Item} (ascending : Ascending key (head :: tail))
    (member : item ∈ head :: tail) :
    key head ≤ key item := by
  rcases List.mem_cons.mp member with rfl | later
  · exact le_rfl
  · exact (List.pairwise_cons.mp ascending).1 item later

/-- Two ascending lists with the same items at each key are equal. -/
theorem Ascending.eq_of_atKey {key : Item → Key} {first second : List Item}
    (firstAscending : Ascending key first)
    (secondAscending : Ascending key second)
    (same : ∀ value, atKey key value first = atKey key value second) :
    first = second := by
  have sameMembers : ∀ item, item ∈ first ↔ item ∈ second := by
    intro item
    have members := congrArg (item ∈ ·) (same (key item))
    simpa using members
  induction first generalizing second with
  | nil =>
      symm
      apply List.eq_nil_iff_forall_not_mem.mpr
      intro item member
      exact List.not_mem_nil ((sameMembers item).mpr member)
  | cons head tail inductionHypothesis =>
      cases second with
      | nil =>
          exact absurd ((sameMembers head).mp List.mem_cons_self)
            List.not_mem_nil
      | cons other rest =>
          have level : key head = key other := by
            apply le_antisymm
            · exact firstAscending.head_le
                ((sameMembers other).mpr List.mem_cons_self)
            · exact secondAscending.head_le
                ((sameMembers head).mp List.mem_cons_self)
          have heads := same (key head)
          simp only [atKey, List.filter_cons, level, decide_true,
            if_true] at heads
          obtain rfl : head = other := (List.cons.inj heads).1
          have sameTails :
              ∀ value, atKey key value tail = atKey key value rest := by
            intro value
            have whole := same value
            by_cases here : key head = value
            · simpa [atKey, here] using whole
            · simpa [atKey, here] using whole
          have tails :=
            inductionHypothesis (List.pairwise_cons.mp firstAscending).2
              (List.pairwise_cons.mp secondAscending).2 sameTails
              (by
                intro item
                have members := congrArg (item ∈ ·) (sameTails (key item))
                simpa using members)
          rw [tails]

/-- The result of a sort is the ascending list with the same items at each
key. -/
theorem sortedBy_eq {key : Item → Key} {items result : List Item}
    (ascending : Ascending key result)
    (same : ∀ value, atKey key value result = atKey key value items) :
    sortedBy key items = result := by
  apply (ascending_sortedBy key items).eq_of_atKey ascending
  intro value
  rw [atKey_sortedBy, same]

/-- A list that is ascending already is its own sort. -/
theorem sortedBy_eq_self {key : Item → Key} {items : List Item}
    (ascending : Ascending key items) :
    sortedBy key items = items :=
  sortedBy_eq ascending fun _ => rfl

theorem filter_sortedBy (selected : Item → Bool) (items : List Item) :
    (sortedBy key items).filter selected =
      sortedBy key (items.filter selected) := by
  symm
  apply sortedBy_eq
  · exact (ascending_sortedBy key items).filter selected
  · intro value
    have level := congrArg (List.filter selected)
      (atKey_sortedBy key value items)
    simp only [atKey, List.filter_filter] at level ⊢
    simpa only [Bool.and_comm] using level

end JellyfinTv.Library
