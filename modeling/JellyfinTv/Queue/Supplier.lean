import Mathlib.Data.List.Basic

/-!
# Queue entries and suppliers

The queue only compares entries by identity, so an entry is its identity.  A
supplier is an object with its own state: `getItem` may load a page, change the
reported size or throw.  Every supplier of the repository refuses indices from
`MAX_SIZE` on, so each one comes with a bound on the indices it can answer.
-/

namespace JellyfinTv.Queue

/-- `QueueEntry` objects, compared by reference. -/
structure QueueEntry where
  id : Nat
  deriving DecidableEq, Repr

/-- The exceptions raised by the Kotlin library calls of the queue. -/
inductive QueueException where
  | illegalArgument
  | negativeArraySize
  | noSuchElement
  | indexOutOfBounds
  deriving DecidableEq, Repr

/-- The interface `QueueSupplier`.  The object state is threaded through
`getItem`; `bound` and its two laws record that only finitely many indices can
be answered with an item. -/
class QueueSupplier (Supplier : Type) where
  size : Supplier → Int
  getItem : Nat → EStateM QueueException Supplier (Option QueueEntry)
  bound : Supplier → Nat
  index_lt_bound :
    ∀ (index : Nat) (supplier next : Supplier) (item : QueueEntry),
      (getItem index).run supplier = .ok (some item) next →
        index < bound supplier
  bound_after_item :
    ∀ (index : Nat) (supplier next : Supplier) (item : Option QueueEntry),
      (getItem index).run supplier = .ok item next →
        bound next = bound supplier

/-- A supplier over a fixed finite list.  Its reported size may be any number
and may change with every answered call, as it does for the paged suppliers,
which know their total only after the first page. -/
structure FixedSupplier where
  items : List QueueEntry
  reportedSize : Nat → Int
  served : Nat

namespace FixedSupplier

def getItem (index : Nat) :
    EStateM QueueException FixedSupplier (Option QueueEntry) := do
  let supplier ← get
  set { supplier with served := supplier.served + 1 }
  return supplier.items[index]?

instance : QueueSupplier FixedSupplier where
  size supplier := supplier.reportedSize supplier.served
  getItem := getItem
  bound supplier := supplier.items.length
  index_lt_bound := by
    intro index supplier next item answered
    have found : supplier.items[index]? = some item := by
      injection answered
    obtain ⟨inRange, _⟩ := List.getElem?_eq_some_iff.mp found
    exact inRange
  bound_after_item := by
    intro index supplier next item answered
    have advanced :
        { supplier with served := supplier.served + 1 } = next := by
      injection answered
    rw [← advanced]

/-- The reported size is the number of items from the start. -/
def Exact (supplier : FixedSupplier) : Prop :=
  ∀ served, supplier.reportedSize served = supplier.items.length

/-- The supplier over `items` that reports its exact size. -/
def ofList (items : List QueueEntry) : FixedSupplier where
  items := items
  reportedSize _ := items.length
  served := 0

theorem ofList_exact (items : List QueueEntry) :
    (ofList items).Exact :=
  fun _ => rfl

/-- The supplier after one more answered call. -/
def afterCall (supplier : FixedSupplier) : FixedSupplier :=
  { supplier with served := supplier.served + 1 }

@[simp]
theorem afterCall_items (supplier : FixedSupplier) :
    supplier.afterCall.items = supplier.items :=
  rfl

@[simp]
theorem afterCall_reportedSize (supplier : FixedSupplier) :
    supplier.afterCall.reportedSize = supplier.reportedSize :=
  rfl

theorem getItem_eq (index : Nat) (supplier : FixedSupplier) :
    (QueueSupplier.getItem index).run supplier =
      .ok (supplier.items[index]?) supplier.afterCall :=
  rfl

end FixedSupplier

section Sum

variable {First Second : Type} [QueueSupplier First] [QueueSupplier Second]

/-- `getItem` of a supplier of either kind. -/
def sumGetItem (index : Nat) :
    EStateM QueueException (First ⊕ Second) (Option QueueEntry)
  | .inl supplier =>
      match (QueueSupplier.getItem index).run supplier with
      | .ok item next => .ok item (.inl next)
      | .error exception next => .error exception (.inl next)
  | .inr supplier =>
      match (QueueSupplier.getItem index).run supplier with
      | .ok item next => .ok item (.inr next)
      | .error exception next => .error exception (.inr next)

private theorem sumGetItem_ok {index : Nat} {supplier next : First ⊕ Second}
    {item : Option QueueEntry}
    (answered : (sumGetItem index).run supplier = .ok item next) :
    (∃ first after,
        supplier = .inl first ∧ next = .inl after ∧
          (QueueSupplier.getItem index).run first = .ok item after) ∨
      ∃ second after,
        supplier = .inr second ∧ next = .inr after ∧
          (QueueSupplier.getItem index).run second = .ok item after := by
  cases supplier with
  | inl first =>
      simp only [sumGetItem, EStateM.run] at answered
      split at answered
      · rename_i reply after call
        injection answered with same final
        subst same final
        exact Or.inl ⟨first, after, rfl, rfl, call⟩
      · cases answered
  | inr second =>
      simp only [sumGetItem, EStateM.run] at answered
      split at answered
      · rename_i reply after call
        injection answered with same final
        subst same final
        exact Or.inr ⟨second, after, rfl, rfl, call⟩
      · cases answered

/-- Queues that mix two kinds of suppliers. -/
instance : QueueSupplier (First ⊕ Second) where
  size := Sum.elim QueueSupplier.size QueueSupplier.size
  getItem := sumGetItem
  bound := Sum.elim QueueSupplier.bound QueueSupplier.bound
  index_lt_bound := by
    intro index supplier next item answered
    rcases sumGetItem_ok answered with
      ⟨first, after, rfl, rfl, call⟩ | ⟨second, after, rfl, rfl, call⟩
    · exact QueueSupplier.index_lt_bound index first after item call
    · exact QueueSupplier.index_lt_bound index second after item call
  bound_after_item := by
    intro index supplier next item answered
    rcases sumGetItem_ok answered with
      ⟨first, after, rfl, rfl, call⟩ | ⟨second, after, rfl, rfl, call⟩
    · exact QueueSupplier.bound_after_item index first after item call
    · exact QueueSupplier.bound_after_item index second after item call

end Sum

end JellyfinTv.Queue
