import Mathlib.Data.List.Nodup

/-!
# Lists without repeated keys

`distinctBy` keeps the first item of each key.
-/

namespace JellyfinTv.Library

universe u v

variable {Item : Type u} {Key : Type v} [DecidableEq Key]

def distinctBy (key : Item → Key) : List Item → List Item
  | [] => []
  | item :: rest =>
      item :: (distinctBy key rest).filter fun other => key other ≠ key item

theorem map_distinctBy_nodup (key : Item → Key) (items : List Item) :
    ((distinctBy key items).map key).Nodup := by
  induction items with
  | nil =>
      exact List.nodup_nil
  | cons item rest inductionHypothesis =>
      have kept :=
        inductionHypothesis.sublist
          ((List.filter_sublist
            (p := fun other => key other ≠ key item)).map key)
      rw [distinctBy, List.map_cons, List.nodup_cons]
      refine ⟨?_, kept⟩
      simp

end JellyfinTv.Library
