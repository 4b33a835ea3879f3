import Mathlib.Data.List.Nodup

/-!
# Maps in the order of insertion

A map is a list of entries with different keys, in the order in which the
keys were first put.  Putting a key again keeps its place.
-/

namespace JellyfinTv.Library

universe u v

variable {Key : Type u} {Value : Type v} [DecidableEq Key]

/-- `map[key] = value`. -/
def put (key : Key) (value : Value) : List (Key × Value) → List (Key × Value)
  | [] => [(key, value)]
  | entry :: rest =>
      if entry.1 = key then (key, value) :: rest
      else entry :: put key value rest

/-- `map.putAll(entries)`. -/
def putAll (map entries : List (Key × Value)) : List (Key × Value) :=
  entries.foldl (fun map entry => put entry.1 entry.2 map) map

def keys (map : List (Key × Value)) : List Key :=
  map.map Prod.fst

variable {map : List (Key × Value)} {key : Key} {value : Value}

theorem put_of_absent (absent : key ∉ keys map) :
    put key value map = map ++ [(key, value)] := by
  induction map with
  | nil =>
      rfl
  | cons entry rest inductionHypothesis =>
      rw [keys, List.map_cons, List.mem_cons, not_or] at absent
      rw [put, if_neg (Ne.symm absent.1), inductionHypothesis absent.2,
        List.cons_append]

theorem mem_keys_put {other : Key} :
    other ∈ keys (put key value map) ↔ other = key ∨ other ∈ keys map := by
  induction map with
  | nil =>
      simp [put, keys]
  | cons entry rest inductionHypothesis =>
      rw [keys] at inductionHypothesis
      rw [put]
      split
      · rename_i here
        subst here
        simp [keys]
      · simp only [keys, List.map_cons, List.mem_cons] at inductionHypothesis ⊢
        rw [inductionHypothesis]
        exact or_left_comm

theorem nodup_keys_put (distinct : (keys map).Nodup) :
    (keys (put key value map)).Nodup := by
  induction map with
  | nil =>
      simp [put, keys]
  | cons entry rest inductionHypothesis =>
      rw [keys, List.map_cons, List.nodup_cons] at distinct
      obtain ⟨new, others⟩ := distinct
      rw [put]
      split
      · rename_i here
        subst here
        exact List.nodup_cons.mpr ⟨new, others⟩
      · rename_i elsewhere
        refine List.nodup_cons.mpr ⟨?_, inductionHypothesis others⟩
        rintro member
        rcases mem_keys_put.mp member with same | later
        · exact elsewhere same
        · exact new later

theorem nodup_keys_putAll {entries : List (Key × Value)}
    (distinct : (keys map).Nodup) : (keys (putAll map entries)).Nodup := by
  induction entries generalizing map with
  | nil =>
      exact distinct
  | cons entry rest inductionHypothesis =>
      exact inductionHypothesis (nodup_keys_put distinct)

/-- Entries with new and different keys are added behind the map. -/
theorem putAll_of_nodup {entries : List (Key × Value)}
    (distinct : (keys (map ++ entries)).Nodup) :
    putAll map entries = map ++ entries := by
  induction entries generalizing map with
  | nil =>
      rw [List.append_nil]
      rfl
  | cons entry rest inductionHypothesis =>
      have new : entry.1 ∉ keys map := by
        rw [keys, List.map_append, List.map_cons] at distinct
        intro member
        exact (List.nodup_append.mp distinct).2.2 entry.1 member entry.1
          List.mem_cons_self rfl
      have moved : map ++ entry :: rest = (map ++ [entry]) ++ rest :=
        List.append_cons map entry rest
      rw [moved] at distinct ⊢
      rw [← inductionHypothesis distinct, putAll, List.foldl_cons,
        put_of_absent new]
      rfl

section Lookup

variable [BEq Key] [LawfulBEq Key]

theorem lookup_cons_ite (first : Key) (stored : Value)
    (rest : List (Key × Value)) (key : Key) :
    ((first, stored) :: rest).lookup key =
      if key = first then some stored else rest.lookup key := by
  rw [List.lookup_cons]
  by_cases same : key = first
  · rw [if_pos same, beq_iff_eq.mpr same]
  · rw [if_neg same, beq_eq_false_iff_ne.mpr same]

theorem lookup_put (other : Key) :
    (put key value map).lookup other =
      if other = key then some value else map.lookup other := by
  induction map with
  | nil =>
      exact lookup_cons_ite key value [] other
  | cons entry rest inductionHypothesis =>
      obtain ⟨first, stored⟩ := entry
      rw [put, lookup_cons_ite]
      by_cases here : first = key
      · subst here
        rw [if_pos rfl, lookup_cons_ite]
        split <;> rfl
      · rw [if_neg here, lookup_cons_ite, inductionHypothesis]
        by_cases same : other = first
        · subst same
          rw [if_pos rfl, if_neg here, if_pos rfl]
        · rw [if_neg same, if_neg same]

/-- What is found once an entry has been removed. -/
theorem lookup_filter_ne (other : Key) :
    (map.filter fun entry => entry.1 ≠ key).lookup other =
      if other = key then none else map.lookup other := by
  induction map with
  | nil =>
      simp
  | cons entry rest inductionHypothesis =>
      obtain ⟨first, stored⟩ := entry
      by_cases here : first = key
      · subst here
        rw [List.filter_cons_of_neg (by simp), inductionHypothesis,
          lookup_cons_ite]
        split <;> rfl
      · rw [List.filter_cons_of_pos (by simpa using here), lookup_cons_ite,
          lookup_cons_ite, inductionHypothesis]
        by_cases same : other = first
        · rw [if_pos same, if_pos same, same, if_neg here]
        · rw [if_neg same, if_neg same]

/-- The last entry of a key counts. -/
theorem lookup_putAll (entries : List (Key × Value)) (key : Key) :
    (putAll map entries).lookup key =
      (entries.reverse.lookup key <|> map.lookup key) := by
  induction entries generalizing map with
  | nil =>
      rfl
  | cons entry rest inductionHypothesis =>
      rw [putAll, List.foldl_cons]
      refine inductionHypothesis.trans ?_
      obtain ⟨first, stored⟩ := entry
      rw [lookup_put, List.reverse_cons, List.lookup_append,
        lookup_cons_ite]
      cases rest.reverse.lookup key with
      | some later =>
          rfl
      | none =>
          by_cases same : key = first
          · simp [same]
          · simp [same]

end Lookup

end JellyfinTv.Library
