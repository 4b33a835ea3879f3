import Mathlib.Data.List.Count
import JellyfinTv.Library.Runs

/-!
# Keys that are opened, touched and closed

A log opens, touches and closes keys.  A key may be closed without having been
opened, but its closing ends it: no later entry is about it.  A key that was
opened is closed before another one is opened.  Whether an entry may follow a
log depends on the open key and on the ended ones.
-/

namespace JellyfinTv.Library

universe u

inductive Lifetime (Key : Type u) where
  | opening (key : Key)
  | touching (key : Key)
  | closing (key : Key)
  deriving DecidableEq, Repr

namespace Lifetime

variable {Key : Type u}

def key : Lifetime Key → Key
  | .opening key | .touching key | .closing key => key

/-- What a log leaves behind. -/
structure Ledger (Key : Type u) where
  current : Option Key
  ended : List Key

def Ledger.enter (ledger : Ledger Key) : Lifetime Key → Ledger Key
  | .opening key => { ledger with current := some key }
  | .touching _ => ledger
  | .closing key => ⟨none, key :: ledger.ended⟩

/-- No entry is about a key that has ended, and where a key is open, another
one is neither opened nor closed. -/
structure Ledger.Accepts (ledger : Ledger Key) (entry : Lifetime Key) :
    Prop where
  lives : entry.key ∉ ledger.ended
  alone :
    ∀ other ∈ ledger.current,
      entry = .touching entry.key ∨ other = entry.key

def ledgerOf (log : List (Lifetime Key)) : Ledger Key :=
  run Ledger.enter ⟨none, []⟩ log

/-- Each entry is accepted after the ones before it. -/
abbrev Orderly (log : List (Lifetime Key)) : Prop :=
  Admitted Ledger.enter Ledger.Accepts ⟨none, []⟩ log

structure WellKept [DecidableEq Key] (log : List (Lifetime Key)) : Prop where
  closed_once :
    ∀ before between after first second,
      log =
          before ++
            .opening first :: (between ++ .opening second :: after) →
        first ≠ second → between.count (.closing first) = 1
  closed_last :
    ∀ before after key, log = before ++ .closing key :: after →
      ∀ entry ∈ after, entry.key ≠ key

theorem ledgerOf_concat (log : List (Lifetime Key)) (entry : Lifetime Key) :
    ledgerOf (log ++ [entry]) = (ledgerOf log).enter entry := by
  rw [ledgerOf, run_append]
  rfl

theorem orderly_concat (log : List (Lifetime Key)) (entry : Lifetime Key) :
    Orderly (log ++ [entry]) ↔
      Orderly log ∧ (ledgerOf log).Accepts entry := by
  rw [Orderly, admitted_append]
  simp only [Admitted, and_true]
  rfl

theorem ended_enter {ledger : Ledger Key} {key : Key}
    (ended : key ∈ ledger.ended) (entry : Lifetime Key) :
    key ∈ (ledger.enter entry).ended := by
  cases entry with
  | opening other =>
      exact ended
  | touching other =>
      exact ended
  | closing other =>
      exact List.mem_cons_of_mem other ended

/-- No entry of an orderly log is about a key that has ended before it. -/
theorem key_ne_of_ended {key : Key} {log : List (Lifetime Key)}
    {ledger : Ledger Key} (ended : key ∈ ledger.ended)
    (orderly : Admitted Ledger.enter Ledger.Accepts ledger log) :
    ∀ entry ∈ log, entry.key ≠ key := by
  induction log generalizing ledger with
  | nil =>
      intro entry member
      cases member
  | cons head tail inductionHypothesis =>
      intro entry member
      rcases List.mem_cons.mp member with rfl | later
      · rintro rfl
        exact orderly.1.lives ended
      · exact inductionHypothesis (ended_enter ended head) orderly.2 entry
          later

/-- An open key is closed exactly once before another one is opened. -/
theorem count_closing [DecidableEq Key] {first second : Key}
    (different : first ≠ second) {between after : List (Lifetime Key)}
    {ledger : Ledger Key} (is_open : ledger.current = some first)
    (orderly :
      Admitted Ledger.enter Ledger.Accepts ledger
        (between ++ .opening second :: after)) :
    between.count (.closing first) = 1 := by
  induction between generalizing ledger with
  | nil =>
      rcases orderly.1.alone first is_open with touched | same
      · cases touched
      · exact absurd same different
  | cons head tail inductionHypothesis =>
      have alone := orderly.1.alone first is_open
      cases head with
      | opening key =>
          have same : first = key := alone.resolve_left (by rintro ⟨⟩)
          rw [List.count_cons_of_ne (by rintro ⟨⟩)]
          exact inductionHypothesis (congrArg some same.symm) orderly.2
      | touching key =>
          rw [List.count_cons_of_ne (by rintro ⟨⟩)]
          exact inductionHypothesis is_open orderly.2
      | closing key =>
          have same : first = key := alone.resolve_left (by rintro ⟨⟩)
          subst same
          have ended : first ∈ (ledger.enter (.closing first)).ended :=
            List.mem_cons_self
          have rest := key_ne_of_ended ended orderly.2
          have none_left : Lifetime.closing first ∉ tail := by
            intro member
            exact rest _ (List.mem_append_left _ member) rfl
          rw [List.count_cons_self, List.count_eq_zero.mpr none_left]

theorem wellKept_of_orderly [DecidableEq Key] {log : List (Lifetime Key)}
    (orderly : Orderly log) : WellKept log where
  closed_once := by
    intro before between after first second split different
    rw [split, Orderly, admitted_append] at orderly
    exact count_closing different rfl orderly.2.2
  closed_last := by
    intro before after key split
    rw [split, Orderly, admitted_append] at orderly
    exact key_ne_of_ended List.mem_cons_self orderly.2.2

end Lifetime

end JellyfinTv.Library
