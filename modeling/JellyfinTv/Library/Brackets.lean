import Mathlib.Data.List.Induction
import JellyfinTv.Library.Runs

/-!
# Well bracketed logs

A log opens and closes keys, one at a time.  Every key that was opened is
closed before another one is opened, and every closing belongs to an opening
of its own.  Whether an entry may follow a log depends on the open key only.
-/

namespace JellyfinTv.Library

universe u

variable {Key : Type u}

inductive Bracket (Key : Type u) where
  | opening (key : Key)
  | closing (key : Key)
  deriving DecidableEq, Repr

/-- The open key after an entry of the log. -/
def afterBracket : Option Key → Bracket Key → Option Key
  | _, .opening key => some key
  | _, .closing _ => none

/-- The key that was opened and not closed since. -/
def openKey (log : List (Bracket Key)) : Option Key :=
  run afterBracket none log

/-- A key is opened where no other one is open, and closed where it is
open. -/
def Closes (current : Option Key) : Bracket Key → Prop
  | .opening key => ∀ other ∈ current, other = key
  | .closing key => current = some key

instance [DecidableEq Key] (current : Option Key) (bracket : Bracket Key) :
    Decidable (Closes current bracket) :=
  match bracket with
  | .opening key =>
      inferInstanceAs (Decidable (∀ other ∈ current, other = key))
  | .closing key => inferInstanceAs (Decidable (current = some key))

structure WellBracketed (log : List (Bracket Key)) : Prop where
  closed_before :
    ∀ before between after first second,
      log =
          before ++
            .opening first :: (between ++ .opening second :: after) →
        first ≠ second → .closing first ∈ between
  closed_once :
    ∀ before after key, log = before ++ .closing key :: after →
      ∃ earlier between, before = earlier ++ .opening key :: between ∧
        .closing key ∉ between

theorem openKey_concat (log : List (Bracket Key)) (bracket : Bracket Key) :
    openKey (log ++ [bracket]) = afterBracket (openKey log) bracket := by
  rw [openKey, run_append]
  rfl

/-- Each entry closes what is open. -/
abbrev Bracketed (log : List (Bracket Key)) : Prop :=
  Admitted afterBracket Closes none log

theorem bracketed_concat (log : List (Bracket Key))
    (bracket : Bracket Key) :
    Bracketed (log ++ [bracket]) ↔
      Bracketed log ∧ Closes (openKey log) bracket := by
  rw [Bracketed, admitted_append]
  simp only [Admitted, and_true]
  rfl

theorem exists_opening_of_openKey {log : List (Bracket Key)} {key : Key}
    (is_open : openKey log = some key) :
    ∃ earlier, log = earlier ++ [.opening key] := by
  rcases List.eq_nil_or_concat log with rfl | ⟨earlier, bracket, rfl⟩
  · cases is_open
  · rw [List.concat_eq_append, openKey_concat] at is_open
    cases bracket with
    | opening other =>
        cases is_open
        exact ⟨earlier, List.concat_eq_append⟩
    | closing other =>
        cases is_open

/-- A key that was opened is closed since, or it is still open. -/
theorem closed_or_open {log : List (Bracket Key)} (bracketed : Bracketed log) :
    ∀ {before after : List (Bracket Key)} {key : Key},
      log = before ++ .opening key :: after →
        .closing key ∈ after ∨ openKey log = some key := by
  induction log using List.reverseRecOn with
  | nil =>
      intro before after key split
      cases before <;> cases split
  | append_singleton log bracket inductionHypothesis =>
      intro before after key split
      obtain ⟨fits, closes⟩ := (bracketed_concat log bracket).mp bracketed
      rw [openKey_concat]
      rcases List.eq_nil_or_concat after with rfl | ⟨between, last, rfl⟩
      · obtain ⟨_, same⟩ := List.append_inj' split rfl
        cases same
        exact Or.inr rfl
      · rw [List.concat_eq_append, ← List.cons_append, ← List.append_assoc]
          at split
        obtain ⟨earlier, same⟩ := List.append_inj' split rfl
        cases same
        rcases inductionHypothesis fits earlier with closed | still_open
        · rw [List.concat_eq_append]
          exact Or.inl (List.mem_append_left _ closed)
        · rw [still_open] at closes ⊢
          cases bracket with
          | opening other =>
              right
              rw [closes key rfl]
              rfl
          | closing other =>
              cases closes
              exact Or.inl (by simp)

/-- A log whose entries close what is open is well bracketed. -/
theorem wellBracketed_of_bracketed {log : List (Bracket Key)}
    (bracketed : Bracketed log) : WellBracketed log where
  closed_before := by
    intro before between after first second split different
    have regrouped :
        log =
          (before ++ .opening first :: between) ++
            .opening second :: after := by
      rw [split, List.append_assoc, List.cons_append]
    rw [regrouped, Bracketed, admitted_append] at bracketed
    obtain ⟨earlier, closes, _⟩ := bracketed
    rcases closed_or_open earlier rfl with closed | still_open
    · exact closed
    · exact absurd (closes first still_open) different
  closed_once := by
    intro before after key split
    rw [split, Bracketed, admitted_append] at bracketed
    obtain ⟨_, closes, _⟩ := bracketed
    obtain ⟨earlier, last⟩ := exists_opening_of_openKey closes
    exact ⟨earlier, [], last, List.not_mem_nil⟩

end JellyfinTv.Library
