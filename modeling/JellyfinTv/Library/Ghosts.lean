import JellyfinTv.Library.Effect
import Mathlib.Data.List.Basic

/-!
# Ghosts that listen to a log

A state keeps a log of what was done.  A ghost is a value beside the state that
hears the entries of the log and judges each of them before it hears it.
`Narrates` says of a change of the state that the log has grown, that a ghost
accepts the new entries, and that it still fits the state once it has heard
them.  The relation is a preorder, so the rules of `Respects` apply to it.
-/

namespace JellyfinTv.Library

universe u v w

variable {σ : Type u} {Entry : Type v} {Ghost : Type w}

section Listening

variable (hear : Ghost → Entry → Ghost) (accepts : Ghost → Entry → Prop)

/-- The ghost accepts every entry at the time when it hears it. -/
def Accepted : Ghost → List Entry → Prop
  | _, [] => True
  | ghost, entry :: rest =>
      accepts ghost entry ∧ Accepted (hear ghost entry) rest

instance decidableAccepted
    [∀ ghost entry, Decidable (accepts ghost entry)] :
    ∀ (ghost : Ghost) (entries : List Entry),
      Decidable (Accepted hear accepts ghost entries)
  | _, [] => inferInstanceAs (Decidable True)
  | ghost, entry :: rest =>
      let _ := decidableAccepted (hear ghost entry) rest
      inferInstanceAs
        (Decidable (accepts ghost entry ∧
          Accepted hear accepts (hear ghost entry) rest))

theorem accepted_append (ghost : Ghost) (first second : List Entry) :
    Accepted hear accepts ghost (first ++ second) ↔
      Accepted hear accepts ghost first ∧
        Accepted hear accepts (first.foldl hear ghost) second := by
  induction first generalizing ghost with
  | nil =>
      simp [Accepted]
  | cons entry rest inductionHypothesis =>
      simp only [List.cons_append, Accepted, List.foldl_cons,
        inductionHypothesis, and_assoc]

/-- Entries that the ghost does not hear leave it as it is. -/
theorem foldl_hear_of_ignored {ghost : Ghost} {entries : List Entry}
    (ignored : ∀ entry ∈ entries, hear ghost entry = ghost) :
    entries.foldl hear ghost = ghost := by
  induction entries with
  | nil =>
      rfl
  | cons entry rest inductionHypothesis =>
      rw [List.forall_mem_cons] at ignored
      rw [List.foldl_cons, ignored.1]
      exact inductionHypothesis ignored.2

theorem accepted_of_ignored {ghost : Ghost} {entries : List Entry}
    (ignored : ∀ entry ∈ entries, hear ghost entry = ghost)
    (accepted : ∀ entry ∈ entries, accepts ghost entry) :
    Accepted hear accepts ghost entries := by
  induction entries with
  | nil =>
      trivial
  | cons entry rest inductionHypothesis =>
      rw [List.forall_mem_cons] at ignored accepted
      refine ⟨accepted.1, ?_⟩
      rw [ignored.1]
      exact inductionHypothesis ignored.2 accepted.2

variable {hear accepts} in
theorem Accepted.mono {others : Ghost → Entry → Prop}
    (weaker : ∀ ghost entry, accepts ghost entry → others ghost entry)
    {ghost : Ghost} {entries : List Entry}
    (accepted : Accepted hear accepts ghost entries) :
    Accepted hear others ghost entries := by
  induction entries generalizing ghost with
  | nil =>
      trivial
  | cons entry rest inductionHypothesis =>
      exact
        ⟨weaker ghost entry accepted.1, inductionHypothesis accepted.2⟩

variable (log : σ → List Entry) (fits : Ghost → σ → Prop)

/-- Every ghost that fits the state before accepts the new entries, and fits
the state after once it has heard them. -/
def Narrates (before after : σ) : Prop :=
  ∀ ghost, fits ghost before →
    ∃ made, log after = log before ++ made ∧
      fits (made.foldl hear ghost) after ∧ Accepted hear accepts ghost made

instance : IsPreorder σ (Narrates hear accepts log fits) where
  refl state ghost holds :=
    ⟨[], (List.append_nil _).symm, holds, trivial⟩
  trans before middle after first second := by
    intro ghost holds
    obtain ⟨made, grown, kept, accepted⟩ := first ghost holds
    obtain ⟨later, grownLater, keptLater, acceptedLater⟩ :=
      second _ kept
    refine ⟨made ++ later, ?_, ?_, ?_⟩
    · rw [grownLater, grown, List.append_assoc]
    · rw [List.foldl_append]
      exact keptLater
    · exact
        (accepted_append hear accepts ghost made later).mpr
          ⟨accepted, acceptedLater⟩

variable {hear accepts log fits}

/-- A change that makes no entry. -/
theorem Narrates.silent {before after : σ} (same : log after = log before)
    (kept : ∀ ghost, fits ghost before → fits ghost after) :
    Narrates hear accepts log fits before after := by
  intro ghost holds
  refine ⟨[], ?_, kept ghost holds, trivial⟩
  rw [same, List.append_nil]

/-- A change that makes one entry. -/
theorem Narrates.entry {before after : σ} {entry : Entry}
    (grown : log after = log before ++ [entry])
    (kept :
      ∀ ghost, fits ghost before →
        fits (hear ghost entry) after ∧ accepts ghost entry) :
    Narrates hear accepts log fits before after := by
  intro ghost holds
  obtain ⟨keptAfter, accepted⟩ := kept ghost holds
  exact ⟨[entry], grown, keptAfter, accepted, trivial⟩

end Listening

/-- Under a condition on the state, which then stays, the states are
related. -/
def Given (condition : σ → Prop) (related : σ → σ → Prop)
    (before after : σ) : Prop :=
  condition before → condition after ∧ related before after

instance (condition : σ → Prop) (related : σ → σ → Prop)
    [IsPreorder σ related] : IsPreorder σ (Given condition related) where
  refl state holds := ⟨holds, Std.Refl.refl state⟩
  trans _ _ _ first second holds := by
    obtain ⟨middle, begun⟩ := first holds
    obtain ⟨after, ended⟩ := second middle
    exact ⟨after, IsTrans.trans _ _ _ begun ended⟩

end JellyfinTv.Library
