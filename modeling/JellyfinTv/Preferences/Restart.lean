import JellyfinTv.Library.Runs
import JellyfinTv.Preferences.Migrations

/-!
# Starts on which a migration fails

Each start of the app runs the same registered migrations, whose bodies may
throw on one start and return on another.  The version is stored after the
last migration only.  A start that fails at its first migration leaves nothing
behind, and one that fails nowhere stores the version; a failure in between
leaves applied migrations above the stored version.
-/

namespace JellyfinTv.Preferences

open JellyfinTv.Library

variable {Circumstance : Type}

/-- A registered migration in the circumstances of one start. -/
def Migration.onStart (start : Circumstance)
    (migration : Migration (Circumstance → Body)) : Migration Body where
  toVersion := migration.toVersion
  body := migration.body start

/-- The store after a start of the app, which may have failed. -/
def appStart (registered : List (Migration (Circumstance → Body)))
    (store : Store) (start : Circumstance) : Store :=
  finalState
    ((runMigrations (registered.map (Migration.onStart start))).run store)

/-- A start executes nothing that was applied before it, and leaves a version
that no applied migration exceeds. -/
structure AppliedOnce (before after : Store) : Prop where
  once :
    ∀ migration ∈ after.executed.drop before.executed.length,
      ∀ old ∈ before.applied, migration.toVersion ≠ old.toVersion
  covered :
    ∀ old ∈ after.applied,
      ∃ version, after.AtVersion version ∧ old.toVersion ≤ version

/-- The bodies return one after the other, each on what the ones before it
have stored. -/
def ReturnInTurn :
    SharedPreferences → List (Migration Body) → Prop
  | _, [] => True
  | preferences, migration :: rest =>
      ∃ edits,
        migration.body preferences = .ok edits ∧
          ReturnInTurn (Edit.apply preferences edits) rest

/-- Once the first body has returned, the others return as well. -/
def FailAtFirstOnly
    (preferences : SharedPreferences) : List (Migration Body) → Prop
  | [] => True
  | migration :: rest =>
      ∀ edits,
        migration.body preferences = .ok edits →
          ReturnInTurn (Edit.apply preferences edits) rest

/-- On this start no migration throws after another one was applied. -/
def FailsCleanly (registered : List (Migration (Circumstance → Body)))
    (store : Store) (start : Circumstance) : Prop :=
  ∀ version,
    store.AtVersion version →
      FailAtFirstOnly store.sharedPreferences
        (pendingFrom (registered.map (Migration.onStart start)) version)

theorem forM_run_of_returnInTurn {migrations : List (Migration Body)}
    {store : Store}
    (returning : ReturnInTurn store.sharedPreferences migrations) :
    ∃ final,
      (migrations.forM executeMigration).run store = .ok () final ∧
        final.executed = store.executed ++ migrations ∧
        final.applied = store.applied ++ migrations := by
  induction migrations generalizing store with
  | nil =>
      exact ⟨store, rfl, by simp⟩
  | cons migration rest inductionHypothesis =>
      obtain ⟨edits, returned, others⟩ := returning
      have later :
          ReturnInTurn (store.performed migration edits).sharedPreferences
            rest :=
        others
      obtain ⟨final, ran, executed, applied⟩ := inductionHypothesis later
      refine ⟨final, ?_, ?_, ?_⟩
      · rw [run_forM_cons, executeMigration_run, returned]
        exact ran
      · simp [executed, Store.performed]
      · simp [applied, Store.performed]

/-- A clean start fails before it has stored anything, or applies all that is
pending and stores the version. -/
theorem appStart_cases
    {registered : List (Migration (Circumstance → Body))}
    {store : Store} {start : Circumstance} {version : Int}
    (stored : store.AtVersion version)
    (clean : FailsCleanly registered store start) :
    (∃ migration,
      version < migration.toVersion ∧
        appStart registered store start = store.executing migration) ∨
    ∃ final : Store,
      final.executed =
          store.executed ++
            pendingFrom (registered.map (Migration.onStart start)) version ∧
        final.applied =
          store.applied ++
            pendingFrom (registered.map (Migration.onStart start)) version ∧
        appStart registered store start =
          final.withVersion
            (nextVersion (registered.map (Migration.onStart start))
              version) := by
  have clear := clean version stored
  have above :
      ∀ migration,
        migration ∈
            pendingFrom (registered.map (Migration.onStart start)) version →
          version < migration.toVersion :=
    fun migration member => (mem_pendingFrom member).2
  unfold appStart
  rw [runMigrations_run stored]
  cases pending :
      pendingFrom (registered.map (Migration.onStart start)) version with
  | nil =>
      right
      exact ⟨store, by simp, by simp, rfl⟩
  | cons migration rest =>
      rw [pending] at clear above
      rcases returned : migration.body store.sharedPreferences with
        exception | edits
      · left
        refine ⟨migration, above migration List.mem_cons_self, ?_⟩
        rw [run_forM_cons, executeMigration_run, returned]
        rfl
      · right
        have returning :
            ReturnInTurn store.sharedPreferences (migration :: rest) :=
          ⟨edits, returned, clear edits returned⟩
        obtain ⟨final, ran, executed, applied⟩ :=
          forM_run_of_returnInTurn returning
        refine ⟨final, executed, applied, ?_⟩
        rw [ran]
        rfl

/-- The store has a version that no applied migration exceeds. -/
def Store.Covered (store : Store) : Prop :=
  ∃ version,
    store.AtVersion version ∧
      ∀ old ∈ store.applied, old.toVersion ≤ version

theorem covered_appStart
    {registered : List (Migration (Circumstance → Body))}
    (store : Store) (start : Circumstance) (covered : store.Covered)
    (clean : FailsCleanly registered store start) :
    (appStart registered store start).Covered := by
  obtain ⟨version, stored, bounded⟩ := covered
  rcases appStart_cases stored clean with
    ⟨migration, _, outcome⟩ | ⟨final, _, applied, outcome⟩
  · rw [outcome]
    exact ⟨version, stored, bounded⟩
  · rw [outcome]
    refine ⟨_, Store.atVersion_withVersion _ _, ?_⟩
    intro old member
    have inApplied : old ∈ final.applied := member
    rw [applied] at inApplied
    rcases List.mem_append.mp inApplied with earlier | latest
    · exact (bounded old earlier).trans (version_le_nextVersion _ _)
    · exact toVersion_le_nextVersion latest

theorem once_appStart
    {registered : List (Migration (Circumstance → Body))}
    {store : Store} {start : Circumstance} (covered : store.Covered)
    (clean : FailsCleanly registered store start)
    {migration old : Migration Body}
    (executed :
      migration ∈
        (appStart registered store start).executed.drop
          store.executed.length)
    (applied : old ∈ store.applied) :
    migration.toVersion ≠ old.toVersion := by
  obtain ⟨version, stored, bounded⟩ := covered
  have low := bounded old applied
  have high : version < migration.toVersion := by
    rcases appStart_cases stored clean with
      ⟨first, above, outcome⟩ | ⟨final, all, _, outcome⟩
    · rw [outcome] at executed
      simp only [Store.executing, List.drop_left,
        List.mem_singleton] at executed
      rw [executed]
      exact above
    · rw [outcome] at executed
      simp only [Store.withVersion, all, List.drop_left] at executed
      exact (mem_pendingFrom executed).2
  omega

/-- In a run of starts that fail cleanly, no start executes again what an
earlier one has applied, and the stored version covers all that was applied. -/
theorem clean_starts_apply_once
    (registered : List (Migration (Circumstance → Body)))
    (store : Store) (version : Int) (stored : store.AtVersion version)
    (untouched : store.applied = []) (starts : List Circumstance)
    (clean :
      Admitted (appStart registered) (FailsCleanly registered) store starts) :
    ∀ earlier start,
      earlier ++ [start] <+: starts →
        AppliedOnce (run (appStart registered) store earlier)
          (run (appStart registered) store (earlier ++ [start])) := by
  intro earlier start isEarly
  have admitted := clean.earlier isEarly
  rw [admitted_append] at admitted
  have initial : store.Covered := ⟨version, stored, by simp [untouched]⟩
  have covered := run_invariant covered_appStart initial admitted.1
  have next := covered_appStart _ start covered admitted.2.1
  rw [run_append, run_cons, run_nil]
  refine ⟨?_, ?_⟩
  · intro migration executed old applied
    exact once_appStart covered admitted.2.1 executed applied
  · obtain ⟨final, atFinal, bounded⟩ := next
    exact fun old member => ⟨final, atFinal, bounded old member⟩

/-- Two migrations of which the second throws where the circumstance says
so. -/
def secondMayFail : List (Migration (Bool → Body)) :=
  [⟨1, fun _ _ => .ok [.put "theme" (.string "dark")]⟩,
    ⟨2, fun fails _ =>
      if fails then
        .error (.thrown "second")
      else
        .ok [.remove "theme"]⟩]

theorem clean_starts_apply_once_second :
    AppliedOnce
      (run (appStart secondMayFail) (.installedAt 0) [false])
      (run (appStart secondMayFail) (.installedAt 0) ([false] ++ [true])) := by
  have stored : (Store.installedAt 0).AtVersion 0 :=
    Store.atVersion_installedAt 0
  have second :
      (appStart secondMayFail (.installedAt 0) false).AtVersion 2 := by
    decide
  have pending :
      (pendingFrom (secondMayFail.map (Migration.onStart false)) 0) =
        secondMayFail.map (Migration.onStart false) :=
    rfl
  have done :
      (pendingFrom (secondMayFail.map (Migration.onStart true)) 2) = [] :=
    rfl
  apply clean_starts_apply_once secondMayFail (.installedAt 0) 0 stored rfl
    [false, true]
  · refine ⟨?_, ?_, trivial⟩
    · intro version atVersion
      obtain rfl : version = 0 := by
        have same := atVersion.symm.trans stored
        simpa using same
      rw [pending]
      intro edits _
      exact ⟨_, rfl, trivial⟩
    · intro version atVersion
      obtain rfl : version = 2 := by
        have same := atVersion.symm.trans second
        simpa using same
      rw [done]
      trivial
  · exact List.prefix_rfl

/-- A failure of the second migration leaves the first one applied above the
stored version, and the next start executes it again. -/
theorem failure_repeats_applied_migration :
    (secondMayFail.map Migration.toVersion).Nodup ∧
      (Store.installedAt 0).AtVersion 0 ∧
      (appStart secondMayFail (.installedAt 0) true).applied.map
          Migration.toVersion = [1] ∧
      (appStart secondMayFail (.installedAt 0) true).AtVersion 0 ∧
      ((run (appStart secondMayFail) (.installedAt 0)
          [true, false]).executed.drop
        (appStart secondMayFail (.installedAt 0) true).executed.length).map
          Migration.toVersion = [1, 2] := by
  refine ⟨?_, ?_, ?_, ?_, ?_⟩
  · decide
  · decide
  · decide
  · decide
  · decide

end JellyfinTv.Preferences
