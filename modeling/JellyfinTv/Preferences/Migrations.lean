import JellyfinTv.Library.Effect
import JellyfinTv.Library.SortedBy
import Mathlib.Data.List.Induction
import Mathlib.Logic.Function.Basic

/-!
# Migrations of a shared preference store

`MigrationContext` collects the registered migrations and decides which of
them run.  `SharedPreferenceStore` runs each of them in a transaction of its
own and stores the new version when all of them are done.  The state of the
store keeps the migrations it has executed (each is logged before it runs) and
those whose transaction was applied.
-/

namespace JellyfinTv.Preferences

open JellyfinTv.Library

inductive Value where
  | int (value : Int)
  | long (value : Int)
  | float (bits : UInt32)
  | boolean (value : Bool)
  | string (value : String)
  deriving DecidableEq, Repr

abbrev SharedPreferences := String → Option Value

/-- One call on a `SharedPreferences.Editor`. -/
inductive Edit where
  | put (key : String) (value : Value)
  | remove (key : String)
  | clear
  deriving DecidableEq, Repr

namespace Edit

def change (preferences : SharedPreferences) : Edit → SharedPreferences
  | put key value => Function.update preferences key (some value)
  | remove key => Function.update preferences key none
  | clear => preferences

/-- The editor clears first, wherever `clear` was called. -/
def apply (preferences : SharedPreferences) (edits : List Edit) :
    SharedPreferences :=
  let cleared := if clear ∈ edits then fun _ => none else preferences
  edits.foldl change cleared

end Edit

inductive Throwable where
  | classCastException
  | thrown (message : String)
  deriving DecidableEq, Repr

/-- The body of a migration reads the stored preferences and edits them. -/
abbrev Body := SharedPreferences → Except Throwable (List Edit)

structure Migration (β : Type) where
  toVersion : Int
  body : β

structure MigrationContext (β : Type) where
  migrations : List (Migration β) := []
  highVersion : Int := -1

namespace MigrationContext

variable {β : Type}

def migration (context : MigrationContext β) (definition : Migration β) :
    MigrationContext β where
  migrations := context.migrations ++ [definition]
  highVersion :=
    if definition.toVersion > context.highVersion then
      definition.toVersion
    else
      context.highVersion

def applyMigrations {m : Type → Type} [Monad m]
    (context : MigrationContext β) (currentVersion : Int)
    (executeMigration : Migration β → m Unit) : m Int :=
  if context.highVersion = -1 then
    pure currentVersion
  else if currentVersion ≥ context.highVersion then
    pure currentVersion
  else if currentVersion = -1 then
    pure context.highVersion
  else do
    let pending :=
      context.migrations.filter fun it => it.toVersion > currentVersion
    (sortedBy Migration.toVersion pending).forM executeMigration
    pure (max context.highVersion currentVersion)

/-- The context after the migrations were registered in the given order. -/
def of (registered : List (Migration β)) : MigrationContext β :=
  registered.foldl migration {}

theorem of_append_singleton (registered : List (Migration β))
    (definition : Migration β) :
    of (registered ++ [definition]) = (of registered).migration definition := by
  simp [of]

@[simp]
theorem migrations_of (registered : List (Migration β)) :
    (of registered).migrations = registered := by
  induction registered using List.reverseRecOn with
  | nil =>
      rfl
  | append_singleton registered definition inductionHypothesis =>
      rw [of_append_singleton, migration, inductionHypothesis]

theorem neg_one_le_highVersion (registered : List (Migration β)) :
    -1 ≤ (of registered).highVersion := by
  induction registered using List.reverseRecOn with
  | nil =>
      exact le_rfl
  | append_singleton registered definition inductionHypothesis =>
      rw [of_append_singleton, migration]
      dsimp only
      split <;> omega

theorem toVersion_le_highVersion {registered : List (Migration β)}
    {definition : Migration β} (member : definition ∈ registered) :
    definition.toVersion ≤ (of registered).highVersion := by
  induction registered using List.reverseRecOn with
  | nil =>
      exact absurd member List.not_mem_nil
  | append_singleton registered last inductionHypothesis =>
      rw [of_append_singleton, migration]
      dsimp only
      rcases List.mem_append.mp member with earlier | latest
      · have bounded := inductionHypothesis earlier
        split <;> omega
      · rw [List.mem_singleton.mp latest]
        split <;> omega

theorem highVersion_attained {registered : List (Migration β)}
    (raised : (of registered).highVersion ≠ -1) :
    ∃ definition ∈ registered,
      definition.toVersion = (of registered).highVersion := by
  induction registered using List.reverseRecOn with
  | nil =>
      exact absurd rfl raised
  | append_singleton registered last inductionHypothesis =>
      rw [of_append_singleton, migration] at raised ⊢
      dsimp only at raised ⊢
      split at raised
      · rename_i higher
        refine ⟨last, by simp, ?_⟩
        rw [if_pos higher]
      · rename_i lower
        obtain ⟨definition, member, attained⟩ := inductionHypothesis raised
        refine ⟨definition, List.mem_append_left _ member, ?_⟩
        rw [if_neg lower, attained]

end MigrationContext

structure Store where
  sharedPreferences : SharedPreferences
  executed : List (Migration Body) := []
  applied : List (Migration Body) := []

abbrev StoreM := EStateM Throwable Store

structure IntPreference where
  key : String
  defaultValue : Int

def VERSION : IntPreference where
  key := "store_version"
  defaultValue := -1

/-- A body that throws leaves the editor without `apply`. -/
def transaction (body : Body) : StoreM Unit := do
  match body (← get).sharedPreferences with
  | .error exception => throw exception
  | .ok edits =>
      modify fun store =>
        { store with
          sharedPreferences := Edit.apply store.sharedPreferences edits }

def getInt (key : String) (defaultValue : Int) : StoreM Int := do
  match (← get).sharedPreferences key with
  | none => pure defaultValue
  | some (.int value) => pure value
  | some _ => throw .classCastException

def setInt (key : String) (value : Int) : StoreM Unit :=
  transaction fun _ => .ok [.put key (.int value)]

def executeMigration (migration : Migration Body) : StoreM Unit := do
  modify fun store =>
    { store with executed := store.executed ++ [migration] }
  transaction migration.body
  modify fun store =>
    { store with applied := store.applied ++ [migration] }

def runMigrations (registered : List (Migration Body)) : StoreM Unit := do
  let context := MigrationContext.of registered
  let currentVersion ← getInt VERSION.key VERSION.defaultValue
  let version ← context.applyMigrations currentVersion executeMigration
  setInt VERSION.key version

section Specification

variable {β : Type}

/-- The migrations that a start at the given version executes, in order. -/
def pendingFrom (registered : List (Migration β)) (version : Int) :
    List (Migration β) :=
  let highVersion := (MigrationContext.of registered).highVersion
  if highVersion = -1 ∨ highVersion ≤ version ∨ version = -1 then
    []
  else
    sortedBy Migration.toVersion
      (registered.filter fun it => it.toVersion > version)

/-- The version that a start at the given version stores in the end. -/
def nextVersion (registered : List (Migration β)) (version : Int) : Int :=
  let highVersion := (MigrationContext.of registered).highVersion
  if highVersion = -1 then version else max highVersion version

theorem MigrationContext.applyMigrations_of {m : Type → Type} [Monad m]
    [LawfulMonad m] (registered : List (Migration β)) (version : Int)
    (execute : Migration β → m Unit) :
    (MigrationContext.of registered).applyMigrations version execute =
      (pendingFrom registered version).forM execute >>=
        fun _ => pure (nextVersion registered version) := by
  have lowest := neg_one_le_highVersion registered
  unfold applyMigrations pendingFrom nextVersion
  rw [migrations_of]
  dsimp only
  by_cases none : (of registered).highVersion = -1
  · simp [none]
  by_cases done : (of registered).highVersion ≤ version
  · simp [none, done]
  by_cases fresh : version = -1
  · have higher : ¬ (of registered).highVersion ≤ -1 := by omega
    simp [none, higher, fresh, lowest]
  · simp [none, done, fresh]

theorem mem_pendingFrom {registered : List (Migration β)} {version : Int}
    {migration : Migration β}
    (member : migration ∈ pendingFrom registered version) :
    migration ∈ registered ∧ version < migration.toVersion := by
  unfold pendingFrom at member
  dsimp only at member
  split at member
  · exact absurd member List.not_mem_nil
  · simpa using member

theorem toVersion_le_nextVersion {registered : List (Migration β)}
    {version : Int} {migration : Migration β}
    (member : migration ∈ pendingFrom registered version) :
    migration.toVersion ≤ nextVersion registered version := by
  have bounded :=
    MigrationContext.toVersion_le_highVersion (mem_pendingFrom member).1
  have running : (MigrationContext.of registered).highVersion ≠ -1 := by
    intro unraised
    rw [pendingFrom, if_pos (Or.inl unraised)] at member
    exact List.not_mem_nil member
  rw [nextVersion, if_neg running]
  exact bounded.trans (le_max_left _ _)

theorem version_le_nextVersion (registered : List (Migration β))
    (version : Int) :
    version ≤ nextVersion registered version := by
  unfold nextVersion
  dsimp only
  split
  · exact le_rfl
  · exact le_max_right _ _

end Specification

namespace Store

def withVersion (store : Store) (version : Int) : Store :=
  { store with
    sharedPreferences :=
      Function.update store.sharedPreferences VERSION.key
        (some (.int version)) }

def AtVersion (store : Store) (version : Int) : Prop :=
  store.sharedPreferences VERSION.key = some (.int version)

instance (store : Store) (version : Int) :
    Decidable (store.AtVersion version) :=
  inferInstanceAs
    (Decidable
      (store.sharedPreferences VERSION.key = some (.int version)))

/-- A store that holds its version only. -/
def installedAt (version : Int) : Store where
  sharedPreferences :=
    Function.update (fun _ => none) VERSION.key (some (.int version))

theorem atVersion_installedAt (version : Int) :
    (installedAt version).AtVersion version := by
  simp [AtVersion, installedAt]

theorem atVersion_withVersion (store : Store) (version : Int) :
    (store.withVersion version).AtVersion version := by
  simp [AtVersion, withVersion]

/-- The store while the body of a migration runs. -/
def executing (store : Store) (migration : Migration Body) : Store :=
  { store with executed := store.executed ++ [migration] }

/-- The store after the transaction of a migration. -/
def performed (store : Store) (migration : Migration Body)
    (edits : List Edit) : Store where
  sharedPreferences := Edit.apply store.sharedPreferences edits
  executed := store.executed ++ [migration]
  applied := store.applied ++ [migration]

end Store

theorem executeMigration_run (migration : Migration Body) (store : Store) :
    (executeMigration migration).run store =
      match migration.body store.sharedPreferences with
      | .error exception => .error exception (store.executing migration)
      | .ok edits => .ok () (store.performed migration edits) := by
  simp only [executeMigration, transaction, EStateM.run_bind,
    EStateM.run_modify, EStateM.run_get]
  cases migration.body store.sharedPreferences with
  | error exception =>
      rfl
  | ok edits =>
      rfl

theorem runMigrations_run {registered : List (Migration Body)}
    {store : Store} {version : Int} (stored : store.AtVersion version) :
    (runMigrations registered).run store =
      match
        ((pendingFrom registered version).forM executeMigration).run store
      with
      | .error exception final => .error exception final
      | .ok _ final =>
          .ok () (final.withVersion (nextVersion registered version)) := by
  have read :
      (getInt VERSION.key VERSION.defaultValue).run store =
        .ok version store := by
    simp only [getInt, EStateM.run_bind, EStateM.run_get]
    rw [stored]
    rfl
  simp only [runMigrations, EStateM.run_bind, read,
    MigrationContext.applyMigrations_of]
  cases ((pendingFrom registered version).forM executeMigration).run store with
  | error exception final =>
      rfl
  | ok value final =>
      rfl

end JellyfinTv.Preferences
