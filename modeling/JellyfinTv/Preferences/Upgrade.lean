import JellyfinTv.Library.Runs
import JellyfinTv.Preferences.Migrations

/-!
# Upgrades through several app versions

A device that takes part in every release runs the migrations of each of them
in turn; another one skips releases and runs the migrations of the last one
only.  The abstract upgrade keeps a version and the migrations executed so
far.  An upgrade to a release followed by one to its successor is the upgrade
to the successor, and the store follows the abstract upgrade in its values
and its version.
-/

namespace JellyfinTv.Preferences

open JellyfinTv.Library

section Releases

variable {β : Type}

/-- The later release registers the migrations of the earlier one in any
order, with added ones that lead to larger versions. -/
def PermutesWithAdditions (earlier later : List (Migration β)) : Prop :=
  ∃ added,
    later.Perm (earlier ++ added) ∧
      ∀ new ∈ added, ∀ old ∈ earlier, old.toVersion < new.toVersion

/-- Migrations to the same version keep their order of registration. -/
def KeepsTies (earlier later : List (Migration β)) : Prop :=
  ∀ old ∈ earlier,
    atKey Migration.toVersion old.toVersion later =
      atKey Migration.toVersion old.toVersion earlier

def Extends (earlier later : List (Migration β)) : Prop :=
  PermutesWithAdditions earlier later ∧ KeepsTies earlier later

/-- The migrations above a version, each once, in ascending order of their
versions and in the order of registration among equal ones. -/
structure ExecutedInOrder (version : Int)
    (registered executed : List (Migration β)) : Prop where
  once :
    executed.Perm (registered.filter fun it => version < it.toVersion)
  ascending : Ascending Migration.toVersion executed
  stable :
    ∀ toVersion,
      atKey Migration.toVersion toVersion executed =
        atKey Migration.toVersion toVersion
          (registered.filter fun it => version < it.toVersion)

theorem executedInOrder_sortedBy (version : Int)
    (registered : List (Migration β)) :
    ExecutedInOrder version registered
      (sortedBy Migration.toVersion
        (registered.filter fun it => version < it.toVersion)) where
  once := sortedBy_perm _ _
  ascending := ascending_sortedBy _ _
  stable toVersion := atKey_sortedBy _ toVersion _

theorem mem_of_permutesWithAdditions {earlier later : List (Migration β)}
    (extended : PermutesWithAdditions earlier later)
    {old : Migration β} (member : old ∈ earlier) :
    old ∈ later := by
  obtain ⟨added, permuted, _⟩ := extended
  exact permuted.mem_iff.mpr (List.mem_append_left added member)

theorem highVersion_le_of_permutesWithAdditions
    {earlier later : List (Migration β)}
    (extended : PermutesWithAdditions earlier later) :
    (MigrationContext.of earlier).highVersion ≤
      (MigrationContext.of later).highVersion := by
  by_cases raised : (MigrationContext.of earlier).highVersion = -1
  · rw [raised]
    exact MigrationContext.neg_one_le_highVersion later
  · obtain ⟨highest, member, attained⟩ :=
      MigrationContext.highVersion_attained raised
    rw [← attained]
    exact MigrationContext.toVersion_le_highVersion
      (mem_of_permutesWithAdditions extended member)

/-- Up to the highest version of a release, its successor has the same
migrations. -/
theorem atKey_of_extends {earlier later : List (Migration β)}
    (extended : Extends earlier later)
    (raised : (MigrationContext.of earlier).highVersion ≠ -1)
    {toVersion : Int}
    (old : toVersion ≤ (MigrationContext.of earlier).highVersion) :
    atKey Migration.toVersion toVersion later =
      atKey Migration.toVersion toVersion earlier := by
  obtain ⟨⟨added, permuted, larger⟩, ties⟩ := extended
  by_cases present :
      ∃ migration ∈ earlier, migration.toVersion = toVersion
  · obtain ⟨migration, member, rfl⟩ := present
    exact ties migration member
  · have absent :
        ∀ migration ∈ earlier, migration.toVersion ≠ toVersion :=
      fun migration member same => present ⟨migration, member, same⟩
    rw [atKey_eq_nil _ absent]
    apply atKey_eq_nil
    intro migration member
    rcases List.mem_append.mp (permuted.mem_iff.mp member) with
      kept | new
    · exact absent migration kept
    · obtain ⟨highest, highestMember, attained⟩ :=
        MigrationContext.highVersion_attained raised
      have above := larger migration new highest highestMember
      omega

theorem atKey_filter_above (registered : List (Migration β))
    (version toVersion : Int) :
    atKey Migration.toVersion toVersion
        (registered.filter fun it => it.toVersion > version) =
      if version < toVersion then
        atKey Migration.toVersion toVersion registered
      else [] := by
  split
  · rename_i above
    simp only [atKey, List.filter_filter]
    apply List.filter_congr
    intro migration _
    by_cases same : migration.toVersion = toVersion
    · simp [same, above]
    · simp [same]
  · rename_i below
    apply atKey_eq_nil
    intro migration member
    have above := (List.mem_filter.mp member).2
    simp only [decide_eq_true_eq] at above
    omega

/-- What the successor executes above a version is what the release executes
above it, and then what the successor executes above the release. -/
theorem sortedBy_extends {earlier later : List (Migration β)}
    (extended : Extends earlier later) {version : Int}
    (raised : (MigrationContext.of earlier).highVersion ≠ -1)
    (behind : version < (MigrationContext.of earlier).highVersion) :
    sortedBy Migration.toVersion
        (later.filter fun it => it.toVersion > version) =
      sortedBy Migration.toVersion
          (earlier.filter fun it => it.toVersion > version) ++
        sortedBy Migration.toVersion
          (later.filter fun it =>
            it.toVersion > (MigrationContext.of earlier).highVersion) := by
  apply sortedBy_eq
  · apply List.pairwise_append.mpr
    refine ⟨ascending_sortedBy _ _, ascending_sortedBy _ _, ?_⟩
    intro old oldMember new newMember
    simp only [mem_sortedBy, List.mem_filter,
      decide_eq_true_eq] at oldMember newMember
    have bounded :=
      MigrationContext.toVersion_le_highVersion oldMember.1
    omega
  · intro toVersion
    simp only [atKey_append, atKey_sortedBy, atKey_filter_above]
    by_cases new :
        (MigrationContext.of earlier).highVersion < toVersion
    · have absent :
          atKey Migration.toVersion toVersion earlier = [] := by
        apply atKey_eq_nil
        intro migration member
        have bounded :=
          MigrationContext.toVersion_le_highVersion member
        omega
      have above : version < toVersion := behind.trans new
      simp [new, above, absent]
    · have same :=
        atKey_of_extends extended raised (le_of_not_gt new)
      simp [new, same]

end Releases

structure Plan (β : Type) where
  version : Int
  executed : List (Migration β)

namespace Plan

variable {β : Type}

def upgrade (plan : Plan β) (registered : List (Migration β)) : Plan β where
  version := nextVersion registered plan.version
  executed := plan.executed ++ pendingFrom registered plan.version

theorem upgrade_eq_self {plan : Plan β} {registered : List (Migration β)}
    (idle :
      (MigrationContext.of registered).highVersion = -1 ∨
        (MigrationContext.of registered).highVersion ≤ plan.version) :
    plan.upgrade registered = plan := by
  have nothing : pendingFrom registered plan.version = [] := by
    unfold pendingFrom
    exact if_pos (idle.imp_right Or.inl)
  have unchanged : nextVersion registered plan.version = plan.version := by
    unfold nextVersion
    dsimp only
    rcases idle with none | done
    · exact if_pos none
    · split
      · rfl
      · exact max_eq_right done
  rw [upgrade, nothing, unchanged, List.append_nil]

/-- An upgrade that raises the version executes what lies above it. -/
theorem upgrade_of_behind {plan : Plan β} {registered : List (Migration β)}
    (installed : plan.version ≠ -1)
    (raised : (MigrationContext.of registered).highVersion ≠ -1)
    (behind :
      plan.version < (MigrationContext.of registered).highVersion) :
    plan.upgrade registered =
      { version := (MigrationContext.of registered).highVersion
        executed :=
          plan.executed ++
            sortedBy Migration.toVersion
              (registered.filter fun it => it.toVersion > plan.version) } := by
  have running :
      ¬ ((MigrationContext.of registered).highVersion = -1 ∨
        (MigrationContext.of registered).highVersion ≤ plan.version ∨
          plan.version = -1) := by
    omega
  unfold upgrade nextVersion pendingFrom
  dsimp only
  rw [if_neg running, if_neg raised, max_eq_left behind.le]

/-- An upgrade to a release before the upgrade to its successor changes
nothing. -/
theorem upgrade_upgrade {plan : Plan β} {earlier later : List (Migration β)}
    (installed : plan.version ≠ -1) (extended : Extends earlier later) :
    (plan.upgrade earlier).upgrade later = plan.upgrade later := by
  have lowest := MigrationContext.neg_one_le_highVersion earlier
  have grown := highVersion_le_of_permutesWithAdditions extended.1
  by_cases idle :
      (MigrationContext.of earlier).highVersion = -1 ∨
        (MigrationContext.of earlier).highVersion ≤ plan.version
  · rw [upgrade_eq_self idle]
  · have raised : (MigrationContext.of earlier).highVersion ≠ -1 :=
      fun unraised => idle (Or.inl unraised)
    have behind :
        plan.version < (MigrationContext.of earlier).highVersion := by
      omega
    have split := sortedBy_extends extended raised behind
    rw [upgrade_of_behind installed raised behind,
      upgrade_of_behind installed (by omega) (by omega)]
    by_cases further :
        (MigrationContext.of earlier).highVersion <
          (MigrationContext.of later).highVersion
    · rw [upgrade_of_behind raised (by omega) further, split]
      simp only [List.append_assoc]
    · have level :
          (MigrationContext.of later).highVersion =
            (MigrationContext.of earlier).highVersion := by
        omega
      have nothing :
          (later.filter fun it =>
            it.toVersion > (MigrationContext.of earlier).highVersion) = [] := by
        apply List.filter_eq_nil_iff.mpr
        intro migration member
        have bounded :=
          MigrationContext.toVersion_le_highVersion member
        simp only [decide_eq_true_eq]
        omega
      rw [nothing] at split
      rw [upgrade_eq_self (Or.inr level.le), split, level]
      simp [sortedBy]

/-- The upgrades to all releases in turn are the upgrade to the last. -/
theorem run_upgrade {plan : Plan β} {releases : List (List (Migration β))}
    (installed : plan.version ≠ -1) (chain : releases.IsChain Extends)
    (nonempty : releases ≠ []) :
    run upgrade plan releases = plan.upgrade (releases.getLast nonempty) := by
  induction releases with
  | nil =>
      exact absurd rfl nonempty
  | cons earlier rest inductionHypothesis =>
      cases rest with
      | nil =>
          rfl
      | cons later rest =>
          rw [List.isChain_cons_cons] at chain
          have fused :=
            inductionHypothesis chain.2 (List.cons_ne_nil later rest)
          rw [run_cons] at fused
          rw [run_cons, run_cons, upgrade_upgrade installed chain.1, fused]
          simp

/-- The last upgrade leaves nothing to do. -/
theorem upgrade_again (plan : Plan β) (registered : List (Migration β)) :
    (plan.upgrade registered).upgrade registered =
      plan.upgrade registered := by
  apply upgrade_eq_self
  unfold upgrade nextVersion
  dsimp only
  split
  · rename_i unraised
    exact Or.inl unraised
  · exact Or.inr (le_max_left _ _)

theorem executedInOrder_upgrade {version : Int}
    {registered : List (Migration β)} (installed : version ≠ -1)
    (counted :
      0 ≤ version ∨ ∃ migration ∈ registered, 0 ≤ migration.toVersion) :
    ExecutedInOrder version registered
      (upgrade ⟨version, []⟩ registered).executed := by
  by_cases idle :
      (MigrationContext.of registered).highVersion = -1 ∨
        (MigrationContext.of registered).highVersion ≤ version
  · have nothing :
        (registered.filter fun it => version < it.toVersion) = [] := by
      apply List.filter_eq_nil_iff.mpr
      intro migration member
      have bounded := MigrationContext.toVersion_le_highVersion member
      simp only [decide_eq_true_eq]
      rcases counted with current | ⟨positive, present, atLeast⟩
      · omega
      · have raised := MigrationContext.toVersion_le_highVersion present
        omega
    have order := executedInOrder_sortedBy version registered
    rw [nothing] at order
    rw [upgrade_eq_self idle]
    exact order
  · rw [upgrade_of_behind installed
      (fun unraised => idle (Or.inl unraised))
      (lt_of_not_ge fun done => idle (Or.inr done))]
    exact executedInOrder_sortedBy version registered

end Plan

/-! ## Migrations with pure bodies -/

/-- The stored values apart from the version. -/
def SameValues (first second : SharedPreferences) : Prop :=
  ∀ key, key ≠ VERSION.key → first key = second key

namespace Migration

/-- What a migration makes of the stored preferences. -/
def effect (migration : Migration Body) (preferences : SharedPreferences) :
    SharedPreferences :=
  match migration.body preferences with
  | .ok edits => Edit.apply preferences edits
  | .error _ => preferences

/-- The body returns, and it makes the same of the same values. -/
structure Pure (migration : Migration Body) : Prop where
  returns : ∀ preferences, ∃ edits, migration.body preferences = .ok edits
  sameValues :
    ∀ first second, SameValues first second →
      SameValues (migration.effect first) (migration.effect second)

end Migration

def effects (migrations : List (Migration Body))
    (preferences : SharedPreferences) : SharedPreferences :=
  migrations.foldl (fun current migration => migration.effect current)
    preferences

theorem sameValues_change {first second : SharedPreferences}
    (same : SameValues first second) (edit : Edit) :
    SameValues (edit.change first) (edit.change second) := by
  intro key other
  have equal := same key other
  cases edit with
  | put edited value =>
      by_cases here : key = edited
      · subst here
        simp [Edit.change]
      · simpa [Edit.change, here] using equal
  | remove edited =>
      by_cases here : key = edited
      · subst here
        simp [Edit.change]
      · simpa [Edit.change, here] using equal
  | clear =>
      exact equal

theorem sameValues_apply {first second : SharedPreferences}
    (same : SameValues first second) (edits : List Edit) :
    SameValues (Edit.apply first edits) (Edit.apply second edits) := by
  have folded :
      ∀ (edits : List Edit) {first second : SharedPreferences},
        SameValues first second →
          SameValues (edits.foldl Edit.change first)
            (edits.foldl Edit.change second) := by
    intro edits
    induction edits with
    | nil =>
        exact id
    | cons edit rest inductionHypothesis =>
        intro first second same
        exact inductionHypothesis (sameValues_change same edit)
  unfold Edit.apply
  apply folded
  split
  · exact fun _ _ => rfl
  · exact same

/-- A migration that makes the same edits everywhere is pure. -/
theorem Migration.pure_of_edits (toVersion : Int) (edits : List Edit) :
    Migration.Pure ⟨toVersion, fun _ => .ok edits⟩ where
  returns _ := ⟨edits, rfl⟩
  sameValues _ _ same := sameValues_apply same edits

theorem effects_append (first second : List (Migration Body))
    (preferences : SharedPreferences) :
    effects (first ++ second) preferences =
      effects second (effects first preferences) :=
  List.foldl_append ..

theorem sameValues_effects {migrations : List (Migration Body)}
    (pure : ∀ migration ∈ migrations, migration.Pure)
    {first second : SharedPreferences} (same : SameValues first second) :
    SameValues (effects migrations first) (effects migrations second) := by
  induction migrations generalizing first second with
  | nil =>
      exact same
  | cons migration rest inductionHypothesis =>
      rw [List.forall_mem_cons] at pure
      exact inductionHypothesis pure.2 (pure.1.sameValues _ _ same)

/-- The store after all of the migrations. -/
def Store.afterAll (store : Store) (migrations : List (Migration Body)) :
    Store where
  sharedPreferences := effects migrations store.sharedPreferences
  executed := store.executed ++ migrations
  applied := store.applied ++ migrations

/-- Migrations that return are all executed and applied. -/
theorem forM_executeMigration_run {migrations : List (Migration Body)}
    (pure : ∀ migration ∈ migrations, migration.Pure) (store : Store) :
    (migrations.forM executeMigration).run store =
      .ok () (store.afterAll migrations) := by
  induction migrations generalizing store with
  | nil =>
      simp [effects, Store.afterAll]
  | cons migration rest inductionHypothesis =>
      rw [List.forall_mem_cons] at pure
      obtain ⟨edits, returned⟩ := pure.1.returns store.sharedPreferences
      have changed :
          Edit.apply store.sharedPreferences edits =
            migration.effect store.sharedPreferences := by
        rw [Migration.effect, returned]
      rw [run_forM_cons, executeMigration_run, returned]
      dsimp only
      rw [inductionHypothesis pure.2]
      simp [Store.performed, Store.afterAll, effects, changed]

/-- The store has the version of the plan and the values that its migrations
make of the initial ones. -/
structure Follows (initial : Store) (store : Store) (plan : Plan Body) :
    Prop where
  version : store.AtVersion plan.version
  executed : store.executed = initial.executed ++ plan.executed
  values :
    SameValues store.sharedPreferences
      (effects plan.executed initial.sharedPreferences)

namespace Follows

variable {initial store : Store} {plan : Plan Body}

theorem start {version : Int} (stored : store.AtVersion version) :
    Follows store store { version := version, executed := [] } where
  version := stored
  executed := (List.append_nil _).symm
  values _ _ := rfl

theorem sharedPreferences_eq {other : Store}
    (follows : Follows initial store plan)
    (otherFollows : Follows initial other plan) :
    store.sharedPreferences = other.sharedPreferences := by
  funext key
  by_cases version : key = VERSION.key
  · rw [version, follows.version, otherFollows.version]
  · rw [follows.values key version, otherFollows.values key version]

theorem runMigrations {registered : List (Migration Body)}
    (follows : Follows initial store plan)
    (pure : ∀ migration ∈ registered, migration.Pure) :
    ∃ final,
      (runMigrations registered).run store = .ok () final ∧
        Follows initial final (plan.upgrade registered) := by
  have purePending :
      ∀ migration ∈ pendingFrom registered plan.version, migration.Pure :=
    fun migration member => pure migration (mem_pendingFrom member).1
  refine ⟨Store.withVersion
    (store.afterAll (pendingFrom registered plan.version))
    (nextVersion registered plan.version), ?_,
    Store.atVersion_withVersion _ _, ?_, ?_⟩
  · rw [runMigrations_run follows.version,
      forM_executeMigration_run purePending store]
  · simp [Store.withVersion, Store.afterAll, Plan.upgrade,
      follows.executed]
  · intro key other
    have same := sameValues_effects purePending follows.values key other
    simp only [Plan.upgrade, effects_append]
    rw [← same]
    simp [Store.withVersion, Store.afterAll, other]

theorem forM_runMigrations {releases : List (List (Migration Body))}
    (follows : Follows initial store plan)
    (pure :
      ∀ registered ∈ releases, ∀ migration ∈ registered, migration.Pure) :
    ∃ final,
      (releases.forM Preferences.runMigrations).run store = .ok () final ∧
        Follows initial final (run Plan.upgrade plan releases) := by
  induction releases generalizing store plan with
  | nil =>
      exact ⟨store, rfl, follows⟩
  | cons registered rest inductionHypothesis =>
      rw [List.forall_mem_cons] at pure
      obtain ⟨middle, first, middleFollows⟩ :=
        follows.runMigrations pure.1
      obtain ⟨final, others, finalFollows⟩ :=
        inductionHypothesis middleFollows pure.2
      refine ⟨final, ?_, finalFollows⟩
      rw [run_forM_cons, first]
      exact others

/-- A start that has nothing to do leaves the store as it is. -/
theorem runMigrations_idle {registered : List (Migration Body)}
    (follows : Follows initial store plan)
    (idle : plan.upgrade registered = plan) :
    (Preferences.runMigrations registered).run store = .ok () store := by
  have nothing : pendingFrom registered plan.version = [] := by
    have same := congrArg Plan.executed idle
    simpa [Plan.upgrade] using same
  have unchanged : nextVersion registered plan.version = plan.version :=
    congrArg Plan.version idle
  have rewritten : store.withVersion plan.version = store := by
    have stored := follows.version
    unfold Store.AtVersion at stored
    rw [Store.withVersion, ← stored, Function.update_eq_self]
  rw [runMigrations_run follows.version, nothing, unchanged]
  simp [rewritten]

end Follows

/-- The releases in turn leave the values and the version that the last one
leaves alone, execute what it executes, and leave it nothing to do. -/
theorem stepwise_upgrade_agrees
    (releases : List (List (Migration Body))) (nonempty : releases ≠ [])
    (chain : releases.IsChain Extends)
    (pure :
      ∀ registered ∈ releases, ∀ migration ∈ registered, migration.Pure)
    (store : Store) (version : Int) (stored : store.AtVersion version)
    (installed : version ≠ VERSION.defaultValue) :
    ∃ stepwise direct,
      (releases.forM runMigrations).run store = .ok () stepwise ∧
        (runMigrations (releases.getLast nonempty)).run store =
            .ok () direct ∧
        stepwise.sharedPreferences = direct.sharedPreferences ∧
        stepwise.executed = direct.executed ∧
        ((0 ≤ version ∨
            ∃ migration ∈ releases.getLast nonempty,
              0 ≤ migration.toVersion) →
          ∃ order,
            stepwise.executed = store.executed ++ order ∧
              ExecutedInOrder version (releases.getLast nonempty) order) ∧
        (runMigrations (releases.getLast nonempty)).run stepwise =
          .ok () stepwise := by
  have follows := Follows.start stored
  obtain ⟨stepwise, steps, stepwiseFollows⟩ :=
    follows.forM_runMigrations pure
  obtain ⟨direct, jump, directFollows⟩ :=
    follows.runMigrations
      (pure (releases.getLast nonempty) (List.getLast_mem nonempty))
  rw [Plan.run_upgrade installed chain nonempty] at stepwiseFollows
  refine ⟨stepwise, direct, steps, jump,
    stepwiseFollows.sharedPreferences_eq directFollows, ?_, ?_, ?_⟩
  · rw [stepwiseFollows.executed, directFollows.executed]
  · intro counted
    refine ⟨_, stepwiseFollows.executed, ?_⟩
    exact Plan.executedInOrder_upgrade installed counted
  · exact stepwiseFollows.runMigrations_idle (Plan.upgrade_again _ _)

/-- The migration of the user preferences to version 7. -/
def enableNewAudio : Migration Body where
  toVersion := 7
  body _ := .ok [.put "playback_new_audio" (.boolean true)]

def resetTextSize : Migration Body where
  toVersion := 9
  body _ := .ok [.remove "subtitles_text_size"]

theorem stepwise_upgrade_agrees_user_preferences :
    ∃ stepwise direct,
      ([[enableNewAudio], [resetTextSize, enableNewAudio]].forM
          runMigrations).run (.installedAt 6) = .ok () stepwise ∧
        (runMigrations [resetTextSize, enableNewAudio]).run (.installedAt 6) =
          .ok () direct ∧
        stepwise.sharedPreferences = direct.sharedPreferences ∧
        ∃ order,
          stepwise.executed = [] ++ order ∧
            ExecutedInOrder 6 [resetTextSize, enableNewAudio] order := by
  have chain :
      List.IsChain Extends
        [[enableNewAudio], [resetTextSize, enableNewAudio]] := by
    rw [List.isChain_cons_cons]
    refine ⟨⟨⟨[resetTextSize], List.Perm.swap .., ?_⟩, ?_⟩, .singleton _⟩
    · simp [enableNewAudio, resetTextSize]
    · simp [KeepsTies, atKey, enableNewAudio, resetTextSize]
  have pure :
      ∀ registered ∈ [[enableNewAudio], [resetTextSize, enableNewAudio]],
        ∀ migration ∈ registered, migration.Pure := by
    have first : enableNewAudio.Pure := Migration.pure_of_edits ..
    have second : resetTextSize.Pure := Migration.pure_of_edits ..
    simp [first, second]
  obtain ⟨stepwise, direct, steps, jump, same, _, ordered, _⟩ :=
    stepwise_upgrade_agrees
      [[enableNewAudio], [resetTextSize, enableNewAudio]] (by simp) chain
      pure (.installedAt 6) 6 (Store.atVersion_installedAt 6) (by decide)
  exact ⟨stepwise, direct, steps, jump, same, ordered (Or.inl (by decide))⟩

def theme (toVersion : Int) (name : String) : Migration Body where
  toVersion := toVersion
  body _ := .ok [.put "theme" (.string name)]

def noteVersion : Migration Body where
  toVersion := 2
  body preferences :=
    .ok [.put "noted" ((preferences VERSION.key).getD (.int (-1)))]

/-- What is stored under a key after the starts with the given releases. -/
def valueAfter (version : Int) (releases : List (List (Migration Body)))
    (key : String) : Option Value :=
  (finalState ((releases.forM runMigrations).run
    (.installedAt version))).sharedPreferences key

/-- Two migrations to the same version that change places, a body that reads
the version, and a list of negative versions only. -/
theorem stepwise_upgrade_differs :
    (PermutesWithAdditions [theme 1 "dark", theme 1 "light"]
        [theme 1 "light", theme 1 "dark"] ∧
      valueAfter 0
          [[theme 1 "dark", theme 1 "light"],
            [theme 1 "light", theme 1 "dark"]] "theme" =
        some (.string "light") ∧
      valueAfter 0 [[theme 1 "light", theme 1 "dark"]] "theme" =
        some (.string "dark")) ∧
    (PermutesWithAdditions [theme 1 "dark"]
        [theme 1 "dark", noteVersion] ∧
      valueAfter 0 [[theme 1 "dark"], [theme 1 "dark", noteVersion]]
          "noted" = some (.int 1) ∧
      valueAfter 0 [[theme 1 "dark", noteVersion]] "noted" =
        some (.int 0)) ∧
    -3 < (theme (-2) "dark").toVersion ∧
      valueAfter (-3) [[theme (-2) "dark"]] "theme" = none := by
  refine ⟨⟨⟨[], ?_, ?_⟩, ?_, ?_⟩, ⟨⟨[noteVersion], ?_, ?_⟩, ?_, ?_⟩, ?_, ?_⟩
  · exact List.Perm.swap ..
  · simp
  · decide
  · decide
  · exact List.Perm.refl _
  · simp [theme, noteVersion]
  · decide
  · decide
  · decide
  · decide

end JellyfinTv.Preferences
