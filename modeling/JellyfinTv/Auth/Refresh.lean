import Mathlib.Data.Nat.Basic
import JellyfinTv.Library.Tasks
import JellyfinTv.Auth.Servers

/-!
# Refreshes between user operations

A refresh suspends for its requests between reading the record of a server and
storing a copy of it.  Users are part of the record, so the copy brings back
the users of the moment it was read.  The interleavings keep the users as the
user operations alone would leave them exactly when every refresh that stores
its copy finds the users that it has read.
-/

namespace JellyfinTv.Auth

open AuthenticationStore Library

/-- The calls on the shared store. -/
inductive StoreCall where
  | getServer (id : UUID) (eagerUpdate : Bool) (now : Int)
      (answers : RefreshAnswers)
  | updateServer (id : UUID) (force : Bool) (now : Int)
      (answers : RefreshAnswers)
  | user (operation : UserOperation)

/-- What a call returns. -/
inductive StoreReply where
  | server (server : Option Server)
  | updated (success : Bool)
  | performed
  deriving DecidableEq, Repr

/-- The function that waits for a refresh. -/
inductive RefreshCaller where
  | getServer
  | updateServer
  deriving DecidableEq, Repr

/-- A call suspended in the requests of `updateServerInternal`. -/
structure Refresh where
  id : UUID
  server : AuthenticationStoreServer
  now : Int
  answers : RefreshAnswers
  caller : RefreshCaller

abbrev StoreProgress := Progress AuthenticationStore Refresh StoreReply

namespace RefreshCaller

/-- What the caller returns when the refresh has stored a copy or nothing. -/
def reply (id : UUID) (server : AuthenticationStoreServer)
    (copy : Option AuthenticationStoreServer) : RefreshCaller → StoreReply
  | getServer => .server (some ((copy.getD server).asServer id))
  | updateServer => .updated copy.isSome

end RefreshCaller

/-- `updateServerInternal` up to its requests. -/
def startRefresh (id : UUID) (server : AuthenticationStoreServer)
    (forceUpdate : Bool) (now : Int) (answers : RefreshAnswers)
    (caller : RefreshCaller) (authentication : AuthenticationStore) :
    StoreProgress :=
  if RefreshDue server forceUpdate now then
    .suspended authentication
      { id := id
        server := server
        now := now
        answers := answers
        caller := caller }
  else .finished authentication (caller.reply id server none)

def startStoreCall {Version : Type} [LinearOrder Version]
    (sdk : Sdk Version) (call : StoreCall)
    (authentication : AuthenticationStore) : StoreProgress :=
  match call with
  | .getServer id eagerUpdate now answers =>
      match authentication.getServer id with
      | none => .finished authentication (.server none)
      | some server =>
          startRefresh id server (eagerForce sdk eagerUpdate server) now
            answers .getServer authentication
  | .updateServer id force now answers =>
      match authentication.getServer id with
      | none => .finished authentication (.updated false)
      | some server =>
          startRefresh id server force now answers .updateServer
            authentication
  | .user operation =>
      .finished (operation.apply authentication) .performed

/-- The rest of `updateServerInternal` and of its caller. -/
def resumeRefresh (task : Refresh) (authentication : AuthenticationStore) :
    StoreProgress :=
  let copy := refreshedServer task.server task.now task.answers
  .finished (authentication.refresh task.id task.answers.written copy)
    (task.caller.reply task.id task.server copy)

/-- The store as a system of concurrent calls. -/
def storeSystem {Version : Type} [LinearOrder Version]
    (sdk : Sdk Version) :
    System AuthenticationStore StoreCall Refresh StoreReply where
  start := startStoreCall sdk
  resume := resumeRefresh

section Refreshes

variable {Version : Type} [LinearOrder Version] (sdk : Sdk Version)

theorem alone_startRefresh (id : UUID) (server : AuthenticationStoreServer)
    (forceUpdate : Bool) (now : Int) (answers : RefreshAnswers)
    (caller : RefreshCaller) (authentication : AuthenticationStore) :
    (storeSystem sdk).alone 1
        (startRefresh id server forceUpdate now answers caller
          authentication) =
      .finished
        (authentication.refresh id answers.written
          (storedCopy server forceUpdate now answers))
        (caller.reply id server
          (storedCopy server forceUpdate now answers)) := by
  rw [startRefresh, storedCopy]
  split_ifs <;> rfl

theorem alone_getServer (id : UUID) (eagerUpdate : Bool) (now : Int)
    (answers : RefreshAnswers) (authentication : AuthenticationStore) :
    ∃ server final,
      (getServer sdk id eagerUpdate now answers).run authentication =
          .ok server final ∧
        (storeSystem sdk).alone 1
            (startStoreCall sdk (.getServer id eagerUpdate now answers)
              authentication) =
          .finished final (.server server) := by
  rw [getServer_run, startStoreCall, getServerView, getServerCopy]
  cases authentication.getServer id with
  | none =>
      exact ⟨none, authentication, rfl, rfl⟩
  | some server =>
      refine ⟨_, _, rfl, ?_⟩
      simp only [alone_startRefresh, Option.bind_some]
      cases storedCopy server (eagerForce sdk eagerUpdate server) now
          answers <;> rfl

theorem alone_updateServer (id : UUID) (force : Bool) (now : Int)
    (answers : RefreshAnswers) (authentication : AuthenticationStore) :
    ∃ success final,
      (updateServer id force now answers).run authentication =
          .ok success final ∧
        (storeSystem sdk).alone 1
            (startStoreCall sdk (.updateServer id force now answers)
              authentication) =
          .finished final (.updated success) := by
  rw [updateServer_run, startStoreCall]
  cases authentication.getServer id with
  | none =>
      exact ⟨false, authentication, rfl, rfl⟩
  | some server =>
      exact ⟨_, _, rfl, alone_startRefresh sdk id server force now answers
        .updateServer authentication⟩

/-- The step of the user operations alone. -/
def userStep (authentication : AuthenticationStore) :
    Event StoreCall → AuthenticationStore
  | .start (.user operation) => operation.apply authentication
  | _ => authentication

/-- The user operations of a run, in their order. -/
def userOperations (events : List (Event StoreCall)) :
    List UserOperation :=
  events.filterMap fun
    | .start (.user operation) => some operation
    | _ => none

theorem run_userStep (authentication : AuthenticationStore)
    (events : List (Event StoreCall)) :
    run userStep authentication events =
      run UserOperation.apply authentication (userOperations events) := by
  induction events generalizing authentication with
  | nil =>
      rfl
  | cons event rest inductionHypothesis =>
      rw [run_cons, inductionHypothesis]
      rcases event with call | position
      · cases call <;> rfl
      · rfl

/-- The refresh fails, or the server is stored with the users it has read. -/
def UsersUnchanged (authentication : AuthenticationStore)
    (task : Refresh) : Prop :=
  task.answers.Succeeds →
    authentication.getUsers task.id = some task.server.users

theorem state_startRefresh (id : UUID)
    (server : AuthenticationStoreServer) (forceUpdate : Bool) (now : Int)
    (answers : RefreshAnswers) (caller : RefreshCaller)
    (authentication : AuthenticationStore) :
    (startRefresh id server forceUpdate now answers caller
        authentication).state =
      authentication := by
  rw [startRefresh]
  split <;> rfl

/-- Starting a call changes the users only if it is a user operation. -/
theorem state_startStoreCall (call : StoreCall)
    (authentication : AuthenticationStore) :
    (startStoreCall sdk call authentication).state =
      userStep authentication (.start call) := by
  cases call with
  | getServer id eagerUpdate now answers =>
      rw [startStoreCall]
      split
      · rfl
      · exact state_startRefresh id _ _ now answers .getServer
          authentication
  | updateServer id force now answers =>
      rw [startStoreCall]
      split
      · rfl
      · exact state_startRefresh id _ force now answers .updateServer
          authentication
  | user operation =>
      rfl

/-- A refresh leaves the users it has read. -/
theorem getUsers_resumeRefresh (task : Refresh)
    (authentication : AuthenticationStore) :
    (resumeRefresh task authentication).state.getUsers =
      if task.answers.Succeeds then
        Function.update authentication.getUsers task.id
          (some task.server.users)
      else authentication.getUsers := by
  have succeeds :=
    refreshedServer_isSome_iff task.server task.now task.answers
  simp only [resumeRefresh, Progress.state]
  cases refreshed : refreshedServer task.server task.now task.answers with
  | none =>
      rw [refreshed] at succeeds
      rw [if_neg fun answered => by simpa using succeeds.mpr answered]
      rfl
  | some newServer =>
      rw [refreshed] at succeeds
      rw [if_pos (succeeds.mp rfl), ← refreshedServer_users refreshed]
      exact getUsers_assign authentication task.id (some newServer)

/-- A resumed refresh keeps the users exactly when it finds those that it has
read. -/
theorem getUsers_resumeRefresh_iff (task : Refresh)
    (authentication : AuthenticationStore) :
    (resumeRefresh task authentication).state.getUsers =
        authentication.getUsers ↔
      UsersUnchanged authentication task := by
  rw [getUsers_resumeRefresh]
  constructor
  · intro kept succeeds
    rw [if_pos succeeds] at kept
    rw [← kept, Function.update_self]
  · intro unchanged
    by_cases succeeds : task.answers.Succeeds
    · rw [if_pos succeeds, ← unchanged succeeds, Function.update_eq_self]
    · rw [if_neg succeeds]

/-- The user operations alone act on the users alone. -/
theorem getUsers_userStep_congr {first second : AuthenticationStore}
    (same : first.getUsers = second.getUsers) (event : Event StoreCall) :
    (userStep first event).getUsers = (userStep second event).getUsers := by
  rcases event with call | position
  · cases call with
    | user operation =>
        rw [userStep, userStep, getUsers_apply, getUsers_apply, same]
    | getServer | updateServer =>
        exact same
  · exact same

theorem getUsers_step {world : World AuthenticationStore Refresh}
    {event : Event StoreCall}
    (unchanged : System.Resumes UsersUnchanged world event) :
    ((storeSystem sdk).step world event).shared.getUsers =
      (userStep world.shared event).getUsers := by
  rcases event with call | position
  · exact congrArg getUsers (state_startStoreCall sdk call world.shared)
  · simp only [System.step, userStep]
    split
    · rfl
    · rename_i task found
      exact (getUsers_resumeRefresh_iff task world.shared).mpr
        (unchanged task found)

/-- The simulation: the world has the users that the user operations alone have
left. -/
def SameUsers (world : World AuthenticationStore Refresh)
    (alone : AuthenticationStore) : Prop :=
  world.shared.getUsers = alone.getUsers

/-- At every moment of an interleaving the users of each server are those of
the user operations alone, applied in their order, exactly when every refresh
that stores its copy finds the server stored with the users it has read. -/
theorem users_follow_operations_iff
    (authentication : AuthenticationStore)
    (events : List (Event StoreCall)) :
    (∀ early, early <+: events →
      (run (storeSystem sdk).step ⟨authentication, []⟩
          early).shared.getUsers =
        (run UserOperation.apply authentication
          (userOperations early)).getUsers) ↔
      Admitted (storeSystem sdk).step (System.Resumes UsersUnchanged)
        ⟨authentication, []⟩ events := by
  simp only [← run_userStep]
  constructor
  · intro follows
    apply admitted_of_prefixes
    intro early event isEarly
    rcases event with call | position
    · trivial
    · intro task found
      have before :=
        follows early ((List.prefix_append early _).trans isEarly)
      have after := follows _ isEarly
      rw [run_append, run_append] at after
      simp only [run_cons, run_nil, System.step, userStep,
        Option.mem_def.mp found] at after
      exact (getUsers_resumeRefresh_iff task _).mp
        (after.trans before.symm)
  · intro admitted early isEarly
    have preserved :
        ∀ world alone event, SameUsers world alone →
          System.Resumes UsersUnchanged world event →
            SameUsers ((storeSystem sdk).step world event)
              (userStep alone event) := by
      intro world alone event same unchanged
      rw [SameUsers, getUsers_step sdk unchanged]
      exact getUsers_userStep_congr same event
    exact run_simulation preserved rfl (admitted.earlier isEarly)

end Refreshes

/-- A logout during a refresh is lost: the copy that the refresh stores brings
the access token back. -/
theorem refresh_restores_logged_out_token :
    let sdk : Sdk Nat :=
      { fromString := fun text => if text = "10.10.0" then some 10 else none
        minimumServerVersion := 10 }
    let user : AuthenticationStoreUser :=
      { name := "user"
        lastUsed := 0
        imageTag := none
        accessToken := some "token" }
    let server : AuthenticationStoreServer :=
      { name := "server"
        address := "http://server:8096"
        version := some "10.10.0"
        loginDisclaimer := none
        splashscreenEnabled := false
        setupCompleted := true
        lastUsed := 0
        lastRefreshed := 0
        users := Function.update (fun _ => none) ⟨2⟩ (some user) }
    let servers : Servers := Function.update (fun _ => none) ⟨1⟩ (some server)
    let answers : RefreshAnswers :=
      { branding := .invalidContent
        systemInfo := some ⟨none, none, none⟩
        written := true }
    let events : List (Event StoreCall) :=
      [.start (.getServer ⟨1⟩ false 600000 answers),
        .start (.user (.logout ⟨1⟩ ⟨2⟩ true)), .resume 0]
    let final :=
      (run (storeSystem sdk).step ⟨⟨servers, servers⟩, []⟩ events).shared
    let alone :=
      run UserOperation.apply ⟨servers, servers⟩ (userOperations events)
    final.getUser ⟨1⟩ ⟨2⟩ = some user ∧
      alone.getUser ⟨1⟩ ⟨2⟩ = some { user with accessToken := none } ∧
      final.getUsers ≠ alone.getUsers := by
  intro sdk user server servers answers events final alone
  have restored : final.getUser ⟨1⟩ ⟨2⟩ = some user := by decide
  have cleared :
      alone.getUser ⟨1⟩ ⟨2⟩ = some { user with accessToken := none } := by
    decide
  refine ⟨restored, cleared, ?_⟩
  intro same
  rw [getUser, same, ← getUser, cleared] at restored
  simp [user] at restored

end JellyfinTv.Auth
