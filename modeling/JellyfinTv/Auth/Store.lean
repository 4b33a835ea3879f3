import Mathlib.Logic.Function.Basic
import JellyfinTv.Library.Effect

/-!
# The credential store

`AuthenticationStore` keeps one record for each server, with the server's
metadata and its users together, and writes the whole map to a file after each
change.  The operations of the repositories on users are given with it, in the
order of the source.  The outcome of a file write is an argument: a failed
write leaves the file as it was and the map changed.
-/

namespace JellyfinTv.Auth

structure UUID where
  bits : BitVec 128
  deriving DecidableEq, Repr

structure AuthenticationStoreUser where
  name : String
  lastUsed : Int
  imageTag : Option String
  accessToken : Option String
  deriving DecidableEq, Repr

abbrev Users := UUID → Option AuthenticationStoreUser

structure AuthenticationStoreServer where
  name : String
  address : String
  version : Option String
  loginDisclaimer : Option String
  splashscreenEnabled : Bool
  setupCompleted : Bool
  lastUsed : Int
  lastRefreshed : Int
  users : Users

abbrev Servers := UUID → Option AuthenticationStoreServer

/-- The map in memory and the map last written to the file. -/
structure AuthenticationStore where
  store : Servers
  file : Servers

/-- The exceptions of the repositories: a failed request, and `!!` on a user
without a name. -/
inductive AuthException where
  | apiClientException
  | nullPointerException
  deriving DecidableEq, Repr

abbrev StoreM := EStateM AuthException AuthenticationStore

/-- The part of the SDK's `UserDto` that is stored. -/
structure UserDto where
  id : UUID
  name : Option String
  primaryImageTag : Option String
  deriving DecidableEq, Repr

namespace AuthenticationStore

def getServer (authentication : AuthenticationStore) (serverId : UUID) :
    Option AuthenticationStoreServer :=
  authentication.store serverId

def getUsers (authentication : AuthenticationStore) (server : UUID) :
    Option Users :=
  (authentication.getServer server).map AuthenticationStoreServer.users

def getUser (authentication : AuthenticationStore) (serverId userId : UUID) :
    Option AuthenticationStoreUser :=
  (authentication.getUsers serverId).bind fun users => users userId

/-- `store[id] = server`, and `store -= id` for `none`. -/
def assign (authentication : AuthenticationStore) (id : UUID)
    (server : Option AuthenticationStoreServer) : AuthenticationStore :=
  { authentication with
    store := Function.update authentication.store id server }

/-- The file after a write with the given outcome. -/
def saved (authentication : AuthenticationStore) (written : Bool) :
    AuthenticationStore :=
  { authentication with
    file := if written then authentication.store else authentication.file }

end AuthenticationStore

open AuthenticationStore

def save (written : Bool) : StoreM Bool := do
  modify fun authentication => authentication.saved written
  return written

def putServer (id : UUID) (server : AuthenticationStoreServer)
    (written : Bool) : StoreM Bool := do
  modify fun authentication => authentication.assign id (some server)
  save written

/-- Replace the users of a stored server and save. -/
def changeUsers (server : UUID) (change : Users → Users)
    (written : Bool) : StoreM Bool := do
  match (← get).getServer server with
  | none => return false
  | some serverInfo =>
      modify fun authentication =>
        authentication.assign server
          (some { serverInfo with users := change serverInfo.users })
      save written

def putUser (server userId : UUID) (userInfo : AuthenticationStoreUser)
    (written : Bool) : StoreM Bool :=
  changeUsers server
    (fun users => Function.update users userId (some userInfo)) written

def removeServer (server : UUID) (written : Bool) : StoreM Bool := do
  modify fun authentication => authentication.assign server none
  save written

def removeUser (server user : UUID) (written : Bool) : StoreM Bool :=
  changeUsers server (fun users => Function.update users user none) written

/-- The record that `authenticateFinish` stores for a user. -/
def signedIn (currentUser : Option AuthenticationStoreUser)
    (name : String) (imageTag : Option String) (accessToken : String)
    (now : Int) : AuthenticationStoreUser :=
  match currentUser with
  | some currentUser =>
      { currentUser with
        name := name
        lastUsed := now
        imageTag := imageTag
        accessToken := some accessToken }
  | none =>
      { name := name
        lastUsed := now
        imageTag := imageTag
        accessToken := some accessToken }

def authenticateFinish (server : UUID) (userInfo : UserDto)
    (accessToken : String) (now : Int) (written : Bool) : StoreM Unit := do
  let currentUser := (← get).getUser server userInfo.id
  match userInfo.name with
  | none => throw .nullPointerException
  | some name =>
      discard
        (putUser server userInfo.id
          (signedIn currentUser name userInfo.primaryImageTag accessToken
            now)
          written)

/-- Store the time of the last use of a server. -/
def updateServerLastUsed (server : UUID) (now : Int) (written : Bool) :
    StoreM Unit := do
  match (← get).getServer server with
  | none => return ()
  | some storedServer =>
      discard
        (putServer server { storedServer with lastUsed := now } written)

/-- Store the time of the last use of a user. -/
def updateUserLastUsed (server user : UUID) (now : Int) (written : Bool) :
    StoreM Unit := do
  match (← get).getUser server user with
  | none => return ()
  | some storedUser =>
      discard
        (putUser server user { storedUser with lastUsed := now } written)

/-- `setActiveSession` once `switchCurrentSession` has returned. -/
def setActiveSession (server user : UUID) (authenticated : Bool)
    (serverTime userTime : Int) (serverWritten userWritten : Bool) :
    StoreM Bool := do
  if authenticated then
    updateServerLastUsed server serverTime serverWritten
    updateUserLastUsed server user userTime userWritten
  return authenticated

def logout (serverId userId : UUID) (written : Bool) : StoreM Bool := do
  match (← get).getUser serverId userId with
  | none => return false
  | some authStoreUser =>
      putUser serverId userId { authStoreUser with accessToken := none }
        written

/-- The operations on stored users. -/
inductive UserOperation where
  | putUser (server user : UUID) (userInfo : AuthenticationStoreUser)
      (written : Bool)
  | removeUser (server user : UUID) (written : Bool)
  | removeServer (server : UUID) (written : Bool)
  | logout (server user : UUID) (written : Bool)
  | authenticateFinish (server : UUID) (userInfo : UserDto)
      (accessToken : String) (now : Int) (written : Bool)
  | setActiveSession (server user : UUID) (authenticated : Bool)
      (serverTime userTime : Int) (serverWritten userWritten : Bool)

namespace UserOperation

def perform : UserOperation → StoreM Unit
  | putUser server user userInfo written =>
      discard (Auth.putUser server user userInfo written)
  | removeUser server user written =>
      discard (Auth.removeUser server user written)
  | removeServer server written =>
      discard (Auth.removeServer server written)
  | logout server user written =>
      discard (Auth.logout server user written)
  | authenticateFinish server userInfo accessToken now written =>
      Auth.authenticateFinish server userInfo accessToken now written
  | setActiveSession server user authenticated serverTime userTime
      serverWritten userWritten =>
      discard
        (Auth.setActiveSession server user authenticated serverTime userTime
          serverWritten userWritten)

/-- The store after the operation. -/
def apply (authentication : AuthenticationStore)
    (operation : UserOperation) : AuthenticationStore :=
  Library.finalState (operation.perform.run authentication)

end UserOperation

/-- What the store is for: the users of each stored server. -/
abbrev Accounts := UUID → Option Users

namespace Accounts

/-- Change the users of one server, if it is stored. -/
def change (accounts : Accounts) (server : UUID) (update : Users → Users) :
    Accounts :=
  Function.update accounts server ((accounts server).map update)

/-- The operations on stored users in terms of the accounts alone. -/
def perform (accounts : Accounts) : UserOperation → Accounts
  | .putUser server user userInfo _ =>
      accounts.change server fun users =>
        Function.update users user (some userInfo)
  | .removeUser server user _ =>
      accounts.change server fun users => Function.update users user none
  | .removeServer server _ => Function.update accounts server none
  | .logout server user _ =>
      accounts.change server fun users =>
        Function.update users user
          ((users user).map fun stored => { stored with accessToken := none })
  | .authenticateFinish server userInfo accessToken now _ =>
      match userInfo.name with
      | none => accounts
      | some name =>
          accounts.change server fun users =>
            Function.update users userInfo.id
              (some
                (signedIn (users userInfo.id) name userInfo.primaryImageTag
                  accessToken now))
  | .setActiveSession server user authenticated _ userTime _ _ =>
      if authenticated then
        accounts.change server fun users =>
          Function.update users user
            ((users user).map fun stored =>
              { stored with lastUsed := userTime })
      else accounts

theorem change_of_absent {accounts : Accounts} {server : UUID}
    (absent : accounts server = none) (update : Users → Users) :
    accounts.change server update = accounts := by
  rw [change, absent, Option.map_none, ← absent, Function.update_eq_self]

theorem change_of_stored {accounts : Accounts} {server : UUID}
    {users : Users} (stored : accounts server = some users)
    (update : Users → Users) :
    accounts.change server update =
      Function.update accounts server (some (update users)) := by
  rw [change, stored, Option.map_some]

end Accounts

section Effects

variable (authentication : AuthenticationStore)

theorem getUsers_assign (id : UUID)
    (server : Option AuthenticationStoreServer) :
    (authentication.assign id server).getUsers =
      Function.update authentication.getUsers id
        (server.map AuthenticationStoreServer.users) := by
  funext other
  by_cases same : other = id
  · subst same
    simp [getUsers, getServer, assign]
  · simp [getUsers, getServer, assign, same]

theorem removeServer_run (server : UUID) (written : Bool) :
    (removeServer server written).run authentication =
      .ok written ((authentication.assign server none).saved written) :=
  rfl

/-- What a change of the users of a server leaves behind. -/
theorem getUsers_changeUsers (server : UUID) (change : Users → Users)
    (written : Bool) :
    (Library.finalState
        ((changeUsers server change written).run authentication)).getUsers =
      Accounts.change authentication.getUsers server change := by
  simp only [changeUsers, EStateM.run_bind, EStateM.run_get]
  cases stored : authentication.getServer server with
  | none =>
      have absent : authentication.getUsers server = none := by
        rw [getUsers, stored, Option.map_none]
      exact (Accounts.change_of_absent absent change).symm
  | some serverInfo =>
      have present :
          authentication.getUsers server = some serverInfo.users := by
        rw [getUsers, stored, Option.map_some]
      rw [Accounts.change_of_stored present]
      exact getUsers_assign authentication server _

/-- Updating a user that is not stored changes nothing. -/
theorem change_of_getUser_none {server user : UUID}
    (missing : authentication.getUser server user = none)
    (update : AuthenticationStoreUser → AuthenticationStoreUser) :
    Accounts.change authentication.getUsers server
        (fun users => Function.update users user ((users user).map update)) =
      authentication.getUsers := by
  cases stored : authentication.getUsers server with
  | none =>
      exact Accounts.change_of_absent stored _
  | some users =>
      have absent : users user = none := by
        simpa [getUser, stored] using missing
      rw [Accounts.change_of_stored stored, absent, Option.map_none,
        ← absent, Function.update_eq_self, ← stored,
        Function.update_eq_self]

/-- Storing the updated record of a user updates that user in place. -/
theorem getUsers_putUser_of_stored {server user : UUID}
    {stored : AuthenticationStoreUser}
    (found : authentication.getUser server user = some stored)
    (update : AuthenticationStoreUser → AuthenticationStoreUser)
    (written : Bool) :
    (Library.finalState
        ((putUser server user (update stored) written).run
          authentication)).getUsers =
      Accounts.change authentication.getUsers server fun users =>
        Function.update users user ((users user).map update) := by
  rw [putUser, getUsers_changeUsers]
  cases present : authentication.getUsers server with
  | none =>
      simp [getUser, present] at found
  | some users =>
      have value : users user = some stored := by
        simpa [getUser, present] using found
      rw [Accounts.change_of_stored present,
        Accounts.change_of_stored present, value, Option.map_some]

theorem getUsers_logout (server user : UUID) (written : Bool) :
    (Library.finalState
        ((logout server user written).run authentication)).getUsers =
      Accounts.change authentication.getUsers server fun users =>
        Function.update users user
          ((users user).map fun stored =>
            { stored with accessToken := none }) := by
  simp only [logout, EStateM.run_bind, EStateM.run_get]
  cases found : authentication.getUser server user with
  | none =>
      exact (change_of_getUser_none authentication found _).symm
  | some stored =>
      exact
        getUsers_putUser_of_stored authentication found
          (fun stored => { stored with accessToken := none }) written

theorem getUsers_updateUserLastUsed (server user : UUID) (now : Int)
    (written : Bool) :
    (Library.finalState
        ((updateUserLastUsed server user now written).run
          authentication)).getUsers =
      Accounts.change authentication.getUsers server fun users =>
        Function.update users user
          ((users user).map fun stored => { stored with lastUsed := now }) := by
  simp only [updateUserLastUsed, EStateM.run_bind, EStateM.run_get]
  cases found : authentication.getUser server user with
  | none =>
      exact (change_of_getUser_none authentication found _).symm
  | some stored =>
      simp only [Library.finalState_discard]
      exact
        getUsers_putUser_of_stored authentication found
          (fun stored => { stored with lastUsed := now }) written

/-- Writing back the server that is stored, with other metadata, keeps its
users. -/
theorem getUsers_assign_of_users {id : UUID}
    {server : AuthenticationStoreServer}
    (unchanged : authentication.getUsers id = some server.users) :
    (authentication.assign id (some server)).getUsers =
      authentication.getUsers := by
  rw [getUsers_assign, Option.map_some, ← unchanged,
    Function.update_eq_self]

theorem updateServerLastUsed_run (server : UUID) (now : Int)
    (written : Bool) :
    ∃ touched,
      (updateServerLastUsed server now written).run authentication =
          .ok () touched ∧
        touched.getUsers = authentication.getUsers := by
  simp only [updateServerLastUsed, EStateM.run_bind, EStateM.run_get]
  cases stored : authentication.getServer server with
  | none =>
      exact ⟨authentication, rfl, rfl⟩
  | some storedServer =>
      refine ⟨_, rfl, ?_⟩
      apply getUsers_assign_of_users
      rw [getUsers, stored, Option.map_some]

theorem getUsers_setActiveSession (server user : UUID)
    (authenticated : Bool) (serverTime userTime : Int)
    (serverWritten userWritten : Bool) :
    (Library.finalState
        ((setActiveSession server user authenticated serverTime userTime
          serverWritten userWritten).run authentication)).getUsers =
      Accounts.perform authentication.getUsers
        (.setActiveSession server user authenticated serverTime userTime
          serverWritten userWritten) := by
  cases authenticated with
  | false =>
      rfl
  | true =>
      obtain ⟨touched, ran, kept⟩ :=
        updateServerLastUsed_run authentication server serverTime
          serverWritten
      have updated :=
        getUsers_updateUserLastUsed touched server user userTime
          userWritten
      rw [kept] at updated
      simp only [setActiveSession, if_true, EStateM.run_bind, ran]
      rw [Accounts.perform, if_pos rfl, ← updated]
      cases (updateUserLastUsed server user userTime userWritten).run
          touched <;> rfl

theorem getUsers_authenticateFinish (server : UUID) (userInfo : UserDto)
    (accessToken : String) (now : Int) (written : Bool) :
    (Library.finalState
        ((authenticateFinish server userInfo accessToken now written).run
          authentication)).getUsers =
      Accounts.perform authentication.getUsers
        (.authenticateFinish server userInfo accessToken now written) := by
  simp only [authenticateFinish, EStateM.run_bind, EStateM.run_get,
    Accounts.perform]
  cases userInfo.name with
  | none =>
      rfl
  | some name =>
      simp only [Library.finalState_discard]
      rw [putUser, getUsers_changeUsers]
      cases present : authentication.getUsers server with
      | none =>
          rw [Accounts.change_of_absent present,
            Accounts.change_of_absent present]
      | some users =>
          rw [Accounts.change_of_stored present,
            Accounts.change_of_stored present, getUser, present,
            Option.bind_some]

end Effects

/-- The operations of the store act on the accounts alone: neither the other
fields of a server nor the outcome of a file write matters to them. -/
theorem getUsers_apply (authentication : AuthenticationStore)
    (operation : UserOperation) :
    (operation.apply authentication).getUsers =
      Accounts.perform authentication.getUsers operation := by
  cases operation with
  | putUser server user userInfo written =>
      simp only [UserOperation.apply, UserOperation.perform,
        Library.finalState_discard]
      exact getUsers_changeUsers authentication server _ written
  | removeUser server user written =>
      simp only [UserOperation.apply, UserOperation.perform,
        Library.finalState_discard]
      exact getUsers_changeUsers authentication server _ written
  | removeServer server written =>
      simp only [UserOperation.apply, UserOperation.perform,
        Library.finalState_discard, removeServer_run, Library.finalState_ok]
      exact getUsers_assign authentication server none
  | logout server user written =>
      simp only [UserOperation.apply, UserOperation.perform,
        Library.finalState_discard]
      exact getUsers_logout authentication server user written
  | authenticateFinish server userInfo accessToken now written =>
      exact
        getUsers_authenticateFinish authentication server userInfo
          accessToken now written
  | setActiveSession server user authenticated serverTime userTime
      serverWritten userWritten =>
      simp only [UserOperation.apply, UserOperation.perform,
        Library.finalState_discard]
      exact
        getUsers_setActiveSession authentication server user authenticated
          serverTime userTime serverWritten userWritten

end JellyfinTv.Auth
