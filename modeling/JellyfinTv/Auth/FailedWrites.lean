import JellyfinTv.Auth.Store
import JellyfinTv.Library.Runs

/-!
# Writes of the credential store that fail

Every change of the store is made in memory first and then written.  A write
that fails is reported, but the change stays in memory and goes to the file
with the next write that succeeds.  Memory and file agree after all calls
exactly if each call is written or has nothing to change.
-/

namespace JellyfinTv.Auth

open AuthenticationStore Library

/-- The changes of the store, each with the outcome of its write. -/
inductive WriteCall where
  | putServer (id : UUID) (server : AuthenticationStoreServer)
      (written : Bool)
  | putUser (server userId : UUID) (userInfo : AuthenticationStoreUser)
      (written : Bool)
  | removeServer (server : UUID) (written : Bool)
  | removeUser (server user : UUID) (written : Bool)

namespace WriteCall

def perform : WriteCall → StoreM Bool
  | putServer id server written => Auth.putServer id server written
  | putUser server userId userInfo written =>
      Auth.putUser server userId userInfo written
  | removeServer server written => Auth.removeServer server written
  | removeUser server user written => Auth.removeUser server user written

def written : WriteCall → Bool
  | putServer _ _ written => written
  | putUser _ _ _ written => written
  | removeServer _ written => written
  | removeUser _ _ written => written

/-- The store after the call. -/
def apply (authentication : AuthenticationStore) (call : WriteCall) :
    AuthenticationStore :=
  finalState (call.perform.run authentication)

end WriteCall

namespace AuthenticationStore

/-- The map in memory is the one in the file. -/
def Synced (authentication : AuthenticationStore) : Prop :=
  authentication.store = authentication.file

/-- The call returns, memory and file agree afterwards, and the answer `false`
means that the servers are what they were. -/
def Reliable (authentication : AuthenticationStore) (call : WriteCall) :
    Prop :=
  ∃ answer after,
    call.perform.run authentication = .ok answer after ∧
      after.Synced ∧
      (answer = false → after.store = authentication.store)

/-- The store holds already what the call would put there. -/
def HasNothingToChange (authentication : AuthenticationStore) :
    WriteCall → Prop
  | .putServer id server _ => authentication.getServer id = some server
  | .putUser server userId userInfo _ =>
      ∀ stored, authentication.getServer server = some stored →
        stored.users userId = some userInfo
  | .removeServer server _ => authentication.getServer server = none
  | .removeUser server user _ =>
      ∀ stored, authentication.getServer server = some stored →
        stored.users user = none

def Settles (authentication : AuthenticationStore) (call : WriteCall) :
    Prop :=
  call.written ∨ authentication.HasNothingToChange call

end AuthenticationStore

section Call

variable {authentication : AuthenticationStore}

/-- A change of one server that is written or not. -/
theorem reliable_assign_iff (synced : authentication.Synced) (id : UUID)
    (server : Option AuthenticationStoreServer) (written : Bool) :
    (((authentication.assign id server).saved written).Synced ∧
        (written = false →
          ((authentication.assign id server).saved written).store =
            authentication.store)) ↔
      written ∨ authentication.getServer id = server := by
  cases written with
  | true =>
      simp [Synced, saved]
  | false =>
      have unchanged :
          Function.update authentication.store id server =
              authentication.store ↔
            authentication.getServer id = server := by
        rw [Function.update_eq_self_iff, eq_comm]
        rfl
      simp only [Synced, saved, assign] at synced ⊢
      simp only [Bool.false_eq_true, if_false, ← synced, unchanged,
        forall_const, and_self, false_or]

theorem reliable_of_run {call : WriteCall} {answer : Bool}
    {after : AuthenticationStore}
    (answered : call.perform.run authentication = .ok answer after) :
    authentication.Reliable call ↔
      after.Synced ∧
        (answer = false → after.store = authentication.store) := by
  constructor
  · rintro ⟨_, _, again, reliable⟩
    rw [answered] at again
    cases again
    exact reliable
  · intro reliable
    exact ⟨answer, after, answered, reliable⟩

/-- The users of a server change if the server is stored. -/
theorem reliable_changeUsers_iff (synced : authentication.Synced)
    {call : WriteCall} {server user : UUID}
    {value : Option AuthenticationStoreUser} {written : Bool}
    (performs :
      call.perform =
        changeUsers server
          (fun users => Function.update users user value) written) :
    authentication.Reliable call ↔
      written ∨
        ∀ stored, authentication.getServer server = some stored →
          stored.users user = value := by
  cases found : authentication.getServer server with
  | none =>
      have answered :
          call.perform.run authentication = .ok false authentication := by
        rw [performs, changeUsers]
        simp only [EStateM.run_bind, EStateM.run_get, found]
        rfl
      rw [reliable_of_run answered]
      simp [synced]
  | some stored =>
      have answered :
          call.perform.run authentication =
            .ok written
              ((authentication.assign server
                (some
                  { stored with
                    users := Function.update stored.users user value })).saved
                written) := by
        rw [performs, changeUsers]
        simp only [EStateM.run_bind, EStateM.run_get, found]
        rfl
      have same :
          some stored =
              some
                { stored with
                  users := Function.update stored.users user value } ↔
            stored.users user = value := by
        rw [Option.some.injEq]
        constructor
        · intro equal
          have users := congrArg AuthenticationStoreServer.users equal
          rw [users]
          exact Function.update_self user value stored.users
        · intro equal
          rw [← equal, Function.update_eq_self]
      rw [reliable_of_run answered, reliable_assign_iff synced, found, same]
      simp

theorem reliable_iff (synced : authentication.Synced) (call : WriteCall) :
    authentication.Reliable call ↔ authentication.Settles call := by
  cases call with
  | putServer id server written =>
      have answered :
          (WriteCall.putServer id server written).perform.run
              authentication =
            .ok written
              ((authentication.assign id (some server)).saved written) :=
        rfl
      rw [reliable_of_run answered, reliable_assign_iff synced]
      rfl
  | putUser server userId userInfo written =>
      exact reliable_changeUsers_iff synced rfl
  | removeServer server written =>
      have answered :
          (WriteCall.removeServer server written).perform.run
              authentication =
            .ok written ((authentication.assign server none).saved written) :=
        removeServer_run authentication server written
      rw [reliable_of_run answered, reliable_assign_iff synced]
      rfl
  | removeUser server user written =>
      exact reliable_changeUsers_iff synced rfl

theorem synced_apply (synced : authentication.Synced) {call : WriteCall}
    (settles : authentication.Settles call) :
    (WriteCall.apply authentication call).Synced := by
  obtain ⟨_, after, answered, kept, _⟩ :=
    (reliable_iff synced call).mpr settles
  rw [WriteCall.apply, answered]
  exact kept

/-- From a synced store every call is reliable if and only if each one is
written or has nothing to change. -/
theorem writes_reliable_iff (synced : authentication.Synced)
    (calls : List WriteCall) :
    Admitted WriteCall.apply Reliable authentication calls ↔
      Admitted WriteCall.apply Settles authentication calls := by
  refine admitted_iff_of_invariant ?_ ?_ synced calls
  · intro authentication call synced
    exact reliable_iff synced call
  · intro authentication call synced settles
    exact synced_apply synced settles

end Call

/-- A store without servers. -/
def noServers : AuthenticationStore where
  store := fun _ => none
  file := fun _ => none

def plainServer (name : String) : AuthenticationStoreServer where
  name := name
  address := ""
  version := none
  loginDisclaimer := none
  splashscreenEnabled := false
  setupCompleted := true
  lastUsed := 0
  lastRefreshed := 0
  users := fun _ => none

theorem written_server_is_reliable :
    Admitted WriteCall.apply Reliable noServers
      [.putServer ⟨1⟩ (plainServer "home") true,
        .removeUser ⟨2⟩ ⟨0⟩ false] := by
  have synced : noServers.Synced := rfl
  refine (writes_reliable_iff synced _).mpr
    ⟨Or.inl rfl, Or.inr ?_, trivial⟩
  intro stored found
  cases found

/-- A server that could not be written is in memory, and the next write puts
it into the file. -/
theorem failed_write_is_committed_later :
    (run WriteCall.apply noServers
        [.putServer ⟨1⟩ (plainServer "home") false,
          .putServer ⟨2⟩ (plainServer "work") true]).file ⟨1⟩ =
        some (plainServer "home") ∧
      ¬Admitted WriteCall.apply Reliable noServers
        [.putServer ⟨1⟩ (plainServer "home") false,
          .putServer ⟨2⟩ (plainServer "work") true] := by
  refine ⟨rfl, ?_⟩
  rintro ⟨⟨_, _, ⟨⟩, _, unchanged⟩, _⟩
  have same := congrFun (unchanged rfl) ⟨1⟩
  cases same

end JellyfinTv.Auth
