import Mathlib.Algebra.Group.Nat.Defs
import Mathlib.Order.Lattice
import JellyfinTv.Auth.Store

/-!
# The server repository

`getServer` and `updateServer` refresh the stored metadata of a server at most
every ten minutes: they read its record, ask the server for its branding and
system information, and store a copy of the record they have read.  The
answers of the server and the outcome of the file write are arguments.
-/

namespace JellyfinTv.Auth

open AuthenticationStore

/-- What the repositories use of the SDK's `ServerVersion`. -/
structure Sdk (Version : Type) where
  fromString : String → Option Version
  minimumServerVersion : Version

structure Server where
  id : UUID
  name : String
  address : String
  version : Option String
  loginDisclaimer : Option String
  splashscreenEnabled : Bool
  setupCompleted : Bool
  dateLastAccessed : Int
  deriving DecidableEq, Repr

namespace Server

variable {Version : Type} [LinearOrder Version]

def serverVersion (sdk : Sdk Version) (server : Server) : Option Version :=
  server.version.bind sdk.fromString

def versionSupported (sdk : Sdk Version) (server : Server) : Bool :=
  (server.serverVersion sdk).any fun version =>
    sdk.minimumServerVersion ≤ version

end Server

def AuthenticationStoreServer.asServer (id : UUID)
    (server : AuthenticationStoreServer) : Server where
  id := id
  name := server.name
  address := server.address
  version := server.version
  loginDisclaimer := server.loginDisclaimer
  splashscreenEnabled := server.splashscreenEnabled
  setupCompleted := server.setupCompleted
  dateLastAccessed := server.lastUsed

structure BrandingOptions where
  loginDisclaimer : Option String
  splashscreenEnabled : Bool
  deriving DecidableEq, Repr

/-- The answer to the request for the branding options. -/
inductive BrandingAnswer where
  | content (options : BrandingOptions)
  | invalidContent
  | failed
  deriving DecidableEq, Repr

structure PublicSystemInfo where
  serverName : Option String
  version : Option String
  startupWizardCompleted : Option Bool
  deriving DecidableEq, Repr

/-- What a refresh is answered by the server, and whether its file write
succeeds.  No system information stands for a failed request. -/
structure RefreshAnswers where
  branding : BrandingAnswer
  systemInfo : Option PublicSystemInfo
  written : Bool
  deriving DecidableEq, Repr

/-- Both requests of the refresh succeed. -/
def RefreshAnswers.Succeeds (answers : RefreshAnswers) : Prop :=
  answers.branding ≠ .failed ∧ answers.systemInfo ≠ none

instance (answers : RefreshAnswers) : Decidable answers.Succeeds :=
  inferInstanceAs (Decidable (_ ∧ _))

/-- `getBrandingOptionsOrDefault`, or `none` if it throws. -/
def getBrandingOptionsOrDefault : BrandingAnswer → Option BrandingOptions
  | .content options => some options
  | .invalidContent =>
      some { loginDisclaimer := none, splashscreenEnabled := false }
  | .failed => none

/-- The copy of the record that a refresh stores, or `none` if it throws. -/
def refreshedServer (server : AuthenticationStoreServer) (now : Int)
    (answers : RefreshAnswers) : Option AuthenticationStoreServer := do
  let branding ← getBrandingOptionsOrDefault answers.branding
  let systemInfo ← answers.systemInfo
  some
    { server with
      name := systemInfo.serverName.getD server.name
      version := systemInfo.version <|> server.version
      loginDisclaimer := branding.loginDisclaimer <|> server.loginDisclaimer
      splashscreenEnabled := branding.splashscreenEnabled
      setupCompleted :=
        systemInfo.startupWizardCompleted.getD server.setupCompleted
      lastRefreshed := now }

/-- The test of `updateServerInternal`, in the arithmetic of `Long`. -/
def RefreshDue (server : AuthenticationStoreServer) (forceUpdate : Bool)
    (now : Int) : Prop :=
  ¬ (Int.bmod (now - server.lastRefreshed) (2 ^ 64) < 600000 ∧
    server.version ≠ none ∧ forceUpdate = false)

instance (server : AuthenticationStoreServer) (forceUpdate : Bool)
    (now : Int) : Decidable (RefreshDue server forceUpdate now) :=
  inferInstanceAs (Decidable (¬ (_ ∧ _)))

def updateServerInternal (id : UUID) (server : AuthenticationStoreServer)
    (forceUpdate : Bool) (now : Int) (answers : RefreshAnswers) :
    StoreM (Option AuthenticationStoreServer) := do
  if RefreshDue server forceUpdate now then
    match refreshedServer server now answers with
    | none => throw .apiClientException
    | some newServer =>
        discard (putServer id newServer answers.written)
        return some newServer
  else return none

/-- Catch the exceptions of failed requests. -/
def orOnApiClientException {α : Type} (action : StoreM α) (fallback : α) :
    StoreM α :=
  tryCatch action fun
    | .apiClientException => return fallback
    | exception => throw exception

section Repository

variable {Version : Type} [LinearOrder Version]

/-- An eager update is forced for a stored version that is too old. -/
def eagerForce (sdk : Sdk Version) (eagerUpdate : Bool)
    (server : AuthenticationStoreServer) : Bool :=
  eagerUpdate &&
    (server.version.bind sdk.fromString).any fun version =>
      version < sdk.minimumServerVersion

def getServer (sdk : Sdk Version) (id : UUID) (eagerUpdate : Bool)
    (now : Int) (answers : RefreshAnswers) : StoreM (Option Server) := do
  match (← get).getServer id with
  | none => return none
  | some server =>
      let updatedServer ←
        orOnApiClientException
          (updateServerInternal id server
            (eagerForce sdk eagerUpdate server) now answers)
          none
      return some ((updatedServer.getD server).asServer id)

end Repository

def updateServer (server : UUID) (force : Bool) (now : Int)
    (answers : RefreshAnswers) : StoreM Bool := do
  match (← get).getServer server with
  | none => return false
  | some serverInfo =>
      let updatedServer ←
        orOnApiClientException
          (updateServerInternal server serverInfo force now answers) none
      return updatedServer.isSome

theorem refreshedServer_users {server newServer : AuthenticationStoreServer}
    {now : Int} {answers : RefreshAnswers}
    (refreshed : refreshedServer server now answers = some newServer) :
    newServer.users = server.users := by
  simp only [refreshedServer, Option.bind_eq_bind, Option.bind_eq_some_iff,
    Option.some.injEq] at refreshed
  obtain ⟨_, _, _, _, rfl⟩ := refreshed
  rfl

theorem refreshedServer_address
    {server newServer : AuthenticationStoreServer} {now : Int}
    {answers : RefreshAnswers}
    (refreshed : refreshedServer server now answers = some newServer) :
    newServer.address = server.address := by
  simp only [refreshedServer, Option.bind_eq_bind, Option.bind_eq_some_iff,
    Option.some.injEq] at refreshed
  obtain ⟨_, _, _, _, rfl⟩ := refreshed
  rfl

theorem refreshedServer_isSome_iff (server : AuthenticationStoreServer)
    (now : Int) (answers : RefreshAnswers) :
    (refreshedServer server now answers).isSome ↔ answers.Succeeds := by
  unfold refreshedServer RefreshAnswers.Succeeds
  cases answers.systemInfo with
  | none =>
      cases answers.branding <;> simp [getBrandingOptionsOrDefault]
  | some systemInfo =>
      cases answers.branding <;> simp [getBrandingOptionsOrDefault]

/-- The time of the last refresh and the answers decide whether a copy of the
record is stored. -/
theorem updateServerInternal_run (id : UUID)
    (server : AuthenticationStoreServer) (forceUpdate : Bool) (now : Int)
    (answers : RefreshAnswers) (authentication : AuthenticationStore) :
    (updateServerInternal id server forceUpdate now answers).run
        authentication =
      if RefreshDue server forceUpdate now then
        match refreshedServer server now answers with
        | none => .error .apiClientException authentication
        | some newServer =>
            .ok (some newServer)
              ((authentication.assign id (some newServer)).saved
                answers.written)
      else .ok none authentication := by
  unfold updateServerInternal
  split
  · cases refreshedServer server now answers <;> rfl
  · rfl

/-- The record that a caught `updateServerInternal` has stored, if any. -/
def storedCopy (server : AuthenticationStoreServer) (forceUpdate : Bool)
    (now : Int) (answers : RefreshAnswers) :
    Option AuthenticationStoreServer :=
  if RefreshDue server forceUpdate now then
    refreshedServer server now answers
  else none

/-- The store after a refresh. -/
def AuthenticationStore.refresh (authentication : AuthenticationStore)
    (id : UUID) (written : Bool) :
    Option AuthenticationStoreServer → AuthenticationStore
  | none => authentication
  | some newServer =>
      (authentication.assign id (some newServer)).saved written

theorem orOnApiClientException_run {α : Type} (action : StoreM α)
    (fallback : α) (authentication : AuthenticationStore) :
    (orOnApiClientException action fallback).run authentication =
      match action.run authentication with
      | .ok value final => .ok value final
      | .error .apiClientException final => .ok fallback final
      | .error exception final => .error exception final := by
  simp only [orOnApiClientException, tryCatch, tryCatchThe,
    MonadExceptOf.tryCatch, EStateM.run]
  unfold EStateM.tryCatch
  cases action authentication with
  | ok value final =>
      rfl
  | error exception final =>
      cases exception <;> rfl

/-- A caught refresh stores its copy, if it has one. -/
theorem updateServerInternal_caught (id : UUID)
    (server : AuthenticationStoreServer) (forceUpdate : Bool) (now : Int)
    (answers : RefreshAnswers) (authentication : AuthenticationStore) :
    (orOnApiClientException
        (updateServerInternal id server forceUpdate now answers)
        none).run authentication =
      .ok (storedCopy server forceUpdate now answers)
        (authentication.refresh id answers.written
          (storedCopy server forceUpdate now answers)) := by
  rw [orOnApiClientException_run, updateServerInternal_run, storedCopy]
  split_ifs
  · cases refreshedServer server now answers <;> rfl
  · rfl

section Views

variable {Version : Type} [LinearOrder Version] (sdk : Sdk Version)
  (id : UUID) (eagerUpdate : Bool) (now : Int) (answers : RefreshAnswers)
  (authentication : AuthenticationStore)

/-- The copy that `getServer` stores. -/
def getServerCopy : Option AuthenticationStoreServer :=
  (authentication.getServer id).bind fun server =>
    storedCopy server (eagerForce sdk eagerUpdate server) now answers

/-- The server that `getServer` returns. -/
def getServerView : Option Server :=
  (getServerCopy sdk id eagerUpdate now answers authentication
    <|> authentication.getServer id).map
      (AuthenticationStoreServer.asServer id)

theorem getServer_run :
    (getServer sdk id eagerUpdate now answers).run authentication =
      .ok (getServerView sdk id eagerUpdate now answers authentication)
        (authentication.refresh id answers.written
          (getServerCopy sdk id eagerUpdate now answers authentication)) := by
  simp only [getServer, EStateM.run_bind, EStateM.run_get, getServerView,
    getServerCopy]
  cases authentication.getServer id with
  | none =>
      rfl
  | some server =>
      simp only [EStateM.run_bind, updateServerInternal_caught,
        Option.bind_some]
      cases storedCopy server (eagerForce sdk eagerUpdate server) now
          answers <;> rfl

end Views

theorem updateServer_run (id : UUID) (force : Bool) (now : Int)
    (answers : RefreshAnswers) (authentication : AuthenticationStore) :
    (updateServer id force now answers).run authentication =
      match authentication.getServer id with
      | none => .ok false authentication
      | some server =>
          let copy := storedCopy server force now answers
          .ok copy.isSome
            (authentication.refresh id answers.written copy) := by
  simp only [updateServer, EStateM.run_bind, EStateM.run_get]
  cases authentication.getServer id with
  | none =>
      rfl
  | some server =>
      simp only [EStateM.run_bind, updateServerInternal_caught]
      rfl

end JellyfinTv.Auth
