import JellyfinTv.Auth.Servers

/-!
# The session repository

`SessionRepositoryImpl` keeps the current session together with the current
user and server of two other repositories and the address and token of the
shared `ApiClient`.  The functions follow the source; the answers of the server
are arguments of the calls.  The display preferences that `onSessionChanged`
reloads are not part of this state.
-/

namespace JellyfinTv.Auth

open AuthenticationStore

structure Session where
  userId : UUID
  serverId : UUID
  accessToken : String
  deriving DecidableEq, Repr

inductive SessionRepositoryState where
  | ready
  | restoringSession
  | switchingSession
  deriving DecidableEq, Repr

inductive UserSelectBehavior where
  | disabled
  | lastUser
  | specificUser
  deriving DecidableEq, Repr

structure AuthenticationPreferences where
  autoLoginUserBehavior : UserSelectBehavior
  autoLoginServerId : String
  autoLoginUserId : String
  alwaysAuthenticate : Bool
  lastServerId : String
  lastUserId : String
  deriving DecidableEq, Repr

structure TelemetryPreferences where
  crashReportToken : String
  crashReportUrl : String
  deriving DecidableEq, Repr

structure DeviceInfo where
  id : String
  name : String
  deriving DecidableEq, Repr

/-- The settings of the shared `ApiClient`. -/
structure ApiClient where
  baseUrl : Option String
  accessToken : Option String
  deviceInfo : DeviceInfo
  deriving DecidableEq, Repr

/-- A user with the address and token of the request that has fetched it. -/
structure FetchedUser where
  user : UserDto
  baseUrl : Option String
  accessToken : Option String
  deriving DecidableEq, Repr

/-- What the session repository uses of the platform: the SDK, its conversion
of texts to identifiers and its path of the log upload, and SHA-1. -/
structure Platform (Version : Type) extends Sdk Version where
  toUUIDOrNull : String → Option UUID
  logFileUrl : String → String
  sha1Hex : String → String
  defaultDeviceInfo : DeviceInfo

/-- The state that the session calls read and write. -/
structure SessionState where
  currentSession : Option Session
  state : SessionRepositoryState
  currentUser : Option FetchedUser
  currentServer : Option Server
  userApiClient : ApiClient
  authenticationStore : AuthenticationStore
  authenticationPreferences : AuthenticationPreferences
  telemetryPreferences : TelemetryPreferences

abbrev SessionM := EStateM AuthException SessionState

/-- What a call is answered by the servers: the time and the answers of the
server refresh, and the user, or `none` if that request fails. -/
structure SessionAnswers where
  now : Int
  refresh : RefreshAnswers
  user : Option UserDto
  deriving DecidableEq, Repr

namespace UUID

/-- The digits of `UUID.toString`, without the hyphens. -/
def digits (uuid : UUID) : List Char :=
  let digits := Nat.toDigits 16 uuid.bits.toNat
  List.replicate (32 - digits.length) '0' ++ digits

@[irreducible]
def toString (uuid : UUID) : String :=
  let digits := uuid.digits
  String.ofList
    (digits.take 8 ++ ['-'] ++ (digits.drop 8).take 4 ++ ['-'] ++
      (digits.drop 12).take 4 ++ ['-'] ++ (digits.drop 16).take 4 ++ ['-'] ++
        digits.drop 20)

end UUID

namespace ApiClient

def Unset (client : ApiClient) : Prop :=
  client.baseUrl = none ∧ client.accessToken = none

instance (client : ApiClient) : Decidable client.Unset :=
  inferInstanceAs (Decidable (_ ∧ _))

end ApiClient

namespace SessionState

/-- A newly started application. -/
def initial (deviceInfo : DeviceInfo)
    (authenticationStore : AuthenticationStore)
    (authenticationPreferences : AuthenticationPreferences)
    (telemetryPreferences : TelemetryPreferences) : SessionState where
  currentSession := none
  state := .ready
  currentUser := none
  currentServer := none
  userApiClient :=
    { baseUrl := none, accessToken := none, deviceInfo := deviceInfo }
  authenticationStore := authenticationStore
  authenticationPreferences := authenticationPreferences
  telemetryPreferences := telemetryPreferences

def setState (session : SessionState) (state : SessionRepositoryState) :
    SessionState :=
  { session with state := state }

/-- `currentSession.value?.userId == userId`. -/
def IsCurrentUser (session : SessionState) (userId : UUID) : Prop :=
  session.currentSession.map Session.userId = some userId

instance (session : SessionState) (userId : UUID) :
    Decidable (session.IsCurrentUser userId) :=
  inferInstanceAs (Decidable (_ = _))

def createUserSession (session : SessionState) (serverId userId : UUID) :
    Option Session := do
  let account ← session.authenticationStore.getUser serverId userId
  let accessToken ← account.accessToken
  some
    { userId := userId, serverId := serverId, accessToken := accessToken }

/-- `destroyCurrentSession`: the client keeps its address and token. -/
def destroy (session : SessionState) : SessionState :=
  { session with
    currentUser := none
    currentServer := none
    currentSession := none
    state := .ready }

/-- Update the last active user. -/
def rememberLast (session : SessionState) (target : Session) :
    SessionState :=
  { session with
    authenticationPreferences :=
      { session.authenticationPreferences with
        lastServerId := target.serverId.toString
        lastUserId := target.userId.toString } }

/-- `userApiClient.update`. -/
def updateClient (session : SessionState)
    (baseUrl accessToken : Option String) (deviceInfo : DeviceInfo) :
    SessionState :=
  { session with
    userApiClient :=
      { baseUrl := baseUrl
        accessToken := accessToken
        deviceInfo := deviceInfo } }

/-- The answer to `getCurrentUser` for the settings of the client. -/
def fetched (session : SessionState) (user : UserDto) : FetchedUser where
  user := user
  baseUrl := session.userApiClient.baseUrl
  accessToken := session.userApiClient.accessToken

end SessionState

open SessionState

section Calls

variable {Version : Type} (platform : Platform Version)

def DeviceInfo.forUser (deviceInfo : DeviceInfo) (user : String) :
    DeviceInfo :=
  { deviceInfo with
    id := platform.sha1Hex (deviceInfo.id ++ "+" ++ user) }

def createLastUserSession (session : SessionState) : Option Session := do
  let lastUserId ←
    platform.toUUIDOrNull session.authenticationPreferences.lastUserId
  let lastServerId ←
    platform.toUUIDOrNull session.authenticationPreferences.lastServerId
  session.createUserSession lastServerId lastUserId

/-- What `restoreSession` decides to do. -/
inductive Restoration where
  | destroy
  | keep
  | change (target : Option Session)
  deriving DecidableEq, Repr

/-- The branches of `restoreSession`. -/
def restoration (destroyOnly : Bool) (session : SessionState) :
    Restoration :=
  let preferences := session.authenticationPreferences
  if preferences.alwaysAuthenticate then .destroy
  else
    match preferences.autoLoginUserBehavior with
    | .disabled => .destroy
    | .lastUser =>
        if destroyOnly then .keep
        else .change (createLastUserSession platform session)
    | .specificUser =>
        if destroyOnly then .keep
        else
          match platform.toUUIDOrNull preferences.autoLoginServerId,
              platform.toUUIDOrNull preferences.autoLoginUserId with
          | some serverId, some userId =>
              .change (session.createUserSession serverId userId)
          | _, _ => .keep

/-- `applySession`; the result tells whether the client was updated. -/
def applySession : Option Session → SessionM Bool
  | none => do
      modify fun session =>
        session.updateClient none none platform.defaultDeviceInfo
      return true
  | some target => do
      match (← get).authenticationStore.getServer target.serverId with
      | none => return false
      | some server =>
          modify fun session =>
            session.updateClient (some server.address)
              (some target.accessToken)
              (platform.defaultDeviceInfo.forUser platform
                target.userId.toString)
          return true

/-- Keep the address and token for crash reports.  The SDK has no address for
the upload without a base URL. -/
def updateCrashReporting (target : Session) : SessionM Unit := do
  match (← get).userApiClient.baseUrl with
  | none => throw .apiClientException
  | some baseUrl =>
      modify fun session =>
        { session with
          telemetryPreferences :=
            { crashReportUrl := platform.logFileUrl baseUrl
              crashReportToken := target.accessToken } }

/-- The end of `setCurrentSession`, after `onSessionChanged`. -/
def publishSession (target : Option Session) : SessionM Bool := do
  modify fun session => { session with currentSession := target }
  return true

/-- `setCurrentSession` from the binding of the client on. -/
def bindSession (target : Option Session) (server : Option Server)
    (answers : SessionAnswers) : SessionM Bool := do
  let applied ← applySession platform target
  match target, applied with
  | some session, true =>
      match answers.user with
      | none =>
          modify destroy
          return false
      | some user =>
          modify fun state =>
            { state with
              currentUser := some (state.fetched user)
              currentServer := server }
          updateCrashReporting platform session
          publishSession target
  | _, _ =>
      modify fun state =>
        { state with currentUser := none, currentServer := none }
      publishSession target

variable [LinearOrder Version]

/-- `serverRepository.getServer(serverId, true)`. -/
def refreshServer (serverId : UUID) (answers : SessionAnswers) :
    SessionM (Option Server) := fun session =>
  match (getServer platform.toSdk serverId true answers.now
      answers.refresh).run session.authenticationStore with
  | .ok server stored =>
      .ok server { session with authenticationStore := stored }
  | .error exception stored =>
      .error exception { session with authenticationStore := stored }

def setCurrentSession (target : Option Session)
    (answers : SessionAnswers) : SessionM Bool := do
  match target with
  | none => bindSession platform none none answers
  | some session =>
      if (← get).IsCurrentUser session.userId then return true
      else
        modify fun state => state.rememberLast session
        match ← refreshServer platform session.serverId answers with
        | none => return false
        | some server =>
            if server.versionSupported platform.toSdk then
              bindSession platform (some session) (some server) answers
            else return false

/-- Do what `restoreSession` has decided. -/
def restore (answers : SessionAnswers) : Restoration → SessionM Unit
  | .destroy => modify destroy
  | .keep => return ()
  | .change target => discard (setCurrentSession platform target answers)

def restoreSession (destroyOnly : Bool) (answers : SessionAnswers) :
    SessionM Unit := do
  modify fun session => session.setState .restoringSession
  restore platform answers (restoration platform destroyOnly (← get))
  modify fun session => session.setState .ready

def switchCurrentSession (serverId userId : UUID)
    (answers : SessionAnswers) : SessionM Bool := do
  if (← get).IsCurrentUser userId then return false
  else
    modify fun session => session.setState .switchingSession
    match (← get).createUserSession serverId userId with
    | none =>
        modify fun session => session.setState .ready
        return false
    | some session =>
        let switched ← setCurrentSession platform (some session) answers
        modify fun session => session.setState .ready
        return switched

end Calls

namespace SessionState

variable {Version : Type} (platform : Platform Version)

/-- The client is bound to a session at an address. -/
def bound (session : SessionState) (target : Session) (address : String) :
    SessionState :=
  session.updateClient (some address) (some target.accessToken)
    (platform.defaultDeviceInfo.forUser platform target.userId.toString)

/-- The fetched user and its server are published. -/
def identified (session : SessionState) (server : Server)
    (user : FetchedUser) : SessionState :=
  { session with
    currentUser := some user
    currentServer := some server }

/-- Crash reports go to the server of the session. -/
def reporting (session : SessionState) (target : Session)
    (baseUrl : String) : SessionState :=
  { session with
    telemetryPreferences :=
      { crashReportUrl := platform.logFileUrl baseUrl
        crashReportToken := target.accessToken } }

/-- No session: the client is unset and nothing is published. -/
def signedOut (session : SessionState) : SessionState :=
  { session.updateClient none none platform.defaultDeviceInfo with
    currentUser := none
    currentServer := none }

def withSession (session : SessionState) (target : Option Session) :
    SessionState :=
  { session with currentSession := target }

variable [LinearOrder Version]

/-- The server that `setCurrentSession` works with. -/
def serverOf (session : SessionState) (target : Session)
    (answers : SessionAnswers) : Option Server :=
  getServerView platform.toSdk target.serverId true answers.now
    answers.refresh session.authenticationStore

/-- The state after the server refresh of `setCurrentSession`. -/
def refreshed (session : SessionState) (target : Session)
    (answers : SessionAnswers) : SessionState :=
  { session.rememberLast target with
    authenticationStore :=
      session.authenticationStore.refresh target.serverId
        answers.refresh.written
        (getServerCopy platform.toSdk target.serverId true answers.now
          answers.refresh session.authenticationStore) }

end SessionState

section Runs

variable {Version : Type} [LinearOrder Version]
  (platform : Platform Version)

/-- The refreshed record is stored, with the address of the server. -/
theorem getServer_refresh {sdk : Sdk Version} {id : UUID}
    {eagerUpdate : Bool} {now : Int} {answers : RefreshAnswers}
    {authentication : AuthenticationStore} {server : Server}
    (view :
      getServerView sdk id eagerUpdate now answers authentication =
        some server) :
    ∃ stored,
      (authentication.refresh id answers.written
          (getServerCopy sdk id eagerUpdate now answers
            authentication)).getServer id =
        some stored ∧
      stored.address = server.address ∧ server.id = id := by
  rw [getServerView] at view
  cases copy : getServerCopy sdk id eagerUpdate now answers
      authentication with
  | none =>
      rw [copy] at view
      obtain ⟨stored, present, rfl⟩ := Option.map_eq_some_iff.mp view
      exact ⟨stored, present, rfl, rfl⟩
  | some newServer =>
      rw [copy] at view
      obtain ⟨stored, present, rfl⟩ := Option.map_eq_some_iff.mp view
      refine ⟨newServer, ?_, ?_, rfl⟩
      · exact Function.update_self id (some newServer) authentication.store
      · exact congrArg AuthenticationStoreServer.address
          (Option.some.inj present)

theorem setCurrentSession_none_run (answers : SessionAnswers)
    (session : SessionState) :
    (setCurrentSession platform none answers).run session =
      .ok true ((session.signedOut platform).withSession none) :=
  rfl

omit [LinearOrder Version] in
/-- Binding the client to a stored server ends with the answer to
`getCurrentUser`. -/
theorem bindSession_run {target : Session} {server : Server}
    {session : SessionState} {stored : AuthenticationStoreServer}
    (present :
      session.authenticationStore.getServer target.serverId = some stored)
    (address : stored.address = server.address)
    (answers : SessionAnswers) :
    (bindSession platform (some target) (some server) answers).run session =
      match answers.user with
      | none =>
          .ok false (session.bound platform target server.address).destroy
      | some user =>
          let bound := session.bound platform target server.address
          .ok true
            (((bound.identified server (bound.fetched user)).reporting
              platform target server.address).withSession
                (some target)) := by
  have applied :
      (applySession platform (some target)).run session =
        .ok true (session.bound platform target server.address) := by
    simp only [applySession, EStateM.run_bind, EStateM.run_get, present,
      address]
    rfl
  simp only [bindSession, EStateM.run_bind, applied]
  cases answers.user <;> rfl

theorem refreshServer_run (serverId : UUID) (answers : SessionAnswers)
    (session : SessionState) :
    (refreshServer platform serverId answers).run session =
      .ok
        (getServerView platform.toSdk serverId true answers.now
          answers.refresh session.authenticationStore)
        { session with
          authenticationStore :=
            session.authenticationStore.refresh serverId
              answers.refresh.written
              (getServerCopy platform.toSdk serverId true answers.now
                answers.refresh session.authenticationStore) } := by
  have answered :
      (refreshServer platform serverId answers).run session =
        match (getServer platform.toSdk serverId true answers.now
            answers.refresh).run session.authenticationStore with
        | .ok server stored =>
            .ok server { session with authenticationStore := stored }
        | .error exception stored =>
            .error exception
              { session with authenticationStore := stored } :=
    rfl
  rw [answered, getServer_run]

theorem refreshServer_rememberLast (target : Session)
    (answers : SessionAnswers) (session : SessionState) :
    (refreshServer platform target.serverId answers).run
        (session.rememberLast target) =
      .ok (session.serverOf platform target answers)
        (session.refreshed platform target answers) := by
  simp only [refreshServer_run, serverOf, refreshed, rememberLast]

theorem setCurrentSession_some_run (target : Session)
    (answers : SessionAnswers) (session : SessionState) :
    (setCurrentSession platform (some target) answers).run session =
      if session.IsCurrentUser target.userId then .ok true session
      else
        match session.serverOf platform target answers with
        | none => .ok false (session.refreshed platform target answers)
        | some server =>
            if server.versionSupported platform.toSdk then
              (bindSession platform (some target) (some server)
                answers).run
                (session.refreshed platform target answers)
            else
              .ok false (session.refreshed platform target answers) := by
  simp only [setCurrentSession, EStateM.run_bind, EStateM.run_get]
  split_ifs
  · rfl
  · simp only [EStateM.run_bind, EStateM.run_modify,
      refreshServer_rememberLast]
    cases session.serverOf platform target answers with
    | none =>
        rfl
    | some server =>
        simp only
        split_ifs <;> rfl

end Runs

end JellyfinTv.Auth
