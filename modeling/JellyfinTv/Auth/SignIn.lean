import JellyfinTv.Auth.SessionCoherence

/-!
# Signing in

The authentication repository answers a sign-in with a flow of login states.
A sign-in with credentials or Quick Connect stores the token of the server's
answer and then asks the session repository to switch to the user.  Both
repositories take a short cut when the user is already the current one, and
compare the user alone.
-/

namespace JellyfinTv.Auth

open AuthenticationStore Library SessionState

/-! ## The authentication repository -/

/-- The fields that private and public users share. -/
structure User where
  id : UUID
  serverId : UUID
  name : String
  accessToken : Option String
  imageTag : Option String
  deriving DecidableEq, Repr

def User.withToken (user : User) (accessToken : String) : User :=
  { user with accessToken := some accessToken }

structure PrivateUser extends User where
  lastUsed : Int
  deriving DecidableEq, Repr

inductive LoginState where
  | authenticating
  | requireSignIn
  | serverUnavailable
  | serverVersionNotSupported (server : Server)
  | apiClientError
  | authenticated
  deriving DecidableEq, Repr

inductive AuthenticateMethod where
  | automatic (user : User)
  | credential (username password : String)
  | quickConnect (secret : String)
  deriving DecidableEq, Repr

structure AuthenticationResult where
  accessToken : Option String
  user : Option UserDto
  deriving DecidableEq, Repr

/-- How a request ends: with its content, or with one of the exceptions that
are told apart. -/
inductive Answer (Content : Type) where
  | content (content : Content)
  | timeoutException
  | apiClientException
  deriving DecidableEq, Repr

/-- The time and the outcome of the file write of a change of the store. -/
structure StoreWrite where
  now : Int
  written : Bool
  deriving DecidableEq, Repr

/-- What a sign-in meets: the answer to the request with the credentials or
the secret, the ones of the session repository, the answer to
`getCurrentUser`, the time of the new user, and the writes of the store. -/
structure SignInAnswers where
  result : Answer AuthenticationResult
  session : SessionAnswers
  currentUser : Answer UserDto
  createdAt : Int
  finish : StoreWrite
  serverUse : StoreWrite
  userUse : StoreWrite
  deriving DecidableEq, Repr

/-- The session state and the login states emitted so far. -/
structure LoginFlow where
  session : SessionState
  emitted : List LoginState

abbrev LoginM := EStateM AuthException LoginFlow

/-- A change of the store within a session call. -/
def inStore {α : Type} (action : StoreM α) : SessionM α := fun session =>
  match action.run session.authenticationStore with
  | .ok value stored =>
      .ok value { session with authenticationStore := stored }
  | .error exception stored =>
      .error exception { session with authenticationStore := stored }

/-- A session call within a flow. -/
def inSession {α : Type} (action : SessionM α) : LoginM α := fun flow =>
  match action.run flow.session with
  | .ok value session => .ok value { flow with session := session }
  | .error exception session =>
      .error exception { flow with session := session }

def emit (state : LoginState) : LoginM Unit :=
  modify fun flow => { flow with emitted := flow.emitted ++ [state] }

namespace AuthenticationRepository

variable {Version : Type} [LinearOrder Version]
  (platform : Platform Version)

def setActiveSession (user : User) (server : Server)
    (answers : SignInAnswers) : SessionM Bool := do
  let authenticated ←
    switchCurrentSession platform server.id user.id answers.session
  inStore
    (Auth.setActiveSession server.id user.id authenticated
      answers.serverUse.now answers.userUse.now answers.serverUse.written
      answers.userUse.written)

/-- The state emitted when the session was not switched. -/
def notSwitched (server : Server) : LoginState :=
  if server.versionSupported platform.toSdk then .requireSignIn
  else .serverVersionNotSupported server

def authenticateAuthenticationResult (server : Server)
    (result : AuthenticationResult) (answers : SignInAnswers) :
    LoginM Unit := do
  match result.accessToken, result.user with
  | some accessToken, some userInfo =>
      match userInfo.name with
      | none => throw .nullPointerException
      | some name =>
          let user : PrivateUser :=
            { id := userInfo.id
              serverId := server.id
              name := name
              accessToken := result.accessToken
              imageTag := userInfo.primaryImageTag
              lastUsed := answers.createdAt }
          inSession
            (inStore
              (authenticateFinish server.id userInfo accessToken
                answers.finish.now answers.finish.written))
          if ← inSession
              (setActiveSession platform user.toUser server answers) then
            emit .authenticated
          else
            emit (notSwitched platform server)
  | _, _ => emit .requireSignIn

/-- `authenticateCredential` and `authenticateQuickConnect`: they differ in
their request alone. -/
def authenticateRequest (server : Server) (answers : SignInAnswers) :
    LoginM Unit := do
  match answers.result with
  | .timeoutException => emit .serverUnavailable
  | .apiClientException => emit .apiClientError
  | .content result =>
      authenticateAuthenticationResult platform server result answers

def authenticateToken (server : Server) (user : User)
    (answers : SignInAnswers) : LoginM Unit := do
  emit .authenticating
  if ← inSession (setActiveSession platform user server answers) then
    match answers.currentUser with
    | .timeoutException => emit .serverUnavailable
    | .apiClientException => emit .apiClientError
    | .content userInfo =>
        inSession
          (inStore
            (authenticateFinish server.id userInfo
              (user.accessToken.getD "") answers.finish.now
              answers.finish.written))
        emit .authenticated
  else
    emit (notSwitched platform server)

def authenticateAutomatic (server : Server) (user : User)
    (answers : SignInAnswers) : LoginM Unit := do
  let session := (← get).session
  if session.authenticationPreferences.alwaysAuthenticate then
    emit .requireSignIn
  else
    let authStoreUser :=
      session.authenticationStore.getUser server.id user.id
    match authStoreUser.bind AuthenticationStoreUser.accessToken with
    | none => emit .requireSignIn
    | some accessToken =>
        authenticateToken platform server (user.withToken accessToken)
          answers

def authenticate (server : Server) (method : AuthenticateMethod)
    (answers : SignInAnswers) : LoginM Unit :=
  match method with
  | .automatic user => authenticateAutomatic platform server user answers
  | .credential _ _ => authenticateRequest platform server answers
  | .quickConnect _ => authenticateRequest platform server answers

end AuthenticationRepository

open AuthenticationRepository

/-! ## Runs of the calls -/

section Runs

variable {Version : Type} [LinearOrder Version]
  (platform : Platform Version)

theorem inStore_run {α : Type} {action : StoreM α} {session : SessionState}
    {value : α} {stored : AuthenticationStore}
    (ran : action.run session.authenticationStore = .ok value stored) :
    (inStore action).run session =
      .ok value { session with authenticationStore := stored } := by
  simp only [EStateM.run] at ran
  simp only [inStore, EStateM.run, ran]

theorem inSession_run {α : Type} {action : SessionM α} {flow : LoginFlow}
    {value : α} {session : SessionState}
    (ran : action.run flow.session = .ok value session) :
    (inSession action).run flow =
      .ok value { flow with session := session } := by
  simp only [EStateM.run] at ran
  simp only [inSession, EStateM.run, ran]

/-- A refresh keeps the users. -/
theorem getUsers_refreshed (session : SessionState) (target : Session)
    (answers : SessionAnswers) :
    (session.refreshed platform target answers).authenticationStore.getUsers =
      session.authenticationStore.getUsers := by
  simp only [refreshed, getServerCopy]
  cases stored :
      session.authenticationStore.getServer target.serverId with
  | none =>
      rfl
  | some server =>
      simp only [Option.bind_some, storedCopy]
      split
      · cases copied : refreshedServer server answers.now
            answers.refresh with
        | none =>
            rfl
        | some newServer =>
            apply getUsers_assign_of_users
            rw [getUsers, stored, Option.map_some,
              refreshedServer_users copied]
      · rfl

/-- `setCurrentSession` ends with `true` for another user exactly if the
server is stored and supported and `getCurrentUser` is answered; then the
session is the one asked for. -/
theorem setCurrentSession_of_other_user {session : SessionState}
    {target : Session} (other : ¬ session.IsCurrentUser target.userId)
    (answers : SessionAnswers) :
    ∃ switched final,
      (setCurrentSession platform (some target) answers).run session =
          .ok switched final ∧
        final.authenticationStore.getUsers =
            session.authenticationStore.getUsers ∧
          (switched = true → final.currentSession = some target) ∧
            ((session.serverOf platform target answers).any
                (Server.versionSupported platform.toSdk) = true →
              answers.user ≠ none → switched = true) := by
  have users := getUsers_refreshed platform session target answers
  rw [setCurrentSession_some_run, if_neg other]
  cases view : session.serverOf platform target answers with
  | none =>
      exact
        ⟨false, _, rfl, users, Bool.noConfusion, fun supported =>
          Bool.noConfusion supported⟩
  | some server =>
      obtain ⟨stored, present, address, _⟩ :=
        getServer_refresh (by rw [serverOf] at view; exact view)
      simp only [Option.any_some]
      split
      · rw [bindSession_run platform present address]
        cases answers.user with
        | none =>
            exact
              ⟨false, _, rfl, users, Bool.noConfusion, fun _ answered =>
                absurd rfl answered⟩
        | some user =>
            exact ⟨true, _, rfl, users, fun _ => rfl, fun _ _ => rfl⟩
      · rename_i unsupported
        exact
          ⟨false, _, rfl, users, Bool.noConfusion, fun supported =>
            absurd supported unsupported⟩

theorem createUserSession_eq_some {session : SessionState}
    {serverId userId : UUID} {target : Session}
    (created : session.createUserSession serverId userId = some target) :
    target.userId = userId ∧ target.serverId = serverId ∧
      (session.authenticationStore.getUser serverId userId).bind
          AuthenticationStoreUser.accessToken =
        some target.accessToken := by
  simp only [createUserSession, Option.bind_eq_bind] at created
  obtain ⟨account, found, created⟩ := Option.bind_eq_some_iff.mp created
  obtain ⟨accessToken, stored, same⟩ := Option.bind_eq_some_iff.mp created
  cases same
  exact ⟨rfl, rfl, by rw [found, Option.bind_some, stored]⟩

/-- The session has the user, the server and the stored token. -/
def HoldsStored (session : SessionState) (serverId userId : UUID) : Prop :=
  ∃ target,
    session.currentSession = some target ∧ target.userId = userId ∧
      target.serverId = serverId ∧
        (session.authenticationStore.getUser serverId userId).bind
            AuthenticationStoreUser.accessToken =
          some target.accessToken

theorem getUser_of_getUsers {first second : AuthenticationStore}
    (same : first.getUsers = second.getUsers) (serverId userId : UUID) :
    first.getUser serverId userId = second.getUser serverId userId := by
  rw [getUser, getUser, same]

theorem holdsStored_of_created {session final : SessionState}
    {serverId userId : UUID} {target : Session}
    (created : session.createUserSession serverId userId = some target)
    (users :
      final.authenticationStore.getUsers =
        session.authenticationStore.getUsers)
    (current : final.currentSession = some target) :
    HoldsStored final serverId userId := by
  obtain ⟨sameUser, sameServer, stored⟩ := createUserSession_eq_some created
  refine ⟨target, current, sameUser, sameServer, ?_⟩
  rw [getUser_of_getUsers users, stored]

/-- `switchCurrentSession` answers `true` for the stored session alone. -/
theorem holdsStored_of_switched {session final : SessionState}
    {serverId userId : UUID} {answers : SessionAnswers}
    (ran :
      (switchCurrentSession platform serverId userId answers).run session =
        .ok true final) :
    HoldsStored final serverId userId := by
  rw [switchCurrentSession_run] at ran
  split at ran
  · cases ran
  rename_i other
  cases created : session.createUserSession serverId userId with
  | none =>
      rw [created] at ran
      cases ran
  | some target =>
      obtain ⟨sameUser, _, _⟩ := createUserSession_eq_some created
      rw [← sameUser] at other
      have otherUser :
          ¬ (session.setState .switchingSession).IsCurrentUser
            target.userId :=
        other
      obtain ⟨switched, changed, run, users, current, _⟩ :=
        setCurrentSession_of_other_user platform otherUser answers
      simp only [created, run] at ran
      cases ran
      exact holdsStored_of_created created users (current rfl)

omit [LinearOrder Version] in
/-- `restoreSession` asks for a stored session. -/
theorem createUserSession_of_restoration {destroyOnly : Bool}
    {session : SessionState} {target : Session}
    (decision :
      restoration platform destroyOnly session = .change (some target)) :
    session.createUserSession target.serverId target.userId =
      some target := by
  have found :
      ∃ serverId userId,
        session.createUserSession serverId userId = some target := by
    simp only [restoration] at decision
    split at decision
    · cases decision
    split at decision
    · cases decision
    · split at decision
      · cases decision
      · have created := Restoration.change.inj decision
        simp only [createLastUserSession, Option.bind_eq_bind] at created
        obtain ⟨userId, _, created⟩ := Option.bind_eq_some_iff.mp created
        obtain ⟨serverId, _, created⟩ := Option.bind_eq_some_iff.mp created
        exact ⟨serverId, userId, created⟩
    · split at decision
      · cases decision
      split at decision
      · exact ⟨_, _, Restoration.change.inj decision⟩
      · cases decision
  obtain ⟨serverId, userId, created⟩ := found
  obtain ⟨sameUser, sameServer, _⟩ := createUserSession_eq_some created
  rw [sameUser, sameServer, created]

/-- What a `true` of `setCurrentSession` has to mean to `restoreSession`. -/
def RestoresRequested (session : SessionState) (destroyOnly : Bool)
    (answers : SessionAnswers) : Prop :=
  ∀ target,
    restoration platform destroyOnly session = .change target →
      ∀ final,
        (setCurrentSession platform target answers).run
            (session.setState .restoringSession) =
          .ok true final →
        ∃ restored,
          (restoreSession platform destroyOnly answers).run session =
              .ok () restored ∧
            restored.currentSession = target ∧
              ∀ asked ∈ target,
                HoldsStored restored asked.serverId asked.userId

/-- The current user keeps the session it has, whatever is asked for. -/
theorem setCurrentSession_of_current {session : SessionState}
    {target : Session} (current : session.IsCurrentUser target.userId)
    (answers : SessionAnswers) :
    (setCurrentSession platform (some target) answers).run session =
      .ok true session := by
  rw [setCurrentSession_some_run]
  exact if_pos current

theorem restoreSession_of_change {session final : SessionState}
    {destroyOnly result : Bool} {target : Option Session}
    {answers : SessionAnswers}
    (decision :
      restoration platform destroyOnly session = .change target)
    (ran :
      (setCurrentSession platform target answers).run
          (session.setState .restoringSession) = .ok result final) :
    (restoreSession platform destroyOnly answers).run session =
      .ok () (final.setState .ready) := by
  apply restoreSession_run
  rw [decision]
  exact run_discard ran

theorem restoresRequested_iff (session : SessionState) (destroyOnly : Bool)
    (answers : SessionAnswers) :
    RestoresRequested platform session destroyOnly answers ↔
      ∀ target,
        restoration platform destroyOnly session = .change (some target) →
          session.IsCurrentUser target.userId →
            session.currentSession = some target := by
  constructor
  · intro restores target decision current
    have restoring :
        (session.setState .restoringSession).IsCurrentUser target.userId :=
      current
    have shortcut :=
      setCurrentSession_of_current platform restoring answers
    obtain ⟨restored, ran, asked, _⟩ :=
      restores (some target) decision _ shortcut
    rw [restoreSession_of_change platform decision shortcut] at ran
    cases ran
    exact asked
  · intro distinguishes target decision final ran
    refine ⟨_, restoreSession_of_change platform decision ran, ?_⟩
    cases target with
    | none =>
        rw [setCurrentSession_none_run] at ran
        cases ran
        exact ⟨rfl, fun asked member => by cases member⟩
    | some target =>
        have created := createUserSession_of_restoration platform decision
        have reached :
            final.authenticationStore.getUsers =
                session.authenticationStore.getUsers ∧
              final.currentSession = some target := by
          by_cases current :
              (session.setState .restoringSession).IsCurrentUser
                target.userId
          · rw [setCurrentSession_of_current platform current] at ran
            cases ran
            exact ⟨rfl, distinguishes target decision current⟩
          · obtain ⟨switched, changed, run, users, asked, _⟩ :=
              setCurrentSession_of_other_user platform current answers
            rw [run] at ran
            cases ran
            exact ⟨users, asked rfl⟩
        refine ⟨reached.2, ?_⟩
        rintro asked ⟨⟩
        exact holdsStored_of_created created reached.1 reached.2

omit [LinearOrder Version] in
theorem changeUsers_run (server : UUID) (change : Users → Users)
    (written : Bool) (authentication : AuthenticationStore) :
    (changeUsers server change written).run authentication =
      match authentication.getServer server with
      | none => .ok false authentication
      | some stored =>
          .ok written
            ((authentication.assign server
              (some { stored with users := change stored.users })).saved
                written) := by
  simp only [changeUsers, EStateM.run_bind, EStateM.run_get]
  cases authentication.getServer server <;> rfl

omit [LinearOrder Version] in
/-- A finished sign-in stores the user with the token and changes nothing
else of a stored server. -/
theorem authenticateFinish_stores {authentication : AuthenticationStore}
    {server : UUID} {stored : AuthenticationStoreServer}
    (present : authentication.getServer server = some stored)
    {userInfo : UserDto} {name : String} (named : userInfo.name = some name)
    (accessToken : String) (write : StoreWrite) :
    ∃ finished users account,
      (authenticateFinish server userInfo accessToken write.now
            write.written).run authentication =
          .ok () finished ∧
        finished.getServer server = some { stored with users := users } ∧
          users userInfo.id = some account ∧
            account.accessToken = some accessToken := by
  obtain ⟨account, same, signs⟩ :
      ∃ account,
        signedIn (authentication.getUser server userInfo.id) name
            userInfo.primaryImageTag accessToken write.now =
          account ∧
        account.accessToken = some accessToken := by
    refine ⟨_, rfl, ?_⟩
    cases authentication.getUser server userInfo.id <;> rfl
  have ran :=
    changeUsers_run server
      (fun users => Function.update users userInfo.id (some account))
      write.written authentication
  rw [present] at ran
  have finished :
      (authenticateFinish server userInfo accessToken write.now
          write.written).run authentication =
        .ok ()
          ((authentication.assign server
            (some
              { stored with
                users :=
                  Function.update stored.users userInfo.id
                    (some account) })).saved write.written) := by
    simp only [authenticateFinish, EStateM.run_bind, EStateM.run_get, named,
      same]
    exact run_discard ran
  exact
    ⟨_, _, account, finished, Function.update_self server _ _,
      Function.update_self userInfo.id _ _, signs⟩

/-- The view of a server does not depend on its users. -/
theorem getServerView_withUsers {first second : AuthenticationStore}
    {id : UUID} {server : AuthenticationStoreServer} {users : Users}
    (before : first.getServer id = some server)
    (after : second.getServer id = some { server with users := users })
    (eagerUpdate : Bool) (now : Int) (answers : RefreshAnswers) :
    getServerView platform.toSdk id eagerUpdate now answers second =
      getServerView platform.toSdk id eagerUpdate now answers first := by
  have due :
      ∀ forceUpdate,
        RefreshDue { server with users := users } forceUpdate now ↔
          RefreshDue server forceUpdate now :=
    fun _ => Iff.rfl
  simp only [getServerView, getServerCopy, before, after, Option.bind_some,
    storedCopy, due]
  have force :
      eagerForce platform.toSdk eagerUpdate
          { server with users := users } =
        eagerForce platform.toSdk eagerUpdate server :=
    rfl
  rw [force]
  split
  · simp only [refreshedServer]
    cases getBrandingOptionsOrDefault answers.branding with
    | none =>
        rfl
    | some branding =>
        cases answers.systemInfo <;> rfl
  · rfl

omit [LinearOrder Version] in
theorem setActiveSession_store_run (authentication : AuthenticationStore)
    (server user : UUID) (authenticated : Bool)
    (serverUse userUse : StoreWrite) :
    ∃ touched,
      (Auth.setActiveSession server user authenticated serverUse.now
          userUse.now serverUse.written userUse.written).run
          authentication =
        .ok authenticated touched := by
  cases authenticated with
  | false =>
      exact ⟨authentication, rfl⟩
  | true =>
      obtain ⟨used, ran, _⟩ :=
        updateServerLastUsed_run authentication server serverUse.now
          serverUse.written
      have updated :
          ∃ touched,
            (updateUserLastUsed server user userUse.now
                userUse.written).run used =
              .ok () touched := by
        simp only [updateUserLastUsed, EStateM.run_bind, EStateM.run_get]
        cases used.getUser server user with
        | none =>
            exact ⟨used, rfl⟩
        | some account =>
            have ran :=
              changeUsers_run server
                (fun users =>
                  Function.update users user
                    (some { account with lastUsed := userUse.now }))
                userUse.written used
            cases stored : used.getServer server with
            | none =>
                rw [stored] at ran
                exact ⟨used, run_discard ran⟩
            | some record =>
                rw [stored] at ran
                exact ⟨_, run_discard ran⟩
      obtain ⟨touched, updated⟩ := updated
      refine ⟨touched, ?_⟩
      simp only [Auth.setActiveSession, if_true, EStateM.run_bind, ran,
        updated]
      rfl

/-- Activating a session answers what the switch has answered. -/
theorem setActiveSession_run {session switching : SessionState}
    {user : User} {server : Server} {answers : SignInAnswers}
    {switched : Bool}
    (ran :
      (switchCurrentSession platform server.id user.id
          answers.session).run session =
        .ok switched switching) :
    ∃ final,
      (AuthenticationRepository.setActiveSession platform user server
          answers).run session =
          .ok switched final ∧
        final.currentSession = switching.currentSession := by
  obtain ⟨touched, stored⟩ :=
    setActiveSession_store_run switching.authenticationStore server.id
      user.id switched answers.serverUse answers.userUse
  refine
    ⟨{ switching with authenticationStore := touched }, ?_, rfl⟩
  simp only [AuthenticationRepository.setActiveSession, EStateM.run_bind,
    ran, inStore_run stored]

/-- A sign-in with credentials or Quick Connect stores the token for the
user, the server is supported, and its requests succeed. -/
structure StoresToken (session : SessionState) (server : Server)
    (method : AuthenticateMethod) (answers : SignInAnswers)
    (userInfo : UserDto) (accessToken : String) : Prop where
  asked : ∀ user, method ≠ .automatic user
  answered : answers.result = .content ⟨some accessToken, some userInfo⟩
  named : userInfo.name ≠ none
  supported :
    (getServerView platform.toSdk server.id true answers.session.now
        answers.session.refresh session.authenticationStore).any
      (Server.versionSupported platform.toSdk) = true
  fetched : answers.session.user ≠ none

/-- After the token is stored, the switch succeeds exactly for another user
than the current one. -/
theorem switchCurrentSession_of_stored {session finished : SessionState}
    {serverId userId : UUID} {accessToken : String}
    {answers : SessionAnswers}
    (created :
      finished.createUserSession serverId userId =
        some ⟨userId, serverId, accessToken⟩)
    (sameSession : finished.currentSession = session.currentSession)
    (supported :
      (getServerView platform.toSdk serverId true answers.now
          answers.refresh finished.authenticationStore).any
        (Server.versionSupported platform.toSdk) = true)
    (fetched : answers.user ≠ none) :
    ∃ switched final,
      (switchCurrentSession platform serverId userId answers).run
            finished =
          .ok switched final ∧
        (switched = true ↔ ¬ session.IsCurrentUser userId) ∧
          (switched = true →
            final.currentSession = some ⟨userId, serverId, accessToken⟩) := by
  have sameUser :
      finished.IsCurrentUser userId ↔ session.IsCurrentUser userId := by
    rw [IsCurrentUser, sameSession]
    exact Iff.rfl
  rw [switchCurrentSession_run]
  by_cases current : session.IsCurrentUser userId
  · rw [if_pos (sameUser.mpr current)]
    exact
      ⟨false, finished, rfl,
        iff_of_false Bool.false_ne_true (not_not.mpr current),
        Bool.noConfusion⟩
  · rw [if_neg (mt sameUser.mp current)]
    have other :
        ¬ (finished.setState .switchingSession).IsCurrentUser
          (Session.mk userId serverId accessToken).userId :=
      mt sameUser.mp current
    obtain ⟨switched, final, ran, _, asked, succeeds⟩ :=
      setCurrentSession_of_other_user platform other answers
    simp only [created, ran]
    exact
      ⟨switched, _, rfl, iff_of_true (succeeds supported fetched) current,
        asked⟩

/-- A sign-in that stores a token ends, and signs in exactly if the user is
not already the current one. -/
theorem authenticate_of_storesToken {session : SessionState}
    {server : Server} {method : AuthenticateMethod}
    {answers : SignInAnswers} {userInfo : UserDto} {accessToken : String}
    (stores :
      StoresToken platform session server method answers userInfo
        accessToken) :
    ∃ switched final,
      (authenticate platform server method answers).run ⟨session, []⟩ =
          .ok () final ∧
        (switched = true ↔ ¬ session.IsCurrentUser userInfo.id) ∧
          final.emitted =
              [if switched then .authenticated
                else notSwitched platform server] ∧
            (switched = true →
              final.session.currentSession =
                some ⟨userInfo.id, server.id, accessToken⟩) := by
  have request :
      authenticate platform server method answers =
        authenticateRequest platform server answers := by
    cases method with
    | automatic user =>
        exact absurd rfl (stores.asked user)
    | credential username password =>
        rfl
    | quickConnect secret =>
        rfl
  obtain ⟨name, named⟩ := Option.ne_none_iff_exists'.mp stores.named
  obtain ⟨record, present⟩ :
      ∃ record,
        session.authenticationStore.getServer server.id = some record := by
    cases found : session.authenticationStore.getServer server.id with
    | none =>
        have supported := stores.supported
        simp [getServerView, getServerCopy, found] at supported
    | some record =>
        exact ⟨record, rfl⟩
  obtain ⟨stored, users, account, finished, kept, located, signs⟩ :=
    authenticateFinish_stores present named accessToken answers.finish
  have supported := stores.supported
  rw [← getServerView_withUsers platform present kept] at supported
  have created :
      SessionState.createUserSession
          { session with authenticationStore := stored } server.id
          userInfo.id =
        some ⟨userInfo.id, server.id, accessToken⟩ := by
    simp [createUserSession, getUser, getUsers, kept, located, signs]
  obtain ⟨switched, switching, ran, exactly, asked⟩ :=
    switchCurrentSession_of_stored platform created rfl supported
      stores.fetched
  obtain ⟨final, active, sameSession⟩ :=
    @setActiveSession_run _ _ platform _ _
      ⟨userInfo.id, server.id, name, some accessToken,
        userInfo.primaryImageTag⟩ _ answers _ ran
  refine
    ⟨switched,
      ⟨final,
        [if switched then .authenticated else notSwitched platform server]⟩,
      ?_, exactly, rfl, fun success => sameSession.trans (asked success)⟩
  rw [request]
  simp only [authenticateRequest, stores.answered,
    authenticateAuthenticationResult, named, EStateM.run_bind]
  rw [inSession_run (inStore_run finished)]
  simp only
  rw [inSession_run active]
  cases switched <;> rfl

end Runs

section Requests

variable {Version : Type} [LinearOrder Version]
  (platform : Platform Version)

/-- The calls that ask for a session. -/
inductive SessionRequest where
  | switchCurrentSession (serverId userId : UUID) (answers : SessionAnswers)
  | restoreSession (destroyOnly : Bool) (answers : SessionAnswers)
  | authenticate (server : Server) (method : AuthenticateMethod)
      (answers : SignInAnswers)

/-- Success means the requested session: after a `true`, and after a sign-in
that has stored a token, the current session is the one asked for. -/
def MeansRequested (session : SessionState) : SessionRequest → Prop
  | .switchCurrentSession serverId userId answers =>
      ∀ final,
        (switchCurrentSession platform serverId userId answers).run
            session =
          .ok true final →
        HoldsStored final serverId userId
  | .restoreSession destroyOnly answers =>
      RestoresRequested platform session destroyOnly answers
  | .authenticate server method answers =>
      ∀ userInfo accessToken,
        StoresToken platform session server method answers userInfo
            accessToken →
          ∃ final,
            (authenticate platform server method answers).run
                  ⟨session, []⟩ =
                .ok () final ∧
              final.emitted.getLast? = some .authenticated ∧
                final.session.currentSession =
                  some ⟨userInfo.id, server.id, accessToken⟩

/-- The short cuts for the current user do no harm: `restoreSession` asks for
the very session that is current, and nobody signs in as the current user. -/
def PastShortcuts (session : SessionState) : SessionRequest → Prop
  | .switchCurrentSession _ _ _ => True
  | .restoreSession destroyOnly _ =>
      ∀ target,
        restoration platform destroyOnly session = .change (some target) →
          session.IsCurrentUser target.userId →
            session.currentSession = some target
  | .authenticate server method answers =>
      ∀ userInfo accessToken,
        StoresToken platform session server method answers userInfo
            accessToken →
          ¬ session.IsCurrentUser userInfo.id

/-- For every stored servers and users and every current session, success
means the requested session exactly for the requests that no short cut
catches wrongly. -/
theorem success_means_requested_session_iff (session : SessionState)
    (request : SessionRequest) :
    MeansRequested platform session request ↔
      PastShortcuts platform session request := by
  cases request with
  | switchCurrentSession serverId userId answers =>
      exact
        iff_of_true (fun _ ran => holdsStored_of_switched platform ran)
          trivial
  | restoreSession destroyOnly answers =>
      exact restoresRequested_iff platform session destroyOnly answers
  | authenticate server method answers =>
      refine
        forall_congr' fun userInfo =>
          forall_congr' fun accessToken => forall_congr' fun stores => ?_
      obtain ⟨switched, final, ran, exactly, emitted, asked⟩ :=
        authenticate_of_storesToken platform stores
      rw [← exactly]
      constructor
      · intro given
        obtain ⟨_, again, last, _⟩ := given
        rw [ran] at again
        cases again
        rw [emitted] at last
        cases switched with
        | true =>
            rfl
        | false =>
            simp only [Bool.false_eq_true, if_false, List.getLast?_singleton,
              notSwitched] at last
            split at last <;> cases last
      · intro success
        refine ⟨final, ran, ?_, asked success⟩
        rw [emitted, if_pos success]
        rfl

end Requests

/-- The platform of the sample, which knows the identifiers of its server and
of one user. -/
def parsingPlatform : Platform Nat :=
  { samplePlatform with
    toUUIDOrNull := fun text =>
      if text = "00000000-0000-0000-0000-000000000001" then some ⟨1⟩
      else if text = "00000000-0000-0000-0000-000000000002" then some ⟨2⟩
      else none }

/-- The first user signs in again: the server answers with another token. -/
def secondSignIn : SignInAnswers where
  result :=
    .content ⟨some "new token", some ⟨⟨2⟩, some "first", none⟩⟩
  session := sampleAnswers ⟨2⟩
  currentUser := .content ⟨⟨2⟩, some "first", none⟩
  createdAt := 0
  finish := ⟨0, true⟩
  serverUse := ⟨0, true⟩
  userUse := ⟨0, true⟩

/-- The current user signs in again.  The new token is stored, but the flow
requires a sign-in, and the session keeps the old token; a later restore of
the same user answers `true` and keeps it as well. -/
theorem second_sign_in_keeps_old_token :
    let session :=
      run (sessionStep parsingPlatform)
        { sampleState with
          authenticationPreferences :=
            { sampleState.authenticationPreferences with
              autoLoginUserBehavior := .specificUser
              autoLoginServerId := "00000000-0000-0000-0000-000000000001"
              autoLoginUserId := "00000000-0000-0000-0000-000000000002" } }
        [.restoreSession false (sampleAnswers ⟨2⟩)]
    let signedIn :=
      finalState
        ((authenticate parsingPlatform (sampleServer.asServer ⟨1⟩)
          (.credential "first" "password") secondSignIn).run ⟨session, []⟩)
    ¬ MeansRequested parsingPlatform session
        (.authenticate (sampleServer.asServer ⟨1⟩)
          (.credential "first" "password") secondSignIn) ∧
      signedIn.emitted = [.requireSignIn] ∧
        ¬ MeansRequested parsingPlatform signedIn.session
          (.restoreSession false (sampleAnswers ⟨2⟩)) := by
  intro session signedIn
  have kept :
      signedIn.session.currentSession =
        some ⟨⟨2⟩, ⟨1⟩, "first token"⟩ := by
    decide
  refine ⟨?_, by decide, ?_⟩
  · intro means
    obtain ⟨final, ran, _, asked⟩ :=
      means ⟨⟨2⟩, some "first", none⟩ "new token"
        { asked := fun _ => AuthenticateMethod.noConfusion
          answered := rfl
          named := by decide
          supported := by decide
          fetched := by decide }
    have same : signedIn = final := congrArg finalState ran
    rw [← same, kept] at asked
    exact absurd asked (by decide)
  · intro means
    have asked :=
      (restoresRequested_iff parsingPlatform signedIn.session false
        (sampleAnswers ⟨2⟩)).mp means ⟨⟨2⟩, ⟨1⟩, "new token"⟩
        (by decide) (by decide)
    rw [kept] at asked
    exact absurd asked (by decide)

end JellyfinTv.Auth
