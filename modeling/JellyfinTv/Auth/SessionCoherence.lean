import Mathlib.Data.Nat.Basic
import JellyfinTv.Library.Runs
import JellyfinTv.Auth.Session

/-!
# Session coherence

The current session, user and server and the settings of the client agree when
all of them are empty or all belong to one session.  Calls executed one at a
time keep them in agreement until a session is destroyed while the client still
holds its address and token, which `destroyCurrentSession` leaves alone.
-/

namespace JellyfinTv.Auth

open AuthenticationStore SessionState Library

/-- The address stored for a server. -/
def AuthenticationStore.addressOf (authentication : AuthenticationStore)
    (id : UUID) : Option String :=
  (authentication.getServer id).map AuthenticationStoreServer.address

/-- Nothing is published and the client is unset. -/
structure SignedOut (state : SessionState) : Prop where
  session : state.currentSession = none
  user : state.currentUser = none
  server : state.currentServer = none
  client : state.userApiClient.Unset

/-- Everything belongs to the session, at the stored address of its server. -/
structure SignedIn (state : SessionState) (target : Session)
    (address : String) : Prop where
  session : state.currentSession = some target
  stored :
    state.authenticationStore.addressOf target.serverId = some address
  user :
    ∃ user, state.currentUser = some user ∧
      user.baseUrl = some address ∧
      user.accessToken = some target.accessToken
  server :
    ∃ server, state.currentServer = some server ∧
      server.id = target.serverId
  baseUrl : state.userApiClient.baseUrl = some address
  accessToken : state.userApiClient.accessToken = some target.accessToken

def Coherent (state : SessionState) : Prop :=
  SignedOut state ∨ ∃ target address, SignedIn state target address

/-- The session, the published user and server, the client and the stored
addresses are the same. -/
structure SameSession (before after : SessionState) : Prop where
  session : after.currentSession = before.currentSession
  user : after.currentUser = before.currentUser
  server : after.currentServer = before.currentServer
  client : after.userApiClient = before.userApiClient
  addresses :
    after.authenticationStore.addressOf =
      before.authenticationStore.addressOf

namespace SameSession

theorem symm {before after : SessionState}
    (same : SameSession before after) : SameSession after before where
  session := same.session.symm
  user := same.user.symm
  server := same.server.symm
  client := same.client.symm
  addresses := same.addresses.symm

theorem coherent {before after : SessionState}
    (same : SameSession before after) (coherent : Coherent before) :
    Coherent after := by
  rcases coherent with signedOut | ⟨target, address, signedIn⟩
  · apply Or.inl
    exact
      { session := same.session.trans signedOut.session
        user := same.user.trans signedOut.user
        server := same.server.trans signedOut.server
        client := by
          rw [same.client]
          exact signedOut.client }
  · apply Or.inr
    refine ⟨target, address, ?_⟩
    exact
      { session := same.session.trans signedIn.session
        stored := by
          rw [same.addresses]
          exact signedIn.stored
        user := by
          rw [same.user]
          exact signedIn.user
        server := by
          rw [same.server]
          exact signedIn.server
        baseUrl := by
          rw [same.client]
          exact signedIn.baseUrl
        accessToken := by
          rw [same.client]
          exact signedIn.accessToken }

theorem coherent_iff {before after : SessionState}
    (same : SameSession before after) :
    Coherent after ↔ Coherent before :=
  ⟨same.symm.coherent, same.coherent⟩

theorem of_setState (session : SessionState)
    (state : SessionRepositoryState) :
    SameSession session (session.setState state) :=
  ⟨rfl, rfl, rfl, rfl, rfl⟩

theorem of_rememberLast (session : SessionState) (target : Session) :
    SameSession session (session.rememberLast target) :=
  ⟨rfl, rfl, rfl, rfl, rfl⟩

end SameSession

theorem coherent_setState (session : SessionState)
    (state : SessionRepositoryState) :
    Coherent (session.setState state) ↔ Coherent session :=
  (SameSession.of_setState session state).coherent_iff

theorem addressOf_assign {authentication : AuthenticationStore} {id : UUID}
    {server : AuthenticationStoreServer}
    (same : authentication.addressOf id = some server.address) :
    (authentication.assign id (some server)).addressOf =
      authentication.addressOf := by
  funext other
  by_cases isId : other = id
  · subst isId
    rw [same]
    simp [addressOf, AuthenticationStore.getServer, assign]
  · simp [addressOf, AuthenticationStore.getServer, assign, isId]

/-- Storing a refreshed copy of the stored record keeps every address. -/
theorem addressOf_refresh_of_stored {authentication : AuthenticationStore}
    {id : UUID} {server : AuthenticationStoreServer}
    (present : authentication.getServer id = some server) (now : Int)
    (answers : RefreshAnswers) (written : Bool) :
    (authentication.refresh id written
        (refreshedServer server now answers)).addressOf =
      authentication.addressOf := by
  cases copied : refreshedServer server now answers with
  | none =>
      rfl
  | some newServer =>
      apply addressOf_assign
      rw [addressOf, present, Option.map_some,
        refreshedServer_address copied]

/-- `getServer` keeps every stored address. -/
theorem addressOf_refresh {Version : Type} [LinearOrder Version]
    (sdk : Sdk Version) (id : UUID) (eagerUpdate : Bool) (now : Int)
    (answers : RefreshAnswers) (authentication : AuthenticationStore) :
    (authentication.refresh id answers.written
        (getServerCopy sdk id eagerUpdate now answers
          authentication)).addressOf =
      authentication.addressOf := by
  rw [getServerCopy]
  cases present : authentication.getServer id with
  | none =>
      rfl
  | some server =>
      rw [Option.bind_some, storedCopy]
      split_ifs
      · exact addressOf_refresh_of_stored present now answers _
      · rfl

theorem addressOf_changeUsers (authentication : AuthenticationStore)
    (server : UUID) (change : Users → Users) (written : Bool) :
    (finalState
        ((changeUsers server change written).run authentication)).addressOf =
      authentication.addressOf := by
  simp only [changeUsers, EStateM.run_bind, EStateM.run_get]
  cases stored : authentication.getServer server with
  | none =>
      rfl
  | some serverInfo =>
      apply addressOf_assign
      rw [addressOf, stored, Option.map_some]

/-! ## Runs of session calls -/

/-- The session calls with their answers; between them the preferences and the
users of a stored server may change. -/
inductive SessionEvent where
  | restoreSession (destroyOnly : Bool) (answers : SessionAnswers)
  | switchCurrentSession (serverId userId : UUID) (answers : SessionAnswers)
  | destroyCurrentSession
  | setPreferences (preferences : AuthenticationPreferences)
  | setUsers (server : UUID) (users : Users)

section Calls

variable {Version : Type} [LinearOrder Version]
  (platform : Platform Version)

/-- The state after an event. -/
def sessionStep (session : SessionState) : SessionEvent → SessionState
  | .restoreSession destroyOnly answers =>
      finalState ((restoreSession platform destroyOnly answers).run session)
  | .switchCurrentSession serverId userId answers =>
      finalState
        ((switchCurrentSession platform serverId userId answers).run session)
  | .destroyCurrentSession => session.destroy
  | .setPreferences preferences =>
      { session with authenticationPreferences := preferences }
  | .setUsers server users =>
      { session with
        authenticationStore :=
          finalState
            ((changeUsers server (fun _ => users) true).run
              session.authenticationStore) }

/-- The event takes the branch that destroys the current session. -/
def Destroys (session : SessionState) : SessionEvent → Prop
  | .restoreSession destroyOnly _ =>
      restoration platform destroyOnly session = .destroy
  | .destroyCurrentSession => True
  | _ => False

instance (session : SessionState) :
    ∀ event, Decidable (Destroys platform session event)
  | .restoreSession destroyOnly _ =>
      inferInstanceAs
        (Decidable (restoration platform destroyOnly session = .destroy))
  | .destroyCurrentSession => isTrue trivial
  | .switchCurrentSession _ _ _ => isFalse id
  | .setPreferences _ => isFalse id
  | .setUsers _ _ => isFalse id

/-- The session that the event asks for, with the answers to its requests. -/
def requested (session : SessionState) :
    SessionEvent → Option (Session × SessionAnswers)
  | .restoreSession destroyOnly answers =>
      match restoration platform destroyOnly session with
      | .change (some target) => some (target, answers)
      | _ => none
  | .switchCurrentSession serverId userId answers =>
      if session.IsCurrentUser userId then none
      else
        (session.createUserSession serverId userId).map fun target =>
          (target, answers)
  | _ => none

/-- Another user's session is bound to the client and `getCurrentUser`
fails. -/
structure FetchRefused (session : SessionState) (target : Session)
    (answers : SessionAnswers) : Prop where
  other : ¬ session.IsCurrentUser target.userId
  supported :
    ∃ server, session.serverOf platform target answers = some server ∧
      server.versionSupported platform.toSdk
  refused : answers.user = none

/-- No session is destroyed while the client holds an address or a token. -/
structure KeepsClient (session : SessionState) (event : SessionEvent) :
    Prop where
  destroyed : Destroys platform session event → session.userApiClient.Unset
  fetched :
    ∀ target answers,
      requested platform session event = some (target, answers) →
        ¬ FetchRefused platform session target answers

/-- Without a session the client has to be unset. -/
theorem coherent_iff_of_no_session {session : SessionState}
    (none : session.currentSession = none) :
    Coherent session ↔ SignedOut session := by
  constructor
  · intro either
    rcases either with signedOut | ⟨target, address, signedIn⟩
    · exact signedOut
    · have present := signedIn.session
      rw [none] at present
      cases present
  · exact Or.inl

theorem coherent_destroy_iff (session : SessionState) :
    Coherent session.destroy ↔ session.userApiClient.Unset := by
  rw [coherent_iff_of_no_session rfl]
  exact ⟨SignedOut.client, fun unset => ⟨rfl, rfl, rfl, unset⟩⟩

omit [LinearOrder Version] in
theorem coherent_signedOut (session : SessionState) :
    Coherent ((session.signedOut platform).withSession none) :=
  Or.inl ⟨rfl, rfl, rfl, rfl, rfl⟩

theorem sameSession_refreshed (session : SessionState) (target : Session)
    (answers : SessionAnswers) :
    SameSession session (session.refreshed platform target answers) where
  session := rfl
  user := rfl
  server := rfl
  client := rfl
  addresses :=
    addressOf_refresh platform.toSdk target.serverId true answers.now
      answers.refresh session.authenticationStore

/-- `setCurrentSession` returns, and breaks the agreement exactly when the user
of a newly bound session is refused. -/
theorem setCurrentSession_coherent_iff {session : SessionState}
    (coherent : Coherent session) (target : Session)
    (answers : SessionAnswers) :
    ∃ result final,
      (setCurrentSession platform (some target) answers).run session =
          .ok result final ∧
        (Coherent final ↔ ¬ FetchRefused platform session target answers) := by
  rw [setCurrentSession_some_run]
  have kept :
      Coherent (session.refreshed platform target answers) :=
    (sameSession_refreshed platform session target answers).coherent coherent
  split_ifs with current
  · refine ⟨true, session, rfl, ?_⟩
    exact iff_of_true coherent fun refused => refused.other current
  · cases view : session.serverOf platform target answers with
    | none =>
        refine ⟨false, _, rfl, iff_of_true kept ?_⟩
        intro refused
        obtain ⟨server, found, _⟩ := refused.supported
        rw [view] at found
        cases found
    | some server =>
        simp only
        split_ifs with supported
        · obtain ⟨stored, present, address, sameId⟩ :=
            getServer_refresh view
          rw [bindSession_run platform present address answers]
          cases answer : answers.user with
          | none =>
              refine ⟨false, _, rfl, iff_of_false ?_ ?_⟩
              · rw [coherent_destroy_iff]
                intro unset
                cases unset.1
              · rw [not_not]
                exact ⟨current, ⟨server, view, supported⟩, answer⟩
          | some user =>
              refine ⟨true, _, rfl, iff_of_true (Or.inr ?_) ?_⟩
              · refine ⟨target, server.address, ?_⟩
                exact
                  { session := rfl
                    stored := by
                      rw [← address]
                      exact congrArg
                        (Option.map AuthenticationStoreServer.address)
                        present
                    user := ⟨_, rfl, rfl, rfl⟩
                    server := ⟨server, rfl, sameId⟩
                    baseUrl := rfl
                    accessToken := rfl }
              · intro refused
                rw [refused.refused] at answer
                cases answer
        · refine ⟨false, _, rfl, iff_of_true kept ?_⟩
          intro refused
          obtain ⟨other, found, isSupported⟩ := refused.supported
          rw [view] at found
          cases found
          exact supported isSupported

theorem fetchRefused_setState {session : SessionState} {target : Session}
    {answers : SessionAnswers} (state : SessionRepositoryState) :
    FetchRefused platform (session.setState state) target answers ↔
      FetchRefused platform session target answers :=
  ⟨fun refused => ⟨refused.other, refused.supported, refused.refused⟩,
    fun refused => ⟨refused.other, refused.supported, refused.refused⟩⟩

/-- The calls publish another state while they run. -/
theorem setCurrentSession_setState_coherent_iff {session : SessionState}
    (coherent : Coherent session) (state : SessionRepositoryState)
    (target : Session) (answers : SessionAnswers) :
    ∃ result final,
      (setCurrentSession platform (some target) answers).run
          (session.setState state) =
          .ok result final ∧
        (Coherent final ↔ ¬ FetchRefused platform session target answers) := by
  have running := (coherent_setState session state).mpr coherent
  obtain ⟨result, final, ran, agrees⟩ :=
    setCurrentSession_coherent_iff platform running target answers
  rw [fetchRefused_setState] at agrees
  exact ⟨result, final, ran, agrees⟩

theorem restoreSession_run {destroyOnly : Bool} {answers : SessionAnswers}
    {session restored : SessionState}
    (ran :
      (restore platform answers
          (restoration platform destroyOnly session)).run
          (session.setState .restoringSession) =
        .ok () restored) :
    (restoreSession platform destroyOnly answers).run session =
      .ok () (restored.setState .ready) := by
  have decided :
      restoration platform destroyOnly
          (session.setState .restoringSession) =
        restoration platform destroyOnly session :=
    rfl
  simp only [restoreSession, EStateM.run_bind, EStateM.run_modify,
    EStateM.run_get, decided, ran]

/-- What a decision of `restoreSession` needs to keep the agreement. -/
def Survives (session : SessionState) (answers : SessionAnswers) :
    Restoration → Prop
  | .destroy => session.userApiClient.Unset
  | .keep => True
  | .change none => True
  | .change (some target) =>
      ¬ FetchRefused platform session target answers

theorem restore_coherent_iff {session : SessionState}
    (coherent : Coherent session) (answers : SessionAnswers)
    (decision : Restoration) :
    ∃ restored,
      (restore platform answers decision).run
          (session.setState .restoringSession) =
          .ok () restored ∧
        (Coherent restored ↔
          Survives platform session answers decision) := by
  have running := (coherent_setState session .restoringSession).mpr coherent
  cases decision with
  | destroy =>
      exact ⟨_, rfl, coherent_destroy_iff _⟩
  | keep =>
      exact ⟨_, rfl, iff_of_true running trivial⟩
  | change target =>
      cases target with
      | none =>
          exact
            ⟨_, rfl, iff_of_true (coherent_signedOut platform _) trivial⟩
      | some target =>
          obtain ⟨result, final, changed, agrees⟩ :=
            setCurrentSession_setState_coherent_iff platform coherent
              .restoringSession target answers
          exact ⟨final, run_discard changed, agrees⟩

theorem keepsClient_restoreSession_iff (session : SessionState)
    (destroyOnly : Bool) (answers : SessionAnswers) :
    KeepsClient platform session (.restoreSession destroyOnly answers) ↔
      Survives platform session answers
        (restoration platform destroyOnly session) := by
  constructor
  · intro keeps
    cases decision : restoration platform destroyOnly session with
    | destroy =>
        exact keeps.destroyed decision
    | keep =>
        trivial
    | change target =>
        cases target with
        | none =>
            trivial
        | some target =>
            apply keeps.fetched
            rw [requested, decision]
  · intro survives
    constructor
    · intro destroys
      rw [Destroys] at destroys
      rw [destroys] at survives
      exact survives
    · intro target answered asked
      rw [requested] at asked
      split at asked
      · rename_i decision
        cases asked
        rw [decision] at survives
        exact survives
      · cases asked

theorem restoreSession_coherent_iff {session : SessionState}
    (coherent : Coherent session) (destroyOnly : Bool)
    (answers : SessionAnswers) :
    Coherent
        (sessionStep platform session
          (.restoreSession destroyOnly answers)) ↔
      KeepsClient platform session
        (.restoreSession destroyOnly answers) := by
  obtain ⟨restored, ran, agrees⟩ :=
    restore_coherent_iff platform coherent answers
      (restoration platform destroyOnly session)
  rw [sessionStep, restoreSession_run platform ran, finalState_ok,
    coherent_setState, agrees, keepsClient_restoreSession_iff]

/-- `switchCurrentSession` refuses the current user, and else tries the
session with the stored token. -/
theorem switchCurrentSession_run (session : SessionState)
    (serverId userId : UUID) (answers : SessionAnswers) :
    (switchCurrentSession platform serverId userId answers).run session =
      if session.IsCurrentUser userId then .ok false session
      else
        let switching := session.setState .switchingSession
        match session.createUserSession serverId userId with
        | none => .ok false (switching.setState .ready)
        | some target =>
            match (setCurrentSession platform (some target) answers).run
                switching with
            | .ok switched final => .ok switched (final.setState .ready)
            | .error exception final => .error exception final := by
  simp only [switchCurrentSession, EStateM.run_bind, EStateM.run_get]
  split_ifs
  · rfl
  · have sameAccount :
        (session.setState .switchingSession).createUserSession serverId
            userId =
          session.createUserSession serverId userId :=
      rfl
    simp only [EStateM.run_bind, EStateM.run_modify, EStateM.run_get,
      sameAccount]
    cases session.createUserSession serverId userId with
    | none =>
        rfl
    | some target =>
        simp only [EStateM.run_bind]
        cases (setCurrentSession platform (some target) answers).run
            (session.setState .switchingSession) <;> rfl

theorem switchCurrentSession_coherent_iff {session : SessionState}
    (coherent : Coherent session) (serverId userId : UUID)
    (answers : SessionAnswers) :
    Coherent
        (sessionStep platform session
          (.switchCurrentSession serverId userId answers)) ↔
      KeepsClient platform session
        (.switchCurrentSession serverId userId answers) := by
  rw [sessionStep, switchCurrentSession_run]
  split_ifs with current
  · refine iff_of_true coherent ⟨False.elim, ?_⟩
    intro target answered asked
    simp [requested, current] at asked
  · cases created : session.createUserSession serverId userId with
    | none =>
        have kept :
            Coherent
              ((session.setState .switchingSession).setState .ready) := by
          rw [coherent_setState, coherent_setState]
          exact coherent
        refine iff_of_true kept ⟨False.elim, ?_⟩
        intro target answered asked
        simp [requested, current, created] at asked
    | some target =>
        obtain ⟨result, final, changed, agrees⟩ :=
          setCurrentSession_setState_coherent_iff platform coherent
            .switchingSession target answers
        simp only [changed]
        refine (coherent_setState final .ready).trans (agrees.trans ?_)
        constructor
        · intro accepted
          refine ⟨False.elim, ?_⟩
          intro asked answered same
          simp only [requested, if_neg current, created, Option.map_some,
            Option.some.injEq, Prod.mk.injEq] at same
          obtain ⟨rfl, rfl⟩ := same
          exact accepted
        · intro keeps
          apply keeps.fetched
          rw [requested, if_neg current, created]
          rfl

/-- An event keeps the agreement exactly when it destroys no session whose
address and token the client still holds. -/
theorem sessionStep_coherent_iff {session : SessionState}
    (coherent : Coherent session) (event : SessionEvent) :
    Coherent (sessionStep platform session event) ↔
      KeepsClient platform session event := by
  cases event with
  | restoreSession destroyOnly answers =>
      exact restoreSession_coherent_iff platform coherent destroyOnly answers
  | switchCurrentSession serverId userId answers =>
      exact switchCurrentSession_coherent_iff platform coherent serverId
        userId answers
  | destroyCurrentSession =>
      rw [sessionStep, coherent_destroy_iff]
      constructor
      · intro unset
        refine ⟨fun _ => unset, ?_⟩
        intro target answers asked
        cases asked
      · intro keeps
        exact keeps.destroyed trivial
  | setPreferences preferences =>
      have same :
          SameSession session
            (sessionStep platform session (.setPreferences preferences)) :=
        ⟨rfl, rfl, rfl, rfl, rfl⟩
      refine iff_of_true (same.coherent coherent) ⟨False.elim, ?_⟩
      intro target answers asked
      cases asked
  | setUsers server users =>
      have same :
          SameSession session
            (sessionStep platform session (.setUsers server users)) :=
        ⟨rfl, rfl, rfl, rfl,
          addressOf_changeUsers session.authenticationStore server _ true⟩
      refine iff_of_true (same.coherent coherent) ⟨False.elim, ?_⟩
      intro target answers asked
      cases asked

/-- After each event of a run from the start of the application the session,
the user, the server and the client agree, exactly when no event destroys a
session, explicitly or because its user is refused, while the client holds an
address or a token. -/
theorem session_coherent_iff
    (authenticationStore : AuthenticationStore)
    (authenticationPreferences : AuthenticationPreferences)
    (telemetryPreferences : TelemetryPreferences)
    (events : List SessionEvent) :
    let initial :=
      SessionState.initial platform.defaultDeviceInfo authenticationStore
        authenticationPreferences telemetryPreferences
    (∀ early, early <+: events →
      Coherent (run (sessionStep platform) initial early)) ↔
      Admitted (sessionStep platform) (KeepsClient platform) initial
        events := by
  intro initial
  have start : Coherent initial := Or.inl ⟨rfl, rfl, rfl, rfl, rfl⟩
  apply property_throughout_iff_admitted _ events start
  intro session event coherent
  exact sessionStep_coherent_iff platform coherent event

end Calls

/-- A platform with one supported version; versions are compared as numbers. -/
def samplePlatform : Platform Nat where
  fromString := fun text =>
    if text = "10.10.0" then some 10010000 else none
  minimumServerVersion := 10010000
  toUUIDOrNull := fun _ => none
  logFileUrl := fun baseUrl => baseUrl ++ "/ClientLog/Document"
  sha1Hex := fun text =>
    if text = "device+00000000-0000-0000-0000-000000000002" then
      "3c6ac0eff73a869098e851fa091e240b56d6f44a"
    else "a30a34c8b55b69b70ac92ce7953f1adf525a5d0b"
  defaultDeviceInfo := ⟨"device", "television"⟩

/-- One server with two signed-in users. -/
def sampleServer : AuthenticationStoreServer where
  name := "server"
  address := "http://server:8096"
  version := some "10.10.0"
  loginDisclaimer := none
  splashscreenEnabled := false
  setupCompleted := true
  lastUsed := 0
  lastRefreshed := 0
  users :=
    Function.update
      (Function.update (fun _ => none) ⟨2⟩
        (some ⟨"first", 0, none, some "first token"⟩))
      ⟨3⟩ (some ⟨"second", 0, none, some "second token"⟩)

def sampleState : SessionState :=
  let servers : Servers :=
    Function.update (fun _ => none) ⟨1⟩ (some sampleServer)
  SessionState.initial samplePlatform.defaultDeviceInfo ⟨servers, servers⟩
    ⟨.lastUser, "", "", false, "", ""⟩ ⟨"", ""⟩

/-- The answers for a server that needs no refresh and for one of its users. -/
def sampleAnswers (userId : UUID) : SessionAnswers where
  now := 0
  refresh := ⟨.content ⟨none, false⟩, some ⟨none, none, none⟩, true⟩
  user := some ⟨userId, some "user", none⟩

/-- After a switch and `destroyCurrentSession` nothing is published, but the
client still sends the token of the destroyed session. -/
theorem destroyed_session_keeps_client_token :
    let final :=
      run (sessionStep samplePlatform) sampleState
        [.switchCurrentSession ⟨1⟩ ⟨2⟩ (sampleAnswers ⟨2⟩),
          .destroyCurrentSession]
    final.currentSession = none ∧
      final.userApiClient.accessToken = some "first token" ∧
      ¬ Coherent final := by
  intro final
  have ended : final.currentSession = none := by decide
  have kept : final.userApiClient.accessToken = some "first token" := by
    decide
  refine ⟨ended, kept, ?_⟩
  rw [coherent_iff_of_no_session ended]
  intro signedOut
  rw [signedOut.client.2] at kept
  cases kept

end JellyfinTv.Auth
