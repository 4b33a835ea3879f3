import Mathlib.Data.List.Induction
import JellyfinTv.Library.Tasks
import JellyfinTv.Auth.SessionCoherence

/-!
# Concurrent session changes

`setCurrentSession` suspends for the server refresh, for `getCurrentUser` and
for `onSessionChanged`.  `restoreSession` holds the mutex meanwhile, but
`switchCurrentSession` does not take it.  A call that runs alone is the call of
the repository; calls that do not overlap publish `ready` only when none is in
progress and leave everything to one requested session.
-/

namespace JellyfinTv.Auth

open AuthenticationStore SessionState Library

/-- The state that the calls share: the session state, the mutex and the
history of the requested sessions. -/
structure SharedSession where
  session : SessionState
  locked : Bool
  requests : List Session

/-- The calls that change the session, with the answers to their requests. -/
inductive SessionCall where
  | restoreSession (destroyOnly : Bool) (answers : SessionAnswers)
  | switchCurrentSession (serverId userId : UUID) (answers : SessionAnswers)
  deriving DecidableEq, Repr

/-- The function that waits for `setCurrentSession`. -/
inductive SessionCaller where
  | restoreSession
  | switchCurrentSession
  deriving DecidableEq, Repr

/-- Where a call is suspended: at the mutex, in the requests of the server
refresh with the record it has read, in `getCurrentUser` with the settings of
the request, or in `onSessionChanged`. -/
inductive SessionTask where
  | lock (destroyOnly : Bool) (answers : SessionAnswers)
  | refreshServer (target : Session) (server : AuthenticationStoreServer)
      (answers : SessionAnswers) (caller : SessionCaller)
  | fetchUser (target : Session) (server : Server)
      (baseUrl accessToken : Option String) (answers : SessionAnswers)
      (caller : SessionCaller)
  | sessionChanged (target : Option Session) (caller : SessionCaller)

/-- How a call ends. -/
inductive SessionReply where
  | restored
  | switched (success : Bool)
  | thrown (exception : AuthException)
  deriving DecidableEq, Repr

abbrev SessionProgress := Progress SharedSession SessionTask SessionReply

namespace SharedSession

def change (shared : SharedSession)
    (update : SessionState → SessionState) : SharedSession :=
  { shared with session := update shared.session }

/-- A call asks for a session. -/
def request (shared : SharedSession) (target : Session) : SharedSession :=
  { shared with requests := shared.requests ++ [target] }

end SharedSession

/-- The end of the calling function: `restoreSession` leaves the mutex. -/
def finish (success : Bool) (shared : SharedSession) :
    SessionCaller → SessionProgress
  | .restoreSession =>
      .finished
        { shared.change (fun session => session.setState .ready) with
          locked := false }
        .restored
  | .switchCurrentSession =>
      .finished (shared.change fun session => session.setState .ready)
        (.switched success)

/-- An exception passes the calling function, which leaves the mutex. -/
def abort (exception : AuthException) (shared : SharedSession) :
    SessionCaller → SessionProgress
  | .restoreSession =>
      .finished { shared with locked := false } (.thrown exception)
  | .switchCurrentSession => .finished shared (.thrown exception)

section Steps

variable {Version : Type} (platform : Platform Version)

/-- `setCurrentSession` from the binding of the client to its next
suspension. -/
def startBind (target : Session) (server : Server)
    (answers : SessionAnswers) (caller : SessionCaller)
    (shared : SharedSession) : SessionProgress :=
  match shared.session.authenticationStore.getServer target.serverId with
  | none =>
      .suspended
        (shared.change fun session =>
          { session with currentUser := none, currentServer := none })
        (.sessionChanged (some target) caller)
  | some stored =>
      let bound :=
        shared.change fun session =>
          session.bound platform target stored.address
      .suspended bound
        (.fetchUser target server bound.session.userApiClient.baseUrl
          bound.session.userApiClient.accessToken answers caller)

/-- `setCurrentSession` after `getCurrentUser`. -/
def resumeFetch (target : Session) (server : Server)
    (baseUrl accessToken : Option String) (answers : SessionAnswers)
    (caller : SessionCaller) (shared : SharedSession) : SessionProgress :=
  match answers.user with
  | none => finish false (shared.change destroy) caller
  | some user =>
      let published :=
        shared.change fun session =>
          session.identified server ⟨user, baseUrl, accessToken⟩
      match published.session.userApiClient.baseUrl with
      | none => abort .apiClientException published caller
      | some url =>
          .suspended
            (published.change fun session =>
              session.reporting platform target url)
            (.sessionChanged (some target) caller)

variable [LinearOrder Version]

/-- `setCurrentSession` once the server is known. -/
def startChecked (target : Session) (server : Server)
    (answers : SessionAnswers) (caller : SessionCaller)
    (shared : SharedSession) : SessionProgress :=
  if server.versionSupported platform.toSdk then
    startBind platform target server answers caller shared
  else finish false shared caller

/-- `setCurrentSession` up to its first suspension. -/
def startChange (target : Option Session) (answers : SessionAnswers)
    (caller : SessionCaller) (shared : SharedSession) : SessionProgress :=
  match target with
  | none =>
      .suspended (shared.change fun session => session.signedOut platform)
        (.sessionChanged none caller)
  | some target =>
      let asked := shared.request target
      if asked.session.IsCurrentUser target.userId then
        finish true asked caller
      else
        let remembered :=
          asked.change fun session => session.rememberLast target
        match remembered.session.authenticationStore.getServer
            target.serverId with
        | none => finish false remembered caller
        | some server =>
            if RefreshDue server (eagerForce platform.toSdk true server)
                answers.now then
              .suspended remembered
                (.refreshServer target server answers caller)
            else
              startChecked platform target
                (server.asServer target.serverId) answers caller remembered

/-- `restoreSession` with the mutex taken. -/
def startRestore (destroyOnly : Bool) (answers : SessionAnswers)
    (shared : SharedSession) : SessionProgress :=
  let entered :=
    { shared.change (fun session => session.setState .restoringSession) with
      locked := true }
  match restoration platform destroyOnly entered.session with
  | .destroy => finish true (entered.change destroy) .restoreSession
  | .keep => finish true entered .restoreSession
  | .change target =>
      startChange platform target answers .restoreSession entered

def startSessionCall (call : SessionCall) (shared : SharedSession) :
    SessionProgress :=
  match call with
  | .restoreSession destroyOnly answers =>
      if shared.locked then .suspended shared (.lock destroyOnly answers)
      else startRestore platform destroyOnly answers shared
  | .switchCurrentSession serverId userId answers =>
      if shared.session.IsCurrentUser userId then
        .finished shared (.switched false)
      else
        let entered :=
          shared.change fun session => session.setState .switchingSession
        match entered.session.createUserSession serverId userId with
        | none => finish false entered .switchCurrentSession
        | some target =>
            startChange platform (some target) answers
              .switchCurrentSession entered

/-- The rest of the server refresh. -/
def resumeServer (target : Session) (server : AuthenticationStoreServer)
    (answers : SessionAnswers) (caller : SessionCaller)
    (shared : SharedSession) : SessionProgress :=
  let copy := refreshedServer server answers.now answers.refresh
  startChecked platform target ((copy.getD server).asServer target.serverId)
    answers caller
    (shared.change fun session =>
      { session with
        authenticationStore :=
          session.authenticationStore.refresh target.serverId
            answers.refresh.written copy })

def resumeSessionCall (task : SessionTask) (shared : SharedSession) :
    SessionProgress :=
  match task with
  | .lock destroyOnly answers =>
      if shared.locked then .suspended shared (.lock destroyOnly answers)
      else startRestore platform destroyOnly answers shared
  | .refreshServer target server answers caller =>
      resumeServer platform target server answers caller shared
  | .fetchUser target server baseUrl accessToken answers caller =>
      resumeFetch platform target server baseUrl accessToken answers caller
        shared
  | .sessionChanged target caller =>
      finish true (shared.change fun session => session.withSession target)
        caller

/-- The session repository as a system of concurrent calls. -/
def sessionSystem :
    System SharedSession SessionCall SessionTask SessionReply where
  start := startSessionCall platform
  resume := resumeSessionCall platform

/-! ## Calls that run alone -/

/-- Binding the client alone ends like `bindSession`. -/
theorem alone_startBind {target : Session} {server : Server}
    {shared : SharedSession} {stored : AuthenticationStoreServer}
    (present :
      shared.session.authenticationStore.getServer target.serverId =
        some stored)
    (address : stored.address = server.address)
    (answers : SessionAnswers) (caller : SessionCaller) :
    ∃ steps result final,
      (bindSession platform (some target) (some server) answers).run
          shared.session =
          .ok result final ∧
        (sessionSystem platform).alone steps
            (startBind platform target server answers caller shared) =
          finish result { shared with session := final } caller := by
  rw [bindSession_run platform present address answers, startBind, present]
  simp only [address]
  cases answer : answers.user with
  | none =>
      refine ⟨1, false, _, rfl, ?_⟩
      simp only [System.alone, sessionSystem, resumeSessionCall,
        resumeFetch, answer]
      rfl
  | some user =>
      refine ⟨2, true, _, rfl, ?_⟩
      simp only [System.alone, sessionSystem, resumeSessionCall,
        resumeFetch, answer]
      rfl

theorem alone_startChecked {target : Session} {server : Server}
    {shared : SharedSession} {stored : AuthenticationStoreServer}
    (present :
      shared.session.authenticationStore.getServer target.serverId =
        some stored)
    (address : stored.address = server.address)
    (answers : SessionAnswers) (caller : SessionCaller) :
    ∃ steps result final,
      (if server.versionSupported platform.toSdk then
          (bindSession platform (some target) (some server) answers).run
            shared.session
        else .ok false shared.session) =
          .ok result final ∧
        (sessionSystem platform).alone steps
            (startChecked platform target server answers caller shared) =
          finish result { shared with session := final } caller := by
  rw [startChecked]
  split_ifs
  · exact alone_startBind platform present address answers caller
  · exact ⟨0, false, shared.session, rfl, rfl⟩

/-- The server and the store after the refresh of a stored record. -/
theorem serverOf_of_stored {session : SessionState} {target : Session}
    {server : AuthenticationStoreServer}
    (present :
      session.authenticationStore.getServer target.serverId = some server)
    (answers : SessionAnswers) :
    let copy :=
      storedCopy server (eagerForce platform.toSdk true server) answers.now
        answers.refresh
    session.serverOf platform target answers =
        some ((copy.getD server).asServer target.serverId) ∧
      session.refreshed platform target answers =
        { session.rememberLast target with
          authenticationStore :=
            session.authenticationStore.refresh target.serverId
              answers.refresh.written copy } := by
  intro copy
  have copied :
      getServerCopy platform.toSdk target.serverId true answers.now
          answers.refresh session.authenticationStore =
        copy := by
    rw [getServerCopy, present, Option.bind_some]
  rw [serverOf, getServerView, refreshed, copied, present]
  cases copy <;> exact ⟨rfl, rfl⟩

/-- `setCurrentSession` alone returns what the repository returns. -/
theorem alone_startChange (target : Option Session)
    (answers : SessionAnswers) (caller : SessionCaller)
    (shared : SharedSession) :
    ∃ steps result final,
      (setCurrentSession platform target answers).run shared.session =
          .ok result final ∧
        (sessionSystem platform).alone steps
            (startChange platform target answers caller shared) =
          finish result
            { shared with
              session := final
              requests := shared.requests ++ target.toList }
            caller := by
  cases target with
  | none =>
      refine ⟨1, true, _, setCurrentSession_none_run platform answers
        shared.session, ?_⟩
      rw [Option.toList_none, List.append_nil]
      rfl
  | some target =>
      rw [setCurrentSession_some_run]
      have sameSession : (shared.request target).session = shared.session :=
        rfl
      simp only [startChange, sameSession]
      split_ifs with current
      · exact ⟨0, true, shared.session, rfl, rfl⟩
      · have sameStore :
            ((shared.request target).change fun session =>
                session.rememberLast target).session.authenticationStore =
              shared.session.authenticationStore :=
          rfl
        rw [sameStore]
        cases present :
            shared.session.authenticationStore.getServer
              target.serverId with
        | none =>
            have missing :
                shared.session.serverOf platform target answers = none := by
              simp [serverOf, getServerView, getServerCopy, present]
            have unchanged :
                shared.session.refreshed platform target answers =
                  shared.session.rememberLast target := by
              simp [refreshed, getServerCopy, present,
                AuthenticationStore.refresh, rememberLast]
            rw [missing, unchanged]
            exact ⟨0, false, _, rfl, rfl⟩
        | some server =>
            obtain ⟨view, stored⟩ :=
              serverOf_of_stored platform present answers
            obtain ⟨record, kept, address, _⟩ := getServer_refresh view
            have checked :=
              alone_startChecked platform
                (kept :
                  ({ shared.request target with
                    session :=
                      shared.session.refreshed platform target
                        answers }).session.authenticationStore.getServer
                          target.serverId =
                    some record)
                address answers caller
            obtain ⟨steps, result, final, ran, ended⟩ := checked
            rw [view]
            simp only
            by_cases due :
                RefreshDue server (eagerForce platform.toSdk true server)
                  answers.now
            · rw [if_pos due]
              refine ⟨steps + 1, result, final, ran, ?_⟩
              rw [stored] at ended
              simp only [storedCopy, if_pos due] at ended
              exact ended
            · rw [if_neg due]
              refine ⟨steps, result, final, ran, ?_⟩
              rw [stored] at ended
              simp only [storedCopy, if_neg due] at ended
              exact ended

theorem alone_restoreSession {shared : SharedSession}
    (unlocked : shared.locked = false) (destroyOnly : Bool)
    (answers : SessionAnswers) :
    ∃ steps final,
      (restoreSession platform destroyOnly answers).run shared.session =
          .ok () final.session ∧
        final.locked = false ∧
        (sessionSystem platform).alone steps
            (startSessionCall platform (.restoreSession destroyOnly answers)
              shared) =
          .finished final .restored := by
  have decided :
      restoration platform destroyOnly
          (shared.session.setState .restoringSession) =
        restoration platform destroyOnly shared.session :=
    rfl
  simp only [startSessionCall, unlocked, startRestore,
    SharedSession.change, decided, Bool.false_eq_true, if_false]
  cases decision : restoration platform destroyOnly shared.session with
  | destroy =>
      refine ⟨0, _, ?_, ?_, rfl⟩
      · apply restoreSession_run
        rw [decision]
        rfl
      · rfl
  | keep =>
      refine ⟨0, _, ?_, ?_, rfl⟩
      · apply restoreSession_run
        rw [decision]
        rfl
      · rfl
  | change target =>
      obtain ⟨steps, result, final, ran, ended⟩ :=
        alone_startChange platform target answers .restoreSession
          { shared with
            session := shared.session.setState .restoringSession
            locked := true }
      refine ⟨steps, _, ?_, ?_, ended⟩
      · apply restoreSession_run
        rw [decision, restore]
        exact run_discard ran
      · rfl

theorem alone_switchCurrentSession {shared : SharedSession}
    (unlocked : shared.locked = false) (serverId userId : UUID)
    (answers : SessionAnswers) :
    ∃ steps success final,
      (switchCurrentSession platform serverId userId answers).run
          shared.session =
          .ok success final.session ∧
        final.locked = false ∧
        (sessionSystem platform).alone steps
            (startSessionCall platform
              (.switchCurrentSession serverId userId answers) shared) =
          .finished final (.switched success) := by
  have sameAccount :
      (shared.session.setState .switchingSession).createUserSession serverId
          userId =
        shared.session.createUserSession serverId userId :=
    rfl
  simp only [startSessionCall, switchCurrentSession, EStateM.run_bind,
    EStateM.run_get]
  split_ifs with current
  · exact ⟨0, false, shared, rfl, unlocked, rfl⟩
  · simp only [SharedSession.change, EStateM.run_bind, EStateM.run_modify,
      EStateM.run_get, sameAccount]
    cases shared.session.createUserSession serverId userId with
    | none =>
        refine ⟨0, false, _, ?_, ?_, rfl⟩
        · rfl
        · exact unlocked
    | some target =>
        obtain ⟨steps, result, final, ran, ended⟩ :=
          alone_startChange platform (some target) answers
            .switchCurrentSession
            { shared with
              session := shared.session.setState .switchingSession }
        simp only [EStateM.run_bind, ran]
        refine ⟨steps, result, _, ?_, ?_, ended⟩
        · rfl
        · exact unlocked

/-! ## Calls that do not overlap -/

/-- The current session is one of the requested ones. -/
def Requested (shared : SharedSession) : Prop :=
  ∀ target, shared.session.currentSession = some target →
    target ∈ shared.requests

/-- No call is in progress. -/
structure Idle (shared : SharedSession) : Prop where
  ready : shared.session.state = .ready
  unlocked : shared.locked = false
  coherent : Coherent shared.session
  requested : Requested shared

def SessionCaller.locks : SessionCaller → Bool
  | restoreSession => true
  | switchCurrentSession => false

/-- Only the given function is in progress. -/
structure Running (caller : SessionCaller) (shared : SharedSession) :
    Prop where
  busy : shared.session.state ≠ .ready
  locked : shared.locked = caller.locks

/-- The client is bound to the session at the stored address of its server. -/
structure Bound (shared : SharedSession) (target : Session)
    (address : String) : Prop where
  stored :
    shared.session.authenticationStore.addressOf target.serverId =
      some address
  baseUrl : shared.session.userApiClient.baseUrl = some address
  accessToken :
    shared.session.userApiClient.accessToken = some target.accessToken

/-- What a suspended call can rely on while no other call runs. -/
def Stage (shared : SharedSession) : SessionTask → Prop
  | .lock _ _ => False
  | .refreshServer target server answers caller =>
      Running caller shared ∧ Coherent shared.session ∧
        Requested shared ∧ target ∈ shared.requests ∧
        shared.session.authenticationStore.getServer target.serverId =
          some server ∧
        answers.user ≠ none
  | .fetchUser target server baseUrl accessToken answers caller =>
      Running caller shared ∧ target ∈ shared.requests ∧
        server.id = target.serverId ∧ answers.user ≠ none ∧
        ∃ address, Bound shared target address ∧
          baseUrl = some address ∧ accessToken = some target.accessToken
  | .sessionChanged target caller =>
      Running caller shared ∧
        Coherent (shared.session.withSession target) ∧
        ∀ asked, target = some asked → asked ∈ shared.requests

/-- The call has finished in an idle state or waits at a sound stage. -/
def Serialised : SessionProgress → Prop
  | .suspended shared task => Stage shared task
  | .finished shared _ => Idle shared

theorem stage_busy {shared : SharedSession} {task : SessionTask}
    (stage : Stage shared task) : shared.session.state ≠ .ready := by
  cases task with
  | lock destroyOnly answers =>
      exact stage.elim
  | refreshServer | fetchUser | sessionChanged =>
      exact stage.1.busy

theorem finish_serialised {shared : SharedSession} {caller : SessionCaller}
    (success : Bool) (locked : shared.locked = caller.locks)
    (coherent : Coherent shared.session) (requested : Requested shared) :
    Serialised (finish success shared caller) := by
  have kept : Coherent (shared.session.setState .ready) :=
    (coherent_setState shared.session .ready).mpr coherent
  cases caller with
  | restoreSession =>
      exact ⟨rfl, rfl, kept, requested⟩
  | switchCurrentSession =>
      exact ⟨rfl, locked, kept, requested⟩

section Progression

variable {target : Session} {server : Server} {answers : SessionAnswers}
  {caller : SessionCaller} {shared : SharedSession}
  {stored : AuthenticationStoreServer}

omit [LinearOrder Version] in
theorem startBind_serialised (running : Running caller shared)
    (asked : target ∈ shared.requests)
    (present :
      shared.session.authenticationStore.getServer target.serverId =
        some stored)
    (sameId : server.id = target.serverId)
    (answered : answers.user ≠ none) :
    Serialised
      (startBind platform target server answers caller shared) := by
  rw [startBind, present]
  refine ⟨⟨running.busy, running.locked⟩, asked, sameId, answered, ?_⟩
  refine ⟨stored.address, ⟨?_, rfl, rfl⟩, rfl, rfl⟩
  exact congrArg (Option.map AuthenticationStoreServer.address) present

theorem startChecked_serialised (running : Running caller shared)
    (coherent : Coherent shared.session) (requested : Requested shared)
    (asked : target ∈ shared.requests)
    (present :
      shared.session.authenticationStore.getServer target.serverId =
        some stored)
    (sameId : server.id = target.serverId)
    (answered : answers.user ≠ none) :
    Serialised
      (startChecked platform target server answers caller shared) := by
  rw [startChecked]
  split
  · exact startBind_serialised platform running asked present sameId
      answered
  · exact finish_serialised false running.locked coherent requested

theorem startChange_serialised {target : Option Session}
    (running : Running caller shared)
    (coherent : Coherent shared.session) (requested : Requested shared)
    (answered : answers.user ≠ none) :
    Serialised (startChange platform target answers caller shared) := by
  cases target with
  | none =>
      refine ⟨⟨running.busy, running.locked⟩, ?_, ?_⟩
      · exact coherent_signedOut platform shared.session
      · intro asked absent
        cases absent
  | some target =>
      have recorded : Requested (shared.request target) := by
        intro current published
        exact List.mem_append_left _ (requested current published)
      have asked : target ∈ (shared.request target).requests :=
        List.mem_append_right _ (List.mem_singleton_self target)
      have kept : Coherent (shared.session.rememberLast target) :=
        (SameSession.of_rememberLast shared.session target).coherent coherent
      simp only [startChange]
      split
      · exact finish_serialised true running.locked coherent recorded
      · split
        · exact finish_serialised false running.locked kept recorded
        · rename_i server present
          split
          · exact ⟨⟨running.busy, running.locked⟩, kept, recorded, asked,
              present, answered⟩
          · exact startChecked_serialised platform
              ⟨running.busy, running.locked⟩ kept recorded asked present
              rfl answered

theorem resumeServer_serialised
    (stage :
      Stage shared (.refreshServer target stored answers caller)) :
    Serialised
      (resumeServer platform target stored answers caller shared) := by
  obtain ⟨running, coherent, requested, asked, present, answered⟩ := stage
  have same :
      SameSession shared.session
        { shared.session with
          authenticationStore :=
            shared.session.authenticationStore.refresh target.serverId
              answers.refresh.written
              (refreshedServer stored answers.now answers.refresh) } :=
    ⟨rfl, rfl, rfl, rfl,
      addressOf_refresh_of_stored present answers.now answers.refresh _⟩
  have kept :
      ∃ record,
        (shared.session.authenticationStore.refresh target.serverId
            answers.refresh.written
            (refreshedServer stored answers.now
              answers.refresh)).getServer target.serverId =
          some record := by
    cases refreshedServer stored answers.now answers.refresh with
    | none =>
        exact ⟨stored, present⟩
    | some newServer =>
        exact ⟨newServer, Function.update_self _ _ _⟩
  obtain ⟨record, found⟩ := kept
  exact startChecked_serialised platform ⟨running.busy, running.locked⟩
    (same.coherent coherent) requested asked found rfl answered

omit [LinearOrder Version] in
theorem resumeFetch_serialised {baseUrl accessToken : Option String}
    (stage :
      Stage shared
        (.fetchUser target server baseUrl accessToken answers caller)) :
    Serialised
      (resumeFetch platform target server baseUrl accessToken answers caller
        shared) := by
  obtain ⟨running, asked, sameId, answered, address, bound, rfl, rfl⟩ :=
    stage
  obtain ⟨user, answer⟩ := Option.ne_none_iff_exists'.mp answered
  have client :
      (shared.change fun session =>
          session.identified server
            ⟨user, some address,
              some target.accessToken⟩).session.userApiClient.baseUrl =
        some address :=
    bound.baseUrl
  simp only [resumeFetch, answer, client]
  refine ⟨⟨running.busy, running.locked⟩, Or.inr ⟨target, address, ?_⟩, ?_⟩
  · exact
      { session := rfl
        stored := bound.stored
        user := ⟨_, rfl, rfl, rfl⟩
        server := ⟨server, rfl, sameId⟩
        baseUrl := bound.baseUrl
        accessToken := bound.accessToken }
  · intro current same
    cases same
    exact asked

end Progression

theorem resume_serialised {shared : SharedSession} {task : SessionTask}
    (stage : Stage shared task) :
    Serialised (resumeSessionCall platform task shared) := by
  cases task with
  | lock destroyOnly answers =>
      exact stage.elim
  | refreshServer target server answers caller =>
      exact resumeServer_serialised platform stage
  | fetchUser target server baseUrl accessToken answers caller =>
      exact resumeFetch_serialised platform stage
  | sessionChanged target caller =>
      exact finish_serialised true stage.1.locked stage.2.1 stage.2.2

namespace SessionCall

def answers : SessionCall → SessionAnswers
  | restoreSession _ answers => answers
  | switchCurrentSession _ _ answers => answers

/-- All requests of the call succeed. -/
def Succeeds (call : SessionCall) : Prop :=
  call.answers.refresh.Succeeds ∧ call.answers.user ≠ none

instance (call : SessionCall) : Decidable call.Succeeds :=
  inferInstanceAs (Decidable (_ ∧ _))

def event : SessionCall → SessionEvent
  | restoreSession destroyOnly answers =>
      .restoreSession destroyOnly answers
  | switchCurrentSession serverId userId answers =>
      .switchCurrentSession serverId userId answers

/-- `switchCurrentSession` for the current user does nothing. -/
def ReturnsAtOnce (session : SessionState) : SessionCall → Prop
  | restoreSession _ _ => False
  | switchCurrentSession _ userId _ => session.IsCurrentUser userId

instance (session : SessionState) :
    ∀ call : SessionCall, Decidable (call.ReturnsAtOnce session)
  | restoreSession _ _ => isFalse id
  | switchCurrentSession _ userId _ =>
      inferInstanceAs (Decidable (session.IsCurrentUser userId))

end SessionCall

theorem startSessionCall_of_returnsAtOnce {shared : SharedSession}
    {call : SessionCall}
    (atOnce : call.ReturnsAtOnce shared.session) :
    startSessionCall platform call shared =
      .finished shared (.switched false) := by
  cases call with
  | restoreSession destroyOnly answers =>
      exact atOnce.elim
  | switchCurrentSession serverId userId answers =>
      exact if_pos atOnce

theorem startSessionCall_serialised {shared : SharedSession}
    {call : SessionCall} (idle : Idle shared)
    (unset :
      Destroys platform shared.session call.event →
        shared.session.userApiClient.Unset)
    (answered : call.answers.user ≠ none) :
    Serialised (startSessionCall platform call shared) := by
  cases call with
  | restoreSession destroyOnly answers =>
      have entered :
          Coherent (shared.session.setState .restoringSession) :=
        (coherent_setState shared.session _).mpr idle.coherent
      have decided :
          restoration platform destroyOnly
              (shared.session.setState .restoringSession) =
            restoration platform destroyOnly shared.session :=
        rfl
      simp only [startSessionCall, idle.unlocked, startRestore,
        SharedSession.change, decided, Bool.false_eq_true, if_false]
      cases decision : restoration platform destroyOnly shared.session with
      | destroy =>
          apply finish_serialised
          · rfl
          · exact (coherent_destroy_iff _).mpr (unset decision)
          · intro target current
            cases current
      | keep =>
          exact finish_serialised true rfl entered idle.requested
      | change target =>
          apply startChange_serialised
          · exact ⟨by simp [setState], rfl⟩
          · exact entered
          · exact idle.requested
          · exact answered
  | switchCurrentSession serverId userId answers =>
      have entered :
          Coherent (shared.session.setState .switchingSession) :=
        (coherent_setState shared.session _).mpr idle.coherent
      simp only [startSessionCall]
      split
      · exact idle
      · split
        · exact finish_serialised false idle.unlocked entered
            idle.requested
        · apply startChange_serialised
          · exact ⟨by simp [SharedSession.change, setState], idle.unlocked⟩
          · exact entered
          · exact idle.requested
          · exact answered

/-- A call that does more than return at once starts when no other call is in
progress, and destroys no session while the client holds its settings. -/
def Serial (world : World SharedSession SessionTask) :
    Event SessionCall → Prop
  | .start call =>
      call.ReturnsAtOnce world.shared.session ∨
        world.tasks = [] ∧
          (Destroys platform world.shared.session call.event →
            world.shared.session.userApiClient.Unset)
  | .resume _ => True

instance (world : World SharedSession SessionTask) :
    ∀ event, Decidable (Serial platform world event)
  | .start _ => inferInstanceAs (Decidable (_ ∨ _ ∧ (_ → _)))
  | .resume _ => isTrue trivial

/-- The requests of every started call succeed. -/
def Answered : Event SessionCall → Prop
  | .start call => call.Succeeds
  | .resume _ => True

instance : ∀ event, Decidable (Answered event)
  | .start call => inferInstanceAs (Decidable call.Succeeds)
  | .resume _ => isTrue trivial

/-- At most one call is in progress, at a sound stage. -/
def OneAtATime (world : World SharedSession SessionTask) : Prop :=
  world.tasks = [] ∧ Idle world.shared ∨
    ∃ task, world.tasks = [task] ∧ Stage world.shared task

theorem oneAtATime_of_serialised {progress : SessionProgress}
    (serialised : Serialised progress) :
    OneAtATime ⟨progress.state, progress.pending⟩ := by
  cases progress with
  | suspended shared task =>
      exact Or.inr ⟨task, rfl, serialised⟩
  | finished shared reply =>
      exact Or.inl ⟨rfl, serialised⟩

theorem step_oneAtATime {world : World SharedSession SessionTask}
    {event : Event SessionCall} (held : OneAtATime world)
    (serial : Serial platform world event) (answered : Answered event) :
    OneAtATime ((sessionSystem platform).step world event) := by
  cases event with
  | start call =>
      rcases serial with atOnce | ⟨idle, unset⟩
      · have same :
            (sessionSystem platform).step world (.start call) = world := by
          simp only [System.step, sessionSystem,
            startSessionCall_of_returnsAtOnce platform atOnce,
            Progress.state, Progress.pending, List.append_nil]
        rw [same]
        exact held
      · rcases held with ⟨_, isIdle⟩ | ⟨task, pending, _⟩
        · have started :=
            startSessionCall_serialised platform isIdle unset answered.2
          have next := oneAtATime_of_serialised started
          simp only [System.step, sessionSystem, idle, List.nil_append]
          exact next
        · rw [idle] at pending
          cases pending
  | resume position =>
      rcases held with ⟨none, isIdle⟩ | ⟨task, pending, stage⟩
      · simp only [System.step, none, List.getElem?_nil]
        exact Or.inl ⟨none, isIdle⟩
      · cases position with
        | zero =>
            have resumed := resume_serialised platform stage
            have next := oneAtATime_of_serialised resumed
            simp only [System.step, sessionSystem, pending,
              List.getElem?_cons_zero, List.eraseIdx_cons_zero,
              List.nil_append]
            exact next
        | succ position =>
            simp only [System.step, pending, List.getElem?_cons_succ,
              List.getElem?_nil]
            exact Or.inr ⟨task, pending, stage⟩

/-! ## When nobody is signed in -/

/-- A call asks for no session: there is no account to restore. -/
def AsksForNone (session : SessionState) : Event SessionCall → Prop
  | .start (.restoreSession destroyOnly _) =>
      restoration platform destroyOnly session = .change none
  | _ => False

/-- A session that was current is not lost, and no call that asks for none is
waiting. -/
structure Keeps (current : Option Session) (progress : SessionProgress) :
    Prop where
  kept : current ≠ none → progress.state.session.currentSession ≠ none
  clean : ∀ caller, .sessionChanged none caller ∉ progress.pending

section Keeping

variable {current : Option Session} {shared : SharedSession}
  {answers : SessionAnswers} {caller : SessionCaller}

theorem keeps_finish
    (kept : current ≠ none → shared.session.currentSession ≠ none)
    (success : Bool) (caller : SessionCaller) :
    Keeps current (finish success shared caller) := by
  cases caller with
  | restoreSession =>
      exact ⟨kept, fun _ => List.not_mem_nil⟩
  | switchCurrentSession =>
      exact ⟨kept, fun _ => List.not_mem_nil⟩

theorem keeps_abort (exception : AuthException)
    (kept : current ≠ none → shared.session.currentSession ≠ none)
    (caller : SessionCaller) :
    Keeps current (abort exception shared caller) := by
  cases caller with
  | restoreSession =>
      exact ⟨kept, fun _ => List.not_mem_nil⟩
  | switchCurrentSession =>
      exact ⟨kept, fun _ => List.not_mem_nil⟩

omit [LinearOrder Version] in
theorem keeps_startBind
    (kept : current ≠ none → shared.session.currentSession ≠ none)
    (target : Session) (server : Server) (answers : SessionAnswers)
    (caller : SessionCaller) :
    Keeps current
      (startBind platform target server answers caller shared) := by
  rw [startBind]
  split
  · exact ⟨kept, by simp [Progress.pending]⟩
  · exact ⟨kept, by simp [Progress.pending]⟩

theorem keeps_startChecked
    (kept : current ≠ none → shared.session.currentSession ≠ none)
    (target : Session) (server : Server) (answers : SessionAnswers)
    (caller : SessionCaller) :
    Keeps current
      (startChecked platform target server answers caller shared) := by
  rw [startChecked]
  split
  · exact keeps_startBind platform kept target server answers caller
  · exact keeps_finish kept false caller

theorem keeps_startChange
    (kept : current ≠ none → shared.session.currentSession ≠ none)
    (target : Session) (answers : SessionAnswers) (caller : SessionCaller) :
    Keeps current
      (startChange platform (some target) answers caller shared) := by
  simp only [startChange]
  split
  · apply keeps_finish
    exact kept
  · split
    · apply keeps_finish
      exact kept
    · split
      · exact ⟨kept, by simp [Progress.pending]⟩
      · apply keeps_startChecked
        exact kept

omit [LinearOrder Version] in
theorem keeps_resumeFetch
    (kept : current ≠ none → shared.session.currentSession ≠ none)
    (answered : answers.user ≠ none) (target : Session) (server : Server)
    (baseUrl accessToken : Option String) (caller : SessionCaller) :
    Keeps current
      (resumeFetch platform target server baseUrl accessToken answers caller
        shared) := by
  obtain ⟨user, answer⟩ := Option.ne_none_iff_exists'.mp answered
  simp only [resumeFetch, answer]
  split
  · apply keeps_abort
    exact kept
  · exact ⟨kept, by simp [Progress.pending]⟩

theorem keeps_resume {task : SessionTask} (stage : Stage shared task)
    (clean : ∀ caller, task ≠ .sessionChanged none caller) :
    Keeps shared.session.currentSession
      (resumeSessionCall platform task shared) := by
  cases task with
  | lock destroyOnly answers =>
      exact stage.elim
  | refreshServer target server answers caller =>
      apply keeps_startChecked
      exact id
  | fetchUser target server baseUrl accessToken answers caller =>
      exact
        keeps_resumeFetch platform id stage.2.2.2.1 target server baseUrl
          accessToken caller
  | sessionChanged target caller =>
      cases target with
      | none =>
          exact absurd rfl (clean caller)
      | some target =>
          exact keeps_finish (fun _ => Option.some_ne_none target) true caller

/-- A destroyed session was none: the client is unset. -/
theorem currentSession_eq_none_of_unset {session : SessionState}
    (coherent : Coherent session) (unset : session.userApiClient.Unset) :
    session.currentSession = none := by
  rcases coherent with signedOut | ⟨target, address, signedIn⟩
  · exact signedOut.session
  · have bound := signedIn.baseUrl
    rw [unset.1] at bound
    cases bound

theorem keeps_startSessionCall {call : SessionCall} (idle : Idle shared)
    (unset :
      Destroys platform shared.session call.event →
        shared.session.userApiClient.Unset)
    (asks : ¬AsksForNone platform shared.session (.start call)) :
    Keeps shared.session.currentSession
      (startSessionCall platform call shared) := by
  cases call with
  | restoreSession destroyOnly answers =>
      have decided :
          restoration platform destroyOnly
              (shared.session.setState .restoringSession) =
            restoration platform destroyOnly shared.session :=
        rfl
      simp only [startSessionCall, idle.unlocked, startRestore,
        SharedSession.change, decided, Bool.false_eq_true, if_false]
      cases decision : restoration platform destroyOnly shared.session with
      | destroy =>
          have empty : shared.session.currentSession = none :=
            currentSession_eq_none_of_unset idle.coherent (unset decision)
          apply keeps_finish
          exact fun current => absurd empty current
      | keep =>
          apply keeps_finish
          exact id
      | change target =>
          cases target with
          | none =>
              exact absurd decision asks
          | some target =>
              apply keeps_startChange
              exact id
  | switchCurrentSession serverId userId answers =>
      simp only [startSessionCall]
      split
      · exact ⟨id, fun _ => List.not_mem_nil⟩
      · split
        · apply keeps_finish
          exact id
        · apply keeps_startChange
          exact id

end Keeping

/-- No call that asks for no session is waiting. -/
def Clean (world : World SharedSession SessionTask) : Prop :=
  ∀ caller, .sessionChanged none caller ∉ world.tasks

theorem step_clean {world : World SharedSession SessionTask}
    {event : Event SessionCall} (held : OneAtATime world)
    (serial : Serial platform world event) (clean : Clean world)
    (asks : ¬AsksForNone platform world.shared.session event) :
    Clean ((sessionSystem platform).step world event) ∧
      (world.shared.session.currentSession ≠ none →
        ((sessionSystem platform).step world
          event).shared.session.currentSession ≠ none) := by
  cases event with
  | start call =>
      rcases serial with atOnce | ⟨idle, unset⟩
      · have same :
            (sessionSystem platform).step world (.start call) = world := by
          simp only [System.step, sessionSystem,
            startSessionCall_of_returnsAtOnce platform atOnce,
            Progress.state, Progress.pending, List.append_nil]
        rw [same]
        exact ⟨clean, id⟩
      · rcases held with ⟨_, isIdle⟩ | ⟨task, pending, _⟩
        · have keeps := keeps_startSessionCall platform isIdle unset asks
          refine ⟨fun caller waiting => ?_, keeps.kept⟩
          simp only [System.step, idle, List.nil_append] at waiting
          exact keeps.clean caller waiting
        · rw [idle] at pending
          cases pending
  | resume position =>
      rcases held with ⟨none, isIdle⟩ | ⟨task, pending, stage⟩
      · simp only [System.step, none, List.getElem?_nil]
        exact ⟨clean, id⟩
      · cases position with
        | zero =>
            have keeps :=
              keeps_resume platform stage fun caller same =>
                clean caller (by simp [pending, same])
            simp only [System.step, pending, List.getElem?_cons_zero]
            refine ⟨fun caller waiting => ?_, keeps.kept⟩
            exact keeps.clean caller waiting
        | succ position =>
            simp only [System.step, pending, List.getElem?_cons_succ,
              List.getElem?_nil]
            exact ⟨clean, id⟩

/-- No call is in progress; the current session counts as requested. -/
def quiet (session : SessionState) : World SharedSession SessionTask where
  shared :=
    { session := session
      locked := false
      requests := session.currentSession.toList }
  tasks := []

/-- The session is empty because nothing was set before, or because a call
asked for none. -/
def EmptyFor (session : SessionState) (early : List (Event SessionCall)) :
    Prop :=
  let world := run (sessionSystem platform).step (quiet session)
  (∀ before, before <+: early →
    (world before).shared.session.currentSession = none) ∨
  ∃ before event,
    before ++ [event] <+: early ∧
      AsksForNone platform (world before).shared.session event

section Serially

variable {platform} {session : SessionState}
  {events : List (Event SessionCall)}

theorem oneAtATime_run (coherent : Coherent session)
    (ready : session.state = .ready)
    (answered : ∀ event ∈ events, Answered event)
    (serial :
      Admitted (sessionSystem platform).step (Serial platform)
        (quiet session) events)
    {early : List (Event SessionCall)} (isEarly : early <+: events) :
    OneAtATime
      (run (sessionSystem platform).step (quiet session) early) := by
  have start : OneAtATime (quiet session) := by
    refine Or.inl ⟨rfl, ready, rfl, coherent, ?_⟩
    intro target current
    exact Option.mem_toList.mpr current
  have preserved :
      ∀ world event, OneAtATime world →
        Serial platform world event ∧ Answered event →
          OneAtATime ((sessionSystem platform).step world event) :=
    fun _ _ held guarded =>
      step_oneAtATime platform held guarded.1 guarded.2
  exact
    run_invariant preserved start
      ((serial.and_forall answered).earlier isEarly)

/-- Unless a call asked for no session, the one that was set is kept. -/
theorem asked_or_kept (coherent : Coherent session)
    (ready : session.state = .ready)
    (answered : ∀ event ∈ events, Answered event)
    (serial :
      Admitted (sessionSystem platform).step (Serial platform)
        (quiet session) events)
    {early : List (Event SessionCall)} (isEarly : early <+: events) :
    let world := run (sessionSystem platform).step (quiet session)
    (∃ before event,
      before ++ [event] <+: early ∧
        AsksForNone platform (world before).shared.session event) ∨
    Clean (world early) ∧
      ∀ before, before <+: early →
        (world before).shared.session.currentSession ≠ none →
          (world early).shared.session.currentSession ≠ none := by
  intro world
  induction early using List.reverseRecOn with
  | nil =>
      right
      refine ⟨fun caller => List.not_mem_nil, fun before isBefore => ?_⟩
      rw [List.prefix_nil.mp isBefore]
      exact id
  | append_singleton early event inductionHypothesis =>
      have within : early <+: events :=
        (List.prefix_append early [event]).trans isEarly
      rcases inductionHypothesis within with
        ⟨before, other, isBefore, asks⟩ | ⟨clean, kept⟩
      · left
        exact
          ⟨before, other, isBefore.trans (List.prefix_append early [event]),
            asks⟩
      · by_cases asks :
            AsksForNone platform (world early).shared.session event
        · exact .inl ⟨early, event, List.prefix_rfl, asks⟩
        · right
          have held : OneAtATime (world early) :=
            oneAtATime_run coherent ready answered serial within
          have admitted := serial.earlier isEarly
          rw [admitted_append] at admitted
          obtain ⟨stays, goesOn⟩ :=
            step_clean platform held admitted.2.1 clean asks
          have next :
              world (early ++ [event]) =
                (sessionSystem platform).step (world early) event :=
            run_append (quiet session) early [event]
          rw [next]
          refine ⟨stays, fun before isBefore set => ?_⟩
          rcases List.prefix_concat_iff.mp isBefore with rfl | earlier
          · rw [next] at set
            exact set
          · exact goesOn (kept before earlier set)

end Serially

end Steps

end JellyfinTv.Auth
