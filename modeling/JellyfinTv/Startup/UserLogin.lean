import JellyfinTv.Auth.SignIn
import JellyfinTv.Library.Numbered

/-!
# Quick Connect

`UserLoginViewModel` asks the selected server for a secret and a code, shows
the code, and polls until the user has entered it; then it signs in with the
secret.  The guard of a new flow is the published state alone, which is also
unknown while a request is in flight and after the login state was cleared.
-/

namespace JellyfinTv.Startup

open JellyfinTv.Auth JellyfinTv.Library

variable {Secret Code : Type}

/-- The secrets that the servers issue, and their codes.  No secret is issued
twice. -/
structure QuickConnectServers (Secret Code : Type) where
  secret : String → Nat → Secret
  code : Secret → Code
  distinct :
    ∀ {address other : String} {number another : Nat},
      secret address number = secret other another →
        address = other ∧ number = another
  ownCode :
    ∀ {address other : String} {number another : Nat},
      code (secret address number) = code (secret other another) →
        secret address number = secret other another

inductive QuickConnectState (Code : Type) where
  | unknown
  | unavailable
  | pending (code : Code)
  | connected
  deriving DecidableEq, Repr

/-- The fields of the view model; of the client only its address is kept. -/
structure UserLoginViewModel (Secret Code : Type) where
  loginState : Option LoginState
  server : Option Server
  quickConnectApi : Option String
  quickConnectSecret : Option Secret
  quickConnectState : QuickConnectState Code
  deriving DecidableEq, Repr

/-- Where a polling loop is suspended: in its delay, in a request with the
server it will sign in to, or in the sign-in. -/
inductive PollingLoop (Secret : Type) where
  | delaying
  | polling (server : Server) (secret : Secret)
  | signingIn
  deriving DecidableEq, Repr

/-- The view model with what is in flight.  The calls that wait for the
answer to their request have the address that it was sent to, and a loop has
the number of the call that launched it.  `issued` counts the secrets, and
the polls and the sign-ins are kept with their addresses. -/
structure QuickConnect (Secret Code : Type) where
  viewModel : UserLoginViewModel Secret Code
  calls : List (Nat × String)
  loops : List (Nat × PollingLoop Secret)
  called : Nat
  issued : Nat
  polls : List (Option String × Secret)
  signIns : List (String × Secret)

inductive LoginEvent where
  | initiateQuickconnect
  | initiateCancelled (call : Nat)
  | clearLoginState
  | setServer (storedServers : List Server) (id : Option UUID)
  | initiateSucceeds (call : Nat)
  | initiateFails (call : Nat)
  | delayEnds (loop : Nat)
  | pollPending (loop : Nat)
  | pollAuthenticated (loop : Nat)
  | pollFails (loop : Nat)
  | signInEmits (loop : Nat) (state : LoginState)
  | signInEnds (loop : Nat) (thrown : Bool)

/-- An answer of a server, or the end of a delay. -/
def LoginEvent.IsAnswer : LoginEvent → Prop
  | .initiateQuickconnect => False
  | .initiateCancelled _ => False
  | .clearLoginState => False
  | .setServer _ _ => False
  | _ => True

namespace UserLoginViewModel

def created : UserLoginViewModel Secret Code where
  loginState := none
  server := none
  quickConnectApi := none
  quickConnectSecret := none
  quickConnectState := .unknown

def clearLoginState (viewModel : UserLoginViewModel Secret Code) :
    UserLoginViewModel Secret Code :=
  { viewModel with
    loginState := none
    quickConnectState := .unknown }

/-- The first stored server with the id. -/
def storedServer (storedServers : List Server) (id : Option UUID) :
    Option Server :=
  storedServers.find? fun server => some server.id = id

def setServer (viewModel : UserLoginViewModel Secret Code)
    (storedServers : List Server) (id : Option UUID) :
    UserLoginViewModel Secret Code :=
  { viewModel with server := storedServer storedServers id }

end UserLoginViewModel

namespace QuickConnect

def created : QuickConnect Secret Code where
  viewModel := .created
  calls := []
  loops := []
  called := 0
  issued := 0
  polls := []
  signIns := []

/-- `initiateQuickconnect` up to its request. -/
def initiateQuickconnect (flow : QuickConnect Secret Code) :
    QuickConnect Secret Code :=
  match flow.viewModel.quickConnectState, flow.viewModel.server with
  | .unknown, some server =>
      { flow with
        viewModel :=
          { flow.viewModel with
            quickConnectState := .unknown
            quickConnectSecret := none
            quickConnectApi := some server.address }
        calls := flow.calls ++ [(flow.called, server.address)]
        called := flow.called + 1 }
  | _, _ => flow

/-- The loop is launched whether the request has succeeded or not. -/
def launchLoop (flow : QuickConnect Secret Code) (call : Nat) :
    QuickConnect Secret Code :=
  { flow with
    calls := without call flow.calls
    loops := flow.loops ++ [(call, .delaying)] }

def initiateSucceeds (servers : QuickConnectServers Secret Code)
    (flow : QuickConnect Secret Code) (call : Nat) :
    QuickConnect Secret Code :=
  match flow.calls.lookup call with
  | none => flow
  | some address =>
      let secret := servers.secret address flow.issued
      { flow with
        viewModel :=
          { flow.viewModel with
            quickConnectSecret := some secret
            quickConnectState := .pending (servers.code secret) }
        issued := flow.issued + 1 }.launchLoop call

def initiateFails (flow : QuickConnect Secret Code) (call : Nat) :
    QuickConnect Secret Code :=
  match flow.calls.lookup call with
  | none => flow
  | some _ =>
      { flow with
        viewModel :=
          { flow.viewModel with quickConnectState := .unavailable }
        }.launchLoop call

/-- `updateQuickConnectState` up to its request. -/
def delayEnds (flow : QuickConnect Secret Code) (loop : Nat) :
    QuickConnect Secret Code :=
  match flow.loops.lookup loop with
  | some .delaying =>
      match flow.viewModel.server, flow.viewModel.quickConnectSecret with
      | some server, some secret =>
          { flow with
            loops := replaced loop (.polling server secret) flow.loops
            polls :=
              flow.polls ++ [(flow.viewModel.quickConnectApi, secret)] }
      | _, _ => { flow with loops := without loop flow.loops }
  | _ => flow

/-- The code is entered later: the loop goes on. -/
def pollPending (servers : QuickConnectServers Secret Code)
    (flow : QuickConnect Secret Code) (loop : Nat) :
    QuickConnect Secret Code :=
  match flow.loops.lookup loop with
  | some (.polling _ secret) =>
      { flow with
        viewModel :=
          { flow.viewModel with
            quickConnectState := .pending (servers.code secret) }
        loops := replaced loop .delaying flow.loops }
  | _ => flow

def pollAuthenticated (flow : QuickConnect Secret Code) (loop : Nat) :
    QuickConnect Secret Code :=
  match flow.loops.lookup loop with
  | some (.polling server secret) =>
      { flow with
        viewModel := { flow.viewModel with quickConnectState := .connected }
        loops := replaced loop .signingIn flow.loops
        signIns := flow.signIns ++ [(server.address, secret)] }
  | _ => flow

def pollFails (flow : QuickConnect Secret Code) (loop : Nat) :
    QuickConnect Secret Code :=
  match flow.loops.lookup loop with
  | some (.polling _ _) =>
      { flow with
        viewModel :=
          { flow.viewModel with quickConnectState := .unavailable }
        loops := without loop flow.loops }
  | _ => flow

def signInEmits (flow : QuickConnect Secret Code) (loop : Nat)
    (state : LoginState) : QuickConnect Secret Code :=
  match flow.loops.lookup loop with
  | some .signingIn =>
      { flow with
        viewModel := { flow.viewModel with loginState := some state } }
  | _ => flow

/-- An exception of the client within the sign-in is caught like one of the
poll. -/
def signInEnds (flow : QuickConnect Secret Code) (loop : Nat)
    (thrown : Bool) : QuickConnect Secret Code :=
  match flow.loops.lookup loop with
  | some .signingIn =>
      { flow with
        viewModel :=
          if thrown then
            { flow.viewModel with quickConnectState := .unavailable }
          else
            flow.viewModel
        loops := without loop flow.loops }
  | _ => flow

def step (servers : QuickConnectServers Secret Code)
    (flow : QuickConnect Secret Code) :
    LoginEvent → QuickConnect Secret Code
  | .initiateQuickconnect => flow.initiateQuickconnect
  | .initiateCancelled call =>
      { flow with calls := without call flow.calls }
  | .clearLoginState =>
      { flow with viewModel := flow.viewModel.clearLoginState }
  | .setServer storedServers id =>
      { flow with viewModel := flow.viewModel.setServer storedServers id }
  | .initiateSucceeds call => flow.initiateSucceeds servers call
  | .initiateFails call => flow.initiateFails call
  | .delayEnds loop => flow.delayEnds loop
  | .pollPending loop => flow.pollPending servers loop
  | .pollAuthenticated loop => flow.pollAuthenticated loop
  | .pollFails loop => flow.pollFails loop
  | .signInEmits loop state => flow.signInEmits loop state
  | .signInEnds loop thrown => flow.signInEnds loop thrown

end QuickConnect

end JellyfinTv.Startup
