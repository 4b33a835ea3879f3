import Mathlib.Data.List.Lex
import Mathlib.Data.Prod.Lex
import Mathlib.Order.Lattice.Nat
import JellyfinTv.Auth.Servers
import JellyfinTv.Library.Runs
import JellyfinTv.Library.SortedBy

/-!
# The list of stored servers

`ServerRepository` shows the stored servers in a list of its own, the one
used last first.  The list is loaded again when a server has been added and
when a deletion has been written; a refresh and the other repositories change
the store without it.  Adding a server that is stored already keeps its users.
-/

namespace JellyfinTv.Auth

open AuthenticationStore Library

/-- The UTF-16 code units of a character. -/
def codeUnits (char : Char) : List Nat :=
  if char.toNat < 0x10000 then [char.toNat]
  else
    [0xD800 + (char.toNat - 0x10000) / 0x400,
      0xDC00 + (char.toNat - 0x10000) % 0x400]

/-- What `String.compareTo` compares, from the first unit on. -/
def compareKey (text : String) : List Nat :=
  text.toList.flatMap codeUnits

abbrev ServerKey := Intᵒᵈ ×ₗ List Nat

/-- `compareByDescending { it.dateLastAccessed }.thenBy { it.name }`. -/
def Server.key (server : Server) : ServerKey :=
  toLex (OrderDual.toDual server.dateLastAccessed, compareKey server.name)

/-- The server may be listed in front of the other one: its last access is
later, or it is at the same time and the name does not come later. -/
def Server.Precedes (server other : Server) : Prop :=
  other.dateLastAccessed < server.dateLastAccessed ∨
    (other.dateLastAccessed = server.dateLastAccessed ∧
      compareKey server.name ≤ compareKey other.name)

theorem Server.precedes_of_key_le {server other : Server}
    (inOrder : server.key ≤ other.key) : server.Precedes other := by
  rcases Prod.Lex.le_iff.mp inOrder with later | ⟨same, names⟩
  · exact Or.inl later
  · exact Or.inr ⟨(OrderDual.toDual_inj.mp same).symm, names⟩

inductive RecommendedServerInfoScore where
  | great
  | good
  | ok
  | bad
  deriving DecidableEq, Repr

/-- A candidate with what its server says about itself, if the request
succeeded.  The id comes as a text that may be missing. -/
structure RecommendedServerInfo (Issue : Type) where
  address : String
  systemInfo : Option (Option String × PublicSystemInfo)
  issues : List Issue
  score : RecommendedServerInfoScore

inductive ServerAdditionState (Issue : Type) where
  | connected (id : UUID) (publicInfo : PublicSystemInfo)
  | unableToConnect (addressCandidates : List (String × List Issue))

inductive AdditionException where
  | nullPointer
  | illegalArgument
  | apiClient
  deriving DecidableEq, Repr

section Addition

variable {Issue : Type}

/-- `firstOrNull` over the recommendations with its side effects: the great
one that ends it, the good ones and the other ones before. -/
def classify :
    List (RecommendedServerInfo Issue) →
      Option (RecommendedServerInfo Issue) ×
        List (RecommendedServerInfo Issue) ×
          List (RecommendedServerInfo Issue)
  | [] => (none, [], [])
  | recommendedServer :: rest =>
      match recommendedServer.score with
      | .great => (some recommendedServer, [], [])
      | .good =>
          let (great, good, bad) := classify rest
          (great, recommendedServer :: good, bad)
      | .ok | .bad =>
          let (great, good, bad) := classify rest
          (great, good, recommendedServer :: bad)

def chosenRecommendation
    (recommendations : List (RecommendedServerInfo Issue)) :
    Option (RecommendedServerInfo Issue) :=
  let (great, good, _) := classify recommendations
  great <|> good.head?

/-- `groupBy { it.address }` with the issues of each group. -/
def issuesByAddress
    (recommendations : List (RecommendedServerInfo Issue)) :
    List (String × List Issue) :=
  (recommendations.map RecommendedServerInfo.address).eraseDups.map
    fun address =>
      (address,
        (recommendations.filter fun server =>
          server.address = address).flatMap RecommendedServerInfo.issues)

/-- The record of an added server: a copy of the stored one, or a new one. -/
def addedServer (stored : Option AuthenticationStoreServer)
    (address : String) (systemInfo : PublicSystemInfo)
    (branding : BrandingOptions) (lastUsed lastRefreshed : Int) :
    AuthenticationStoreServer :=
  match stored with
  | some server =>
      { server with
        name := systemInfo.serverName.getD "Jellyfin Server"
        address := address
        version := systemInfo.version
        loginDisclaimer := branding.loginDisclaimer
        splashscreenEnabled := branding.splashscreenEnabled
        setupCompleted := systemInfo.startupWizardCompleted.getD true
        lastUsed := lastUsed }
  | none =>
      { name := systemInfo.serverName.getD "Jellyfin Server"
        address := address
        version := systemInfo.version
        loginDisclaimer := branding.loginDisclaimer
        splashscreenEnabled := branding.splashscreenEnabled
        setupCompleted := systemInfo.startupWizardCompleted.getD true
        lastUsed := lastUsed
        lastRefreshed := lastRefreshed
        users := fun _ => none }

/-- What an addition is answered by the network, the clock and the file. -/
structure AdditionAnswers (Issue : Type) where
  recommendations : List (RecommendedServerInfo Issue)
  branding : BrandingAnswer
  lastUsed : Int
  lastRefreshed : Int
  written : Bool

/-- The server an addition finds: its id, its address, its information and
its branding options. -/
def foundServer (toUUID : String → Option UUID)
    (answers : AdditionAnswers Issue) :
    Except AdditionException
      (Option (UUID × String × PublicSystemInfo × BrandingOptions)) :=
  match chosenRecommendation answers.recommendations with
  | none => .ok none
  | some recommendation =>
      match recommendation.systemInfo with
      | none => .ok none
      | some (systemId, systemInfo) =>
          match getBrandingOptionsOrDefault answers.branding with
          | none => .error .apiClient
          | some branding =>
              match systemId with
              | none => .error .nullPointer
              | some text =>
                  match toUUID text with
                  | none => .error .illegalArgument
                  | some id =>
                      .ok
                        (some
                          (id, recommendation.address, systemInfo, branding))

end Addition

/-- The repository with its store.  The ids are in the order of the map. -/
structure ServerRepository where
  authentication : AuthenticationStore
  ids : List UUID
  storedServers : List Server

namespace ServerRepository

def getServers (repository : ServerRepository) :
    List (UUID × AuthenticationStoreServer) :=
  repository.ids.filterMap fun id =>
    (repository.authentication.getServer id).map fun entry => (id, entry)

def loadStoredServers (repository : ServerRepository) : ServerRepository :=
  { repository with
    storedServers :=
      sortedBy Server.key
        (repository.getServers.map fun (id, entry) => entry.asServer id) }

/-- `store[id] = server` and the write. -/
def putServer (id : UUID) (server : AuthenticationStoreServer)
    (written : Bool) (repository : ServerRepository) : ServerRepository :=
  { repository with
    authentication :=
      finalState
        ((Auth.putServer id server written).run repository.authentication)
    ids :=
      if id ∈ repository.ids then repository.ids
      else repository.ids ++ [id] }

/-- `store -= id` and the write. -/
def removeServer (server : UUID) (written : Bool)
    (repository : ServerRepository) : ServerRepository :=
  { repository with
    authentication :=
      finalState
        ((Auth.removeServer server written).run repository.authentication)
    ids := repository.ids.filter fun id => id ≠ server }

section Calls

variable {Version Issue : Type} [LinearOrder Version] (sdk : Sdk Version)
  (toUUID : String → Option UUID)

/-- `addServer` once the network has answered. -/
def addServer (answers : AdditionAnswers Issue)
    (repository : ServerRepository) :
    ServerRepository × Except AdditionException (ServerAdditionState Issue) :=
  match foundServer toUUID answers with
  | .error exception => (repository, .error exception)
  | .ok none =>
      let (_, good, bad) := classify answers.recommendations
      (repository, .ok (.unableToConnect (issuesByAddress (bad ++ good))))
  | .ok (some (id, address, systemInfo, branding)) =>
      let server :=
        addedServer (repository.authentication.getServer id) address
          systemInfo branding answers.lastUsed answers.lastRefreshed
      ((repository.putServer id server answers.written).loadStoredServers,
        .ok (.connected id systemInfo))

def deleteServer (server : UUID) (written : Bool)
    (repository : ServerRepository) : ServerRepository × Bool :=
  let removed := repository.removeServer server written
  if written then (removed.loadStoredServers, true) else (removed, false)

/-- The calls that change the store or the list, those of the other
repositories included. -/
inductive Call (Issue : Type) where
  | addServer (answers : AdditionAnswers Issue)
  | getServer (id : UUID) (eagerUpdate : Bool) (now : Int)
      (answers : RefreshAnswers)
  | updateServer (server : UUID) (force : Bool) (now : Int)
      (answers : RefreshAnswers)
  | deleteServer (server : UUID) (written : Bool)
  | loadStoredServers
  | user (operation : UserOperation)

/-- An action on the store that leaves the list alone. -/
def onStore {α : Type} (action : StoreM α) (repository : ServerRepository) :
    ServerRepository :=
  let authentication :=
    finalState (action.run repository.authentication)
  { repository with
    authentication := authentication
    ids :=
      repository.ids.filter fun id => (authentication.getServer id).isSome }

def step (repository : ServerRepository) : Call Issue → ServerRepository
  | .addServer answers => (repository.addServer toUUID answers).1
  | .getServer id eagerUpdate now answers =>
      repository.onStore (Auth.getServer sdk id eagerUpdate now answers)
  | .updateServer server force now answers =>
      repository.onStore (Auth.updateServer server force now answers)
  | .deleteServer server written => (repository.deleteServer server written).1
  | .loadStoredServers => repository.loadStoredServers
  | .user operation => repository.onStore operation.perform

end Calls

end ServerRepository

namespace Accounts

variable {Issue : Type} (toUUID : String → Option UUID)

/-- The calls in terms of the accounts: an added server keeps its users, and
a refresh changes none. -/
def call (accounts : Accounts) : ServerRepository.Call Issue → Accounts
  | .addServer answers =>
      match foundServer toUUID answers with
      | .ok (some (id, _)) =>
          Function.update accounts id
            (some ((accounts id).getD fun _ => none))
      | _ => accounts
  | .deleteServer server _ => Function.update accounts server none
  | .getServer _ _ _ _ | .updateServer _ _ _ _ | .loadStoredServers =>
      accounts
  | .user operation => accounts.perform operation

end Accounts

/-- The servers of the store as the list shows them. -/
def AuthenticationStore.shown (authentication : AuthenticationStore) :
    UUID → Option Server :=
  fun id => (authentication.getServer id).map fun entry => entry.asServer id

section Shown

variable (authentication : AuthenticationStore)

theorem shown_assign (id : UUID)
    (server : Option AuthenticationStoreServer) :
    (authentication.assign id server).shown =
      Function.update authentication.shown id
        (server.map fun entry => entry.asServer id) := by
  funext other
  by_cases same : other = id
  · subst same
    simp [shown, AuthenticationStore.getServer, assign]
  · simp [shown, AuthenticationStore.getServer, assign, same]

/-- Storing a record instead of another one is seen unless both look the
same. -/
theorem shown_assign_eq_iff {id : UUID}
    {server newServer : AuthenticationStoreServer}
    (stored : authentication.getServer id = some server) :
    (authentication.assign id (some newServer)).shown =
        authentication.shown ↔
      newServer.asServer id = server.asServer id := by
  have before :
      authentication.shown id = some (server.asServer id) := by
    rw [shown, stored]
    rfl
  rw [shown_assign, Function.update_eq_self_iff, before]
  exact Option.some_inj

/-- The users of a server are not shown. -/
theorem changeUsers_fixes_shown (server : UUID) (change : Users → Users)
    (written : Bool) :
    Respects (Fixes shown) (changeUsers server change written) := by
  intro authentication
  simp only [changeUsers, EStateM.run_bind, EStateM.run_get]
  cases stored : authentication.getServer server with
  | none =>
      rfl
  | some serverInfo =>
      exact (shown_assign_eq_iff authentication stored).mpr rfl

theorem logout_fixes_shown (server user : UUID) (written : Bool) :
    Respects (Fixes shown) (logout server user written) := by
  intro authentication
  simp only [logout, EStateM.run_bind, EStateM.run_get]
  cases authentication.getUser server user with
  | none =>
      rfl
  | some stored =>
      exact changeUsers_fixes_shown server _ written authentication

theorem authenticateFinish_fixes_shown (server : UUID) (userInfo : UserDto)
    (accessToken : String) (now : Int) (written : Bool) :
    Respects (Fixes shown)
      (authenticateFinish server userInfo accessToken now written) := by
  intro authentication
  simp only [authenticateFinish, EStateM.run_bind, EStateM.run_get]
  cases userInfo.name with
  | none =>
      rfl
  | some name =>
      rw [finalState_discard]
      exact changeUsers_fixes_shown server _ written authentication

theorem updateUserLastUsed_fixes_shown (server user : UUID) (now : Int)
    (written : Bool) :
    Respects (Fixes shown) (updateUserLastUsed server user now written) := by
  intro authentication
  simp only [updateUserLastUsed, EStateM.run_bind, EStateM.run_get]
  cases authentication.getUser server user with
  | none =>
      rfl
  | some stored =>
      rw [finalState_discard]
      exact changeUsers_fixes_shown server _ written authentication

/-- The time of the last use is shown. -/
theorem shown_updateServerLastUsed_iff (server : UUID) (now : Int)
    (written : Bool) :
    (finalState
        ((updateServerLastUsed server now written).run
          authentication)).shown =
        authentication.shown ↔
      ∀ stored ∈ authentication.getServer server, stored.lastUsed = now := by
  simp only [updateServerLastUsed, EStateM.run_bind, EStateM.run_get]
  cases stored : authentication.getServer server with
  | none =>
      exact iff_of_true rfl (by simp)
  | some storedServer =>
      rw [finalState_discard]
      apply (shown_assign_eq_iff authentication stored).trans
      simp [AuthenticationStoreServer.asServer, eq_comm]

theorem shown_setActiveSession_iff (server user : UUID)
    (serverTime userTime : Int) (serverWritten userWritten : Bool) :
    (finalState
        ((setActiveSession server user true serverTime userTime
          serverWritten userWritten).run authentication)).shown =
        authentication.shown ↔
      ∀ stored ∈ authentication.getServer server,
        stored.lastUsed = serverTime := by
  obtain ⟨touched, ran, _⟩ :=
    updateServerLastUsed_run authentication server serverTime serverWritten
  have user :
      (finalState
        ((updateUserLastUsed server user userTime userWritten).run
          touched)).shown =
        touched.shown :=
    updateUserLastUsed_fixes_shown server user userTime userWritten touched
  rw [← shown_updateServerLastUsed_iff authentication server serverTime
    serverWritten, ran, finalState_ok, ← user]
  simp only [setActiveSession, if_true, EStateM.run_bind, ran]
  cases (updateUserLastUsed server _ userTime userWritten).run touched <;>
    rfl

end Shown

/-! ## What a refresh shows -/

/-- The answers say what the record says already. -/
structure Repeats (systemInfo : PublicSystemInfo)
    (branding : BrandingOptions) (server : AuthenticationStoreServer) :
    Prop where
  name : ∀ name ∈ systemInfo.serverName, name = server.name
  version :
    ∀ version ∈ systemInfo.version, server.version = some version
  loginDisclaimer :
    ∀ disclaimer ∈ branding.loginDisclaimer,
      server.loginDisclaimer = some disclaimer
  splashscreenEnabled :
    branding.splashscreenEnabled = server.splashscreenEnabled
  setupCompleted :
    ∀ completed ∈ systemInfo.startupWizardCompleted,
      completed = server.setupCompleted

/-- The refresh is due, succeeds and brings something new. -/
def Renews (server : AuthenticationStoreServer) (forceUpdate : Bool)
    (now : Int) (answers : RefreshAnswers) : Prop :=
  RefreshDue server forceUpdate now ∧
    ∃ systemInfo branding, answers.systemInfo = some systemInfo ∧
      getBrandingOptionsOrDefault answers.branding = some branding ∧
      ¬Repeats systemInfo branding server

theorem getD_eq_right_iff {α : Type} (answer : Option α) (value : α) :
    answer.getD value = value ↔ ∀ answered ∈ answer, answered = value := by
  cases answer <;> simp

theorem orElse_eq_right_iff {α : Type} (answer value : Option α) :
    (answer <|> value) = value ↔
      ∀ answered ∈ answer, value = some answered := by
  cases answer <;> simp [eq_comm]

theorem asServer_refreshedServer_iff
    {server newServer : AuthenticationStoreServer} {now : Int}
    {answers : RefreshAnswers} {systemInfo : PublicSystemInfo}
    {branding : BrandingOptions}
    (answered : answers.systemInfo = some systemInfo)
    (branded :
      getBrandingOptionsOrDefault answers.branding = some branding)
    (refreshed : refreshedServer server now answers = some newServer)
    (id : UUID) :
    newServer.asServer id = server.asServer id ↔
      Repeats systemInfo branding server := by
  simp only [refreshedServer, answered, branded, Option.bind_eq_bind,
    Option.bind_some, Option.some.injEq] at refreshed
  subst refreshed
  simp only [AuthenticationStoreServer.asServer, Server.mk.injEq,
    getD_eq_right_iff, orElse_eq_right_iff, true_and, and_true]
  constructor
  · rintro ⟨name, version, loginDisclaimer, splashscreenEnabled, completed⟩
    exact ⟨name, version, loginDisclaimer, splashscreenEnabled, completed⟩
  · rintro ⟨name, version, loginDisclaimer, splashscreenEnabled, completed⟩
    exact ⟨name, version, loginDisclaimer, splashscreenEnabled, completed⟩

/-- A refresh is seen exactly if it renews the record. -/
theorem shown_refresh_iff {authentication : AuthenticationStore} {id : UUID}
    {server : AuthenticationStoreServer}
    (stored : authentication.getServer id = some server)
    (forceUpdate : Bool) (now : Int) (answers : RefreshAnswers) :
    (authentication.refresh id answers.written
          (storedCopy server forceUpdate now answers)).shown =
        authentication.shown ↔
      ¬Renews server forceUpdate now answers := by
  by_cases due : RefreshDue server forceUpdate now
  · rw [storedCopy, if_pos due]
    cases refreshed : refreshedServer server now answers with
    | none =>
        refine iff_of_true rfl ?_
        rintro ⟨_, systemInfo, branding, answered, branded, _⟩
        simp [refreshedServer, answered, branded] at refreshed
    | some newServer =>
        apply (shown_assign_eq_iff authentication stored).trans
        have succeeded := refreshed
        simp only [refreshedServer, Option.bind_eq_bind,
          Option.bind_eq_some_iff] at succeeded
        obtain ⟨branding, branded, systemInfo, answered, _⟩ := succeeded
        rw [asServer_refreshedServer_iff answered branded refreshed]
        constructor
        · rintro repeats ⟨_, _, _, sameInfo, sameBranding, news⟩
          cases answered.symm.trans sameInfo
          cases branded.symm.trans sameBranding
          exact news repeats
        · intro noNews
          by_contra news
          exact noNews ⟨due, _, _, answered, branded, news⟩
  · rw [storedCopy, if_neg due]
    exact iff_of_true rfl fun renews => due renews.1

namespace ServerRepository

def accounts (repository : ServerRepository) : Accounts :=
  repository.authentication.getUsers

section Calls

variable {Version Issue : Type} [LinearOrder Version] {sdk : Sdk Version}
  {toUUID : String → Option UUID} {repository : ServerRepository}

theorem users_addedServer (stored : Option AuthenticationStoreServer)
    (address : String) (systemInfo : PublicSystemInfo)
    (branding : BrandingOptions) (lastUsed lastRefreshed : Int) :
    (addedServer stored address systemInfo branding lastUsed
        lastRefreshed).users =
      (stored.map AuthenticationStoreServer.users).getD fun _ => none := by
  cases stored <;> rfl

/-- The store after `getServer`. -/
theorem finalState_getServer (id : UUID) (eagerUpdate : Bool) (now : Int)
    (answers : RefreshAnswers) (authentication : AuthenticationStore) :
    finalState
        ((Auth.getServer sdk id eagerUpdate now answers).run
          authentication) =
      match authentication.getServer id with
      | none => authentication
      | some server =>
          authentication.refresh id answers.written
            (storedCopy server (eagerForce sdk eagerUpdate server) now
              answers) := by
  rw [getServer_run, finalState_ok, getServerCopy]
  cases authentication.getServer id <;> rfl

theorem finalState_updateServer (id : UUID) (force : Bool) (now : Int)
    (answers : RefreshAnswers) (authentication : AuthenticationStore) :
    finalState
        ((Auth.updateServer id force now answers).run authentication) =
      match authentication.getServer id with
      | none => authentication
      | some server =>
          authentication.refresh id answers.written
            (storedCopy server force now answers) := by
  rw [updateServer_run]
  cases authentication.getServer id <;> rfl

/-- A refresh keeps the users. -/
theorem getUsers_refresh {authentication : AuthenticationStore} {id : UUID}
    {server : AuthenticationStoreServer}
    (stored : authentication.getServer id = some server)
    (forceUpdate : Bool) (now : Int) (answers : RefreshAnswers) :
    (authentication.refresh id answers.written
        (storedCopy server forceUpdate now answers)).getUsers =
      authentication.getUsers := by
  rw [storedCopy]
  split_ifs
  · cases refreshed : refreshedServer server now answers with
    | none =>
        rfl
    | some newServer =>
        apply getUsers_assign_of_users
        rw [getUsers, stored, Option.map_some,
          refreshedServer_users refreshed]
  · rfl

theorem accounts_step (repository : ServerRepository) (call : Call Issue) :
    (repository.step sdk toUUID call).accounts =
      repository.accounts.call toUUID call := by
  cases call with
  | addServer answers =>
      simp only [step, addServer, Accounts.call]
      cases foundServer toUUID answers with
      | error exception =>
          rfl
      | ok found =>
          cases found with
          | none =>
              rfl
          | some server =>
              obtain ⟨id, address, systemInfo, branding⟩ := server
              change
                (repository.authentication.assign id (some _)).getUsers = _
              rw [getUsers_assign, Option.map_some, users_addedServer]
              rfl
  | getServer id eagerUpdate now answers =>
      rw [step, accounts, onStore, finalState_getServer]
      cases stored : repository.authentication.getServer id with
      | none =>
          rfl
      | some server =>
          exact getUsers_refresh stored _ now answers
  | updateServer id force now answers =>
      rw [step, accounts, onStore, finalState_updateServer]
      cases stored : repository.authentication.getServer id with
      | none =>
          rfl
      | some server =>
          exact getUsers_refresh stored force now answers
  | deleteServer server written =>
      have removed :=
        getUsers_assign repository.authentication server none
      cases written with
      | false =>
          exact removed
      | true =>
          exact removed
  | loadStoredServers =>
      rfl
  | user operation =>
      exact getUsers_apply repository.authentication operation

end Calls

/-! ## The ids of the map -/

/-- The ids are the keys of the map. -/
structure Keyed (repository : ServerRepository) : Prop where
  nodup : repository.ids.Nodup
  mem_iff : ∀ id, id ∈ repository.ids ↔ (repository.accounts id).isSome

theorem isSome_getServer (repository : ServerRepository) (id : UUID) :
    (repository.authentication.getServer id).isSome =
      (repository.accounts id).isSome := by
  rw [accounts, getUsers, Option.isSome_map]

theorem map_fst_getServers {repository : ServerRepository}
    (keyed : repository.Keyed) :
    repository.getServers.map Prod.fst = repository.ids := by
  have present :
      ∀ id ∈ repository.ids,
        (repository.authentication.getServer id).isSome := by
    intro id member
    rw [isSome_getServer]
    exact (keyed.mem_iff id).mp member
  rw [getServers, List.map_filterMap]
  generalize repository.ids = ids at present ⊢
  induction ids with
  | nil =>
      rfl
  | cons id rest inductionHypothesis =>
      rw [List.forall_mem_cons] at present
      obtain ⟨entry, found⟩ := Option.isSome_iff_exists.mp present.1
      rw [List.filterMap_cons, found, inductionHypothesis present.2]
      rfl

/-- The list has exactly the servers of the store, as they are. -/
def Shows (repository : ServerRepository) : Prop :=
  ∀ server,
    server ∈ repository.storedServers ↔
      repository.authentication.shown server.id = some server

theorem shows_loadStoredServers {repository : ServerRepository}
    (keyed : repository.Keyed) : repository.loadStoredServers.Shows := by
  intro server
  rw [loadStoredServers, mem_sortedBy, List.mem_map]
  constructor
  · rintro ⟨⟨id, entry⟩, member, rfl⟩
    obtain ⟨other, _, found⟩ := List.mem_filterMap.mp member
    obtain ⟨record, stored, same⟩ := Option.map_eq_some_iff.mp found
    cases same
    change
      (repository.authentication.getServer id).map _ =
        some (entry.asServer id)
    rw [stored]
    rfl
  · intro shown
    obtain ⟨entry, stored, same⟩ := Option.map_eq_some_iff.mp shown
    refine ⟨(server.id, entry), ?_, same⟩
    apply List.mem_filterMap.mpr
    refine ⟨server.id, ?_, ?_⟩
    · rw [keyed.mem_iff, ← isSome_getServer, stored]
      rfl
    · rw [stored]
      rfl

/-- Without a reload, the list shows the servers of the store as long as it
looks the same. -/
theorem shows_iff_of_list_eq {before after : ServerRepository}
    (shows : before.Shows)
    (list : after.storedServers = before.storedServers) :
    after.Shows ↔
      after.authentication.shown = before.authentication.shown := by
  constructor
  · intro showsAfter
    funext id
    apply Option.ext
    intro server
    have known {authentication : AuthenticationStore}
        (shown : authentication.shown id = some server) :
        server.id = id := by
      obtain ⟨_, _, rfl⟩ := Option.map_eq_some_iff.mp shown
      rfl
    constructor
    · intro shown
      have same := known shown
      subst same
      rw [← shows server, ← list]
      exact (showsAfter server).mpr shown
    · intro shown
      have same := known shown
      subst same
      rw [← showsAfter server, list]
      exact (shows server).mpr shown
  · intro same server
    rw [list, same]
    exact shows server

theorem isSome_perform (accounts : Accounts) (operation : UserOperation)
    (id : UUID) :
    (accounts.perform operation id).isSome =
      match operation with
      | .removeServer server _ =>
          (accounts id).isSome && decide (id ≠ server)
      | _ => (accounts id).isSome := by
  have changed :
      ∀ server update,
        ((accounts.change server update) id).isSome =
          (accounts id).isSome := by
    intro server update
    by_cases same : id = server
    · subst same
      rw [Accounts.change, Function.update_self, Option.isSome_map]
    · rw [Accounts.change, Function.update_of_ne same]
  cases operation with
  | putUser | removeUser | logout =>
      exact changed _ _
  | removeServer server written =>
      by_cases same : id = server
      · subst same
        simp [Accounts.perform]
      · simp [Accounts.perform, same]
  | authenticateFinish server userInfo accessToken now written =>
      simp only [Accounts.perform]
      cases userInfo.name with
      | none =>
          rfl
      | some name =>
          exact changed _ _
  | setActiveSession server user authenticated =>
      simp only [Accounts.perform]
      cases authenticated with
      | false =>
          rfl
      | true =>
          exact changed _ _

section Calls

variable {Version Issue : Type} [LinearOrder Version] {sdk : Sdk Version}
  {toUUID : String → Option UUID} {repository : ServerRepository}

theorem keyed_putServer (keyed : repository.Keyed) (id : UUID)
    (server : AuthenticationStoreServer) (written : Bool) :
    (repository.putServer id server written).Keyed := by
  have accounts :
      (repository.putServer id server written).accounts =
        Function.update repository.accounts id (some server.users) :=
    getUsers_assign repository.authentication id (some server)
  constructor
  · rw [putServer]
    dsimp only
    split
    · exact keyed.nodup
    · rename_i new
      exact List.nodup_append.mpr
        ⟨keyed.nodup, List.nodup_singleton id, by
          intro other member same last
          rw [List.mem_singleton.mp last]
          rintro rfl
          exact new member⟩
  · intro other
    rw [accounts]
    by_cases same : other = id
    · subst same
      rw [Function.update_self, putServer]
      dsimp only
      split
      · rename_i member
        simp [member]
      · simp
    · rw [Function.update_of_ne same, ← keyed.mem_iff, putServer]
      dsimp only
      split
      · rfl
      · simp [same]

theorem keyed_loadStoredServers (keyed : repository.Keyed) :
    repository.loadStoredServers.Keyed :=
  ⟨keyed.nodup, keyed.mem_iff⟩

theorem isSome_of_perform {accounts : Accounts} {operation : UserOperation}
    {id : UUID} (present : (accounts.perform operation id).isSome) :
    (accounts id).isSome := by
  rw [isSome_perform] at present
  split at present
  · exact (Bool.and_eq_true_iff.mp present).1
  · exact present

theorem keyed_removeServer (keyed : repository.Keyed) (server : UUID)
    (written : Bool) : (repository.removeServer server written).Keyed := by
  have accounts :
      (repository.removeServer server written).accounts =
        Function.update repository.accounts server none :=
    getUsers_assign repository.authentication server none
  constructor
  · exact keyed.nodup.filter _
  · intro id
    rw [accounts, removeServer, List.mem_filter, keyed.mem_iff]
    by_cases same : id = server
    · subst same
      simp
    · simp [same]

/-- An action that adds no server leaves the ids of its servers. -/
theorem keyed_onStore {α : Type} {action : StoreM α}
    (keyed : repository.Keyed)
    (known :
      ∀ id, ((repository.onStore action).accounts id).isSome →
        (repository.accounts id).isSome) :
    (repository.onStore action).Keyed := by
  constructor
  · exact keyed.nodup.filter _
  · intro id
    rw [← isSome_getServer]
    have present := known id
    rw [← isSome_getServer] at present
    change id ∈ repository.ids.filter _ ↔ _
    rw [List.mem_filter, keyed.mem_iff]
    exact ⟨And.right, fun stored => ⟨present stored, stored⟩⟩

theorem keyed_step (keyed : repository.Keyed) (call : Call Issue) :
    (repository.step sdk toUUID call).Keyed := by
  have refines :
      (repository.step sdk toUUID call).accounts =
        Accounts.call toUUID repository.accounts call :=
    accounts_step repository call
  cases call with
  | addServer answers =>
      simp only [step, addServer]
      split
      · exact keyed
      · exact keyed
      · exact keyed_loadStoredServers (keyed_putServer keyed _ _ _)
  | getServer | updateServer =>
      apply keyed_onStore keyed
      intro id present
      have same := congrFun refines id
      exact (congrArg Option.isSome same).symm.trans present
  | deleteServer server written =>
      have removed := keyed_removeServer keyed server written
      cases written with
      | true =>
          exact keyed_loadStoredServers removed
      | false =>
          exact removed
  | loadStoredServers =>
      exact keyed_loadStoredServers keyed
  | user operation =>
      apply keyed_onStore keyed
      intro id present
      have same := congrFun refines id
      exact
        isSome_of_perform ((congrArg Option.isSome same).symm.trans present)

/-- The calls after which the list is as the store: it is loaded again, or
no server looks different. -/
def LeavesCurrent (sdk : Sdk Version) (repository : ServerRepository) :
    Call Issue → Prop
  | .addServer _ | .loadStoredServers => True
  | .getServer id eagerUpdate now answers =>
      ∀ server ∈ repository.authentication.getServer id,
        ¬Renews server (eagerForce sdk eagerUpdate server) now answers
  | .updateServer id force now answers =>
      ∀ server ∈ repository.authentication.getServer id,
        ¬Renews server force now answers
  | .deleteServer server written =>
      written = true ∨ repository.authentication.getServer server = none
  | .user operation =>
      match operation with
      | .removeServer server _ =>
          repository.authentication.getServer server = none
      | .setActiveSession server _ true serverTime _ _ _ =>
          ∀ stored ∈ repository.authentication.getServer server,
            stored.lastUsed = serverTime
      | _ => True

theorem shown_removeServer_iff (authentication : AuthenticationStore)
    (server : UUID) :
    (authentication.assign server none).shown = authentication.shown ↔
      authentication.getServer server = none := by
  rw [shown_assign, Option.map_none, Function.update_eq_self_iff, eq_comm,
    shown, Option.map_eq_none_iff]

theorem shown_apply_iff (operation : UserOperation) :
    (operation.apply repository.authentication).shown =
        repository.authentication.shown ↔
      repository.LeavesCurrent sdk (.user operation : Call Issue) := by
  have quiet {α : Type} {action : StoreM α}
      (fixes : Respects (Fixes shown) action) :
      (finalState
        ((discard action).run repository.authentication)).shown =
          repository.authentication.shown := by
    rw [finalState_discard]
    exact fixes repository.authentication
  cases operation with
  | putUser server user userInfo written =>
      exact iff_of_true (quiet (changeUsers_fixes_shown server _ _)) trivial
  | removeUser server user written =>
      exact iff_of_true (quiet (changeUsers_fixes_shown server _ _)) trivial
  | logout server user written =>
      exact iff_of_true (quiet (logout_fixes_shown server user _)) trivial
  | authenticateFinish server userInfo accessToken now written =>
      exact
        iff_of_true
          (authenticateFinish_fixes_shown server userInfo accessToken now
            written repository.authentication)
          trivial
  | removeServer server written =>
      exact shown_removeServer_iff repository.authentication server
  | setActiveSession server user authenticated serverTime userTime
      serverWritten userWritten =>
      rw [UserOperation.apply, UserOperation.perform, finalState_discard]
      cases authenticated with
      | false =>
          exact iff_of_true rfl trivial
      | true =>
          exact
            shown_setActiveSession_iff repository.authentication server user
              serverTime userTime serverWritten userWritten

theorem shows_step_iff (keyed : repository.Keyed) (shows : repository.Shows)
    (call : Call Issue) :
    (repository.step sdk toUUID call).Shows ↔
      repository.LeavesCurrent sdk call := by
  cases call with
  | addServer answers =>
      refine iff_of_true ?_ trivial
      simp only [step, addServer]
      split
      · exact shows
      · exact shows
      · exact shows_loadStoredServers (keyed_putServer keyed _ _ _)
  | getServer id eagerUpdate now answers =>
      refine (shows_iff_of_list_eq shows ?_).trans ?_
      · rfl
      rw [step, onStore, finalState_getServer, LeavesCurrent]
      cases stored : repository.authentication.getServer id with
      | none =>
          exact iff_of_true rfl (by simp)
      | some server =>
          apply (shown_refresh_iff stored _ now answers).trans
          simp
  | updateServer id force now answers =>
      refine (shows_iff_of_list_eq shows ?_).trans ?_
      · rfl
      rw [step, onStore, finalState_updateServer, LeavesCurrent]
      cases stored : repository.authentication.getServer id with
      | none =>
          exact iff_of_true rfl (by simp)
      | some server =>
          apply (shown_refresh_iff stored force now answers).trans
          simp
  | deleteServer server written =>
      cases written with
      | true =>
          have removed := keyed_removeServer keyed server true
          exact iff_of_true (shows_loadStoredServers removed) (Or.inl rfl)
      | false =>
          refine (shows_iff_of_list_eq shows ?_).trans ?_
          · rfl
          rw [LeavesCurrent, or_iff_right Bool.false_ne_true]
          exact shown_removeServer_iff repository.authentication server
  | loadStoredServers =>
      exact iff_of_true (shows_loadStoredServers keyed) trivial
  | user operation =>
      refine (shows_iff_of_list_eq shows ?_).trans ?_
      · rfl
      exact shown_apply_iff operation

/-- The list is in order and has no server twice. -/
structure Listed (repository : ServerRepository) : Prop where
  keyed : repository.Keyed
  inOrder : repository.storedServers.Pairwise Server.Precedes
  distinct : (repository.storedServers.map Server.id).Nodup

theorem listed_loadStoredServers (keyed : repository.Keyed) :
    repository.loadStoredServers.Listed where
  keyed := keyed_loadStoredServers keyed
  inOrder :=
    (ascending_sortedBy Server.key _).imp Server.precedes_of_key_le
  distinct := by
    have loaded :=
      (sortedBy_perm Server.key
        (repository.getServers.map fun (id, entry) =>
          entry.asServer id)).map Server.id
    rw [List.map_map] at loaded
    have ids := map_fst_getServers keyed
    exact
      (loaded.trans (List.Perm.of_eq ids)).nodup_iff.mpr keyed.nodup

theorem listed_step (listed : repository.Listed) (call : Call Issue) :
    (repository.step sdk toUUID call).Listed := by
  have keyed : (repository.step sdk toUUID call).Keyed :=
    keyed_step listed.keyed call
  cases call with
  | addServer answers =>
      simp only [step, addServer]
      split
      · exact listed
      · exact listed
      · exact listed_loadStoredServers (keyed_putServer listed.keyed _ _ _)
  | deleteServer server written =>
      have removed := keyed_removeServer listed.keyed server written
      cases written with
      | true =>
          exact listed_loadStoredServers removed
      | false =>
          exact ⟨removed, listed.inOrder, listed.distinct⟩
  | loadStoredServers =>
      exact listed_loadStoredServers listed.keyed
  | getServer | updateServer | user =>
      exact ⟨keyed, listed.inOrder, listed.distinct⟩

end Calls

/-- A store without servers. -/
def empty : ServerRepository where
  authentication := ⟨fun _ => none, fun _ => none⟩
  ids := []
  storedServers := []

/-- Two candidates of one server, the second one great. -/
def sampleAnswers : AdditionAnswers Unit where
  recommendations :=
    [⟨"http://tv", some (some "1", ⟨some "Home", none, none⟩), [], .good⟩,
      ⟨"https://tv", some (some "1", ⟨some "Home", none, none⟩), [], .great⟩]
  branding := .invalidContent
  lastUsed := 5
  lastRefreshed := 5
  written := true

def sampleId (text : String) : Option UUID :=
  if text = "1" then some ⟨1⟩ else none

def sampleSdk : Sdk Nat where
  fromString := fun _ => none
  minimumServerVersion := 0

end ServerRepository

end JellyfinTv.Auth
