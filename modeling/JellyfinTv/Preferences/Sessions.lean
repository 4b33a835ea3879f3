import JellyfinTv.Library.TwoRuns
import JellyfinTv.Preferences.Display

/-!
# Preferences across sessions

`PreferencesRepository` holds two shared stores for the whole life of the
application and a map of library stores.  The server keeps the records of
each user apart and answers for the user whose token the client holds.  A
session change downloads the shared records again and drops the library
stores; a download that fails leaves the cache of a shared store as it is.
-/

namespace JellyfinTv.Preferences.Sessions

open JellyfinTv.Library Display

/-! ## The repository -/

/-- A record on the server is named by its identifier and the client. -/
structure RecordId where
  displayPreferencesId : String
  app : String
  deriving DecidableEq, Repr

/-- The fields of a `DisplayPreferencesStore`. -/
structure StoreCache where
  displayPreferencesDto : Option DisplayPreferencesDto := none
  cachedPreferences : CustomPrefs := fun _ => none

namespace StoreCache

/-- The store with its record on the server. -/
def withRecord (cache : StoreCache) (server : DisplayPreferencesDto) :
    DisplayPreferencesStore where
  server := server
  displayPreferencesDto := cache.displayPreferencesDto
  cachedPreferences := cache.cachedPreferences

/-- The fields of a store without its record. -/
def ofStore (store : DisplayPreferencesStore) : StoreCache where
  displayPreferencesDto := store.displayPreferencesDto
  cachedPreferences := store.cachedPreferences

end StoreCache

/-- The text that the getters convert; a stored null counts as none. -/
def getText (store : DisplayPreferencesStore) (key : String) :
    Option String :=
  (store.cachedPreferences key).join

/-- The calls on a store, with the outcomes of their requests.  The body of a
transaction may read the store. -/
inductive StoreCall where
  | read (key : String)
  | transaction (body : (String → Option String) → List Display.Edit)
      (retrieved : Bool) (answer : UpdateAnswer)

/-- What a call returns. -/
inductive Reply where
  | text (value : Option String)
  | committed (success : Bool)
  | changed
  deriving DecidableEq, Repr

def performCall (store : DisplayPreferencesStore) :
    StoreCall → Reply × DisplayPreferencesStore
  | .read key => (.text (getText store key), store)
  | .transaction body retrieved answer =>
      let (after, success) :=
        store.transaction (body (getText (store.prepare retrieved)))
          retrieved answer
      (.committed success, after)

inductive StoreName where
  | liveTv
  | userSettings
  | library (preferencesId : String)
  deriving DecidableEq, Repr

def StoreName.recordId : StoreName → RecordId
  | liveTv => ⟨"livetv", "jellyfin-androidtv"⟩
  | userSettings => ⟨"usersettings", "emby"⟩
  | library preferencesId => ⟨preferencesId, "jellyfin-androidtv"⟩

abbrev Records (User : Type) :=
  User → RecordId → DisplayPreferencesDto

/-- The user of the client, the records of the server, and the fields of the
repository. -/
structure PreferencesRepository (User : Type) where
  user : User
  records : Records User
  liveTvPreferences : StoreCache
  userSettingPreferences : StoreCache
  libraryPreferences : String → Option StoreCache

/-- Session changes with the outcomes of the two downloads, calls on the
shared stores, and calls on the store that `getLibraryPreferences` returns. -/
inductive PreferencesEvent (User : Type) where
  | changeSession (user : User) (liveTv userSettings : Bool)
  | liveTv (call : StoreCall)
  | userSettings (call : StoreCall)
  | library (preferencesId : String) (retrieved : Bool) (call : StoreCall)

namespace PreferencesRepository

section Fields

variable {User : Type}

/-- A new application whose client holds the token of a user. -/
def opened (records : Records User) (user : User) :
    PreferencesRepository User where
  user := user
  records := records
  liveTvPreferences := {}
  userSettingPreferences := {}
  libraryPreferences _ := none

variable (repository : PreferencesRepository User)

def cache : StoreName → StoreCache
  | .liveTv => repository.liveTvPreferences
  | .userSettings => repository.userSettingPreferences
  | .library preferencesId =>
      (repository.libraryPreferences preferencesId).getD {}

def setCache (name : StoreName) (cache : StoreCache) :
    PreferencesRepository User :=
  match name with
  | .liveTv => { repository with liveTvPreferences := cache }
  | .userSettings => { repository with userSettingPreferences := cache }
  | .library preferencesId =>
      { repository with
        libraryPreferences :=
          Function.update repository.libraryPreferences preferencesId
            (some cache) }

/-- The store with the record of the client's user. -/
def store (name : StoreName) : DisplayPreferencesStore :=
  (repository.cache name).withRecord
    (repository.records repository.user name.recordId)

def updated (name : StoreName) (retrieved : Bool) : StoreCache :=
  .ofStore ((repository.store name).update retrieved).1

def onSessionChanged (liveTv userSettings : Bool) :
    PreferencesRepository User :=
  { repository with
    liveTvPreferences := repository.updated .liveTv liveTv
    userSettingPreferences := repository.updated .userSettings userSettings
    libraryPreferences := fun _ => none }

/-- A completed session change: the client has the token of the user. -/
def changeSession (user : User) (liveTv userSettings : Bool) :
    PreferencesRepository User :=
  { repository with user := user }.onSessionChanged liveTv userSettings

end Fields

section Calls

variable {User : Type} [DecidableEq User]
  (repository : PreferencesRepository User)

/-- A call on a store, which may replace the record of the client's user. -/
def callStore (name : StoreName) (store : DisplayPreferencesStore)
    (call : StoreCall) : Reply × PreferencesRepository User :=
  let (reply, after) := performCall store call
  let records :=
    Function.update repository.records repository.user
      (Function.update (repository.records repository.user) name.recordId
        after.server)
  (reply,
    { repository with records := records }.setCache name (.ofStore after))

def perform :
    PreferencesEvent User → Reply × PreferencesRepository User
  | .changeSession user liveTv userSettings =>
      (.changed, repository.changeSession user liveTv userSettings)
  | .liveTv call =>
      repository.callStore .liveTv (repository.store .liveTv) call
  | .userSettings call =>
      repository.callStore .userSettings (repository.store .userSettings)
        call
  | .library preferencesId retrieved call =>
      -- `getLibraryPreferences` updates a store that has no record yet.
      repository.callStore (.library preferencesId)
        ((repository.store (.library preferencesId)).prepare retrieved) call

def reply (event : PreferencesEvent User) : Reply :=
  (repository.perform event).1

def step (event : PreferencesEvent User) : PreferencesRepository User :=
  (repository.perform event).2

end Calls

end PreferencesRepository

open PreferencesRepository

/-- The maps agree, and both stores have a record or neither has. -/
structure SameStore (first second : DisplayPreferencesStore) : Prop where
  record : first.server.customPrefs = second.server.customPrefs
  fetched :
    first.displayPreferencesDto.isNone = second.displayPreferencesDto.isNone
  cached : first.cachedPreferences = second.cachedPreferences

namespace SameStore

variable {first second : DisplayPreferencesStore}

theorem update (same : SameStore first second) (retrieved : Bool) :
    SameStore (first.update retrieved).1 (second.update retrieved).1 := by
  obtain ⟨record, fetched, cached⟩ := same
  unfold DisplayPreferencesStore.update
  cases retrieved with
  | true =>
      exact ⟨record, rfl, record⟩
  | false =>
      simp only [Bool.false_eq_true, if_false, fetched]
      split
      · exact ⟨record, rfl, cached⟩
      · exact ⟨record, fetched, cached⟩

theorem prepare (same : SameStore first second) (retrieved : Bool) :
    SameStore (first.prepare retrieved) (second.prepare retrieved) := by
  unfold DisplayPreferencesStore.prepare DisplayPreferencesStore.shouldUpdate
  rw [same.fetched]
  split
  · exact same.update retrieved
  · exact same

theorem edit (same : SameStore first second) (body : List Display.Edit) :
    SameStore (first.edit body) (second.edit body) := by
  refine ⟨same.record, same.fetched, ?_⟩
  simp only [DisplayPreferencesStore.edit, same.cached]

theorem commit (same : SameStore first second) (answer : UpdateAnswer) :
    SameStore (first.commit answer).1 (second.commit answer).1 ∧
      (first.commit answer).2 = (second.commit answer).2 := by
  obtain ⟨record, fetched, cached⟩ := same
  unfold DisplayPreferencesStore.commit
  cases held : first.displayPreferencesDto with
  | none =>
      rw [held, Option.isNone_none] at fetched
      rw [Option.isNone_iff_eq_none.mp fetched.symm]
      exact ⟨⟨record, by rw [held, ← fetched]; rfl, cached⟩, rfl⟩
  | some data =>
      rw [held, Option.isNone_some] at fetched
      obtain ⟨other, present⟩ :=
        Option.isSome_iff_exists.mp (Option.isNone_eq_false_iff.mp fetched.symm)
      rw [present]
      refine ⟨?_, rfl⟩
      dsimp only
      split
      · exact ⟨cached, rfl, cached⟩
      · exact ⟨record, by rw [held, present]; rfl, cached⟩

/-- Calls on such stores return the same and leave such stores behind. -/
theorem performCall (same : SameStore first second) (call : StoreCall) :
    (Sessions.performCall first call).1 =
        (Sessions.performCall second call).1 ∧
      SameStore (Sessions.performCall first call).2
        (Sessions.performCall second call).2 := by
  cases call with
  | read key =>
      refine ⟨?_, same⟩
      simp only [Sessions.performCall, getText, same.cached]
  | transaction body retrieved answer =>
      have prepared := same.prepare retrieved
      have read :
          getText (first.prepare retrieved) =
            getText (second.prepare retrieved) := by
        funext key
        simp only [getText, prepared.cached]
      obtain ⟨after, success⟩ :=
        (prepared.edit (body (getText (first.prepare retrieved)))).commit
          answer
      simp only [Sessions.performCall, DisplayPreferencesStore.transaction,
        ← read]
      exact ⟨congrArg Reply.committed success, after⟩

end SameStore

/-! ## Repositories that a user cannot tell apart -/

section Users

variable {User : Type} {user : User}
variable {first second : PreferencesRepository User}

/-- The server holds the same maps of the user. -/
def SameMaps (user : User) (first second : PreferencesRepository User) :
    Prop :=
  ∀ id,
    (first.records user id).customPrefs =
      (second.records user id).customPrefs

/-- The same text under every key, and a record in both caches or in none. -/
structure SameCache (first second : StoreCache) : Prop where
  fetched :
    first.displayPreferencesDto.isNone = second.displayPreferencesDto.isNone
  cached : first.cachedPreferences = second.cachedPreferences

/-- The user is signed in to both, with the same maps and caches. -/
structure Alike (user : User) (first second : PreferencesRepository User) :
    Prop where
  first_user : first.user = user
  second_user : second.user = user
  maps : SameMaps user first second
  caches : ∀ name, SameCache (first.cache name) (second.cache name)

theorem Alike.store (alike : Alike user first second) (name : StoreName) :
    SameStore (first.store name) (second.store name) := by
  obtain ⟨fetched, cached⟩ := alike.caches name
  refine ⟨?_, fetched, cached⟩
  simp only [PreferencesRepository.store, StoreCache.withRecord,
    alike.first_user, alike.second_user]
  exact alike.maps name.recordId

theorem cache_setCache (repository : PreferencesRepository User)
    (name other : StoreName) (cache : StoreCache) :
    (repository.setCache name cache).cache other =
      if other = name then cache else repository.cache other := by
  cases name with
  | liveTv =>
      cases other <;> rfl
  | userSettings =>
      cases other <;> rfl
  | library preferencesId =>
      cases other with
      | liveTv => rfl
      | userSettings => rfl
      | library otherId =>
          simp only [setCache, PreferencesRepository.cache,
            StoreName.library.injEq]
          by_cases same : otherId = preferencesId
          · rw [if_pos same, same, Function.update_self, Option.getD_some]
          · rw [if_neg same, Function.update_of_ne same]

@[simp]
theorem user_setCache (repository : PreferencesRepository User)
    (name : StoreName) (cache : StoreCache) :
    (repository.setCache name cache).user = repository.user := by
  cases name <;> rfl

@[simp]
theorem records_setCache (repository : PreferencesRepository User)
    (name : StoreName) (cache : StoreCache) :
    (repository.setCache name cache).records = repository.records := by
  cases name <;> rfl

/-- A cache that a session change leaves to the user: downloaded, or empty as
in a new application. -/
def OwnCache (cache : StoreCache) (retrieved : Bool) : Prop :=
  retrieved = true ∨ cache.cachedPreferences = fun _ => none

theorem updated_fetched (repository : PreferencesRepository User)
    (name : StoreName) (retrieved : Bool) :
    (repository.updated name retrieved).displayPreferencesDto.isNone =
      false := by
  simp only [updated, StoreCache.ofStore, DisplayPreferencesStore.update]
  split
  · rfl
  · split
    · rfl
    · rename_i present
      exact Bool.eq_false_iff.mpr present

theorem updated_cached (repository : PreferencesRepository User)
    (name : StoreName) (retrieved : Bool) :
    (repository.updated name retrieved).cachedPreferences =
      if retrieved = true then
        (repository.records repository.user name.recordId).customPrefs
      else (repository.cache name).cachedPreferences := by
  simp only [updated, StoreCache.ofStore, DisplayPreferencesStore.update]
  split
  · rfl
  · split <;> rfl

/-- A store that is left to the user holds the user's map after a successful
download, and nothing after a failed one. -/
theorem updated_cached_of_own {repository : PreferencesRepository User}
    {name : StoreName} {retrieved : Bool}
    (own : OwnCache (repository.cache name) retrieved) :
    (repository.updated name retrieved).cachedPreferences =
      if retrieved = true then
        (repository.records repository.user name.recordId).customPrefs
      else fun _ => none := by
  rw [updated_cached]
  split
  · rfl
  · rename_i failed
    exact own.resolve_left failed

/-- Both shared stores are left to the new user. -/
structure OwnCaches (repository : PreferencesRepository User)
    (liveTv userSettings : Bool) : Prop where
  liveTv : OwnCache repository.liveTvPreferences liveTv
  userSettings : OwnCache repository.userSettingPreferences userSettings

theorem sameCache_updated (maps : SameMaps user first second)
    (first_user : first.user = user) (second_user : second.user = user)
    {name : StoreName} {retrieved : Bool}
    (own_first : OwnCache (first.cache name) retrieved)
    (own_second : OwnCache (second.cache name) retrieved) :
    SameCache (first.updated name retrieved)
      (second.updated name retrieved) := by
  refine ⟨?_, ?_⟩
  · rw [updated_fetched, updated_fetched]
  · rw [updated_cached_of_own own_first, updated_cached_of_own own_second,
      first_user, second_user, maps]

/-- After such a change the user cannot tell two repositories apart. -/
theorem alike_changeSession (maps : SameMaps user first second)
    {liveTv userSettings : Bool}
    (own_first : OwnCaches first liveTv userSettings)
    (own_second : OwnCaches second liveTv userSettings) :
    Alike user (first.changeSession user liveTv userSettings)
      (second.changeSession user liveTv userSettings) := by
  have switched :
      SameMaps user { first with user := user }
        { second with user := user } :=
    maps
  refine ⟨rfl, rfl, maps, ?_⟩
  intro name
  cases name with
  | liveTv =>
      exact
        @sameCache_updated _ _ _ _ switched rfl rfl .liveTv _
          own_first.liveTv own_second.liveTv
  | userSettings =>
      exact
        @sameCache_updated _ _ _ _ switched rfl rfl .userSettings _
          own_first.userSettings own_second.userSettings
  | library preferencesId =>
      exact ⟨rfl, rfl⟩

variable [DecidableEq User]

/-- A call on a store replaces its record alone. -/
theorem sameMaps_callStore (maps : SameMaps user first second)
    (same_user : first.user = second.user)
    {name : StoreName} {left right : DisplayPreferencesStore}
    {call : StoreCall}
    (written :
      first.user = user →
        (performCall left call).2.server.customPrefs =
          (performCall right call).2.server.customPrefs) :
    SameMaps user (first.callStore name left call).2
      (second.callStore name right call).2 := by
  intro id
  simp only [callStore, records_setCache, ← same_user]
  by_cases own : first.user = user
  · subst own
    simp only [Function.update_self]
    by_cases here : id = name.recordId
    · subst here
      rw [Function.update_self, Function.update_self]
      exact written rfl
    · rw [Function.update_of_ne here, Function.update_of_ne here, maps]
  · rw [Function.update_of_ne (Ne.symm own),
      Function.update_of_ne (Ne.symm own), maps]

/-- A call on stores that cannot be told apart. -/
theorem alike_callStore (alike : Alike user first second)
    {left right : DisplayPreferencesStore} (same : SameStore left right)
    (name : StoreName) (call : StoreCall) :
    (first.callStore name left call).1 =
        (second.callStore name right call).1 ∧
      Alike user (first.callStore name left call).2
        (second.callStore name right call).2 := by
  obtain ⟨reply, after⟩ := same.performCall call
  refine ⟨reply, ?_, ?_, ?_, ?_⟩
  · simp only [callStore, user_setCache, alike.first_user]
  · simp only [callStore, user_setCache, alike.second_user]
  · exact
      sameMaps_callStore alike.maps
        (alike.first_user.trans alike.second_user.symm)
        fun _ => after.record
  · intro other
    simp only [callStore, cache_setCache]
    split
    · exact ⟨after.fetched, after.cached⟩
    · exact alike.caches other

/-- The event is not a session change. -/
def WithinSession : PreferencesEvent User → Prop
  | .changeSession _ _ _ => False
  | _ => True

/-- Within a session the user cannot tell alike repositories apart. -/
theorem alike_step {first second : PreferencesRepository User}
    {event : PreferencesEvent User} (alike : Alike user first second)
    (within_session : WithinSession event) :
    first.reply event = second.reply event ∧
      Alike user (first.step event) (second.step event) := by
  cases event with
  | changeSession target liveTv userSettings =>
      exact within_session.elim
  | liveTv call =>
      exact alike_callStore alike (alike.store .liveTv) .liveTv call
  | userSettings call =>
      exact
        alike_callStore alike (alike.store .userSettings) .userSettings call
  | library preferencesId retrieved call =>
      exact
        alike_callStore alike
          ((alike.store (.library preferencesId)).prepare retrieved)
          (.library preferencesId) call

theorem reply_of_alike {first second : PreferencesRepository User}
    (alike : Alike user first second) (event : PreferencesEvent User) :
    first.reply event = second.reply event := by
  by_cases within_session : WithinSession event
  · exact (alike_step alike within_session).1
  · cases event with
    | changeSession target liveTv userSettings =>
        rfl
    | liveTv call =>
        exact absurd trivial within_session
    | userSettings call =>
        exact absurd trivial within_session
    | library preferencesId retrieved call =>
        exact absurd trivial within_session

/-- After the change to the user, replies and the user's maps are those of a
new application with the same maps of the user, whatever the records of other
users are: they depend on these maps, the operations since the change and the
outcomes of the requests alone. -/
def DependsOnOwnMaps (user : User) (repository : PreferencesRepository User)
    (liveTv userSettings : Bool) : Prop :=
  ∀ others : Records User,
    SameMaps user repository (opened others user) →
      ∀ operations : List (PreferencesEvent User),
        (∀ event ∈ operations, WithinSession event) →
          let session := repository.changeSession user liveTv userSettings
          let anew :=
            (opened others user).changeSession user liveTv userSettings
          answers step reply session operations =
              answers step reply anew operations ∧
            SameMaps user (run step session operations)
              (run step anew operations)

/-- An empty transaction writes the cached map to the server. -/
theorem written_by_empty_transaction
    {repository : PreferencesRepository User} {name : StoreName}
    (fetched : (repository.cache name).displayPreferencesDto.isNone = false) :
    ((repository.callStore name (repository.store name)
        (.transaction (fun _ => []) true .success)).2.records
          repository.user name.recordId).customPrefs =
      (repository.cache name).cachedPreferences := by
  obtain ⟨data, present⟩ :=
    Option.isSome_iff_exists.mp (Option.isNone_eq_false_iff.mp fetched)
  have held : (repository.store name).displayPreferencesDto = some data :=
    present
  simp only [callStore, performCall, records_setCache, Function.update_self,
    DisplayPreferencesStore.transaction, DisplayPreferencesStore.prepare,
    DisplayPreferencesStore.shouldUpdate, held, Option.isNone_some,
    Bool.false_eq_true, if_false, DisplayPreferencesStore.edit,
    DisplayPreferencesStore.commit, List.foldl_nil]
  rfl

/-- Right after a session change, empty transactions on the shared stores
write their cached maps. -/
theorem written_after_change (repository : PreferencesRepository User)
    (liveTv userSettings : Bool) :
    let session := repository.changeSession user liveTv userSettings
    ((session.step
          (.liveTv (.transaction (fun _ => []) true .success))).records user
        StoreName.liveTv.recordId).customPrefs =
      session.liveTvPreferences.cachedPreferences ∧
    ((session.step
          (.userSettings (.transaction (fun _ => []) true .success))).records
        user StoreName.userSettings.recordId).customPrefs =
      session.userSettingPreferences.cachedPreferences := by
  intro session
  have fetched := updated_fetched { repository with user := user }
  exact
    ⟨@written_by_empty_transaction _ _ session .liveTv
        (fetched .liveTv liveTv),
      @written_by_empty_transaction _ _ session .userSettings
        (fetched .userSettings userSettings)⟩

theorem cached_of_dependsOnOwnMaps {repository : PreferencesRepository User}
    {liveTv userSettings : Bool}
    (depends : DependsOnOwnMaps user repository liveTv userSettings) :
    let session := repository.changeSession user liveTv userSettings
    let anew :=
      (opened repository.records user).changeSession user liveTv userSettings
    session.liveTvPreferences.cachedPreferences =
        anew.liveTvPreferences.cachedPreferences ∧
      session.userSettingPreferences.cachedPreferences =
        anew.userSettingPreferences.cachedPreferences := by
  intro session anew
  have committed :
      ∀ event, WithinSession event →
        SameMaps user (session.step event) (anew.step event) := by
    intro event within_session
    exact
      (depends repository.records (fun _ => rfl) [event]
        (fun other member => by
          rw [List.mem_singleton.mp member]
          exact within_session)).2
  obtain ⟨liveTv_left, settings_left⟩ :=
    written_after_change repository liveTv userSettings
  obtain ⟨liveTv_right, settings_right⟩ :=
    @written_after_change _ user _ (opened repository.records user) liveTv
      userSettings
  have liveTv_same :=
    committed (.liveTv (.transaction (fun _ => []) true .success)) trivial
      StoreName.liveTv.recordId
  have settings_same :=
    committed (.userSettings (.transaction (fun _ => []) true .success))
      trivial StoreName.userSettings.recordId
  exact
    ⟨liveTv_left.symm.trans (liveTv_same.trans liveTv_right),
      settings_left.symm.trans (settings_same.trans settings_right)⟩

omit [DecidableEq User] in
/-- A cache that stays as in a new application was empty or downloaded. -/
theorem ownCache_of_updated {repository fresh : PreferencesRepository User}
    {name : StoreName} {retrieved : Bool}
    (new : (fresh.cache name).cachedPreferences = fun _ => none)
    (same :
      (repository.updated name retrieved).cachedPreferences =
        (fresh.updated name retrieved).cachedPreferences) :
    OwnCache (repository.cache name) retrieved := by
  rw [updated_cached, updated_cached, new] at same
  by_cases success : retrieved = true
  · exact Or.inl success
  · rw [if_neg success, if_neg success] at same
    exact Or.inr same

theorem dependsOnOwnMaps_iff (repository : PreferencesRepository User)
    (liveTv userSettings : Bool) :
    DependsOnOwnMaps user repository liveTv userSettings ↔
      OwnCaches repository liveTv userSettings := by
  constructor
  · intro depends
    obtain ⟨sameLiveTv, sameSettings⟩ := cached_of_dependsOnOwnMaps depends
    exact
      ⟨@ownCache_of_updated _ { repository with user := user }
          (opened repository.records user) .liveTv liveTv rfl sameLiveTv,
        @ownCache_of_updated _ { repository with user := user }
          (opened repository.records user) .userSettings userSettings rfl
          sameSettings⟩
  · intro own others maps operations within_session
    have own_new : OwnCaches (opened others user) liveTv userSettings :=
      ⟨Or.inr rfl, Or.inr rfl⟩
    have preserved :
        ∀ (first second : PreferencesRepository User)
          (event : PreferencesEvent User),
          Alike user first second → WithinSession event →
            first.reply event = second.reply event ∧
              Alike user (first.step event) (second.step event) :=
      fun _ _ _ alike within => alike_step alike within
    obtain ⟨replies, alike⟩ :=
      answers_related preserved (alike_changeSession maps own own_new)
        within_session
    exact ⟨replies, alike.maps⟩

/-- The same user is signed in, the maps of the user are the same, and the
user cannot tell the repositories apart. -/
structure SameFor (user : User) (first second : PreferencesRepository User) :
    Prop where
  same_user : first.user = second.user
  maps : SameMaps user first second
  alike : first.user = user → Alike user first second

/-- A change to the user leaves the shared stores to the user. -/
def LoadsOwn (user : User) (repository : PreferencesRepository User) :
    PreferencesEvent User → Prop
  | .changeSession target liveTv userSettings =>
      target = user → OwnCaches repository liveTv userSettings
  | _ => True

theorem sameFor_callStore {first second : PreferencesRepository User}
    (same : SameFor user first second) {name : StoreName}
    {left right : DisplayPreferencesStore} (call : StoreCall)
    (stores : Alike user first second → SameStore left right) :
    SameFor user (first.callStore name left call).2
      (second.callStore name right call).2 := by
  refine ⟨?_, ?_, ?_⟩
  · simp only [callStore, user_setCache, same.same_user]
  · exact
      sameMaps_callStore same.maps same.same_user fun own =>
        ((stores (same.alike own)).performCall call).2.record
  · intro own
    have alike : Alike user first second := by
      simp only [callStore, user_setCache] at own
      exact same.alike own
    exact (alike_callStore alike (stores alike) name call).2

theorem sameFor_step {first second : PreferencesRepository User}
    {event : PreferencesEvent User} (same : SameFor user first second)
    (own_first : LoadsOwn user first event)
    (own_second : LoadsOwn user second event) :
    SameFor user (first.step event) (second.step event) := by
  cases event with
  | changeSession target liveTv userSettings =>
      refine ⟨rfl, same.maps, ?_⟩
      rintro rfl
      exact
        alike_changeSession same.maps (own_first rfl) (own_second rfl)
  | liveTv call =>
      exact sameFor_callStore same call fun alike => alike.store .liveTv
  | userSettings call =>
      exact
        sameFor_callStore same call fun alike => alike.store .userSettings
  | library preferencesId retrieved call =>
      exact
        sameFor_callStore same call fun alike =>
          (alike.store (.library preferencesId)).prepare retrieved

omit [DecidableEq User] in
theorem sameFor_opened {records others : Records User} {signedIn : User}
    (maps : SameMaps user (opened records signedIn)
      (opened others signedIn)) :
    SameFor user (opened records signedIn) (opened others signedIn) := by
  refine ⟨rfl, maps, fun own => ⟨own, own, maps, ?_⟩⟩
  intro name
  cases name <;> exact ⟨rfl, rfl⟩

/-- Preferences stay with their user.  After any run, the change to a user
makes replies and the user's maps depend on that user alone if and only if
both shared stores are left to the user; and two runs that differ in the maps
of other users are the same for the user if every change to the user leaves
the stores to the user. -/
theorem preferences_stay_with_user_iff (records others : Records User)
    (signedIn user : User) (events : List (PreferencesEvent User)) :
    (∀ liveTv userSettings,
      DependsOnOwnMaps user (run step (opened records signedIn) events)
          liveTv userSettings ↔
        OwnCaches (run step (opened records signedIn) events) liveTv
          userSettings) ∧
      (SameMaps user (opened records signedIn) (opened others signedIn) →
        Admitted step (LoadsOwn user) (opened records signedIn) events →
          Admitted step (LoadsOwn user) (opened others signedIn) events →
            ∀ early, early <+: events →
              let first := run step (opened records signedIn) early
              let second := run step (opened others signedIn) early
              SameMaps user first second ∧
                (first.user = user →
                  ∀ event, first.reply event = second.reply event)) := by
  refine ⟨fun _ _ => dependsOnOwnMaps_iff _ _ _, ?_⟩
  intro maps own_first own_second early isEarly
  have preserved :
      ∀ (first second : PreferencesRepository User)
        (event : PreferencesEvent User),
        SameFor user first second → LoadsOwn user first event →
          LoadsOwn user second event →
            SameFor user (first.step event) (second.step event) :=
    fun _ _ _ same own_first own_second =>
      sameFor_step same own_first own_second
  have same :=
    run_related preserved (sameFor_opened maps) (own_first.earlier isEarly)
      (own_second.earlier isEarly)
  exact ⟨same.maps, fun own event => reply_of_alike (same.alike own) event⟩

end Users

/-- The first user has changed a setting; the other records are empty. -/
def skipRecords : Records Nat := fun user id =>
  if user = 1 ∧ id = StoreName.userSettings.recordId then
    { DisplayPreferencesDto.empty with
      customPrefs :=
        Function.update (fun _ => none) "skipBackLength"
          (some (some "5000")) }
  else .empty

/-- Both users sign in one after the other; the downloads for the second one
fail. -/
def failedChange : List (PreferencesEvent Nat) :=
  [.changeSession 1 true true, .changeSession 2 false false]

/-- The second user reads the setting of the first one, and a transaction
writes it to the second user's record. -/
theorem settings_of_first_user_reach_second :
    let records := skipRecords
    let others : Records Nat := fun _ _ => .empty
    let first := run step (opened records 1) failedChange
    let second := run step (opened others 1) failedChange
    SameMaps 2 (opened records 1) (opened others 1) ∧
      first.reply (.userSettings (.read "skipBackLength")) =
        .text (some "5000") ∧
      second.reply (.userSettings (.read "skipBackLength")) = .text none ∧
      ((first.step
          (.userSettings
            (.transaction (fun _ => []) true .success))).records 2
        StoreName.userSettings.recordId).customPrefs "skipBackLength" =
        some (some "5000") ∧
      ¬ DependsOnOwnMaps 2 (run step (opened records 1)
        [.changeSession 1 true true]) false false := by
  intro records others first second
  refine ⟨fun _ => rfl, by decide, by decide, by decide, ?_⟩
  intro depends
  have own := (dependsOnOwnMaps_iff _ _ _).mp depends
  have empty := own.userSettings.resolve_left (by decide)
  have text := congrFun empty "skipBackLength"
  exact absurd text (by decide)

end JellyfinTv.Preferences.Sessions
