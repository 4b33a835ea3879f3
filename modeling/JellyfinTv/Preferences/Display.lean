import JellyfinTv.Library.Runs
import Mathlib.Logic.Function.Basic

/-!
# Display preferences

`DisplayPreferencesStore` caches the custom preferences of one display
preferences record of the server, and `commit` writes the whole cached map
back.  When the record cannot be retrieved the store continues with an empty
one.  The ledger of a history says where the cached map comes from and which
keys were edited since it was cleared; it decides what a commit does to the
keys that a transaction does not touch.
-/

namespace JellyfinTv.Preferences.Display

open JellyfinTv.Library

inductive ScrollDirection where
  | horizontal
  | vertical
  deriving DecidableEq, Repr

inductive SortOrder where
  | ascending
  | descending
  deriving DecidableEq, Repr

/-- A map of type `Map<String, String?>`: a key may be stored with a null. -/
abbrev CustomPrefs := String → Option (Option String)

structure DisplayPreferencesDto where
  primaryImageHeight : Int
  primaryImageWidth : Int
  customPrefs : CustomPrefs
  rememberIndexing : Bool
  scrollDirection : ScrollDirection
  rememberSorting : Bool
  showBackdrop : Bool
  showSidebar : Bool
  sortOrder : SortOrder

def DisplayPreferencesDto.empty : DisplayPreferencesDto where
  primaryImageHeight := 0
  primaryImageWidth := 0
  customPrefs _ := none
  rememberIndexing := false
  scrollDirection := .horizontal
  rememberSorting := false
  showBackdrop := false
  showSidebar := false
  sortOrder := .ascending

/-- The outcome of `updateDisplayPreferences`.  A call may fail with an
`ApiClientException` although the server has stored the record. -/
inductive UpdateAnswer where
  | success
  | failure (stored : Bool)
  deriving DecidableEq, Repr

def UpdateAnswer.Stores : UpdateAnswer → Bool
  | success => true
  | failure stored => stored

/-- The record on the server and the fields of the store. -/
structure DisplayPreferencesStore where
  server : DisplayPreferencesDto
  displayPreferencesDto : Option DisplayPreferencesDto := none
  cachedPreferences : CustomPrefs := fun _ => none

/-- The operations of a transaction's body.  The text of a float is the one
that Kotlin gives it. -/
inductive Edit where
  | setInt (key : String) (value : Int)
  | setLong (key : String) (value : Int)
  | setFloat (key : String) (text : String)
  | setBool (key : String) (value : Bool)
  | setString (key : String) (value : String)
  | delete (key : String)
  deriving DecidableEq, Repr

namespace Edit

def key : Edit → String
  | setInt key _ => key
  | setLong key _ => key
  | setFloat key _ => key
  | setBool key _ => key
  | setString key _ => key
  | delete key => key

/-- The text that is stored, or nothing for a deletion. -/
def text : Edit → Option String
  | setInt _ value => some (toString value)
  | setLong _ value => some (toString value)
  | setFloat _ text => some text
  | setBool _ value => some (toString value)
  | setString _ value => some value
  | delete _ => none

/-- `cachedPreferences[key] = text`, or `remove(key)`. -/
def perform (cachedPreferences : CustomPrefs) (edit : Edit) : CustomPrefs :=
  Function.update cachedPreferences edit.key (edit.text.map some)

end Edit

namespace DisplayPreferencesStore

def shouldUpdate (store : DisplayPreferencesStore) : Bool :=
  store.displayPreferencesDto.isNone

def commit (store : DisplayPreferencesStore) (answer : UpdateAnswer) :
    DisplayPreferencesStore × Bool :=
  match store.displayPreferencesDto with
  | none => (store, false)
  | some displayPreferencesDto =>
      let data :=
        { displayPreferencesDto with customPrefs := store.cachedPreferences }
      (if answer.Stores then { store with server := data } else store,
        answer = .success)

def clearCache (store : DisplayPreferencesStore) :
    DisplayPreferencesStore × Bool :=
  if store.displayPreferencesDto.isNone then
    (store, false)
  else
    ({ store with
        displayPreferencesDto := none
        cachedPreferences := fun _ => none }, true)

/-- `retrieved` says whether `getDisplayPreferences` succeeds. -/
def update (store : DisplayPreferencesStore) (retrieved : Bool) :
    DisplayPreferencesStore × Bool :=
  if retrieved then
    ({ store with
        displayPreferencesDto := some store.server
        cachedPreferences := store.server.customPrefs }, true)
  else if store.displayPreferencesDto.isNone then
    ({ store with displayPreferencesDto := some .empty }, false)
  else
    (store, false)

def edit (store : DisplayPreferencesStore) (body : List Edit) :
    DisplayPreferencesStore :=
  { store with
    cachedPreferences := body.foldl Edit.perform store.cachedPreferences }

/-- The update at the beginning of a transaction. -/
def prepare (store : DisplayPreferencesStore) (retrieved : Bool) :
    DisplayPreferencesStore :=
  if store.shouldUpdate then (store.update retrieved).1 else store

def transaction (store : DisplayPreferencesStore) (body : List Edit)
    (retrieved : Bool) (answer : UpdateAnswer) :
    DisplayPreferencesStore × Bool :=
  ((store.prepare retrieved).edit body).commit answer

end DisplayPreferencesStore

/-- A call on the store, with the outcomes of its requests. -/
inductive Call where
  | transaction (body : List Edit) (retrieved : Bool) (answer : UpdateAnswer)
  | update (retrieved : Bool)
  | clearCache
  deriving DecidableEq, Repr

def DisplayPreferencesStore.step (store : DisplayPreferencesStore) :
    Call → DisplayPreferencesStore
  | .transaction body retrieved answer =>
      (store.transaction body retrieved answer).1
  | .update retrieved => (store.update retrieved).1
  | .clearCache => store.clearCache.1

/-- A new store after a history of calls, as the only writer of the record. -/
def reached (server : DisplayPreferencesDto) (history : List Call) :
    DisplayPreferencesStore :=
  run DisplayPreferencesStore.step { server := server } history

inductive Origin where
  | absent
  | unloaded
  | loaded
  deriving DecidableEq, Repr

/-- Where the cached map comes from, and the keys edited since it was
cleared.  A record that the server has stored is as good as loaded. -/
structure Ledger where
  origin : Origin := .absent
  touched : List String := []

namespace Ledger

def update (ledger : Ledger) (retrieved : Bool) : Ledger :=
  if retrieved then
    { ledger with origin := .loaded }
  else if ledger.origin = .absent then
    { ledger with origin := .unloaded }
  else
    ledger

def prepare (ledger : Ledger) (retrieved : Bool) : Ledger :=
  if ledger.origin = .absent then ledger.update retrieved else ledger

def touch (ledger : Ledger) (body : List Edit) : Ledger :=
  { ledger with touched := body.map Edit.key ++ ledger.touched }

def commit (ledger : Ledger) (answer : UpdateAnswer) : Ledger :=
  if answer.Stores then { ledger with origin := .loaded } else ledger

def step (ledger : Ledger) : Call → Ledger
  | .transaction body retrieved answer =>
      ((ledger.prepare retrieved).touch body).commit answer
  | .update retrieved => ledger.update retrieved
  | .clearCache => {}

end Ledger

def ledgerOf (history : List Call) : Ledger :=
  run Ledger.step {} history

/-- What the cached map of a store is, given its ledger. -/
structure Tracks (store : DisplayPreferencesStore) (ledger : Ledger) :
    Prop where
  record :
    store.displayPreferencesDto.isNone ↔ ledger.origin = .absent
  cleared :
    ledger.origin = .absent → store.cachedPreferences = fun _ => none
  empty :
    ledger.origin = .unloaded →
      ∀ key, key ∉ ledger.touched → store.cachedPreferences key = none
  current :
    ledger.origin = .loaded →
      ∀ key, key ∉ ledger.touched →
        store.cachedPreferences key = store.server.customPrefs key

theorem foldl_perform_of_notMem (cached : CustomPrefs) {body : List Edit}
    {key : String} (untouched : key ∉ body.map Edit.key) :
    body.foldl Edit.perform cached key = cached key := by
  induction body generalizing cached with
  | nil =>
      rfl
  | cons edit rest inductionHypothesis =>
      simp only [List.map_cons, List.mem_cons, not_or] at untouched
      rw [List.foldl_cons, inductionHypothesis _ untouched.2]
      exact Function.update_of_ne untouched.1 _ _

theorem Ledger.update_origin (ledger : Ledger) (retrieved : Bool) :
    (ledger.update retrieved).origin ≠ .absent := by
  unfold Ledger.update
  split
  · simp
  · split
    · simp
    · assumption

theorem Ledger.touched_update (ledger : Ledger) (retrieved : Bool) :
    (ledger.update retrieved).touched = ledger.touched := by
  unfold Ledger.update
  split
  · rfl
  · split <;> rfl

theorem Ledger.prepare_origin (ledger : Ledger) (retrieved : Bool) :
    (ledger.prepare retrieved).origin ≠ .absent := by
  unfold Ledger.prepare
  split
  · exact ledger.update_origin retrieved
  · assumption

theorem Ledger.touched_prepare (ledger : Ledger) (retrieved : Bool) :
    (ledger.prepare retrieved).touched = ledger.touched := by
  unfold Ledger.prepare
  split
  · exact ledger.touched_update retrieved
  · rfl

namespace Tracks

variable {store : DisplayPreferencesStore} {ledger : Ledger}

theorem update (tracks : Tracks store ledger) (retrieved : Bool) :
    Tracks (store.update retrieved).1 (ledger.update retrieved) := by
  obtain ⟨record, cleared, empty, current⟩ := tracks
  cases retrieved with
  | true =>
      constructor <;> simp [DisplayPreferencesStore.update, Ledger.update]
  | false =>
      by_cases absent : ledger.origin = .absent
      · have missing := record.mpr absent
        have nothing := cleared absent
        constructor <;>
          simp [DisplayPreferencesStore.update, Ledger.update, absent,
            missing, nothing]
      · have present : ¬ store.displayPreferencesDto.isNone :=
          fun missing => absent (record.mp missing)
        simpa [DisplayPreferencesStore.update, Ledger.update, absent,
          present] using Tracks.mk record cleared empty current

theorem prepare (tracks : Tracks store ledger) (retrieved : Bool) :
    Tracks (store.prepare retrieved) (ledger.prepare retrieved) := by
  unfold DisplayPreferencesStore.prepare Ledger.prepare
  by_cases absent : ledger.origin = .absent
  · have missing : store.shouldUpdate := tracks.record.mpr absent
    rw [if_pos absent, if_pos missing]
    exact tracks.update retrieved
  · have present : ¬ store.shouldUpdate :=
      fun missing => absent (tracks.record.mp missing)
    rw [if_neg absent, if_neg present]
    exact tracks

theorem touch (tracks : Tracks store ledger)
    (present : ledger.origin ≠ .absent) (body : List Edit) :
    Tracks (store.edit body) (ledger.touch body) := by
  obtain ⟨record, _, empty, current⟩ := tracks
  refine ⟨record, fun absent => absurd absent present, ?_, ?_⟩
  · intro unloaded key untouched
    simp only [Ledger.touch, List.mem_append, not_or] at untouched
    exact (foldl_perform_of_notMem _ untouched.1).trans
      (empty unloaded key untouched.2)
  · intro loaded key untouched
    simp only [Ledger.touch, List.mem_append, not_or] at untouched
    exact (foldl_perform_of_notMem _ untouched.1).trans
      (current loaded key untouched.2)

theorem commit (tracks : Tracks store ledger)
    (present : ledger.origin ≠ .absent) (answer : UpdateAnswer) :
    Tracks (store.commit answer).1 (ledger.commit answer) := by
  have record : store.displayPreferencesDto.isSome := by
    rw [Option.isSome_iff_ne_none]
    intro missing
    exact present (tracks.record.mp (by simp [missing]))
  obtain ⟨data, held⟩ := Option.isSome_iff_exists.mp record
  unfold DisplayPreferencesStore.commit Ledger.commit
  rw [held]
  dsimp only
  by_cases stores : answer.Stores
  · rw [if_pos stores, if_pos stores]
    constructor <;> simp
  · rw [if_neg stores, if_neg stores]
    exact tracks

theorem clearCache (tracks : Tracks store ledger) :
    Tracks store.clearCache.1 {} := by
  unfold DisplayPreferencesStore.clearCache
  split
  · rename_i missing
    have nothing := tracks.cleared (tracks.record.mp missing)
    constructor <;> simp [missing, nothing]
  · constructor <;> simp

theorem step (tracks : Tracks store ledger) (call : Call) :
    Tracks (store.step call) (ledger.step call) := by
  cases call with
  | transaction body retrieved answer =>
      have present := ledger.prepare_origin retrieved
      exact ((tracks.prepare retrieved).touch present body).commit present
        answer
  | update retrieved =>
      exact tracks.update retrieved
  | clearCache =>
      exact tracks.clearCache

end Tracks

theorem tracks_reached (server : DisplayPreferencesDto)
    (history : List Call) :
    Tracks (reached server history) (ledgerOf history) := by
  have initial :
      Tracks ({ server := server } : DisplayPreferencesStore) {} := by
    constructor <;> simp
  have preserved :
      ∀ (store : DisplayPreferencesStore) (ledger : Ledger) (call : Call),
        Tracks store ledger → True →
          Tracks (store.step call) (ledger.step call) :=
    fun store ledger call tracks _ => tracks.step call
  exact run_simulation preserved initial
    (admitted_of_forall fun _ _ => trivial)

theorem server_prepare (store : DisplayPreferencesStore)
    (retrieved : Bool) :
    (store.prepare retrieved).server = store.server := by
  unfold DisplayPreferencesStore.prepare DisplayPreferencesStore.update
  split
  · split
    · rfl
    · split <;> rfl
  · rfl

/-- A transaction writes the edited cache if the server stores it, and
returns whether the call succeeds. -/
theorem transaction_result {store : DisplayPreferencesStore}
    {ledger : Ledger} (tracks : Tracks store ledger) (body : List Edit)
    (retrieved : Bool) (answer : UpdateAnswer) :
    (store.transaction body retrieved answer).1.server.customPrefs =
        (if answer.Stores then
          body.foldl Edit.perform (store.prepare retrieved).cachedPreferences
        else
          store.server.customPrefs) ∧
      (store.transaction body retrieved answer).2 =
        decide (answer = .success) := by
  have prepared := tracks.prepare retrieved
  have present : (store.prepare retrieved).displayPreferencesDto.isSome := by
    rw [Option.isSome_iff_ne_none]
    intro missing
    exact ledger.prepare_origin retrieved
      (prepared.record.mp (by simp [missing]))
  obtain ⟨data, held⟩ := Option.isSome_iff_exists.mp present
  have same := server_prepare store retrieved
  unfold DisplayPreferencesStore.transaction DisplayPreferencesStore.edit
    DisplayPreferencesStore.commit
  rw [held]
  dsimp only
  refine ⟨?_, rfl⟩
  split
  · rfl
  · rw [same]

/-- What an edit is to leave under its key: the text of the value that is set,
or nothing after a deletion. -/
inductive Edit.Leaves : Edit → String → Option String → Prop
  | int (key : String) (value : Int) :
      Leaves (.setInt key value) key (some (toString value))
  | long (key : String) (value : Int) :
      Leaves (.setLong key value) key (some (toString value))
  | float (key text : String) : Leaves (.setFloat key text) key (some text)
  | bool (key : String) (value : Bool) :
      Leaves (.setBool key value) key (some (if value then "true" else "false"))
  | string (key value : String) :
      Leaves (.setString key value) key (some value)
  | delete (key : String) : Leaves (.delete key) key none

theorem perform_of_leaves {edit : Edit} {key : String} {text : Option String}
    (leaves : edit.Leaves key text) (cached : CustomPrefs) :
    edit.perform cached key = text.map some := by
  cases leaves with
  | bool key value =>
      cases value <;> exact Function.update_self _ _ _
  | _ =>
      exact Function.update_self _ _ _

/-- The last edit of a key decides what a body leaves there. -/
theorem foldl_perform_of_leaves (cached : CustomPrefs)
    {earlier later : List Edit} {edit : Edit} {key : String}
    {text : Option String} (leaves : edit.Leaves key text)
    (last : key ∉ later.map Edit.key) :
    (earlier ++ edit :: later).foldl Edit.perform cached key =
      text.map some := by
  rw [List.foldl_append, List.foldl_cons, foldl_perform_of_notMem _ last,
    perform_of_leaves leaves]

/-- The keys outside `touched` keep their values on the server, and a
transaction that returns true has written its own: what the last edit of a key
leaves. -/
structure ChangesOnly (touched : List String) (body : List Edit)
    (before after : CustomPrefs) (returned : Bool) : Prop where
  untouched : ∀ key, key ∉ touched → after key = before key
  written :
    returned = true →
      ∀ earlier edit later key text,
        body = earlier ++ edit :: later → edit.Leaves key text →
          key ∉ later.map Edit.key → after key = text.map some

/-- The server stores a map that was not loaded from it. -/
def StoresUnloaded (history : List Call) (retrieved : Bool)
    (answer : UpdateAnswer) : Prop :=
  answer.Stores = true ∧
    ((ledgerOf history).prepare retrieved).origin = .unloaded

/-- After any history, a transaction changes only what it or an earlier body
touches if and only if it does not store an unloaded map over other keys. -/
theorem transaction_changes_only_iff (server : DisplayPreferencesDto)
    (history : List Call) (body : List Edit) (retrieved : Bool)
    (answer : UpdateAnswer) :
    ChangesOnly (body.map Edit.key ++ (ledgerOf history).touched) body
        (reached server history).server.customPrefs
        ((reached server history).transaction body retrieved
          answer).1.server.customPrefs
        ((reached server history).transaction body retrieved answer).2 ↔
      (StoresUnloaded history retrieved answer →
        ∀ key, (reached server history).server.customPrefs key ≠ none →
          key ∈ body.map Edit.key ++ (ledgerOf history).touched) := by
  have tracks := tracks_reached server history
  have prepared := tracks.prepare retrieved
  have keys := (ledgerOf history).touched_prepare retrieved
  have same := server_prepare (reached server history) retrieved
  obtain ⟨stored, returned⟩ :=
    transaction_result tracks body retrieved answer
  rw [stored, returned]
  constructor
  · rintro ⟨untouched, _⟩ ⟨stores, unloaded⟩ key held
    by_contra outside
    have kept := untouched key outside
    rw [List.mem_append, not_or] at outside
    rw [if_pos stores, foldl_perform_of_notMem _ outside.1,
      prepared.empty unloaded key (keys ▸ outside.2)] at kept
    exact held kept.symm
  · intro harmless
    refine ⟨?_, ?_⟩
    · intro key outside
      by_cases stores : answer.Stores = true
      · rw [if_pos stores]
        have apart := outside
        rw [List.mem_append, not_or] at apart
        rw [foldl_perform_of_notMem _ apart.1]
        cases origin : ((ledgerOf history).prepare retrieved).origin with
        | absent =>
            exact absurd origin ((ledgerOf history).prepare_origin retrieved)
        | unloaded =>
            rw [prepared.empty origin key (keys ▸ apart.2)]
            by_contra held
            exact outside (harmless ⟨stores, origin⟩ key (Ne.symm held))
        | loaded =>
            rw [prepared.current origin key (keys ▸ apart.2), same]
      · rw [if_neg stores]
    · rintro success earlier edit later key text rfl leaves last
      have succeeded : answer = .success := of_decide_eq_true success
      rw [succeeded]
      exact foldl_perform_of_leaves _ leaves last

/-- A server that holds one preference. -/
def posterServer : DisplayPreferencesDto :=
  { DisplayPreferencesDto.empty with
    customPrefs :=
      Function.update (fun _ => none) "PosterSize" (some (some "med")) }

/-- The first request fails and the second succeeds: the preference that the
body does not touch is gone. -/
theorem failed_retrieval_wipes_preferences :
    "PosterSize" ∉ [Edit.setString "ImageType" "thumb"].map Edit.key ++
        (ledgerOf []).touched ∧
      (reached posterServer []).server.customPrefs "PosterSize" =
        some (some "med") ∧
      ((reached posterServer []).transaction
        [.setString "ImageType" "thumb"] false
        .success).1.server.customPrefs "PosterSize" = none := by
  decide

end JellyfinTv.Preferences.Display
