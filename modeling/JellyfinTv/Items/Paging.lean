import JellyfinTv.Library.Runs
import Mathlib.Data.List.Nodup

/-!
# Paging of item rows

`ItemRowAdapter` retrieves a row page by page as the focus moves along it.
One counter, `itemsLoaded`, is the number of rows shown, the start of the next
request and, against the total of the server, the test for the end of the
list.  The row of audio playlists begins with a button that is not an item of
the server and is counted with the items.
-/

namespace JellyfinTv.Items

open JellyfinTv.Library

structure QueryResult (α : Type) where
  items : List α
  totalRecordCount : Nat

/-- The answer of the server to a request for a part of its list. -/
def getPage {α : Type} (server : List α) (startIndex limit : Nat) :
    QueryResult α where
  items := (server.drop startIndex).take limit
  totalRecordCount := server.length

/-! ## The adapter -/

/-- The query types that are retrieved in pages. -/
inductive QueryType where
  | items
  | artists
  | albumArtists
  | liveTvChannel
  | audioPlaylists
  deriving DecidableEq, Repr

inductive BaseRowItem (α : Type) where
  | favoritesButton
  | baseItemDto (item : α) (preferParentThumb staticHeight : Bool)
  deriving DecidableEq, Repr

/-- The fields of the adapter that paging uses.  `startIndex` and `limit` are
those of the query itself; `rowRemoved` says that the row has left its
parent. -/
structure ItemRowAdapter (α : Type) where
  queryType : QueryType
  startIndex : Option Nat
  limit : Option Nat
  chunkSize : Nat
  preferParentThumb : Bool
  staticHeight : Bool
  hasParent : Bool
  rowRemoved : Bool := false
  rows : List (BaseRowItem α) := []
  itemsLoaded : Nat := 0
  totalItems : Nat := 0
  fullyLoaded : Bool := false
  currentlyRetrieving : Bool := false

namespace ItemRowAdapter

variable {α : Type}

def setItemsLoaded (adapter : ItemRowAdapter α) (itemsLoaded : Nat) :
    ItemRowAdapter α :=
  { adapter with
    itemsLoaded := itemsLoaded
    fullyLoaded :=
      adapter.chunkSize = 0 ∨ itemsLoaded ≥ adapter.totalItems }

/-- The rows before the loaded ones, the loaded ones and the rows after them.
The subtraction stops at zero as `repeat` does. -/
def setItems (adapter : ItemRowAdapter α) (items : List α)
    (transform : α → Nat → Option (BaseRowItem α)) : ItemRowAdapter α :=
  let mappedItems :=
    (items.zipIdx adapter.itemsLoaded).filterMap
      fun (item, index) => transform item index
  let remaining :=
    min adapter.totalItems adapter.rows.length - adapter.itemsLoaded -
      mappedItems.length
  let allItems :=
    adapter.rows.take adapter.itemsLoaded ++ mappedItems ++
      (adapter.rows.drop
        (adapter.itemsLoaded + mappedItems.length)).take remaining
  setItemsLoaded { adapter with rows := allItems } allItems.length

def removeRow (adapter : ItemRowAdapter α) : ItemRowAdapter α :=
  if adapter.hasParent then
    { adapter with rowRemoved := true }
  else
    { adapter with rows := [] }

def notifyRetrieveStarted (adapter : ItemRowAdapter α) : ItemRowAdapter α :=
  { adapter with currentlyRetrieving := true }

def notifyRetrieveFinished (adapter : ItemRowAdapter α) : ItemRowAdapter α :=
  { adapter with currentlyRetrieving := false }

/-- The common course of the requests for a page: the row items differ in the
thumbnail they prefer, and the test for an empty row in what it reads. -/
def retrievePage (adapter : ItemRowAdapter α) (server : List α)
    (startIndex batchSize : Nat) (preferParentThumb : Bool)
    (isEmpty : List α → ItemRowAdapter α → Bool) : ItemRowAdapter α :=
  let response := getPage server startIndex batchSize
  let loaded :=
    setItems { adapter with totalItems := response.totalRecordCount }
      response.items fun item _ =>
        some (.baseItemDto item preferParentThumb adapter.staticHeight)
  let kept :=
    if isEmpty response.items loaded then loaded.removeRow else loaded
  kept.notifyRetrieveFinished

def retrieveLiveTvChannels (adapter : ItemRowAdapter α) (server : List α)
    (startIndex batchSize : Nat) : ItemRowAdapter α :=
  adapter.retrievePage server startIndex batchSize false
    fun items _ => items.isEmpty

def retrieveAlbumArtists (adapter : ItemRowAdapter α) (server : List α)
    (startIndex batchSize : Nat) : ItemRowAdapter α :=
  adapter.retrievePage server startIndex batchSize adapter.preferParentThumb
    fun items _ => items.isEmpty

def retrieveArtists (adapter : ItemRowAdapter α) (server : List α)
    (startIndex batchSize : Nat) : ItemRowAdapter α :=
  adapter.retrievePage server startIndex batchSize adapter.preferParentThumb
    fun items _ => items.isEmpty

def retrieveItems (adapter : ItemRowAdapter α) (server : List α)
    (startIndex batchSize : Nat) : ItemRowAdapter α :=
  adapter.retrievePage server startIndex batchSize adapter.preferParentThumb
    fun _ loaded => loaded.itemsLoaded = 0

/-- The row items are cleared and the button counts as a loaded item. -/
def retrieveAudioPlaylists (adapter : ItemRowAdapter α) (server : List α) :
    ItemRowAdapter α :=
  let withButton :=
    { adapter with rows := [.favoritesButton], itemsLoaded := 1 }
  withButton.retrieveItems server 0 adapter.chunkSize

/-- `Retrieve()`, with the response that follows it. -/
def retrieve (adapter : ItemRowAdapter α) (server : List α) :
    ItemRowAdapter α :=
  let started := { adapter.notifyRetrieveStarted with itemsLoaded := 0 }
  match adapter.queryType with
  | .items =>
      match adapter.startIndex, adapter.limit with
      | some startIndex, some limit =>
          started.retrieveItems server startIndex limit
      | _, _ => started.retrieveItems server 0 adapter.chunkSize
  | .liveTvChannel =>
      started.retrieveLiveTvChannels server 0 adapter.chunkSize
  | .artists => started.retrieveArtists server 0 adapter.chunkSize
  | .albumArtists => started.retrieveAlbumArtists server 0 adapter.chunkSize
  | .audioPlaylists => started.retrieveAudioPlaylists server

def retrieveNext (adapter : ItemRowAdapter α) (server : List α) :
    ItemRowAdapter α :=
  if adapter.fullyLoaded ∨ adapter.currentlyRetrieving ∨
      adapter.chunkSize = 0 then
    adapter
  else
    let started := adapter.notifyRetrieveStarted
    match adapter.queryType with
    | .liveTvChannel =>
        started.retrieveLiveTvChannels server adapter.itemsLoaded
          adapter.chunkSize
    | .artists =>
        started.retrieveArtists server adapter.itemsLoaded adapter.chunkSize
    | .albumArtists =>
        started.retrieveAlbumArtists server adapter.itemsLoaded
          adapter.chunkSize
    | .items | .audioPlaylists =>
        started.retrieveItems server adapter.itemsLoaded adapter.chunkSize

/-- `pos >= itemsLoaded - chunkSize / 1.7`.  The quotient is an integer, and
computed exactly, or at least `1 / 17` away from one, so that its comparison
with an integer position is not affected by rounding. -/
def NearEnd (pos : Int) (itemsLoaded chunkSize : Nat) : Prop :=
  17 * ((itemsLoaded : Int) - pos) ≤ 10 * (chunkSize : Int)

instance (pos : Int) (itemsLoaded chunkSize : Nat) :
    Decidable (NearEnd pos itemsLoaded chunkSize) :=
  inferInstanceAs (Decidable (_ ≤ _))

def loadMoreItemsIfNeeded (server : List α) (adapter : ItemRowAdapter α)
    (pos : Int) : ItemRowAdapter α :=
  if adapter.fullyLoaded then
    adapter
  else if adapter.currentlyRetrieving then
    adapter
  else if adapter.chunkSize > 0 then
    if NearEnd pos adapter.itemsLoaded adapter.chunkSize then
      adapter.retrieveNext server
    else
      adapter
  else if pos ≥ adapter.itemsLoaded - 20 then
    adapter.retrieveNext server
  else
    adapter

/-- The row that an item of the server becomes. -/
def rowItem (adapter : ItemRowAdapter α) (item : α) : BaseRowItem α :=
  match adapter.queryType with
  | .liveTvChannel => .baseItemDto item false adapter.staticHeight
  | _ => .baseItemDto item adapter.preferParentThumb adapter.staticHeight

theorem rowItem_of_ne {adapter : ItemRowAdapter α}
    (other : adapter.queryType ≠ .liveTvChannel) :
    adapter.rowItem = fun item =>
      .baseItemDto item adapter.preferParentThumb adapter.staticHeight := by
  funext item
  unfold rowItem
  split
  · rename_i channels
    exact absurd channels other
  · rfl

/-- The rows before the items of the server. -/
def header (adapter : ItemRowAdapter α) : List (BaseRowItem α) :=
  if adapter.queryType = .audioPlaylists then [.favoritesButton] else []

/-- The adapter shows a part of the server's list from its beginning, and is
fully loaded exactly when this is the whole list. -/
structure PagesExactly (server : List α) (adapter : ItemRowAdapter α) :
    Prop where
  shown :
    ∃ count,
      adapter.rows =
        adapter.header ++ (server.take count).map adapter.rowItem
  complete :
    adapter.fullyLoaded = true ↔
      adapter.rows = adapter.header ++ server.map adapter.rowItem

/-- The adapter that shows the given rows and waits for nothing. -/
def showing (adapter : ItemRowAdapter α) (server : List α)
    (rows : List (BaseRowItem α)) (rowRemoved : Bool) : ItemRowAdapter α :=
  { adapter with
    rowRemoved := rowRemoved
    rows := rows
    itemsLoaded := rows.length
    totalItems := server.length
    fullyLoaded := adapter.chunkSize = 0 ∨ rows.length ≥ server.length
    currentlyRetrieving := false }

theorem filterMap_zipIdx (transform : α → BaseRowItem α) (items : List α)
    (start : Nat) :
    (items.zipIdx start).filterMap (fun (item, _) => some (transform item)) =
      items.map transform := by
  induction items generalizing start with
  | nil =>
      rfl
  | cons item rest inductionHypothesis =>
      exact congrArg (transform item :: ·) (inductionHypothesis (start + 1))

/-- A page goes behind the rows that are shown. -/
theorem setItems_of_counted {adapter : ItemRowAdapter α}
    (counted : adapter.itemsLoaded = adapter.rows.length) (items : List α)
    (transform : α → BaseRowItem α) :
    adapter.setItems items (fun item _ => some (transform item)) =
      setItemsLoaded
        { adapter with rows := adapter.rows ++ items.map transform }
        (adapter.rows ++ items.map transform).length := by
  have nothing :
      min adapter.totalItems adapter.rows.length - adapter.rows.length -
        (items.map transform).length = 0 := by
    omega
  unfold setItems
  dsimp only
  rw [filterMap_zipIdx, counted, nothing, List.take_length, List.take_zero,
    List.append_nil]

theorem retrievePage_eq {adapter : ItemRowAdapter α} {server : List α}
    {startIndex batchSize : Nat} {preferParentThumb : Bool}
    {isEmpty : List α → ItemRowAdapter α → Bool}
    (counted : adapter.itemsLoaded = adapter.rows.length)
    (nothing :
      ∀ loaded : ItemRowAdapter α,
        loaded.itemsLoaded =
            adapter.rows.length +
              ((server.drop startIndex).take batchSize).length →
          isEmpty ((server.drop startIndex).take batchSize) loaded = true →
            adapter.rows = [] ∧
              (server.drop startIndex).take batchSize = []) :
    ∃ rowRemoved,
      adapter.retrievePage server startIndex batchSize preferParentThumb
          isEmpty =
        adapter.showing server
          (adapter.rows ++
            ((server.drop startIndex).take batchSize).map fun item =>
              .baseItemDto item preferParentThumb adapter.staticHeight)
          rowRemoved := by
  unfold retrievePage getPage
  dsimp only
  rw [setItems_of_counted (by exact counted)]
  split
  · rename_i empty
    obtain ⟨noRows, noItems⟩ := nothing _ (by simp [setItemsLoaded]) empty
    unfold removeRow
    split
    · exact ⟨true, rfl⟩
    · refine ⟨adapter.rowRemoved, ?_⟩
      simp [showing, setItemsLoaded, notifyRetrieveFinished, noRows, noItems]
  · exact ⟨adapter.rowRemoved, rfl⟩

/-- The request of each query type for a page that begins at `startIndex`. -/
def requestPage (adapter : ItemRowAdapter α) (server : List α)
    (startIndex : Nat) : ItemRowAdapter α :=
  match adapter.queryType with
  | .liveTvChannel =>
      adapter.retrieveLiveTvChannels server startIndex adapter.chunkSize
  | .artists =>
      adapter.retrieveArtists server startIndex adapter.chunkSize
  | .albumArtists =>
      adapter.retrieveAlbumArtists server startIndex adapter.chunkSize
  | .items | .audioPlaylists =>
      adapter.retrieveItems server startIndex adapter.chunkSize

/-- A page goes behind the rows of each query type, when an empty one comes to
an empty row or behind the button only. -/
theorem requestPage_eq (adapter : ItemRowAdapter α) (server : List α)
    (startIndex : Nat)
    (counted : adapter.itemsLoaded = adapter.rows.length)
    (nonempty :
      adapter.queryType ≠ .audioPlaylists →
        (server.drop startIndex).take adapter.chunkSize = [] →
          adapter.rows = []) :
    ∃ rowRemoved,
      adapter.requestPage server startIndex =
        adapter.showing server
          (adapter.rows ++
            ((server.drop startIndex).take adapter.chunkSize).map
              adapter.rowItem)
          rowRemoved := by
  have byItems :
      adapter.queryType ≠ .audioPlaylists →
      ∀ loaded : ItemRowAdapter α,
        loaded.itemsLoaded =
            adapter.rows.length +
              ((server.drop startIndex).take adapter.chunkSize).length →
          ((server.drop startIndex).take adapter.chunkSize).isEmpty = true →
            adapter.rows = [] ∧
              (server.drop startIndex).take adapter.chunkSize = [] := by
    intro plain loaded _ empty
    have noItems := List.isEmpty_iff.mp empty
    exact ⟨nonempty plain noItems, noItems⟩
  have byCount :
      ∀ loaded : ItemRowAdapter α,
        loaded.itemsLoaded =
            adapter.rows.length +
              ((server.drop startIndex).take adapter.chunkSize).length →
          decide (loaded.itemsLoaded = 0) = true →
            adapter.rows = [] ∧
              (server.drop startIndex).take adapter.chunkSize = [] := by
    intro loaded sum zero
    have none : loaded.itemsLoaded = 0 := of_decide_eq_true zero
    exact ⟨List.length_eq_zero_iff.mp (by omega),
      List.length_eq_zero_iff.mp (by omega)⟩
  unfold requestPage
  split
  · rename_i kind
    have row : adapter.rowItem =
        fun item => .baseItemDto item false adapter.staticHeight := by
      funext item
      simp [rowItem, kind]
    rw [row]
    exact retrievePage_eq counted (byItems (by simp [kind]))
  · rename_i kind
    rw [rowItem_of_ne (by simp [kind])]
    exact retrievePage_eq counted (byItems (by simp [kind]))
  · rename_i kind
    rw [rowItem_of_ne (by simp [kind])]
    exact retrievePage_eq counted (byItems (by simp [kind]))
  · rename_i kind
    rw [rowItem_of_ne (by simp [kind])]
    exact retrievePage_eq counted byCount
  · rename_i kind
    rw [rowItem_of_ne (by simp [kind])]
    exact retrievePage_eq counted byCount

/-- The state between two requests. -/
structure Idle (server : List α) (adapter : ItemRowAdapter α) : Prop where
  counted : adapter.itemsLoaded = adapter.rows.length
  chunked : 0 < adapter.chunkSize
  full :
    adapter.fullyLoaded = true ↔ server.length ≤ adapter.itemsLoaded
  waiting : adapter.currentlyRetrieving = false

theorem idle_showing {adapter : ItemRowAdapter α} {server : List α}
    (chunked : 0 < adapter.chunkSize) (rows : List (BaseRowItem α))
    (rowRemoved : Bool) :
    Idle server (adapter.showing server rows rowRemoved) := by
  have some : adapter.chunkSize ≠ 0 := by
    omega
  refine ⟨rfl, chunked, ?_, rfl⟩
  simp [showing, some]

/-- A position loads nothing, or the page that begins at the counter. -/
theorem loadMoreItemsIfNeeded_cases {adapter : ItemRowAdapter α}
    {server : List α} (idle : Idle server adapter) (pos : Int) :
    ((server.length ≤ adapter.itemsLoaded ∨
        ¬ NearEnd pos adapter.itemsLoaded adapter.chunkSize) ∧
      loadMoreItemsIfNeeded server adapter pos = adapter) ∨
    (adapter.itemsLoaded < server.length ∧
      NearEnd pos adapter.itemsLoaded adapter.chunkSize ∧
      loadMoreItemsIfNeeded server adapter pos =
        adapter.notifyRetrieveStarted.requestPage server
          adapter.itemsLoaded) := by
  have chunked := idle.chunked
  have some : adapter.chunkSize ≠ 0 := by
    omega
  unfold loadMoreItemsIfNeeded retrieveNext
  by_cases full : adapter.fullyLoaded = true
  · left
    rw [if_pos full]
    exact ⟨Or.inl (idle.full.mp full), rfl⟩
  · have behind : adapter.itemsLoaded < server.length := by
      have short : ¬ server.length ≤ adapter.itemsLoaded :=
        fun long => full (idle.full.mpr long)
      omega
    rw [if_neg full, if_neg (by simp [idle.waiting]), if_pos chunked]
    by_cases near : NearEnd pos adapter.itemsLoaded adapter.chunkSize
    · right
      refine ⟨behind, near, ?_⟩
      rw [if_pos near, if_neg (by simp [full, idle.waiting, some])]
      rfl
    · left
      rw [if_neg near]
      exact ⟨Or.inr near, rfl⟩

/-- A row whose counter is the number of items shown. -/
structure Plain (server : List α) (adapter : ItemRowAdapter α) : Prop
    extends Idle server adapter where
  plain : adapter.queryType ≠ .audioPlaylists
  shown :
    adapter.rows = (server.take adapter.itemsLoaded).map adapter.rowItem

theorem plain_showing (adapter : ItemRowAdapter α) (server : List α)
    (chunked : 0 < adapter.chunkSize)
    (plain : adapter.queryType ≠ .audioPlaylists) (count : Nat)
    (rowRemoved : Bool) :
    Plain server
      (adapter.showing server ((server.take count).map adapter.rowItem)
        rowRemoved) := by
  refine ⟨idle_showing chunked _ _, plain, ?_⟩
  have length :
      server.take (min count server.length) = server.take count := by
    rcases Nat.le_total count server.length with short | long
    · rw [Nat.min_eq_left short]
    · rw [Nat.min_eq_right long, List.take_length,
        List.take_of_length_le long]
  simp only [showing, List.length_map, List.length_take, length]
  rfl

theorem Plain.pagesExactly {adapter : ItemRowAdapter α} {server : List α}
    (plain : Plain server adapter) : PagesExactly server adapter := by
  have noHeader : adapter.header = [] := if_neg plain.plain
  refine ⟨⟨adapter.itemsLoaded, ?_⟩, ?_⟩
  · rw [noHeader]
    exact plain.shown
  · rw [plain.full, noHeader, List.nil_append]
    constructor
    · intro long
      rw [plain.shown, List.take_of_length_le long]
    · intro whole
      have lengths := congrArg List.length whole
      rw [← plain.counted, List.length_map] at lengths
      omega

/-- A page that starts inside the list has an item. -/
theorem take_drop_ne_nil {server : List α} {start size : Nat}
    (inside : start < server.length) (some : 0 < size) :
    (server.drop start).take size ≠ [] := by
  apply List.ne_nil_of_length_pos
  rw [List.length_take, List.length_drop]
  omega

theorem Plain.loadMoreItemsIfNeeded {server : List α}
    (adapter : ItemRowAdapter α) (pos : Int)
    (plain : Plain server adapter) :
    Plain server (loadMoreItemsIfNeeded server adapter pos) := by
  rcases loadMoreItemsIfNeeded_cases plain.toIdle pos with
    ⟨_, unchanged⟩ | ⟨behind, _, loaded⟩
  · rw [unchanged]
    exact plain
  · have chunked := plain.chunked
    have more :
        (server.drop adapter.itemsLoaded).take adapter.chunkSize ≠ [] :=
      take_drop_ne_nil (by omega) chunked
    obtain ⟨rowRemoved, result⟩ :=
      requestPage_eq adapter.notifyRetrieveStarted server
        adapter.itemsLoaded plain.counted fun _ none => absurd none more
    have rows :
        adapter.rows ++
            ((server.drop adapter.itemsLoaded).take adapter.chunkSize).map
              adapter.rowItem =
          (server.take (adapter.itemsLoaded + adapter.chunkSize)).map
            adapter.rowItem := by
      rw [List.take_add, List.map_append, ← plain.shown]
    rw [loaded, result]
    have shown :=
      plain_showing adapter server chunked plain.plain
        (adapter.itemsLoaded + adapter.chunkSize) rowRemoved
    rw [← rows] at shown
    exact shown

/-- The query has no range of its own, which `Retrieve()` would use. -/
def WithoutOwnRange (adapter : ItemRowAdapter α) : Prop :=
  adapter.startIndex = none ∨ adapter.limit = none

theorem plain_retrieve {adapter : ItemRowAdapter α} (server : List α)
    (chunked : 0 < adapter.chunkSize) (unranged : adapter.WithoutOwnRange)
    (fresh : adapter.rows = [])
    (plain : adapter.queryType ≠ .audioPlaylists) :
    Plain server (adapter.retrieve server) := by
  have requested :
      adapter.retrieve server =
        requestPage { adapter.notifyRetrieveStarted with itemsLoaded := 0 }
          server 0 := by
    unfold retrieve requestPage
    cases kind : adapter.queryType with
    | items =>
        rcases unranged with noStart | noLimit
        · simp [notifyRetrieveStarted, kind, noStart]
        · cases start : adapter.startIndex <;>
            simp [notifyRetrieveStarted, kind, noLimit]
    | artists =>
        simp [notifyRetrieveStarted, kind]
    | albumArtists =>
        simp [notifyRetrieveStarted, kind]
    | liveTvChannel =>
        simp [notifyRetrieveStarted, kind]
    | audioPlaylists =>
        exact absurd kind plain
  obtain ⟨rowRemoved, result⟩ :=
    requestPage_eq { adapter.notifyRetrieveStarted with itemsLoaded := 0 }
      server 0 (by simp [notifyRetrieveStarted, fresh]) fun _ _ => fresh
  have shown :=
    plain_showing adapter server chunked plain adapter.chunkSize rowRemoved
  rw [requested, result]
  have rows :
      adapter.rows ++
          ((server.drop 0).take adapter.chunkSize).map adapter.rowItem =
        (server.take adapter.chunkSize).map adapter.rowItem := by
    simp [fresh]
  rw [← rows] at shown
  exact shown

/-! ## The row of audio playlists -/

/-- After the first page the counter is one ahead of the items. -/
theorem retrieve_audioPlaylists {adapter : ItemRowAdapter α}
    (server : List α) (audio : adapter.queryType = .audioPlaylists) :
    ∃ rowRemoved,
      adapter.retrieve server =
        adapter.showing server
          (.favoritesButton ::
            (server.take adapter.chunkSize).map adapter.rowItem)
          rowRemoved := by
  let withButton : ItemRowAdapter α :=
    { adapter.notifyRetrieveStarted with
      rows := [.favoritesButton], itemsLoaded := 1 }
  have requested :
      adapter.retrieve server = withButton.requestPage server 0 := by
    simp [retrieve, retrieveAudioPlaylists, requestPage, withButton,
      notifyRetrieveStarted, audio]
  obtain ⟨rowRemoved, result⟩ :=
    requestPage_eq withButton server 0 rfl fun plain => absurd audio plain
  refine ⟨rowRemoved, ?_⟩
  rw [requested, result, List.drop_zero]
  rfl

/-- The first page is exact unless one item is left, which the button stands
for in the count. -/
theorem pagesExactly_retrieve_audioPlaylists {adapter : ItemRowAdapter α}
    {server : List α} (audio : adapter.queryType = .audioPlaylists)
    (chunked : 0 < adapter.chunkSize) :
    PagesExactly server (adapter.retrieve server) ↔
      server.length ≠ adapter.chunkSize + 1 := by
  obtain ⟨rowRemoved, result⟩ := retrieve_audioPlaylists server audio
  let first : ItemRowAdapter α :=
    adapter.showing server
      (.favoritesButton ::
        (server.take adapter.chunkSize).map adapter.rowItem)
      rowRemoved
  have button : first.header = [.favoritesButton] := if_pos audio
  have idle : Idle server first := idle_showing chunked _ _
  have count :
      first.itemsLoaded = min adapter.chunkSize server.length + 1 := by
    simp [first, showing]
  have full := idle.full
  rw [count] at full
  have whole :
      first.rows = first.header ++ server.map first.rowItem ↔
        server.length ≤ adapter.chunkSize := by
    rw [button]
    constructor
    · intro all
      have lengths := congrArg List.length all
      simp [first, showing] at lengths
      omega
    · intro short
      have all := List.take_of_length_le short
      simp only [first, showing, all]
      rfl
  have shown :
      first.rows =
        first.header ++
          (server.take adapter.chunkSize).map first.rowItem := by
    rw [button]
    rfl
  rw [result]
  constructor
  · rintro ⟨_, complete⟩ one
    have loaded := complete.mp (full.mpr (by omega))
    have short := whole.mp loaded
    omega
  · intro notOne
    refine ⟨⟨adapter.chunkSize, shown⟩, ?_⟩
    exact full.trans (Iff.trans (by omega) whole.symm)

theorem rowItem_injective (adapter : ItemRowAdapter α) :
    Function.Injective adapter.rowItem := by
  intro first second same
  unfold rowItem at same
  split at same <;> simpa using same

/-- A list of distinct items with a gap in it is no beginning of the list. -/
theorem skipped_item_not_prefix {server : List α} {chunkSize count : Nat}
    (distinct : server.Nodup) (long : chunkSize + 1 < server.length)
    (chunked : 0 < chunkSize) :
    server.take chunkSize ++ (server.drop (chunkSize + 1)).take chunkSize ≠
      server.take count := by
  intro same
  have atGap := congrArg (fun items => items[chunkSize]?) same
  have length : (server.take chunkSize).length = chunkSize := by
    rw [List.length_take]
    omega
  rw [List.getElem?_append_right (by omega), length, Nat.sub_self,
    List.getElem?_take_of_lt chunked, List.getElem?_drop, Nat.add_zero,
    List.getElem?_eq_getElem long] at atGap
  have inCount : chunkSize < count := by
    by_contra outside
    rw [List.getElem?_take_eq_none (by omega)] at atGap
    cases atGap
  rw [List.getElem?_take_of_lt inCount,
    List.getElem?_eq_getElem (by omega)] at atGap
  have indices :=
    (List.Nodup.getElem_inj_iff distinct).mp (Option.some.inj atGap)
  omega

/-- A second page of audio playlists leaves out an item. -/
theorem not_pagesExactly_second_page {adapter : ItemRowAdapter α}
    {server : List α} (audio : adapter.queryType = .audioPlaylists)
    (chunked : 0 < adapter.chunkSize) (distinct : server.Nodup)
    (long : adapter.chunkSize + 1 < server.length) {pos : Int}
    (near : NearEnd pos (adapter.chunkSize + 1) adapter.chunkSize) :
    ¬ PagesExactly server
      (loadMoreItemsIfNeeded server (adapter.retrieve server) pos) := by
  obtain ⟨rowRemoved, result⟩ := retrieve_audioPlaylists server audio
  let first : ItemRowAdapter α :=
    adapter.showing server
      (.favoritesButton ::
        (server.take adapter.chunkSize).map adapter.rowItem)
      rowRemoved
  have idle : Idle server first := idle_showing chunked _ _
  have count : first.itemsLoaded = adapter.chunkSize + 1 := by
    simp only [first, showing, List.length_cons, List.length_map,
      List.length_take]
    omega
  have cases := loadMoreItemsIfNeeded_cases idle pos
  rw [count] at cases
  rcases cases with ⟨still, _⟩ | ⟨_, _, loaded⟩
  · rcases still with short | far
    · omega
    · exact absurd near far
  · obtain ⟨removed, second⟩ :=
      requestPage_eq first.notifyRetrieveStarted server
        (adapter.chunkSize + 1) idle.counted fun plain => absurd audio plain
    rintro ⟨⟨shownCount, shown⟩, _⟩
    rw [result, loaded, second] at shown
    have button :
        (first.notifyRetrieveStarted.showing server
          (first.notifyRetrieveStarted.rows ++
            ((server.drop (adapter.chunkSize + 1)).take
              first.notifyRetrieveStarted.chunkSize).map
                first.notifyRetrieveStarted.rowItem)
          removed).header = [.favoritesButton] :=
      if_pos audio
    rw [button] at shown
    have rows :
        (server.take adapter.chunkSize).map adapter.rowItem ++
            ((server.drop (adapter.chunkSize + 1)).take
              adapter.chunkSize).map adapter.rowItem =
          (server.take shownCount).map adapter.rowItem :=
      (List.cons.inj shown).2
    rw [← List.map_append] at rows
    exact skipped_item_not_prefix distinct long chunked
      (adapter.rowItem_injective.list_map rows)

/-- Nothing is loaded at these positions. -/
theorem run_of_far {adapter : ItemRowAdapter α} {server : List α}
    (idle : Idle server adapter) {positions : List Int}
    (far :
      server.length ≤ adapter.itemsLoaded ∨
        ∀ pos ∈ positions,
          ¬ NearEnd pos adapter.itemsLoaded adapter.chunkSize) :
    run (loadMoreItemsIfNeeded server) adapter positions = adapter := by
  induction positions with
  | nil =>
      rfl
  | cons pos rest inductionHypothesis =>
      have unchanged :
          loadMoreItemsIfNeeded server adapter pos = adapter := by
        rcases loadMoreItemsIfNeeded_cases idle pos with
          ⟨_, same⟩ | ⟨behind, near, _⟩
        · exact same
        · rcases far with all | none
          · omega
          · exact absurd near (none pos List.mem_cons_self)
      rw [run_cons, unchanged]
      apply inductionHypothesis
      exact far.imp_right fun none pos member =>
        none pos (List.mem_cons_of_mem _ member)

/-- A row of audio playlists has one page, or its list is longer by more than
one item and no position is near the end of the first page. -/
def OnePageIfAudio (adapter : ItemRowAdapter α) (server : List α)
    (positions : List Int) : Prop :=
  adapter.queryType = .audioPlaylists →
    server.length ≤ adapter.chunkSize ∨
      (adapter.chunkSize + 1 < server.length ∧
        ∀ pos ∈ positions,
          ¬ NearEnd pos (adapter.chunkSize + 1) adapter.chunkSize)

theorem idle_retrieve_audioPlaylists {adapter : ItemRowAdapter α}
    (server : List α) (audio : adapter.queryType = .audioPlaylists)
    (chunked : 0 < adapter.chunkSize) :
    Idle server (adapter.retrieve server) ∧
      (adapter.retrieve server).itemsLoaded =
        min adapter.chunkSize server.length + 1 ∧
      (adapter.retrieve server).chunkSize = adapter.chunkSize := by
  obtain ⟨rowRemoved, result⟩ := retrieve_audioPlaylists server audio
  rw [result]
  refine ⟨idle_showing chunked _ _, ?_, rfl⟩
  simp [showing]

theorem run_audioPlaylists {adapter : ItemRowAdapter α} {server : List α}
    {positions : List Int} (audio : adapter.queryType = .audioPlaylists)
    (chunked : 0 < adapter.chunkSize)
    (onePage : adapter.OnePageIfAudio server positions) :
    run (loadMoreItemsIfNeeded server) (adapter.retrieve server) positions =
      adapter.retrieve server := by
  obtain ⟨idle, count, chunk⟩ :=
    idle_retrieve_audioPlaylists server audio chunked
  apply run_of_far idle
  rw [count, chunk]
  rcases onePage audio with short | ⟨long, far⟩
  · left
    omega
  · right
    rw [Nat.min_eq_left (by omega)]
    exact far

/-- Every sequence of positions pages exactly through a row whose audio
playlists fit on one page, and through no other list of distinct items. -/
theorem paging_exact_iff (adapter : ItemRowAdapter α) (server : List α)
    (chunked : 0 < adapter.chunkSize) (unranged : adapter.WithoutOwnRange)
    (fresh : adapter.rows = []) (positions : List Int) :
    (adapter.OnePageIfAudio server positions →
      ∀ early, early <+: positions →
        PagesExactly server
          (run (loadMoreItemsIfNeeded server) (adapter.retrieve server)
            early)) ∧
    (server.Nodup →
      (∀ early, early <+: positions →
        PagesExactly server
          (run (loadMoreItemsIfNeeded server) (adapter.retrieve server)
            early)) →
      adapter.OnePageIfAudio server positions) := by
  constructor
  · intro onePage early isEarly
    by_cases audio : adapter.queryType = .audioPlaylists
    · have earlyPage : adapter.OnePageIfAudio server early := by
        intro _
        exact (onePage audio).imp_right fun ⟨long, far⟩ =>
          ⟨long, fun pos member => far pos (isEarly.subset member)⟩
      rw [run_audioPlaylists audio chunked earlyPage,
        pagesExactly_retrieve_audioPlaylists audio chunked]
      rcases onePage audio with short | ⟨long, _⟩ <;> omega
    · have plain := plain_retrieve server chunked unranged fresh audio
      exact (run_preserves Plain.loadMoreItemsIfNeeded plain
        early).pagesExactly
  · intro distinct exact audio
    have first := exact [] List.nil_prefix
    rw [run_nil, pagesExactly_retrieve_audioPlaylists audio chunked] at first
    by_contra several
    rw [not_or, not_and] at several
    have long : adapter.chunkSize + 1 < server.length := by
      omega
    have reached :
        (positions.find? fun pos =>
          decide (NearEnd pos (adapter.chunkSize + 1)
            adapter.chunkSize)).isSome := by
      by_contra far
      apply several.2 long
      intro pos member near
      apply far
      rw [List.find?_isSome]
      exact ⟨pos, member, decide_eq_true near⟩
    obtain ⟨pos, found⟩ := Option.isSome_iff_exists.mp reached
    obtain ⟨near, before, after, rfl, far⟩ :=
      List.find?_eq_some_iff_append.mp found
    have earlier : adapter.OnePageIfAudio server before :=
      fun _ => Or.inr ⟨long, fun pos member => by simpa using far pos member⟩
    have second := exact (before ++ [pos]) ⟨after, by simp⟩
    rw [run_append, run_audioPlaylists audio chunked earlier] at second
    exact not_pagesExactly_second_page audio chunked distinct long
      (of_decide_eq_true near) second

/-- A new row of the given type with pages of two items. -/
def pairs (queryType : QueryType) : ItemRowAdapter Nat where
  queryType := queryType
  startIndex := none
  limit := none
  chunkSize := 2
  preferParentThumb := false
  staticHeight := true
  hasParent := true

theorem paging_exact_artists :
    PagesExactly [10, 11, 12, 13, 14]
      (run (loadMoreItemsIfNeeded [10, 11, 12, 13, 14])
        ((pairs .artists).retrieve [10, 11, 12, 13, 14]) [1, 3]) := by
  refine (paging_exact_iff (pairs .artists) [10, 11, 12, 13, 14] (by decide)
    (Or.inl rfl) rfl [1, 3]).1 ?_ _ List.prefix_rfl
  intro audio
  cases audio

/-- The second page of the playlists begins at the fourth item. -/
theorem audio_playlists_skip_an_item :
    (run (loadMoreItemsIfNeeded [10, 11, 12, 13, 14])
      ((pairs .audioPlaylists).retrieve [10, 11, 12, 13, 14]) [2]).rows =
        [.favoritesButton, .baseItemDto 10 false true,
          .baseItemDto 11 false true, .baseItemDto 13 false true,
          .baseItemDto 14 false true] ∧
      (run (loadMoreItemsIfNeeded [10, 11, 12, 13, 14])
        ((pairs .audioPlaylists).retrieve [10, 11, 12, 13, 14])
        [2]).fullyLoaded = true ∧
      ¬ PagesExactly [10, 11, 12, 13, 14]
        (run (loadMoreItemsIfNeeded [10, 11, 12, 13, 14])
          ((pairs .audioPlaylists).retrieve [10, 11, 12, 13, 14]) [2]) := by
  refine ⟨by decide, by decide, ?_⟩
  intro exact
  have whole := exact.complete.mp (by decide)
  exact absurd whole (by decide)

end ItemRowAdapter

end JellyfinTv.Items
