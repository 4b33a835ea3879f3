import JellyfinTv.Items.Paging

/-!
# Responses in any order

A request of `ItemRowAdapter` is answered later, and nothing ties the answer
to the state in which it was sent: `setItems` puts the items behind the rows
that are counted when they arrive.  `Retrieve()` resets the counter whether or
not a request is outstanding.
-/

namespace JellyfinTv.Items

open JellyfinTv.Library

/-- The range of a request that is not answered yet. -/
structure PageRequest where
  startIndex : Nat
  batchSize : Nat
  deriving DecidableEq, Repr

def PageRequest.page {α : Type} (request : PageRequest) (server : List α) :
    List α :=
  (getPage server request.startIndex request.batchSize).items

inductive ChangeTriggerType where
  | libraryUpdated
  | moviePlayback
  | tvPlayback
  | favoriteUpdate
  deriving DecidableEq, Repr

/-- The moments of the last changes, in milliseconds. -/
structure DataRefreshService where
  lastLibraryChange : Option Int
  lastMoviePlayback : Option Int
  lastTvPlayback : Option Int
  lastFavoriteUpdate : Option Int
  deriving DecidableEq, Repr

def DataRefreshService.lastChange (service : DataRefreshService) :
    ChangeTriggerType → Option Int
  | .libraryUpdated => service.lastLibraryChange
  | .moviePlayback => service.lastMoviePlayback
  | .tvPlayback => service.lastTvPlayback
  | .favoriteUpdate => service.lastFavoriteUpdate

/-- Whether a change is newer than the last full retrieve.  There is no answer
for a row that was never retrieved: the missing moment is dereferenced. -/
def retrieveNeeded (lastFullRetrieve : Option Int)
    (service : DataRefreshService) (triggers : List ChangeTriggerType) :
    Option Bool :=
  triggers.foldlM
    (fun retrieve trigger =>
      match service.lastChange trigger with
      | none => some retrieve
      | some change =>
          lastFullRetrieve.map fun moment => retrieve || moment < change)
    false

namespace ItemRowAdapter

variable {α : Type}

/-- The part of `Retrieve()` before its request. -/
def startRetrieve (adapter : ItemRowAdapter α) : ItemRowAdapter α :=
  let started := { adapter.notifyRetrieveStarted with itemsLoaded := 0 }
  match adapter.queryType with
  | .audioPlaylists =>
      { started with rows := [.favoritesButton], itemsLoaded := 1 }
  | _ => started

/-- The request of `Retrieve()`. -/
def firstRequest (adapter : ItemRowAdapter α) : PageRequest :=
  match adapter.queryType, adapter.startIndex, adapter.limit with
  | .items, some startIndex, some limit => ⟨startIndex, limit⟩
  | _, _, _ => ⟨0, adapter.chunkSize⟩

/-- The request that a position leads to. -/
def nextRequest (adapter : ItemRowAdapter α) (pos : Int) :
    Option PageRequest :=
  if adapter.fullyLoaded ∨ adapter.currentlyRetrieving ∨
      adapter.chunkSize = 0 then
    none
  else if NearEnd pos adapter.itemsLoaded adapter.chunkSize then
    some ⟨adapter.itemsLoaded, adapter.chunkSize⟩
  else
    none

/-- What the request of each query type does with its response. -/
def receive (adapter : ItemRowAdapter α) (server : List α)
    (request : PageRequest) : ItemRowAdapter α :=
  match adapter.queryType with
  | .liveTvChannel =>
      adapter.retrieveLiveTvChannels server request.startIndex
        request.batchSize
  | .artists =>
      adapter.retrieveArtists server request.startIndex request.batchSize
  | .albumArtists =>
      adapter.retrieveAlbumArtists server request.startIndex
        request.batchSize
  | .items | .audioPlaylists =>
      adapter.retrieveItems server request.startIndex request.batchSize

/-- With the response at once, the parts are `Retrieve()`. -/
theorem retrieve_eq_receive (adapter : ItemRowAdapter α)
    (server : List α) :
    adapter.retrieve server =
      adapter.startRetrieve.receive server adapter.firstRequest := by
  unfold retrieve startRetrieve firstRequest receive
  cases kind : adapter.queryType with
  | items =>
      cases start : adapter.startIndex with
      | none =>
          simp [notifyRetrieveStarted, kind]
      | some startIndex =>
          cases limit : adapter.limit with
          | none =>
              simp [notifyRetrieveStarted, kind]
          | some limit =>
              simp [notifyRetrieveStarted, kind]
  | artists =>
      simp [notifyRetrieveStarted, kind]
  | albumArtists =>
      simp [notifyRetrieveStarted, kind]
  | liveTvChannel =>
      simp [notifyRetrieveStarted, kind]
  | audioPlaylists =>
      simp [retrieveAudioPlaylists, notifyRetrieveStarted, kind]

/-- With the response at once, the parts are `loadMoreItemsIfNeeded`. -/
theorem loadMoreItemsIfNeeded_eq_receive (adapter : ItemRowAdapter α)
    (server : List α) (pos : Int) :
    loadMoreItemsIfNeeded server adapter pos =
      match adapter.nextRequest pos with
      | none => adapter
      | some request =>
          adapter.notifyRetrieveStarted.receive server request := by
  unfold loadMoreItemsIfNeeded nextRequest retrieveNext
  by_cases full : adapter.fullyLoaded = true
  · simp [full]
  · by_cases busy : adapter.currentlyRetrieving = true
    · simp [full, busy]
    · by_cases whole : adapter.chunkSize = 0
      · simp [full, busy, whole]
      · have chunked : adapter.chunkSize > 0 := by
          omega
        by_cases near : NearEnd pos adapter.itemsLoaded adapter.chunkSize
        · simp only [full, busy, whole, chunked, near, or_false, if_true,
            if_false, Bool.false_eq_true]
          unfold receive
          cases kind : adapter.queryType <;>
            simp [notifyRetrieveStarted, kind]
        · simp [full, busy, whole, chunked, near]

/-! ## One response -/

/-- The rows after the items have arrived: those that are counted, the items,
and what is left behind them of the other rows. -/
def merge (adapter : ItemRowAdapter α) (server items : List α) :
    List (BaseRowItem α) :=
  adapter.rows.take adapter.itemsLoaded ++ items.map adapter.rowItem ++
    (adapter.rows.drop (adapter.itemsLoaded + items.length)).take
      (min server.length adapter.rows.length - adapter.itemsLoaded -
        items.length)

theorem retrievePage_eq_merge (adapter : ItemRowAdapter α)
    (server : List α) (request : PageRequest) {preferParentThumb : Bool}
    {isEmpty : List α → ItemRowAdapter α → Bool}
    (row :
      adapter.rowItem = fun item =>
        .baseItemDto item preferParentThumb adapter.staticHeight)
    (nothing :
      ∀ loaded : ItemRowAdapter α,
        loaded.itemsLoaded =
            (adapter.merge server (request.page server)).length →
          isEmpty (request.page server) loaded = true →
            adapter.merge server (request.page server) = []) :
    ∃ rowRemoved,
      adapter.retrievePage server request.startIndex request.batchSize
          preferParentThumb isEmpty =
        adapter.showing server (adapter.merge server (request.page server))
          rowRemoved := by
  have merged :
      setItems { adapter with totalItems := server.length }
          (request.page server)
          (fun item _ =>
            some (.baseItemDto item preferParentThumb
              adapter.staticHeight)) =
        setItemsLoaded
          { adapter with
            totalItems := server.length
            rows := adapter.merge server (request.page server) }
          (adapter.merge server (request.page server)).length := by
    have mapped :
        ((request.page server).zipIdx adapter.itemsLoaded).filterMap
            (fun pair =>
              some (.baseItemDto pair.1 preferParentThumb
                adapter.staticHeight)) =
          (request.page server).map adapter.rowItem := by
      rw [row]
      exact filterMap_zipIdx
        (fun item =>
          .baseItemDto item preferParentThumb adapter.staticHeight) _ _
    unfold setItems merge
    dsimp only
    rw [mapped, List.length_map]
  have unfolded :
      adapter.retrievePage server request.startIndex request.batchSize
          preferParentThumb isEmpty =
        (let loaded :=
          setItemsLoaded
            { adapter with
              totalItems := server.length
              rows := adapter.merge server (request.page server) }
            (adapter.merge server (request.page server)).length
        (if isEmpty (request.page server) loaded then loaded.removeRow
          else loaded).notifyRetrieveFinished) := by
    rw [← merged]
    rfl
  rw [unfolded]
  dsimp only
  split
  · rename_i empty
    have none := nothing _ rfl empty
    unfold removeRow
    split
    · exact ⟨true, rfl⟩
    · refine ⟨adapter.rowRemoved, ?_⟩
      simp [showing, setItemsLoaded, notifyRetrieveFinished, none]
  · exact ⟨adapter.rowRemoved, rfl⟩

/-- A response of each query type leaves the merged rows, when an empty one
comes to an empty row only. -/
theorem receive_eq_merge {adapter : ItemRowAdapter α} {server : List α}
    {request : PageRequest}
    (nothing :
      adapter.queryType ≠ .items → adapter.queryType ≠ .audioPlaylists →
        request.page server = [] →
          adapter.merge server (request.page server) = []) :
    ∃ rowRemoved,
      adapter.receive server request =
        adapter.showing server (adapter.merge server (request.page server))
          rowRemoved := by
  have byCount (loaded : ItemRowAdapter α)
      (count :
        loaded.itemsLoaded =
          (adapter.merge server (request.page server)).length)
      (zero : decide (loaded.itemsLoaded = 0) = true) :
      adapter.merge server (request.page server) = [] := by
    have none : loaded.itemsLoaded = 0 := of_decide_eq_true zero
    exact List.length_eq_zero_iff.mp (count.symm.trans none)
  have byItems (other : adapter.queryType ≠ .items)
      (plain : adapter.queryType ≠ .audioPlaylists)
      (loaded : ItemRowAdapter α)
      (_ :
        loaded.itemsLoaded =
          (adapter.merge server (request.page server)).length)
      (empty : (request.page server).isEmpty = true) :
      adapter.merge server (request.page server) = [] :=
    nothing other plain (List.isEmpty_iff.mp empty)
  unfold receive
  cases kind : adapter.queryType with
  | liveTvChannel =>
      have row : adapter.rowItem =
          fun item => .baseItemDto item false adapter.staticHeight := by
        funext item
        simp [rowItem, kind]
      exact retrievePage_eq_merge adapter server request row
        (byItems (by simp [kind]) (by simp [kind]))
  | artists =>
      exact retrievePage_eq_merge adapter server request
        (rowItem_of_ne (by simp [kind]))
        (byItems (by simp [kind]) (by simp [kind]))
  | albumArtists =>
      exact retrievePage_eq_merge adapter server request
        (rowItem_of_ne (by simp [kind]))
        (byItems (by simp [kind]) (by simp [kind]))
  | items =>
      exact retrievePage_eq_merge adapter server request
        (rowItem_of_ne (by simp [kind])) byCount
  | audioPlaylists =>
      exact retrievePage_eq_merge adapter server request
        (rowItem_of_ne (by simp [kind])) byCount

/-- In a row that shows the beginning of the list, the rows after a response
do so exactly if it brings the items at its place. -/
theorem merge_prefix_iff {adapter : ItemRowAdapter α} {server : List α}
    (counted : adapter.itemsLoaded ≤ adapter.rows.length)
    (shown : adapter.rows <+: server.map adapter.rowItem)
    (items : List α) :
    adapter.merge server items <+: server.map adapter.rowItem ↔
      items = (server.drop adapter.itemsLoaded).take items.length := by
  have rows :
      adapter.rows =
        (server.take adapter.rows.length).map adapter.rowItem := by
    rw [List.map_take]
    exact List.prefix_iff_eq_take.mp shown
  have short : adapter.rows.length ≤ server.length := by
    simpa using shown.length_le
  have before :
      adapter.rows.take adapter.itemsLoaded =
        (server.take adapter.itemsLoaded).map adapter.rowItem := by
    rw [rows, ← List.map_take, List.take_take, Nat.min_eq_left counted]
  have beforeLength :
      (adapter.rows.take adapter.itemsLoaded).length =
        adapter.itemsLoaded := by
    rw [List.length_take, Nat.min_eq_left counted]
  constructor
  · intro merged
    obtain ⟨behind, whole⟩ := merged
    have placed :=
      congrArg
        (fun rows =>
          (rows.drop adapter.itemsLoaded).take items.length) whole
    rw [merge, List.append_assoc, List.append_assoc,
      List.drop_left' beforeLength, List.take_left' (by simp),
      ← List.map_drop, ← List.map_take] at placed
    exact adapter.rowItem_injective.list_map placed
  · intro placed
    have fits : items.length ≤ server.length - adapter.itemsLoaded := by
      have lengths := congrArg List.length placed
      rw [List.length_take, List.length_drop] at lengths
      omega
    have upTo :
        adapter.rows.take adapter.itemsLoaded ++
            items.map adapter.rowItem =
          (server.take (adapter.itemsLoaded + items.length)).map
            adapter.rowItem := by
      rw [before, List.take_add, List.map_append, ← placed]
    rw [merge, upTo, Nat.min_eq_right short]
    rcases Nat.le_total adapter.rows.length
        (adapter.itemsLoaded + items.length) with beyond | within
    · rw [List.drop_of_length_le beyond, List.take_nil, List.append_nil,
        List.map_take]
      exact List.take_prefix _ _
    · have rest :
          (adapter.rows.drop
              (adapter.itemsLoaded + items.length)).take
                (adapter.rows.length - adapter.itemsLoaded -
                  items.length) =
            adapter.rows.drop (adapter.itemsLoaded + items.length) := by
        apply List.take_of_length_le
        rw [List.length_drop]
        omega
      have joined :
          (server.take (adapter.itemsLoaded + items.length)).map
                adapter.rowItem ++
              adapter.rows.drop (adapter.itemsLoaded + items.length) =
            adapter.rows := by
        have first :
            (server.take (adapter.itemsLoaded + items.length)).map
                adapter.rowItem =
              adapter.rows.take
                (adapter.itemsLoaded + items.length) := by
          rw [rows, ← List.map_take, List.take_take,
            Nat.min_eq_left within]
        rw [first, List.take_append_drop]
      rw [rest, joined]
      exact shown

end ItemRowAdapter

/-! ## Runs -/

/-- A row with its outstanding requests, in the order in which they were
sent. -/
structure RetrievingRow (α : Type) where
  adapter : ItemRowAdapter α
  reRetrieveTriggers : Option (List ChangeTriggerType)
  lastFullRetrieve : Option Int := none
  pending : List PageRequest := []

/-- The calls of a row, and the arrival of the response to one of the
outstanding requests, or of its failure. -/
inductive RowEvent where
  | retrieve (now : Int)
  | reRetrieveIfNeeded (service : DataRefreshService) (now : Int)
  | loadMoreItemsIfNeeded (pos : Int)
  | response (index : Nat)
  | failure (index : Nat)
  deriving DecidableEq, Repr

namespace RetrievingRow

variable {α : Type}

def retrieve (row : RetrievingRow α) (now : Int) : RetrievingRow α :=
  { row with
    adapter := row.adapter.startRetrieve
    lastFullRetrieve := some now
    pending := row.pending ++ [row.adapter.firstRequest] }

def reRetrieveIfNeeded (row : RetrievingRow α)
    (service : DataRefreshService) (now : Int) : RetrievingRow α :=
  match row.reRetrieveTriggers with
  | none => row
  | some triggers =>
      match retrieveNeeded row.lastFullRetrieve service triggers with
      | some true => row.retrieve now
      | _ => row

def loadMoreItemsIfNeeded (row : RetrievingRow α) (pos : Int) :
    RetrievingRow α :=
  match row.adapter.nextRequest pos with
  | none => row
  | some request =>
      { row with
        adapter := row.adapter.notifyRetrieveStarted
        pending := row.pending ++ [request] }

def respond (server : List α) (row : RetrievingRow α) (index : Nat) :
    RetrievingRow α :=
  match row.pending[index]? with
  | none => row
  | some request =>
      { row with
        adapter := row.adapter.receive server request
        pending := row.pending.eraseIdx index }

def fail (row : RetrievingRow α) (index : Nat) : RetrievingRow α :=
  match row.pending[index]? with
  | none => row
  | some _ =>
      { row with
        adapter := row.adapter.notifyRetrieveFinished
        pending := row.pending.eraseIdx index }

def step (server : List α) (row : RetrievingRow α) :
    RowEvent → RetrievingRow α
  | .retrieve now => row.retrieve now
  | .reRetrieveIfNeeded service now => row.reRetrieveIfNeeded service now
  | .loadMoreItemsIfNeeded pos => row.loadMoreItemsIfNeeded pos
  | .response index => row.respond server index
  | .failure index => row.fail index

theorem reRetrieveIfNeeded_cases (row : RetrievingRow α)
    (service : DataRefreshService) (now : Int) :
    row.reRetrieveIfNeeded service now = row ∨
      row.reRetrieveIfNeeded service now = row.retrieve now := by
  unfold reRetrieveIfNeeded
  split
  · exact Or.inl rfl
  · split
    · exact Or.inr rfl
    · exact Or.inl rfl

/-- The row shows a part of the server's list from its beginning. -/
def ShowsBeginning (server : List α) (row : RetrievingRow α) : Prop :=
  row.adapter.rows <+: server.map row.adapter.rowItem

instance [DecidableEq α] (server : List α) (row : RetrievingRow α) :
    Decidable (ShowsBeginning server row) :=
  inferInstanceAs (Decidable (_ <+: _))

/-- A response brings the items of the server's list that begin at the
counter of the moment in which it arrives. -/
def ArrivesInPlace (server : List α) (row : RetrievingRow α) :
    RowEvent → Prop
  | .response index =>
      ∀ request ∈ row.pending[index]?,
        request.page server =
          (server.drop row.adapter.itemsLoaded).take
            (request.page server).length
  | _ => True

/-- What every run keeps: no more rows are counted than there are, a request
for a further page begins inside the list, and so an empty page comes from an
empty list. -/
structure Consistent (server : List α) (row : RetrievingRow α) : Prop where
  chunked : 0 < row.adapter.chunkSize
  plain : row.adapter.queryType ≠ .audioPlaylists
  counted : row.adapter.itemsLoaded ≤ row.adapter.rows.length
  behind :
    row.adapter.fullyLoaded = false →
      row.adapter.itemsLoaded = 0 ∨
        row.adapter.itemsLoaded < server.length
  inside :
    ∀ request ∈ row.pending, row.adapter.queryType ≠ .items →
      request.page server = [] → server = []
  empty : server = [] → row.adapter.rows = []

namespace Consistent

variable {server : List α} {row : RetrievingRow α}

theorem startRetrieve_eq (consistent : Consistent server row) :
    row.adapter.startRetrieve =
      { row.adapter.notifyRetrieveStarted with itemsLoaded := 0 } := by
  unfold ItemRowAdapter.startRetrieve
  split
  · rename_i audio
    exact absurd audio consistent.plain
  · rfl

/-- A page that begins at the counter of a row that is not full is empty in
an empty list only. -/
theorem page_ne_nil (consistent : Consistent server row) {start : Nat}
    (within : start = 0 ∨ start < server.length)
    (empty :
      (PageRequest.mk start row.adapter.chunkSize).page server = []) :
    server = [] := by
  have chunked := consistent.chunked
  have lengths := congrArg List.length empty
  simp only [PageRequest.page, getPage, List.length_take, List.length_drop,
    List.length_nil] at lengths
  apply List.length_eq_zero_iff.mp
  rcases within with first | inside
  · omega
  · omega

theorem retrieve (consistent : Consistent server row) (now : Int) :
    Consistent server (row.retrieve now) := by
  unfold RetrievingRow.retrieve
  rw [consistent.startRetrieve_eq]
  refine ⟨consistent.chunked, consistent.plain, Nat.zero_le _,
    fun _ => Or.inl rfl, ?_, consistent.empty⟩
  intro request member other empty
  rcases List.mem_append.mp member with earlier | latest
  · exact consistent.inside request earlier other empty
  · have first :
        request = ⟨0, row.adapter.chunkSize⟩ := by
      rw [List.mem_singleton.mp latest]
      unfold ItemRowAdapter.firstRequest
      split
      · rename_i items _ _
        exact absurd items other
      · rfl
    rw [first] at empty
    exact consistent.page_ne_nil (Or.inl rfl) empty

theorem loadMoreItemsIfNeeded (consistent : Consistent server row)
    (pos : Int) : Consistent server (row.loadMoreItemsIfNeeded pos) := by
  unfold RetrievingRow.loadMoreItemsIfNeeded
  split
  · exact consistent
  · rename_i request requested
    refine ⟨consistent.chunked, consistent.plain, consistent.counted,
      consistent.behind, ?_, consistent.empty⟩
    intro other member notItems empty
    rcases List.mem_append.mp member with earlier | latest
    · exact consistent.inside other earlier notItems empty
    · unfold ItemRowAdapter.nextRequest at requested
      split at requested
      · cases requested
      · rename_i idle
        split at requested
        · have notFull : row.adapter.fullyLoaded = false := by
            simp only [not_or, Bool.not_eq_true] at idle
            exact idle.1
          rw [List.mem_singleton.mp latest,
            ← Option.some.inj requested] at empty
          exact consistent.page_ne_nil (consistent.behind notFull) empty
        · cases requested

/-- A response leaves the merged rows. -/
theorem receive (consistent : Consistent server row)
    {request : PageRequest} (member : request ∈ row.pending) :
    ∃ rowRemoved,
      row.adapter.receive server request =
        row.adapter.showing server
          (row.adapter.merge server (request.page server))
          rowRemoved := by
  apply ItemRowAdapter.receive_eq_merge
  intro other _ empty
  have noItems := consistent.inside request member other empty
  simp [ItemRowAdapter.merge, empty, consistent.empty noItems]

theorem respond (consistent : Consistent server row) (index : Nat) :
    Consistent server (row.respond server index) := by
  unfold RetrievingRow.respond
  split
  · exact consistent
  · rename_i request found
    obtain ⟨rowRemoved, received⟩ :=
      consistent.receive (List.mem_of_getElem? found)
    rw [received]
    refine ⟨consistent.chunked, consistent.plain, Nat.le_refl _, ?_, ?_, ?_⟩
    · intro notFull
      right
      simp only [ItemRowAdapter.showing, decide_eq_false_iff_not, not_or,
        Nat.not_le] at notFull
      exact notFull.2
    · intro other member
      exact consistent.inside other (List.mem_of_mem_eraseIdx member)
    · intro noItems
      have noPage : request.page server = [] := by
        simp [PageRequest.page, getPage, noItems]
      simp [ItemRowAdapter.showing, ItemRowAdapter.merge, noPage,
        consistent.empty noItems]

theorem fail (consistent : Consistent server row) (index : Nat) :
    Consistent server (row.fail index) := by
  unfold RetrievingRow.fail
  split
  · exact consistent
  · refine ⟨consistent.chunked, consistent.plain, consistent.counted,
      consistent.behind, ?_, consistent.empty⟩
    intro other member
    exact consistent.inside other (List.mem_of_mem_eraseIdx member)

theorem step (consistent : Consistent server row) (event : RowEvent) :
    Consistent server (row.step server event) := by
  cases event with
  | retrieve now =>
      exact consistent.retrieve now
  | reRetrieveIfNeeded service now =>
      rw [RetrievingRow.step]
      rcases row.reRetrieveIfNeeded_cases service now with same | again
      · rw [same]
        exact consistent
      · rw [again]
        exact consistent.retrieve now
  | loadMoreItemsIfNeeded pos =>
      exact consistent.loadMoreItemsIfNeeded pos
  | response index =>
      exact consistent.respond index
  | failure index =>
      exact consistent.fail index

theorem showsBeginning_retrieve (consistent : Consistent server row)
    (now : Int) :
    ShowsBeginning server (row.retrieve now) ↔
      ShowsBeginning server row := by
  unfold ShowsBeginning RetrievingRow.retrieve
  rw [consistent.startRetrieve_eq]
  rfl

/-- Among the events only a response changes the rows. -/
theorem showsBeginning_step_iff (consistent : Consistent server row)
    (shown : ShowsBeginning server row) (event : RowEvent) :
    ShowsBeginning server (row.step server event) ↔
      ArrivesInPlace server row event := by
  cases event with
  | retrieve now =>
      exact iff_of_true
        ((consistent.showsBeginning_retrieve now).mpr shown) trivial
  | reRetrieveIfNeeded service now =>
      refine iff_of_true ?_ trivial
      rw [RetrievingRow.step]
      rcases row.reRetrieveIfNeeded_cases service now with same | again
      · rw [same]
        exact shown
      · rw [again]
        exact (consistent.showsBeginning_retrieve now).mpr shown
  | loadMoreItemsIfNeeded pos =>
      refine iff_of_true ?_ trivial
      rw [RetrievingRow.step, RetrievingRow.loadMoreItemsIfNeeded]
      split
      · exact shown
      · exact shown
  | response index =>
      rw [RetrievingRow.step, RetrievingRow.respond, ArrivesInPlace]
      split
      · rename_i absent
        simp [absent, shown]
      · rename_i request found
        obtain ⟨rowRemoved, received⟩ :=
          consistent.receive (List.mem_of_getElem? found)
        have merged :=
          ItemRowAdapter.merge_prefix_iff consistent.counted shown
            (request.page server)
        rw [ShowsBeginning, received]
        simp only [found, Option.mem_def, Option.some.injEq, forall_eq']
        exact merged
  | failure index =>
      refine iff_of_true ?_ trivial
      rw [RetrievingRow.step, RetrievingRow.fail]
      split
      · exact shown
      · exact shown

end Consistent

theorem consistent_new (server : List α) (adapter : ItemRowAdapter α)
    (triggers : Option (List ChangeTriggerType))
    (chunked : 0 < adapter.chunkSize)
    (plain : adapter.queryType ≠ .audioPlaylists)
    (noRows : adapter.rows = []) (unloaded : adapter.itemsLoaded = 0) :
    Consistent server ⟨adapter, triggers, none, []⟩ where
  chunked := chunked
  plain := plain
  counted := by
    rw [unloaded]
    exact Nat.zero_le _
  behind _ := Or.inl unloaded
  inside request member := absurd member List.not_mem_nil
  empty _ := noRows

/-- A new row shows a beginning of the server's list throughout a run, with
the responses in any order, if and only if each response arrives in its
place. -/
theorem shows_beginning_iff_in_place (server : List α)
    (adapter : ItemRowAdapter α)
    (triggers : Option (List ChangeTriggerType))
    (chunked : 0 < adapter.chunkSize)
    (plain : adapter.queryType ≠ .audioPlaylists)
    (noRows : adapter.rows = []) (unloaded : adapter.itemsLoaded = 0)
    (events : List RowEvent) :
    (∀ early, early <+: events →
      ShowsBeginning server
        (run (step server) ⟨adapter, triggers, none, []⟩ early)) ↔
      Admitted (step server) (ArrivesInPlace server)
        ⟨adapter, triggers, none, []⟩ events := by
  have consistent :=
    consistent_new server adapter triggers chunked plain noRows unloaded
  have shown :
      ShowsBeginning server ⟨adapter, triggers, none, []⟩ := by
    unfold ShowsBeginning
    rw [noRows]
    exact List.nil_prefix
  exact holds_throughout_iff_admitted
    (fun _ event consistent _ => consistent.step event)
    (fun _ event consistent _ shown =>
      consistent.showsBeginning_step_iff shown event)
    consistent shown (admitted_of_forall fun _ _ => trivial)

/-- A new row of artists with pages of two items. -/
def artists : RetrievingRow Nat :=
  ⟨ItemRowAdapter.pairs .artists, some [.libraryUpdated], none, []⟩

/-- A next page that is overtaken by a full retrieve with its response. -/
theorem artists_shown_in_place :
    ShowsBeginning [10, 11, 12, 13]
      (run (step [10, 11, 12, 13]) artists
        [.retrieve 0, .response 0, .loadMoreItemsIfNeeded 1,
          .reRetrieveIfNeeded ⟨some 5, none, none, none⟩ 6, .response 1,
          .response 0]) := by
  refine (shows_beginning_iff_in_place [10, 11, 12, 13]
    (ItemRowAdapter.pairs .artists) (some [.libraryUpdated]) (by decide)
    (by decide) rfl rfl _).mpr ?_ _ List.prefix_rfl
  refine ⟨trivial, ?_, trivial, trivial, ?_, ?_, trivial⟩
  · intro request found
    cases found
    rfl
  · intro request found
    cases found
    rfl
  · intro request found
    cases found
    rfl

/-- The second of two full retrieves brings the first page again. -/
theorem second_retrieve_repeats_items :
    (run (step [10, 11, 12, 13]) artists
      [.retrieve 0, .retrieve 1, .response 0, .response 0]).adapter.rows =
        [10, 11, 10, 11].map artists.adapter.rowItem ∧
      ¬ShowsBeginning [10, 11, 12, 13]
        (run (step [10, 11, 12, 13]) artists
          [.retrieve 0, .retrieve 1, .response 0, .response 0]) := by
  decide

end RetrievingRow

end JellyfinTv.Items
