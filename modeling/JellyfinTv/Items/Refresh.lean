import JellyfinTv.Items.Arrivals

/-!
# Refreshing a row after a change of the list

`Retrieve()` asks for the first page only.  The rows behind it stay as they
were, as far as the new list is long, and are counted as loaded, so that no
later page replaces them.
-/

namespace JellyfinTv.Items.ItemRowAdapter

open JellyfinTv.Library

variable {α : Type}

/-- The refreshed page is the beginning of the list, and the rows that are
kept behind it are those of the list. -/
def KeptRowsFit (server : List α) (adapter : ItemRowAdapter α) : Prop :=
  let page := adapter.firstRequest.page server
  page <+: server ∧
    (adapter.rows.drop page.length).take (server.length - page.length) <+:
      (server.drop page.length).map adapter.rowItem

instance [DecidableEq α] (server : List α) (adapter : ItemRowAdapter α) :
    Decidable (KeptRowsFit server adapter) :=
  inferInstanceAs (Decidable (_ ∧ _))

/-- A row of items that is retrieved in pages. -/
structure ItemsRow (adapter : ItemRowAdapter α) : Prop where
  items : adapter.queryType = .items
  chunked : 0 < adapter.chunkSize

namespace ItemsRow

variable {adapter : ItemRowAdapter α}

theorem receive_eq (itemsRow : ItemsRow adapter) (server : List α)
    (request : PageRequest) :
    ∃ rowRemoved,
      adapter.receive server request =
        adapter.showing server (adapter.merge server (request.page server))
          rowRemoved := by
  apply receive_eq_merge
  intro other
  exact absurd itemsRow.items other

theorem receive (itemsRow : ItemsRow adapter) (server : List α)
    (request : PageRequest) : ItemsRow (adapter.receive server request) := by
  obtain ⟨rowRemoved, received⟩ := itemsRow.receive_eq server request
  rw [received]
  exact ⟨itemsRow.items, itemsRow.chunked⟩

theorem startRetrieve_eq (itemsRow : ItemsRow adapter) :
    adapter.startRetrieve =
      { adapter.notifyRetrieveStarted with itemsLoaded := 0 } := by
  unfold startRetrieve
  rw [itemsRow.items]

theorem retrieve (itemsRow : ItemsRow adapter) (server : List α) :
    ItemsRow (adapter.retrieve server) := by
  have started : ItemsRow adapter.startRetrieve := by
    rw [itemsRow.startRetrieve_eq]
    exact ⟨itemsRow.items, itemsRow.chunked⟩
  rw [retrieve_eq_receive]
  exact started.receive server adapter.firstRequest

theorem loadMoreItemsIfNeeded (itemsRow : ItemsRow adapter)
    (server : List α) (pos : Int) :
    ItemsRow (loadMoreItemsIfNeeded server adapter pos) := by
  have started : ItemsRow adapter.notifyRetrieveStarted :=
    ⟨itemsRow.items, itemsRow.chunked⟩
  rw [loadMoreItemsIfNeeded_eq_receive]
  split
  · exact itemsRow
  · exact started.receive server _

end ItemsRow

/-- The rows after a refresh: the first page, and behind it the old rows up to
the length of the list. -/
def refreshedRows (server : List α) (adapter : ItemRowAdapter α) :
    List (BaseRowItem α) :=
  let page := adapter.firstRequest.page server
  page.map adapter.rowItem ++
    (adapter.rows.drop page.length).take (server.length - page.length)

theorem length_page_le (request : PageRequest) (server : List α) :
    (request.page server).length ≤ server.length := by
  simp only [PageRequest.page, getPage, List.length_take, List.length_drop]
  omega

theorem merge_startRetrieve {adapter : ItemRowAdapter α}
    (itemsRow : ItemsRow adapter) (server : List α) :
    adapter.startRetrieve.merge server
        (adapter.firstRequest.page server) =
      refreshedRows server adapter := by
  rw [itemsRow.startRetrieve_eq]
  let page := adapter.firstRequest.page server
  have kept :
      (adapter.rows.drop page.length).take
          (min server.length adapter.rows.length - page.length) =
        (adapter.rows.drop page.length).take
          (server.length - page.length) := by
    rcases Nat.le_total server.length adapter.rows.length with fits | beyond
    · rw [Nat.min_eq_left fits]
    · rw [Nat.min_eq_right beyond, List.take_of_length_le (by simp),
        List.take_of_length_le (by rw [List.length_drop]; omega)]
  simp only [merge, notifyRetrieveStarted, List.take_zero, List.nil_append,
    Nat.zero_add, Nat.sub_zero]
  exact congrArg (page.map adapter.rowItem ++ ·) kept

theorem retrieve_eq_refreshed {adapter : ItemRowAdapter α}
    (itemsRow : ItemsRow adapter) (server : List α) :
    ∃ rowRemoved,
      adapter.retrieve server =
        adapter.showing server (refreshedRows server adapter)
          rowRemoved := by
  have started : ItemsRow adapter.startRetrieve := by
    rw [itemsRow.startRetrieve_eq]
    exact ⟨itemsRow.items, itemsRow.chunked⟩
  obtain ⟨rowRemoved, received⟩ :=
    started.receive_eq server adapter.firstRequest
  refine ⟨rowRemoved, ?_⟩
  rw [retrieve_eq_receive, received, merge_startRetrieve itemsRow,
    itemsRow.startRetrieve_eq]
  rfl

theorem length_refreshedRows_le (server : List α)
    (adapter : ItemRowAdapter α) :
    (refreshedRows server adapter).length ≤ server.length := by
  have page := length_page_le adapter.firstRequest server
  simp only [refreshedRows, List.length_append, List.length_map,
    List.length_take, List.length_drop]
  omega

theorem append_prefix_iff {β : Type} {first second whole : List β} :
    first ++ second <+: whole ↔
      first <+: whole ∧ second <+: whole.drop first.length := by
  constructor
  · intro both
    have start : first <+: whole :=
      (List.prefix_append first second).trans both
    obtain ⟨rest, rfl⟩ := start
    rw [List.prefix_append_right_inj] at both
    exact ⟨List.prefix_append first rest, by simpa using both⟩
  · rintro ⟨⟨rest, rfl⟩, behind⟩
    rw [List.drop_left] at behind
    exact (List.prefix_append_right_inj first).mpr behind

theorem refreshedRows_prefix_iff (server : List α)
    (adapter : ItemRowAdapter α) :
    refreshedRows server adapter <+: server.map adapter.rowItem ↔
      KeptRowsFit server adapter := by
  unfold refreshedRows KeptRowsFit
  dsimp only
  rw [append_prefix_iff,
    List.prefix_map_iff_of_injective adapter.rowItem_injective,
    List.length_map, List.map_drop]

/-- The row shows the first rows and, behind them, what follows in the list
at their number. -/
structure Continues (server : List α) (row : α → BaseRowItem α)
    (first : List (BaseRowItem α)) (adapter : ItemRowAdapter α) :
    Prop extends Idle server adapter where
  itemsRow : ItemsRow adapter
  same : adapter.rowItem = row
  within : adapter.rows.length ≤ server.length
  longer : first.length ≤ adapter.rows.length
  shown :
    adapter.rows =
      first ++
        ((server.take adapter.rows.length).drop first.length).map row

namespace Continues

variable {server : List α} {row : α → BaseRowItem α}
variable {first : List (BaseRowItem α)} {adapter : ItemRowAdapter α}

/-- The rows up to a number that is at least that of the first ones. -/
theorem showing (itemsRow : ItemsRow adapter)
    (same : adapter.rowItem = row) {count : Nat}
    (longer : first.length ≤ count) (within : count ≤ server.length)
    (rowRemoved : Bool) :
    Continues server row first
      (adapter.showing server
        (first ++ ((server.take count).drop first.length).map row)
        rowRemoved) := by
  have length :
      (first ++
        ((server.take count).drop first.length).map row).length =
          count := by
    rw [List.length_append, List.length_map, List.length_drop,
      List.length_take]
    omega
  refine ⟨idle_showing itemsRow.chunked _ _,
    ⟨itemsRow.items, itemsRow.chunked⟩, same, ?_, ?_, ?_⟩
  · exact le_of_eq_of_le length within
  · exact le_of_le_of_eq longer length.symm
  · simp only [ItemRowAdapter.showing, length]

/-- A position changes nothing, or shows the next page. -/
theorem loadMore_cases (continues : Continues server row first adapter)
    (pos : Int) :
    ((server.length ≤ adapter.itemsLoaded ∨
        ¬ NearEnd pos adapter.itemsLoaded adapter.chunkSize) ∧
      ItemRowAdapter.loadMoreItemsIfNeeded server adapter pos = adapter) ∨
    ∃ rowRemoved,
      ItemRowAdapter.loadMoreItemsIfNeeded server adapter pos =
        adapter.showing server
          (first ++
            ((server.take
                (min (adapter.rows.length + adapter.chunkSize)
                  server.length)).drop first.length).map row)
          rowRemoved := by
  rcases loadMoreItemsIfNeeded_cases continues.toIdle pos with
    unchanged | ⟨behind, _, loaded⟩
  · exact Or.inl unchanged
  · right
    have longer := continues.longer
    have within := continues.within
    have chunked := continues.chunked
    have more :
        (server.drop adapter.itemsLoaded).take adapter.chunkSize ≠ [] :=
      take_drop_ne_nil (by omega) chunked
    obtain ⟨rowRemoved, result⟩ :=
      requestPage_eq adapter.notifyRetrieveStarted server
        adapter.itemsLoaded continues.counted fun _ none => absurd none more
    have taken :
        server.take
            (min (adapter.rows.length + adapter.chunkSize)
              server.length) =
          server.take (adapter.rows.length + adapter.chunkSize) := by
      rw [← List.take_take, List.take_length]
    have parts :
        (server.take (adapter.rows.length + adapter.chunkSize)).drop
            first.length =
          (server.take adapter.rows.length).drop first.length ++
            (server.drop adapter.rows.length).take adapter.chunkSize := by
      rw [List.take_add, List.drop_append_of_le_length]
      rw [List.length_take]
      omega
    have rows :
        adapter.rows ++
            ((server.drop adapter.itemsLoaded).take
              adapter.chunkSize).map adapter.rowItem =
          first ++
            ((server.take
                (min (adapter.rows.length + adapter.chunkSize)
                  server.length)).drop first.length).map row := by
      rw [taken, parts, List.map_append, ← List.append_assoc,
        ← continues.shown, continues.counted, continues.same]
    refine ⟨rowRemoved, ?_⟩
    rw [loaded, result]
    exact congrArg (adapter.showing server · rowRemoved) rows

theorem loadMoreItemsIfNeeded (adapter : ItemRowAdapter α) (pos : Int)
    (continues : Continues server row first adapter) :
    Continues server row first
      (ItemRowAdapter.loadMoreItemsIfNeeded server adapter pos) := by
  rcases continues.loadMore_cases pos with
    ⟨_, unchanged⟩ | ⟨rowRemoved, loaded⟩
  · rw [unchanged]
    exact continues
  · have longer := continues.longer
    have within := continues.within
    rw [loaded]
    exact showing continues.itemsRow continues.same (by omega)
      (Nat.min_le_right _ _) rowRemoved

theorem run (continues : Continues server row first adapter)
    (positions : List Int) :
    Continues server row first
      (Library.run (ItemRowAdapter.loadMoreItemsIfNeeded server) adapter
        positions) :=
  run_preserves loadMoreItemsIfNeeded continues positions

/-- A full row has the rest of the list behind its first rows. -/
theorem rows_of_full (continues : Continues server row first adapter)
    (full : adapter.fullyLoaded = true) :
    adapter.rows =
      first ++ (server.drop first.length).map row := by
  have long := continues.full.mp full
  rw [continues.counted] at long
  have shown := continues.shown
  rw [List.take_of_length_le long] at shown
  exact shown

/-- Positions at the end of the list load all of it. -/
theorem fills (continues : Continues server row first adapter) :
    ∃ positions,
      (Library.run (ItemRowAdapter.loadMoreItemsIfNeeded server) adapter
        positions).fullyLoaded = true := by
  generalize left : server.length - adapter.rows.length = remaining
  induction remaining using Nat.strongRecOn generalizing adapter with
  | ind remaining inductionHypothesis =>
      have chunked := continues.chunked
      have longer := continues.longer
      rcases continues.loadMore_cases server.length with
        ⟨full | far, _⟩ | ⟨rowRemoved, loaded⟩
      · exact ⟨[], continues.full.mpr full⟩
      · refine ⟨[], continues.full.mpr ?_⟩
        simp only [NearEnd] at far
        omega
      · have next :=
          loadMoreItemsIfNeeded adapter server.length continues
        by_cases done : server.length ≤ adapter.rows.length
        · refine ⟨[], continues.full.mpr ?_⟩
          rw [continues.counted]
          exact done
        · have more :
              (ItemRowAdapter.loadMoreItemsIfNeeded server adapter
                server.length).rows.length =
                min (adapter.rows.length + adapter.chunkSize)
                  server.length := by
            rw [loaded]
            simp only [ItemRowAdapter.showing, List.length_append,
              List.length_map, List.length_drop, List.length_take]
            omega
          obtain ⟨positions, full⟩ :=
            inductionHypothesis _ (by omega) next rfl
          exact ⟨server.length :: positions, full⟩

end Continues

theorem continues_refreshed {adapter : ItemRowAdapter α}
    (itemsRow : ItemsRow adapter) (server : List α) :
    Continues server adapter.rowItem (refreshedRows server adapter)
      (adapter.retrieve server) := by
  obtain ⟨rowRemoved, refreshed⟩ := retrieve_eq_refreshed itemsRow server
  have shown :=
    Continues.showing itemsRow rfl (Nat.le_refl _)
      (length_refreshedRows_le server adapter) rowRemoved
  have nothing :
      (server.take (refreshedRows server adapter).length).drop
          (refreshedRows server adapter).length = [] := by
    apply List.drop_of_length_le
    rw [List.length_take]
    exact Nat.min_le_left _ _
  rw [nothing, List.map_nil, List.append_nil] at shown
  rw [refreshed]
  exact shown

/-- After the first page of a changed list, the positions that follow fill the
row, and a full row is the changed list, exactly if the rows kept behind the
page fit. -/
theorem refresh_converges_iff (adapter : ItemRowAdapter α)
    (items : adapter.queryType = .items) (chunked : 0 < adapter.chunkSize)
    (server changed : List α) (positions : List Int) :
    let old :=
      run (loadMoreItemsIfNeeded server) (adapter.retrieve server) positions
    (∃ later,
      (run (loadMoreItemsIfNeeded changed) (old.retrieve changed)
        later).fullyLoaded = true) ∧
    ((∀ later,
      (run (loadMoreItemsIfNeeded changed) (old.retrieve changed)
          later).fullyLoaded = true →
        (run (loadMoreItemsIfNeeded changed) (old.retrieve changed)
          later).rows = changed.map old.rowItem) ↔
      KeptRowsFit changed old) := by
  intro old
  have loaded : ItemsRow old := by
    have retrieved : ItemsRow (adapter.retrieve server) :=
      ItemsRow.retrieve ⟨items, chunked⟩ server
    exact run_preserves
      (fun _ pos itemsRow => itemsRow.loadMoreItemsIfNeeded server pos)
      retrieved positions
  have refreshed := continues_refreshed loaded changed
  refine ⟨refreshed.fills, ?_⟩
  rw [← refreshedRows_prefix_iff]
  constructor
  · intro converges
    obtain ⟨later, full⟩ := refreshed.fills
    have filled := (refreshed.run later).rows_of_full full
    rw [converges later full] at filled
    exact ⟨_, filled.symm⟩
  · intro fits later full
    rw [(refreshed.run later).rows_of_full full]
    obtain ⟨rest, whole⟩ := fits
    rw [List.map_drop, ← whole, List.drop_left]

/-- A change on the first page of a row that was loaded further. -/
theorem refresh_converges_on_first_page :
    (run (loadMoreItemsIfNeeded [10, 9, 12, 13, 15])
      ((run (loadMoreItemsIfNeeded [10, 11, 12, 13, 14])
        ((pairs .items).retrieve [10, 11, 12, 13, 14]) [1]).retrieve
          [10, 9, 12, 13, 15]) [3]).rows =
      [10, 9, 12, 13, 15].map (pairs .items).rowItem :=
  (refresh_converges_iff (pairs .items) rfl (by decide)
    [10, 11, 12, 13, 14] [10, 9, 12, 13, 15] [1]).2.mpr (by decide) [3]
      (by decide)

/-- A new first item of a row with two pages: the second page stays where it
was. -/
theorem refresh_repeats_last_item :
    (run (loadMoreItemsIfNeeded [9, 10, 11, 12, 13])
      ((run (loadMoreItemsIfNeeded [10, 11, 12, 13])
        ((pairs .items).retrieve [10, 11, 12, 13]) [1]).retrieve
          [9, 10, 11, 12, 13]) [3]).fullyLoaded = true ∧
      (run (loadMoreItemsIfNeeded [9, 10, 11, 12, 13])
        ((run (loadMoreItemsIfNeeded [10, 11, 12, 13])
          ((pairs .items).retrieve [10, 11, 12, 13]) [1]).retrieve
            [9, 10, 11, 12, 13]) [3]).rows =
        [9, 10, 12, 13, 13].map (pairs .items).rowItem ∧
      [9, 10, 12, 13, 13].map (pairs .items).rowItem ≠
        [9, 10, 11, 12, 13].map (pairs .items).rowItem := by
  decide

end JellyfinTv.Items.ItemRowAdapter
