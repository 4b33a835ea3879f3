import Mathlib.Data.List.Rotate
import JellyfinTv.Photo.PhotoPlayer

/-!
# Cycling through an album

From an item of the album, `showNext` and `showPrevious` move on a cycle.
The search for the requested photo may fail and leave the index at -1.
`showNext` then moves to the first item, but `showPrevious` to -2, which is
no index of the album.
-/

namespace JellyfinTv.Photo

open JellyfinTv.Library

variable {UUID : Type}

inductive Move where
  | showNext
  | showPrevious
  deriving DecidableEq, Repr

namespace PhotoPlayer

def move (player : PhotoPlayer UUID) : Move → Option (PhotoPlayer UUID)
  | .showNext => player.showNext
  | .showPrevious => player.showPrevious

/-- The calls in order, with `none` if one of them throws. -/
def moveAll (player : PhotoPlayer UUID) (moves : List Move) :
    Option (PhotoPlayer UUID) :=
  run (fallible move) (some player) moves

/-- The index is one of the album, and its item is shown. -/
def ShowsIndex (player : PhotoPlayer UUID) : Prop :=
  0 ≤ player.albumIndex ∧ player.albumIndex < player.album.length ∧
    player.currentItem = player.itemAt player.albumIndex

/-- `showPrevious` after `showNext` returns to a shown item of the album. -/
def ReturnsBack (player : PhotoPlayer UUID) : Prop :=
  ∀ item ∈ player.currentItem, (∃ photo ∈ player.album, photo.id = item.id) →
    ∃ back,
      player.moveAll [.showNext, .showPrevious] = some back ∧
        back.albumIndex = player.albumIndex ∧
        ∃ again ∈ back.currentItem, again.id = item.id

/-- As many calls of `showNext` as the album has items show each of them
once. -/
def VisitsAlbum (player : PhotoPlayer UUID) : Prop :=
  let shown := fun calls =>
    (player.moveAll (List.replicate (calls + 1) .showNext)).bind currentItem
  ((List.range player.album.length).map shown).Perm (player.album.map some)

/-- Up to each of the calls none has thrown, the index is inside of the
album, and the cycle is closed in both directions. -/
def NavigatesCycle (player : PhotoPlayer UUID) (moves : List Move) : Prop :=
  ∀ early, early <+: moves →
    ∃ reached, player.moveAll early = some reached ∧
      (early ≠ [] → reached.ShowsIndex) ∧
      reached.ReturnsBack ∧ reached.VisitsAlbum

end PhotoPlayer

/-- The album is empty or contains the requested photo, or the first call is
not `showPrevious`. -/
def ApiClient.OpensCycle (api : ApiClient UUID) (id : UUID)
    (moves : List Move) : Prop :=
  let items := api.getItems (api.getItem id).parentId
  items = [] ∨ (∃ item ∈ items, item.id = id) ∨
    moves.head? ≠ some .showPrevious

namespace PhotoPlayer

variable {player : PhotoPlayer UUID} {album : List (BaseItemDto UUID)}
  {position : Nat}

/-- The item at a position of the album is shown. -/
structure ShowsAt (player : PhotoPlayer UUID)
    (album : List (BaseItemDto UUID)) (position : Nat) : Prop where
  listed : player.album = album
  inside : position < album.length
  index : player.albumIndex = position
  shown : player.currentItem = album[position]?

theorem itemAt_natCast (player : PhotoPlayer UUID) (position : Nat) :
    player.itemAt position = player.album[position]? := by
  unfold itemAt
  rw [if_neg (by omega), Int.toNat_natCast]

theorem ShowsAt.showsIndex (showsAt : player.ShowsAt album position) :
    player.ShowsIndex := by
  rw [ShowsIndex, showsAt.index, itemAt_natCast, showsAt.listed]
  exact
    ⟨Int.natCast_nonneg position, Int.ofNat_lt.mpr showsAt.inside,
      showsAt.shown⟩

theorem showAt_inside (inside : position < player.album.length) :
    ∃ after, player.showAt position = some after ∧
      after.ShowsAt player.album position := by
  rw [showAt, itemAt_natCast, List.getElem?_eq_getElem inside]
  refine ⟨_, rfl, ?_⟩
  constructor
  · simp
  · exact inside
  · simp
  · simp [inside]

/-- From an item of the album, or from -1 before the first one, `showNext`
moves on along the cycle. -/
theorem showNext_eq_showAt (listed : player.album ≠ [])
    (index : player.albumIndex + 1 = position)
    (atMost : position ≤ player.album.length) :
    player.showNext =
      player.showAt (position % player.album.length : Nat) := by
  rw [showNext, if_neg (by simpa using listed)]
  dsimp only
  rw [index]
  congr 1
  rcases Nat.lt_or_eq_of_le atMost with inside | last
  · rw [Nat.mod_eq_of_lt inside, if_neg (by omega)]
  · rw [last, Nat.mod_self, if_pos rfl]
    rfl

theorem showPrevious_eq_showAt (index : player.albumIndex = position)
    (inside : position < player.album.length) :
    player.showPrevious =
      player.showAt
        (if position = 0 then player.album.length - 1
          else position - 1 : Nat) := by
  have listed : player.album ≠ [] :=
    List.ne_nil_of_length_pos (Nat.zero_lt_of_lt inside)
  rw [showPrevious, if_neg (by simpa using listed)]
  dsimp only
  rw [index]
  congr 1
  split_ifs <;> omega

theorem showPrevious_of_missing (listed : player.album ≠ [])
    (index : player.albumIndex = -1) : player.showPrevious = none := by
  rw [showPrevious, if_neg (by simpa using listed), index]
  rfl

theorem showsAt_showNext (listed : player.album ≠ [])
    (index : player.albumIndex + 1 = position)
    (atMost : position ≤ player.album.length) :
    ∃ after, player.showNext = some after ∧
      after.ShowsAt player.album (position % player.album.length) := by
  rw [showNext_eq_showAt listed index atMost]
  apply showAt_inside
  exact Nat.mod_lt position (List.length_pos_iff.mpr listed)

theorem showsAt_showPrevious (index : player.albumIndex = position)
    (inside : position < player.album.length) :
    ∃ after, player.showPrevious = some after ∧
      after.ShowsAt player.album
        (if position = 0 then player.album.length - 1
          else position - 1) := by
  rw [showPrevious_eq_showAt index inside]
  apply showAt_inside
  split_ifs <;> omega

theorem moveAll_append (player : PhotoPlayer UUID)
    (first second : List Move) :
    player.moveAll (first ++ second) =
      (player.moveAll first).bind fun reached => reached.moveAll second := by
  unfold moveAll
  rw [run_append]
  cases run (fallible move) (some player) first with
  | none =>
      rw [Option.bind_none]
      induction second with
      | nil =>
          rfl
      | cons next rest inductionHypothesis =>
          exact inductionHypothesis
  | some reached =>
      rfl

theorem moveAll_singleton (player : PhotoPlayer UUID) (next : Move) :
    player.moveAll [next] = player.move next := by
  rfl

/-- On the album every call shows one of its items. -/
theorem ShowsAt.moved (showsAt : player.ShowsAt album position)
    (next : Move) :
    ∃ after position, player.move next = some after ∧
      after.ShowsAt album position := by
  cases next with
  | showNext =>
      have listed : player.album ≠ [] := by
        rw [showsAt.listed]
        exact List.ne_nil_of_length_pos (Nat.zero_lt_of_lt showsAt.inside)
      have index : player.albumIndex + 1 = (position + 1 : Nat) := by
        rw [showsAt.index]
        rfl
      have atMost : position + 1 ≤ player.album.length := by
        rw [showsAt.listed]
        exact showsAt.inside
      obtain ⟨after, moved, shows⟩ :=
        showsAt_showNext listed index atMost
      rw [showsAt.listed] at shows
      exact ⟨after, _, moved, shows⟩
  | showPrevious =>
      have inside : position < player.album.length := by
        rw [showsAt.listed]
        exact showsAt.inside
      obtain ⟨after, moved, shows⟩ :=
        showsAt_showPrevious showsAt.index inside
      rw [showsAt.listed] at shows
      exact ⟨after, _, moved, shows⟩

theorem ShowsAt.movedAll (showsAt : player.ShowsAt album position)
    (moves : List Move) :
    ∃ reached position, player.moveAll moves = some reached ∧
      reached.ShowsAt album position := by
  induction moves using List.reverseRecOn with
  | nil =>
      exact ⟨player, position, rfl, showsAt⟩
  | append_singleton early next inductionHypothesis =>
      obtain ⟨reached, current, moved, shows⟩ := inductionHypothesis
      obtain ⟨after, last, nextMoved, nextShows⟩ := shows.moved next
      refine ⟨after, last, ?_, nextShows⟩
      rw [moveAll_append, moved, Option.bind_some, moveAll_singleton,
        nextMoved]

/-- Calls of `showNext` go around the album. -/
theorem showsAt_replicate (listed : player.album ≠ [])
    (index : player.albumIndex + 1 = position)
    (atMost : position ≤ player.album.length) (calls : Nat) :
    ∃ reached,
      player.moveAll (List.replicate (calls + 1) .showNext) =
          some reached ∧
        reached.ShowsAt player.album
          ((calls + position) % player.album.length) := by
  induction calls with
  | zero =>
      rw [Nat.zero_add 1, Nat.zero_add position]
      exact showsAt_showNext listed index atMost
  | succ calls inductionHypothesis =>
      obtain ⟨reached, moved, shows⟩ := inductionHypothesis
      have reachedIndex :
          reached.albumIndex + 1 =
            ((calls + position) % player.album.length + 1 : Nat) := by
        rw [shows.index]
        rfl
      have reachedListed : reached.album ≠ [] := by
        rw [shows.listed]
        exact listed
      have reachedAtMost :
          (calls + position) % player.album.length + 1 ≤
            reached.album.length := by
        rw [shows.listed]
        exact shows.inside
      obtain ⟨after, nextMoved, nextShows⟩ :=
        showsAt_showNext reachedListed reachedIndex reachedAtMost
      refine ⟨after, ?_, ?_⟩
      · rw [List.replicate_succ', moveAll_append, moved, Option.bind_some,
          moveAll_singleton]
        exact nextMoved
      · rw [shows.listed, Nat.mod_add_mod] at nextShows
        rw [Nat.add_right_comm]
        exact nextShows

/-- The items that are shown are the album, rotated. -/
theorem visitsAlbum_of_index (listed : player.album ≠ [])
    (index : player.albumIndex + 1 = position)
    (atMost : position ≤ player.album.length) : player.VisitsAlbum := by
  have rotated :
      (List.range player.album.length).map
          (fun calls =>
            (player.moveAll (List.replicate (calls + 1) .showNext)).bind
              currentItem) =
        (player.album.rotate position).map some := by
    apply List.ext_getElem
    · simp
    · intro calls inRange inRotation
      rw [List.length_map, List.length_range] at inRange
      obtain ⟨reached, moved, shows⟩ :=
        showsAt_replicate listed index atMost calls
      rw [List.getElem_map, List.getElem_map, List.getElem_range, moved,
        Option.bind_some, shows.shown, List.getElem_rotate,
        List.getElem?_eq_getElem shows.inside]
  unfold VisitsAlbum
  dsimp only
  rw [rotated]
  exact (player.album.rotate_perm position).map some

/-- From an item of the album the call back returns to it. -/
theorem back_of_index {photo : BaseItemDto UUID}
    (index : player.albumIndex = position)
    (found : player.album[position]? = some photo) :
    ∃ back,
      player.moveAll [.showNext, .showPrevious] = some back ∧
        back.albumIndex = player.albumIndex ∧
        back.currentItem = some photo := by
  obtain ⟨inside, _⟩ := List.getElem?_eq_some_iff.mp found
  have listed : player.album ≠ [] :=
    List.ne_nil_of_length_pos (Nat.zero_lt_of_lt inside)
  have nextIndex : player.albumIndex + 1 = (position + 1 : Nat) := by
    rw [index]
    rfl
  obtain ⟨next, nextMoved, nextShows⟩ :=
    showsAt_showNext listed nextIndex inside
  have nextInside :
      (position + 1) % player.album.length < next.album.length := by
    rw [nextShows.listed]
    exact nextShows.inside
  obtain ⟨back, backMoved, backShows⟩ :=
    showsAt_showPrevious nextShows.index nextInside
  rw [nextShows.listed] at backShows
  have returned :
      (if (position + 1) % player.album.length = 0 then
          player.album.length - 1
        else (position + 1) % player.album.length - 1) = position := by
    rcases Nat.lt_or_eq_of_le inside with before | last
    · rw [Nat.mod_eq_of_lt before]
      simp
    · rw [← last]
      simp
  rw [returned] at backShows
  refine ⟨back, ?_, ?_, ?_⟩
  · rw [← List.singleton_append, moveAll_append, moveAll_singleton, move,
      nextMoved, Option.bind_some, moveAll_singleton, move, backMoved]
  · rw [backShows.index, index]
  · rw [backShows.shown, found]

theorem ShowsAt.returnsBack (showsAt : player.ShowsAt album position) :
    player.ReturnsBack := by
  intro item shown _
  have found : player.album[position]? = some item := by
    rw [showsAt.listed, ← showsAt.shown]
    exact shown
  obtain ⟨back, moved, index, again⟩ :=
    back_of_index showsAt.index found
  exact ⟨back, moved, index, item, again, rfl⟩

theorem ShowsAt.visitsAlbum (showsAt : player.ShowsAt album position) :
    player.VisitsAlbum := by
  have inside : position < player.album.length := by
    rw [showsAt.listed]
    exact showsAt.inside
  have index : player.albumIndex + 1 = (position + 1 : Nat) := by
    rw [showsAt.index]
    rfl
  exact
    visitsAlbum_of_index
      (List.ne_nil_of_length_pos (Nat.zero_lt_of_lt inside)) index inside

section LoadItem

variable [DecidableEq UUID] (api : ApiClient UUID) (id : UUID)

theorem indexOfFirst_cases (items : List (BaseItemDto UUID)) :
    (∃ (position : Nat) (photo : BaseItemDto UUID),
        items[position]? = some photo ∧ photo.id = id ∧
          indexOfFirst id items = position) ∨
      (∀ item ∈ items, item.id ≠ id) ∧ indexOfFirst id items = -1 := by
  unfold indexOfFirst
  cases found : items.findIdx? fun item => item.id = id with
  | none =>
      right
      refine ⟨?_, rfl⟩
      simpa using List.findIdx?_eq_none_iff.mp found
  | some position =>
      left
      obtain ⟨inside, matched, _⟩ :=
        List.findIdx?_eq_some_iff_getElem.mp found
      exact
        ⟨position, items[position], List.getElem?_eq_getElem inside,
          of_decide_eq_true matched, rfl⟩

/-- The loaded photo is shown, and it is at the index of the album or the
index is -1. -/
theorem loadItem_cases (player : PhotoPlayer UUID) :
    (player.loadItem api id).currentItem = some (api.getItem id) ∧
      (player.loadItem api id).album ≠ [] ∧
      ((∃ (position : Nat) (photo : BaseItemDto UUID),
          (player.loadItem api id).album[position]? = some photo ∧
            photo.id = id ∧
            (player.loadItem api id).albumIndex = position) ∨
        (player.loadItem api id).album =
            api.getItems (api.getItem id).parentId ∧
          (∀ item ∈ (player.loadItem api id).album, item.id ≠ id) ∧
          (player.loadItem api id).albumIndex = -1) := by
  unfold loadItem
  dsimp only
  split_ifs with empty
  · refine ⟨rfl, List.cons_ne_nil _ _, Or.inl ⟨0, api.getItem id, rfl, ?_⟩⟩
    exact ⟨api.id_getItem id, rfl⟩
  · rw [List.isEmpty_iff] at empty
    refine ⟨rfl, empty, ?_⟩
    rcases indexOfFirst_cases id
      (api.getItems (api.getItem id).parentId) with found | missing
    · exact Or.inl found
    · exact Or.inr ⟨rfl, missing⟩

variable {api id}

/-- After loading, the first `showNext` shows an item of the album. -/
theorem exists_index_loadItem (player : PhotoPlayer UUID)
    (api : ApiClient UUID) (id : UUID) :
    ∃ position : Nat,
      (player.loadItem api id).albumIndex + 1 = position ∧
        position ≤ (player.loadItem api id).album.length := by
  obtain ⟨_, _, ⟨position, photo, found, _, index⟩ | ⟨_, _, index⟩⟩ :=
    loadItem_cases api id player
  · obtain ⟨inside, _⟩ := List.getElem?_eq_some_iff.mp found
    refine ⟨position + 1, ?_, inside⟩
    rw [index]
    rfl
  · refine ⟨0, ?_, Nat.zero_le _⟩
    rw [index]
    rfl

theorem returnsBack_loadItem (player : PhotoPlayer UUID) :
    (player.loadItem api id).ReturnsBack := by
  obtain ⟨current, _, ⟨position, photo, found, photoId, index⟩ |
      ⟨_, missing, _⟩⟩ := loadItem_cases api id player
  · intro item shown _
    obtain ⟨back, moved, backIndex, again⟩ := back_of_index index found
    rw [current] at shown
    obtain rfl := Option.some.inj shown
    refine ⟨back, moved, backIndex, photo, again, ?_⟩
    rw [photoId, api.id_getItem]
  · rintro item shown ⟨photo, member, photoId⟩
    rw [current] at shown
    obtain rfl := Option.some.inj shown
    rw [api.id_getItem] at photoId
    exact absurd photoId (missing photo member)

/-- The first call shows an item of the album, unless it is `showPrevious`
and the photo was not found. -/
theorem showsAt_first {moves : List Move} {next : Move} {rest : List Move}
    (player : PhotoPlayer UUID) (opens : api.OpensCycle id moves)
    (early : next :: rest <+: moves) :
    ∃ after position, (player.loadItem api id).move next = some after ∧
      after.ShowsAt (player.loadItem api id).album position := by
  obtain ⟨current, listed, loaded⟩ := loadItem_cases api id player
  cases next with
  | showNext =>
      obtain ⟨position, index, atMost⟩ :=
        exists_index_loadItem player api id
      obtain ⟨after, moved, shows⟩ := showsAt_showNext listed index atMost
      exact ⟨after, _, moved, shows⟩
  | showPrevious =>
      rcases loaded with ⟨position, photo, found, _, index⟩ |
        ⟨answered, missing, _⟩
      · obtain ⟨inside, _⟩ := List.getElem?_eq_some_iff.mp found
        obtain ⟨after, moved, shows⟩ := showsAt_showPrevious index inside
        exact ⟨after, _, moved, shows⟩
      · rcases opens with empty | ⟨item, member, itemId⟩ | otherwise
        · rw [answered] at listed
          exact absurd empty listed
        · rw [← answered] at member
          exact absurd itemId (missing item member)
        · obtain ⟨later, rfl⟩ := early
          exact absurd rfl otherwise

/-- A photo that was not found has no item before it. -/
theorem showPrevious_missing (player : PhotoPlayer UUID)
    (listed : api.getItems (api.getItem id).parentId ≠ [])
    (missing :
      ∀ item ∈ api.getItems (api.getItem id).parentId, item.id ≠ id) :
    (player.loadItem api id).showPrevious = none := by
  obtain ⟨_, loaded, ⟨position, photo, found, photoId, _⟩ |
      ⟨_, _, index⟩⟩ := loadItem_cases api id player
  · have answered :
        (player.loadItem api id).album =
          api.getItems (api.getItem id).parentId := by
      unfold loadItem
      dsimp only
      rw [if_neg (by simpa using listed)]
    rw [answered] at found
    exact absurd photoId (missing photo (List.mem_of_getElem? found))
  · exact showPrevious_of_missing loaded index

end LoadItem

/-- After loading an album the calls move on a cycle exactly if the album is
empty or contains the photo, or the first call is not `showPrevious`. -/
theorem navigates_cycle_iff [DecidableEq UUID] (player : PhotoPlayer UUID)
    (api : ApiClient UUID) (id : UUID) (moves : List Move) :
    (player.loadItem api id).NavigatesCycle moves ↔
      api.OpensCycle id moves := by
  constructor
  · intro navigates
    by_contra closed
    unfold ApiClient.OpensCycle at closed
    dsimp only at closed
    rw [not_or, not_or, not_not] at closed
    obtain ⟨listed, missing, first⟩ := closed
    obtain ⟨rest, rfl⟩ := List.head?_eq_some_iff.mp first
    obtain ⟨reached, moved, _⟩ :=
      navigates [.showPrevious] (List.prefix_append _ rest)
    have absent :
        ∀ item ∈ api.getItems (api.getItem id).parentId, item.id ≠ id :=
      fun item member itemId => missing ⟨item, member, itemId⟩
    rw [moveAll_singleton, move, showPrevious_missing player listed absent]
      at moved
    exact Option.some_ne_none reached moved.symm
  · intro opens early isEarly
    cases early with
    | nil =>
        obtain ⟨_, listed, _⟩ := loadItem_cases api id player
        obtain ⟨position, index, atMost⟩ :=
          exists_index_loadItem player api id
        refine ⟨player.loadItem api id, rfl, ?_, ?_, ?_⟩
        · exact absurd rfl
        · exact returnsBack_loadItem player
        · exact visitsAlbum_of_index listed index atMost
    | cons next rest =>
        obtain ⟨after, position, moved, shows⟩ :=
          showsAt_first player opens isEarly
        obtain ⟨reached, last, movedAll, reachedShows⟩ :=
          shows.movedAll rest
        refine ⟨reached, ?_, ?_, ?_, ?_⟩
        · rw [← List.singleton_append, moveAll_append, moveAll_singleton,
            moved, Option.bind_some, movedAll]
        · intro _
          exact reachedShows.showsIndex
        · exact reachedShows.returnsBack
        · exact reachedShows.visitsAlbum

/-- An album of one other photo. -/
def otherAlbum : ApiClient Nat where
  getItem := fun id => ⟨id, some 9⟩
  getItems := fun _ => [⟨2, some 9⟩]
  id_getItem := fun _ => rfl

theorem previous_of_missing_throws :
    ¬(created.loadItem otherAlbum 1).NavigatesCycle [.showPrevious] := by
  intro navigates
  obtain ⟨reached, moved, _⟩ :=
    navigates [.showPrevious] (List.prefix_refl _)
  have thrown :
      (created.loadItem otherAlbum 1).moveAll [.showPrevious] = none := by
    decide
  rw [thrown] at moved
  exact Option.some_ne_none reached moved.symm

end PhotoPlayer

end JellyfinTv.Photo
