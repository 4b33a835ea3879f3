import JellyfinTv.Playback.Alignment

/-!
# Preloads and the item that is played

`prepareItem` removes items from the start of a full list, whatever the player
is doing; `playItem` relies on the item of the current stream being there.
Apart from the queue, any order of the two calls keeps the item that is played
exactly if no preload meets a full list at its first item.
-/

namespace JellyfinTv.Playback

open JellyfinTv.Queue JellyfinTv.Library

variable {Stream : Type}

/-- The calls of the backend that change the list of media items. -/
inductive PlaylistCall where
  | prepareItem (item : QueueEntry)
  | playItem (item : QueueEntry)
  deriving DecidableEq, Repr

namespace ExoPlayerBackend

/-- A backend whose player has no items. -/
def empty : ExoPlayerBackend Stream where
  exoPlayer :=
    { mediaItems := []
      currentMediaItemIndex := 0
      playbackState := .idle
      pausedAtEnd := false }
  currentStream := none

def maintain [DecidableEq Stream] (streams : MediaStreams Stream)
    (backend : ExoPlayerBackend Stream) :
    PlaylistCall → ExoPlayerBackend Stream
  | .prepareItem item =>
      { backend with exoPlayer := prepareItem streams item backend.exoPlayer }
  | .playItem item => playItem streams item backend

end ExoPlayerBackend

/-- The stream of the entry that the current media item was made for. -/
def ExoPlayer.playedStream (streams : MediaStreams Stream)
    (player : ExoPlayer) : Option Stream :=
  player.currentMediaItem.map fun item => streams.mediaStream item.tag

/-- The current item is the one it was: as many items were removed in front of
it as are missing. -/
def ExoPlayer.KeepsCurrent (before after : ExoPlayer) : Prop :=
  ∀ current, before.currentMediaItem = some current →
    after.currentMediaItem = some current ∧
      after.currentMediaItemIndex +
          (before.mediaItems.length + 1 - after.mediaItems.length) =
        before.currentMediaItemIndex

/-- A call keeps the list short; after `playItem` the item of the entry is
played, and `prepareItem` leaves the current item alone. -/
structure Maintains [DecidableEq Stream] (streams : MediaStreams Stream)
    (backend : ExoPlayerBackend Stream) (call : PlaylistCall) : Prop where
  bounded :
    (backend.maintain streams call).exoPlayer.mediaItems.length ≤
      MEDIA_ITEM_COUNT_MAX
  played :
    ∀ item, call = .playItem item →
      (backend.maintain streams call).exoPlayer.playedStream streams =
        some (streams.mediaStream item)
  kept :
    ∀ item, call = .prepareItem item →
      backend.exoPlayer.KeepsCurrent
        (backend.maintain streams call).exoPlayer

/-- A preload finds room in the list or an item that was played before. -/
def LeavesRoom (backend : ExoPlayerBackend Stream) : PlaylistCall → Prop
  | .prepareItem _ =>
      backend.exoPlayer.mediaItems.length < MEDIA_ITEM_COUNT_MAX ∨
        0 < backend.exoPlayer.currentMediaItemIndex
  | .playItem _ => True

instance (backend : ExoPlayerBackend Stream) (call : PlaylistCall) :
    Decidable (LeavesRoom backend call) :=
  match call with
  | .prepareItem _ => inferInstanceAs (Decidable (_ ∨ _))
  | .playItem _ => inferInstanceAs (Decidable True)

/-- The list is short and well formed, the player has not stopped by itself,
and it plays the current stream. -/
structure Playing (streams : MediaStreams Stream)
    (backend : ExoPlayerBackend Stream) : Prop where
  wellFormed : ∃ entries, WellFormed streams entries backend.exoPlayer
  bounded : backend.exoPlayer.mediaItems.length ≤ MEDIA_ITEM_COUNT_MAX
  running : backend.exoPlayer.pausedAtEnd = false
  current :
    ∀ stream, backend.currentStream = some stream →
      backend.exoPlayer.playedStream streams = some stream

section Player

variable (streams : MediaStreams Stream) {player : ExoPlayer}

theorem prepareItem_length (item : QueueEntry) (player : ExoPlayer) :
    (prepareItem streams item player).mediaItems.length + player.excess =
      player.mediaItems.length + 1 := by
  have removed : player.excess ≤ player.mediaItems.length :=
    Nat.sub_le _ _
  rw [prepareItem_mediaItems, List.length_append, List.length_drop,
    List.length_singleton]
  omega

theorem prepareItem_bounded
    (bounded : player.mediaItems.length ≤ MEDIA_ITEM_COUNT_MAX)
    (item : QueueEntry) :
    (prepareItem streams item player).mediaItems.length ≤
      MEDIA_ITEM_COUNT_MAX := by
  have length := prepareItem_length streams item player
  simp only [ExoPlayer.excess, MEDIA_ITEM_COUNT_MAX] at length bounded ⊢
  omega

theorem excess_le_iff
    (bounded : player.mediaItems.length ≤ MEDIA_ITEM_COUNT_MAX) :
    player.excess ≤ player.currentMediaItemIndex ↔
      player.mediaItems.length < MEDIA_ITEM_COUNT_MAX ∨
        0 < player.currentMediaItemIndex := by
  simp only [ExoPlayer.excess, MEDIA_ITEM_COUNT_MAX] at bounded ⊢
  omega

/-- A preload keeps the current item if and only if it removes no item, or one
that was played before. -/
theorem keepsCurrent_prepareItem_iff
    (bounded : player.mediaItems.length ≤ MEDIA_ITEM_COUNT_MAX)
    (inside :
      player.currentMediaItemIndex ≤ player.mediaItems.length - 1)
    (item : QueueEntry) :
    player.KeepsCurrent (prepareItem streams item player) ↔
      player.mediaItems.length < MEDIA_ITEM_COUNT_MAX ∨
        0 < player.currentMediaItemIndex := by
  have length := prepareItem_length streams item player
  have index :
      (prepareItem streams item player).currentMediaItemIndex =
        player.currentMediaItemIndex - player.excess :=
    prepareItem_currentMediaItemIndex item player
  rw [← excess_le_iff bounded]
  constructor
  · intro keeps
    cases present : player.currentMediaItem with
    | none =>
        have empty : player.mediaItems.length = 0 := by
          have beyond := List.getElem?_eq_none_iff.mp present
          omega
        simp [ExoPlayer.excess, empty]
    | some current =>
        have follows := (keeps current present).2
        omega
  · intro early current present
    refine ⟨?_, by omega⟩
    rw [currentMediaItem_prepareItem present, if_neg (by omega)]

/-- The item that is found or added has the media id of the entry. -/
theorem ensurePrepared_mediaId (item : QueueEntry) (player : ExoPlayer) :
    (ensurePrepared streams item player).1.mediaItems[
        (ensurePrepared streams item player).2]?.map MediaItem.mediaId =
      some (streams.mediaId item) := by
  unfold ensurePrepared
  split
  · rename_i index found
    obtain ⟨inside, same, _⟩ := List.findIdx?_eq_some_iff_getElem.mp found
    have located : player.mediaItems[index]? = some player.mediaItems[index] :=
      List.getElem?_eq_getElem inside
    simp only [located, Option.map_some]
    exact congrArg some (of_decide_eq_true same)
  · simp only
    rw [prepareItem_mediaItems, List.length_append, List.length_singleton,
      Nat.add_sub_cancel, List.getElem?_append_right le_rfl, Nat.sub_self]
    rfl

theorem ensurePrepared_running (running : player.pausedAtEnd = false)
    (item : QueueEntry) :
    (ensurePrepared streams item player).1.pausedAtEnd = false := by
  unfold ensurePrepared
  split
  · exact running
  · rw [Bool.eq_false_iff]
    intro paused
    have before := prepareItem_pausedAtEnd item player paused
    rw [running] at before
    cases before

theorem ensurePrepared_bounded
    (bounded : player.mediaItems.length ≤ MEDIA_ITEM_COUNT_MAX)
    (item : QueueEntry) :
    (ensurePrepared streams item player).1.mediaItems.length ≤
      MEDIA_ITEM_COUNT_MAX := by
  unfold ensurePrepared
  split
  · exact bounded
  · exact prepareItem_bounded streams bounded item

theorem seekToPrepared_running (running : player.pausedAtEnd = false)
    (index : Nat) :
    (seekToPrepared index player).play.pausedAtEnd = false := by
  have sought : (seekToPrepared index player).pausedAtEnd = false := by
    unfold seekToPrepared
    split_ifs
    · rfl
    · rfl
    · exact running
    · rfl
  rw [play_eq_self (Or.inl sought)]
  exact sought

end Player

section Backend

variable [DecidableEq Stream] {streams : MediaStreams Stream}
variable {backend : ExoPlayerBackend Stream} {item : QueueEntry}

/-- Playing an entry that is not the current one leads to an item of its
stream. -/
theorem currentMediaItem_mediaId_playItem
    (running : backend.exoPlayer.pausedAtEnd = false)
    (other : backend.currentStream ≠ some (streams.mediaStream item)) :
    (playItem streams item backend).exoPlayer.currentMediaItem.map
        MediaItem.mediaId = some (streams.mediaId item) := by
  have still := ensurePrepared_running streams running item
  have resting :
      (ensurePrepared streams item backend.exoPlayer).2 =
          (ensurePrepared streams item
            backend.exoPlayer).1.currentMediaItemIndex →
        (ensurePrepared streams item backend.exoPlayer).1.pausedAtEnd =
            false ∨
          (ensurePrepared streams item backend.exoPlayer).2 + 1 =
            (ensurePrepared streams item
              backend.exoPlayer).1.mediaItems.length :=
    fun _ => Or.inl still
  obtain ⟨items, position⟩ := play_seekToPrepared resting
  rw [playItem_exoPlayer other, ExoPlayer.currentMediaItem, items, position]
  exact ensurePrepared_mediaId streams item backend.exoPlayer

theorem playItem_bounded
    (bounded : backend.exoPlayer.mediaItems.length ≤ MEDIA_ITEM_COUNT_MAX)
    (running : backend.exoPlayer.pausedAtEnd = false) (item : QueueEntry) :
    (playItem streams item backend).exoPlayer.mediaItems.length ≤
      MEDIA_ITEM_COUNT_MAX := by
  by_cases current :
      backend.currentStream = some (streams.mediaStream item)
  · rw [playItem, if_pos current]
    exact bounded
  · have still := ensurePrepared_running streams running item
    rw [playItem_exoPlayer current,
      (play_seekToPrepared fun _ => Or.inl still).1]
    exact ensurePrepared_bounded streams bounded item

theorem playItem_running
    (running : backend.exoPlayer.pausedAtEnd = false) (item : QueueEntry) :
    (playItem streams item backend).exoPlayer.pausedAtEnd = false := by
  by_cases current :
      backend.currentStream = some (streams.mediaStream item)
  · rw [playItem, if_pos current]
    exact running
  · rw [playItem_exoPlayer current]
    exact seekToPrepared_running
      (ensurePrepared_running streams running item) _

omit [DecidableEq Stream] in
theorem WellFormed.mono {entries more : List QueueEntry}
    {player : ExoPlayer} (wellFormed : WellFormed streams entries player)
    (known : entries ⊆ more) : WellFormed streams more player where
  inside := wellFormed.inside
  tagged := fun item member =>
    ⟨known (wellFormed.tagged item member).1,
      (wellFormed.tagged item member).2⟩

omit [DecidableEq Stream] in
/-- The media id of a well-formed item says what stream it was made for. -/
theorem WellFormed.playedStream {entries : List QueueEntry}
    {player : ExoPlayer} (wellFormed : WellFormed streams entries player)
    (distinct : Function.Injective streams.hashCode)
    (found :
      player.currentMediaItem.map MediaItem.mediaId =
        some (streams.mediaId item)) :
    player.playedStream streams = some (streams.mediaStream item) := by
  cases present : player.currentMediaItem with
  | none =>
      rw [present] at found
      cases found
  | some current =>
      have tagged :=
        (wellFormed.tagged current (List.mem_of_getElem? present)).2
      rw [present, Option.map_some, Option.some.injEq, tagged] at found
      rw [ExoPlayer.playedStream, present, Option.map_some]
      exact congrArg some (distinct found)

theorem Playing.playItem (playing : Playing streams backend)
    (distinct : Function.Injective streams.hashCode) (item : QueueEntry) :
    Playing streams (playItem streams item backend) := by
  obtain ⟨entries, wellFormed⟩ := playing.wellFormed
  have played :
      WellFormed streams (item :: entries)
        (Playback.playItem streams item backend).exoPlayer :=
    (wellFormed.mono (List.subset_cons_self item entries)).playItem
      List.mem_cons_self
  refine ⟨⟨_, played⟩, playItem_bounded playing.bounded playing.running item,
    playItem_running playing.running item, ?_⟩
  intro stream current
  by_cases same : backend.currentStream = some (streams.mediaStream item)
  · rw [Playback.playItem, if_pos same] at current ⊢
    exact playing.current stream current
  · rw [playItem_currentStream, Option.some.injEq] at current
    rw [← current]
    exact played.playedStream distinct
      (currentMediaItem_mediaId_playItem playing.running same)

theorem Playing.playedStream_playItem (playing : Playing streams backend)
    (distinct : Function.Injective streams.hashCode) (item : QueueEntry) :
    (Playback.playItem streams item backend).exoPlayer.playedStream
        streams = some (streams.mediaStream item) :=
  (playing.playItem distinct item).current _
    (playItem_currentStream item backend)

theorem Playing.prepareItem (playing : Playing streams backend)
    (room : LeavesRoom backend (.prepareItem item)) :
    Playing streams (backend.maintain streams (.prepareItem item)) := by
  obtain ⟨entries, wellFormed⟩ := playing.wellFormed
  have prepared :
      WellFormed streams (item :: entries)
        (Playback.prepareItem streams item backend.exoPlayer) :=
    (wellFormed.mono (List.subset_cons_self item entries)).prepareItem
      List.mem_cons_self
  refine ⟨⟨_, prepared⟩, prepareItem_bounded streams playing.bounded item,
    ?_, ?_⟩
  · rw [Bool.eq_false_iff]
    intro paused
    have before := prepareItem_pausedAtEnd item backend.exoPlayer paused
    rw [playing.running] at before
    cases before
  · intro stream current
    have played := playing.current stream current
    have keeps :=
      (keepsCurrent_prepareItem_iff streams playing.bounded
        wellFormed.inside item).mpr room
    cases present : backend.exoPlayer.currentMediaItem with
    | none =>
        rw [ExoPlayer.playedStream, present] at played
        cases played
    | some media =>
        rw [ExoPlayer.playedStream, present] at played
        rw [ExoPlayer.playedStream]
        simp only [ExoPlayerBackend.maintain]
        rw [(keeps media present).1]
        exact played

theorem maintains_iff (playing : Playing streams backend)
    (distinct : Function.Injective streams.hashCode) (call : PlaylistCall) :
    Maintains streams backend call ↔ LeavesRoom backend call := by
  obtain ⟨entries, wellFormed⟩ := playing.wellFormed
  cases call with
  | prepareItem item =>
      have keeps :=
        keepsCurrent_prepareItem_iff streams playing.bounded
          wellFormed.inside item
      constructor
      · intro maintains
        exact keeps.mp (maintains.kept item rfl)
      · intro room
        refine ⟨prepareItem_bounded streams playing.bounded item, ?_, ?_⟩
        · intro other same
          cases same
        · rintro other ⟨⟩
          exact keeps.mpr room
  | playItem item =>
      refine iff_of_true ⟨?_, ?_, ?_⟩ trivial
      · exact playItem_bounded playing.bounded playing.running item
      · rintro other ⟨⟩
        exact playing.playedStream_playItem distinct item
      · intro other same
        cases same

end Backend

theorem playing_empty (streams : MediaStreams Stream) :
    Playing streams (ExoPlayerBackend.empty : ExoPlayerBackend Stream) where
  wellFormed := by
    refine ⟨[], le_rfl, ?_⟩
    intro item member
    cases member
  bounded := Nat.zero_le _
  running := rfl
  current := by
    intro stream current
    cases current

/-- The player keeps a short list and its current item through any calls if
and only if no preload meets a full list at its first item. -/
theorem playlist_maintained_iff [DecidableEq Stream]
    (streams : MediaStreams Stream)
    (distinct : Function.Injective streams.hashCode)
    (calls : List PlaylistCall) :
    Admitted (ExoPlayerBackend.maintain streams) (Maintains streams)
        .empty calls ↔
      Admitted (ExoPlayerBackend.maintain streams) LeavesRoom .empty
        calls := by
  refine admitted_iff_of_invariant ?_ ?_ (playing_empty streams) calls
  · intro backend call playing
    exact maintains_iff playing distinct call
  · intro backend call playing room
    cases call with
    | prepareItem item =>
        exact playing.prepareItem room
    | playItem item =>
        exact playing.playItem distinct item

theorem preloads_behind_second_item_maintain :
    Admitted (ExoPlayerBackend.maintain numbered) (Maintains numbered)
      .empty
      [.playItem ⟨0⟩, .prepareItem ⟨1⟩, .playItem ⟨1⟩, .prepareItem ⟨2⟩] := by
  have distinct : Function.Injective numbered.hashCode :=
    fun _ _ same => Int.ofNat.inj same
  apply (playlist_maintained_iff numbered distinct _).mpr
  decide

/-- The first item is played while the next one is preloaded ten times. -/
def repeatedPreloads : List PlaylistCall :=
  .playItem ⟨0⟩ :: List.replicate 10 (.prepareItem ⟨1⟩)

/-- The tenth preload removes the item that is played. -/
theorem tenth_preload_removes_current :
    (run (ExoPlayerBackend.maintain numbered) .empty
        (repeatedPreloads.take 10)).exoPlayer.currentMediaItem.map
          MediaItem.tag = some ⟨0⟩ ∧
      (run (ExoPlayerBackend.maintain numbered) .empty
        repeatedPreloads).exoPlayer.currentMediaItem.map
          MediaItem.tag = some ⟨1⟩ ∧
      ¬Admitted (ExoPlayerBackend.maintain numbered) (Maintains numbered)
        .empty repeatedPreloads := by
  refine ⟨by decide, by decide, ?_⟩
  intro maintained
  have last :=
    ((admitted_append _ (repeatedPreloads.take 10)
      (repeatedPreloads.drop 10)).mp maintained).2.1
  have kept := last.kept ⟨1⟩ rfl _ rfl
  exact absurd kept.2 (by decide)

end JellyfinTv.Playback
