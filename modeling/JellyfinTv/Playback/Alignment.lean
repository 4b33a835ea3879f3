import JellyfinTv.Playback.ExoPlayerBackend
import JellyfinTv.Queue.Cursor
import JellyfinTv.Queue.Navigation

/-!
# The player and the queue on the same entry

The current item of the player carries the entry it was made for.  It is the
current entry of the queue after every event except two: a repeated stream end
in the middle of the list goes on with the item behind it, and a preload into a
full list removes the current item if that is among the first.
-/

namespace JellyfinTv.Playback

open JellyfinTv.Queue JellyfinTv.Queue.QueueService JellyfinTv.Library

variable {Stream : Type}

/-- If the queue has a current entry, the player is at an item of that
entry. -/
def Aligned (playback : PlaybackManager Stream) : Prop :=
  ∀ entry, playback.queue.entry = some entry →
    playback.backend.exoPlayer.currentMediaItem.map MediaItem.tag =
      some entry

/-- The number of items that `prepareItem` removes. -/
def ExoPlayer.excess (player : ExoPlayer) : Nat :=
  player.mediaItems.length - (MEDIA_ITEM_COUNT_MAX - 1)

/-- The runs over the given entries: no entry is removed, the queue is not
cleared and the ends of streams come from the player. -/
def Permitted (entries : List QueueEntry) : Event → Prop
  | .call (.addSupplier supplier) =>
      ∀ entry ∈ supplier.items, entry ∈ entries
  | .call (.removeEntry _) | .call .clear | .call .mediaStreamEnd => False
  | _ => True

/-- A repeated stream end finds no item of another entry behind the current
one, and a preload does not remove the current item unless an item of the same
entry takes its place. -/
def KeepsAligned (playback : PlaybackManager Stream) : Event → Prop
  | .call _ => True
  | .mediaStreamEnd =>
      let player := playback.backend.exoPlayer
      ∀ entry, playback.queue.entry = some entry →
        playback.queue.repeatMode ≠ .none →
          ∀ item,
            player.mediaItems[player.currentMediaItemIndex + 1]? =
                some item →
              item.tag = entry
  | .preload =>
      let player := playback.backend.exoPlayer
      ∀ entry, playback.queue.entry = some entry →
        (peekedEntry playback.queue).isSome →
          player.currentMediaItemIndex < player.excess →
            player.mediaItems[player.excess]?.map MediaItem.tag =
              some entry

/-! ## The list of the player -/

/-- The removal of excessive items keeps the last nine. -/
theorem removeExcessive_spec (fuel : Nat) (player : ExoPlayer)
    (enough : player.mediaItems.length ≤ fuel + (MEDIA_ITEM_COUNT_MAX - 1)) :
    (removeExcessive fuel player).mediaItems =
        player.mediaItems.drop player.excess ∧
      (removeExcessive fuel player).currentMediaItemIndex =
        player.currentMediaItemIndex - player.excess ∧
      ((removeExcessive fuel player).pausedAtEnd →
        player.pausedAtEnd) := by
  induction fuel generalizing player with
  | zero =>
      have none : player.excess = 0 := by
        rw [ExoPlayer.excess]
        omega
      simp [removeExcessive, none]
  | succ fuel inductionHypothesis =>
      rw [removeExcessive]
      by_cases long :
          player.mediaItems.length > MEDIA_ITEM_COUNT_MAX - 1
      · have shorter :
            player.removeFirstMediaItem.mediaItems.length =
              player.mediaItems.length - 1 := by
          simp [ExoPlayer.removeFirstMediaItem]
        have excess :
            player.excess = player.removeFirstMediaItem.excess + 1 := by
          rw [ExoPlayer.excess, ExoPlayer.excess, shorter]
          omega
        obtain ⟨items, index, paused⟩ :=
          inductionHypothesis player.removeFirstMediaItem (by omega)
        rw [if_pos long, items, index, excess]
        refine ⟨?_, ?_, ?_⟩
        · simp [ExoPlayer.removeFirstMediaItem, Nat.add_comm]
        · simp only [ExoPlayer.removeFirstMediaItem]
          omega
        · intro still
          have before := paused still
          simp only [ExoPlayer.removeFirstMediaItem, Bool.and_eq_true]
            at before
          exact before.2
      · have none : player.excess = 0 := by
          rw [ExoPlayer.excess]
          omega
        simp [if_neg long, none]

/-- The index is inside the list and each item has the media id of its
entry. -/
structure WellFormed (streams : MediaStreams Stream)
    (entries : List QueueEntry) (player : ExoPlayer) : Prop where
  inside : player.currentMediaItemIndex ≤ player.mediaItems.length - 1
  tagged :
    ∀ item ∈ player.mediaItems,
      item.tag ∈ entries ∧ item.mediaId = streams.mediaId item.tag

section Player

variable {streams : MediaStreams Stream} {entries : List QueueEntry}
variable {player : ExoPlayer} {item : QueueEntry}

theorem prepareItem_mediaItems (item : QueueEntry) (player : ExoPlayer) :
    (prepareItem streams item player).mediaItems =
      player.mediaItems.drop player.excess ++
        [⟨item, streams.mediaId item⟩] := by
  have spec := removeExcessive_spec player.mediaItems.length player (by omega)
  simp [prepareItem, ExoPlayer.addMediaItem, ExoPlayer.prepare, spec.1]

theorem prepareItem_currentMediaItemIndex (item : QueueEntry)
    (player : ExoPlayer) :
    (prepareItem streams item player).currentMediaItemIndex =
      player.currentMediaItemIndex - player.excess :=
  (removeExcessive_spec player.mediaItems.length player (by omega)).2.1

theorem prepareItem_pausedAtEnd (item : QueueEntry) (player : ExoPlayer)
    (paused : (prepareItem streams item player).pausedAtEnd) :
    player.pausedAtEnd :=
  (removeExcessive_spec player.mediaItems.length player (by omega)).2.2 paused

theorem WellFormed.prepareItem (wellFormed : WellFormed streams entries player)
    (known : item ∈ entries) :
    WellFormed streams entries (prepareItem streams item player) := by
  constructor
  · rw [prepareItem_mediaItems, prepareItem_currentMediaItemIndex]
    have inside := wellFormed.inside
    rw [List.length_append, List.length_drop, List.length_singleton]
    omega
  · intro other member
    rw [prepareItem_mediaItems] at member
    rcases List.mem_append.mp member with kept | new
    · exact wellFormed.tagged other (List.mem_of_mem_drop kept)
    · rw [List.mem_singleton.mp new]
      exact ⟨known, rfl⟩

/-- A prepared item behind the current one leaves that one in place, unless it
was removed. -/
theorem currentMediaItem_prepareItem
    {current : MediaItem} (present : player.currentMediaItem = some current) :
    (prepareItem streams item player).currentMediaItem =
      if player.currentMediaItemIndex < player.excess then
        player.mediaItems[player.excess]?
      else
        some current := by
  obtain ⟨below, _⟩ := List.getElem?_eq_some_iff.mp present
  have room : player.excess < player.mediaItems.length := by
    have length : 0 < player.mediaItems.length := by omega
    simp only [ExoPlayer.excess, MEDIA_ITEM_COUNT_MAX]
    omega
  have inDropped :
      player.currentMediaItemIndex - player.excess <
        (player.mediaItems.drop player.excess).length := by
    rw [List.length_drop]
    omega
  rw [ExoPlayer.currentMediaItem, prepareItem_mediaItems,
    prepareItem_currentMediaItemIndex, List.getElem?_append_left inDropped,
    List.getElem?_drop]
  by_cases removed : player.currentMediaItemIndex < player.excess
  · rw [if_pos removed]
    congr 1
    omega
  · rw [if_neg removed, ← present, ExoPlayer.currentMediaItem]
    congr 1
    omega

theorem play_eq_self
    (resting :
      player.pausedAtEnd = false ∨
        player.currentMediaItemIndex + 1 = player.mediaItems.length) :
    player.play = player := by
  rw [ExoPlayer.play, if_neg]
  rintro ⟨paused, -, more⟩
  rcases resting with playing | last
  · rw [playing] at paused
    contradiction
  · omega

/-- Seeking to an item and playing stays at that item. -/
theorem play_seekToPrepared {index : Nat}
    (resting :
      index = player.currentMediaItemIndex →
        player.pausedAtEnd = false ∨ index + 1 = player.mediaItems.length) :
    (seekToPrepared index player).play.mediaItems = player.mediaItems ∧
      (seekToPrepared index player).play.currentMediaItemIndex = index := by
  have sought (target : Nat) :
      (player.seekTo target).play = player.seekTo target :=
    play_eq_self (Or.inl rfl)
  unfold seekToPrepared
  split_ifs with before behind here
  · rw [sought]
    exact ⟨rfl, by simp only [ExoPlayer.seekTo]; omega⟩
  · rw [sought]
    exact ⟨rfl, behind.symm⟩
  · rw [play_eq_self (by simpa [here] using resting here)]
    exact ⟨rfl, here.symm⟩
  · rw [sought]
    exact ⟨rfl, rfl⟩

/-- No two of the entries have the same media id. -/
def DistinctIds (streams : MediaStreams Stream)
    (entries : List QueueEntry) : Prop :=
  ∀ first ∈ entries, ∀ second ∈ entries,
    streams.mediaId first = streams.mediaId second → first = second

theorem WellFormed.seekTo (wellFormed : WellFormed streams entries player)
    {index : Nat} (inside : index ≤ player.mediaItems.length - 1) :
    WellFormed streams entries (player.seekTo index) :=
  ⟨inside, wellFormed.tagged⟩

theorem WellFormed.play (wellFormed : WellFormed streams entries player) :
    WellFormed streams entries player.play := by
  unfold ExoPlayer.play
  split_ifs with continues
  · refine ⟨?_, wellFormed.tagged⟩
    have more := continues.2.2
    simp only
    omega
  · exact wellFormed

theorem WellFormed.backendPlay {backend : ExoPlayerBackend Stream}
    (wellFormed : WellFormed streams entries backend.exoPlayer) :
    WellFormed streams entries backend.play.exoPlayer := by
  by_cases ended : backend.exoPlayer.playbackState = .ended
  · simp only [ExoPlayerBackend.play, if_pos ended]
    exact (wellFormed.seekTo wellFormed.inside).play
  · simp only [ExoPlayerBackend.play, if_neg ended]
    exact wellFormed.play

theorem WellFormed.seekToPrepared
    (wellFormed : WellFormed streams entries player) {index : Nat}
    (inside : index ≤ player.mediaItems.length - 1) :
    WellFormed streams entries (seekToPrepared index player) := by
  have current := wellFormed.inside
  unfold Playback.seekToPrepared
  split_ifs with before behind here
  · exact wellFormed.seekTo (by omega)
  · exact wellFormed.seekTo (by omega)
  · exact wellFormed
  · exact wellFormed.seekTo inside

theorem WellFormed.ensurePrepared
    (wellFormed : WellFormed streams entries player)
    (known : item ∈ entries) :
    WellFormed streams entries (ensurePrepared streams item player).1 ∧
      (ensurePrepared streams item player).2 ≤
        (ensurePrepared streams item player).1.mediaItems.length - 1 := by
  unfold Playback.ensurePrepared
  split
  · rename_i index found
    obtain ⟨inside, _⟩ := List.findIdx?_eq_some_iff_getElem.mp found
    exact ⟨wellFormed, by simp only; omega⟩
  · exact ⟨wellFormed.prepareItem known, le_rfl⟩

/-- The index found is the index of an item of the entry, and the player does
not go on from there by itself. -/
theorem ensurePrepared_own (distinct : DistinctIds streams entries)
    (wellFormed : WellFormed streams entries player) (known : item ∈ entries)
    (resting :
      ∀ current, player.currentMediaItem = some current →
        current.tag = item → player.pausedAtEnd = false) :
    (ensurePrepared streams item player).1.mediaItems[
          (ensurePrepared streams item player).2]?.map MediaItem.tag =
        some item ∧
      ((ensurePrepared streams item player).2 =
          (ensurePrepared streams item player).1.currentMediaItemIndex →
        (ensurePrepared streams item player).1.pausedAtEnd = false ∨
          (ensurePrepared streams item player).2 + 1 =
            (ensurePrepared streams item player).1.mediaItems.length) := by
  unfold Playback.ensurePrepared
  split
  · rename_i index found
    obtain ⟨inside, same, _⟩ := List.findIdx?_eq_some_iff_getElem.mp found
    have located : player.mediaItems[index]? = some player.mediaItems[index] :=
      List.getElem?_eq_getElem inside
    obtain ⟨tagKnown, tagId⟩ :=
      wellFormed.tagged _ (List.getElem_mem inside)
    have own : player.mediaItems[index].tag = item := by
      apply distinct _ tagKnown _ known
      rw [← tagId]
      exact of_decide_eq_true same
    constructor
    · rw [located, Option.map_some, own]
    · intro here
      have current :
          player.currentMediaItem = some player.mediaItems[index] := by
        rw [ExoPlayer.currentMediaItem, ← located]
        exact congrArg (player.mediaItems[·]?) here.symm
      exact Or.inl (resting _ current own)
  · simp only
    constructor
    · rw [prepareItem_mediaItems, List.length_append, List.length_singleton,
        Nat.add_sub_cancel, List.getElem?_append_right le_rfl, Nat.sub_self]
      rfl
    · intro _
      right
      rw [prepareItem_mediaItems, List.length_append, List.length_singleton]
      omega

variable [DecidableEq Stream] {backend : ExoPlayerBackend Stream}

theorem playItem_currentStream (item : QueueEntry)
    (backend : ExoPlayerBackend Stream) :
    (playItem streams item backend).currentStream =
      some (streams.mediaStream item) := by
  by_cases current :
      backend.currentStream = some (streams.mediaStream item)
  · rw [playItem, if_pos current]
    exact current
  · rw [playItem, if_neg current]

theorem playItem_exoPlayer
    (other : backend.currentStream ≠ some (streams.mediaStream item)) :
    (playItem streams item backend).exoPlayer =
      (seekToPrepared (ensurePrepared streams item backend.exoPlayer).2
        (ensurePrepared streams item backend.exoPlayer).1).play := by
  rw [playItem, if_neg other]

theorem WellFormed.playItem
    (wellFormed : WellFormed streams entries backend.exoPlayer)
    (known : item ∈ entries) :
    WellFormed streams entries (playItem streams item backend).exoPlayer := by
  by_cases current :
      backend.currentStream = some (streams.mediaStream item)
  · rw [Playback.playItem, if_pos current]
    exact wellFormed
  · rw [playItem_exoPlayer current]
    obtain ⟨prepared, inside⟩ := wellFormed.ensurePrepared known
    exact (prepared.seekToPrepared inside).play

/-- Playing an entry that is not the current one leads to an item of that
entry. -/
theorem currentMediaItem_playItem (distinct : DistinctIds streams entries)
    (wellFormed : WellFormed streams entries backend.exoPlayer)
    (known : item ∈ entries)
    (other : backend.currentStream ≠ some (streams.mediaStream item))
    (resting :
      ∀ current, backend.exoPlayer.currentMediaItem = some current →
        current.tag = item → backend.exoPlayer.pausedAtEnd = false) :
    (playItem streams item backend).exoPlayer.currentMediaItem.map
        MediaItem.tag = some item := by
  obtain ⟨own, still⟩ :=
    ensurePrepared_own distinct wellFormed known resting
  obtain ⟨items, position⟩ := play_seekToPrepared still
  rw [playItem_exoPlayer other, ExoPlayer.currentMediaItem, items, position]
  exact own

end Player

/-- The cursor is on its entry and all entries are among the given ones. -/
structure Supplied (entries : List QueueEntry) (queue : FixedQueue) :
    Prop where
  points : queue.PointsAtEntry
  positioned : queue.Positioned
  contents : ∀ entry ∈ queue.contents, entry ∈ entries

section Queue

variable {entries : List QueueEntry} {queue : FixedQueue}

theorem Supplied.entry_mem (supplied : Supplied entries queue)
    {entry : QueueEntry} (current : queue.entry = some entry) :
    entry ∈ entries := by
  apply supplied.contents
  rcases supplied.points with ⟨_, none⟩ | ⟨_, _, located⟩
  · rw [current] at none
    cases none
  · rw [current] at located
    exact List.mem_append_left _ (List.mem_of_getElem? located.symm)

theorem Supplied.step_steady (supplied : Supplied entries queue)
    {operation : Operation FixedSupplier} (steady : Steady operation) :
    Supplied entries (Queue.step queue operation) := by
  have keeps := step_keeps steady queue
  refine ⟨?_, keeps.positioned supplied.positioned, ?_⟩
  · exact pointsAtEntry_movement.perform steady queue supplied.points
  · rw [keeps.contents]
    exact supplied.contents

theorem Supplied.step_call (supplied : Supplied entries queue)
    {operation : Operation FixedSupplier}
    (permitted : Permitted entries (.call operation)) :
    Supplied entries (Queue.step queue operation) := by
  cases operation using steadyCases with
  | steady operation steady =>
      exact supplied.step_steady steady
  | addSupplier supplier =>
      have keeps := step_addSupplier queue supplier
      refine ⟨?_, ?_, ?_⟩
      · exact pointsAtEntry_movement.step_addSupplier queue supplier
          supplied.points
      · exact keeps.positioned
          (positioned_withSupplier supplied.positioned supplier)
      · rw [keeps.contents,
          contents_withSupplier supplied.positioned supplier]
        intro entry member
        rcases List.mem_append.mp member with before | added
        · exact supplied.contents entry before
        · exact permitted entry added
  | removeEntry entry =>
      exact absurd permitted id
  | clear =>
      exact absurd permitted id
  | setPlaybackOrder order =>
      rw [step_setPlaybackOrder, setPlaybackOrder_frame]
      exact ⟨supplied.points, supplied.positioned, supplied.contents⟩

/-- A repeated end of the stream leaves the queue at its entry. -/
theorem Supplied.entry_mediaStreamEnd (supplied : Supplied entries queue)
    {entry : QueueEntry} (current : queue.entry = some entry)
    (repeating : queue.repeatMode ≠ .none) :
    (Queue.step queue .mediaStreamEnd).entry = some entry := by
  have mode : queue.effectiveRepeatMode true ≠ .none := repeating
  obtain ⟨selected, selects, ran⟩ := @next_repeating _ _ queue true true mode
  rcases supplied.points with ⟨_, none⟩ | ⟨start, below, located⟩
  · rw [current] at none
    cases none
  · have found : entryAt selected.contents queue.entryIndex = some entry := by
      rw [(Keeps.of_selects selects).contents, entryAt, if_pos start,
        QueueService.contents, List.getElem?_append_left (by omega),
        ← located, current]
    rw [setIndex_run, if_neg (by omega), found] at ran
    have finished :
        Queue.step queue .mediaStreamEnd =
          jump queue.entryIndex true selected := by
      simp only [Queue.step, perform, Queue.mediaStreamEnd, EStateM.run_bind,
        ran]
      rfl
    rw [finished]
    exact found

/-- Peeking throws, or it answers entries of the queue; the current entry
stays either way. -/
theorem peekNext_cases (queue : FixedQueue) :
    (∃ exception final,
      (peekNext 1 true false).run queue = .error exception final ∧
        final.entry = queue.entry) ∨
    ∃ (indices : List Int) (final : FixedQueue),
      (peekNext 1 true false).run queue =
          .ok (indices.filterMap (entryAt queue.contents)) final ∧
        final.entry = queue.entry := by
  have chosen := respects_getNextIndices 1 true false queue
  simp only [peekNext, EStateM.run_bind]
  cases outcome : (getNextIndices 1 true false).run queue with
  | error exception final =>
      rw [outcome, finalState_error] at chosen
      refine Or.inl ⟨exception, final, rfl, ?_⟩
      rw [chosen.frame]
  | ok indices selected =>
      rw [outcome, finalState_ok] at chosen
      obtain ⟨loaded, answered, loads, _⟩ := supplyEntries_run indices selected
      refine Or.inr ⟨indices, loaded, ?_, ?_⟩
      · rw [← (Keeps.of_selects chosen).contents]
        exact answered
      · rw [loads.frame, chosen.frame]

theorem entry_peekNext (queue : FixedQueue) :
    (Queue.step queue (.peekNext 1 true false)).entry = queue.entry := by
  rcases peekNext_cases queue with
    ⟨exception, final, ran, same⟩ | ⟨indices, final, ran, same⟩
  · simp only [Queue.step, perform, EStateM.run_bind, ran]
    exact same
  · simp only [Queue.step, perform, EStateM.run_bind, ran]
    exact same

theorem Supplied.peekedEntry_mem (supplied : Supplied entries queue)
    {entry : QueueEntry} (peeked : peekedEntry queue = some entry) :
    entry ∈ entries := by
  apply supplied.contents
  rcases peekNext_cases queue with
    ⟨exception, final, ran, _⟩ | ⟨indices, final, ran, _⟩
  · simp [peekedEntry, ran] at peeked
  · simp only [peekedEntry, ran] at peeked
    have member := List.mem_of_head? peeked
    obtain ⟨index, _, located⟩ := List.mem_filterMap.mp member
    rw [entryAt] at located
    split at located
    · exact List.mem_of_getElem? located
    · cases located

end Queue

/-! ## Runs -/

/-- The facts about reachable players and queues, aligned or not. -/
structure Following (streams : MediaStreams Stream)
    (entries : List QueueEntry) (playback : PlaybackManager Stream) :
    Prop where
  player : WellFormed streams entries playback.backend.exoPlayer
  queue : Supplied entries playback.queue
  stream :
    playback.backend.currentStream =
      playback.queue.entry.map streams.mediaStream
  stopped :
    playback.queue.entry = none →
      playback.backend.exoPlayer.pausedAtEnd = false

section Following

variable {streams : MediaStreams Stream}
variable {entries : List QueueEntry} {playback : PlaybackManager Stream}
variable {operation : Operation FixedSupplier}

theorem Following.preloadNextEntry
    (following : Following streams entries playback) :
    Following streams entries (preloadNextEntry streams playback) := by
  have same := entry_peekNext playback.queue
  have supplied := following.queue.step_steady
    (show Steady (.peekNext 1 true false) from trivial)
  unfold Playback.preloadNextEntry
  cases peeked : peekedEntry playback.queue with
  | none =>
      refine ⟨following.player, supplied, ?_, ?_⟩
      · rw [same]
        exact following.stream
      · rw [same]
        exact following.stopped
  | some item =>
      have known := following.queue.peekedEntry_mem peeked
      refine ⟨following.player.prepareItem known, supplied, ?_, ?_⟩
      · rw [same]
        exact following.stream
      · rw [same]
        intro none
        have playing := following.stopped none
        by_contra paused
        have before :=
          prepareItem_pausedAtEnd item playback.backend.exoPlayer
            (by simpa using paused)
        rw [playing] at before
        cases before

/-- The preload of the next entry keeps the player at the entry of the queue
exactly if it does not replace the current item by one of another entry. -/
theorem aligned_preloadNextEntry_iff (aligned : Aligned playback) :
    Aligned (Playback.preloadNextEntry streams playback) ↔
      KeepsAligned playback .preload := by
  have same := entry_peekNext playback.queue
  unfold Aligned KeepsAligned
  refine forall_congr' fun entry => ?_
  have unchanged :
      (Playback.preloadNextEntry streams playback).queue.entry =
        playback.queue.entry := same
  rw [unchanged]
  refine forall_congr' fun current => ?_
  have tag := aligned entry current
  obtain ⟨item, located, own⟩ := Option.map_eq_some_iff.mp tag
  cases peeked : peekedEntry playback.queue with
  | none =>
      simp [Playback.preloadNextEntry, peeked, tag]
  | some next =>
      simp only [Playback.preloadNextEntry, peeked, Option.isSome_some,
        forall_const]
      rw [currentMediaItem_prepareItem located]
      by_cases removed :
          playback.backend.exoPlayer.currentMediaItemIndex <
            playback.backend.exoPlayer.excess
      · simp [removed]
      · simp [removed, own]

theorem Following.currentStream_eq
    (following : Following streams entries playback) {entry : QueueEntry}
    (current : playback.queue.entry = some entry) :
    playback.backend.currentStream = some (streams.mediaStream entry) := by
  rw [following.stream, current]
  rfl

/-- The backend after an item has ended and the player state has reacted. -/
def afterEnd (playback : PlaybackManager Stream) :
    ExoPlayerBackend Stream :=
  let ended :=
    { playback.backend with
      exoPlayer := playback.backend.exoPlayer.endMediaItem }
  if playback.queue.repeatMode ≠ .none then ended.play else ended

/-- Playing after the end of an item goes on with the item behind it, or
restarts the last one. -/
theorem currentMediaItem_afterEnd_repeating
    (repeating : playback.queue.repeatMode ≠ .none) :
    (afterEnd playback).exoPlayer.currentMediaItem =
      match playback.backend.exoPlayer.mediaItems[
          playback.backend.exoPlayer.currentMediaItemIndex + 1]? with
      | some item => some item
      | none => playback.backend.exoPlayer.currentMediaItem := by
  by_cases more :
      playback.backend.exoPlayer.currentMediaItemIndex + 1 <
        playback.backend.exoPlayer.mediaItems.length
  · simp [afterEnd, repeating, ExoPlayerBackend.play,
      ExoPlayer.endMediaItem, ExoPlayer.play, ExoPlayer.currentMediaItem,
      more]
  · simp [afterEnd, repeating, ExoPlayerBackend.play,
      ExoPlayer.endMediaItem, ExoPlayer.play, ExoPlayer.seekTo,
      ExoPlayer.currentMediaItem, more]

theorem Following.afterEnd (following : Following streams entries playback)
    {entry : QueueEntry} (current : playback.queue.entry = some entry) :
    Following streams entries
      { playback with backend := afterEnd playback } := by
  have ended :
      WellFormed streams entries
        playback.backend.exoPlayer.endMediaItem :=
    ⟨following.player.inside, following.player.tagged⟩
  refine ⟨?_, following.queue, ?_, ?_⟩
  · by_cases repeating : playback.queue.repeatMode ≠ .none
    · simp only [Playback.afterEnd, if_pos repeating]
      exact ended.backendPlay
    · simp only [Playback.afterEnd, if_neg repeating]
      exact ended
  · rw [← following.stream]
    unfold Playback.afterEnd
    split_ifs <;> rfl
  · intro none
    rw [current] at none
    cases none

variable [DecidableEq Stream]

theorem callQueue_backend_of_same
    (same :
      (Queue.step playback.queue operation).entry = playback.queue.entry) :
    (callQueue streams operation playback).backend = playback.backend :=
  if_pos same

theorem Following.callQueue (following : Following streams entries playback)
    (supplied : Supplied entries (Queue.step playback.queue operation)) :
    Following streams entries (callQueue streams operation playback) := by
  unfold Playback.callQueue
  by_cases same :
      (Queue.step playback.queue operation).entry = playback.queue.entry
  · simp only [if_pos same]
    refine ⟨following.player, supplied, ?_, ?_⟩
    · rw [same]
      exact following.stream
    · rw [same]
      exact following.stopped
  · simp only [if_neg same]
    cases changed : (Queue.step playback.queue operation).entry with
    | none =>
        refine ⟨⟨following.player.inside, following.player.tagged⟩, supplied,
          ?_, fun _ => rfl⟩
        rw [changed]
        rfl
    | some entry =>
        have known := supplied.entry_mem changed
        refine ⟨following.player.playItem known, supplied, ?_, ?_⟩
        · rw [changed]
          exact playItem_currentStream entry playback.backend
        · intro none
          rw [changed] at none
          cases none

/-- A call of the queue keeps the player at the entry of the queue. -/
theorem Following.aligned_callQueue
    (distinct : DistinctIds streams entries)
    (following : Following streams entries playback)
    (supplied : Supplied entries (Queue.step playback.queue operation))
    (aligned : Aligned playback) :
    Aligned (Playback.callQueue streams operation playback) := by
  intro entry current
  have changed :
      (Queue.step playback.queue operation).entry = some entry := current
  have known := supplied.entry_mem changed
  by_cases same :
      (Queue.step playback.queue operation).entry = playback.queue.entry
  · rw [callQueue_backend_of_same same]
    exact aligned entry (same ▸ changed)
  · have played :
        (Playback.callQueue streams operation playback).backend =
          playItem streams entry playback.backend := by
      simp only [Playback.callQueue, if_neg same]
      rw [changed]
      rfl
    rw [played]
    rw [changed] at same
    apply currentMediaItem_playItem distinct following.player known
    · rw [following.stream]
      intro sameStream
      obtain ⟨previous, before, streamed⟩ :=
        Option.map_eq_some_iff.mp sameStream
      have identical : previous = entry := by
        apply distinct previous (following.queue.entry_mem before) entry known
        rw [MediaStreams.mediaId, streamed]
        rfl
      exact same (identical ▸ before.symm)
    · intro item located own
      cases before : playback.queue.entry with
      | none =>
          exact following.stopped before
      | some previous =>
          have tag := aligned previous before
          rw [located, Option.map_some, own] at tag
          exact absurd (tag.trans before.symm) same

theorem mediaStreamEnd_of_stream {stream : Stream}
    (current : playback.backend.currentStream = some stream) :
    mediaStreamEnd streams playback =
      callQueue streams .mediaStreamEnd
        { playback with backend := afterEnd playback } := by
  rw [mediaStreamEnd, current]
  rfl

/-- Without a current entry the backend is stopped, and no end is reported. -/
theorem Following.mediaStreamEnd_idle
    (following : Following streams entries playback)
    (idle : playback.queue.entry = none) :
    Playback.mediaStreamEnd streams playback = playback := by
  have stopped : playback.backend.currentStream = none := by
    rw [following.stream, idle]
    rfl
  rw [Playback.mediaStreamEnd, stopped]

theorem Following.mediaStreamEnd
    (following : Following streams entries playback) :
    Following streams entries (mediaStreamEnd streams playback) := by
  cases current : playback.queue.entry with
  | none =>
      rw [following.mediaStreamEnd_idle current]
      exact following
  | some entry =>
      rw [mediaStreamEnd_of_stream (following.currentStream_eq current)]
      apply (following.afterEnd current).callQueue
      exact following.queue.step_steady
        (show Steady .mediaStreamEnd from trivial)

/-- The end of a stream keeps the player at the entry of the queue exactly if
it is not repeated or no item of another entry is behind the current one. -/
theorem Following.aligned_mediaStreamEnd_iff
    (distinct : DistinctIds streams entries)
    (following : Following streams entries playback)
    (aligned : Aligned playback) :
    Aligned (Playback.mediaStreamEnd streams playback) ↔
      KeepsAligned playback .mediaStreamEnd := by
  cases current : playback.queue.entry with
  | none =>
      rw [following.mediaStreamEnd_idle current]
      simp [KeepsAligned, current, aligned]
  | some entry =>
      have ended := following.afterEnd current
      have tag := aligned entry current
      rw [mediaStreamEnd_of_stream (following.currentStream_eq current)]
      by_cases repeating : playback.queue.repeatMode = .none
      · have waiting :
            (Playback.afterEnd playback).exoPlayer.currentMediaItem =
              playback.backend.exoPlayer.currentMediaItem := by
          simp [Playback.afterEnd, repeating, ExoPlayer.endMediaItem,
            ExoPlayer.currentMediaItem]
        have supplied := following.queue.step_steady
          (show Steady .mediaStreamEnd from trivial)
        have still :
            Aligned
              { playback with backend := Playback.afterEnd playback } := by
          intro other otherCurrent
          rw [waiting]
          exact aligned other otherCurrent
        refine iff_of_true (ended.aligned_callQueue distinct supplied still) ?_
        intro _ _ repeated
        exact absurd repeating repeated
      · have same := following.queue.entry_mediaStreamEnd current repeating
        have item := currentMediaItem_afterEnd_repeating repeating
        have unchanged :
            (Queue.step playback.queue .mediaStreamEnd).entry =
              playback.queue.entry := by
          rw [same, current]
        have entered :
            (Playback.callQueue streams .mediaStreamEnd
              { playback with
                backend := Playback.afterEnd playback }).queue.entry =
              some entry := same
        have backend :
            (Playback.callQueue streams .mediaStreamEnd
              { playback with
                backend := Playback.afterEnd playback }).backend =
              Playback.afterEnd playback :=
          callQueue_backend_of_same unchanged
        constructor
        · intro holds other otherCurrent _ next behind
          have here := holds entry entered
          rw [backend, item, behind] at here
          rw [current] at otherCurrent
          exact Option.some.inj (here.trans otherCurrent)
        · intro keeps other otherCurrent
          rw [entered] at otherCurrent
          rw [backend, item, ← otherCurrent]
          split
          · rename_i next behind
            exact congrArg some (keeps entry current repeating next behind)
          · exact tag

theorem Following.step (following : Following streams entries playback)
    {event : Event} (permitted : Permitted entries event) :
    Following streams entries (step streams playback event) := by
  cases event with
  | call operation =>
      exact following.callQueue (following.queue.step_call permitted)
  | mediaStreamEnd =>
      exact following.mediaStreamEnd
  | preload =>
      exact following.preloadNextEntry

theorem Following.aligned_step_iff (distinct : DistinctIds streams entries)
    (following : Following streams entries playback) {event : Event}
    (permitted : Permitted entries event) (aligned : Aligned playback) :
    Aligned (Playback.step streams playback event) ↔
      KeepsAligned playback event := by
  cases event with
  | call operation =>
      have supplied := following.queue.step_call permitted
      exact iff_of_true
        (following.aligned_callQueue distinct supplied aligned) trivial
  | mediaStreamEnd =>
      exact following.aligned_mediaStreamEnd_iff distinct aligned
  | preload =>
      exact aligned_preloadNextEntry_iff aligned

end Following

theorem following_fresh (streams : MediaStreams Stream)
    (entries : List QueueEntry) (order : PlaybackOrder) (mode : RepeatMode)
    (random : Queue.Random) :
    Following streams entries (PlaybackManager.fresh order mode random) where
  player := ⟨Nat.zero_le _, fun _ member => absurd member List.not_mem_nil⟩
  queue :=
    { points := Or.inl ⟨rfl, rfl⟩
      positioned := Or.inr ⟨rfl, rfl⟩
      contents := fun _ member => absurd member List.not_mem_nil }
  stream := rfl
  stopped _ := rfl

variable [DecidableEq Stream]

/-- In every run over entries with different media ids, the player is at the
current entry of the queue after each event if and only if each event keeps it
there. -/
theorem player_aligned_iff (streams : MediaStreams Stream)
    (entries : List QueueEntry) (distinct : DistinctIds streams entries)
    (order : PlaybackOrder) (mode : RepeatMode) (random : Queue.Random)
    (events : List Event)
    (permitted : ∀ event ∈ events, Permitted entries event) :
    (∀ early, early <+: events →
      Aligned
        (run (step streams) (PlaybackManager.fresh order mode random)
          early)) ↔
      Admitted (step streams) KeepsAligned
        (PlaybackManager.fresh order mode random) events := by
  have initially :
      Aligned (PlaybackManager.fresh order mode random :
        PlaybackManager Stream) := by
    intro entry current
    cases current
  exact holds_throughout_iff_admitted
    (fun _ _ following permitted => following.step permitted)
    (fun _ _ following permitted aligned =>
      following.aligned_step_iff distinct permitted aligned)
    (following_fresh streams entries order mode random) initially
    (admitted_of_forall permitted)

/-- The streams that are told apart by the number of their entry. -/
def numbered : MediaStreams Nat where
  mediaStream entry := entry.id
  hashCode stream := stream

theorem numbered_aligned_through_repeat :
    Aligned
      (run (step numbered)
        (PlaybackManager.fresh .random .repeatEntryInfinite
          (fun index => index + 1))
        [.call (.addSupplier (.ofList [⟨0⟩, ⟨1⟩])), .mediaStreamEnd,
          .call (.next true false), .preload]) := by
  have distinct : DistinctIds numbered [⟨0⟩, ⟨1⟩] := by
    intro first _ second _ same
    cases first
    cases second
    exact congrArg QueueEntry.mk (Int.ofNat.inj same)
  have permitted :
      ∀ event ∈ [Event.call (.addSupplier (.ofList [⟨0⟩, ⟨1⟩])),
          .mediaStreamEnd, .call (.next true false), .preload],
        Permitted [⟨0⟩, ⟨1⟩] event := by
    simp [Permitted, FixedSupplier.ofList]
  refine (player_aligned_iff numbered [⟨0⟩, ⟨1⟩] distinct .random
    .repeatEntryInfinite (fun index => index + 1) _ permitted).mpr ?_ _
    List.prefix_rfl
  refine ⟨trivial, ?_, trivial, ?_, trivial⟩
  · intro entry _ _ item behind
    cases behind
  · intro entry _ _ removed
    exact absurd removed (by decide)

/-- With the next entry preloaded, a repeated stream end leaves the player at
the next entry while the queue stays at the first. -/
theorem repeated_end_plays_preloaded :
    (run (step numbered)
        (PlaybackManager.fresh .default .repeatEntryInfinite (fun _ => 0))
        [.call (.addSupplier (.ofList [⟨0⟩, ⟨1⟩])), .preload,
          .mediaStreamEnd]).queue.entry = some ⟨0⟩ ∧
      (run (step numbered)
        (PlaybackManager.fresh .default .repeatEntryInfinite (fun _ => 0))
        [.call (.addSupplier (.ofList [⟨0⟩, ⟨1⟩])), .preload,
          .mediaStreamEnd]).backend.exoPlayer.currentMediaItem.map
            MediaItem.tag = some ⟨1⟩ ∧
      ¬Aligned
        (run (step numbered)
          (PlaybackManager.fresh .default .repeatEntryInfinite (fun _ => 0))
          [.call (.addSupplier (.ofList [⟨0⟩, ⟨1⟩])), .preload,
            .mediaStreamEnd]) := by
  have current :
      (run (step numbered)
        (PlaybackManager.fresh .default .repeatEntryInfinite (fun _ => 0))
        [.call (.addSupplier (.ofList [⟨0⟩, ⟨1⟩])), .preload,
          .mediaStreamEnd]).queue.entry = some ⟨0⟩ := by
    decide
  have playing :
      (run (step numbered)
        (PlaybackManager.fresh .default .repeatEntryInfinite (fun _ => 0))
        [.call (.addSupplier (.ofList [⟨0⟩, ⟨1⟩])), .preload,
          .mediaStreamEnd]).backend.exoPlayer.currentMediaItem.map
            MediaItem.tag = some ⟨1⟩ := by
    decide
  refine ⟨current, playing, ?_⟩
  intro aligned
  have same := aligned _ current
  rw [playing] at same
  exact absurd same (by decide)

end JellyfinTv.Playback
