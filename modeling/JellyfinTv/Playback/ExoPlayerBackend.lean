import JellyfinTv.Library.Runs
import JellyfinTv.Queue.Loading

/-!
# The player behind the queue

`ExoPlayerBackend` keeps the list of media items of ExoPlayer: playing an
entry looks for its item and adds it at the end if there is none, and the
preload of the next entry adds an item without looking.  `MediaStreamService`
follows the current entry of the queue, and the end of a stream is answered
first by the player state and then by the queue.  Launched work is finished
before the next event.
-/

namespace JellyfinTv.Playback

open JellyfinTv.Queue JellyfinTv.Library

/-- What the resolvers answer for an entry and the hash code of a stream;
every entry has a stream. -/
structure MediaStreams (Stream : Type) where
  mediaStream : QueueEntry → Stream
  hashCode : Stream → Int

structure MediaItem where
  tag : QueueEntry
  mediaId : Int
  deriving DecidableEq, Repr

inductive PlaybackState where
  | idle
  | ready
  | ended
  deriving DecidableEq, Repr

/-- The player with its media items.  `pausedAtEnd` says that the current item
has been played to its end and nothing else was started since. -/
structure ExoPlayer where
  mediaItems : List MediaItem
  currentMediaItemIndex : Nat
  playbackState : PlaybackState
  pausedAtEnd : Bool
  deriving DecidableEq, Repr

namespace ExoPlayer

def currentMediaItem (player : ExoPlayer) : Option MediaItem :=
  player.mediaItems[player.currentMediaItemIndex]?

def addMediaItem (item : MediaItem) (player : ExoPlayer) : ExoPlayer :=
  { player with mediaItems := player.mediaItems ++ [item] }

/-- Without the first item the others move down; if it was the current one,
the player goes on with the item after it. -/
def removeFirstMediaItem (player : ExoPlayer) : ExoPlayer :=
  { player with
    mediaItems := player.mediaItems.tail
    currentMediaItemIndex := player.currentMediaItemIndex - 1
    pausedAtEnd := player.currentMediaItemIndex ≠ 0 && player.pausedAtEnd }

def prepare (player : ExoPlayer) : ExoPlayer :=
  { player with
    playbackState :=
      match player.playbackState with
      | .idle => .ready
      | state => state }

def seekTo (index : Nat) (player : ExoPlayer) : ExoPlayer :=
  { player with
    currentMediaItemIndex := index
    playbackState :=
      match player.playbackState with
      | .ended => .ready
      | state => state
    pausedAtEnd := false }

/-- A player that paused at the end of an item continues with the next one. -/
def play (player : ExoPlayer) : ExoPlayer :=
  if player.pausedAtEnd ∧ player.playbackState = .ready ∧
      player.currentMediaItemIndex + 1 < player.mediaItems.length then
    { player with
      currentMediaItemIndex := player.currentMediaItemIndex + 1
      pausedAtEnd := false }
  else
    player

def stop (player : ExoPlayer) : ExoPlayer :=
  { player with playbackState := .idle, pausedAtEnd := false }

/-- The current item ends; only the last one ends the playback. -/
def endMediaItem (player : ExoPlayer) : ExoPlayer :=
  { player with
    playbackState :=
      if player.currentMediaItemIndex + 1 < player.mediaItems.length then
        .ready
      else
        .ended
    pausedAtEnd := true }

end ExoPlayer

structure ExoPlayerBackend (Stream : Type) where
  exoPlayer : ExoPlayer
  currentStream : Option Stream
  deriving DecidableEq, Repr

def MEDIA_ITEM_COUNT_MAX : Nat := 10

/-- The loop that removes excessive items from the start. -/
def removeExcessive : Nat → ExoPlayer → ExoPlayer
  | 0, player => player
  | fuel + 1, player =>
      if player.mediaItems.length > MEDIA_ITEM_COUNT_MAX - 1 then
        removeExcessive fuel player.removeFirstMediaItem
      else
        player

section Backend

variable {Stream : Type} [DecidableEq Stream]
variable (streams : MediaStreams Stream)

def MediaStreams.mediaId (entry : QueueEntry) : Int :=
  streams.hashCode (streams.mediaStream entry)

def prepareItem (item : QueueEntry) (player : ExoPlayer) : ExoPlayer :=
  let mediaItem := ⟨item, streams.mediaId item⟩
  let shortened := removeExcessive player.mediaItems.length player
  (shortened.addMediaItem mediaItem).prepare

/-- The seek of `playItem`: nothing is done if the item is the current one. -/
def seekToPrepared (preparedItemIndex : Nat) (player : ExoPlayer) :
    ExoPlayer :=
  if preparedItemIndex + 1 = player.currentMediaItemIndex then
    player.seekTo (player.currentMediaItemIndex - 1)
  else if preparedItemIndex = player.currentMediaItemIndex + 1 then
    player.seekTo (player.currentMediaItemIndex + 1)
  else if preparedItemIndex = player.currentMediaItemIndex then
    player
  else
    player.seekTo preparedItemIndex

/-- The player with the item in its list, and the index of the item. -/
def ensurePrepared (item : QueueEntry) (player : ExoPlayer) :
    ExoPlayer × Nat :=
  match player.mediaItems.findIdx? fun other =>
      other.mediaId = streams.mediaId item with
  | some index => (player, index)
  | none =>
      let prepared := prepareItem streams item player
      (prepared, prepared.mediaItems.length - 1)

def playItem (item : QueueEntry) (backend : ExoPlayerBackend Stream) :
    ExoPlayerBackend Stream :=
  let stream := streams.mediaStream item
  if backend.currentStream = some stream then
    backend
  else
    let (player, preparedItemIndex) :=
      ensurePrepared streams item backend.exoPlayer
    { exoPlayer := (seekToPrepared preparedItemIndex player).play
      currentStream := some stream }

namespace ExoPlayerBackend

def play (backend : ExoPlayerBackend Stream) : ExoPlayerBackend Stream :=
  let player := backend.exoPlayer
  let restarted :=
    if player.playbackState = .ended then
      player.seekTo player.currentMediaItemIndex
    else
      player
  { backend with exoPlayer := restarted.play }

def stop (backend : ExoPlayerBackend Stream) : ExoPlayerBackend Stream :=
  { exoPlayer := backend.exoPlayer.stop
    currentStream := none }

end ExoPlayerBackend

structure PlaybackManager (Stream : Type) where
  queue : FixedQueue
  backend : ExoPlayerBackend Stream

/-- The collector of the current entry in `MediaStreamService`. -/
def entryChanged (entry : Option QueueEntry)
    (backend : ExoPlayerBackend Stream) : ExoPlayerBackend Stream :=
  match entry with
  | none => backend.stop
  | some entry => playItem streams entry backend

/-- A call of the queue, and what follows if it changes the entry. -/
def callQueue (operation : Operation FixedSupplier)
    (playback : PlaybackManager Stream) : PlaybackManager Stream :=
  let queue := Queue.step playback.queue operation
  { queue := queue
    backend :=
      if queue.entry = playback.queue.entry then
        playback.backend
      else
        entryChanged streams queue.entry playback.backend }

/-- What `peekNext` answers with its default arguments. -/
def peekedEntry (queue : FixedQueue) : Option QueueEntry :=
  match (peekNext 1 true false).run queue with
  | .ok entries _ => entries.head?
  | .error _ _ => none

def preloadNextEntry (playback : PlaybackManager Stream) :
    PlaybackManager Stream where
  queue := Queue.step playback.queue (.peekNext 1 true false)
  backend :=
    match peekedEntry playback.queue with
    | none => playback.backend
    | some nextItem =>
        { playback.backend with
          exoPlayer :=
            prepareItem streams nextItem playback.backend.exoPlayer }

/-- The listener of the player state comes before the one of the queue.  An
end is reported for a current stream only. -/
def mediaStreamEnd (playback : PlaybackManager Stream) :
    PlaybackManager Stream :=
  match playback.backend.currentStream with
  | none => playback
  | some _ =>
      let ended :=
        { playback.backend with
          exoPlayer := playback.backend.exoPlayer.endMediaItem }
      let repeated :=
        if playback.queue.repeatMode ≠ .none then ended.play else ended
      callQueue streams .mediaStreamEnd { playback with backend := repeated }

end Backend

inductive Event where
  | call (operation : Operation FixedSupplier)
  | mediaStreamEnd
  | preload

section Runs

variable {Stream : Type} [DecidableEq Stream]
variable (streams : MediaStreams Stream)

def step (playback : PlaybackManager Stream) : Event → PlaybackManager Stream
  | .call operation => callQueue streams operation playback
  | .mediaStreamEnd => mediaStreamEnd streams playback
  | .preload => preloadNextEntry streams playback

def PlaybackManager.fresh (order : PlaybackOrder) (mode : RepeatMode)
    (random : Queue.Random) : PlaybackManager Stream where
  queue := QueueService.fresh order mode random
  backend :=
    { exoPlayer :=
        { mediaItems := []
          currentMediaItemIndex := 0
          playbackState := .idle
          pausedAtEnd := false }
      currentStream := none }

end Runs

end JellyfinTv.Playback
