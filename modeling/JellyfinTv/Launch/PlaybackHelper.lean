import JellyfinTv.Library.Texts

/-!
# Starting playback

`SdkPlaybackHelper` asks the server for items, computes from their saved
positions where playback starts, and passes both on to `PlaybackLauncher`,
which opens a player.
-/

namespace JellyfinTv.Launch

open JellyfinTv.Library

/-- The kinds of items that are told apart. -/
inductive BaseItemKind where
  | movie
  | episode
  | video
  | series
  | season
  | recording
  | tvChannel
  | program
  | folder
  | boxSet
  | musicAlbum
  | musicArtist
  | playlist
  | trailer
  | other
  deriving DecidableEq, Repr

inductive MediaType where
  | audio
  | other
  deriving DecidableEq, Repr

/-- What a channel shows of the program that is on. -/
structure ProgramMetadata where
  premiereDate : Option Int
  endDate : Option Int
  officialRating : Option String
  runTimeTicks : Option Int
  deriving DecidableEq, Repr

/-- The position is the one of `userData`, if there is any. -/
structure BaseItemDto (UUID : Type) where
  id : UUID
  type : BaseItemKind
  mediaType : MediaType
  playbackPositionTicks : Option Int
  seriesId : Option UUID
  parentId : Option UUID
  partCount : Option Int
  metadata : ProgramMetadata
  currentProgram : Option ProgramMetadata
  deriving DecidableEq, Repr

structure UserPreferences where
  resumeSubtractDuration : Text
  mediaQueuingEnabled : Bool
  cinemaModeEnabled : Bool
  useExternalPlayer : Bool
  playbackRewriteVideoEnabled : Bool
  deriving DecidableEq, Repr

inductive ItemSortBy where
  | random
  | sortName
  | album
  | parentIndexNumber
  | indexNumber
  deriving DecidableEq, Repr

structure EpisodesQuery (UUID : Type) where
  seriesId : UUID
  seasonId : Option UUID
  startItemId : Option UUID
  sortBy : Option ItemSortBy
  limit : Nat

structure ItemsQuery (UUID : Type) where
  parentId : Option UUID
  albumIds : List UUID
  artistIds : List UUID
  includeItemTypes : List BaseItemKind
  mediaTypes : List MediaType
  isNotFolder : Bool
  sortBy : Option (List ItemSortBy)
  limit : Nat

/-- The answers of the server, none for a request that throws. -/
structure ApiClient (UUID : Type) where
  getItem : UUID → Option (BaseItemDto UUID)
  getItemsById : List UUID → Option (List (BaseItemDto UUID))
  getEpisodes : EpisodesQuery UUID → Option (List (BaseItemDto UUID))
  getItems : ItemsQuery UUID → Option (List (BaseItemDto UUID))
  getChannel : UUID → Option (BaseItemDto UUID)
  getIntros : UUID → Option (List (BaseItemDto UUID))
  getAdditionalPart : UUID → Option (List (BaseItemDto UUID))

variable {UUID : Type}

namespace SdkPlaybackHelper

def ITEM_QUERY_LIMIT : Nat := 150

section GetItems

variable (api : ApiClient UUID) (userPreferences : UserPreferences)

def getParts (item : BaseItemDto UUID) :
    Option (List (BaseItemDto UUID)) :=
  if item.partCount.any fun partCount => 1 < partCount then
    (api.getAdditionalPart item.id).map fun items => item :: items
  else
    some [item]

/-- Introductions have the type of trailers.  A request for them that throws
leaves them out. -/
def intros (mainItem : BaseItemDto UUID) : List (BaseItemDto UUID) :=
  ((api.getIntros mainItem.id).getD []).map fun intro =>
    { intro with type := .trailer }

/-- The items below a parent, in the order of the server unless they are
shuffled. -/
def childrenQuery (mainItem : BaseItemDto UUID)
    (includeItemTypes : List BaseItemKind) (shuffle : Bool)
    (sortBy : Option (List ItemSortBy)) : ItemsQuery UUID where
  parentId := some mainItem.id
  albumIds := []
  artistIds := []
  includeItemTypes := includeItemTypes
  mediaTypes := []
  isNotFolder := false
  sortBy := if shuffle then some [.random] else sortBy
  limit := ITEM_QUERY_LIMIT

def musicQuery (albumIds artistIds : List UUID) (shuffle : Bool) :
    ItemsQuery UUID where
  parentId := none
  albumIds := albumIds
  artistIds := artistIds
  includeItemTypes := []
  mediaTypes := [.audio]
  isNotFolder := true
  sortBy :=
    if shuffle then some [.random]
    else some [.album, .parentIndexNumber, .indexNumber, .sortName]
  limit := ITEM_QUERY_LIMIT

def episodesQuery (seriesId : UUID) (seasonId : Option UUID)
    (shuffle : Bool) : EpisodesQuery UUID where
  seriesId := seriesId
  seasonId := seasonId
  startItemId := none
  sortBy := some (if shuffle then .random else .sortName)
  limit := ITEM_QUERY_LIMIT

def getItems (mainItem : BaseItemDto UUID) (allowIntros shuffle : Bool) :
    Option (List (BaseItemDto UUID)) :=
  match mainItem.type with
  | .episode =>
      match userPreferences.mediaQueuingEnabled, mainItem.seriesId with
      | true, some seriesId =>
          api.getEpisodes
            { seriesId := seriesId
              seasonId := none
              startItemId := some mainItem.id
              sortBy := none
              limit := ITEM_QUERY_LIMIT }
      | _, _ => some [mainItem]
  | .series => api.getEpisodes (episodesQuery mainItem.id none shuffle)
  | .season => do
      api.getEpisodes
        (episodesQuery (← mainItem.seriesId) (some mainItem.id) shuffle)
  | .folder =>
      api.getItems
        (childrenQuery mainItem [.episode, .movie, .video] shuffle
          (some [.sortName]))
  | .boxSet =>
      api.getItems
        (childrenQuery mainItem [.episode, .movie, .video] shuffle none)
  | .musicAlbum => api.getItems (musicQuery [mainItem.id] [] shuffle)
  | .musicArtist => api.getItems (musicQuery [] [mainItem.id] shuffle)
  | .playlist => api.getItems (childrenQuery mainItem [] shuffle none)
  | .program => do
      let channel ← api.getItem (← mainItem.parentId)
      return [{ channel with metadata := mainItem.metadata }]
  | .tvChannel => do
      let channel ← api.getChannel mainItem.id
      match channel.currentProgram with
      | some currentProgram =>
          return [{ channel with metadata := currentProgram }]
      | none => return [channel]
  | _ => do
      let parts ← getParts api mainItem
      if allowIntros && userPreferences.cinemaModeEnabled then
        return intros api mainItem ++ parts
      else
        return parts

end GetItems

/-- `ticks`, in nanoseconds. -/
structure Sdk where
  ticks : Int → Int
  ticks_zero : ticks 0 = 0

def inWholeMilliseconds (duration : Int) : Int :=
  duration.tdiv 1000000

/-- `Long.toInt`, which keeps the lower 32 bits. -/
def toInt (value : Int) : Int :=
  value.bmod 4294967296

/-- What is passed on to `launch`. -/
structure LaunchArguments (UUID : Type) where
  items : List (BaseItemDto UUID)
  position : Int
  replace : Bool
  itemsPosition : Int
  shuffle : Bool
  deriving DecidableEq, Repr

section Retrieve

variable (sdk : Sdk) (api : ApiClient UUID)
  (userPreferences : UserPreferences)

/-- The seconds of the preference, in nanoseconds. -/
def resumeSubtractDuration : Int :=
  match toIntOrNull userPreferences.resumeSubtractDuration with
  | none => 0
  | some seconds => seconds * 1000000000

/-- Where an item is resumed. -/
def resumePosition (item : BaseItemDto UUID) : Int :=
  match item.playbackPositionTicks with
  | none => 0
  | some playbackPositionTicks =>
      sdk.ticks playbackPositionTicks -
        resumeSubtractDuration userPreferences

def allowIntros (item : BaseItemDto UUID) : Bool :=
  resumePosition sdk userPreferences item == 0 && item.type == .movie

/-- `retrieveAndPlay` of one item, which throws where a request does. -/
def retrieveItem (itemId : UUID) (shuffle hasFragment : Bool) :
    Option (LaunchArguments UUID) := do
  let item ← api.getItem itemId
  let pos := resumePosition sdk userPreferences item
  let items ←
    getItems api userPreferences item
      (allowIntros sdk userPreferences item) shuffle
  return {
    items := items
    position := toInt (inWholeMilliseconds pos)
    replace := hasFragment
    itemsPosition := 0
    shuffle := shuffle }

/-- The start of a list of items.  `items[0]` throws for an empty list. -/
def listPosition (items : List (BaseItemDto UUID))
    (position : Option Int) : Option Int :=
  match position with
  | some position => some (sdk.ticks position)
  | none => items[0]?.map (resumePosition sdk userPreferences)

/-- What `retrieveAndPlay` of several items passes on for the items of the
server. -/
def launchArguments (items : List (BaseItemDto UUID)) (shuffle : Bool)
    (position : Option Int) (index : Option Nat) (hasFragment : Bool) :
    Option (LaunchArguments UUID) :=
  (listPosition sdk userPreferences items position).map fun pos =>
    { items := items
      position := toInt (inWholeMilliseconds pos)
      replace := hasFragment
      itemsPosition := index.getD 0
      shuffle := shuffle }

/-- `retrieveAndPlay` of several items. -/
def retrieveItems (itemIds : List UUID) (shuffle : Bool)
    (position : Option Int) (index : Option Nat) (hasFragment : Bool) :
    Option (LaunchArguments UUID) := do
  launchArguments sdk userPreferences (← api.getItemsById itemIds) shuffle
    position index hasFragment

end Retrieve

end SdkPlaybackHelper

/-- What a launch does. -/
inductive LaunchCall (UUID : Type) where
  | playNow (items : List (BaseItemDto UUID)) (itemsPosition : Int)
      (shuffle : Bool)
  | navigateNowPlaying
  | setCurrentVideoQueue (items : List (BaseItemDto UUID))
  | setCurrentMediaPosition (itemsPosition : Int)
  | startExternalPlayer (position : Int)
  | navigateVideoPlayerNew (position : Option Int) (replace : Bool)
  | navigateVideoPlayer (position : Option Int) (replace : Bool)
  deriving DecidableEq, Repr

namespace PlaybackLauncher

def supportsExternalPlayer (item : BaseItemDto UUID) : Bool :=
  match item.type with
  | .movie => true
  | .episode => true
  | .video => true
  | .series => true
  | .season => true
  | .recording => true
  | .tvChannel => true
  | .program => true
  | _ => false

/-- `launch`, with what `shuffled` makes of the items. -/
def launch (userPreferences : UserPreferences)
    (shuffled : List (BaseItemDto UUID) → List (BaseItemDto UUID))
    (items : List (BaseItemDto UUID)) (position : Option Int)
    (replace : Bool) (itemsPosition : Int) (shuffle : Bool) :
    List (LaunchCall UUID) :=
  if items.any fun item => item.mediaType == .audio then
    [.playNow items itemsPosition shuffle, .navigateNowPlaying]
  else
    let items := if shuffle then shuffled items else items
    let queued :=
      [.setCurrentVideoQueue items, .setCurrentMediaPosition itemsPosition]
    if items.isEmpty then
      queued
    else if userPreferences.useExternalPlayer &&
        items.all supportsExternalPlayer then
      queued ++ [.startExternalPlayer (position.getD 0)]
    else if userPreferences.playbackRewriteVideoEnabled then
      queued ++ [.navigateVideoPlayerNew position replace]
    else
      queued ++ [.navigateVideoPlayer position replace]

end PlaybackLauncher

structure PlayRequest (UUID : Type) where
  itemIds : Option (List UUID)
  startPositionTicks : Option Int
  startIndex : Option Nat

/-- `onPlayMessage` of the socket handler.  The result is what is launched;
the coroutine that it launches is outside of its `runCatching`. -/
def SocketHandler.onPlayMessage (sdk : SdkPlaybackHelper.Sdk)
    (api : ApiClient UUID) (userPreferences : UserPreferences)
    (hasFragment : Bool) (data : Option (PlayRequest UUID)) :
    Option (Option (SdkPlaybackHelper.LaunchArguments UUID)) := do
  let data ← data
  let itemIds ← data.itemIds
  return SdkPlaybackHelper.retrieveItems sdk api userPreferences itemIds
    false data.startPositionTicks data.startIndex hasFragment

end JellyfinTv.Launch
