import JellyfinTv.External.Players
import JellyfinTv.Library.Runs

/-!
# Playing a queue in another app

`ExternalPlayerActivity` hands the items of the video queue one by one to an
external player.  When the player returns, the position in the queue moves
on, the stop is reported to the server and the next item follows if this one
was watched to the end.
-/

namespace JellyfinTv.External

open JellyfinTv.Library

open Launch (BaseItemKind)

/-- The media types that are told apart. -/
inductive MediaType where
  | video
  | audio
  | other
  deriving DecidableEq, Repr

structure MediaSourceInfo where
  id : Option Text
  path : Option Text
  runTimeTicks : Option Int
  mediaStreams : Option (List MediaStream)
  deriving DecidableEq, Repr

/-- `displayName` is what `getDisplayName` returns. -/
structure BaseItemDto (UUID : Type) where
  id : UUID
  type : BaseItemKind
  mediaType : MediaType
  displayName : Text
  mediaSources : Option (List MediaSourceInfo)
  runTimeTicks : Option Int
  deriving DecidableEq, Repr

structure PlaybackStopInfo (UUID : Type) where
  itemId : UUID
  mediaSourceId : Option Text
  positionTicks : Option Int
  failed : Bool
  deriving DecidableEq, Repr

inductive Message where
  | msg_no_playable_items
  | no_player_message
  | video_error_unknown_error
  deriving DecidableEq, Repr

inductive Effect (UUID : Type) where
  | launch (item : BaseItemDto UUID) (mediaSource : MediaSourceInfo)
      (position : Int) (intent : Intent)
  | toast (message : Message)
  | reportPlaybackStopped (info : PlaybackStopInfo UUID)
  | lastPlayback
  | lastMoviePlayback
  | lastTvPlayback
  | finish
  deriving DecidableEq, Repr

/-- What the activity is given: the system, the preferences, the urls of the
server and the durations of the SDK.  `nineTenths` is `* 0.9`. -/
structure Environment (UUID : Type) where
  packageManager : PackageManager
  unflattenFromString : Text → Option ComponentName
  userPreferences : UserPreferences
  toUUIDOrNull : Text → Option UUID
  getVideoStreamUrl : UUID → Option Text → Uri
  getSubtitleUrl : UUID → Text → Int → Text → Uri
  ticks : Int → Int
  inWholeTicks : Int → Int
  nineTenths : Int → Int

/-- `substringAfterLast('.', missingDelimiterValue)`. -/
def substringAfterLastDot (missingDelimiterValue text : Text) : Text :=
  if '.' ∈ text then (text.reverse.takeWhile (· != '.')).reverse
  else missingDelimiterValue

/-- `File(path).name`, the last part of the path. -/
def fileName (path : Text) : Text :=
  ((path.splitOn '/').filter fun part => !part.isEmpty).getLastD []

section Preparation

variable {UUID : Type} [DecidableEq UUID] (environment : Environment UUID)

def findMediaSource (item : BaseItemDto UUID) : Option MediaSourceInfo :=
  (item.mediaSources.getD []).find? fun mediaSource =>
    mediaSource.id.bind environment.toUUIDOrNull = some item.id

omit [DecidableEq UUID] in
def externalSubtitle (item : BaseItemDto UUID) (mediaSource : MediaSourceInfo)
    (mediaStream : MediaStream) : Subtitle :=
  let format :=
    match mediaStream.path with
    | none => "srt".toList
    | some path => substringAfterLastDot (mediaStream.codec.getD []) path
  { mediaStream := mediaStream
    url :=
      environment.getSubtitleUrl item.id
        (mediaSource.id.getD "null".toList) mediaStream.index format
    name := mediaStream.displayTitle.or mediaStream.title
    language := mediaStream.language }

/-- The subtitles in files of their own, the default ones first. -/
def externalStreams (mediaSource : MediaSourceInfo) : List MediaStream :=
  sortedBy
    (fun mediaStream : MediaStream =>
      toLex (!mediaStream.isDefault, mediaStream.index))
    ((mediaSource.mediaStreams.getD []).filter fun mediaStream =>
      mediaStream.isSubtitle && mediaStream.isExternal)

omit [DecidableEq UUID] in
def playData (item : BaseItemDto UUID) (mediaSource : MediaSourceInfo)
    (position : Int) : ExternalPlayData where
  url := environment.getVideoStreamUrl item.id mediaSource.id
  title := item.displayName
  fileName := mediaSource.path.map fileName
  externalSubtitles :=
    (externalStreams mediaSource).map
      (externalSubtitle environment item mediaSource)
  position := position

omit [DecidableEq UUID] in
def playIntent (item : BaseItemDto UUID) (mediaSource : MediaSourceInfo) :
    Intent where
  component :=
    (ExternalAppRepository.getCurrentExternalPlayerApp
      environment.packageManager environment.unflattenFromString
      environment.userPreferences).map ActivityInfo.componentName
  data := environment.getVideoStreamUrl item.id mediaSource.id
  type :=
    match item.mediaType with
    | .video => some "video/*".toList
    | .audio => some "audio/*".toList
    | .other => none
  extras := []

/-- The first app that can view the item, with the item's media source and
the intent for that app. -/
def prepare (item : BaseItemDto UUID) (position : Int) :
    Except Message (ExternalPlayerApi × MediaSourceInfo × Intent) :=
  match findMediaSource environment item with
  | none => .error .msg_no_playable_items
  | some mediaSource =>
      let playIntent := playIntent environment item mediaSource
      let apps := environment.packageManager.queryIntentActivities playIntent
      match apps with
      | [] => .error .no_player_message
      | resolveInfo :: _ =>
          let player :=
            ExternalAppRepository.getExternalPlayerApi resolveInfo.activityInfo
          .ok
            (player, mediaSource,
              player.populateIntent playIntent
                (playData environment item mediaSource position))

omit [DecidableEq UUID] in
def runtime (item : BaseItemDto UUID) (mediaSource : MediaSourceInfo) :
    Option Int :=
  (mediaSource.runTimeTicks.or item.runTimeTicks).map environment.ticks

omit [DecidableEq UUID] in
def endPosition (item : BaseItemDto UUID) (mediaSource : MediaSourceInfo)
    (position : Option Int) (completed : Option Bool) : Option Int :=
  match position with
  | some position => some position
  | none =>
      if completed = some true then runtime environment item mediaSource
      else none

omit [DecidableEq UUID] in
def shouldPlayNext (item : BaseItemDto UUID) (mediaSource : MediaSourceInfo)
    (position : Option Int) (completed : Option Bool) : Bool :=
  match completed with
  | some completed => completed
  | none =>
      match runtime environment item mediaSource,
        endPosition environment item mediaSource position completed with
      | some runtime, some endPosition =>
          environment.nineTenths runtime ≤ endPosition
      | _, _ => false

omit [DecidableEq UUID] in
def stopInfo (item : BaseItemDto UUID) (mediaSource : MediaSourceInfo)
    (position : Option Int) (completed : Option Bool) :
    PlaybackStopInfo UUID where
  itemId := item.id
  mediaSourceId := mediaSource.id
  positionTicks :=
    (endPosition environment item mediaSource position completed).map
      environment.inWholeTicks
  failed := false

omit [DecidableEq UUID] in
/-- What the data refresh service is told. -/
def refreshes (item : BaseItemDto UUID) : List (Effect UUID) :=
  match item.type with
  | .movie => [.lastPlayback, .lastMoviePlayback]
  | .episode => [.lastPlayback, .lastTvPlayback]
  | _ => [.lastPlayback]

end Preparation

/-- `ExternalPlayerActivity` with the queue of the `VideoQueueManager`.
`currentItem` comes with the player that was chosen for it; `resultJob` is
waiting for the report about the item and then plays the next one or not. -/
structure ExternalPlayerActivity (UUID : Type) where
  currentVideoQueue : List (BaseItemDto UUID)
  currentMediaPosition : Int
  currentPlayer : Option ExternalPlayerApi
  currentItem : Option (BaseItemDto UUID × MediaSourceInfo)
  launched : Bool
  resultJob : Option (BaseItemDto UUID × Bool)
  isFinishing : Bool
  effects : List (Effect UUID)

namespace ExternalPlayerActivity

variable {UUID : Type}

/-- A new activity, which finds the queue as it was left. -/
def created (currentVideoQueue : List (BaseItemDto UUID))
    (currentMediaPosition : Int) : ExternalPlayerActivity UUID where
  currentVideoQueue := currentVideoQueue
  currentMediaPosition := currentMediaPosition
  currentPlayer := none
  currentItem := none
  launched := false
  resultJob := none
  isFinishing := false
  effects := []

def emit (activity : ExternalPlayerActivity UUID)
    (effects : List (Effect UUID)) : ExternalPlayerActivity UUID :=
  { activity with effects := activity.effects ++ effects }

def finish (activity : ExternalPlayerActivity UUID) :
    ExternalPlayerActivity UUID :=
  { activity with isFinishing := true }.emit [.finish]

/-- A toast before the activity is finished. -/
def giveUp (activity : ExternalPlayerActivity UUID) (message : Message) :
    ExternalPlayerActivity UUID :=
  (activity.emit [.toast message]).finish

/-- `setCurrentMediaPosition` of the queue manager. -/
def setCurrentMediaPosition (activity : ExternalPlayerActivity UUID)
    (currentMediaPosition : Int) : ExternalPlayerActivity UUID :=
  if 0 ≤ currentMediaPosition ∧
      currentMediaPosition ≤ activity.currentVideoQueue.length then
    { activity with currentMediaPosition := currentMediaPosition }
  else
    activity

/-- `getCurrentVideoQueue().getOrNull(currentPosition)`. -/
def queuedItem (activity : ExternalPlayerActivity UUID) :
    Option (BaseItemDto UUID) :=
  if activity.currentMediaPosition < 0 then none
  else activity.currentVideoQueue[activity.currentMediaPosition.toNat]?

section Playing

variable [DecidableEq UUID] (environment : Environment UUID)

def playItem (activity : ExternalPlayerActivity UUID)
    (item : BaseItemDto UUID) (position : Int) :
    ExternalPlayerActivity UUID :=
  match prepare environment item position with
  | .error message => activity.giveUp message
  | .ok (player, mediaSource, playIntent) =>
      let activity :=
        { activity with
          currentPlayer := some player
          currentItem := some (item, mediaSource) }
      if environment.packageManager.startActivity playIntent then
        { activity with launched := true }.emit
          [.launch item mediaSource position playIntent]
      else
        activity.giveUp .no_player_message

def playNext (activity : ExternalPlayerActivity UUID) (position : Int) :
    ExternalPlayerActivity UUID :=
  match activity.queuedItem with
  | none => activity.finish
  | some item => activity.playItem environment item position

def onCreate (activity : ExternalPlayerActivity UUID) (position : Int) :
    ExternalPlayerActivity UUID :=
  if activity.isFinishing then activity
  else activity.playNext environment position

omit [DecidableEq UUID] in
/-- `onPlayResultSuccess` up to the answer to the report. -/
def onPlayResultSuccess (activity : ExternalPlayerActivity UUID)
    (position : Option Int) (completed : Option Bool) :
    ExternalPlayerActivity UUID :=
  let activity :=
    activity.setCurrentMediaPosition (activity.currentMediaPosition + 1)
  match activity.currentItem with
  | none => activity.giveUp .video_error_unknown_error
  | some (item, mediaSource) =>
      { activity with
        resultJob :=
          some
            (item,
              shouldPlayNext environment item mediaSource position
                completed) }.emit
        [.reportPlaybackStopped
          (stopInfo environment item mediaSource position completed)]

omit [DecidableEq UUID] in
/-- The callback of the launcher. -/
def onResult (activity : ExternalPlayerActivity UUID)
    (result : ActivityResult) : ExternalPlayerActivity UUID :=
  let player := activity.currentPlayer.getD DefaultExternalPlayerApi
  match player.parseResult result with
  | .success position completed =>
      activity.onPlayResultSuccess environment position completed
  | .failed => activity.giveUp .video_error_unknown_error

/-- The rest of `onPlayResultSuccess`, once the report was accepted or
failed. -/
def onReported (activity : ExternalPlayerActivity UUID)
    (item : BaseItemDto UUID) (playsNext accepted : Bool) :
    ExternalPlayerActivity UUID :=
  let failure :=
    if accepted then [] else [.toast .video_error_unknown_error]
  let activity := activity.emit (failure ++ refreshes item)
  if playsNext then activity.playNext environment 0 else activity.finish

inductive Event where
  | onCreate (position : Int)
  | result (result : ActivityResult)
  | reported (accepted : Bool)

/-- A result comes for a launch only, and an answer for a report. -/
def step (activity : ExternalPlayerActivity UUID) :
    Event → ExternalPlayerActivity UUID
  | .onCreate position => activity.onCreate environment position
  | .result result =>
      if activity.launched then
        { activity with launched := false }.onResult environment result
      else
        activity
  | .reported accepted =>
      match activity.resultJob with
      | none => activity
      | some (item, playsNext) =>
          { activity with resultJob := none }.onReported environment item
            playsNext accepted

end Playing

end ExternalPlayerActivity

end JellyfinTv.External
