import JellyfinTv.Library.Effect
import JellyfinTv.Library.Runs
import JellyfinTv.Video.Streams

/-!
# The playback controller

`PlaybackController` drives the `VideoManager` through a list of items.  It
asks the server for a stream, hands the answer to the player and follows the
player's callbacks.  Its fields, the work it has started and not yet finished
and the calls it has made to others form one state; a null pointer keeps the
writes made before it.  Dialogs, display modes and the overlay are left out.
-/

namespace JellyfinTv.Video

open JellyfinTv.Library

inductive PlaybackState where
  | playing
  | paused
  | buffering
  | idle
  | seeking
  | undefined
  | error
  deriving DecidableEq, Repr

/-- The preferences of the user that the controller reads. -/
structure Settings where
  subtitlesBurnDuringTranscode : Bool
  stillWatchingEnabled : Bool
  nextUpEnabled : Bool
  delaysVideoStart : Bool
  deriving DecidableEq, Repr

inductive RequestKind where
  | videoStreamInfo
  | changeVideoStream
  deriving DecidableEq, Repr

/-- A request for a stream with what its callback has captured.  The options
are a reference to an object. -/
structure Request where
  kind : RequestKind
  isLiveTv : Bool
  item : Option BaseItemDto
  position : Int
  options : Nat
  deriving DecidableEq, Repr

/-- A lookup of media segments with what its callback has captured. -/
structure Lookup where
  item : BaseItemDto
  stream : StreamInfo
  position : Int
  deriving DecidableEq, Repr

inductive ReportLoop where
  | playing
  | paused
  deriving DecidableEq, Repr

/-- The calls whose order matters.  A stream is recorded together with the
item that is current when the stream is stored or handed over. -/
inductive Call where
  | stop
  | play (position : Int)
  | restart
  | stored (stream : StreamInfo) (item : Option BaseItemDto)
  | setMediaStreamInfo (stream : StreamInfo) (item : Option BaseItemDto)
  | subtitleSelected (server chosen : Option Int)
  | textEnabled (group : TrackGroup)
  | textDisabled
  | start
  | seekTo (position : Int)
  | reportStart (item : BaseItemDto) (stream : StreamInfo) (position : Int)
  | reportStopped (item : BaseItemDto) (stream : StreamInfo) (position : Int)
  deriving DecidableEq, Repr

structure PlaybackController where
  settings : Settings
  mItems : List BaseItemDto
  mVideoManager : Option VideoManager
  mCurrentIndex : Nat
  mCurrentPosition : Int
  mPlaybackState : PlaybackState
  mCurrentStreamInfo : Option StreamInfo
  hasFragment : Bool
  spinnerOff : Bool
  mCurrentOptions : Option Nat
  optionObjects : List VideoOptions
  mDefaultAudioIndex : Int
  burningSubs : Bool
  mStartPosition : Int
  mSeekPosition : Int
  wasSeeking : Bool
  finishedInitialSeek : Bool
  mCurrentProgramStart : Option Int
  now : Int
  isLiveTv : Bool
  directStreamLiveTv : Bool
  playbackRetries : Nat
  currentSkipPos : Int
  skipScheduled : Bool
  initialSeeks : List Int
  reportLoop : Option ReportLoop
  requests : List Request
  lookups : List Lookup
  delayedStarts : Nat
  lastPlayedAudioLanguageIsoCode : Option String
  lastPlayedSubtitleLanguageIsoCode : Option String
  calls : List Call
  deriving DecidableEq, Repr

abbrev ControllerM := EStateM ControllerException PlaybackController

namespace PlaybackController

/-- The constructor.  The languages are those of the `VideoQueueManager`, which
outlives the controller. -/
def create (settings : Settings) (items : List BaseItemDto)
    (startIndex : Nat) (audioLanguage subtitleLanguage : Option String) :
    PlaybackController where
  settings := settings
  mItems := items
  mVideoManager := none
  mCurrentIndex :=
    if startIndex > 0 ∧ startIndex < items.length then startIndex else 0
  mCurrentPosition := 0
  mPlaybackState := .idle
  mCurrentStreamInfo := none
  hasFragment := true
  spinnerOff := false
  mCurrentOptions := none
  optionObjects := []
  mDefaultAudioIndex := -1
  burningSubs := false
  mStartPosition := 0
  mSeekPosition := -1
  wasSeeking := false
  finishedInitialSeek := false
  mCurrentProgramStart := none
  now := 0
  isLiveTv := false
  directStreamLiveTv := false
  playbackRetries := 0
  currentSkipPos := 0
  skipScheduled := false
  initialSeeks := []
  reportLoop := none
  requests := []
  lookups := []
  delayedStarts := 0
  lastPlayedAudioLanguageIsoCode := audioLanguage
  lastPlayedSubtitleLanguageIsoCode := subtitleLanguage
  calls := []

/-- The new video manager has not polled its player yet. -/
def init (controller : PlaybackController) (readings : PlayerReadings)
    (directStreamLiveTv : Bool) : PlaybackController :=
  { controller with
    mVideoManager :=
      some
        { isInitialized := true
          readings := readings
          lastExoPlayerPosition := -1
          mMetaDuration := -1 }
    hasFragment := true
    directStreamLiveTv := directStreamLiveTv }

def getCurrentlyPlayingItem (controller : PlaybackController) :
    Option BaseItemDto :=
  controller.mItems[controller.mCurrentIndex]?

/-- The video manager if `hasInitializedVideoManager()`. -/
def initializedManager (controller : PlaybackController) :
    Option VideoManager :=
  controller.mVideoManager.filter fun manager => manager.isInitialized

def isPlaying (controller : PlaybackController) : Bool :=
  controller.mPlaybackState = .playing &&
    controller.initializedManager.any fun manager =>
      manager.readings.isPlaying

def isPaused (controller : PlaybackController) : Bool :=
  controller.mPlaybackState = .paused

def hasNextItem (controller : PlaybackController) : Bool :=
  controller.mCurrentIndex + 1 < controller.mItems.length

def getNextItem (controller : PlaybackController) : Option BaseItemDto :=
  if controller.hasNextItem then
    controller.mItems[controller.mCurrentIndex + 1]?
  else
    none

def isTranscoding (controller : PlaybackController) : Bool :=
  controller.mCurrentStreamInfo.all fun stream =>
    stream.playMethod = .transcode

def shouldBurnInSubtitles (controller : PlaybackController)
    (playMethod : PlayMethod) : Bool :=
  controller.settings.subtitlesBurnDuringTranscode &&
    playMethod = .transcode

/-- An item without sources has no media source; without an item there is a
null pointer. -/
def getCurrentMediaSource (controller : PlaybackController) :
    Except ControllerException (Option MediaSourceInfo) :=
  match controller.mCurrentStreamInfo.bind StreamInfo.mediaSource with
  | some source => .ok (some source)
  | none =>
      match controller.getCurrentlyPlayingItem with
      | none => .error .nullPointer
      | some item =>
          .ok ((item.mediaSources.find? fun source => source.id = item.id).or
            item.mediaSources.head?)

def getRealTimeProgress (controller : PlaybackController) : Int :=
  match controller.mCurrentProgramStart with
  | some start => controller.now - start
  | none => 0

/-- The original value is used if the new one is not available. -/
def withPosition (controller : PlaybackController) (newPos : Int) :
    PlaybackController :=
  { controller with
    mCurrentPosition :=
      if newPos ≠ -1 then newPos else controller.mCurrentPosition }

def refreshCurrentPosition (controller : PlaybackController) :
    PlaybackController :=
  if controller.isLiveTv ∧ controller.mCurrentProgramStart.isSome then
    controller.withPosition controller.getRealTimeProgress
  else
    match controller.initializedManager with
    | none => controller
    | some manager =>
        if controller.currentSkipPos ≠ 0 ∨
            (¬controller.isPlaying ∧ controller.mSeekPosition ≠ -1) then
          controller.withPosition controller.mSeekPosition
        else if controller.isPlaying then
          if controller.finishedInitialSeek then
            { controller.withPosition manager.getCurrentPosition with
              mVideoManager := some manager.polled
              mSeekPosition := -1
              wasSeeking := false }
          else if controller.wasSeeking then
            { controller with
              finishedInitialSeek := true
              wasSeeking := false }
          else
            { controller.withPosition controller.mSeekPosition with
              wasSeeking := false }
        else
          controller

def getDuration (controller : PlaybackController) :
    Except ControllerException Int :=
  match controller.initializedManager with
  | some manager => .ok (max manager.getDuration 0)
  | none => do
      let source ← controller.getCurrentMediaSource
      let ticks :=
        (source.bind MediaSourceInfo.runTimeTicks).or
          (controller.getCurrentlyPlayingItem.bind BaseItemDto.runTimeTicks)
      return max ((ticks.getD 0).tdiv 10000) 0

/-- The object behind `mCurrentOptions`. -/
def videoOptions (controller : PlaybackController) : Option VideoOptions :=
  controller.mCurrentOptions.bind fun reference =>
    controller.optionObjects[reference]?

def clearPlaybackSessionOptions (controller : PlaybackController) :
    PlaybackController :=
  { controller with
    mDefaultAudioIndex := -1
    mSeekPosition := -1
    finishedInitialSeek := false
    wasSeeking := false
    burningSubs := false
    mCurrentStreamInfo := none }

def record (controller : PlaybackController) (call : Call) :
    PlaybackController :=
  { controller with calls := controller.calls ++ [call] }

/-- The request is sent; its answer comes with a later event. -/
def send (controller : PlaybackController) (request : Request) :
    PlaybackController :=
  { controller with requests := controller.requests ++ [request] }

def startReportLoop (controller : PlaybackController) : PlaybackController :=
  if controller.mCurrentStreamInfo = none then controller
  else { controller with reportLoop := some .playing }

def startPauseReportLoop (controller : PlaybackController) :
    PlaybackController :=
  if controller.mCurrentStreamInfo = none then
    { controller with reportLoop := none }
  else
    { controller with reportLoop := some .paused }

end PlaybackController

open PlaybackController

/-- A value that was computed without an exception. -/
def lift {Value : Type} (computed : Except ControllerException Value) :
    ControllerM Value :=
  match computed with
  | .ok value => return value
  | .error exception => throw exception

/-- A value that has to be there. -/
def requireNotNull {Value : Type} (value : Option Value) :
    ControllerM Value :=
  match value with
  | some value => return value
  | none => throw .nullPointer

def currentOptions : ControllerM VideoOptions := do
  requireNotNull (← get).videoOptions

def updateOptions (change : VideoOptions → VideoOptions) :
    ControllerM Unit := do
  let controller ← get
  let reference ← requireNotNull controller.mCurrentOptions
  modify fun controller =>
    { controller with
      optionObjects := controller.optionObjects.modify reference change }

/-- The first audio stream with the requested language. -/
def forcedAudioIndex (forcedAudioLanguage : Option String)
    (currentMediaSource : Option MediaSourceInfo) :
    ControllerM (Option Int) :=
  match forcedAudioLanguage with
  | none => return none
  | some language => do
      let source ← requireNotNull currentMediaSource
      let streams ← requireNotNull source.mediaStreams
      return (streams.find? fun stream =>
        stream.type = .audio ∧ stream.language = some language).map
        MediaStream.index

def buildExoPlayerOptions (forcedSubtitleIndex : Option Int)
    (forcedAudioLanguage : Option String) (item : BaseItemDto) :
    ControllerM VideoOptions := do
  let controller ← get
  let currentMediaSource ← lift controller.getCurrentMediaSource
  let forcedAudio ← forcedAudioIndex forcedAudioLanguage currentMediaSource
  return {
    itemId := item.id
    mediaSourceId :=
      if controller.isLiveTv then none
      else currentMediaSource.map MediaSourceInfo.id
    enableDirectPlay :=
      ¬(controller.playbackRetries > 0 ∨
        (controller.isLiveTv ∧ ¬controller.directStreamLiveTv))
    enableDirectStream := ¬controller.playbackRetries > 1
    alwaysBurnInSubtitleWhenTranscoding :=
      controller.settings.subtitlesBurnDuringTranscode
    audioStreamIndex :=
      forcedAudio.or
        (controller.videoOptions.bind VideoOptions.audioStreamIndex)
    subtitleStreamIndex :=
      forcedSubtitleIndex.or
        (controller.videoOptions.bind VideoOptions.subtitleStreamIndex) }

/-- The lifecycle of the fragment and the channel of live TV have to be
there. -/
def playInternal (position : Int) (options : Nat) : ControllerM Unit := do
  let controller ← get
  if ¬controller.hasFragment ∨
      (controller.isLiveTv ∧ controller.getCurrentlyPlayingItem = none) then
    throw .nullPointer
  else
    modify fun controller =>
      controller.send
        { kind := .videoStreamInfo
          isLiveTv := controller.isLiveTv
          item := controller.getCurrentlyPlayingItem
          position := position
          options := options }

/-- The branch of `play` that starts a new playback. -/
def playFromIdle (position : Int) (forcedSubtitleIndex : Option Int) :
    ControllerM Unit := do
  modify fun controller =>
    { controller with mSeekPosition := position, mCurrentPosition := 0 }
  match (← get).getCurrentlyPlayingItem with
  | none => return ()
  | some item =>
      if item.isVirtual then
        return ()
      else
        modify fun controller =>
          { controller with
            isLiveTv := item.type = .tvChannel
            spinnerOff := false
            mSeekPosition :=
              if item.type = .tvChannel then -1
              else controller.mSeekPosition }
        let controller ← get
        let options ←
          buildExoPlayerOptions forcedSubtitleIndex
            controller.lastPlayedAudioLanguageIsoCode item
        let reference := controller.optionObjects.length
        modify fun controller =>
          { controller with
            optionObjects := controller.optionObjects ++ [options] }
        playInternal position reference
        modify fun controller =>
          { controller with
            mPlaybackState := .buffering
            mVideoManager :=
              controller.mVideoManager.map fun manager =>
                { manager with
                  mMetaDuration :=
                    match item.runTimeTicks with
                    | some ticks => ticks.tdiv 10000
                    | none => -1 } }

/-- `play` with an optional subtitle index. -/
def play (position : Int) (forcedSubtitleIndex : Option Int) :
    ControllerM Unit := do
  modify fun controller => controller.record (.play position)
  let controller ← get
  if ¬controller.hasFragment then
    return ()
  else
    match controller.mPlaybackState with
    | .paused =>
        if controller.initializedManager = none then
          return ()
        else
          modify fun controller =>
            { controller with mPlaybackState := .playing }.startReportLoop
    | .idle => playFromIdle (max position 0) forcedSubtitleIndex
    | _ => return ()

/-- A manager without a player cannot be asked whether it is playing. -/
def stopPlayback : ControllerM Unit := do
  if (← get).mVideoManager.any fun manager => ¬manager.isInitialized then
    throw .nullPointer
  else
    return ()

/-- A report needs the lifecycle of the fragment. -/
def reportStopped : ControllerM Unit := do
  let controller ← get
  match controller.getCurrentlyPlayingItem,
    controller.mCurrentStreamInfo with
  | some item, some stream =>
      if ¬controller.hasFragment then
        throw .nullPointer
      else
        modify fun controller =>
          controller.record
            (.reportStopped item stream controller.mCurrentPosition)
  | _, _ => return ()

def stop : ControllerM Unit := do
  modify refreshCurrentPosition
  modify fun controller =>
    { controller with reportLoop := none }.record .stop
  let controller ← get
  if controller.mPlaybackState = .idle ∨
      controller.mPlaybackState = .undefined then
    return ()
  else
    modify fun controller => { controller with mPlaybackState := .idle }
    stopPlayback
    reportStopped
    modify clearPlaybackSessionOptions

def pause : ControllerM Unit := do
  if (← get).mPlaybackState = .paused then
    return ()
  else
    modify fun controller =>
      { controller with mPlaybackState := .paused }.startPauseReportLoop

def getCurrentPosition (controller : PlaybackController) : Int :=
  if ¬controller.isPlaying ∧ controller.mSeekPosition ≠ -1 then
    controller.mSeekPosition
  else
    controller.mCurrentPosition

def playPause : ControllerM Unit := do
  let controller ← get
  match controller.mPlaybackState with
  | .playing => pause
  | .paused | .idle => do
      modify fun controller => { controller with reportLoop := none }
      play (getCurrentPosition controller) none
  | _ => return ()

def refreshStream : ControllerM Unit := do
  modify refreshCurrentPosition
  stop
  play (← get).mCurrentPosition none

def endPlayback : ControllerM Unit := do
  stop
  modify fun controller =>
    { controller with
      hasFragment := false
      mVideoManager := none
      playbackRetries := 0 }

/-- The common part of `next` and `prev`. -/
def moveTo (index : Nat) : ControllerM Unit := do
  stop
  modify fun controller =>
    { controller with
      playbackRetries := 0
      mCurrentIndex := index
      spinnerOff := false }
  play 0 none

def next : ControllerM Unit := do
  let controller ← get
  if controller.mCurrentIndex + 1 < controller.mItems.length then
    moveTo (controller.mCurrentIndex + 1)
  else
    return ()

def prev : ControllerM Unit := do
  let controller ← get
  if controller.mCurrentIndex > 0 ∧ controller.mItems.length > 0 then
    moveTo (controller.mCurrentIndex - 1)
  else
    return ()

def itemComplete : ControllerM Unit := do
  stop
  modify fun controller => { controller with playbackRetries := 0 }
  let controller ← get
  match controller.getNextItem, controller.getCurrentlyPlayingItem with
  | some _, some curItem =>
      if (controller.settings.stillWatchingEnabled ∨
          controller.settings.nextUpEnabled) ∧
          curItem.type ≠ .trailer then
        modify fun controller =>
          { controller with
            mCurrentIndex := controller.mCurrentIndex + 1
            spinnerOff := false }
        endPlayback
      else
        next
  | _, _ => endPlayback

end JellyfinTv.Video
