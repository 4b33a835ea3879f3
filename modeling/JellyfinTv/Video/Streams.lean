import Mathlib.Data.List.Basic

/-!
# Media of the video player

The data that the video player gets from the server, and `VideoManager`, the
wrapper around ExoPlayer.  What ExoPlayer answers is kept as readings that may
change between any two events.  Identifiers are numbers and the text of a media
url is left out.
-/

namespace JellyfinTv.Video

inductive ControllerException where
  | nullPointer
  | indexOutOfBounds
  deriving DecidableEq, Repr

inductive MediaStreamType where
  | video
  | audio
  | subtitle
  | other
  deriving DecidableEq, Repr

inductive SubtitleDeliveryMethod where
  | encode
  | embed
  | external
  | hls
  | drop
  deriving DecidableEq, Repr

inductive PlayMethod where
  | transcode
  | directStream
  | directPlay
  deriving DecidableEq, Repr

structure MediaStream where
  type : MediaStreamType
  index : Int
  language : Option String
  deliveryMethod : Option SubtitleDeliveryMethod
  isExternal : Bool
  deriving DecidableEq, Repr

structure MediaSourceInfo where
  id : Nat
  mediaStreams : Option (List MediaStream)
  defaultAudioStreamIndex : Option Int
  defaultSubtitleStreamIndex : Option Int
  runTimeTicks : Option Int
  supportsDirectPlay : Bool
  supportsDirectStream : Bool
  supportsTranscoding : Bool
  hasTranscodingUrl : Bool
  deriving DecidableEq, Repr

inductive BaseItemKind where
  | tvChannel
  | trailer
  | other
  deriving DecidableEq, Repr

structure BaseItemDto where
  id : Nat
  type : BaseItemKind
  isVirtual : Bool
  runTimeTicks : Option Int
  mediaSources : List MediaSourceInfo
  deriving DecidableEq, Repr

structure VideoOptions where
  itemId : Nat
  mediaSourceId : Option Nat
  enableDirectPlay : Bool
  enableDirectStream : Bool
  alwaysBurnInSubtitleWhenTranscoding : Bool
  audioStreamIndex : Option Int
  subtitleStreamIndex : Option Int
  deriving DecidableEq, Repr

structure StreamInfo where
  itemId : Nat
  mediaSource : Option MediaSourceInfo
  hasMediaUrl : Bool
  playMethod : PlayMethod
  deriving DecidableEq, Repr

/-- The chosen source: the requested one if it is there, else the first. -/
def chooseSource (options : VideoOptions)
    (mediaSources : List MediaSourceInfo) : Option MediaSourceInfo :=
  (mediaSources.find? fun source => some source.id = options.mediaSourceId).or
    mediaSources.head?

/-- A stream without a transcoding url makes the request fail. -/
def createStreamInfo (options : VideoOptions)
    (mediaSources : List MediaSourceInfo) : Option StreamInfo :=
  let info : StreamInfo :=
    { itemId := options.itemId
      mediaSource := chooseSource options mediaSources
      hasMediaUrl := false
      playMethod := .directPlay }
  match chooseSource options mediaSources with
  | none => some info
  | some source =>
      if options.enableDirectPlay ∧ source.supportsDirectPlay then
        some { info with hasMediaUrl := true, playMethod := .directPlay }
      else if options.enableDirectStream ∧ source.supportsDirectStream then
        if source.hasTranscodingUrl then
          some { info with hasMediaUrl := true, playMethod := .directStream }
        else
          none
      else if source.supportsTranscoding then
        if source.hasTranscodingUrl then
          some { info with hasMediaUrl := true, playMethod := .transcode }
        else
          none
      else
        some info

namespace StreamInfo

def getSubtitleDeliveryMethod (stream : StreamInfo) :
    Except ControllerException (Option SubtitleDeliveryMethod) :=
  match stream.mediaSource with
  | none => .error .nullPointer
  | some source =>
      match source.defaultSubtitleStreamIndex with
      | none => .ok (some .drop)
      | some index =>
          if index = -1 then
            .ok (some .drop)
          else
            match source.mediaStreams with
            | none => .error .nullPointer
            | some streams =>
                if index < 0 then
                  .error .indexOutOfBounds
                else
                  match streams[index.toNat]? with
                  | none => .error .indexOutOfBounds
                  | some subtitle => .ok subtitle.deliveryMethod

end StreamInfo

/-- A track group of ExoPlayer with the ids of its formats. -/
structure TrackGroup where
  isText : Bool
  formatIds : List (Option String)
  deriving DecidableEq, Repr

/-- What ExoPlayer answers at the moment. -/
structure PlayerReadings where
  isPlaying : Bool
  currentPosition : Nat
  duration : Int
  isSeekable : Bool
  groups : List TrackGroup
  audioTrack : Int
  acceptsAudioTrack : Bool
  deriving DecidableEq, Repr

structure VideoManager where
  isInitialized : Bool
  readings : PlayerReadings
  lastExoPlayerPosition : Int
  mMetaDuration : Int
  deriving DecidableEq, Repr

namespace VideoManager

def getDuration (manager : VideoManager) : Int :=
  if manager.isInitialized ∧ manager.readings.duration > 0 then
    manager.readings.duration
  else
    manager.mMetaDuration

def getCurrentPosition (manager : VideoManager) : Int :=
  if manager.isInitialized ∧ manager.readings.isPlaying then
    manager.readings.currentPosition
  else if manager.lastExoPlayerPosition = -1 then
    0
  else
    manager.lastExoPlayerPosition

/-- The manager after `getCurrentPosition`, which remembers the position. -/
def polled (manager : VideoManager) : VideoManager :=
  if manager.isInitialized ∧ manager.readings.isPlaying then
    { manager with lastExoPlayerPosition := manager.readings.currentPosition }
  else
    manager

def isSeekable (manager : VideoManager) : Bool :=
  manager.isInitialized && manager.readings.isSeekable

end VideoManager

/-- `Utils.getSafeSeekPosition`. -/
def getSafeSeekPosition (position duration : Int) : Int :=
  if position ≥ duration then max (duration - 1000) 0 else max position 0

end JellyfinTv.Video
