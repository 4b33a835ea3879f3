import JellyfinTv.Library.Ladders
import JellyfinTv.Library.Texts

/-!
# Codecs of the device

`MediaCodecQuery` asks the device for its decoders, and the capabilities of
each format translate the answers into what the server understands.
-/

namespace JellyfinTv.Profile

open JellyfinTv.Library

structure CodecProfileLevel where
  profile : Nat
  level : Nat
  deriving DecidableEq, Repr

/-- The upper ends of the sizes. -/
structure VideoCapabilities where
  supportedWidths : Option Nat
  supportedHeights : Option Nat
  deriving DecidableEq, Repr

structure CodecCapabilities where
  profileLevels : List CodecProfileLevel
  videoCapabilities : Option VideoCapabilities
  maxSupportedInstances : Nat
  deriving DecidableEq, Repr

/-- The capabilities are known for some types. -/
structure MediaCodecInfo where
  isEncoder : Bool
  isSoftwareOnly : Bool
  supportedTypes : List Text
  capabilitiesForType : List (Text × CodecCapabilities)
  deriving DecidableEq, Repr

structure AndroidVersion where
  isAtLeastN : Bool
  isAtLeastQ : Bool
  isAtLeastR : Bool
  deriving DecidableEq, Repr

structure Device where
  androidVersion : AndroidVersion
  MODEL : Text
  codecInfos : List MediaCodecInfo
  passthroughMimeTypes : List Text
  deriving DecidableEq, Repr

def equalsIgnoreCase (first second : Text) : Bool :=
  first.map Char.toLower = second.map Char.toLower

namespace MimeTypes

def VIDEO_H263 : Text := "video/3gpp".toList

def VIDEO_H264 : Text := "video/avc".toList

def VIDEO_H265 : Text := "video/hevc".toList

def VIDEO_AV1 : Text := "video/av01".toList

def VIDEO_VC1 : Text := "video/wvc1".toList

def VIDEO_DOLBY_VISION : Text := "video/dolby-vision".toList

def AUDIO_AC3 : Text := "audio/ac3".toList

def AUDIO_E_AC3 : Text := "audio/eac3".toList

def AUDIO_DTS : Text := "audio/vnd.dts".toList

def AUDIO_TRUEHD : Text := "audio/true-hd".toList

end MimeTypes

structure MediaCodecQuery where
  device : Device
  softwareCodecsEnabled : Bool
  deriving DecidableEq, Repr

namespace MediaCodecQuery

def isSoftwareCodec (query : MediaCodecQuery) (info : MediaCodecInfo) : Bool :=
  query.device.androidVersion.isAtLeastQ && info.isSoftwareOnly

def decoderInfos (query : MediaCodecQuery) : List MediaCodecInfo :=
  (query.device.codecInfos.filter fun info => !info.isEncoder).filter
    fun info => query.softwareCodecsEnabled || !query.isSoftwareCodec info

def getCapabilitiesOrNull (info : MediaCodecInfo) (mime : Text) :
    Option CodecCapabilities :=
  info.capabilitiesForType.lookup mime

def supportsMime (info : MediaCodecInfo) (mime : Text) : Bool :=
  info.supportedTypes.any fun type => equalsIgnoreCase type mime

def hasCodecForMime (query : MediaCodecQuery) (mime : Text) : Bool :=
  (query.decoderInfos.find? fun info => supportsMime info mime).isSome

/-- The levels of H.263 are not completely ordered. -/
def meetsLevelRequirement (mime : Text) (decoderLevel requiredLevel : Nat) :
    Bool :=
  let H263Level10 := 0x01
  let H263Level45 := 0x10
  if equalsIgnoreCase mime MimeTypes.VIDEO_H263 &&
      (decoderLevel ≠ requiredLevel && decoderLevel = H263Level45 &&
        H263Level10 < requiredLevel) then
    false
  else
    requiredLevel ≤ decoderLevel

def supportsProfileLevel (info : MediaCodecInfo) (mime : Text)
    (profile level : Nat) : Bool :=
  match getCapabilitiesOrNull info mime with
  | none => false
  | some capabilities =>
      capabilities.profileLevels.any fun profileLevel =>
        profileLevel.profile = profile &&
          meetsLevelRequirement mime profileLevel.level level

def hasDecoder (query : MediaCodecQuery) (mime : Text) (profile level : Nat) :
    Bool :=
  query.decoderInfos.any fun info =>
    supportsProfileLevel info mime profile level

/-- The levels of a decoder for a profile. -/
def profileLevels (mime : Text) (profile : Nat) (info : MediaCodecInfo) :
    List Nat :=
  match getCapabilitiesOrNull info mime with
  | none => []
  | some capabilities =>
      (capabilities.profileLevels.filter fun profileLevel =>
        profileLevel.profile = profile).map CodecProfileLevel.level

def getDecoderLevel (query : MediaCodecQuery) (mime : Text) (profile : Nat) :
    Nat :=
  (query.decoderInfos.flatMap (profileLevels mime profile)).foldl max 0

/-- The largest width and height of a decoder, if both are known. -/
def resolution (mime : Text) (info : MediaCodecInfo) : Option (Nat × Nat) := do
  let capabilities ← getCapabilitiesOrNull info mime
  let videoCapabilities ← capabilities.videoCapabilities
  let width ← videoCapabilities.supportedWidths
  let height ← videoCapabilities.supportedHeights
  return (width, height)

structure Size where
  width : Nat
  height : Nat
  deriving DecidableEq, Repr

/-- The largest width and the largest height, of any two decoders. -/
def getMaxResolution (query : MediaCodecQuery) (mime : Text) : Size :=
  let resolutions := query.decoderInfos.filterMap (resolution mime)
  { width := (resolutions.map Prod.fst).foldl max 0
    height := (resolutions.map Prod.snd).foldl max 0 }

def hasMultipleInstances (info : MediaCodecInfo) (mime : Text) : Bool :=
  if mime ∉ info.supportedTypes then
    false
  else
    match getCapabilitiesOrNull info mime with
    | none => false
    | some capabilities => 1 < capabilities.maxSupportedInstances

def supportsMultiInstance (query : MediaCodecQuery) (mime : Text) : Bool :=
  query.decoderInfos.any fun info => hasMultipleInstances info mime

end MediaCodecQuery

open MediaCodecQuery

namespace AvcCodecCapabilities

def AVCProfileMain : Nat := 0x02

def AVCProfileHigh10 : Nat := 0x10

def AVCLevel4 : Nat := 0x800

/-- Levels of the device and of the server. -/
def LEVEL_MAP : Ladder :=
  [(0x02, 9), (0x01, 10), (0x04, 11), (0x08, 12), (0x10, 13), (0x20, 20),
    (0x40, 21), (0x80, 22), (0x100, 30), (0x200, 31), (0x400, 32),
    (0x800, 40), (0x1000, 41), (0x2000, 42), (0x4000, 50), (0x8000, 51),
    (0x10000, 52)]

def getLevel (query : MediaCodecQuery) (profile : Nat) : Nat :=
  LEVEL_MAP.climb (query.getDecoderLevel MimeTypes.VIDEO_H264 profile)

end AvcCodecCapabilities

namespace HevcCodecCapabilities

def HEVCProfileMain : Nat := 0x01

def HEVCProfileMain10 : Nat := 0x02

def HEVCProfileMain10HDR10 : Nat := 0x1000

def HEVCProfileMain10HDR10Plus : Nat := 0x2000

def HEVCMainTierLevel4 : Nat := 0x400

def DolbyVisionProfileDvheDtb : Nat := 0x80

def DolbyVisionLevelHd24 : Nat := 0x01

def LEVEL_MAP : Ladder :=
  [(0x01, 30), (0x04, 60), (0x10, 63), (0x40, 90), (0x100, 93), (0x400, 120),
    (0x1000, 123), (0x4000, 150), (0x10000, 153), (0x40000, 156),
    (0x100000, 180), (0x400000, 183), (0x1000000, 186)]

def getLevel (query : MediaCodecQuery) (profile : Nat) : Nat :=
  LEVEL_MAP.climb (query.getDecoderLevel MimeTypes.VIDEO_H265 profile)

end HevcCodecCapabilities

namespace Av1CodecCapabilities

/-! The constants of the system are the fallback values of older versions. -/

def AV1_PROFILE_MAIN10 : Nat := 0x2

def AV1_PROFILE_MAIN10_HDR10 : Nat := 0x1000

def AV1_PROFILE_MAIN10_HDR10_PLUS : Nat := 0x2000

def AV1_LEVEL5 : Nat := 0x1000

def DV_PROFILE_DVAV1_10 : Nat := 0x400

end Av1CodecCapabilities

namespace MediaCodecCapabilitiesTest

variable (query : MediaCodecQuery)

def supportsAVC : Bool :=
  query.hasCodecForMime MimeTypes.VIDEO_H264

section Avc

open AvcCodecCapabilities

def supportsAVCHigh10 : Bool :=
  query.hasDecoder MimeTypes.VIDEO_H264 AVCProfileHigh10 AVCLevel4

def getAVCMainLevel : Nat :=
  AvcCodecCapabilities.getLevel query AVCProfileMain

def getAVCHigh10Level : Nat :=
  AvcCodecCapabilities.getLevel query AVCProfileHigh10

end Avc

section Hevc

open HevcCodecCapabilities

def supportsHevc : Bool :=
  query.hasCodecForMime MimeTypes.VIDEO_H265

def supportsHevcMain10 : Bool :=
  query.hasDecoder MimeTypes.VIDEO_H265 HEVCProfileMain10 HEVCMainTierLevel4

def supportsHevcDolbyVision : Bool :=
  query.device.androidVersion.isAtLeastN &&
    query.hasCodecForMime MimeTypes.VIDEO_DOLBY_VISION

def supportsHevcDolbyVisionEL : Bool :=
  query.device.androidVersion.isAtLeastN &&
    query.hasDecoder MimeTypes.VIDEO_DOLBY_VISION DolbyVisionProfileDvheDtb
      DolbyVisionLevelHd24 &&
    query.supportsMultiInstance MimeTypes.VIDEO_H265

def supportsHevcHDR10 : Bool :=
  query.device.androidVersion.isAtLeastN &&
    query.hasDecoder MimeTypes.VIDEO_H265 HEVCProfileMain10HDR10
      HEVCMainTierLevel4

def supportsHevcHDR10Plus : Bool :=
  query.device.androidVersion.isAtLeastQ &&
    query.hasDecoder MimeTypes.VIDEO_H265 HEVCProfileMain10HDR10Plus
      HEVCMainTierLevel4

def getHevcMainLevel : Nat :=
  HevcCodecCapabilities.getLevel query HEVCProfileMain

def getHevcMain10Level : Nat :=
  HevcCodecCapabilities.getLevel query HEVCProfileMain10

end Hevc

section Av1

open Av1CodecCapabilities

def supportsAV1 : Bool :=
  query.hasCodecForMime MimeTypes.VIDEO_AV1

def supportsAV1Main10 : Bool :=
  query.hasDecoder MimeTypes.VIDEO_AV1 AV1_PROFILE_MAIN10 AV1_LEVEL5

def supportsAV1DolbyVision : Bool :=
  query.device.androidVersion.isAtLeastN &&
    query.hasDecoder MimeTypes.VIDEO_DOLBY_VISION DV_PROFILE_DVAV1_10
      HevcCodecCapabilities.DolbyVisionLevelHd24

def supportsAV1HDR10 : Bool :=
  query.hasDecoder MimeTypes.VIDEO_AV1 AV1_PROFILE_MAIN10_HDR10 AV1_LEVEL5

def supportsAV1HDR10Plus : Bool :=
  query.hasDecoder MimeTypes.VIDEO_AV1 AV1_PROFILE_MAIN10_HDR10_PLUS
    AV1_LEVEL5

end Av1

def supportsVc1 : Bool :=
  query.hasCodecForMime MimeTypes.VIDEO_VC1

end MediaCodecCapabilitiesTest

end JellyfinTv.Profile
