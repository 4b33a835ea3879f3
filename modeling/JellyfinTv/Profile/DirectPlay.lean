import JellyfinTv.Profile.DeviceProfile

/-!
# What a profile lets the server send

The server decides what it makes of a profile; the app relies on what the
parts of a profile are documented to ask for.  The profile of the app asks for
just what the decoders of the device play, within the limits that the user
has set.
-/

namespace JellyfinTv.Profile

open JellyfinTv.Library
open MediaCodecCapabilitiesTest MediaCodecQuery Codec

/-- A video of the server with its audio, and the format of the subtitles that
are selected. -/
structure VideoSource where
  container : Text
  bitrate : Int
  videoCodec : Text
  videoProfile : Text
  videoLevel : Nat
  refFrames : Nat
  width : Nat
  height : Nat
  videoRangeType : VideoRangeType
  audioCodec : Text
  audioChannels : Nat
  subtitle : Option Text
  deriving DecidableEq, Repr

namespace VideoSource

def text (source : VideoSource) : ProfileConditionValue → Option Text
  | .VIDEO_PROFILE => some source.videoProfile
  | .VIDEO_RANGE_TYPE => some source.videoRangeType.serialName
  | _ => none

def number (source : VideoSource) : ProfileConditionValue → Option Nat
  | .VIDEO_LEVEL => some source.videoLevel
  | .REF_FRAMES => some source.refFrames
  | .WIDTH => some source.width
  | .HEIGHT => some source.height
  | .AUDIO_CHANNELS => some source.audioChannels
  | _ => none

def codec (source : VideoSource) : CodecType → Text
  | .VIDEO => source.videoCodec
  | CodecType.VIDEO_AUDIO => source.audioCodec

end VideoSource

/-- A server tests conditions, decides how it delivers the selected subtitles
and whether it sends a video as it is. -/
structure Server where
  meets : VideoSource → ProfileCondition → Prop
  delivers : List SubtitleProfile → VideoSource → Prop
  sends : DeviceProfile → VideoSource → Prop

namespace Server

/-- The profile is for other streams, or they meet its conditions. -/
def Passes (server : Server) (source : VideoSource)
    (profile : CodecProfile) : Prop :=
  (∀ codec ∈ profile.codec, codec = source.codec profile.type) →
    (∀ condition ∈ profile.applyConditions, server.meets source condition) →
      ∀ condition ∈ profile.conditions, server.meets source condition

/-- What the parts of a profile are documented to ask for.  A list of range
types fails to differ from each of them; nothing is said about the others. -/
structure Documented (server : Server) : Prop where
  equals : ∀ source property, ∀ text ∈ source.text property, ∀ value,
    server.meets source (.equals property value) ↔ text = value
  notEquals : ∀ source property, property ≠ .VIDEO_RANGE_TYPE →
    ∀ text ∈ source.text property, ∀ value,
      server.meets source (.notEquals property value) ↔ text ≠ value
  notEqualsRangeTypes : ∀ source (types : List VideoRangeType),
    source.videoRangeType ∈ types →
      ¬server.meets source
        (.notEquals .VIDEO_RANGE_TYPE
          (joinToString '|' (types.map VideoRangeType.serialName)))
  inCollection : ∀ source property, ∀ text ∈ source.text property,
    ∀ values,
      server.meets source (.inCollection property values) ↔ text ∈ values
  lowerThanOrEquals : ∀ source property,
    ∀ number ∈ source.number property, ∀ value,
      server.meets source (.lowerThanOrEquals property value) ↔
        number ≤ value
  greaterThanOrEquals : ∀ source property,
    ∀ number ∈ source.number property, ∀ value,
      server.meets source (.greaterThanOrEquals property value) ↔
        value ≤ number
  sends : ∀ profile source,
    server.sends profile source ↔
      (∃ direct ∈ profile.directPlayProfiles,
          direct.type = .VIDEO ∧ source.container ∈ direct.container ∧
            source.videoCodec ∈ direct.videoCodec ∧
              source.audioCodec ∈ direct.audioCodec) ∧
        (∀ codecProfile ∈ profile.codecProfiles,
          server.Passes source codecProfile) ∧
        source.bitrate ≤ profile.maxStaticBitrate ∧
        source.bitrate ≤ profile.maxStreamingBitrate ∧
        server.delivers profile.subtitleProfiles source

end Server

section Plays

variable (query : MediaCodecQuery) (mime : Text)

def Decodes : Prop :=
  ∃ info ∈ query.decoderInfos, supportsMime info mime

def DecodesAt (profile level : Nat) : Prop :=
  ∃ info ∈ query.decoderInfos, supportsProfileLevel info mime profile level

/-- The level is within the user's limit, or it is one of the levels up to
which a decoder plays the profile. -/
def LevelFits (levels : Ladder) (user : Option Nat) (profile level : Nat) :
    Prop :=
  match user with
  | some limit => level ≤ limit
  | none =>
      level = 0 ∨
        ∃ info ∈ query.decoderInfos, ∃ known ∈ profileLevels mime profile info,
          ∃ rung ∈ levels, rung.1 ≤ known ∧ level ≤ rung.2

/-- One decoder is wide enough, and one is high enough. -/
def SizeFits (width height : Nat) : Prop :=
  (width = 0 ∨
    ∃ info ∈ query.decoderInfos, ∃ size ∈ resolution mime info,
      width ≤ size.1) ∧
  (height = 0 ∨
    ∃ info ∈ query.decoderInfos, ∃ size ∈ resolution mime info,
      height ≤ size.2)

end Plays

/-- The format that the user may override the support for. -/
def HdrFormat.ofRangeType : VideoRangeType → Option HdrFormat
  | .HDR10 => some .HDR10
  | .HDR10_PLUS => some .HDR10_PLUS
  | .DOVI => some .DOVI_PROFILE_5
  | .DOVI_WITH_EL | .DOVI_WITH_ELHDR10_PLUS => some .DOVI_PROFILE_7
  | .DOVI_WITH_HDR10 | .DOVI_WITH_HDR10_PLUS => some .DOVI_PROFILE_8
  | _ => none

/-- The user decides, or else the device. -/
def RangeFits (preferences : UserPreferences) (deviceShows : Prop)
    (type : VideoRangeType) : Prop :=
  match (HdrFormat.ofRangeType type).map preferences.hdrOverride with
  | some .ENABLE => True
  | some .DISABLE => False
  | _ => deviceShows

section Shows

variable (query : MediaCodecQuery)

def Av1Shows : VideoRangeType → Prop
  | .DOVI_INVALID => False
  | .DOVI => supportsAV1DolbyVision query
  | .DOVI_WITH_HDR10 => supportsAV1DolbyVision query ∨ supportsAV1HDR10 query
  | .DOVI_WITH_HDR10_PLUS =>
      supportsAV1DolbyVision query ∨ supportsAV1HDR10Plus query
  | .HDR10_PLUS => supportsAV1HDR10Plus query
  | .HDR10 => supportsAV1HDR10Plus query ∨ supportsAV1HDR10 query
  | _ => True

/-- Profile 7 of Dolby Vision has an enhancement layer, which some devices
can show without saying so. -/
def HevcShowsProfile7 : Prop :=
  supportsHevcDolbyVisionEL query ∨
    KnownDefects.unreportedDoviProfile7Support query.device ∧
      supportsHevcDolbyVision query ∧ supportsHevcMain10 query ∧
        supportsHevcHDR10 query

def HevcShowsDolbyVision : Prop :=
  supportsHevcDolbyVisionEL query ∨ supportsHevcDolbyVision query

def HevcShows : VideoRangeType → Prop
  | .DOVI_INVALID => False
  | .DOVI_WITH_EL => HevcShowsProfile7 query
  | .DOVI_WITH_ELHDR10_PLUS =>
      ¬KnownDefects.hevcDoviHdr10PlusBug query.device ∧
        (HevcShowsProfile7 query ∨ supportsHevcHDR10Plus query)
  | .DOVI => HevcShowsDolbyVision query
  | .DOVI_WITH_HDR10 => HevcShowsDolbyVision query ∨ supportsHevcHDR10 query
  | .DOVI_WITH_HDR10_PLUS =>
      ¬KnownDefects.hevcDoviHdr10PlusBug query.device ∧
        (HevcShowsDolbyVision query ∨ supportsHevcHDR10Plus query)
  | .HDR10_PLUS => supportsHevcHDR10Plus query
  | .HDR10 => supportsHevcHDR10Plus query ∨ supportsHevcHDR10 query
  | _ => True

end Shows

section Formats

variable (query : MediaCodecQuery) (preferences : UserPreferences)
  (source : VideoSource)

/-- Wide videos may have few reference frames only. -/
structure AvcPlays : Prop where
  decodes : Decodes query MimeTypes.VIDEO_H264
  profile :
    source.videoProfile ∈ avcProfiles ∧
        LevelFits query MimeTypes.VIDEO_H264 AvcCodecCapabilities.LEVEL_MAP
          preferences.userAVCLevel AvcCodecCapabilities.AVCProfileMain
          source.videoLevel ∨
      source.videoProfile = "high 10".toList ∧
        DecodesAt query MimeTypes.VIDEO_H264
          AvcCodecCapabilities.AVCProfileHigh10
          AvcCodecCapabilities.AVCLevel4 ∧
        LevelFits query MimeTypes.VIDEO_H264 AvcCodecCapabilities.LEVEL_MAP
          preferences.userAVCLevel AvcCodecCapabilities.AVCProfileHigh10
          source.videoLevel
  refFrames : 1200 ≤ source.width → source.refFrames ≤ 12
  refFramesWide : 1900 ≤ source.width → source.refFrames ≤ 4
  size : SizeFits query MimeTypes.VIDEO_H264 source.width source.height

structure HevcPlays : Prop where
  decodes : Decodes query MimeTypes.VIDEO_H265
  profile :
    source.videoProfile = "main".toList ∧
        LevelFits query MimeTypes.VIDEO_H265 HevcCodecCapabilities.LEVEL_MAP
          preferences.userHEVCLevel HevcCodecCapabilities.HEVCProfileMain
          source.videoLevel ∨
      source.videoProfile = "main 10".toList ∧
        DecodesAt query MimeTypes.VIDEO_H265
          HevcCodecCapabilities.HEVCProfileMain10
          HevcCodecCapabilities.HEVCMainTierLevel4 ∧
        LevelFits query MimeTypes.VIDEO_H265 HevcCodecCapabilities.LEVEL_MAP
          preferences.userHEVCLevel HevcCodecCapabilities.HEVCProfileMain10
          source.videoLevel
  size : SizeFits query MimeTypes.VIDEO_H265 source.width source.height
  range :
    RangeFits preferences (HevcShows query source.videoRangeType)
      source.videoRangeType

structure Av1Plays : Prop where
  decodes : Decodes query MimeTypes.VIDEO_AV1
  profile :
    source.videoProfile = "main 10".toList →
      DecodesAt query MimeTypes.VIDEO_AV1
        Av1CodecCapabilities.AV1_PROFILE_MAIN10
        Av1CodecCapabilities.AV1_LEVEL5
  size : SizeFits query MimeTypes.VIDEO_AV1 source.width source.height
  range :
    RangeFits preferences (Av1Shows query source.videoRangeType)
      source.videoRangeType

structure Vc1Plays : Prop where
  decodes : Decodes query MimeTypes.VIDEO_VC1
  size : SizeFits query MimeTypes.VIDEO_VC1 source.width source.height

/-- The codec that a format of bitstreams is for. -/
def BitstreamAudioFormat.codec : BitstreamAudioFormat → Text
  | .AC3 => Codec.AC3
  | .EAC3 => Codec.EAC3
  | .DTS => Codec.DTS
  | .TRUEHD => Codec.TRUEHD

/-- The audio is passed on or decoded by the app. -/
structure AudioPlays (device : Device) : Prop where
  codec :
    source.audioCodec ∈
      if preferences.audioBehaviour = .DOWNMIX_TO_STEREO then
        downmixSupportedAudioCodecs
      else supportedAudioCodecs
  bitstream : ∀ format : BitstreamAudioFormat,
    source.audioCodec = format.codec →
      preferences.isBitstreamAudioEnabled device format
  channels :
    source.audioChannels ≤
      if preferences.audioBehaviour = .DOWNMIX_TO_STEREO then 2 else 8

/-- The device can play the video as it is. -/
structure Plays (device : Device) : Prop where
  container : source.container ∈ directPlayContainers
  codec : source.videoCodec ∈ directPlayVideoCodecs
  avc : source.videoCodec = H264 → AvcPlays query preferences source
  hevc : source.videoCodec = HEVC → HevcPlays query preferences source
  av1 : source.videoCodec = AV1 → Av1Plays query preferences source
  vc1 : source.videoCodec = VC1 → Vc1Plays query source
  audio : AudioPlays preferences source device

end Formats

end JellyfinTv.Profile
