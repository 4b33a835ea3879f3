import JellyfinTv.Profile.Codecs

/-!
# The device profile

The app describes to the server what the device can play: containers, codecs
and conditions on the streams.  The profile is built from the capabilities of
the device and the preferences of the user.
-/

namespace JellyfinTv.Profile

open JellyfinTv.Library
open MediaCodecCapabilitiesTest

inductive VideoRangeType where
  | UNKNOWN
  | SDR
  | HDR10
  | HLG
  | DOVI
  | DOVI_WITH_HDR10
  | DOVI_WITH_HLG
  | DOVI_WITH_SDR
  | DOVI_WITH_EL
  | DOVI_WITH_HDR10_PLUS
  | DOVI_WITH_ELHDR10_PLUS
  | DOVI_INVALID
  | HDR10_PLUS
  deriving DecidableEq, Repr

def VideoRangeType.serialName : VideoRangeType → Text
  | UNKNOWN => "Unknown".toList
  | SDR => "SDR".toList
  | HDR10 => "HDR10".toList
  | HLG => "HLG".toList
  | DOVI => "DOVI".toList
  | DOVI_WITH_HDR10 => "DOVIWithHDR10".toList
  | DOVI_WITH_HLG => "DOVIWithHLG".toList
  | DOVI_WITH_SDR => "DOVIWithSDR".toList
  | DOVI_WITH_EL => "DOVIWithEL".toList
  | DOVI_WITH_HDR10_PLUS => "DOVIWithHDR10Plus".toList
  | DOVI_WITH_ELHDR10_PLUS => "DOVIWithELHDR10Plus".toList
  | DOVI_INVALID => "DOVIInvalid".toList
  | HDR10_PLUS => "HDR10Plus".toList

inductive ProfileConditionValue where
  | VIDEO_PROFILE
  | VIDEO_LEVEL
  | REF_FRAMES
  | WIDTH
  | HEIGHT
  | VIDEO_RANGE_TYPE
  | AUDIO_CHANNELS
  deriving DecidableEq, Repr

inductive ProfileCondition where
  | equals (property : ProfileConditionValue) (value : Text)
  | notEquals (property : ProfileConditionValue) (value : Text)
  | inCollection (property : ProfileConditionValue) (values : List Text)
  | lowerThanOrEquals (property : ProfileConditionValue) (value : Nat)
  | greaterThanOrEquals (property : ProfileConditionValue) (value : Nat)
  deriving DecidableEq, Repr

inductive CodecType where
  | VIDEO
  | VIDEO_AUDIO
  deriving DecidableEq, Repr

structure CodecProfile where
  type : CodecType
  codec : Option Text
  conditions : List ProfileCondition
  applyConditions : List ProfileCondition
  deriving DecidableEq, Repr

inductive DlnaProfileType where
  | VIDEO
  | AUDIO
  deriving DecidableEq, Repr

structure DirectPlayProfile where
  type : DlnaProfileType
  container : List Text
  videoCodec : List Text
  audioCodec : List Text
  deriving DecidableEq, Repr

/-- A profile for streaming over HLS. -/
structure TranscodingProfile where
  type : DlnaProfileType
  container : Text
  videoCodec : List Text
  audioCodec : List Text
  enableSubtitlesInManifest : Bool
  deriving DecidableEq, Repr

inductive SubtitleDeliveryMethod where
  | EMBED
  | EXTERNAL
  | HLS
  | ENCODE
  deriving DecidableEq, Repr

structure SubtitleProfile where
  format : Text
  method : SubtitleDeliveryMethod
  deriving DecidableEq, Repr

structure DeviceProfile where
  name : Text
  maxStaticBitrate : Int
  maxStreamingBitrate : Int
  transcodingProfiles : List TranscodingProfile
  directPlayProfiles : List DirectPlayProfile
  codecProfiles : List CodecProfile
  subtitleProfiles : List SubtitleProfile
  deriving DecidableEq, Repr

inductive HdrOverrideMode where
  | AUTO
  | ENABLE
  | DISABLE
  deriving DecidableEq, Repr

inductive BitstreamAudioMode where
  | AUTO
  | ENABLE
  | DISABLE
  deriving DecidableEq, Repr

inductive AudioBehavior where
  | DIRECT_STREAM
  | DOWNMIX_TO_STEREO
  deriving DecidableEq, Repr

inductive HdrFormat where
  | HDR10
  | HDR10_PLUS
  | DOVI_PROFILE_5
  | DOVI_PROFILE_7
  | DOVI_PROFILE_8
  deriving DecidableEq, Repr

namespace HdrFormat

def entries : List HdrFormat :=
  [HDR10, HDR10_PLUS, DOVI_PROFILE_5, DOVI_PROFILE_7, DOVI_PROFILE_8]

def videoRangeTypes : HdrFormat → List VideoRangeType
  | HDR10 => [.HDR10]
  | HDR10_PLUS => [.HDR10_PLUS]
  | DOVI_PROFILE_5 => [.DOVI]
  | DOVI_PROFILE_7 => [.DOVI_WITH_EL, .DOVI_WITH_ELHDR10_PLUS]
  | DOVI_PROFILE_8 => [.DOVI_WITH_HDR10, .DOVI_WITH_HDR10_PLUS]

end HdrFormat

inductive BitstreamAudioFormat where
  | AC3
  | EAC3
  | DTS
  | TRUEHD
  deriving DecidableEq, Repr

def BitstreamAudioFormat.mimeType : BitstreamAudioFormat → Text
  | AC3 => MimeTypes.AUDIO_AC3
  | EAC3 => MimeTypes.AUDIO_E_AC3
  | DTS => MimeTypes.AUDIO_DTS
  | TRUEHD => MimeTypes.AUDIO_TRUEHD

/-- The preferences that profiles depend on.  The levels of `AVCLevel` and
`HEVCLevel` are missing for automatic ones. -/
structure UserPreferences where
  softwareCodecsEnabled : Bool
  bitstream : BitstreamAudioFormat → BitstreamAudioMode
  hdrOverride : HdrFormat → HdrOverrideMode
  audioBehaviour : AudioBehavior
  assDirectPlay : Bool
  pgsDirectPlay : Bool
  userAVCLevel : Option Nat
  userHEVCLevel : Option Nat

namespace UserPreferences

def getHdrRangeTypesFor (preferences : UserPreferences)
    (mode : HdrOverrideMode) : List VideoRangeType :=
  (HdrFormat.entries.filter fun format =>
    preferences.hdrOverride format = mode).flatMap HdrFormat.videoRangeTypes

def isBitstreamAudioEnabled (preferences : UserPreferences) (device : Device)
    (format : BitstreamAudioFormat) : Bool :=
  match preferences.bitstream format with
  | .AUTO => device.passthroughMimeTypes.contains format.mimeType
  | .ENABLE => true
  | .DISABLE => false

end UserPreferences

def modelsWithDoViHdr10PlusBug : List Text :=
  ["AFTKRT".toList, "AFTKA".toList, "AFTKM".toList, "AFTMM".toList]

def modelsWithUnreportedDoviProfile7Support : List Text :=
  ["SHIELD Android TV".toList]

namespace KnownDefects

def hevcDoviHdr10PlusBug (device : Device) : Bool :=
  modelsWithDoViHdr10PlusBug.contains device.MODEL

def unreportedDoviProfile7Support (device : Device) : Bool :=
  modelsWithUnreportedDoviProfile7Support.contains device.MODEL

end KnownDefects

namespace Codec

def H264 : Text := "h264".toList

def HEVC : Text := "hevc".toList

def AV1 : Text := "av1".toList

def VC1 : Text := "vc1".toList

def AC3 : Text := "ac3".toList

def EAC3 : Text := "eac3".toList

def TRUEHD : Text := "truehd".toList

def DTS : Text := "dts".toList

def AAC : Text := "aac".toList

end Codec

open Codec

def downmixSupportedAudioCodecs : List Text :=
  [AAC, "mp2".toList, "mp3".toList]

def supportedAudioCodecs : List Text :=
  [AAC, "aac_latm".toList, AC3, "alac".toList, "dca".toList, DTS, EAC3,
    "flac".toList, "mlp".toList, "mp2".toList, "mp3".toList, "opus".toList,
    "pcm_alaw".toList, "pcm_mulaw".toList, "pcm_s16le".toList,
    "pcm_s20le".toList, "pcm_s24le".toList, TRUEHD, "vorbis".toList]

def hlsMpegTsAudioCodecs : List Text :=
  [AAC, AC3, EAC3, "mp3".toList]

def hlsFmp4AudioCodecs : List Text :=
  [AAC, AC3, EAC3, "mp3".toList, "alac".toList, "flac".toList, "opus".toList,
    DTS]

def directPlayContainers : List Text :=
  ["asf".toList, "hls".toList, "m4v".toList, "mkv".toList, "mov".toList,
    "mp4".toList, "ogm".toList, "ogv".toList, "ts".toList, "vob".toList,
    "webm".toList, "wmv".toList, "xvid".toList]

def directPlayVideoCodecs : List Text :=
  [AV1, H264, HEVC, "mpeg".toList, "mpeg2video".toList, VC1, "vp8".toList,
    "vp9".toList]

/-- What a profile depends on besides the capabilities of the device. -/
structure Options where
  maxBitrate : Int
  isAC3PrefEnabled : Bool
  isEAC3PrefEnabled : Bool
  isDTSPrefEnabled : Bool
  isTrueHDPrefEnabled : Bool
  downMixAudio : Bool
  assDirectPlay : Bool
  pgsDirectPlay : Bool
  userAVCLevel : Option Nat
  userHEVCLevel : Option Nat
  forceEnabledHdr : List VideoRangeType
  forceDisabledHdr : List VideoRangeType
  deriving DecidableEq, Repr

section Building

variable (mediaTest : MediaCodecQuery) (options : Options)

def allowedAudioCodecs : List Text :=
  (if options.downMixAudio then downmixSupportedAudioCodecs
    else supportedAudioCodecs).filter fun codec =>
    if codec = AC3 then options.isAC3PrefEnabled
    else if codec = EAC3 then options.isEAC3PrefEnabled
    else if codec = TRUEHD then options.isTrueHDPrefEnabled
    else if codec = DTS then options.isDTSPrefEnabled
    else true

/-- The entries of a set for which a test holds. -/
def included {Entry : Type} (entries : List (Entry × Bool)) : List Entry :=
  (entries.filter Prod.snd).map Prod.fst

/-- `set - forceEnabledHdr + forceDisabledHdr` -/
def overridden (set : List VideoRangeType) : List VideoRangeType :=
  let left := set.filter (· ∉ options.forceEnabledHdr)
  left ++ options.forceDisabledHdr.filter (· ∉ left)

def unsupportedRangeTypesAv1 : List VideoRangeType :=
  let noDolbyVision := !supportsAV1DolbyVision mediaTest
  let noHDR10 := !supportsAV1HDR10 mediaTest
  let noHDR10Plus := !supportsAV1HDR10Plus mediaTest
  overridden options <|
    included
      [(.DOVI_INVALID, true),
        (.DOVI, noDolbyVision),
        (.DOVI_WITH_HDR10, noDolbyVision && noHDR10),
        (.DOVI_WITH_HDR10_PLUS, noDolbyVision && noHDR10Plus),
        (.HDR10_PLUS, noHDR10Plus),
        (.HDR10, noHDR10Plus && noHDR10)]

def unsupportedRangeTypesHevc : List VideoRangeType :=
  let noDolbyVision := !supportsHevcDolbyVision mediaTest
  let noDolbyVisionEL := !supportsHevcDolbyVisionEL mediaTest
  let noHDR10 := !supportsHevcHDR10 mediaTest
  let noHDR10Plus := !supportsHevcHDR10Plus mediaTest
  let bug := KnownDefects.hevcDoviHdr10PlusBug mediaTest.device
  let noProfile7 :=
    noDolbyVisionEL &&
      (!KnownDefects.unreportedDoviProfile7Support mediaTest.device ||
        noDolbyVision || !supportsHevcMain10 mediaTest || noHDR10)
  overridden options <|
    included
      [(.DOVI_INVALID, true),
        (.DOVI_WITH_EL, noProfile7),
        (.DOVI_WITH_ELHDR10_PLUS, noProfile7 && (noHDR10Plus && !bug)),
        (.DOVI, noDolbyVisionEL && noDolbyVision),
        (.DOVI_WITH_HDR10, noDolbyVisionEL && noDolbyVision && noHDR10),
        (.DOVI_WITH_HDR10_PLUS,
          noDolbyVisionEL && noDolbyVision && (noHDR10Plus && !bug)),
        (.HDR10_PLUS, noHDR10Plus),
        (.HDR10, noHDR10Plus && noHDR10),
        (.DOVI_WITH_HDR10_PLUS, bug),
        (.DOVI_WITH_ELHDR10_PLUS, bug)]

def joinToString (separator : Char) (texts : List Text) : Text :=
  [separator].intercalate texts

/-- Streams of a codec in one of the range types are not played. -/
def rangeProfile (codec : Text) (unsupported : List VideoRangeType) :
    List CodecProfile :=
  let names := unsupported.map VideoRangeType.serialName
  if unsupported.isEmpty then
    []
  else
    [⟨.VIDEO, some codec,
      [.notEquals .VIDEO_RANGE_TYPE (joinToString '|' names)],
      [.inCollection .VIDEO_RANGE_TYPE names]⟩]

/-- Streams of a codec up to a resolution. -/
def resolutionProfile (codec mime : Text) : CodecProfile :=
  let maxResolution := mediaTest.getMaxResolution mime
  ⟨.VIDEO, some codec,
    [.lowerThanOrEquals .WIDTH maxResolution.width,
      .lowerThanOrEquals .HEIGHT maxResolution.height], []⟩

def avcProfiles : List Text :=
  ["high".toList, "main".toList, "baseline".toList,
    "constrained baseline".toList]

def codecProfiles : List CodecProfile :=
  let hevcMainLevel :=
    options.userHEVCLevel.getD (getHevcMainLevel mediaTest)
  let hevcMain10Level :=
    options.userHEVCLevel.getD (getHevcMain10Level mediaTest)
  let avcMainLevel := options.userAVCLevel.getD (getAVCMainLevel mediaTest)
  let avcHigh10Level := options.userAVCLevel.getD (getAVCHigh10Level mediaTest)
  [⟨.VIDEO, some H264,
      [if !supportsAVC mediaTest then .equals .VIDEO_PROFILE "none".toList
        else
          .inCollection .VIDEO_PROFILE
            (avcProfiles ++
              if supportsAVCHigh10 mediaTest then ["high 10".toList] else [])],
      []⟩] ++
    (if supportsAVC mediaTest then
      [⟨.VIDEO, some H264, [.lowerThanOrEquals .VIDEO_LEVEL avcMainLevel],
        [.inCollection .VIDEO_PROFILE avcProfiles]⟩]
    else []) ++
    (if supportsAVCHigh10 mediaTest then
      [⟨.VIDEO, some H264, [.lowerThanOrEquals .VIDEO_LEVEL avcHigh10Level],
        [.equals .VIDEO_PROFILE "high 10".toList]⟩]
    else []) ++
    [⟨.VIDEO, some H264, [.lowerThanOrEquals .REF_FRAMES 12],
        [.greaterThanOrEquals .WIDTH 1200]⟩,
      ⟨.VIDEO, some H264, [.lowerThanOrEquals .REF_FRAMES 4],
        [.greaterThanOrEquals .WIDTH 1900]⟩,
      ⟨.VIDEO, some HEVC,
        [if !supportsHevc mediaTest then .equals .VIDEO_PROFILE "none".toList
          else
            .inCollection .VIDEO_PROFILE
              ("main".toList ::
                if supportsHevcMain10 mediaTest then ["main 10".toList]
                else [])],
        []⟩] ++
    (if supportsHevc mediaTest then
      [⟨.VIDEO, some HEVC, [.lowerThanOrEquals .VIDEO_LEVEL hevcMainLevel],
        [.equals .VIDEO_PROFILE "main".toList]⟩]
    else []) ++
    (if supportsHevcMain10 mediaTest then
      [⟨.VIDEO, some HEVC, [.lowerThanOrEquals .VIDEO_LEVEL hevcMain10Level],
        [.equals .VIDEO_PROFILE "main 10".toList]⟩]
    else []) ++
    [⟨.VIDEO, some AV1,
        [if !supportsAV1 mediaTest then .equals .VIDEO_PROFILE "none".toList
          else if !supportsAV1Main10 mediaTest then
            .notEquals .VIDEO_PROFILE "main 10".toList
          else .notEquals .VIDEO_PROFILE "none".toList],
        []⟩,
      ⟨.VIDEO, some VC1,
        [if !supportsVc1 mediaTest then .equals .VIDEO_PROFILE "none".toList
          else .notEquals .VIDEO_PROFILE "none".toList],
        []⟩,
      resolutionProfile mediaTest H264 MimeTypes.VIDEO_H264,
      resolutionProfile mediaTest HEVC MimeTypes.VIDEO_H265,
      resolutionProfile mediaTest AV1 MimeTypes.VIDEO_AV1,
      resolutionProfile mediaTest VC1 MimeTypes.VIDEO_VC1] ++
    rangeProfile AV1 (unsupportedRangeTypesAv1 mediaTest options) ++
    rangeProfile HEVC (unsupportedRangeTypesHevc mediaTest options) ++
    [{ type := CodecType.VIDEO_AUDIO
       codec := none
       conditions :=
        [.lowerThanOrEquals .AUDIO_CHANNELS
          (if options.downMixAudio then 2 else 8)]
       applyConditions := [] }]

/-- The ways in which subtitles of a format may be delivered. -/
def subtitleProfile (format : String) (embedded external hls encode : Bool) :
    List SubtitleProfile :=
  (included
    [(.EMBED, embedded), (.EXTERNAL, external), (.HLS, hls),
      (.ENCODE, encode)]).map fun method => ⟨format.toList, method⟩

def subtitleProfiles : List SubtitleProfile :=
  subtitleProfile "vtt" true true true false ++
    subtitleProfile "webvtt" true true true false ++
    subtitleProfile "srt" true true false false ++
    subtitleProfile "subrip" true true false false ++
    subtitleProfile "ttml" true true false false ++
    subtitleProfile "dvbsub" true false false true ++
    subtitleProfile "dvdsub" true false false true ++
    subtitleProfile "idx" true false false true ++
    subtitleProfile "pgs" options.pgsDirectPlay false false true ++
    subtitleProfile "pgssub" options.pgsDirectPlay false false true ++
    subtitleProfile "ass" options.assDirectPlay options.assDirectPlay false
      true ++
    subtitleProfile "ssa" options.assDirectPlay options.assDirectPlay false
      true

def createDeviceProfile : DeviceProfile where
  name := "AndroidTV-Default".toList
  maxStaticBitrate := options.maxBitrate
  maxStreamingBitrate := options.maxBitrate
  transcodingProfiles :=
    let hlsVideoCodecs :=
      if supportsHevc mediaTest then [HEVC, H264] else [H264]
    [⟨.VIDEO, "ts".toList, hlsVideoCodecs,
        hlsMpegTsAudioCodecs.filter (allowedAudioCodecs options).contains,
        true⟩,
      ⟨.VIDEO, "mp4".toList, hlsVideoCodecs,
        hlsFmp4AudioCodecs.filter (allowedAudioCodecs options).contains,
        true⟩,
      { type := DlnaProfileType.AUDIO
        container := "ts".toList
        videoCodec := []
        audioCodec := [AAC]
        enableSubtitlesInManifest := false }]
  directPlayProfiles :=
    [⟨.VIDEO, directPlayContainers, directPlayVideoCodecs,
        allowedAudioCodecs options⟩,
      { type := DlnaProfileType.AUDIO
        container := []
        videoCodec := []
        audioCodec := allowedAudioCodecs options }]
  codecProfiles := codecProfiles mediaTest options
  subtitleProfiles := subtitleProfiles options

end Building

/-- The maximal bitrate is given. -/
def UserPreferences.options (preferences : UserPreferences) (device : Device)
    (maxBitrate : Int) : Options where
  maxBitrate := maxBitrate
  isAC3PrefEnabled := preferences.isBitstreamAudioEnabled device .AC3
  isEAC3PrefEnabled := preferences.isBitstreamAudioEnabled device .EAC3
  isDTSPrefEnabled := preferences.isBitstreamAudioEnabled device .DTS
  isTrueHDPrefEnabled := preferences.isBitstreamAudioEnabled device .TRUEHD
  downMixAudio := preferences.audioBehaviour = .DOWNMIX_TO_STEREO
  assDirectPlay := preferences.assDirectPlay
  pgsDirectPlay := preferences.pgsDirectPlay
  userAVCLevel := preferences.userAVCLevel
  userHEVCLevel := preferences.userHEVCLevel
  forceEnabledHdr := preferences.getHdrRangeTypesFor .ENABLE
  forceDisabledHdr := preferences.getHdrRangeTypesFor .DISABLE

def createDeviceProfileFor (device : Device) (preferences : UserPreferences)
    (maxBitrate : Int) : DeviceProfile :=
  createDeviceProfile ⟨device, preferences.softwareCodecsEnabled⟩
    (preferences.options device maxBitrate)

end JellyfinTv.Profile
