import JellyfinTv.Profile.DirectPlay

/-!
# What the app lets the server send

The device profile lets the server send a video as it is just if the device
plays it, and with more decoders the device plays more.
-/

namespace JellyfinTv.Profile

open JellyfinTv.Library
open MediaCodecCapabilitiesTest MediaCodecQuery Codec

section Decoders

variable {query : MediaCodecQuery} {mime : Text}

theorem hasCodecForMime_iff :
    query.hasCodecForMime mime = true ↔ Decodes query mime := by
  simp [hasCodecForMime, Decodes]

theorem hasDecoder_iff {profile level : Nat} :
    query.hasDecoder mime profile level = true ↔
      DecodesAt query mime profile level := by
  simp [hasDecoder, DecodesAt]

theorem levelFits_iff {levels : Ladder} (ascending : levels.Ascending)
    (positive : ∀ rung ∈ levels, 0 < rung.1) {user : Option Nat}
    {profile level : Nat} :
    level ≤ user.getD (levels.climb (query.getDecoderLevel mime profile)) ↔
      LevelFits query mime levels user profile level := by
  cases user with
  | some limit =>
      exact Iff.rfl
  | none =>
      have reached : ∀ rung ∈ levels,
          rung.1 ≤ query.getDecoderLevel mime profile ↔
            ∃ info ∈ query.decoderInfos,
              ∃ known ∈ profileLevels mime profile info, rung.1 ≤ known := by
        intro rung member
        have above := positive rung member
        unfold getDecoderLevel
        rw [le_foldl_max_iff, or_iff_right (by omega)]
        simp only [List.mem_flatMap]
        constructor
        · rintro ⟨known, ⟨info, listed, found⟩, fits⟩
          exact ⟨info, listed, known, found, fits⟩
        · rintro ⟨info, listed, known, found, fits⟩
          exact ⟨known, ⟨info, listed, found⟩, fits⟩
      rw [Option.getD_none, Ladder.le_climb_iff ascending]
      refine or_congr_right ?_
      constructor
      · rintro ⟨rung, member, fits, within⟩
        obtain ⟨info, listed, known, found, above⟩ :=
          (reached rung member).mp fits
        exact ⟨info, listed, known, found, rung, member, above, within⟩
      · rintro ⟨info, listed, known, found, rung, member, above, within⟩
        have fits :=
          (reached rung member).mpr ⟨info, listed, known, found, above⟩
        exact ⟨rung, member, fits, within⟩

/-- A size is at most the largest one of the decoders. -/
theorem le_largest_iff {infos : List MediaCodecInfo}
    {side : Nat × Nat → Nat} {size : Nat} :
    size ≤ (((infos.filterMap (resolution mime)).map side).foldl max 0) ↔
      size = 0 ∨
        ∃ info ∈ infos, ∃ largest ∈ resolution mime info,
          size ≤ side largest := by
  rw [le_foldl_max_iff, Nat.le_zero]
  refine or_congr_right ?_
  constructor
  · rintro ⟨value, member, within⟩
    obtain ⟨largest, found, rfl⟩ := List.mem_map.mp member
    obtain ⟨info, listed, known⟩ := List.mem_filterMap.mp found
    exact ⟨info, listed, largest, known, within⟩
  · rintro ⟨info, listed, largest, known, within⟩
    have found := List.mem_filterMap.mpr ⟨info, listed, known⟩
    exact ⟨side largest, List.mem_map.mpr ⟨largest, found, rfl⟩, within⟩

theorem sizeFits_iff {width height : Nat} :
    (width ≤ (query.getMaxResolution mime).width ∧
        height ≤ (query.getMaxResolution mime).height) ↔
      SizeFits query mime width height :=
  and_congr le_largest_iff le_largest_iff

end Decoders

theorem mem_included {Entry : Type} {entries : List (Entry × Bool)}
    {entry : Entry} :
    entry ∈ included entries ↔ (entry, true) ∈ entries := by
  unfold included
  constructor
  · intro member
    obtain ⟨⟨_, _⟩, found, rfl⟩ := List.mem_map.mp member
    obtain ⟨listed, rfl⟩ := List.mem_filter.mp found
    exact listed
  · intro listed
    exact List.mem_map.mpr ⟨_, List.mem_filter.mpr ⟨listed, rfl⟩, rfl⟩

theorem mem_overridden {options : Options} {set : List VideoRangeType}
    {type : VideoRangeType} :
    type ∈ overridden options set ↔
      type ∈ options.forceDisabledHdr ∨
        type ∈ set ∧ type ∉ options.forceEnabledHdr := by
  simp only [overridden, List.mem_append, List.mem_filter, decide_eq_true_iff]
  tauto

namespace HdrFormat

theorem mem_entries (format : HdrFormat) : format ∈ entries := by
  cases format <;> decide

theorem mem_videoRangeTypes_iff {format : HdrFormat} {type : VideoRangeType} :
    type ∈ format.videoRangeTypes ↔ ofRangeType type = some format := by
  cases format <;> cases type <;> decide

end HdrFormat

theorem mem_getHdrRangeTypesFor_iff {preferences : UserPreferences}
    {mode : HdrOverrideMode} {type : VideoRangeType} :
    type ∈ preferences.getHdrRangeTypesFor mode ↔
      (HdrFormat.ofRangeType type).map preferences.hdrOverride = some mode := by
  unfold UserPreferences.getHdrRangeTypesFor
  simp only [List.mem_flatMap, List.mem_filter, HdrFormat.mem_entries,
    HdrFormat.mem_videoRangeTypes_iff, true_and, decide_eq_true_iff,
    Option.map_eq_some_iff]
  constructor
  · rintro ⟨format, chosen, belongs⟩
    exact ⟨format, belongs, chosen⟩
  · rintro ⟨format, belongs, chosen⟩
    exact ⟨format, chosen, belongs⟩

/-- The overrides decide on their types, and the device on the others. -/
theorem rangeFits_iff {preferences : UserPreferences} {device : Device}
    {maxBitrate : Int} {set : List VideoRangeType} {type : VideoRangeType} :
    type ∉ overridden (preferences.options device maxBitrate) set ↔
      RangeFits preferences (type ∉ set) type := by
  have disabled :
      type ∈ (preferences.options device maxBitrate).forceDisabledHdr ↔
        (HdrFormat.ofRangeType type).map preferences.hdrOverride =
          some .DISABLE :=
    mem_getHdrRangeTypesFor_iff
  have enabled :
      type ∈ (preferences.options device maxBitrate).forceEnabledHdr ↔
        (HdrFormat.ofRangeType type).map preferences.hdrOverride =
          some .ENABLE :=
    mem_getHdrRangeTypesFor_iff
  rw [mem_overridden, disabled, enabled]
  unfold RangeFits
  cases (HdrFormat.ofRangeType type).map preferences.hdrOverride with
  | none =>
      simp
  | some mode =>
      cases mode <;> simp

section Shows

variable {query : MediaCodecQuery} {preferences : UserPreferences}
  {device : Device} {maxBitrate : Int} {type : VideoRangeType}

theorem rangeFits_congr {first second : Prop} (same : first ↔ second) :
    RangeFits preferences first type ↔ RangeFits preferences second type := by
  rw [propext same]

theorem av1RangeFits_iff :
    type ∉
        unsupportedRangeTypesAv1 query
          (preferences.options device maxBitrate) ↔
      RangeFits preferences (Av1Shows query type) type := by
  unfold unsupportedRangeTypesAv1
  rw [rangeFits_iff]
  refine rangeFits_congr ?_
  rw [mem_included]
  cases type <;> simp [Av1Shows] <;> grind

theorem hevcRangeFits_iff :
    type ∉
        unsupportedRangeTypesHevc query
          (preferences.options device maxBitrate) ↔
      RangeFits preferences (HevcShows query type) type := by
  unfold unsupportedRangeTypesHevc
  rw [rangeFits_iff]
  refine rangeFits_congr ?_
  rw [mem_included]
  cases type <;>
    simp [HevcShows, HevcShowsProfile7, HevcShowsDolbyVision] <;> grind

end Shows

namespace Server.Documented

section Conditions

variable {server : Server} (documented : server.Documented)
  {source : VideoSource}
include documented

theorem profile_equals_iff {value : Text} :
    server.meets source (.equals .VIDEO_PROFILE value) ↔
      source.videoProfile = value :=
  documented.equals source .VIDEO_PROFILE _ rfl value

theorem profile_notEquals_iff {value : Text} :
    server.meets source (.notEquals .VIDEO_PROFILE value) ↔
      source.videoProfile ≠ value :=
  documented.notEquals source .VIDEO_PROFILE (by decide) _ rfl value

theorem profile_inCollection_iff {values : List Text} :
    server.meets source (.inCollection .VIDEO_PROFILE values) ↔
      source.videoProfile ∈ values :=
  documented.inCollection source .VIDEO_PROFILE _ rfl values

theorem rangeType_inCollection_iff {values : List Text} :
    server.meets source (.inCollection .VIDEO_RANGE_TYPE values) ↔
      source.videoRangeType.serialName ∈ values :=
  documented.inCollection source .VIDEO_RANGE_TYPE _ rfl values

theorem level_le_iff {value : Nat} :
    server.meets source (.lowerThanOrEquals .VIDEO_LEVEL value) ↔
      source.videoLevel ≤ value :=
  documented.lowerThanOrEquals source .VIDEO_LEVEL _ rfl value

theorem refFrames_le_iff {value : Nat} :
    server.meets source (.lowerThanOrEquals .REF_FRAMES value) ↔
      source.refFrames ≤ value :=
  documented.lowerThanOrEquals source .REF_FRAMES _ rfl value

theorem width_le_iff {value : Nat} :
    server.meets source (.lowerThanOrEquals .WIDTH value) ↔
      source.width ≤ value :=
  documented.lowerThanOrEquals source .WIDTH _ rfl value

theorem height_le_iff {value : Nat} :
    server.meets source (.lowerThanOrEquals .HEIGHT value) ↔
      source.height ≤ value :=
  documented.lowerThanOrEquals source .HEIGHT _ rfl value

theorem channels_le_iff {value : Nat} :
    server.meets source (.lowerThanOrEquals .AUDIO_CHANNELS value) ↔
      source.audioChannels ≤ value :=
  documented.lowerThanOrEquals source .AUDIO_CHANNELS _ rfl value

theorem le_width_iff {value : Nat} :
    server.meets source (.greaterThanOrEquals .WIDTH value) ↔
      value ≤ source.width :=
  documented.greaterThanOrEquals source .WIDTH _ rfl value

/-- Without support no known profile is allowed. -/
theorem supported_iff (known : source.videoProfile ≠ "none".toList)
    {supported : Bool} {condition : ProfileCondition} :
    server.meets source
        (if (!supported) = true then .equals .VIDEO_PROFILE "none".toList
        else condition) ↔
      supported = true ∧ server.meets source condition := by
  cases supported with
  | false =>
      rw [if_pos Bool.not_false, documented.profile_equals_iff]
      simp only [known, Bool.false_eq_true, false_and]
  | true =>
      simp

theorem main10_iff (known : source.videoProfile ≠ "none".toList)
    {supported : Bool} :
    server.meets source
        (if (!supported) = true then
          .notEquals .VIDEO_PROFILE "main 10".toList
        else .notEquals .VIDEO_PROFILE "none".toList) ↔
      (source.videoProfile = "main 10".toList → supported = true) := by
  cases supported with
  | false =>
      rw [if_pos Bool.not_false, documented.profile_notEquals_iff]
      simp
  | true =>
      rw [if_neg (by simp), documented.profile_notEquals_iff]
      simp only [known, ne_eq, not_false_eq_true, implies_true]

end Conditions

end Server.Documented

section Passes

variable {server : Server} {source : VideoSource}

theorem passes_video_iff {codec : Text}
    {conditions applyConditions : List ProfileCondition} :
    server.Passes source
        ⟨.VIDEO, some codec, conditions, applyConditions⟩ ↔
      (source.videoCodec = codec →
        (∀ condition ∈ applyConditions, server.meets source condition) →
          ∀ condition ∈ conditions, server.meets source condition) := by
  simp [Server.Passes, VideoSource.codec, eq_comm]

theorem passes_audio_iff {conditions : List ProfileCondition} :
    server.Passes source
        { type := CodecType.VIDEO_AUDIO
          codec := none
          conditions := conditions
          applyConditions := [] } ↔
      ∀ condition ∈ conditions, server.meets source condition := by
  simp [Server.Passes]

theorem forall_mem_if {Entry : Type} {included : Prop} [Decidable included]
    {entry : Entry} {property : Entry → Prop} :
    (∀ other ∈ if included then [entry] else [], property other) ↔
      (included → property entry) := by
  by_cases chosen : included <;> simp [chosen]

/-- The streams in the unsupported types do not pass. -/
theorem passes_rangeProfile_iff (documented : server.Documented)
    {codec : Text} {unsupported : List VideoRangeType} :
    (∀ profile ∈ rangeProfile codec unsupported,
        server.Passes source profile) ↔
      (source.videoCodec = codec → source.videoRangeType ∉ unsupported) := by
  have listed_iff :
      source.videoRangeType.serialName ∈
          unsupported.map VideoRangeType.serialName ↔
        source.videoRangeType ∈ unsupported := by
    refine List.mem_map_of_injective ?_
    intro first second
    cases first <;> cases second <;> decide
  unfold rangeProfile
  cases empty : unsupported.isEmpty with
  | true =>
      simp [List.isEmpty_iff.mp empty]
  | false =>
      rw [if_neg (by simp), List.forall_mem_singleton, passes_video_iff]
      refine imp_congr_right fun _ => ?_
      simp only [List.forall_mem_singleton,
        documented.rangeType_inCollection_iff, listed_iff]
      constructor
      · intro differs member
        exact
          documented.notEqualsRangeTypes source unsupported member
            (differs member)
      · intro missing member
        exact absurd member missing

end Passes

/-! ## Formats -/

section Formats

variable {query : MediaCodecQuery} {preferences : UserPreferences}
  {source : VideoSource}

theorem avcPlays_iff :
    AvcPlays query preferences source ↔
      (supportsAVC query = true ∧
        (source.videoProfile ∈ avcProfiles ∨
          supportsAVCHigh10 query = true ∧
            source.videoProfile = "high 10".toList)) ∧
      (supportsAVC query = true → source.videoProfile ∈ avcProfiles →
        source.videoLevel ≤
          preferences.userAVCLevel.getD (getAVCMainLevel query)) ∧
      (supportsAVCHigh10 query = true →
        source.videoProfile = "high 10".toList →
          source.videoLevel ≤
            preferences.userAVCLevel.getD (getAVCHigh10Level query)) ∧
      (1200 ≤ source.width → source.refFrames ≤ 12) ∧
      (1900 ≤ source.width → source.refFrames ≤ 4) ∧
      source.width ≤ (query.getMaxResolution MimeTypes.VIDEO_H264).width ∧
      source.height ≤ (query.getMaxResolution MimeTypes.VIDEO_H264).height := by
  have fits {profile : Nat} :
      source.videoLevel ≤
          preferences.userAVCLevel.getD
            (AvcCodecCapabilities.getLevel query profile) ↔ _ :=
    levelFits_iff (by decide) (by decide)
  have high10_other : "high 10".toList ∉ avcProfiles := by
    decide
  rw [sizeFits_iff]
  unfold getAVCMainLevel getAVCHigh10Level supportsAVC supportsAVCHigh10
  rw [fits, fits, hasCodecForMime_iff, hasDecoder_iff]
  constructor
  · rintro ⟨decodes, main | ⟨high10, decodesAt, level⟩, frames, wide, size⟩
    · refine ⟨⟨decodes, .inl main.1⟩, fun _ _ => main.2, fun _ high10 => ?_,
        frames, wide, size⟩
      exact absurd (high10 ▸ main.1) high10_other
    · refine ⟨⟨decodes, .inr ⟨decodesAt, high10⟩⟩, fun _ main => ?_,
        fun _ _ => level, frames, wide, size⟩
      exact absurd (high10 ▸ main) high10_other
  · rintro ⟨⟨decodes, listed | ⟨decodesAt, same⟩⟩, main, high10, frames, wide,
      size⟩
    · exact ⟨decodes, .inl ⟨listed, main decodes listed⟩, frames, wide, size⟩
    · exact
        ⟨decodes, .inr ⟨same, decodesAt, high10 decodesAt same⟩, frames, wide,
          size⟩

theorem hevcPlays_iff {device : Device} {maxBitrate : Int} :
    HevcPlays query preferences source ↔
      (supportsHevc query = true ∧
        (source.videoProfile = "main".toList ∨
          supportsHevcMain10 query = true ∧
            source.videoProfile = "main 10".toList)) ∧
      (supportsHevc query = true → source.videoProfile = "main".toList →
        source.videoLevel ≤
          preferences.userHEVCLevel.getD (getHevcMainLevel query)) ∧
      (supportsHevcMain10 query = true →
        source.videoProfile = "main 10".toList →
          source.videoLevel ≤
            preferences.userHEVCLevel.getD (getHevcMain10Level query)) ∧
      (source.width ≤ (query.getMaxResolution MimeTypes.VIDEO_H265).width ∧
        source.height ≤
          (query.getMaxResolution MimeTypes.VIDEO_H265).height) ∧
      source.videoRangeType ∉
        unsupportedRangeTypesHevc query
          (preferences.options device maxBitrate) := by
  have fits {profile : Nat} :
      source.videoLevel ≤
          preferences.userHEVCLevel.getD
            (HevcCodecCapabilities.getLevel query profile) ↔ _ :=
    levelFits_iff (by decide) (by decide)
  have main10_other : "main 10".toList ≠ "main".toList := by
    decide
  rw [sizeFits_iff, hevcRangeFits_iff]
  unfold getHevcMainLevel getHevcMain10Level supportsHevc supportsHevcMain10
  rw [fits, fits, hasCodecForMime_iff, hasDecoder_iff]
  constructor
  · rintro ⟨decodes, main | ⟨main10, decodesAt, level⟩, size, range⟩
    · refine ⟨⟨decodes, .inl main.1⟩, fun _ _ => main.2, fun _ main10 => ?_,
        size, range⟩
      exact absurd (main10.symm.trans main.1) main10_other
    · refine ⟨⟨decodes, .inr ⟨decodesAt, main10⟩⟩, fun _ main => ?_,
        fun _ _ => level, size, range⟩
      exact absurd (main10.symm.trans main) main10_other
  · rintro ⟨⟨decodes, same | ⟨decodesAt, same⟩⟩, main, main10, size, range⟩
    · exact ⟨decodes, .inl ⟨same, main decodes same⟩, size, range⟩
    · exact
        ⟨decodes, .inr ⟨same, decodesAt, main10 decodesAt same⟩, size, range⟩

theorem av1Plays_iff {device : Device} {maxBitrate : Int} :
    Av1Plays query preferences source ↔
      (supportsAV1 query = true ∧
        (source.videoProfile = "main 10".toList →
          supportsAV1Main10 query = true)) ∧
      (source.width ≤ (query.getMaxResolution MimeTypes.VIDEO_AV1).width ∧
        source.height ≤ (query.getMaxResolution MimeTypes.VIDEO_AV1).height) ∧
      source.videoRangeType ∉
        unsupportedRangeTypesAv1 query
          (preferences.options device maxBitrate) := by
  rw [sizeFits_iff, av1RangeFits_iff]
  unfold supportsAV1 supportsAV1Main10
  rw [hasCodecForMime_iff, hasDecoder_iff]
  constructor
  · rintro ⟨decodes, profile, size, range⟩
    exact ⟨⟨decodes, profile⟩, size, range⟩
  · rintro ⟨⟨decodes, profile⟩, size, range⟩
    exact ⟨decodes, profile, size, range⟩

theorem vc1Plays_iff :
    Vc1Plays query source ↔
      supportsVc1 query = true ∧
          source.width ≤ (query.getMaxResolution MimeTypes.VIDEO_VC1).width ∧
            source.height ≤
              (query.getMaxResolution MimeTypes.VIDEO_VC1).height := by
  rw [sizeFits_iff]
  unfold supportsVc1
  rw [hasCodecForMime_iff]
  exact ⟨fun ⟨decodes, size⟩ => ⟨decodes, size⟩,
    fun ⟨decodes, size⟩ => ⟨decodes, size⟩⟩

theorem passes_codecProfiles_iff {server : Server}
    (documented : server.Documented) {device : Device} {maxBitrate : Int}
    (known : source.videoProfile ≠ "none".toList) :
    (∀ profile ∈ codecProfiles query (preferences.options device maxBitrate),
        server.Passes source profile) ↔
      (source.videoCodec = H264 → AvcPlays query preferences source) ∧
      (source.videoCodec = HEVC → HevcPlays query preferences source) ∧
      (source.videoCodec = AV1 → Av1Plays query preferences source) ∧
      (source.videoCodec = VC1 → Vc1Plays query source) ∧
      source.audioChannels ≤
        if preferences.audioBehaviour = .DOWNMIX_TO_STEREO then 2 else 8 := by
  rw [avcPlays_iff, @hevcPlays_iff _ _ _ device maxBitrate,
    @av1Plays_iff _ _ _ device maxBitrate, vc1Plays_iff]
  simp only [codecProfiles, resolutionProfile, List.forall_mem_append,
    List.forall_mem_cons, forall_mem_if, passes_video_iff,
    passes_rangeProfile_iff documented, passes_audio_iff,
    documented.supported_iff known, documented.main10_iff known,
    documented.profile_equals_iff, documented.profile_notEquals_iff,
    documented.profile_inCollection_iff, documented.level_le_iff,
    documented.refFrames_le_iff, documented.width_le_iff,
    documented.height_le_iff, documented.channels_le_iff,
    documented.le_width_iff, List.not_mem_nil, false_imp_iff, implies_true,
    and_true]
  simp only [List.mem_append, List.mem_cons, List.mem_ite_nil_right,
    List.not_mem_nil, or_false, UserPreferences.options, decide_eq_true_iff]
  grind

/-- Codecs of bitstreams need the preference for their format. -/
theorem mem_allowedAudioCodecs_iff {device : Device} {maxBitrate : Int} :
    source.audioCodec ∈
        allowedAudioCodecs (preferences.options device maxBitrate) ↔
      (source.audioCodec ∈
        if preferences.audioBehaviour = .DOWNMIX_TO_STEREO then
          downmixSupportedAudioCodecs
        else supportedAudioCodecs) ∧
      ∀ format : BitstreamAudioFormat, source.audioCodec = format.codec →
        preferences.isBitstreamAudioEnabled device format = true := by
  unfold allowedAudioCodecs
  rw [List.mem_filter]
  simp only [UserPreferences.options, decide_eq_true_iff]
  refine and_congr_right fun _ => ?_
  constructor
  · intro passes format same
    rw [same] at passes
    cases format with
    | AC3 =>
        exact passes
    | EAC3 =>
        exact passes
    | DTS =>
        exact passes
    | TRUEHD =>
        exact passes
  · intro enabled
    split_ifs with ac3 eac3 truehd dts
    · exact enabled .AC3 ac3
    · exact enabled .EAC3 eac3
    · exact enabled .TRUEHD truehd
    · exact enabled .DTS dts
    · trivial

end Formats

section Videos

variable {server : Server} {source : VideoSource}

theorem sends_createDeviceProfileFor_iff
    (documented : server.Documented) {device : Device}
    {preferences : UserPreferences} {maxBitrate : Int}
    (known : source.videoProfile ≠ "none".toList) :
    let profile := createDeviceProfileFor device preferences maxBitrate
    server.sends profile source ↔
      Plays ⟨device, preferences.softwareCodecsEnabled⟩ preferences source
          device ∧
        source.bitrate ≤ maxBitrate ∧
        server.delivers profile.subtitleProfiles source := by
  intro profile
  have passes :
      (∀ codecProfile ∈ profile.codecProfiles,
          server.Passes source codecProfile) ↔ _ :=
    passes_codecProfiles_iff documented known
  have listed :
      (∃ direct ∈ profile.directPlayProfiles,
          direct.type = .VIDEO ∧ source.container ∈ direct.container ∧
            source.videoCodec ∈ direct.videoCodec ∧
              source.audioCodec ∈ direct.audioCodec) ↔
        source.container ∈ directPlayContainers ∧
          source.videoCodec ∈ directPlayVideoCodecs ∧
            source.audioCodec ∈
              allowedAudioCodecs (preferences.options device maxBitrate) := by
    constructor
    · rintro ⟨direct, member, video, container, codec, audioCodec⟩
      rcases List.mem_cons.mp member with rfl | member
      · exact ⟨container, codec, audioCodec⟩
      · rw [List.mem_singleton.mp member] at video
        cases video
    · rintro ⟨container, codec, audioCodec⟩
      exact
        ⟨_, List.mem_cons_self, rfl, container, codec, audioCodec⟩
  have static : profile.maxStaticBitrate = maxBitrate := rfl
  have streaming : profile.maxStreamingBitrate = maxBitrate := rfl
  rw [documented.sends, passes, listed, mem_allowedAudioCodecs_iff, static,
    streaming]
  constructor
  · rintro ⟨⟨container, codec, audioCodec, bitstream⟩,
      ⟨avc, hevc, av1, vc1, channels⟩, within, _, delivers⟩
    exact
      ⟨⟨container, codec, avc, hevc, av1, vc1,
          ⟨audioCodec, bitstream, channels⟩⟩, within, delivers⟩
  · rintro ⟨⟨container, codec, avc, hevc, av1, vc1,
      ⟨audioCodec, bitstream, channels⟩⟩, within, delivers⟩
    exact
      ⟨⟨container, codec, audioCodec, bitstream⟩,
        ⟨avc, hevc, av1, vc1, channels⟩, within, within, delivers⟩

/-- The profile of the app lets a server send a video as it is just if the
device can play it, the bitrate is within the limit and the server can deliver
the subtitles. -/
theorem sends_iff_plays (documented : server.Documented) {device : Device}
    {preferences : UserPreferences} {maxBitrate : Int}
    (known : source.videoProfile ≠ "none".toList) :
    let profile := createDeviceProfileFor device preferences maxBitrate
    server.sends profile source ↔
      Plays ⟨device, preferences.softwareCodecsEnabled⟩ preferences source
          device ∧
        source.bitrate ≤ maxBitrate ∧
        server.delivers profile.subtitleProfiles source :=
  sends_createDeviceProfileFor_iff documented known

/-- A device with a decoder of low profiles for H.264. -/
def plainDevice : Device where
  androidVersion := ⟨true, true, true⟩
  MODEL := "AFTMM".toList
  codecInfos :=
    [⟨false, false, [MimeTypes.VIDEO_H264],
      [(MimeTypes.VIDEO_H264,
        ⟨[⟨AvcCodecCapabilities.AVCProfileMain, 0x800⟩],
          some ⟨some 1920, some 1080⟩, 1⟩)]⟩]
  passthroughMimeTypes := []

def plainPreferences : UserPreferences where
  softwareCodecsEnabled := false
  bitstream _ := .AUTO
  hdrOverride _ := .AUTO
  audioBehaviour := .DIRECT_STREAM
  assDirectPlay := false
  pgsDirectPlay := true
  userAVCLevel := none
  userHEVCLevel := none

def plainVideo : VideoSource where
  container := "mkv".toList
  bitrate := 8000000
  videoCodec := H264
  videoProfile := "main".toList
  videoLevel := 40
  refFrames := 4
  width := 1920
  height := 1080
  videoRangeType := .SDR
  audioCodec := AAC
  audioChannels := 6
  subtitle := some "srt".toList

/-- No list of range types is taken for a type to differ from. -/
def isConditionSatisfied (source : VideoSource) : ProfileCondition → Bool
  | .equals property value => source.text property = some value
  | .notEquals .VIDEO_RANGE_TYPE _ => false
  | .notEquals property value => source.text property ≠ some value
  | .inCollection property values => (source.text property).any values.contains
  | .lowerThanOrEquals property value =>
      (source.number property).any (· ≤ value)
  | .greaterThanOrEquals property value =>
      (source.number property).any (value ≤ ·)

/-- A server that takes a profile at its word.  Subtitles stay in the video or
come as a file of their own. -/
def plainServer : Server where
  meets source condition := isConditionSatisfied source condition = true
  delivers profiles source :=
    ∀ format ∈ source.subtitle,
      ⟨format, .EMBED⟩ ∈ profiles ∨ ⟨format, .EXTERNAL⟩ ∈ profiles
  sends profile source :=
    (∃ direct ∈ profile.directPlayProfiles,
        direct.type = .VIDEO ∧ source.container ∈ direct.container ∧
          source.videoCodec ∈ direct.videoCodec ∧
            source.audioCodec ∈ direct.audioCodec) ∧
      (∀ codecProfile ∈ profile.codecProfiles,
        (∀ codec ∈ codecProfile.codec,
            codec = source.codec codecProfile.type) →
          (∀ condition ∈ codecProfile.applyConditions,
              isConditionSatisfied source condition = true) →
            ∀ condition ∈ codecProfile.conditions,
              isConditionSatisfied source condition = true) ∧
      source.bitrate ≤ profile.maxStaticBitrate ∧
      source.bitrate ≤ profile.maxStreamingBitrate ∧
      ∀ format ∈ source.subtitle,
        ⟨format, .EMBED⟩ ∈ profile.subtitleProfiles ∨
          ⟨format, .EXTERNAL⟩ ∈ profile.subtitleProfiles

theorem documented_plainServer : plainServer.Documented where
  equals source property text found value := by
    simp only [plainServer, isConditionSatisfied, Option.mem_def.mp found]
    simp
  notEquals source property other text found value := by
    cases property <;>
      simp_all [plainServer, isConditionSatisfied, VideoSource.text]
  notEqualsRangeTypes source types member := Bool.false_ne_true
  inCollection source property text found values := by
    simp [plainServer, isConditionSatisfied, Option.mem_def.mp found]
  lowerThanOrEquals source property number found value := by
    simp [plainServer, isConditionSatisfied, Option.mem_def.mp found]
  greaterThanOrEquals source property number found value := by
    simp [plainServer, isConditionSatisfied, Option.mem_def.mp found]
  sends profile source := Iff.rfl

theorem sends_iff_plays_plain :
    let profile := createDeviceProfileFor plainDevice plainPreferences 100000000
    plainServer.sends profile plainVideo ↔
      Plays ⟨plainDevice, false⟩ plainPreferences plainVideo plainDevice ∧
        plainVideo.bitrate ≤ 100000000 ∧
        plainServer.delivers profile.subtitleProfiles plainVideo :=
  sends_iff_plays documented_plainServer (by decide)

end Videos

/-! ## More decoders -/

section MoreDecoders

/-- A query of the same system that finds more decoders. -/
structure FindsMore (fewer more : MediaCodecQuery) : Prop where
  decoderInfos : fewer.decoderInfos ⊆ more.decoderInfos
  androidVersion : more.device.androidVersion = fewer.device.androidVersion
  MODEL : more.device.MODEL = fewer.device.MODEL

variable {fewer more : MediaCodecQuery} {mime : Text}

theorem Decodes.mono (finds : FindsMore fewer more)
    (decodes : Decodes fewer mime) : Decodes more mime := by
  obtain ⟨info, listed, supports⟩ := decodes
  exact ⟨info, finds.decoderInfos listed, supports⟩

theorem DecodesAt.mono {profile level : Nat} (finds : FindsMore fewer more)
    (decodes : DecodesAt fewer mime profile level) :
    DecodesAt more mime profile level := by
  obtain ⟨info, listed, supports⟩ := decodes
  exact ⟨info, finds.decoderInfos listed, supports⟩

theorem LevelFits.mono {levels : Ladder} {user : Option Nat}
    {profile level : Nat} (finds : FindsMore fewer more)
    (fits : LevelFits fewer mime levels user profile level) :
    LevelFits more mime levels user profile level := by
  cases user with
  | some limit =>
      exact fits
  | none =>
      refine fits.imp_right ?_
      rintro ⟨info, listed, reached⟩
      exact ⟨info, finds.decoderInfos listed, reached⟩

theorem SizeFits.mono {width height : Nat} (finds : FindsMore fewer more)
    (fits : SizeFits fewer mime width height) :
    SizeFits more mime width height := by
  refine ⟨fits.1.imp_right ?_, fits.2.imp_right ?_⟩
  · rintro ⟨info, listed, wide⟩
    exact ⟨info, finds.decoderInfos listed, wide⟩
  · rintro ⟨info, listed, high⟩
    exact ⟨info, finds.decoderInfos listed, high⟩

theorem hasCodecForMime_mono (finds : FindsMore fewer more)
    (found : fewer.hasCodecForMime mime = true) :
    more.hasCodecForMime mime = true :=
  hasCodecForMime_iff.mpr ((hasCodecForMime_iff.mp found).mono finds)

theorem hasDecoder_mono {profile level : Nat} (finds : FindsMore fewer more)
    (found : fewer.hasDecoder mime profile level = true) :
    more.hasDecoder mime profile level = true :=
  hasDecoder_iff.mpr ((hasDecoder_iff.mp found).mono finds)

theorem supportsMultiInstance_mono (finds : FindsMore fewer more)
    (found : fewer.supportsMultiInstance mime = true) :
    more.supportsMultiInstance mime = true := by
  obtain ⟨info, listed, multiple⟩ := List.any_eq_true.mp found
  exact List.any_eq_true.mpr ⟨info, finds.decoderInfos listed, multiple⟩

section Shows

variable {type : VideoRangeType}

theorem RangeFits.mono {preferences : UserPreferences} {first second : Prop}
    (implied : first → second) (fits : RangeFits preferences first type) :
    RangeFits preferences second type := by
  unfold RangeFits at fits ⊢
  split at fits
  · trivial
  · exact fits
  · exact implied fits

theorem Av1Shows.mono (finds : FindsMore fewer more)
    (shown : Av1Shows fewer type) : Av1Shows more type := by
  have decoder := @hasDecoder_mono fewer more
  cases type <;>
    simp only [Av1Shows, supportsAV1DolbyVision, supportsAV1HDR10,
      supportsAV1HDR10Plus, finds.androidVersion, Bool.and_eq_true] at shown ⊢
  all_goals grind

theorem HevcShowsProfile7.mono (finds : FindsMore fewer more)
    (shown : HevcShowsProfile7 fewer) : HevcShowsProfile7 more := by
  have codec := @hasCodecForMime_mono fewer more
  have decoder := @hasDecoder_mono fewer more
  have multiple := @supportsMultiInstance_mono fewer more
  simp only [HevcShowsProfile7, supportsHevcDolbyVisionEL,
    supportsHevcDolbyVision, supportsHevcMain10, supportsHevcHDR10,
    KnownDefects.unreportedDoviProfile7Support, finds.androidVersion,
    finds.MODEL, Bool.and_eq_true] at shown ⊢
  grind

theorem HevcShowsDolbyVision.mono (finds : FindsMore fewer more)
    (shown : HevcShowsDolbyVision fewer) : HevcShowsDolbyVision more := by
  have codec := @hasCodecForMime_mono fewer more
  have decoder := @hasDecoder_mono fewer more
  have multiple := @supportsMultiInstance_mono fewer more
  simp only [HevcShowsDolbyVision, supportsHevcDolbyVisionEL,
    supportsHevcDolbyVision, finds.androidVersion, Bool.and_eq_true]
    at shown ⊢
  grind

theorem HevcShows.mono (finds : FindsMore fewer more)
    (shown : HevcShows fewer type) : HevcShows more type := by
  have decoder := @hasDecoder_mono fewer more
  have profile7 := @HevcShowsProfile7.mono fewer more finds
  have dolbyVision := @HevcShowsDolbyVision.mono fewer more finds
  cases type <;>
    simp only [HevcShows, supportsHevcHDR10, supportsHevcHDR10Plus,
      KnownDefects.hevcDoviHdr10PlusBug, finds.androidVersion, finds.MODEL,
      Bool.and_eq_true] at shown ⊢
  all_goals grind

end Shows

section Plays

variable {preferences : UserPreferences} {source : VideoSource}

theorem AvcPlays.mono (finds : FindsMore fewer more)
    (plays : AvcPlays fewer preferences source) :
    AvcPlays more preferences source where
  decodes := plays.decodes.mono finds
  profile := by
    refine plays.profile.imp ?_ ?_
    · rintro ⟨listed, level⟩
      exact ⟨listed, level.mono finds⟩
    · rintro ⟨same, decodes, level⟩
      exact ⟨same, decodes.mono finds, level.mono finds⟩
  refFrames := plays.refFrames
  refFramesWide := plays.refFramesWide
  size := plays.size.mono finds

theorem HevcPlays.mono (finds : FindsMore fewer more)
    (plays : HevcPlays fewer preferences source) :
    HevcPlays more preferences source where
  decodes := plays.decodes.mono finds
  profile := by
    refine plays.profile.imp ?_ ?_
    · rintro ⟨same, level⟩
      exact ⟨same, level.mono finds⟩
    · rintro ⟨same, decodes, level⟩
      exact ⟨same, decodes.mono finds, level.mono finds⟩
  size := plays.size.mono finds
  range := plays.range.mono (HevcShows.mono finds)

theorem Av1Plays.mono (finds : FindsMore fewer more)
    (plays : Av1Plays fewer preferences source) :
    Av1Plays more preferences source where
  decodes := plays.decodes.mono finds
  profile same := (plays.profile same).mono finds
  size := plays.size.mono finds
  range := plays.range.mono (Av1Shows.mono finds)

theorem Vc1Plays.mono (finds : FindsMore fewer more)
    (plays : Vc1Plays fewer source) : Vc1Plays more source where
  decodes := plays.decodes.mono finds
  size := plays.size.mono finds

theorem Plays.mono {device : Device} (finds : FindsMore fewer more)
    (plays : Plays fewer preferences source device) :
    Plays more preferences source device where
  container := plays.container
  codec := plays.codec
  avc same := (plays.avc same).mono finds
  hevc same := (plays.hevc same).mono finds
  av1 same := (plays.av1 same).mono finds
  vc1 same := (plays.vc1 same).mono finds
  audio := plays.audio

/-- What is played depends on the software codecs through the decoders only. -/
theorem Plays.withSoftwareCodecs {query : MediaCodecQuery} {device : Device}
    {enabled : Bool} (plays : Plays query preferences source device) :
    Plays query { preferences with softwareCodecsEnabled := enabled } source
      device where
  container := plays.container
  codec := plays.codec
  avc same := { plays.avc same with }
  hevc same := { plays.hevc same with }
  av1 same := { plays.av1 same with }
  vc1 := plays.vc1
  audio := { plays.audio with }

end Plays

/-- More codecs are found on a device that has more of them, or where those of
software may be used as well. -/
theorem findsMore {device : Device} {codecInfos : List MediaCodecInfo}
    (installed : device.codecInfos ⊆ codecInfos) {less enabled : Bool}
    (enables : less = true → enabled = true) :
    FindsMore ⟨device, less⟩
      ⟨{ device with codecInfos := codecInfos }, enabled⟩ where
  decoderInfos := by
    intro info listed
    unfold MediaCodecQuery.decoderInfos at listed ⊢
    obtain ⟨decodes, usable⟩ := List.mem_filter.mp listed
    obtain ⟨member, decoder⟩ := List.mem_filter.mp decodes
    refine List.mem_filter.mpr
      ⟨List.mem_filter.mpr ⟨installed member, decoder⟩, ?_⟩
    rw [Bool.or_eq_true] at usable ⊢
    exact usable.imp_left enables
  androidVersion := rfl
  MODEL := rfl

/-- With more decoders, and with those of software, a device keeps playing
what it plays. -/
theorem sends_with_more_decoders {server : Server}
    (documented : server.Documented) {source : VideoSource}
    (known : source.videoProfile ≠ "none".toList) {device : Device}
    {codecInfos : List MediaCodecInfo}
    (installed : device.codecInfos ⊆ codecInfos)
    {preferences : UserPreferences} {enabled : Bool}
    (enables : preferences.softwareCodecsEnabled = true → enabled = true)
    {maxBitrate : Int}
    (sent :
      server.sends (createDeviceProfileFor device preferences maxBitrate)
        source) :
    server.sends
      (createDeviceProfileFor { device with codecInfos := codecInfos }
        { preferences with softwareCodecsEnabled := enabled } maxBitrate)
      source := by
  obtain ⟨plays, within, delivers⟩ :=
    (sends_createDeviceProfileFor_iff documented known).mp sent
  have more := plays.mono (findsMore installed enables)
  apply (sends_createDeviceProfileFor_iff documented known).mpr
  refine ⟨?_, within, delivers⟩
  exact { more.withSoftwareCodecs with audio := { more.audio with } }

/-- A decoder for AV1 in software. -/
def softwareDecoder : MediaCodecInfo :=
  ⟨false, true, [MimeTypes.VIDEO_AV1], []⟩

theorem sends_with_more_decoders_plain :
    plainServer.sends
      (createDeviceProfileFor
        { plainDevice with
          codecInfos := plainDevice.codecInfos ++ [softwareDecoder] }
        { plainPreferences with softwareCodecsEnabled := true } 100000000)
      plainVideo := by
  have sent :
      plainServer.sends
        (createDeviceProfileFor plainDevice plainPreferences 100000000)
        plainVideo := by
    unfold plainServer
    decide
  exact
    sends_with_more_decoders documented_plainServer (by decide)
      (List.subset_append_left _ _) (fun _ => rfl) sent

end MoreDecoders

end JellyfinTv.Profile
