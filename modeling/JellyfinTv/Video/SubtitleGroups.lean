import JellyfinTv.Video.Answers
import JellyfinTv.Video.Stops
import Mathlib

/-!
# The group of a subtitle

`setSubtitleIndex` looks for the text group of a stream: an external one by
the end of its id, an embedded one by its position in the container.  With the
groups that ExoPlayer exposes for direct play both lead to the group of the
stream.  Streams that are burned in restart playback instead, and streams that
are not shown disable the subtitles.
-/

namespace JellyfinTv.Video

open JellyfinTv.Library PlaybackController

/-- The subtitle streams of the container. -/
def containerSubtitles (streams : List MediaStream) : List MediaStream :=
  (streams.filter fun stream => stream.type = .subtitle).filter
    fun stream => ¬stream.isExternal

/-- The subtitle streams that `setMediaStreamInfo` adds to the media item. -/
def externalSubtitles (streams : List MediaStream) : List MediaStream :=
  streams.filter fun stream =>
    stream.type = .subtitle ∧ stream.deliveryMethod = some .external

/-- The subtitle streams that are counted for one with another method. -/
def countedSubtitles (streams : List MediaStream) : List MediaStream :=
  (streams.filter fun stream => stream.type = .subtitle).filter
    fun stream =>
      stream.deliveryMethod = some .embed ∨ stream.deliveryMethod = some .hls

/-- The groups of direct play: one for each subtitle of the container and
behind them one for each external stream, whose id ends with the index of the
stream.  No other id has such an end. -/
structure ExposedGroups (streams : List MediaStream)
    (groups embedded external : List TrackGroup) : Prop where
  text : groups.filter TrackGroup.isText = embedded ++ external
  container : embedded.length = (containerSubtitles streams).length
  added :
    List.Forall₂
      (fun (stream : MediaStream) (group : TrackGroup) =>
        ∃ source : String,
          group.formatIds =
            [some (source ++ ":JF_EXTERNAL:" ++ toString stream.index)])
      (externalSubtitles streams) external
  plain :
    ∀ group ∈ groups, group ∈ embedded ∨ ¬group.isText →
      ∀ index, group.isExternalSubtitle index = false

/-- The group that the player has for the stream. -/
def IsGroupOf (streams : List MediaStream)
    (embedded external : List TrackGroup) (stream : MediaStream)
    (group : TrackGroup) : Prop :=
  if stream.deliveryMethod = some .external then
    (stream, group) ∈ (externalSubtitles streams).zip external
  else
    (stream, group) ∈ (containerSubtitles streams).zip embedded

namespace PlaybackController

/-- The index of the subtitles in the current options. -/
def storedSubtitle (controller : PlaybackController) : Option Int :=
  controller.videoOptions.bind VideoOptions.subtitleStreamIndex

/-- Exactly the group is enabled and the index stored. -/
def Enables (before after : PlaybackController) (index : Int)
    (group : TrackGroup) : Prop :=
  after.calls = before.calls ++ [.textEnabled group] ∧
    after.storedSubtitle = some index

/-- The subtitles are disabled; the player is left alone if they are stored as
disabled and nothing is forced. -/
def Disables (before after : PlaybackController) (force : Bool) : Prop :=
  after.calls =
      before.calls ++
        (if before.storedSubtitle = some (-1) ∧ ¬force then []
          else [.textDisabled]) ∧
    after.storedSubtitle = some (-1)

/-- Playback is stopped and played again. -/
def Restarts (before after : PlaybackController) : Prop :=
  ∃ reported position tail,
    after.calls =
      before.calls ++ .stop :: reported ++ .play position :: tail

/-- A direct play without burned subtitles that can be asked for others. -/
structure PlaysDirectly (controller : PlaybackController)
    (streams : List MediaStream) (groups : List TrackGroup) : Prop where
  options : controller.videoOptions.isSome
  fragment : controller.hasFragment
  player :
    ∃ manager,
      controller.initializedManager = some manager ∧
        manager.readings.groups = groups
  current :
    ∃ current,
      controller.mCurrentStreamInfo = some current ∧
        current.playMethod = .directPlay
  source :
    ∃ source,
      controller.getCurrentMediaSource = .ok (some source) ∧
        source.mediaStreams.getD [] = streams
  unburned : controller.burningSubs = false

end PlaybackController

/-- What a request for a group leads to: it is enabled if it is there. -/
def FollowsGroup (before after : PlaybackController) (index : Int) :
    Option TrackGroup → Prop
  | none => before.Disables after false
  | some group => before.Enables after index group

/-- What a request for a stream leads to. -/
def FollowsRequest (streams : List MediaStream)
    (embedded external : List TrackGroup)
    (before after : PlaybackController) (index : Int) :
    Option MediaStream → Prop
  | none => before.Disables after false
  | some stream =>
      match stream.deliveryMethod with
      | some .external =>
          ∃ group,
            IsGroupOf streams embedded external stream group ∧
              before.Enables after index group
      | some .embed =>
          if stream.isExternal then
            before.Disables after false
          else
            ∃ group,
              IsGroupOf streams embedded external stream group ∧
                before.Enables after index group
      | some .hls =>
          ∃ position : Nat,
            (countedSubtitles streams)[position]? = some stream ∧
              FollowsGroup before after index
                (embedded ++ external)[position]?
      | some .encode => before.Restarts after
      | some .drop | none => before.Disables after false

/-- What a choice of subtitles leads to.  The index -1 disables them, and an
index that is stored already changes nothing unless it is forced. -/
structure FollowsChoice (streams : List MediaStream)
    (embedded external : List TrackGroup)
    (controller : PlaybackController) (index : Int) (force : Bool) :
    Prop where
  off :
    index = -1 →
      ∃ after,
        (setSubtitleIndex index force).run controller = .ok () after ∧
          controller.Disables after force
  stored :
    index ≠ -1 → controller.storedSubtitle = some index → force = false →
      (setSubtitleIndex index force).run controller = .ok () controller
  followed :
    index ≠ -1 → controller.storedSubtitle ≠ some index ∨ force →
      FollowsRequest streams embedded external controller
        (finalState ((setSubtitleIndex index force).run controller)) index
        (subtitleStream index streams)
  returns :
    index ≠ -1 →
      (subtitleStream index streams).bind MediaStream.deliveryMethod ≠
          some .encode →
        ∃ after,
          (setSubtitleIndex index force).run controller = .ok () after

theorem eq_of_append_colon_eq {first second rest others : List Char}
    (restClean : ':' ∉ rest) (othersClean : ':' ∉ others)
    (same : first ++ ':' :: rest = second ++ ':' :: others) :
    rest = others := by
  rcases List.append_eq_append_iff.mp same with
    ⟨between, -, behind⟩ | ⟨between, -, behind⟩
  · cases between with
    | nil =>
        exact (List.cons.inj behind).2
    | cons head between =>
        have inside : ':' ∈ rest := by
          rw [(List.cons.inj behind).2]
          simp
        exact absurd inside restClean
  · cases between with
    | nil =>
        exact (List.cons.inj behind).2.symm
    | cons head between =>
        have inside : ':' ∈ others := by
          rw [(List.cons.inj behind).2]
          simp
        exact absurd inside othersClean

theorem colon_notMem_toString (index : Int) :
    ':' ∉ (toString index).toList := by
  have digits : ∀ number : Nat, ':' ∉ (Nat.repr number).toList := by
    intro number member
    rw [Nat.toList_repr] at member
    have digit :=
      Nat.isDigit_of_mem_toDigits (by decide) (by decide) member
    exact absurd digit (by decide)
  rw [Int.toString_eq_repr, Int.repr_eq_if]
  split
  · exact digits index.toNat
  · rw [String.toList_append, List.mem_append]
    rintro (sign | digit)
    · exact absurd sign (by decide)
    · exact digits (-index).toNat digit

theorem isExternalSubtitle_iff_suffix {group : TrackGroup} {id : String}
    (single : group.formatIds = [some id]) (index : Int) :
    group.isExternalSubtitle index ↔
      (":JF_EXTERNAL:" ++ toString index).toList <:+ id.toList := by
  simp only [TrackGroup.isExternalSubtitle, single]
  rw [← String.endsWith_toSlice, String.Slice.endsWith_string_iff,
    String.copy_toSlice]

theorem isExternalSubtitle_iff {group : TrackGroup} {source : String}
    {index : Int}
    (id :
      group.formatIds =
        [some (source ++ ":JF_EXTERNAL:" ++ toString index)])
    (other : Int) :
    group.isExternalSubtitle other ↔ other = index := by
  have mark :
      ":JF_EXTERNAL:".toList = ":JF_EXTERNAL".toList ++ [':'] := by
    decide
  rw [isExternalSubtitle_iff_suffix id]
  constructor
  · rintro ⟨front, same⟩
    simp only [String.toList_append, mark, List.append_assoc,
      List.singleton_append] at same
    rw [← List.append_assoc, ← List.append_assoc] at same
    have digits :=
      eq_of_append_colon_eq (colon_notMem_toString other)
        (colon_notMem_toString index) same
    rw [String.toList_inj, Int.toString_eq_repr, Int.toString_eq_repr]
      at digits
    exact Int.repr_injective digits
  · rintro rfl
    refine ⟨source.toList, ?_⟩
    simp [String.toList_append]

/-! ## Lookups -/

section Lookups

variable {streams : List MediaStream}
variable {groups embedded external : List TrackGroup}

theorem exists_mem_zip_left {First Second : Type} {firsts : List First}
    {seconds : List Second} (length : firsts.length = seconds.length)
    {first : First} (member : first ∈ firsts) :
    ∃ second, (first, second) ∈ firsts.zip seconds := by
  rw [← List.map_fst_zip length.le] at member
  obtain ⟨⟨_, second⟩, paired, rfl⟩ := List.mem_map.mp member
  exact ⟨second, paired⟩

theorem exists_mem_zip_right {First Second : Type} {firsts : List First}
    {seconds : List Second} (length : firsts.length = seconds.length)
    {second : Second} (member : second ∈ seconds) :
    ∃ first, (first, second) ∈ firsts.zip seconds := by
  rw [← List.map_snd_zip length.ge] at member
  obtain ⟨⟨first, _⟩, paired, rfl⟩ := List.mem_map.mp member
  exact ⟨first, paired⟩

/-- The group with the end of the id is the group of the stream. -/
theorem find_external (exposed : ExposedGroups streams groups embedded external)
    (distinct : (streams.map MediaStream.index).Nodup)
    {stream : MediaStream} (member : stream ∈ externalSubtitles streams) :
    ∃ group,
      (groups.find? fun group =>
        group.isExternalSubtitle stream.index) = some group ∧
        (stream, group) ∈ (externalSubtitles streams).zip external := by
  obtain ⟨length, ids⟩ := List.forall₂_iff_zip.mp exposed.added
  have shown : ∀ group ∈ external, group ∈ groups := by
    intro group inside
    have text : group ∈ groups.filter TrackGroup.isText := by
      rw [exposed.text]
      exact List.mem_append_right embedded inside
    exact (List.mem_filter.mp text).1
  have located :
      (groups.find? fun group =>
        group.isExternalSubtitle stream.index).isSome := by
    obtain ⟨group, paired⟩ := exists_mem_zip_left length member
    obtain ⟨source, id⟩ := ids paired
    rw [List.find?_isSome]
    refine ⟨group, shown group (List.of_mem_zip paired).2, ?_⟩
    exact (isExternalSubtitle_iff id stream.index).mpr rfl
  obtain ⟨group, found⟩ := Option.isSome_iff_exists.mp located
  refine ⟨group, found, ?_⟩
  have marked : group.isExternalSubtitle stream.index := by
    simpa using List.find?_some found
  have present := List.mem_of_find?_eq_some found
  have unmarked :
      ¬(group ∈ embedded ∨ ¬group.isText) := by
    intro other
    rw [exposed.plain group present other] at marked
    cases marked
  rw [not_or, not_not] at unmarked
  have text : group ∈ embedded ++ external := by
    rw [← exposed.text]
    exact List.mem_filter.mpr ⟨present, unmarked.2⟩
  have added : group ∈ external :=
    (List.mem_append.mp text).resolve_left unmarked.1
  obtain ⟨other, paired⟩ := exists_mem_zip_right length added
  obtain ⟨source, id⟩ := ids paired
  have same := (isExternalSubtitle_iff id stream.index).mp marked
  have equal : stream = other := by
    refine List.inj_on_of_nodup_map distinct ?_ ?_ same
    · exact (List.mem_filter.mp member).1
    · exact (List.mem_filter.mp (List.of_mem_zip paired).1).1
  rw [equal]
  exact paired

/-- The text groups that are counted: all of the container are among them. -/
theorem countedGroups_eq
    (exposed : ExposedGroups streams groups embedded external)
    (index : Int) :
    ((groups.filter TrackGroup.isText).filter fun group =>
        ¬group.isExternalSubtitle index) =
      embedded ++
        external.filter fun group => ¬group.isExternalSubtitle index := by
  have shown : ∀ group ∈ embedded, group ∈ groups := by
    intro group inside
    have text : group ∈ groups.filter TrackGroup.isText := by
      rw [exposed.text]
      exact List.mem_append_left external inside
    exact (List.mem_filter.mp text).1
  rw [exposed.text, List.filter_append]
  congr 1
  rw [List.filter_eq_self]
  intro group inside
  simp [exposed.plain group (shown group inside) (Or.inl inside)]

/-- No external group is left out for the index of another stream. -/
theorem external_filter_eq
    (exposed : ExposedGroups streams groups embedded external)
    {index : Int}
    (other : ∀ stream ∈ externalSubtitles streams, stream.index ≠ index) :
    (external.filter fun group => ¬group.isExternalSubtitle index) =
      external := by
  obtain ⟨length, ids⟩ := List.forall₂_iff_zip.mp exposed.added
  rw [List.filter_eq_self]
  intro group added
  obtain ⟨stream, paired⟩ := exists_mem_zip_right length added
  obtain ⟨source, id⟩ := ids paired
  have apart := other stream (List.of_mem_zip paired).1
  have unmarked := mt (isExternalSubtitle_iff id index).mp apart.symm
  simpa using unmarked

theorem localSubtitleIndex_of_embed {stream : MediaStream}
    (embed : stream.deliveryMethod = some .embed) :
    localSubtitleIndex stream streams =
      (containerSubtitles streams).idxOf? stream := by
  simp [localSubtitleIndex, containerSubtitles, embed]

theorem localSubtitleIndex_of_other {stream : MediaStream}
    (other : stream.deliveryMethod ≠ some .embed) :
    localSubtitleIndex stream streams =
      (countedSubtitles streams).idxOf? stream := by
  simp [localSubtitleIndex, countedSubtitles, other]

theorem subtitleStream_spec {index : Int} {stream : MediaStream}
    (found : subtitleStream index streams = some stream) :
    stream ∈ streams ∧ stream.type = .subtitle ∧ stream.index = index := by
  unfold subtitleStream at found
  have qualifies := List.find?_some found
  simp only [decide_eq_true_eq] at qualifies
  exact ⟨List.mem_of_find?_eq_some found, qualifies⟩

end Lookups

/-! ## Requests -/

section Requests

variable {controller : PlaybackController} {streams : List MediaStream}
variable {groups embedded external : List TrackGroup}

theorem PlaybackController.PlaysDirectly.language
    (plays : controller.PlaysDirectly streams groups)
    (isoCode : Option String) :
    { controller with
      lastPlayedSubtitleLanguageIsoCode := isoCode }.PlaysDirectly
      streams groups :=
  ⟨plays.options, plays.fragment, plays.player, plays.current, plays.source,
    plays.unburned⟩

/-- The options after a change of the stored index. -/
theorem updateOptions_stores (options : controller.videoOptions.isSome)
    (index : Int) :
    ∃ after,
      (updateOptions fun options =>
        { options with subtitleStreamIndex := some index }).run controller =
          .ok () { controller with optionObjects := after } ∧
        { controller with optionObjects := after }.storedSubtitle =
          some index := by
  obtain ⟨current, found⟩ := Option.isSome_iff_exists.mp options
  obtain ⟨reference, present, located⟩ := Option.bind_eq_some_iff.mp found
  refine ⟨_, updateOptions_run present _, ?_⟩
  simp [storedSubtitle, videoOptions, present, located]

theorem disableDefaultSubtitles_run {manager : VideoManager}
    (initialized : controller.initializedManager = some manager) :
    disableDefaultSubtitles.run controller =
      .ok () (controller.record .textDisabled) := by
  simp only [disableDefaultSubtitles, EStateM.run_bind, EStateM.run_get,
    requireNotNull_run initialized]
  rfl

theorem disableSubtitles_disables
    (plays : controller.PlaysDirectly streams groups) (force : Bool) :
    ∃ after,
      (disableSubtitles force).run controller = .ok () after ∧
        controller.Disables after force := by
  obtain ⟨current, found⟩ := Option.isSome_iff_exists.mp plays.options
  have stored :
      controller.storedSubtitle = current.subtitleStreamIndex := by
    rw [storedSubtitle, found]
    rfl
  simp only [disableSubtitles, EStateM.run_bind, currentOptions_run found]
  by_cases off : current.subtitleStreamIndex = some (-1) ∧ ¬force
  · rw [if_pos off]
    refine ⟨controller, rfl, ?_, ?_⟩
    · rw [stored, if_pos off, List.append_nil]
    · rw [stored, off.1]
  · rw [if_neg off]
    have spoken := plays.language (some "")
    obtain ⟨objects, updated, index⟩ :=
      updateOptions_stores spoken.options (-1)
    obtain ⟨manager, initialized, -⟩ := plays.player
    dsimp only at updated index
    refine
      ⟨{ controller with
          lastPlayedSubtitleLanguageIsoCode := some ""
          optionObjects := objects }.record .textDisabled, ?_, ?_, index⟩
    · simp only [EStateM.run_bind, EStateM.run_get]
      rw [if_neg (not_not.mpr plays.fragment)]
      simp only [EStateM.run_bind, setLastPlayedSubtitleLanguageIsoCode,
        EStateM.run_modify]
      rw [updated]
      simp only [EStateM.run_get, plays.unburned, Bool.false_eq_true,
        if_false]
      exact disableDefaultSubtitles_run initialized
    · rw [stored, if_neg off]
      rfl

theorem enableGroup_enables
    (plays : controller.PlaysDirectly streams groups) (index : Int)
    (group : TrackGroup) :
    ∃ after,
      (enableGroup index (some group)).run controller = .ok () after ∧
        controller.Enables after index group := by
  obtain ⟨objects, updated, stored⟩ :=
    updateOptions_stores plays.options index
  refine
    ⟨{ controller with optionObjects := objects }.record
      (.textEnabled group), ?_, rfl, stored⟩
  simp only [enableGroup, EStateM.run_bind]
  rw [updated]
  rfl

theorem enableGroup_follows
    (plays : controller.PlaysDirectly streams groups) (index : Int)
    (group : Option TrackGroup) :
    ∃ after,
      (enableGroup index group).run controller = .ok () after ∧
        FollowsGroup controller after index group := by
  cases group with
  | none =>
      exact disableSubtitles_disables plays false
  | some group =>
      exact enableGroup_enables plays index group

/-- Behind a recorded call only further calls are added. -/
theorem record_calls {Value : Type} (controller : PlaybackController)
    (call : Call) {rest : PUnit → ControllerM Value}
    (changes : ∀ value, Respects (Changes False False False) (rest value)) :
    ∃ tail,
      (finalState
        (((modify fun controller => controller.record call) >>= rest).run
          controller)).calls =
        controller.calls ++ call :: tail := by
  obtain ⟨tail, made, -⟩ :=
    (changes PUnit.unit (controller.record call)).calls
  refine ⟨tail, ?_⟩
  have begun :
      controller.calls ++ call :: tail =
        (controller.record call).calls ++ tail := by
    simp [record]
  rw [begun, ← made]
  rfl

theorem play_calls (controller : PlaybackController) (position : Int)
    (forcedSubtitleIndex : Option Int) :
    ∃ tail,
      (finalState
        ((play position forcedSubtitleIndex).run controller)).calls =
          controller.calls ++ .play position :: tail := by
  unfold play
  apply record_calls
  intro _
  refine Respects.bind Respects.get fun controller => ?_
  refine Respects.ite (Respects.pure _) ?_
  split
  · refine Respects.ite (Respects.pure _) ?_
    exact respects_modify fun _ => accounted_startReportLoop _
  · exact respects_playFromIdle _ _
  · exact Respects.pure _

theorem restartWithSubtitles_restarts
    (plays : controller.PlaysDirectly streams groups) (index : Int)
    (burned : Bool) :
    controller.Restarts
      (finalState ((restartWithSubtitles index burned).run controller)) := by
  obtain ⟨current, found⟩ := Option.isSome_iff_exists.mp plays.options
  obtain ⟨reference, present, -⟩ := Option.bind_eq_some_iff.mp found
  obtain ⟨manager, initialized, -⟩ := plays.player
  obtain ⟨located, ready⟩ := Option.filter_eq_some_iff.mp initialized
  have halts : stop.run controller = .ok () controller.stopped := by
    apply stop_run plays.fragment
    rw [located]
    rintro _ ⟨⟩
    exact ready
  obtain ⟨reported, stopped, -⟩ := stopped_calls controller
  have kept :
      { controller.stopped with burningSubs := burned }.mCurrentOptions =
        some reference :=
    (stopped_mCurrentOptions controller).trans present
  simp only [restartWithSubtitles, EStateM.run_bind, halts,
    EStateM.run_modify]
  rw [updateOptions_run kept]
  simp only [EStateM.run_get]
  obtain ⟨tail, played⟩ :=
    play_calls
      { controller.stopped with
        burningSubs := burned
        optionObjects :=
          controller.stopped.optionObjects.modify reference fun options =>
            { options with subtitleStreamIndex := some index } }
      controller.stopped.mCurrentPosition (some index)
  refine ⟨reported, controller.stopped.mCurrentPosition, tail, ?_⟩
  rw [← stopped]
  exact played

variable (plays : controller.PlaysDirectly streams groups)
variable (exposed : ExposedGroups streams groups embedded external)
variable (distinct : (streams.map MediaStream.index).Nodup)
variable {index : Int} {stream : MediaStream}
variable (found : subtitleStream index streams = some stream)

include plays exposed distinct found

theorem enableSubtitle_of_external
    (delivered : stream.deliveryMethod = some .external) :
    ∃ after,
      (enableSubtitle index stream streams).run controller =
          .ok () after ∧
        ∃ group,
          IsGroupOf streams embedded external stream group ∧
            controller.Enables after index group := by
  obtain ⟨within, type, same⟩ := subtitleStream_spec found
  have member : stream ∈ externalSubtitles streams := by
    simp [externalSubtitles, within, type, delivered]
  obtain ⟨group, located, paired⟩ := find_external exposed distinct member
  obtain ⟨manager, initialized, readings⟩ := plays.player
  obtain ⟨after, enabled, holds⟩ := enableGroup_enables plays index group
  refine ⟨after, ?_, group, ?_, holds⟩
  · rw [same] at located
    simp only [enableSubtitle, delivered, if_true, EStateM.run_bind,
      EStateM.run_get, requireNotNull_run initialized, readings, located]
    exact enabled
  · rw [IsGroupOf, if_pos delivered]
    exact paired

omit distinct in
theorem enableSubtitle_of_embed
    (delivered : stream.deliveryMethod = some .embed)
    (contained : stream.isExternal = false) :
    ∃ after,
      (enableSubtitle index stream streams).run controller =
          .ok () after ∧
        ∃ group,
          IsGroupOf streams embedded external stream group ∧
            controller.Enables after index group := by
  have apart : stream.deliveryMethod ≠ some .external := by
    rw [delivered]
    decide
  obtain ⟨within, type, -⟩ := subtitleStream_spec found
  have member : stream ∈ containerSubtitles streams := by
    simp [containerSubtitles, within, type, contained]
  obtain ⟨position, located⟩ :=
    Option.isSome_iff_exists.mp (List.isSome_idxOf?.mpr member)
  obtain ⟨inside, counted, -⟩ := List.idxOf?_eq_some_iff.mp located
  have shown : position < embedded.length := by
    rw [exposed.container]
    exact inside
  obtain ⟨manager, initialized, readings⟩ := plays.player
  obtain ⟨after, enabled, holds⟩ :=
    enableGroup_enables plays index embedded[position]
  refine ⟨after, ?_, embedded[position], ?_, holds⟩
  · have looked :
        ((groups.filter TrackGroup.isText).filter fun group =>
          ¬group.isExternalSubtitle index)[position]? =
          some embedded[position] := by
      rw [countedGroups_eq exposed index,
        List.getElem?_append_left shown]
      exact List.getElem?_eq_getElem shown
    simp only [enableSubtitle, if_neg apart,
      localSubtitleIndex_of_embed delivered, located, EStateM.run_bind,
      EStateM.run_get, requireNotNull_run initialized, readings, looked]
    exact enabled
  · rw [IsGroupOf, if_neg apart]
    apply List.mem_of_getElem?
    rw [List.getElem?_zip_eq_some]
    exact ⟨by rw [List.getElem?_eq_getElem inside, counted],
      List.getElem?_eq_getElem shown⟩

omit plays exposed distinct found in
theorem enableSubtitle_of_hidden
    (delivered : stream.deliveryMethod = some .embed)
    (apart : stream.isExternal = true) :
    (enableSubtitle index stream streams).run controller =
      (disableSubtitles false).run controller := by
  have other : stream.deliveryMethod ≠ some .external := by
    rw [delivered]
    decide
  have missing :
      (containerSubtitles streams).idxOf? stream = none := by
    rw [List.idxOf?_eq_none_iff]
    simp [containerSubtitles, apart]
  simp only [enableSubtitle, if_neg other,
    localSubtitleIndex_of_embed delivered, missing]

theorem enableSubtitle_of_hls
    (delivered : stream.deliveryMethod = some .hls) :
    ∃ after,
      (enableSubtitle index stream streams).run controller =
          .ok () after ∧
        ∃ position : Nat,
          (countedSubtitles streams)[position]? = some stream ∧
            FollowsGroup controller after index
              (embedded ++ external)[position]? := by
  have notExternal : stream.deliveryMethod ≠ some .external := by
    rw [delivered]
    decide
  have notEmbed : stream.deliveryMethod ≠ some .embed := by
    rw [delivered]
    decide
  obtain ⟨within, type, same⟩ := subtitleStream_spec found
  have member : stream ∈ countedSubtitles streams := by
    simp [countedSubtitles, within, type, delivered]
  obtain ⟨position, located⟩ :=
    Option.isSome_iff_exists.mp (List.isSome_idxOf?.mpr member)
  obtain ⟨inside, counted, -⟩ := List.idxOf?_eq_some_iff.mp located
  have others :
      ∀ other ∈ externalSubtitles streams, other.index ≠ index := by
    intro other added equal
    have qualifies := List.mem_filter.mp added
    have identical : other = stream :=
      List.inj_on_of_nodup_map distinct qualifies.1 within
        (equal.trans same.symm)
    rw [identical] at qualifies
    simp [delivered] at qualifies
  have looked :
      ((groups.filter TrackGroup.isText).filter fun group =>
        ¬group.isExternalSubtitle index) = embedded ++ external := by
    rw [countedGroups_eq exposed index, external_filter_eq exposed others]
  obtain ⟨manager, initialized, readings⟩ := plays.player
  obtain ⟨after, enabled, holds⟩ :=
    enableGroup_follows plays index (embedded ++ external)[position]?
  refine ⟨after, ?_, position, ?_, holds⟩
  · simp only [enableSubtitle, if_neg notExternal,
      localSubtitleIndex_of_other notEmbed, located, EStateM.run_bind,
      EStateM.run_get, requireNotNull_run initialized, readings, looked]
    exact enabled
  · rw [List.getElem?_eq_getElem inside, counted]

omit exposed distinct found in
/-- A stream that is not burned in is dropped or looked for. -/
theorem applySubtitle_run
    (unburned : stream.deliveryMethod ≠ some .encode) :
    (applySubtitle index (some stream) streams).run controller =
      (if stream.deliveryMethod = some .drop ∨
          stream.deliveryMethod = none then
        disableSubtitles false
      else
        enableSubtitle index stream streams).run controller := by
  obtain ⟨current, present, direct⟩ := plays.current
  have clear :
      controller.shouldBurnInSubtitles current.playMethod = false := by
    simp [shouldBurnInSubtitles, direct]
  simp only [applySubtitle, if_neg unburned, EStateM.run_bind,
    EStateM.run_get, requireNotNull_run present, clear,
    Bool.false_eq_true, if_false]

omit found in
theorem applySubtitle_follows (found : Option MediaStream)
    (requested : subtitleStream index streams = found) :
    FollowsRequest streams embedded external controller
        (finalState
          ((applySubtitle index found streams).run controller)) index
        found ∧
      (found.bind MediaStream.deliveryMethod ≠ some .encode →
        ∃ after,
          (applySubtitle index found streams).run controller =
            .ok () after) := by
  obtain ⟨disabled, off, disables⟩ := disableSubtitles_disables plays false
  cases found with
  | none =>
      have ran :
          (applySubtitle index none streams).run controller =
            .ok () disabled :=
        off
      rw [ran]
      exact ⟨disables, fun _ => ⟨disabled, rfl⟩⟩
  | some stream =>
      by_cases burned : stream.deliveryMethod = some .encode
      · have ran :
            (applySubtitle index (some stream) streams).run controller =
              (restartWithSubtitles index true).run controller := by
          simp only [applySubtitle, if_pos burned]
        rw [ran]
        refine ⟨?_, fun other => absurd burned other⟩
        simp only [FollowsRequest, burned]
        exact restartWithSubtitles_restarts plays index true
      · rw [applySubtitle_run plays burned]
        cases method : stream.deliveryMethod with
        | none =>
            rw [if_pos (Or.inr rfl), off]
            simp only [FollowsRequest, method]
            exact ⟨disables, fun _ => ⟨disabled, rfl⟩⟩
        | some delivery =>
            cases delivery with
            | encode =>
                exact absurd method burned
            | drop =>
                rw [if_pos (Or.inl rfl), off]
                simp only [FollowsRequest, method]
                exact ⟨disables, fun _ => ⟨disabled, rfl⟩⟩
            | external =>
                obtain ⟨after, ran, holds⟩ :=
                  enableSubtitle_of_external plays exposed distinct
                    requested method
                rw [if_neg (by decide), ran]
                simp only [FollowsRequest, method]
                exact ⟨holds, fun _ => ⟨after, rfl⟩⟩
            | embed =>
                rw [if_neg (by decide)]
                simp only [FollowsRequest, method]
                by_cases hidden : stream.isExternal
                · rw [enableSubtitle_of_hidden method hidden, off,
                    if_pos hidden]
                  exact ⟨disables, fun _ => ⟨disabled, rfl⟩⟩
                · obtain ⟨after, ran, holds⟩ :=
                    enableSubtitle_of_embed plays exposed requested method
                      (by simpa using hidden)
                  rw [ran, if_neg hidden]
                  exact ⟨holds, fun _ => ⟨after, rfl⟩⟩
            | hls =>
                obtain ⟨after, ran, holds⟩ :=
                  enableSubtitle_of_hls plays exposed distinct requested
                    method
                rw [if_neg (by decide), ran]
                simp only [FollowsRequest, method]
                exact ⟨holds, fun _ => ⟨after, rfl⟩⟩

omit found in
/-- Every request for subtitles is followed. -/
theorem subtitle_choice_followed (index : Int) (force : Bool) :
    FollowsChoice streams embedded external controller index force := by
  obtain ⟨current, located⟩ := Option.isSome_iff_exists.mp plays.options
  have stored :
      controller.storedSubtitle = current.subtitleStreamIndex := by
    rw [storedSubtitle, located]
    rfl
  by_cases off : index = -1
  · subst off
    refine ⟨fun _ => ?_, fun other => absurd rfl other,
      fun other => absurd rfl other, fun other => absurd rfl other⟩
    obtain ⟨after, ran, disables⟩ := disableSubtitles_disables plays force
    refine ⟨after, ?_, disables⟩
    rw [setSubtitleIndex, if_pos rfl]
    exact ran
  · by_cases same : controller.storedSubtitle = some index ∧ ¬force
    · have ran :
          (setSubtitleIndex index force).run controller =
            .ok () controller := by
        rw [stored] at same
        rw [setSubtitleIndex, if_neg off]
        simp only [EStateM.run_bind, currentOptions_run located]
        rw [if_pos same]
        rfl
      refine ⟨fun other => absurd other off, fun _ _ _ => ran, ?_,
        fun _ _ => ⟨controller, ran⟩⟩
      intro _ changed
      rcases changed with different | forced
      · exact absurd same.1 different
      · exact absurd forced same.2
    · obtain ⟨source, chosen, held⟩ := plays.source
      let spoken : PlaybackController :=
        { controller with
          lastPlayedSubtitleLanguageIsoCode :=
            (subtitleStream index streams).bind MediaStream.language }
      have ran :
          (setSubtitleIndex index force).run controller =
            (applySubtitle index (subtitleStream index streams)
              streams).run spoken := by
        rw [stored] at same
        rw [setSubtitleIndex, if_neg off]
        simp only [EStateM.run_bind, currentOptions_run located]
        rw [if_neg same]
        simp only [EStateM.run_bind, EStateM.run_get]
        rw [if_neg (not_not.mpr plays.fragment)]
        simp only [EStateM.run_bind, EStateM.run_get, chosen, lift,
          EStateM.run_pure, requireNotNull, held,
          setLastPlayedSubtitleLanguageIsoCode, EStateM.run_modify]
        rw [if_neg (by simp [plays.unburned])]
      have speaks : spoken.PlaysDirectly streams groups := plays.language _
      obtain ⟨follows, returns⟩ :=
        applySubtitle_follows speaks exposed distinct _ rfl
      rw [← ran] at follows returns
      refine ⟨fun other => absurd other off, ?_, fun _ _ => follows,
        fun _ => returns⟩
      intro _ equal unforced
      exact absurd ⟨equal, by simp [unforced]⟩ same

end Requests

def mixedStreams : List MediaStream :=
  [⟨.video, 0, none, none, false⟩,
    ⟨.subtitle, 1, some "eng", some .encode, false⟩,
    ⟨.subtitle, 2, some "fin", some .embed, false⟩,
    ⟨.subtitle, 3, some "swe", some .external, true⟩]

def containerGroups : List TrackGroup :=
  [⟨true, [some "0:1"]⟩, ⟨true, [some "0:2"]⟩]

def externalGroups : List TrackGroup :=
  [⟨true, [some "1:JF_EXTERNAL:3"]⟩]

/-- The group of the video and those of the subtitles. -/
def mixedGroups : List TrackGroup :=
  ⟨false, [some "0:0"]⟩ :: (containerGroups ++ externalGroups)

def playingMixed : PlaybackController :=
  run step
    (create ⟨false, false, false, false⟩
      [shortEpisode (shortSource 1 mixedStreams none)] 0 none none)
    ([.init (playingAt 0 []) false, .play 0] ++
      opening (shortSource 1 mixedStreams none) mixedGroups)

theorem playingMixed_playsDirectly :
    playingMixed.PlaysDirectly mixedStreams mixedGroups where
  options := by
    decide
  fragment := by
    decide
  player := by
    refine ⟨⟨true, playingAt 1000 mixedGroups, -1, 60000⟩, ?_, rfl⟩
    decide
  current := by
    refine ⟨⟨1, some (shortSource 1 mixedStreams none), true,
      .directPlay⟩, ?_, rfl⟩
    decide
  source := by
    refine ⟨shortSource 1 mixedStreams none, ?_, rfl⟩
    rfl
  unburned := by
    decide

theorem isExternalSubtitle_of_short {id : String} (short : id.length < 13)
    (isText : Bool) (index : Int) :
    (⟨isText, [some id]⟩ : TrackGroup).isExternalSubtitle index =
      false := by
  rw [Bool.eq_false_iff]
  intro marked
  have ends := (isExternalSubtitle_iff_suffix rfl index).mp marked
  have long := ends.length_le
  simp only [String.toList_append, List.length_append,
    String.length_toList] at long
  have mark : ":JF_EXTERNAL:".length = 13 := by
    decide
  omega

theorem mixedGroups_exposed :
    ExposedGroups mixedStreams mixedGroups containerGroups
      externalGroups where
  text := by
    decide
  container := by
    decide
  added := by
    refine List.Forall₂.cons ⟨"1", ?_⟩ List.Forall₂.nil
    decide
  plain := by
    intro group member other index
    simp only [mixedGroups, containerGroups, externalGroups,
      List.cons_append, List.nil_append, List.mem_cons, List.not_mem_nil,
      or_false] at member
    rcases member with rfl | rfl | rfl | rfl
    · exact isExternalSubtitle_of_short (by decide) false index
    · exact isExternalSubtitle_of_short (by decide) true index
    · exact isExternalSubtitle_of_short (by decide) true index
    · exact absurd other (by decide)

/-- The second group of the container is enabled. -/
theorem embedded_subtitle_is_followed :
    FollowsChoice mixedStreams containerGroups externalGroups playingMixed 2
      false :=
  subtitle_choice_followed playingMixed_playsDirectly mixedGroups_exposed
    (by decide) 2 false

/-- A stream that is burned in restarts playback with its index stored. -/
theorem encoded_subtitle_restarts :
    playingMixed.PlaysDirectly mixedStreams mixedGroups ∧
      playingMixed.storedSubtitle = some (-1) ∧
      (step playingMixed (.setSubtitleIndex 1)).storedSubtitle = some 1 ∧
      (.play 1000) ∈ (step playingMixed (.setSubtitleIndex 1)).calls := by
  refine ⟨playingMixed_playsDirectly, ?_⟩
  decide

end JellyfinTv.Video
