import JellyfinTv.Video.Streams
import Mathlib.Data.List.DropRight

/-!
# Tracks of the player

`setExoPlayerTrack` and `getExoPlayerTrack` translate between the indices of
the server and the ids of the track groups of ExoPlayer.  An id is parsed, and
the external streams in front of the list, which ExoPlayer does not count, are
added or taken away.  What ExoPlayer does with an override is a parameter.
-/

namespace JellyfinTv.Video.ExoPlayerTracks

/-- The types of tracks that are asked for, and one for all others. -/
inductive TrackType where
  | text
  | audio
  | other
  deriving DecidableEq, Repr

structure Track where
  isSupported : Bool
  isSelected : Bool
  deriving DecidableEq, Repr

/-- A group of tracks with the id of its media track group. -/
structure Group where
  id : String
  type : TrackType
  tracks : List Track
  deriving DecidableEq, Repr

/-- The player as far as its tracks go. -/
structure TrackPlayer where
  isInitialized : Bool
  groups : List Group
  deriving DecidableEq, Repr

/-- An override for the track of a group. -/
structure TrackSelectionOverride where
  type : TrackType
  id : String
  trackIndex : Nat
  deriving DecidableEq, Repr

inductive TrackException where
  | arrayIndexOutOfBounds
  deriving DecidableEq, Repr

/-- `Integer.parseInt`, where `none` is the exception.  Other digits than the
ones of ASCII are left out. -/
def parseInt (text : List Char) : Option Int :=
  let negative := text.head? = some '-'
  let digits :=
    if negative ∨ text.head? = some '+' then text.tail else text
  let number : Int :=
    digits.foldl (fun read digit => read * 10 + (digit.toNat - 48)) 0
  let signed := if negative then -number else number
  if digits = [] ∨ ¬digits.all Char.isDigit then none
  else if -2147483648 ≤ signed ∧ signed ≤ 2147483647 then some signed
  else none

/-- `String.split` at colons, which leaves out empty parts at the end. -/
def splitAtColons (text : List Char) : List (List Char) :=
  (text.splitOn ':').rdropWhile List.isEmpty

/-- The number in the id of a group; `none` if it cannot be parsed. -/
def parseGroupId (id : String) : Except TrackException (Option Int) :=
  if ':' ∈ id.toList then
    match (splitAtColons id.toList)[1]? with
    | none => .error .arrayIndexOutOfBounds
    | some part => .ok (parseInt part)
  else
    .ok (parseInt id.toList)

/-- The loop over the streams ends at the first one that is not external. -/
def offsetLoop (adjustByAdding : Bool) : Int → List MediaStream → Int
  | index, [] => index
  | index, stream :: rest =>
      if ¬stream.isExternal then
        index
      else
        offsetLoop adjustByAdding
          (if adjustByAdding then index + 1 else index - 1) rest

/-- The sum cannot overflow unnoticed: it would be larger than any list, and
the wrapped one would be negative. -/
def offsetStreamIndex (index : Int) (adjustByAdding : Bool)
    (allStreams : List MediaStream) : Int :=
  if index < 0 then
    -1
  else
    let index := offsetLoop adjustByAdding index allStreams
    if index < 0 ∨ index > allStreams.length then -1 else index

/-- The type of tracks for a type of streams, if it is one of the two that are
supported. -/
def chosenTrackType (streamType : Option MediaStreamType) :
    Option TrackType :=
  match streamType with
  | some .subtitle => some .text
  | some .audio => some .audio
  | _ => none

/-- The loop over the groups; it goes on while no id has been found. -/
def selectedId (chosen : TrackType) :
    Int → List Group → Except TrackException Int
  | matchedIndex, [] => .ok matchedIndex
  | matchedIndex, group :: rest =>
      if matchedIndex > -2 then
        .ok matchedIndex
      else if group.type = chosen ∧ group.tracks.any Track.isSelected then
        match parseGroupId group.id with
        | .error exception => .error exception
        | .ok id => selectedId chosen (id.getD (-1)) rest
      else
        selectedId chosen matchedIndex rest

def getExoPlayerTrack (streamType : Option MediaStreamType)
    (allStreams : Option (List MediaStream)) (player : TrackPlayer) :
    Except TrackException Int :=
  match chosenTrackType streamType, allStreams with
  | some chosen, some streams =>
      if ¬player.isInitialized then
        .ok (-1)
      else
        match selectedId chosen (-2) player.groups with
        | .error exception => .error exception
        | .ok matchedIndex =>
            let exoTrackID := offsetStreamIndex matchedIndex true streams
            .ok (if exoTrackID < 0 then -1 else exoTrackID)
  | _, _ => .ok (-1)

/-- The search for a group returns at a track that cannot be selected or is
selected already, and else remembers the last group. -/
inductive Search where
  | returned (answer : Bool)
  | matched (group : Option Group)
  deriving DecidableEq, Repr

/-- The loop over the tracks of a group. -/
def searchTracks (chosen : TrackType) (exoTrackID : Int) (group : Group) :
    Option Group → List Track → Except TrackException Search
  | matchedGroup, [] => .ok (.matched matchedGroup)
  | matchedGroup, track :: rest =>
      if group.type ≠ chosen then
        searchTracks chosen exoTrackID group matchedGroup rest
      else
        match parseGroupId group.id with
        | .error exception => .error exception
        | .ok id =>
            if id ≠ some exoTrackID then
              searchTracks chosen exoTrackID group matchedGroup rest
            else if ¬track.isSupported then
              .ok (.returned false)
            else if track.isSelected then
              .ok (.returned true)
            else
              searchTracks chosen exoTrackID group (some group) rest

/-- The loop over the groups. -/
def searchGroups (chosen : TrackType) (exoTrackID : Int) :
    Option Group → List Group → Except TrackException Search
  | matchedGroup, [] => .ok (.matched matchedGroup)
  | matchedGroup, group :: rest =>
      match searchTracks chosen exoTrackID group matchedGroup group.tracks with
      | .ok (.matched found) => searchGroups chosen exoTrackID found rest
      | returned => returned

/-- What ExoPlayer makes of an override; `none` if it throws. -/
abbrev OverrideTracks :=
  TrackSelectionOverride → List Group → Option (List Group)

/-- The part of `setExoPlayerTrack` behind the search. -/
def overrideGroup (setOverride : OverrideTracks) (player : TrackPlayer)
    (group : Group) : Bool × TrackPlayer :=
  match setOverride ⟨group.type, group.id, 0⟩ player.groups with
  | none => (false, player)
  | some groups => (true, { player with groups := groups })

def setExoPlayerTrack (setOverride : OverrideTracks) (index : Int)
    (streamType : Option MediaStreamType)
    (allStreams : Option (List MediaStream)) (player : TrackPlayer) :
    Except TrackException (Bool × TrackPlayer) :=
  match chosenTrackType streamType, allStreams with
  | some chosen, some streams =>
      let candidate :=
        streams.find? fun stream =>
          stream.index = index ∧ ¬stream.isExternal ∧
            some stream.type = streamType
      let exoTrackID := offsetStreamIndex index false streams
      if ¬player.isInitialized ∨ candidate = none ∨ exoTrackID < 0 then
        .ok (false, player)
      else
        match searchGroups chosen exoTrackID none player.groups with
        | .error exception => .error exception
        | .ok (.returned answer) => .ok (answer, player)
        | .ok (.matched none) => .ok (false, player)
        | .ok (.matched (some group)) =>
            .ok (overrideGroup setOverride player group)
  | _, _ => .ok (false, player)

/-- A decimal number, perhaps behind a source and a colon. -/
def NumericId (id : String) : Prop :=
  ∃ digits,
    digits ≠ [] ∧ (∀ digit ∈ digits, digit.isDigit) ∧
      (id.toList = digits ∨
        ∃ source, ':' ∉ source ∧ id.toList = source ++ ':' :: digits)

def Group.isSelected (group : Group) : Bool :=
  group.tracks.any Track.isSelected

/-- The ids are numeric and at most one group of a type is selected. -/
structure Exposed (groups : List Group) : Prop where
  ids : ∀ group ∈ groups, NumericId group.id
  single :
    ∀ first ∈ groups, ∀ second ∈ groups,
      first.type = second.type → first.isSelected → second.isSelected →
        first.id = second.id

/-- Behind an override the groups are the same, and of its type exactly its
track is selected. -/
structure Honours (override : TrackSelectionOverride)
    (groups after : List Group) : Prop where
  same :
    (after.map fun group =>
        (group.type, group.id, group.tracks.length)) =
      groups.map fun group => (group.type, group.id, group.tracks.length)
  selected :
    ∀ group ∈ after, group.type = override.type →
      ∀ trackIndex track, group.tracks[trackIndex]? = some track →
        (track.isSelected ↔
          group.id = override.id ∧ trackIndex = override.trackIndex)

/-- The indices of the streams are their positions. -/
def AtPositions (streams : List MediaStream) : Prop :=
  ∀ (position : Nat) (stream : MediaStream),
    streams[position]? = some stream → stream.index = position

/-- A group of the type whose id is the number. -/
structure Group.Carries (chosen : TrackType) (exoTrackID : Int)
    (group : Group) : Prop where
  type : group.type = chosen
  id : parseGroupId group.id = .ok (some exoTrackID)

theorem parseGroupId_returns {id : String} (numeric : NumericId id) :
    ∃ number, parseGroupId id = .ok number := by
  obtain ⟨digits, nonempty, decimal, plain | ⟨source, bare, behind⟩⟩ :=
    numeric
  · have noColon : ':' ∉ digits := by
      intro member
      exact absurd (decimal ':' member) (by decide)
    refine ⟨parseInt digits, ?_⟩
    rw [parseGroupId, plain, if_neg noColon]
  · have noColon : ':' ∉ digits := by
      intro member
      exact absurd (decimal ':' member) (by decide)
    have colon : ':' ∈ source ++ ':' :: digits := by
      simp
    have parts :
        splitAtColons (source ++ ':' :: digits) = [source, digits] := by
      have kept : ¬digits.isEmpty := by
        simpa using nonempty
      rw [splitAtColons, List.splitOn_append_cons_self,
        List.splitOn_eq_singleton bare, List.splitOn_eq_singleton noColon]
      exact List.rdropWhile_concat_neg List.isEmpty [source] digits kept
    refine ⟨parseInt digits, ?_⟩
    rw [parseGroupId, behind, if_pos colon, parts]
    rfl

theorem offsetLoop_eq (adjustByAdding : Bool) (index : Int)
    (streams : List MediaStream) :
    offsetLoop adjustByAdding index streams =
      if adjustByAdding then
        index + (streams.takeWhile MediaStream.isExternal).length
      else
        index - (streams.takeWhile MediaStream.isExternal).length := by
  induction streams generalizing index with
  | nil =>
      simp [offsetLoop]
  | cons stream rest inductionHypothesis =>
      by_cases external : stream.isExternal
      · rw [offsetLoop, if_neg (not_not.mpr external), inductionHypothesis,
          List.takeWhile_cons_of_pos external, List.length_cons]
        cases adjustByAdding with
        | true =>
            simp only [if_true]
            omega
        | false =>
            simp only [Bool.false_eq_true, if_false]
            omega
      · rw [offsetLoop, if_pos external,
          List.takeWhile_cons_of_neg external]
        simp

/-- An index that has an id is the index of that id. -/
theorem offsetStreamIndex_cancel {streams : List MediaStream} {index : Int}
    (low : 0 ≤ index) (high : index < streams.length)
    (known : 0 ≤ offsetStreamIndex index false streams) :
    offsetStreamIndex (offsetStreamIndex index false streams) true streams =
      index := by
  have away :
      offsetStreamIndex index false streams =
        index - (streams.takeWhile MediaStream.isExternal).length := by
    unfold offsetStreamIndex at known ⊢
    rw [offsetLoop_eq] at known ⊢
    simp only [Bool.false_eq_true, if_false] at known ⊢
    split at known
    · omega
    · rename_i notNegative
      rw [if_neg notNegative]
      split at known
      · omega
      · rename_i inside
        rw [if_neg inside]
  rw [away] at known ⊢
  unfold offsetStreamIndex
  rw [offsetLoop_eq, if_neg (by omega)]
  simp only [if_true]
  rw [if_neg (by omega)]
  omega

theorem selectedId_of_found (chosen : TrackType) {matchedIndex : Int}
    (found : matchedIndex > -2) (groups : List Group) :
    selectedId chosen matchedIndex groups = .ok matchedIndex := by
  cases groups with
  | nil =>
      rfl
  | cons group rest =>
      rw [selectedId, if_pos found]

/-- If the selected groups of the type all carry the id, it is found. -/
theorem selectedId_of_carried {chosen : TrackType} {exoTrackID : Int}
    (known : 0 ≤ exoTrackID) {groups : List Group}
    (present : ∃ group ∈ groups, group.type = chosen ∧ group.isSelected)
    (carried :
      ∀ group ∈ groups, group.type = chosen → group.isSelected →
        parseGroupId group.id = .ok (some exoTrackID)) :
    selectedId chosen (-2) groups = .ok exoTrackID := by
  induction groups with
  | nil =>
      obtain ⟨group, member, -⟩ := present
      exact absurd member List.not_mem_nil
  | cons group rest inductionHypothesis =>
      rw [selectedId, if_neg (by omega)]
      by_cases qualified : group.type = chosen ∧ group.isSelected
      · have parsed :=
          carried group List.mem_cons_self qualified.1 qualified.2
        have begun :
            group.type = chosen ∧ group.tracks.any Track.isSelected :=
          qualified
        rw [if_pos begun, parsed]
        exact selectedId_of_found chosen (by simp; omega) rest
      · have passed :
            ¬(group.type = chosen ∧ group.tracks.any Track.isSelected) :=
          qualified
        rw [if_neg passed]
        apply inductionHypothesis
        · obtain ⟨other, member, qualifies⟩ := present
          rcases List.mem_cons.mp member with rfl | later
          · exact absurd qualifies qualified
          · exact ⟨other, later, qualifies⟩
        · intro other member
          exact carried other (List.mem_cons_of_mem group member)

/-- What the search may end with: it answers yes for a selected group that
carries the id, and remembers a group that does. -/
def Search.Sound (chosen : TrackType) (exoTrackID : Int)
    (groups : List Group) (matchedGroup : Option Group) : Search → Prop
  | .returned answer =>
      answer →
        ∃ group ∈ groups,
          group.Carries chosen exoTrackID ∧ group.isSelected
  | .matched found =>
      ∀ group, found = some group →
        matchedGroup = some group ∨
          (group ∈ groups ∧ group.Carries chosen exoTrackID ∧
            group.tracks ≠ [])

theorem searchTracks_sound {chosen : TrackType} {exoTrackID : Int}
    {group : Group} (numeric : NumericId group.id)
    (matchedGroup : Option Group) {tracks : List Track}
    (part : tracks ⊆ group.tracks) :
    ∃ search,
      searchTracks chosen exoTrackID group matchedGroup tracks =
          .ok search ∧
        search.Sound chosen exoTrackID [group] matchedGroup := by
  obtain ⟨id, parsed⟩ := parseGroupId_returns numeric
  induction tracks generalizing matchedGroup with
  | nil =>
      exact ⟨_, rfl, fun other found => Or.inl found⟩
  | cons track rest inductionHypothesis =>
      have later := (List.cons_subset.mp part).2
      have member := (List.cons_subset.mp part).1
      rw [searchTracks]
      by_cases type : group.type = chosen
      · rw [if_neg (not_not.mpr type), parsed]
        by_cases same : id = some exoTrackID
        · have carries : group.Carries chosen exoTrackID :=
            ⟨type, by rw [parsed, same]⟩
          dsimp only
          rw [if_neg (not_not.mpr same)]
          by_cases supported : track.isSupported
          · rw [if_neg (not_not.mpr supported)]
            by_cases selected : track.isSelected
            · rw [if_pos selected]
              refine ⟨_, rfl, fun _ => ?_⟩
              refine ⟨group, List.mem_singleton_self group, carries, ?_⟩
              exact List.any_eq_true.mpr ⟨track, member, selected⟩
            · rw [if_neg selected]
              obtain ⟨search, searched, sound⟩ :=
                inductionHypothesis (some group) later
              refine ⟨search, searched, ?_⟩
              cases search with
              | returned answer =>
                  exact sound
              | matched found =>
                  intro other holds
                  rcases sound other holds with this | that
                  · obtain rfl := Option.some.inj this
                    right
                    exact ⟨List.mem_singleton_self _, carries,
                      List.ne_nil_of_mem member⟩
                  · exact Or.inr that
          · rw [if_pos supported]
            exact ⟨_, rfl, fun yes => by cases yes⟩
        · dsimp only
          rw [if_pos same]
          exact inductionHypothesis matchedGroup later
      · rw [if_pos type]
        exact inductionHypothesis matchedGroup later

theorem searchGroups_sound {chosen : TrackType} {exoTrackID : Int}
    {groups : List Group} (ids : ∀ group ∈ groups, NumericId group.id)
    (matchedGroup : Option Group) :
    ∃ search,
      searchGroups chosen exoTrackID matchedGroup groups = .ok search ∧
        search.Sound chosen exoTrackID groups matchedGroup := by
  induction groups generalizing matchedGroup with
  | nil =>
      exact ⟨_, rfl, fun other found => Or.inl found⟩
  | cons group rest inductionHypothesis =>
      rw [List.forall_mem_cons] at ids
      obtain ⟨search, searched, sound⟩ :=
        searchTracks_sound ids.1 matchedGroup (List.Subset.refl group.tracks)
      rw [searchGroups, searched]
      cases search with
      | returned answer =>
          refine ⟨_, rfl, fun yes => ?_⟩
          obtain ⟨other, member, holds⟩ := sound yes
          obtain rfl := List.mem_singleton.mp member
          exact ⟨other, List.mem_cons_self, holds⟩
      | matched found =>
          obtain ⟨last, finished, followed⟩ :=
            inductionHypothesis ids.2 found
          refine ⟨last, finished, ?_⟩
          cases last with
          | returned answer =>
              intro yes
              obtain ⟨other, member, holds⟩ := followed yes
              exact ⟨other, List.mem_cons_of_mem group member, holds⟩
          | matched final =>
              intro other holds
              rcases followed other holds with earlier | ⟨member, carries⟩
              · rcases sound other earlier with before | ⟨member, carries⟩
                · exact Or.inl before
                · obtain rfl := List.mem_singleton.mp member
                  exact Or.inr ⟨List.mem_cons_self, carries⟩
              · exact Or.inr ⟨List.mem_cons_of_mem group member, carries⟩

/-! ## Selections -/

/-- Behind an override the selected groups of its type carry its id, and there
is one. -/
theorem Honours.carried {chosen : TrackType} {exoTrackID : Int}
    {group : Group} {groups after : List Group}
    (honours : Honours ⟨group.type, group.id, 0⟩ groups after)
    (member : group ∈ groups) (carries : group.Carries chosen exoTrackID)
    (nonempty : group.tracks ≠ []) :
    (∃ other ∈ after, other.type = chosen ∧ other.isSelected) ∧
      ∀ other ∈ after, other.type = chosen → other.isSelected →
        parseGroupId other.id = .ok (some exoTrackID) := by
  constructor
  · have shape :
        (group.type, group.id, group.tracks.length) ∈
          after.map fun group =>
            (group.type, group.id, group.tracks.length) := by
      rw [honours.same]
      exact List.mem_map_of_mem member
    obtain ⟨other, present, same⟩ := List.mem_map.mp shape
    simp only [Prod.mk.injEq] at same
    obtain ⟨type, id, length⟩ := same
    have some : 0 < other.tracks.length := by
      rw [length]
      exact List.length_pos_iff.mpr nonempty
    have selected :=
      (honours.selected other present type 0 other.tracks[0]
        (List.getElem?_eq_getElem some)).mpr ⟨id, rfl⟩
    refine ⟨other, present, type.trans carries.type, ?_⟩
    exact List.any_eq_true.mpr
      ⟨other.tracks[0], List.getElem_mem some, selected⟩
  · intro other present type selected
    obtain ⟨track, within, chosenTrack⟩ := List.any_eq_true.mp selected
    obtain ⟨trackIndex, found⟩ := List.mem_iff_getElem?.mp within
    have same :=
      (honours.selected other present (type.trans carries.type.symm)
        trackIndex track found).mp chosenTrack
    rw [same.1]
    exact carries.id

/-- A found candidate lies in the list. -/
theorem candidate_bounds {streams : List MediaStream} {index : Int}
    {accepted : MediaStream → Bool} (positions : AtPositions streams)
    (indexed : ∀ stream, accepted stream → stream.index = index)
    (found : streams.find? accepted ≠ none) :
    0 ≤ index ∧ index < streams.length := by
  obtain ⟨stream, located⟩ := Option.ne_none_iff_exists'.mp found
  have same := indexed stream (List.find?_some located)
  obtain ⟨position, inside, rfl⟩ :=
    List.mem_iff_getElem.mp (List.mem_of_find?_eq_some located)
  have placed :=
    positions position streams[position]
      (List.getElem?_eq_getElem inside)
  omega

/-- A selection that carries the id is read as the index. -/
theorem getExoPlayerTrack_of_carried {streamType : Option MediaStreamType}
    {chosen : TrackType} (supported : chosenTrackType streamType = some chosen)
    {streams : List MediaStream} {index : Int}
    (low : 0 ≤ index) (high : index < streams.length)
    (known : 0 ≤ offsetStreamIndex index false streams)
    {player : TrackPlayer} (initialized : player.isInitialized)
    (present :
      ∃ group ∈ player.groups, group.type = chosen ∧ group.isSelected)
    (carried :
      ∀ group ∈ player.groups, group.type = chosen → group.isSelected →
        parseGroupId group.id =
          .ok (some (offsetStreamIndex index false streams))) :
    getExoPlayerTrack streamType (some streams) player = .ok index := by
  simp only [getExoPlayerTrack, supported]
  rw [if_neg (not_not.mpr initialized),
    selectedId_of_carried known present carried]
  dsimp only
  rw [offsetStreamIndex_cancel low high known, if_neg (by omega)]

/-- Setting a track returns.  If the answer is yes the index is read back, and
if it is no nothing has changed. -/
theorem selected_track_reads_back {setOverride : OverrideTracks}
    (honours :
      ∀ override groups after, setOverride override groups = some after →
        Honours override groups after)
    {player : TrackPlayer} (exposed : Exposed player.groups)
    {allStreams : Option (List MediaStream)}
    (positions : ∀ streams ∈ allStreams, AtPositions streams)
    (index : Int) (streamType : Option MediaStreamType) :
    ∃ answer after,
      setExoPlayerTrack setOverride index streamType allStreams player =
          .ok (answer, after) ∧
        (answer = true →
          getExoPlayerTrack streamType allStreams after = .ok index) ∧
        (answer = false → after = player) := by
  unfold setExoPlayerTrack
  have unchanged :
      ∃ answer after,
        (.ok (false, player) : Except TrackException (Bool × TrackPlayer)) =
            .ok (answer, after) ∧
          (answer = true →
            getExoPlayerTrack streamType allStreams after = .ok index) ∧
          (answer = false → after = player) :=
    ⟨false, player, rfl, (fun yes => by cases yes), fun _ => rfl⟩
  cases supported : chosenTrackType streamType with
  | none =>
      exact unchanged
  | some chosen =>
      cases allStreams with
      | none =>
          exact unchanged
      | some streams =>
          dsimp only
          split
          · exact unchanged
          · rename_i ready
            simp only [not_or, not_not, Int.not_lt] at ready
            obtain ⟨initialized, available, known⟩ := ready
            obtain ⟨low, high⟩ :=
              candidate_bounds (positions streams rfl)
                (fun stream accepted => (of_decide_eq_true accepted).1)
                available
            obtain ⟨search, searched, sound⟩ :=
              searchGroups_sound exposed.ids none
            rw [searched]
            cases search with
            | returned answer =>
                refine ⟨answer, player, rfl, ?_, fun _ => rfl⟩
                intro yes
                obtain ⟨group, member, carries, selected⟩ := sound yes
                apply getExoPlayerTrack_of_carried supported low high known
                  initialized ⟨group, member, carries.type, selected⟩
                intro other present type chosenGroup
                rw [exposed.single other present group member
                  (type.trans carries.type.symm) chosenGroup selected]
                exact carries.id
            | matched found =>
                cases found with
                | none =>
                    exact unchanged
                | some group =>
                    rcases sound group rfl with
                      earlier | ⟨member, carries, nonempty⟩
                    · cases earlier
                    · dsimp only [overrideGroup]
                      cases applied :
                          setOverride ⟨group.type, group.id, 0⟩
                            player.groups with
                      | none =>
                          exact unchanged
                      | some groups =>
                          obtain ⟨present, carried⟩ :=
                            (honours _ _ _ applied).carried member carries
                              nonempty
                          refine ⟨true, { player with groups := groups },
                            rfl, fun _ => ?_, by simp⟩
                          exact getExoPlayerTrack_of_carried supported low
                            high known initialized present carried

/-- A player that selects the track of an override. -/
def selectTrack (override : TrackSelectionOverride) (group : Group) :
    Group :=
  if group.type = override.type then
    { group with
      tracks :=
        group.tracks.mapIdx fun trackIndex track =>
          { track with
            isSelected :=
              group.id = override.id ∧ trackIndex = override.trackIndex } }
  else
    group

theorem selectTrack_honours (override : TrackSelectionOverride)
    (groups : List Group) :
    Honours override groups (groups.map (selectTrack override)) where
  same := by
    rw [List.map_map]
    apply List.map_congr_left
    intro group _
    by_cases type : group.type = override.type
    · simp [selectTrack, type]
    · simp [selectTrack, type]
  selected := by
    intro after member
    obtain ⟨group, -, rfl⟩ := List.mem_map.mp member
    by_cases type : group.type = override.type
    · intro _ trackIndex track found
      rw [selectTrack, if_pos type] at found ⊢
      simp only [List.getElem?_mapIdx, Option.map_eq_some_iff] at found
      obtain ⟨earlier, -, rfl⟩ := found
      simp
    · intro same
      rw [selectTrack, if_neg type] at same
      exact absurd same type

def audioStream (index : Int) : MediaStream where
  type := .audio
  index := index
  language := none
  deliveryMethod := none
  isExternal := false

/-- An external subtitle in front of two audio streams. -/
def twoLanguages : List MediaStream :=
  [⟨.subtitle, 0, none, some .external, true⟩, audioStream 1, audioStream 2]

/-- The first of the two audio tracks is selected. -/
def firstLanguage : TrackPlayer where
  isInitialized := true
  groups :=
    [⟨"0:0", .audio, [⟨true, true⟩]⟩, ⟨"0:1", .audio, [⟨true, false⟩]⟩]

theorem second_language_reads_back :
    ∃ after,
      setExoPlayerTrack
          (fun override groups => some (groups.map (selectTrack override)))
          2 (some .audio) (some twoLanguages) firstLanguage =
          .ok (true, after) ∧
        getExoPlayerTrack (some .audio) (some twoLanguages) after =
          .ok 2 := by
  have honours :
      ∀ override groups after,
        some (groups.map (selectTrack override)) = some after →
          Honours override groups after := by
    rintro override groups _ ⟨⟩
    exact selectTrack_honours override groups
  have exposed : Exposed firstLanguage.groups := by
    constructor
    · intro group member
      simp only [firstLanguage, List.mem_cons, List.not_mem_nil, or_false]
        at member
      rcases member with rfl | rfl
      · exact ⟨['0'], by decide, List.forall_mem_singleton.mpr (by decide),
          Or.inr ⟨['0'], by decide, rfl⟩⟩
      · exact ⟨['1'], by decide, List.forall_mem_singleton.mpr (by decide),
          Or.inr ⟨['0'], by decide, rfl⟩⟩
    · decide
  have positions :
      ∀ streams ∈ some twoLanguages, AtPositions streams := by
    rintro _ ⟨⟩ position stream found
    rcases position with _ | _ | _ | position
    · cases found
      rfl
    · cases found
      rfl
    · cases found
      rfl
    · cases found
  obtain ⟨answer, after, done, reads, -⟩ :=
    selected_track_reads_back honours exposed positions 2 (some .audio)
  have evaluated :
      (setExoPlayerTrack
        (fun override groups => some (groups.map (selectTrack override)))
        2 (some .audio) (some twoLanguages) firstLanguage).map Prod.fst =
          .ok true := by
    rfl
  rw [done] at evaluated
  obtain rfl : answer = true := by
    simpa [Except.map] using evaluated
  exact ⟨after, done, reads rfl⟩

end JellyfinTv.Video.ExoPlayerTracks
