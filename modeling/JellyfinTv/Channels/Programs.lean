import JellyfinTv.Launch.PlaybackHelper

/-!
# Programs of the home screen

`LeanbackChannelWorker` shows items of the server on the home screen of the
device, as programs of the app's channels and as programs to watch next.
-/

namespace JellyfinTv.Channels

open JellyfinTv.Library

open Launch.SdkPlaybackHelper (inWholeMilliseconds toInt)

abbrev Uri := Text

/-- The kinds of items that are told apart. -/
inductive BaseItemKind where
  | series
  | movie
  | episode
  | audio
  | playlist
  | collectionFolder
  | other
  deriving DecidableEq, Repr

/-- The images are the primary one of the item and the thumb of its parent;
dates are in milliseconds, except for the premiere. -/
structure BaseItemDto (UUID Image Date : Type) where
  id : UUID
  type : BaseItemKind
  name : Option Text
  seriesName : Option Text
  overview : Option Text
  premiereDate : Option Date
  dateCreated : Option Int
  runTimeTicks : Option Int
  playbackPositionTicks : Option Int
  lastPlayedDate : Option Int
  parentIndexNumber : Option Int
  indexNumber : Option Int
  indexNumberEnd : Option Int
  primaryImage : Option Image
  parentThumb : Option Image
  deriving DecidableEq, Repr

inductive ProgramType where
  | TYPE_TV_SERIES
  | TYPE_MOVIE
  | TYPE_TV_EPISODE
  | TYPE_TRACK
  | TYPE_PLAYLIST
  | TYPE_CHANNEL
  deriving DecidableEq, Repr

inductive AspectRatio where
  | ASPECT_RATIO_16_9
  | ASPECT_RATIO_MOVIE_POSTER
  deriving DecidableEq, Repr

/-- A program of a channel.  The intent opens the item. -/
structure PreviewProgram where
  channelId : Nat
  type : ProgramType
  title : Option Text
  episodeTitle : Option Text
  description : Option Text
  releaseDate : Option Text
  posterArtUri : Uri
  posterArtAspectRatio : AspectRatio
  itemId : Text
  itemIsUserView : Bool
  durationMillis : Int
  seasonNumber : Option (Text × Int)
  episodeNumber : Option (Text × Int)
  deriving DecidableEq, Repr

inductive WatchNextType where
  | WATCH_NEXT_TYPE_CONTINUE
  | WATCH_NEXT_TYPE_NEXT
  | WATCH_NEXT_TYPE_NEW
  deriving DecidableEq, Repr

/-- A program to watch next, as the app builds it. -/
structure WatchNextProgram where
  internalProviderId : Text
  type : Option ProgramType
  posterArtAspectRatio : Option AspectRatio
  title : Option Text
  episodeTitle : Option Text
  episodeNumber : Option Int
  seasonNumber : Option Int
  description : Option Text
  posterArtUri : Uri
  watchNextType : WatchNextType
  lastPlaybackPositionMillis : Option Int
  lastEngagementTimeUtcMillis : Int
  durationMillis : Option Int
  itemId : Text
  deriving DecidableEq, Repr

/-- What the worker uses to build programs.  `ticks` are nanoseconds. -/
structure Environment (UUID Image Date : Type) where
  idText : UUID → Text
  getUrl : Image → Text
  getImageUri : Text → Uri
  tileUrl : Text
  stripHtml : Text → Text
  isoDate : Date → Text
  ticks : Int → Int
  now : Int
  preferParentThumb : Bool

section Build

variable {UUID Image Date : Type} (environment : Environment UUID Image Date)
  (item : BaseItemDto UUID Image Date)

def getPosterArtImageUrl : Uri :=
  let image :=
    if item.type = .movie ∨ item.type = .series then
      item.primaryImage
    else if (environment.preferParentThumb ∨ item.primaryImage.isNone) ∧
        item.parentThumb.isSome then
      item.parentThumb
    else
      item.primaryImage
  environment.getImageUri
    ((image.map environment.getUrl).getD environment.tileUrl)

def milliseconds (duration : Int) : Int :=
  toInt (inWholeMilliseconds duration)

def decimal (number : Int) : Text :=
  (toString number).toList

/-- The number with its text, unless it is missing or not positive. -/
def positiveNumber (text : Text) (number : Option Int) : Option (Text × Int) :=
  (number.filter fun number => 0 < number).map fun number => (text, number)

def createPreviewProgram (channelId : Nat) : PreviewProgram where
  channelId := channelId
  type :=
    match item.type with
    | .series => .TYPE_TV_SERIES
    | .movie => .TYPE_MOVIE
    | .episode => .TYPE_TV_EPISODE
    | .audio => .TYPE_TRACK
    | .playlist => .TYPE_PLAYLIST
    | _ => .TYPE_CHANNEL
  title := item.seriesName.or item.name
  episodeTitle := if item.type = .episode then item.name else none
  description := item.overview.map environment.stripHtml
  releaseDate := item.premiereDate.map environment.isoDate
  posterArtUri := getPosterArtImageUrl environment item
  posterArtAspectRatio :=
    if item.type = .collectionFolder ∨ item.type = .episode then
      .ASPECT_RATIO_16_9
    else
      .ASPECT_RATIO_MOVIE_POSTER
  itemId := environment.idText item.id
  itemIsUserView := item.type = .collectionFolder
  durationMillis :=
    match item.runTimeTicks with
    | none => 0
    | some runTimeTicks =>
        -- the remaining time, for an item that is resumed
        milliseconds
          (environment.ticks runTimeTicks -
            (item.playbackPositionTicks.map environment.ticks).getD 0)
  seasonNumber :=
    positiveNumber ((item.parentIndexNumber.map decimal).getD [])
      item.parentIndexNumber
  episodeNumber :=
    let episodeString :=
      match item.indexNumber, item.indexNumberEnd with
      | some first, some last => decimal first ++ '-' :: decimal last
      | some first, none => decimal first
      | none, _ => []
    positiveNumber episodeString item.indexNumber

def getBaseItemAsWatchNextProgram : WatchNextProgram :=
  let (watchNextType, lastPlaybackPositionMillis,
      lastEngagementTimeUtcMillis) :=
    if 0 < item.playbackPositionTicks.getD 0 then
      (.WATCH_NEXT_TYPE_CONTINUE,
        item.playbackPositionTicks.map fun position =>
          milliseconds (environment.ticks position),
        item.lastPlayedDate.getD environment.now)
    else if item.indexNumber = some 1 then
      (.WATCH_NEXT_TYPE_NEW, none, item.dateCreated.getD environment.now)
    else
      (.WATCH_NEXT_TYPE_NEXT, none, environment.now)
  { internalProviderId := environment.idText item.id
    type :=
      match item.type with
      | .episode => some .TYPE_TV_EPISODE
      | .movie => some .TYPE_MOVIE
      | _ => none
    posterArtAspectRatio :=
      match item.type with
      | .episode => some .ASPECT_RATIO_16_9
      | .movie => some .ASPECT_RATIO_MOVIE_POSTER
      | _ => none
    title := item.seriesName.or item.name
    episodeTitle := if item.seriesName.isSome then item.name else none
    episodeNumber :=
      if item.seriesName.isSome then
        item.indexNumber.filter fun number => 0 < number
      else
        none
    seasonNumber :=
      if item.seriesName.isSome then
        item.parentIndexNumber.filter fun number => 0 < number
      else
        none
    description := item.overview.map environment.stripHtml
    posterArtUri := getPosterArtImageUrl environment item
    watchNextType := watchNextType
    lastPlaybackPositionMillis := lastPlaybackPositionMillis
    lastEngagementTimeUtcMillis := lastEngagementTimeUtcMillis
    durationMillis :=
      item.runTimeTicks.map fun runTimeTicks =>
        milliseconds (environment.ticks runTimeTicks)
    itemId := environment.idText item.id }

end Build

section Presentation

variable {UUID Image Date : Type} {environment : Environment UUID Image Date}
  {item : BaseItemDto UUID Image Date}

/-- The picture of an item is its own unless it is to be the thumb of its
parent, which there is none of for a movie or a series. -/
structure PrefersThumb (environment : Environment UUID Image Date)
    (item : BaseItemDto UUID Image Date) : Prop where
  notMovie : item.type ≠ .movie
  notSeries : item.type ≠ .series
  thumb : item.parentThumb.isSome
  preferred : environment.preferParentThumb ∨ item.primaryImage = none

/-- The picture, or the tile of the app where there is none. -/
def Environment.pictureUri (environment : Environment UUID Image Date) :
    Option Image → Uri
  | some image => environment.getImageUri (environment.getUrl image)
  | none => environment.getImageUri environment.tileUrl

structure ShowsPicture (environment : Environment UUID Image Date)
    (item : BaseItemDto UUID Image Date) (uri : Uri) : Prop where
  thumb :
    PrefersThumb environment item →
      uri = environment.pictureUri item.parentThumb
  primary :
    ¬PrefersThumb environment item →
      uri = environment.pictureUri item.primaryImage

def previewTypes : List (BaseItemKind × ProgramType) :=
  [(.series, .TYPE_TV_SERIES), (.movie, .TYPE_MOVIE),
    (.episode, .TYPE_TV_EPISODE), (.audio, .TYPE_TRACK),
    (.playlist, .TYPE_PLAYLIST), (.collectionFolder, .TYPE_CHANNEL),
    (.other, .TYPE_CHANNEL)]

/-- The numbers of episodes that are shown: `5`, or `5-6` for a file with
several of them. -/
inductive EpisodeText : Int → Option Int → Text → Prop
  | one (first : Int) : EpisodeText first none (decimal first)
  | several (first last : Int) :
      EpisodeText first (some last) (decimal first ++ '-' :: decimal last)

/-- A program of a channel shows an item. -/
structure Presents (environment : Environment UUID Image Date)
    (channelId : Nat) (item : BaseItemDto UUID Image Date)
    (program : PreviewProgram) : Prop where
  channelId : program.channelId = channelId
  itemId : program.itemId = environment.idText item.id
  userView :
    program.itemIsUserView = true ↔ item.type = .collectionFolder
  type : (item.type, program.type) ∈ previewTypes
  title :
    ∀ title,
      program.title = some title ↔
        item.seriesName = some title ∨
          item.seriesName = none ∧ item.name = some title
  episodeTitle :
    ∀ title,
      program.episodeTitle = some title ↔
        item.type = .episode ∧ item.name = some title
  description : program.description = item.overview.map environment.stripHtml
  releaseDate : program.releaseDate = item.premiereDate.map environment.isoDate
  picture : ShowsPicture environment item program.posterArtUri
  aspectRatio :
    program.posterArtAspectRatio = .ASPECT_RATIO_16_9 ↔
      item.type = .collectionFolder ∨ item.type = .episode
  unknownDuration : item.runTimeTicks = none → program.durationMillis = 0
  remaining :
    ∀ runTimeTicks, item.runTimeTicks = some runTimeTicks →
      program.durationMillis =
        milliseconds
          (environment.ticks runTimeTicks -
            (item.playbackPositionTicks.map environment.ticks).getD 0)
  seasonNumber :
    ∀ text number,
      program.seasonNumber = some (text, number) ↔
        item.parentIndexNumber = some number ∧ 0 < number ∧
          text = decimal number
  episodeNumber :
    ∀ text number,
      program.episodeNumber = some (text, number) ↔
        item.indexNumber = some number ∧ 0 < number ∧
          EpisodeText number item.indexNumberEnd text

/-- A program to watch next is about an item: one that was begun is continued,
the first of a season is new, and any other comes next. -/
structure Announces (environment : Environment UUID Image Date)
    (item : BaseItemDto UUID Image Date) (program : WatchNextProgram) :
    Prop where
  internalProviderId : program.internalProviderId = environment.idText item.id
  itemId : program.itemId = environment.idText item.id
  type :
    ∀ type,
      program.type = some type ↔
        (item.type, type) ∈
          [(.episode, .TYPE_TV_EPISODE), (.movie, .TYPE_MOVIE)]
  aspectRatio :
    ∀ ratio,
      program.posterArtAspectRatio = some ratio ↔
        (item.type, ratio) ∈
          [(.episode, .ASPECT_RATIO_16_9), (.movie, .ASPECT_RATIO_MOVIE_POSTER)]
  title :
    ∀ title,
      program.title = some title ↔
        item.seriesName = some title ∨
          item.seriesName = none ∧ item.name = some title
  episodeTitle :
    ∀ title,
      program.episodeTitle = some title ↔
        item.seriesName ≠ none ∧ item.name = some title
  episodeNumber :
    ∀ number,
      program.episodeNumber = some number ↔
        item.seriesName ≠ none ∧ item.indexNumber = some number ∧ 0 < number
  seasonNumber :
    ∀ number,
      program.seasonNumber = some number ↔
        item.seriesName ≠ none ∧ item.parentIndexNumber = some number ∧
          0 < number
  description : program.description = item.overview.map environment.stripHtml
  picture : ShowsPicture environment item program.posterArtUri
  continues :
    ∀ position, item.playbackPositionTicks = some position → 0 < position →
      program.watchNextType = .WATCH_NEXT_TYPE_CONTINUE ∧
        program.lastPlaybackPositionMillis =
            some (milliseconds (environment.ticks position)) ∧
          program.lastEngagementTimeUtcMillis =
            item.lastPlayedDate.getD environment.now
  unbegun :
    (∀ position, item.playbackPositionTicks = some position → position ≤ 0) →
      program.lastPlaybackPositionMillis = none ∧
        if item.indexNumber = some 1 then
          program.watchNextType = .WATCH_NEXT_TYPE_NEW ∧
            program.lastEngagementTimeUtcMillis =
              item.dateCreated.getD environment.now
        else
          program.watchNextType = .WATCH_NEXT_TYPE_NEXT ∧
            program.lastEngagementTimeUtcMillis = environment.now
  duration :
    program.durationMillis =
      item.runTimeTicks.map fun runTimeTicks =>
        milliseconds (environment.ticks runTimeTicks)

theorem showsPicture_getPosterArtImageUrl :
    ShowsPicture environment item (getPosterArtImageUrl environment item) := by
  have shown (image : Option Image) :
      environment.getImageUri
          ((image.map environment.getUrl).getD environment.tileUrl) =
        environment.pictureUri image := by
    cases image <;> rfl
  rw [getPosterArtImageUrl, shown]
  constructor
  · rintro ⟨notMovie, notSeries, thumb, preferred⟩
    have either : ¬(item.type = .movie ∨ item.type = .series) :=
      not_or.mpr ⟨notMovie, notSeries⟩
    rw [if_neg either, if_pos]
    exact ⟨preferred.imp_right Option.isNone_iff_eq_none.mpr, thumb⟩
  · intro own
    split_ifs with either thumb
    · rfl
    · obtain ⟨notMovie, notSeries⟩ := not_or.mp either
      refine absurd ⟨notMovie, notSeries, thumb.2, ?_⟩ own
      exact thumb.1.imp_right Option.isNone_iff_eq_none.mp
    · rfl

theorem positiveNumber_eq_some_iff {text shown : Text} {number : Option Int}
    {value : Int} :
    positiveNumber text number = some (shown, value) ↔
      number = some value ∧ 0 < value ∧ shown = text := by
  cases number with
  | none =>
      simp [positiveNumber]
  | some number =>
      simp only [positiveNumber, Option.filter_some]
      grind

theorem or_eq_some_iff {first second : Option Text} {text : Text} :
    first.or second = some text ↔
      first = some text ∨ first = none ∧ second = some text := by
  cases first <;> simp

theorem presents_createPreviewProgram (channelId : Nat) :
    Presents environment channelId item
      (createPreviewProgram environment item channelId) where
  channelId := rfl
  itemId := rfl
  userView := decide_eq_true_iff
  type := by
    unfold createPreviewProgram previewTypes
    cases item.type <;> simp
  title _ := or_eq_some_iff
  episodeTitle title := by
    simp [createPreviewProgram]
  description := rfl
  releaseDate := rfl
  picture := showsPicture_getPosterArtImageUrl
  aspectRatio := by
    unfold createPreviewProgram
    cases item.type <;> simp
  unknownDuration unknown := by
    simp [createPreviewProgram, unknown]
  remaining runTimeTicks known := by
    simp [createPreviewProgram, known]
  seasonNumber text number := by
    rw [createPreviewProgram, positiveNumber_eq_some_iff]
    refine and_congr_right fun found => and_congr_right fun _ => ?_
    simp [found]
  episodeNumber text number := by
    rw [createPreviewProgram, positiveNumber_eq_some_iff]
    refine and_congr_right fun found => and_congr_right fun _ => ?_
    rw [found]
    constructor
    · rintro rfl
      cases item.indexNumberEnd with
      | none =>
          exact .one number
      | some last =>
          exact .several number last
    · intro shown
      cases ending : item.indexNumberEnd with
      | none =>
          rw [ending] at shown
          cases shown
          rfl
      | some last =>
          rw [ending] at shown
          cases shown
          rfl

theorem announces_getBaseItemAsWatchNextProgram :
    Announces environment item
      (getBaseItemAsWatchNextProgram environment item) where
  internalProviderId := rfl
  itemId := rfl
  type type := by
    unfold getBaseItemAsWatchNextProgram
    cases item.type <;> simp [eq_comm]
  aspectRatio ratio := by
    unfold getBaseItemAsWatchNextProgram
    cases item.type <;> simp [eq_comm]
  title _ := or_eq_some_iff
  episodeTitle title := by
    simp [getBaseItemAsWatchNextProgram, Option.isSome_iff_ne_none]
  episodeNumber number := by
    simp [getBaseItemAsWatchNextProgram, Option.isSome_iff_ne_none,
      Option.filter_eq_some_iff]
  seasonNumber number := by
    simp [getBaseItemAsWatchNextProgram, Option.isSome_iff_ne_none,
      Option.filter_eq_some_iff]
  description := rfl
  picture := showsPicture_getPosterArtImageUrl
  continues position found begun := by
    simp [getBaseItemAsWatchNextProgram, found, begun]
  unbegun atMost := by
    have begun : ¬0 < item.playbackPositionTicks.getD 0 := by
      cases found : item.playbackPositionTicks with
      | none =>
          exact Int.lt_irrefl 0
      | some position =>
          exact Int.not_lt.mpr (atMost position found)
    unfold getBaseItemAsWatchNextProgram
    rw [if_neg begun]
    by_cases first : item.indexNumber = some 1
    · rw [if_pos first, if_pos first]
      exact ⟨rfl, rfl, rfl⟩
    · rw [if_neg first, if_neg first]
      exact ⟨rfl, rfl, rfl⟩
  duration := rfl

end Presentation

end JellyfinTv.Channels
