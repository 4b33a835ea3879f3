import JellyfinTv.Launch.PlaybackHelper

/-!
# Start positions

Playback of several items starts where the first one is resumed, whichever
item it starts with, and the resume duration is subtracted without regard to
the beginning of the item.
-/

namespace JellyfinTv.Launch.SdkPlaybackHelper

open JellyfinTv.Library

variable {UUID : Type}

/-- Milliseconds are narrowed to a number exactly if it is an `Int` and the
difference to it has no lower 32 bits. -/
theorem toInt_eq_iff {value target : Int} :
    toInt value = target ↔
      -2147483648 ≤ target ∧ target < 2147483648 ∧
        4294967296 ∣ target - value :=
  Int.bmod_eq_iff (by decide)

theorem inWholeMilliseconds_max_zero (duration : Int) :
    inWholeMilliseconds (max 0 duration) =
      max 0 (inWholeMilliseconds duration) := by
  unfold inWholeMilliseconds
  rcases Int.le_total 0 duration with later | earlier
  · rw [Int.max_eq_right later,
      Int.max_eq_right (Int.tdiv_nonneg later (by decide))]
  · have before : duration.tdiv 1000000 ≤ 0 := by
      rw [← Int.neg_neg duration, Int.neg_tdiv]
      have positive :=
        Int.tdiv_nonneg (Int.neg_nonneg_of_nonpos earlier)
          (by decide : (0 : Int) ≤ 1000000)
      omega
    rw [Int.max_eq_left earlier, Int.max_eq_left before, Int.zero_tdiv]

section Positions

variable (sdk : Sdk) (userPreferences : UserPreferences)

/-- Where an item is resumed, in whole milliseconds. -/
def resumeMilliseconds (item : BaseItemDto UUID) : Int :=
  inWholeMilliseconds (resumePosition sdk userPreferences item)

/-- The start of an item is the saved position without the resume duration,
but not before its beginning. -/
def expectedPosition (item : BaseItemDto UUID) : Int :=
  inWholeMilliseconds (max 0 (resumePosition sdk userPreferences item))

/-- A position of the first item stands for the start of another one. -/
structure StandsFor (first start : Int) : Prop where
  inRange : start < 2147483648
  same : 4294967296 ∣ max 0 start - first

/-- The explicit position, or the start of the item at the index. -/
def StartsAt (items : List (BaseItemDto UUID)) (position : Option Int)
    (index : Option Nat) (start : Int) : Prop :=
  match position with
  | some position => start = inWholeMilliseconds (sdk.ticks position)
  | none =>
      ∃ item, items[index.getD 0]? = some item ∧
        start = expectedPosition sdk userPreferences item

/-- The items are passed on with the index, and with the right start. -/
structure LaunchesAt (items : List (BaseItemDto UUID)) (position : Option Int)
    (index : Option Nat) (arguments : LaunchArguments UUID) : Prop where
  start : StartsAt sdk userPreferences items position index arguments.position
  itemsPosition : arguments.itemsPosition = index.getD 0
  items : arguments.items = items

/-- Whichever ids the server answers with the items, nothing throws, and what
is passed on is right. -/
def StartsRight (items : List (BaseItemDto UUID)) (position : Option Int)
    (index : Option Nat) : Prop :=
  ∀ (api : ApiClient UUID) (itemIds : List UUID) (shuffle hasFragment : Bool),
    api.getItemsById itemIds = some items →
      ∃ arguments,
        retrieveItems sdk api userPreferences itemIds shuffle position index
            hasFragment =
          some arguments ∧
        LaunchesAt sdk userPreferences items position index arguments

/-- The explicit position is an `Int` of milliseconds, or without one there
is a first item that is resumed where the item at the index starts. -/
def ListStarts (items : List (BaseItemDto UUID)) (position : Option Int)
    (index : Option Nat) : Prop :=
  match position with
  | some position =>
      -2147483648 ≤ inWholeMilliseconds (sdk.ticks position) ∧
        inWholeMilliseconds (sdk.ticks position) < 2147483648
  | none =>
      ∃ first item,
        items[0]? = some first ∧ items[index.getD 0]? = some item ∧
          StandsFor (resumeMilliseconds sdk userPreferences first)
            (resumeMilliseconds sdk userPreferences item)

variable {sdk userPreferences}

theorem inWhole_resumePosition (item : BaseItemDto UUID) :
    inWholeMilliseconds (resumePosition sdk userPreferences item) =
      resumeMilliseconds sdk userPreferences item :=
  rfl

theorem toInt_eq_expected_iff {first : Int} {item : BaseItemDto UUID} :
    toInt first = expectedPosition sdk userPreferences item ↔
      StandsFor first (resumeMilliseconds sdk userPreferences item) := by
  rw [expectedPosition, inWholeMilliseconds_max_zero, ← resumeMilliseconds,
    toInt_eq_iff]
  constructor
  · rintro ⟨_, upper, same⟩
    exact ⟨by omega, same⟩
  · rintro ⟨upper, same⟩
    exact ⟨by omega, by omega, same⟩

/-- A server that answers every request with the same items. -/
def answering (items : List (BaseItemDto UUID)) : ApiClient UUID where
  getItem _ := items.head?
  getItemsById _ := some items
  getEpisodes _ := some items
  getItems _ := some items
  getChannel _ := items.head?
  getIntros _ := some items
  getAdditionalPart _ := some items

/-- The start depends on the items alone. -/
theorem startsRight_iff_listPosition (items : List (BaseItemDto UUID))
    (position : Option Int) (index : Option Nat) :
    StartsRight sdk userPreferences items position index ↔
      ∃ pos, listPosition sdk userPreferences items position = some pos ∧
        StartsAt sdk userPreferences items position index
          (toInt (inWholeMilliseconds pos)) := by
  constructor
  · intro starts
    obtain ⟨arguments, launched, right⟩ :=
      starts (answering items) [] false false rfl
    obtain ⟨pos, located, rfl⟩ := Option.map_eq_some_iff.mp launched
    exact ⟨pos, located, right.start⟩
  · rintro ⟨pos, located, right⟩ api itemIds shuffle hasFragment listed
    refine ⟨⟨items, toInt (inWholeMilliseconds pos), hasFragment,
      index.getD 0, shuffle⟩, ?_, ⟨right, rfl, rfl⟩⟩
    simp [retrieveItems, listed, launchArguments, located]

theorem startsRight_iff (items : List (BaseItemDto UUID))
    (position : Option Int) (index : Option Nat) :
    StartsRight sdk userPreferences items position index ↔
      ListStarts sdk userPreferences items position index := by
  rw [startsRight_iff_listPosition]
  unfold StartsAt ListStarts
  cases position with
  | some position =>
      simp only [listPosition, Option.some.injEq, exists_eq_left',
        toInt_eq_iff, Int.sub_self, Int.dvd_zero, and_true]
  | none =>
      cases found : items[0]? with
      | none =>
          simp [listPosition, found]
      | some first =>
          simp only [listPosition, found, Option.map_some,
            Option.some.injEq, exists_eq_left', inWhole_resumePosition,
            toInt_eq_expected_iff]
          constructor
          · rintro ⟨item, located, standsFor⟩
            exact ⟨first, item, rfl, located, standsFor⟩
          · rintro ⟨_, item, rfl, located, standsFor⟩
            exact ⟨item, located, standsFor⟩

/-- A play message launches what its ids ask for. -/
theorem onPlayMessage_launchesAt {items : List (BaseItemDto UUID)}
    {data : PlayRequest UUID} {itemIds : List UUID}
    (requested : data.itemIds = some itemIds)
    (starts :
      ListStarts sdk userPreferences items data.startPositionTicks
        data.startIndex)
    {api : ApiClient UUID} (listed : api.getItemsById itemIds = some items)
    (hasFragment : Bool) :
    ∃ arguments,
      SocketHandler.onPlayMessage sdk api userPreferences hasFragment
          (some data) =
        some (some arguments) ∧
      LaunchesAt sdk userPreferences items data.startPositionTicks
        data.startIndex arguments := by
  obtain ⟨arguments, launched, right⟩ :=
    (startsRight_iff items data.startPositionTicks data.startIndex).mpr starts
      api itemIds false hasFragment listed
  refine ⟨arguments, ?_, right⟩
  simp [SocketHandler.onPlayMessage, requested, launched]

variable (sdk userPreferences)

/-- The start that is passed on is the one of the item, and a movie that was
not begun has introductions: they are allowed, and the items that are passed
on are those of a request that allows them. -/
structure ItemStartsRight (item : BaseItemDto UUID) : Prop where
  position :
    ∀ (api : ApiClient UUID) (itemId : UUID) (shuffle hasFragment : Bool)
      (arguments : LaunchArguments UUID),
      api.getItem itemId = some item →
        retrieveItem sdk api userPreferences itemId shuffle hasFragment =
            some arguments →
          arguments.position = expectedPosition sdk userPreferences item
  intros :
    item.type = .movie → item.playbackPositionTicks = some 0 →
      allowIntros sdk userPreferences item = true
  requested :
    item.type = .movie → item.playbackPositionTicks = some 0 →
      ∀ (api : ApiClient UUID) (itemId : UUID) (shuffle hasFragment : Bool)
        (arguments : LaunchArguments UUID),
        api.getItem itemId = some item →
          retrieveItem sdk api userPreferences itemId shuffle hasFragment =
              some arguments →
            getItems api userPreferences item true shuffle =
              some arguments.items

/-- The episodes of a season are those of a series, and a program is watched
on its channel. -/
structure Listable (item : BaseItemDto UUID) : Prop where
  season : item.type = .season → item.seriesId ≠ none
  program : item.type = .program → item.parentId ≠ none

structure ItemStarts (item : BaseItemDto UUID) : Prop where
  standsFor :
    Listable item →
      StandsFor (resumeMilliseconds sdk userPreferences item)
        (resumeMilliseconds sdk userPreferences item)
  noSubtraction :
    item.type = .movie → item.playbackPositionTicks = some 0 →
      resumeSubtractDuration userPreferences = 0

variable {sdk userPreferences}

theorem allowIntros_iff {item : BaseItemDto UUID} (movie : item.type = .movie)
    (unbegun : item.playbackPositionTicks = some 0) :
    allowIntros sdk userPreferences item = true ↔
      resumeSubtractDuration userPreferences = 0 := by
  simp only [allowIntros, movie, resumePosition, unbegun, sdk.ticks_zero]
  simp

/-- What `retrieveAndPlay` of one item launches starts where the item is
resumed, with the items for the introductions it allows. -/
theorem retrieveItem_eq_some {api : ApiClient UUID} {itemId : UUID}
    {shuffle hasFragment : Bool} {arguments : LaunchArguments UUID}
    (launched :
      retrieveItem sdk api userPreferences itemId shuffle hasFragment =
        some arguments) :
    ∃ item,
      api.getItem itemId = some item ∧
        arguments.position =
            toInt (resumeMilliseconds sdk userPreferences item) ∧
          getItems api userPreferences item
              (allowIntros sdk userPreferences item) shuffle =
            some arguments.items := by
  simp only [retrieveItem, Option.bind_eq_bind] at launched
  obtain ⟨item, found, launched⟩ := Option.bind_eq_some_iff.mp launched
  obtain ⟨items, listed, same⟩ := Option.bind_eq_some_iff.mp launched
  cases same
  exact ⟨item, found, rfl, listed⟩

/-- What a season or a program refers to is required before a request. -/
theorem listable_of_getItems {api : ApiClient UUID} {item : BaseItemDto UUID}
    {allowIntros shuffle : Bool} {items : List (BaseItemDto UUID)}
    (listed :
      getItems api userPreferences item allowIntros shuffle = some items) :
    Listable item := by
  constructor
  · intro season missing
    simp [getItems, season, missing] at listed
  · intro program missing
    simp [getItems, program, missing] at listed

theorem getItems_answering (userPreferences : UserPreferences)
    {item : BaseItemDto UUID} (listable : Listable item)
    (allowIntros shuffle : Bool) :
    ∃ items,
      getItems (answering [item]) userPreferences item allowIntros shuffle =
        some items := by
  obtain ⟨parts, listed⟩ :
      ∃ parts, getParts (answering [item]) item = some parts := by
    unfold getParts
    split
    · exact ⟨_, rfl⟩
    · exact ⟨_, rfl⟩
  cases kind : item.type with
  | episode =>
      simp only [getItems, kind]
      split
      · exact ⟨_, rfl⟩
      · exact ⟨_, rfl⟩
  | season =>
      obtain ⟨seriesId, found⟩ :=
        Option.ne_none_iff_exists'.mp (listable.season kind)
      simp [getItems, kind, found, answering]
  | program =>
      obtain ⟨parentId, found⟩ :=
        Option.ne_none_iff_exists'.mp (listable.program kind)
      simp [getItems, kind, found, answering]
  | tvChannel =>
      simp only [getItems, kind, answering, List.head?_cons,
        Option.bind_eq_bind, Option.bind_some]
      cases item.currentProgram with
      | none => exact ⟨_, rfl⟩
      | some currentProgram => exact ⟨_, rfl⟩
  | movie | video | recording | trailer | other =>
      simp only [getItems, kind, listed]
      cases allowIntros && userPreferences.cinemaModeEnabled with
      | false => exact ⟨_, rfl⟩
      | true => exact ⟨_, rfl⟩
  | _ =>
      simp [getItems, kind, answering]

theorem itemStartsRight_iff (item : BaseItemDto UUID) :
    ItemStartsRight sdk userPreferences item ↔
      ItemStarts sdk userPreferences item := by
  constructor
  · rintro ⟨position, intros, _⟩
    refine ⟨?_, ?_⟩
    · intro listable
      obtain ⟨items, listed⟩ :=
        getItems_answering userPreferences listable
          (allowIntros sdk userPreferences item) false
      apply toInt_eq_expected_iff.mp
      have launched :
          retrieveItem sdk (answering [item]) userPreferences item.id false
              false =
            some
              ⟨items, toInt (resumeMilliseconds sdk userPreferences item),
                false, 0, false⟩ := by
        simp only [retrieveItem, answering, List.head?_cons] at listed ⊢
        simp [listed, inWhole_resumePosition]
      exact position _ _ _ _ _ rfl launched
    · intro movie unbegun
      exact (allowIntros_iff movie unbegun).mp (intros movie unbegun)
  · rintro ⟨standsFor, noSubtraction⟩
    have intros (movie : item.type = .movie)
        (unbegun : item.playbackPositionTicks = some 0) :
        allowIntros sdk userPreferences item = true :=
      (allowIntros_iff movie unbegun).mpr (noSubtraction movie unbegun)
    refine ⟨?_, intros, ?_⟩
    · intro api itemId shuffle hasFragment arguments found launched
      obtain ⟨other, same, position, listed⟩ := retrieveItem_eq_some launched
      rw [found] at same
      obtain rfl := Option.some.inj same
      rw [position]
      exact toInt_eq_expected_iff.mpr (standsFor (listable_of_getItems listed))
    · intro movie unbegun api itemId shuffle hasFragment arguments found
        launched
      obtain ⟨other, same, _, listed⟩ := retrieveItem_eq_some launched
      rw [found] at same
      obtain rfl := Option.some.inj same
      rw [intros movie unbegun] at listed
      exact listed

end Positions

/-- Where a call opens a player for videos. -/
def startOf : LaunchCall UUID → Option Int
  | .startExternalPlayer position => some position
  | .navigateVideoPlayerNew position _ => position
  | .navigateVideoPlayer position _ => position
  | _ => none

/-- Every player is opened at the position that is passed on. -/
theorem startOf_launch {userPreferences : UserPreferences}
    {shuffled : List (BaseItemDto UUID) → List (BaseItemDto UUID)}
    {items : List (BaseItemDto UUID)} {position itemsPosition : Int}
    {replace shuffle : Bool} :
    ∀ call ∈
        PlaybackLauncher.launch userPreferences shuffled items
          (some position) replace itemsPosition shuffle,
      ∀ start ∈ startOf call, start = position := by
  intro call member start opened
  unfold PlaybackLauncher.launch at member
  dsimp only at member
  split at member
  · simp only [List.mem_cons, List.not_mem_nil, or_false] at member
    rcases member with rfl | rfl <;> cases opened
  · generalize (if shuffle then shuffled items else items) = queued
      at member
    -- The calls that queue the items open no player.
    have queues {last : LaunchCall UUID}
        (found :
          call ∈
            [LaunchCall.setCurrentVideoQueue queued,
                .setCurrentMediaPosition itemsPosition] ++ [last]) :
        call = last := by
      simp only [List.mem_append, List.mem_cons, List.not_mem_nil,
        or_false] at found
      rcases found with (rfl | rfl) | rfl
      · cases opened
      · cases opened
      · rfl
    split at member
    · simp only [List.mem_cons, List.not_mem_nil, or_false] at member
      rcases member with rfl | rfl <;> cases opened
    · split at member
      · rw [queues member] at opened
        exact (Option.some.inj opened).symm
      · split at member
        · rw [queues member] at opened
          exact (Option.some.inj opened).symm
        · rw [queues member] at opened
          exact (Option.some.inj opened).symm

/-- Several items start right exactly if the first one is resumed where the
one at the index starts, and one item exactly if it is not resumed before its
beginning. -/
theorem starts_right_iff (sdk : Sdk) (userPreferences : UserPreferences) :
    (∀ (items : List (BaseItemDto UUID)) (position : Option Int)
        (index : Option Nat),
      StartsRight sdk userPreferences items position index ↔
        ListStarts sdk userPreferences items position index) ∧
      ∀ item : BaseItemDto UUID,
        ItemStartsRight sdk userPreferences item ↔
          ItemStarts sdk userPreferences item :=
  ⟨startsRight_iff, itemStartsRight_iff⟩

/-- A tick is a hundred nanoseconds. -/
def hundredNanoseconds : Sdk where
  ticks ticks := ticks * 100
  ticks_zero := rfl

def subtracting (seconds : Text) : UserPreferences where
  resumeSubtractDuration := seconds
  mediaQueuingEnabled := true
  cinemaModeEnabled := true
  useExternalPlayer := false
  playbackRewriteVideoEnabled := false

def movie (id : Nat) (playbackPositionTicks : Int) : BaseItemDto Nat where
  id := id
  type := .movie
  mediaType := .other
  playbackPositionTicks := some playbackPositionTicks
  seriesId := none
  parentId := none
  partCount := none
  metadata := ⟨none, none, none, none⟩
  currentProgram := none

/-- A movie that was not begun starts at the half minute of the one before
it in the list, no start is found in an empty list, and a movie has no
introductions where ten seconds are subtracted from its beginning. -/
theorem second_movie_starts_like_first :
    ¬StartsRight hundredNanoseconds (subtracting "0".toList)
        [movie 1 300000000, movie 2 0] none (some 1) ∧
      ¬StartsRight hundredNanoseconds (subtracting "0".toList)
          ([] : List (BaseItemDto Nat)) none none ∧
        ¬ItemStartsRight hundredNanoseconds (subtracting "10".toList)
            (movie 1 0) := by
  refine ⟨?_, ?_, ?_⟩
  · intro starts
    obtain ⟨arguments, launched, ⟨item, found, position⟩, _, _⟩ :=
      starts (answering [movie 1 300000000, movie 2 0]) [1, 2] false false rfl
    cases launched
    cases found
    exact absurd position (by decide)
  · intro starts
    obtain ⟨arguments, launched, _⟩ :=
      starts (answering []) [] false false rfl
    cases launched
  · rintro ⟨_, intros, _⟩
    exact absurd (intros rfl rfl) (by decide)

end JellyfinTv.Launch.SdkPlaybackHelper
