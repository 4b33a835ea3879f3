import JellyfinTv.Channels.Programs
import JellyfinTv.Library.LinkedMaps
import JellyfinTv.Library.Runs

/-!
# The channels of the home screen

The home screen keeps the channels and programs of the app in tables of its
own, where the user may hide a program and the system may drop a row.  The
app remembers by name which channels it has created.  `LeanbackChannelWorker`
brings the tables up to date with the server from time to time.
-/

namespace JellyfinTv.Channels

open JellyfinTv.Library

structure Channel where
  id : Nat
  displayName : Text
  deriving DecidableEq, Repr

/-- A row of the programs to watch next.  A program that the user has removed
stays, but cannot be browsed. -/
structure WatchNextRow where
  id : Nat
  isBrowsable : Bool
  program : WatchNextProgram
  deriving DecidableEq, Repr

/-- The tables of the home screen, whose rows are numbered from `nextRow` on,
and the app's `leanback_channels` preferences.  A uri is the number of its
row. -/
structure HomeScreen where
  nextRow : Nat
  channels : List Channel
  previewPrograms : List PreviewProgram
  watchNextPrograms : List WatchNextRow
  channelStore : List (Text × Nat)
  browsableRequests : List Nat
  deriving DecidableEq, Repr

inductive Result where
  | success
  | retry
  deriving DecidableEq, Repr

namespace HomeScreen

def created : HomeScreen where
  nextRow := 0
  channels := []
  previewPrograms := []
  watchNextPrograms := []
  channelStore := []
  browsableRequests := []

/-- Programs go with their channel. -/
def deleteChannels (screen : HomeScreen) (ids : List Nat) : HomeScreen :=
  { screen with
    channels := screen.channels.filter fun channel => channel.id ∉ ids
    previewPrograms :=
      screen.previewPrograms.filter fun program => program.channelId ∉ ids }

def deleteWatchNext (screen : HomeScreen) (ids : List Nat) : HomeScreen :=
  { screen with
    watchNextPrograms :=
      screen.watchNextPrograms.filter fun row => row.id ∉ ids }

/-- `bulkInsert`, which numbers the rows one after another. -/
def insertWatchNext (screen : HomeScreen) (programs : List WatchNextProgram) :
    HomeScreen :=
  { screen with
    nextRow := screen.nextRow + programs.length
    watchNextPrograms :=
      screen.watchNextPrograms ++
        programs.mapIdx fun position program =>
          ⟨screen.nextRow + position, true, program⟩ }

def updateChannel (screen : HomeScreen) (id : Nat) (displayName : Text) :
    HomeScreen :=
  { screen with
    channels :=
      screen.channels.map fun channel =>
        if channel.id = id then ⟨id, displayName⟩ else channel }

/-- A channel of the app: its name in the preferences, its title, and
whether it is shown from the start. -/
structure ChannelDefinition where
  name : Text
  displayName : Text
  default : Bool
  deriving DecidableEq, Repr

/-- A new channel, whose uri is saved under its name. -/
def insertChannel (screen : HomeScreen) (definition : ChannelDefinition) :
    HomeScreen :=
  let id := screen.nextRow
  { screen with
    nextRow := id + 1
    channels := screen.channels ++ [⟨id, definition.displayName⟩]
    channelStore := put definition.name id screen.channelStore
    browsableRequests :=
      if definition.default then screen.browsableRequests ++ [id]
      else screen.browsableRequests }

/-- Saving no uri under a name, which the preferences then drop. -/
def forgetChannel (screen : HomeScreen) (name : Text) : HomeScreen :=
  { screen with
    channelStore := screen.channelStore.filter fun entry => entry.1 ≠ name }

/-- `getChannelUri`.  The channel of the preferences is updated if it is
there; else a new one is inserted, if the home screen takes it. -/
def getChannelUri (screen : HomeScreen) (definition : ChannelDefinition)
    (accepted : Bool) : Option Nat × HomeScreen :=
  let stored :=
    (screen.channelStore.lookup definition.name).filter fun id =>
      screen.channels.any fun channel => channel.id = id
  match stored with
  | some id => (some id, screen.updateChannel id definition.displayName)
  | none =>
      if accepted then
        (some screen.nextRow, screen.insertChannel definition)
      else
        (none, screen.forgetChannel definition.name)

/-- The uris of the channels, in order, by their names. -/
def getChannelUris (accepted : Text → Bool) :
    List ChannelDefinition → HomeScreen →
      List (Text × Option Nat) × HomeScreen
  | [], screen => ([], screen)
  | definition :: rest, screen =>
      let (uri, screen) :=
        screen.getChannelUri definition (accepted definition.name)
      let (uris, screen) := getChannelUris accepted rest screen
      ((definition.name, uri) :: uris, screen)

def clearChannels (screen : HomeScreen) : HomeScreen :=
  let screen :=
    { screen with previewPrograms := [], watchNextPrograms := [] }
  { screen.deleteChannels (screen.channelStore.map Prod.snd) with
    channelStore := [] }

variable {UUID Image Date : Type}

/-- The answers of the server to the requests of one run. -/
structure Answers (UUID Image Date : Type) where
  resumeItems : List (BaseItemDto UUID Image Date)
  nextUpItems : List (BaseItemDto UUID Image Date)
  latestEpisodes : List (BaseItemDto UUID Image Date)
  latestMovies : List (BaseItemDto UUID Image Date)
  latestMedia : List (BaseItemDto UUID Image Date)
  userViews : List (BaseItemDto UUID Image Date)

/-- What a run of the worker finds.  There are no answers if a request
fails; `accepted` tells which channels can be inserted. -/
structure Work (UUID Image Date : Type) where
  isAvailable : Bool
  tvProviderEnabled : Bool
  isUsable : Bool
  answers : Option (Answers UUID Image Date)
  isSupported : BaseItemDto UUID Image Date → Bool
  accepted : Text → Bool
  titles : Text → Text
  environment : Environment UUID Image Date

/-- The channels in the order in which they are asked for, with the name of
the string for the title of each. -/
def channelDefinitions (titles : Text → Text) : List ChannelDefinition :=
  [⟨"latest_media".toList, titles "home_section_latest_media".toList, true⟩,
    ⟨"my_media".toList, titles "lbl_my_media".toList, false⟩,
    ⟨"next_up".toList, titles "lbl_next_up".toList, false⟩,
    ⟨"latest_movies".toList, titles "lbl_movies".toList, false⟩,
    ⟨"latest_episodes".toList, titles "lbl_new_episodes".toList, false⟩]

/-- The items of each channel, in the order in which they are added. -/
def channelItems (work : Work UUID Image Date)
    (answers : Answers UUID Image Date) :
    List (Text × List (BaseItemDto UUID Image Date)) :=
  [("next_up".toList, answers.nextUpItems),
    ("latest_media".toList, answers.latestMedia),
    ("latest_movies".toList, answers.latestMovies),
    ("latest_episodes".toList, answers.latestEpisodes),
    ("my_media".toList, answers.userViews.filter work.isSupported)]

/-- The programs of a channel, none if it is not available. -/
def channelPrograms (environment : Environment UUID Image Date)
    (uris : List (Text × Option Nat))
    (row : Text × List (BaseItemDto UUID Image Date)) : List PreviewProgram :=
  match (uris.lookup row.1).join with
  | none => []
  | some channel =>
      row.2.map fun item => createPreviewProgram environment item channel

/-- Rows that are to be deleted before new ones are added. -/
def isStale (environment : Environment UUID Image Date)
    (nextUpItems : List (BaseItemDto UUID Image Date)) (row : WatchNextRow) :
    Bool :=
  !row.isBrowsable ||
    (!nextUpItems.any fun next =>
      row.program.internalProviderId = environment.idText next.id) ||
      row.program.watchNextType = .WATCH_NEXT_TYPE_CONTINUE

def deletePrograms (screen : HomeScreen)
    (environment : Environment UUID Image Date)
    (nextUpItems : List (BaseItemDto UUID Image Date)) : HomeScreen :=
  screen.deleteWatchNext
    ((screen.watchNextPrograms.filter (isStale environment nextUpItems)).map
      WatchNextRow.id)

/-- The items that are not among the rows yet. -/
def programsToAdd (environment : Environment UUID Image Date)
    (nextUpItems : List (BaseItemDto UUID Image Date))
    (rows : List WatchNextRow) : List (BaseItemDto UUID Image Date) :=
  nextUpItems.filter fun next =>
    !rows.any fun row =>
      row.program.internalProviderId = environment.idText next.id

def updateWatchNext (screen : HomeScreen)
    (environment : Environment UUID Image Date)
    (nextUpItems : List (BaseItemDto UUID Image Date)) : HomeScreen :=
  let screen := screen.deletePrograms environment nextUpItems
  screen.insertWatchNext
    ((programsToAdd environment nextUpItems screen.watchNextPrograms).map
      (getBaseItemAsWatchNextProgram environment))

/-- The channels and programs for the answers. -/
def update (screen : HomeScreen) (work : Work UUID Image Date)
    (answers : Answers UUID Image Date) : HomeScreen :=
  let (uris, screen) :=
    getChannelUris work.accepted (channelDefinitions work.titles)
      { screen with previewPrograms := [] }
  let screen :=
    { screen with
      previewPrograms :=
        screen.previewPrograms ++
          (channelItems work answers).flatMap
            (channelPrograms work.environment uris) }
  screen.updateWatchNext work.environment
    (answers.resumeItems ++ answers.nextUpItems)

def doWork (screen : HomeScreen) (work : Work UUID Image Date) :
    Result × HomeScreen :=
  if !work.isAvailable then
    (.success, screen)
  else if !work.tvProviderEnabled then
    (.success, screen.clearChannels)
  else if !work.isUsable then
    (.retry, screen)
  else
    match work.answers with
    | none => (.retry, screen)
    | some answers => (.success, screen.update work answers)

/-- Runs of the worker, and what user and system do in between. -/
inductive Event (UUID Image Date : Type) where
  | doWork (work : Work UUID Image Date)
  | hideProgram (id : Nat)
  | dropProgram (id : Nat)
  | dropChannel (id : Nat)

def hideProgram (screen : HomeScreen) (id : Nat) : HomeScreen :=
  { screen with
    watchNextPrograms :=
      screen.watchNextPrograms.map fun row =>
        if row.id = id then { row with isBrowsable := false } else row }

def step (screen : HomeScreen) : Event UUID Image Date → HomeScreen
  | .doWork work => (screen.doWork work).2
  | .hideProgram id => screen.hideProgram id
  | .dropProgram id => screen.deleteWatchNext [id]
  | .dropChannel id => screen.deleteChannels [id]

end HomeScreen

end JellyfinTv.Channels
