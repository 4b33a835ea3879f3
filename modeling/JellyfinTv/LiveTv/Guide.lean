import Mathlib.Data.List.Basic
import Mathlib.Logic.Function.Basic

/-!
# The live TV guide

`TvManager` keeps the channels, an array of their ids and a dictionary of
programs for the whole app.  `LiveTvGuideFragment` shows one page of the
channels for one window of time and asks the server for their programs.
Results are optional where the code may throw.
-/

namespace JellyfinTv.LiveTv

/-- A local date and time in milliseconds. -/
abbrev LocalDateTime := Int

namespace LocalDateTime

def minuteMillis : Int := 60000

def hourMillis : Int := 3600000

def getMinute (time : LocalDateTime) : Int :=
  time % hourMillis / minuteMillis

/-- `withSecond(0).withNano(0)`. -/
def truncatedToMinute (time : LocalDateTime) : LocalDateTime :=
  time - time % minuteMillis

/-- `withMinute(getMinute() >= 30 ? 30 : 0).withSecond(0).withNano(0)`. -/
def truncatedToHalfHour (time : LocalDateTime) : LocalDateTime :=
  if 30 ≤ time.getMinute then
    time - time % hourMillis + 30 * minuteMillis
  else
    time - time % hourMillis

end LocalDateTime

variable {UUID : Type}

structure Channel (UUID : Type) where
  id : UUID
  deriving DecidableEq, Repr

/-- The fields of a program that the guide reads. -/
structure Program (UUID : Type) where
  channelId : Option UUID
  startDate : Option LocalDateTime
  endDate : Option LocalDateTime
  isMovie : Option Bool
  isNews : Option Bool
  isSeries : Option Bool
  isKids : Option Bool
  isSports : Option Bool
  isPremiere : Option Bool
  isLive : Option Bool
  isRepeat : Option Bool
  deriving DecidableEq, Repr

structure GuideFilters where
  movies : Bool
  news : Bool
  series : Bool
  kids : Bool
  sports : Bool
  premiere : Bool
  deriving DecidableEq, Repr

/-- `Utils.isTrue`. -/
def isTrue (value : Option Bool) : Bool :=
  value == some true

namespace GuideFilters

def any (filters : GuideFilters) : Bool :=
  filters.movies || filters.news || filters.series || filters.kids ||
    filters.sports || filters.premiere

def passesFilter (filters : GuideFilters) (program : Program UUID) :
    Bool :=
  if !filters.any then
    true
  else if filters.movies && isTrue program.isMovie then
    !filters.premiere || isTrue program.isPremiere
  else if filters.news && isTrue program.isNews then
    !filters.premiere || isTrue program.isPremiere ||
      isTrue program.isLive || !isTrue program.isRepeat
  else if filters.series && isTrue program.isSeries then
    !filters.premiere || isTrue program.isPremiere ||
      !isTrue program.isRepeat
  else if filters.kids && isTrue program.isKids then
    !filters.premiere || isTrue program.isPremiere
  else if filters.sports && isTrue program.isSports then
    !filters.premiere || isTrue program.isPremiere ||
      isTrue program.isLive
  else if !filters.movies && !filters.news && !filters.series &&
      !filters.kids && !filters.sports then
    filters.premiere &&
      (isTrue program.isPremiere ||
        isTrue program.isSeries && !isTrue program.isRepeat ||
        isTrue program.isSports && isTrue program.isLive)
  else
    false

end GuideFilters

/-- `HashMap<UUID, ArrayList<BaseItemDto>>`; a program may lack its
channel. -/
abbrev ProgramsDict (UUID : Type) :=
  Option UUID → Option (List (Program UUID))

/-- The arguments of a call of `getPrograms` and the start and end that
`getProgramsAsync` was called with. -/
structure ProgramsRequest (UUID : Type) where
  channelIds : List (Option UUID)
  minEndDate : LocalDateTime
  maxStartDate : LocalDateTime
  startTime : LocalDateTime
  endTime : LocalDateTime
  deriving DecidableEq, Repr

/-- The static fields of `TvManager`, null before they are set. -/
structure TvManager (UUID : Type) where
  allChannels : Option (List (Channel UUID))
  channelIds : Option (List (Option UUID))
  programsDict : ProgramsDict UUID

/-- `Arrays.copyOfRange`, which fills up with nulls behind the array. -/
def copyOfRange {Value : Type} (array : List (Option Value))
    (first last : Int) : Option (List (Option Value)) :=
  if first < 0 ∨ array.length < first ∨ last < first then
    none
  else
    let size := (last - first).toNat
    some ((array.drop first.toNat ++ List.replicate size none).take size)

section Manager

variable [DecidableEq UUID]

/-- The loop of `fillChannelIds` over the channels from the position on:
the ids it writes and the last position, counted from one, that holds the
last channel. -/
def fillFrom (last : UUID) (position ndx : Nat) :
    List (Channel UUID) → List (Option UUID) × Nat
  | [] => ([], ndx)
  | channel :: rest =>
      let found := if channel.id = last then position + 1 else ndx
      let filled := fillFrom last (position + 1) found rest
      (some channel.id :: filled.1, filled.2)

namespace TvManager

/-- `fillChannelIds` with the last channel that is stored. -/
def fillChannelIds (manager : TvManager UUID) (last : Option UUID) :
    TvManager UUID × Nat :=
  match manager.allChannels with
  | none => (manager, 0)
  | some channels =>
      match last with
      | none =>
          ({ manager with
              channelIds := some (List.replicate channels.length none) },
            0)
      | some last =>
          let filled := fillFrom last 0 0 channels
          ({ manager with channelIds := some filled.1 }, filled.2)

def getAllChannels (manager : TvManager UUID) : List (Channel UUID) :=
  manager.allChannels.getD []

def getChannel (manager : TvManager UUID) (ndx : Int) :
    Option (Channel UUID) :=
  if 0 ≤ ndx then manager.getAllChannels[ndx.toNat]? else none

/-- The callback of `loadAllChannels` up to its answer. -/
def channelsLoaded (manager : TvManager UUID)
    (channels : Option (List (Channel UUID))) (last : Option UUID) :
    TvManager UUID × Nat :=
  match channels with
  | none => (manager, 0)
  | some channels =>
      { manager with allChannels := some channels }.fillChannelIds last

def getProgramsAsync (manager : TvManager UUID) (startNdx endNdx : Int)
    (startTime endTime : LocalDateTime) : Option (ProgramsRequest UUID) :=
  match manager.channelIds with
  | none => none
  | some channelIds =>
      let endNdx :=
        if channelIds.length < endNdx then (channelIds.length : Int)
        else endNdx + 1
      (copyOfRange channelIds startNdx endNdx).map fun channelIds =>
        { channelIds := channelIds
          minEndDate := startTime.truncatedToHalfHour
          maxStartDate := endTime - 1000
          startTime := startTime
          endTime := endTime }

/-- One round of the loop in `buildProgramsDict`.  A program without an end
is dereferenced. -/
def addProgram (startTime : LocalDateTime) (dict : ProgramsDict UUID)
    (program : Program UUID) : Option (ProgramsDict UUID) :=
  let programs := (dict program.channelId).getD []
  program.endDate.map fun endDate =>
    Function.update dict program.channelId
      (some
        (if startTime < endDate then programs ++ [program] else programs))

def buildProgramsDict (manager : TvManager UUID)
    (programs : List (Program UUID)) (startTime : LocalDateTime) :
    Option (TvManager UUID) :=
  (programs.foldlM (addProgram startTime) fun _ => none).map fun dict =>
    { manager with programsDict := dict }

/-- The callback of `getPrograms` up to its answer. -/
def programsLoaded (manager : TvManager UUID)
    (programs : Option (List (Program UUID))) (startTime : LocalDateTime) :
    Option (TvManager UUID) :=
  match programs with
  | none => some manager
  | some programs => manager.buildProgramsDict programs startTime

def getProgramsForChannel (manager : TvManager UUID) (channelId : UUID)
    (filters : GuideFilters) : List (Program UUID) :=
  match manager.programsDict (some channelId) with
  | none => []
  | some results =>
      if !filters.any || results.any filters.passesFilter then results
      else []

end TvManager

end Manager

def pageSize : Int := 75

def normalHours : Int := 9

def filteredHours : Int := 4

/-- The row of a channel was built from its programs for a window. -/
structure GuideRow (UUID : Type) where
  channel : Channel UUID
  programs : List (Program UUID)
  windowStart : LocalDateTime
  windowEnd : LocalDateTime
  deriving DecidableEq, Repr

/-- The fragment, the manager and the traffic with the server.  The answer
to a request is the programs or a failure. -/
structure Guide (UUID : Type) where
  manager : TvManager UUID
  filters : GuideFilters
  allChannels : Option (List (Channel UUID))
  currentGuideStart : LocalDateTime
  currentGuideEnd : LocalDateTime
  currentDisplayChannelStartNdx : Int
  currentDisplayChannelEndNdx : Int
  programRows : List (GuideRow UUID)
  pagingButtons : List Int
  loads : Nat
  requests : List (ProgramsRequest UUID)
  outstanding : List (ProgramsRequest UUID)
  answers : List (ProgramsRequest UUID × Option (List (Program UUID)))

namespace Guide

variable [DecidableEq UUID]

def getGuideHours (guide : Guide UUID) : Int :=
  if guide.filters.any then filteredHours else normalHours

/-- The window that `fillTimeLine` sets. -/
def fillTimeLine (guide : Guide UUID) (start : LocalDateTime)
    (hours : Int) : Guide UUID :=
  { guide with
    currentGuideStart := start.truncatedToMinute
    currentGuideEnd :=
      start.truncatedToMinute + hours * LocalDateTime.hourMillis }

def loadProgramData (guide : Guide UUID) : Option (Guide UUID) :=
  (guide.manager.getProgramsAsync guide.currentDisplayChannelStartNdx
    guide.currentDisplayChannelEndNdx guide.currentGuideStart
    guide.currentGuideEnd).map fun request =>
      { guide with
        programRows := []
        pagingButtons := []
        requests := guide.requests ++ [request]
        outstanding := guide.outstanding ++ [request] }

def displayChannels (guide : Guide UUID) (start max : Int) :
    Option (Guide UUID) :=
  guide.allChannels.bind fun channels =>
    let size : Int := channels.length
    let last := if size < start + max then size else start + max
    let page : Guide UUID :=
      if guide.filters.any then
        { guide with
          currentDisplayChannelStartNdx := 0
          currentDisplayChannelEndNdx := size - 1 }
      else
        { guide with
          currentDisplayChannelStartNdx := start
          currentDisplayChannelEndNdx := last - 1 }
    page.loadProgramData

/-- The part of `load` before the channels arrive. -/
def load (guide : Guide UUID) (now : LocalDateTime) : Guide UUID :=
  { guide.fillTimeLine now guide.getGuideHours with
    loads := guide.loads + 1 }

/-- The page on which a load starts, from the position of the last channel
counted from one. -/
def firstPage (ndx : Int) : Int :=
  if pageSize ≤ ndx then ndx - pageSize / 2 else 0

/-- The callback of `load`. -/
def channelsArrive (guide : Guide UUID)
    (channels : Option (List (Channel UUID))) (last : Option UUID) :
    Option (Guide UUID) :=
  let loaded := guide.manager.channelsLoaded channels last
  let shown : Guide UUID :=
    { guide with
      loads := guide.loads - 1
      manager := loaded.1
      allChannels := some loaded.1.getAllChannels }
  if loaded.1.getAllChannels.isEmpty then
    some shown
  else
    shown.displayChannels (firstPage loaded.2) pageSize

def pageGuideTo (guide : Guide UUID) (startTime now : LocalDateTime) :
    Option (Guide UUID) :=
  let startTime := if startTime < now then now else startTime
  (guide.fillTimeLine startTime guide.getGuideHours).loadProgramData

/-- `getProgramRow`; without programs there is no row for a filtered
guide. -/
def getProgramRow (guide : Guide UUID) (channel : Channel UUID)
    (programs : List (Program UUID)) : Option (GuideRow UUID) :=
  if programs = [] ∧ guide.filters.any then
    none
  else
    some
      { channel := channel
        programs := programs
        windowStart := guide.currentGuideStart
        windowEnd := guide.currentGuideEnd }

/-- The row that `doInBackground` adds for the position, if any. -/
def rowAt (guide : Guide UUID) (position : Int) :
    Option (GuideRow UUID) :=
  (guide.manager.getChannel position).bind fun channel =>
    guide.getProgramRow channel
      (guide.manager.getProgramsForChannel channel.id guide.filters)

/-- The positions from the first to the last. -/
def positions (first last : Int) : List Int :=
  (List.range (last + 1 - first).toNat).map fun offset =>
    first + (offset : Int)

def pageUpButton (guide : Guide UUID) : List Int :=
  if 0 < guide.currentDisplayChannelStartNdx then
    [max 0 (guide.currentDisplayChannelStartNdx - pageSize)]
  else
    []

def pageDownButton (guide : Guide UUID) : List Int :=
  let size : Int := (guide.allChannels.getD []).length
  if guide.currentDisplayChannelEndNdx < size - 1 ∧
      guide.filters.any = false then
    [guide.currentDisplayChannelEndNdx + 1]
  else
    []

/-- `DisplayProgramsTask`. -/
def displayPrograms (guide : Guide UUID) : Guide UUID :=
  { guide with
    programRows :=
      (positions guide.currentDisplayChannelStartNdx
        guide.currentDisplayChannelEndNdx).filterMap guide.rowAt
    pagingButtons := guide.pageUpButton ++ guide.pageDownButton }

/-- The callback of `getProgramsAsync` for one of the outstanding
requests. -/
def programsArrive (guide : Guide UUID) (index : Nat)
    (programs : Option (List (Program UUID))) : Option (Guide UUID) :=
  match guide.outstanding[index]? with
  | none => some guide
  | some request =>
      (guide.manager.programsLoaded programs request.startTime).map
        fun manager =>
          { guide with
            manager := manager
            outstanding := guide.outstanding.eraseIdx index
            answers :=
              guide.answers ++ [(request, programs)] }.displayPrograms

variable {guide after : Guide UUID}

theorem buildProgramsDict_eq {manager after : TvManager UUID}
    {programs : List (Program UUID)} {startTime : LocalDateTime}
    (built : manager.buildProgramsDict programs startTime = some after) :
    ∃ dict, programs.foldlM (TvManager.addProgram startTime)
        (fun _ => none) = some dict ∧
      after = { manager with programsDict := dict } := by
  obtain ⟨dict, folds, rfl⟩ := Option.map_eq_some_iff.mp built
  exact ⟨dict, folds, rfl⟩

/-- Programs change nothing but the dictionary of the manager. -/
theorem programsLoaded_eq {manager after : TvManager UUID}
    {programs : Option (List (Program UUID))} {startTime : LocalDateTime}
    (loaded : manager.programsLoaded programs startTime = some after) :
    after = { manager with programsDict := after.programsDict } := by
  cases programs with
  | none =>
      cases loaded
      rfl
  | some programs =>
      obtain ⟨dict, _, rfl⟩ := buildProgramsDict_eq loaded
      rfl

/-- An answer changes the dictionary and what is displayed from it. -/
theorem programsArrive_eq {index : Nat}
    {programs : Option (List (Program UUID))}
    (arrives : guide.programsArrive index programs = some after) :
    after = guide ∧ guide.outstanding[index]? = none ∨
      ∃ request manager, guide.outstanding[index]? = some request ∧
        guide.manager.programsLoaded programs request.startTime =
          some manager ∧
        after =
          { guide with
            manager := manager
            outstanding := guide.outstanding.eraseIdx index
            answers :=
              guide.answers ++ [(request, programs)] }.displayPrograms := by
  unfold programsArrive at arrives
  cases outstanding : guide.outstanding[index]? with
  | none =>
      simp only [outstanding, Option.some.injEq] at arrives
      exact Or.inl ⟨arrives.symm, rfl⟩
  | some request =>
      simp only [outstanding] at arrives
      obtain ⟨manager, loaded, rfl⟩ := Option.map_eq_some_iff.mp arrives
      exact Or.inr ⟨request, manager, rfl, loaded, rfl⟩

omit [DecidableEq UUID] in
/-- A call of `loadProgramData` that does not throw leaves one more request
outstanding and no row. -/
theorem loadProgramData_eq
    (loads : guide.loadProgramData = some after) :
    ∃ request, guide.manager.getProgramsAsync
          guide.currentDisplayChannelStartNdx
          guide.currentDisplayChannelEndNdx guide.currentGuideStart
          guide.currentGuideEnd = some request ∧
      after =
        { guide with
          programRows := []
          pagingButtons := []
          requests := guide.requests ++ [request]
          outstanding := guide.outstanding ++ [request] } := by
  obtain ⟨request, asked, rfl⟩ := Option.map_eq_some_iff.mp loads
  exact ⟨request, asked, rfl⟩

end Guide

end JellyfinTv.LiveTv
