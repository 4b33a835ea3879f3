import JellyfinTv.Library.Runs
import JellyfinTv.Library.Tilings
import JellyfinTv.LiveTv.Guide

/-!
# The program grid

`getProgramRow` lays out one row of cells for the programs of a channel, and
`setFocusParams` links the cells of two neighbouring rows.  A cell is marked
as the first or the last one by comparing references to dates, so the dates
of the loop carry the object that holds them.
-/

namespace JellyfinTv.LiveTv

open JellyfinTv.Library

/-- A reference to a date. -/
structure DateReference where
  object : Nat
  date : LocalDateTime
  deriving DecidableEq, Repr

namespace DateReference

def isBefore (first second : DateReference) : Bool :=
  decide (first.date < second.date)

def isAfter (first second : DateReference) : Bool :=
  decide (second.date < first.date)

/-- The operator `==`, which compares the objects. -/
def same (first second : DateReference) : Bool :=
  decide (first.object = second.object)

end DateReference

namespace LocalDateTime

/-- `(second - first) / 60000` in milliseconds, a division of `Long`. -/
def minutesBetween (first second : LocalDateTime) : Int :=
  (second - first).tdiv minuteMillis

def plusMinutes (time : LocalDateTime) (minutes : Int) : LocalDateTime :=
  time + minutes * minuteMillis

end LocalDateTime

/-- The fields of the fragment that a row depends on: a window of whole
hours that starts on a whole minute, and the sizes in pixels. -/
structure GuideWindow where
  mCurrentGuideStart : DateReference
  mCurrentGuideEnd : DateReference
  guideRowWidthPerMinPx : Int
  guideRowHeightPx : Int
  hours : Nat
  positive : 0 < hours
  wholeMinute :
    LocalDateTime.minuteMillis ∣ mCurrentGuideStart.date
  ends :
    mCurrentGuideEnd.date =
      mCurrentGuideStart.date + hours * LocalDateTime.hourMillis
  distinct : mCurrentGuideStart.object ≠ mCurrentGuideEnd.object
  visible : 0 < guideRowWidthPerMinPx

variable {UUID : Type}

/-- A program and the objects that hold its dates. -/
structure ListedProgram (UUID : Type) where
  program : Program UUID
  startObject : Nat
  endObject : Nat
  deriving DecidableEq, Repr

namespace ListedProgram

def getStartDate (item : ListedProgram UUID) : Option DateReference :=
  item.program.startDate.map fun date => ⟨item.startObject, date⟩

def getEndDate (item : ListedProgram UUID) : Option DateReference :=
  item.program.endDate.map fun date => ⟨item.endObject, date⟩

/-- A program without further properties; the dates are not those of the
window. -/
def ofDates (startDate endDate : Option LocalDateTime) :
    ListedProgram UUID where
  program := ⟨none, startDate, endDate, none, none, none, none, none, none,
    none, none⟩
  startObject := 2
  endObject := 3

end ListedProgram

def createNoProgramDataBaseItem (channelId : Option UUID)
    (startDate endDate : LocalDateTime) : Program UUID where
  channelId := channelId
  startDate := some startDate
  endDate := some endDate
  isMovie := none
  isNews := none
  isSeries := none
  isKids := none
  isSports := none
  isPremiere := none
  isLive := none
  isRepeat := none

/-- A cell with its layout parameters and the ids that were set for the
focus. -/
structure ProgramGridCell (UUID : Type) where
  program : Program UUID
  id : Nat
  width : Int
  height : Int
  isFirst : Bool
  isLast : Bool
  nextFocusUpId : Option Nat
  nextFocusDownId : Option Nat
  deriving DecidableEq, Repr

/-- The children of a row, the end of the last one and the next id. -/
structure ProgramRow (UUID : Type) where
  cells : List (ProgramGridCell UUID)
  prevEnd : DateReference
  currentCellId : Nat
  deriving DecidableEq, Repr

namespace GuideWindow

/-- The window that `fillTimeLine` sets.  Adding hours makes a new date. -/
def ofTimeLine (start : LocalDateTime) (hours : Nat)
    (positive : 0 < hours) (width height : Int) (visible : 0 < width) :
    GuideWindow where
  mCurrentGuideStart := ⟨0, start.truncatedToMinute⟩
  mCurrentGuideEnd :=
    ⟨1, start.truncatedToMinute + hours * LocalDateTime.hourMillis⟩
  guideRowWidthPerMinPx := width
  guideRowHeightPx := height
  hours := hours
  positive := positive
  wholeMinute := Int.dvd_self_sub_emod
  ends := rfl
  distinct := Nat.zero_ne_one
  visible := visible

/-- The width in pixels of the time between two dates. -/
def pixels (window : GuideWindow) (first second : LocalDateTime) : Int :=
  LocalDateTime.minutesBetween first second * window.guideRowWidthPerMinPx

def newCell (window : GuideWindow) (program : Program UUID) (id : Nat)
    (width : Int) (first last : Bool) : ProgramGridCell UUID where
  program := program
  id := id
  width := width
  height := window.guideRowHeightPx
  isFirst := first
  isLast := last
  nextFocusUpId := none
  nextFocusDownId := none

/-- The cells from a slot on that the `do` loop adds to a row without
programs. -/
def placeholders (window : GuideWindow) (channelId : UUID) (minutes : Int)
    (slot currentCellId : Nat) : List (ProgramGridCell UUID) :=
  let empty :=
    createNoProgramDataBaseItem (some channelId)
      (window.mCurrentGuideStart.date.plusMinutes (30 * slot))
      (window.mCurrentGuideEnd.date.plusMinutes (30 * (slot + 1)))
  let cell :=
    window.newCell empty currentCellId (30 * window.guideRowWidthPerMinPx)
      (slot = 0) (slot = minutes.tdiv 30 - 1)
  if 30 * ((slot : Int) + 1) < minutes then
    cell ::
      placeholders window channelId minutes (slot + 1) (currentCellId + 1)
  else
    [cell]
termination_by (minutes - 30 * (slot : Int)).toNat
decreasing_by omega

/-- The cell that fills the time up to the given date. -/
def fillEmptySlot (window : GuideWindow) (channelId : UUID)
    (slotEnd : DateReference) (first : Bool) (row : ProgramRow UUID) :
    ProgramRow UUID :=
  let empty :=
    createNoProgramDataBaseItem (some channelId) row.prevEnd.date
      slotEnd.date
  { row with
    cells :=
      row.cells ++
        [window.newCell empty row.currentCellId
          (window.pixels row.prevEnd.date slotEnd.date) first false]
    currentCellId := row.currentCellId + 1 }

/-- The start of a program in the window, which is the one of the window
for a program without a start. -/
def start (window : GuideWindow) (item : ListedProgram UUID) :
    DateReference :=
  match item.getStartDate with
  | none => window.mCurrentGuideStart
  | some start =>
      if start.isBefore window.mCurrentGuideStart then
        window.mCurrentGuideStart
      else
        start

def «end» (window : GuideWindow) (item : ListedProgram UUID) :
    DateReference :=
  match item.getEndDate with
  | none => window.mCurrentGuideEnd
  | some «end» =>
      if «end».isAfter window.mCurrentGuideEnd then
        window.mCurrentGuideEnd
      else
        «end»

/-- The cell of a program, unless it has no length. -/
def addProgram (window : GuideWindow) (item : ListedProgram UUID)
    (row : ProgramRow UUID) : ProgramRow UUID :=
  let start := window.start item
  let «end» := window.end item
  if 0 < LocalDateTime.minutesBetween start.date «end».date then
    { cells :=
        row.cells ++
          [window.newCell item.program row.currentCellId
            (window.pixels start.date «end».date)
            (start.same window.mCurrentGuideStart)
            («end».same window.mCurrentGuideEnd)]
      prevEnd := «end»
      currentCellId := row.currentCellId + 1 }
  else
    { row with prevEnd := «end» }

/-- One round of the loop over the programs. -/
def placeProgram (window : GuideWindow) (channelId : UUID)
    (row : ProgramRow UUID) (item : ListedProgram UUID) :
    ProgramRow UUID :=
  let start := window.start item
  if start.isBefore row.prevEnd then
    row
  else if start.isAfter row.prevEnd then
    window.addProgram item
      (window.fillEmptySlot channelId start
        (row.prevEnd.same window.mCurrentGuideStart) row)
  else
    window.addProgram item row

/-- The last cell, if the row does not reach the end of the window. -/
def fillRest (window : GuideWindow) (channelId : UUID)
    (row : ProgramRow UUID) : ProgramRow UUID :=
  if row.prevEnd.isBefore window.mCurrentGuideEnd then
    window.fillEmptySlot channelId window.mCurrentGuideEnd false row
  else
    row

/-- The row before the first program. -/
def emptyRow (window : GuideWindow) (currentCellId : Nat) :
    ProgramRow UUID :=
  ⟨[], window.mCurrentGuideStart, currentCellId⟩

/-- The cells of `getProgramRow`, which returns null for a filtered guide
without programs. -/
def getProgramRow (window : GuideWindow) (filters : GuideFilters)
    (programs : List (ListedProgram UUID)) (channelId : UUID)
    (currentCellId : Nat) : Option (List (ProgramGridCell UUID)) :=
  if programs.isEmpty then
    if filters.any then
      none
    else
      some
        (window.placeholders channelId
          (LocalDateTime.minutesBetween window.mCurrentGuideStart.date
            window.mCurrentGuideEnd.date) 0 currentCellId)
  else
    some
      (window.fillRest channelId
        (run (window.placeProgram channelId)
          (window.emptyRow currentCellId) programs)).cells

end GuideWindow

/-- The first cell of the other row that ends behind the start of the
cell. -/
def getOtherCell (otherRow : List (ProgramGridCell UUID))
    (cell : ProgramGridCell UUID) : Option (ProgramGridCell UUID) :=
  otherRow.find? fun otherCell =>
    match otherCell.program.endDate, cell.program.startDate with
    | some «end», some start => start < «end»
    | _, _ => false

namespace ProgramGridCell

def setNextFocusId (cell : ProgramGridCell UUID) (up : Bool) (id : Nat) :
    ProgramGridCell UUID :=
  if up then
    { cell with nextFocusUpId := some id }
  else
    { cell with nextFocusDownId := some id }

def nextFocusId (cell : ProgramGridCell UUID) (up : Bool) : Option Nat :=
  if up then cell.nextFocusUpId else cell.nextFocusDownId

end ProgramGridCell

def setFocusParams (currentRow otherRow : List (ProgramGridCell UUID))
    (up : Bool) : List (ProgramGridCell UUID) :=
  currentRow.map fun cell =>
    match getOtherCell otherRow cell with
    | none => cell
    | some otherCell => cell.setNextFocusId up otherCell.id

end JellyfinTv.LiveTv
