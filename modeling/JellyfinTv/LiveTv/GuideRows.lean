import JellyfinTv.LiveTv.ProgramGrid
import Mathlib.Tactic.Ring

/-!
# Rows of the guide

The cells of a row tile the window.  The loop keeps a cursor, `prevEnd`, up
to which the cells tile the window by the dates of their programs, clamped
to the window, and each cell is as wide as the time between its clamped
dates.  So every cell is laid out at the offset of its clamped start, and all
rows are as wide as the window.
-/

namespace JellyfinTv.LiveTv

open JellyfinTv.Library

variable {UUID : Type}

namespace LocalDateTime

def WholeMinute (time : LocalDateTime) : Prop :=
  minuteMillis ∣ time

instance (time : LocalDateTime) : Decidable time.WholeMinute :=
  inferInstanceAs (Decidable (_ ∣ _))

theorem minutesBetween_mul (first second : Int) :
    minutesBetween (minuteMillis * first) (minuteMillis * second) =
      second - first := by
  rw [minutesBetween, ← mul_sub]
  exact Int.mul_tdiv_cancel_left _ (by decide)

variable {first second third : LocalDateTime}

theorem minutesBetween_add (firstWhole : first.WholeMinute)
    (secondWhole : second.WholeMinute) (thirdWhole : third.WholeMinute) :
    minutesBetween first second + minutesBetween second third =
      minutesBetween first third := by
  obtain ⟨firstMinutes, rfl⟩ := firstWhole
  obtain ⟨secondMinutes, rfl⟩ := secondWhole
  obtain ⟨thirdMinutes, rfl⟩ := thirdWhole
  simp only [minutesBetween_mul]
  omega

theorem minutesBetween_pos_iff (firstWhole : first.WholeMinute)
    (secondWhole : second.WholeMinute) :
    0 < minutesBetween first second ↔ first < second := by
  obtain ⟨firstMinutes, rfl⟩ := firstWhole
  obtain ⟨secondMinutes, rfl⟩ := secondWhole
  have scaled :
      minuteMillis * firstMinutes < minuteMillis * secondMinutes ↔
        firstMinutes < secondMinutes :=
    Int.mul_lt_mul_left (by decide)
  rw [minutesBetween_mul, scaled]
  exact Int.sub_pos

theorem minutesBetween_self (time : LocalDateTime) :
    minutesBetween time time = 0 := by
  rw [minutesBetween, Int.sub_self, Int.zero_tdiv]

end LocalDateTime

namespace ListedProgram

/-- The dates are whole minutes in their order. -/
structure WellTimed (item : ListedProgram UUID) : Prop where
  startWhole : ∀ start ∈ item.program.startDate, start.WholeMinute
  endWhole : ∀ «end» ∈ item.program.endDate, «end».WholeMinute
  ordered :
    ∀ start ∈ item.program.startDate, ∀ «end» ∈ item.program.endDate,
      start ≤ «end»

/-- The program is on at some time of the window. -/
structure OfWindow (window : GuideWindow) (item : ListedProgram UUID) :
    Prop where
  startsBefore :
    ∀ start ∈ item.program.startDate, start < window.mCurrentGuideEnd.date
  endsAfter :
    ∀ «end» ∈ item.program.endDate, window.mCurrentGuideStart.date < «end»

instance (item : ListedProgram UUID) : Decidable item.WellTimed :=
  decidable_of_iff
    ((∀ start ∈ item.program.startDate, start.WholeMinute) ∧
      (∀ «end» ∈ item.program.endDate, «end».WholeMinute) ∧
      ∀ start ∈ item.program.startDate, ∀ «end» ∈ item.program.endDate,
        start ≤ «end»)
    ⟨fun ⟨starts, ends, ordered⟩ => ⟨starts, ends, ordered⟩,
      fun ⟨starts, ends, ordered⟩ => ⟨starts, ends, ordered⟩⟩

instance (window : GuideWindow) (item : ListedProgram UUID) :
    Decidable (item.OfWindow window) :=
  decidable_of_iff
    ((∀ start ∈ item.program.startDate,
        start < window.mCurrentGuideEnd.date) ∧
      ∀ «end» ∈ item.program.endDate,
        window.mCurrentGuideStart.date < «end»)
    ⟨fun ⟨starts, ends⟩ => ⟨starts, ends⟩,
      fun ⟨starts, ends⟩ => ⟨starts, ends⟩⟩

end ListedProgram

namespace GuideWindow

def clamp (window : GuideWindow) (date : LocalDateTime) : LocalDateTime :=
  max window.mCurrentGuideStart.date (min date window.mCurrentGuideEnd.date)

/-- The start of a cell in the window. -/
def shownFrom (window : GuideWindow) (cell : ProgramGridCell UUID) :
    LocalDateTime :=
  window.clamp (cell.program.startDate.getD window.mCurrentGuideStart.date)

def shownUntil (window : GuideWindow) (cell : ProgramGridCell UUID) :
    LocalDateTime :=
  window.clamp (cell.program.endDate.getD window.mCurrentGuideEnd.date)

/-- The distance in pixels of a time from the left edge of the window. -/
def offset (window : GuideWindow) (time : LocalDateTime) : Int :=
  window.pixels window.mCurrentGuideStart.date time

/-- The cells with their left edges. -/
def edges (cells : List (ProgramGridCell UUID)) :
    List (ProgramGridCell UUID × Int) :=
  laidOut ProgramGridCell.width 0 cells

/-- The cells are as wide as the window, and each is laid out at its start
in the window. -/
structure TilesWindow (window : GuideWindow)
    (cells : List (ProgramGridCell UUID)) : Prop where
  filled :
    (cells.map ProgramGridCell.width).sum =
      window.hours * 60 * window.guideRowWidthPerMinPx
  placed :
    ∀ cell left, (cell, left) ∈ edges cells →
      left = window.offset (window.shownFrom cell)

/-- The loop has tiled the window up to its cursor. -/
structure Tiled (window : GuideWindow) (row : ProgramRow UUID) : Prop where
  tiles :
    Tiles window.shownFrom window.shownUntil
      window.mCurrentGuideStart.date row.cells row.prevEnd.date
  sized :
    ∀ cell ∈ row.cells,
      cell.width =
        window.offset (window.shownUntil cell) -
          window.offset (window.shownFrom cell)
  wholeCells : ∀ cell ∈ row.cells, (window.shownUntil cell).WholeMinute
  whole : row.prevEnd.date.WholeMinute
  within : row.prevEnd.date ≤ window.mCurrentGuideEnd.date

variable (window : GuideWindow)

theorem start_lt_end :
    window.mCurrentGuideStart.date < window.mCurrentGuideEnd.date := by
  have hours : 0 < (window.hours : Int) :=
    Int.natCast_pos.mpr window.positive
  rw [window.ends]
  apply Int.lt_add_of_pos_right
  exact Int.mul_pos hours (by decide)

theorem wholeMinute_end :
    window.mCurrentGuideEnd.date.WholeMinute := by
  rw [window.ends]
  apply Int.dvd_add window.wholeMinute
  exact Dvd.dvd.mul_left (by decide) _

/-- The length of the window in minutes. -/
theorem minutesBetween_window :
    LocalDateTime.minutesBetween window.mCurrentGuideStart.date
        window.mCurrentGuideEnd.date =
      window.hours * 60 := by
  obtain ⟨minutes, start⟩ := window.wholeMinute
  have «end» :
      window.mCurrentGuideEnd.date =
        LocalDateTime.minuteMillis * (minutes + window.hours * 60) := by
    rw [window.ends, start]
    unfold LocalDateTime.minuteMillis LocalDateTime.hourMillis
    ring
  rw [start, «end», LocalDateTime.minutesBetween_mul]
  omega

@[simp]
theorem offset_start :
    window.offset window.mCurrentGuideStart.date = 0 := by
  rw [offset, pixels, LocalDateTime.minutesBetween_self, Int.zero_mul]

theorem offset_end :
    window.offset window.mCurrentGuideEnd.date =
      window.hours * 60 * window.guideRowWidthPerMinPx := by
  rw [offset, pixels, minutesBetween_window]

variable {window}

theorem pixels_eq_sub {first second : LocalDateTime}
    (firstWhole : first.WholeMinute) (secondWhole : second.WholeMinute) :
    window.pixels first second =
      window.offset second - window.offset first := by
  have minutes :=
    LocalDateTime.minutesBetween_add window.wholeMinute firstWhole
      secondWhole
  unfold offset pixels
  rw [← minutes]
  ring

theorem clamp_of_mem {date : LocalDateTime}
    (lower : window.mCurrentGuideStart.date ≤ date)
    (upper : date ≤ window.mCurrentGuideEnd.date) :
    window.clamp date = date := by
  rw [clamp, min_eq_left upper, max_eq_right lower]

theorem start_date (item : ListedProgram UUID) :
    (window.start item).date =
      max window.mCurrentGuideStart.date
        (item.program.startDate.getD window.mCurrentGuideStart.date) := by
  cases starts : item.program.startDate with
  | none =>
      simp [start, ListedProgram.getStartDate, starts]
  | some date =>
      by_cases early : date < window.mCurrentGuideStart.date
      · simp [start, ListedProgram.getStartDate, starts,
          DateReference.isBefore, early, le_of_lt early]
      · simp [start, ListedProgram.getStartDate, starts,
          DateReference.isBefore, early, not_lt.mp early]

theorem end_date (item : ListedProgram UUID) :
    (window.end item).date =
      min (item.program.endDate.getD window.mCurrentGuideEnd.date)
        window.mCurrentGuideEnd.date := by
  cases ends : item.program.endDate with
  | none =>
      simp [«end», ListedProgram.getEndDate, ends]
  | some date =>
      by_cases late : window.mCurrentGuideEnd.date < date
      · simp [«end», ListedProgram.getEndDate, ends,
          DateReference.isAfter, late, le_of_lt late]
      · simp [«end», ListedProgram.getEndDate, ends,
          DateReference.isAfter, late, not_lt.mp late]

theorem wholeMinute_start_item {item : ListedProgram UUID}
    (timed : item.WellTimed) : (window.start item).date.WholeMinute := by
  rw [start_date]
  rcases max_choice window.mCurrentGuideStart.date
      (item.program.startDate.getD window.mCurrentGuideStart.date) with
    same | same
  · rw [same]
    exact window.wholeMinute
  · rw [same]
    cases starts : item.program.startDate with
    | none =>
        exact window.wholeMinute
    | some date =>
        exact timed.startWhole date starts

theorem wholeMinute_end_item {item : ListedProgram UUID}
    (timed : item.WellTimed) : (window.end item).date.WholeMinute := by
  rw [end_date]
  rcases min_choice
      (item.program.endDate.getD window.mCurrentGuideEnd.date)
      window.mCurrentGuideEnd.date with
    same | same
  · rw [same]
    cases ends : item.program.endDate with
    | none =>
        exact window.wholeMinute_end
    | some date =>
        exact timed.endWhole date ends
  · rw [same]
    exact window.wholeMinute_end

section Program

variable {item : ListedProgram UUID}

theorem getD_start_lt_end (onWindow : item.OfWindow window) :
    item.program.startDate.getD window.mCurrentGuideStart.date <
      window.mCurrentGuideEnd.date := by
  cases starts : item.program.startDate with
  | none =>
      exact window.start_lt_end
  | some date =>
      exact onWindow.startsBefore date starts

theorem start_lt_getD_end (onWindow : item.OfWindow window) :
    window.mCurrentGuideStart.date <
      item.program.endDate.getD window.mCurrentGuideEnd.date := by
  cases ends : item.program.endDate with
  | none =>
      exact window.start_lt_end
  | some date =>
      exact onWindow.endsAfter date ends

/-- A program of the window is not shown backwards. -/
theorem start_le_end_item (timed : item.WellTimed)
    (onWindow : item.OfWindow window) :
    (window.start item).date ≤ (window.end item).date := by
  have starts := getD_start_lt_end onWindow
  have ends := start_lt_getD_end onWindow
  rw [start_date, end_date]
  apply le_min
  · apply max_le (le_of_lt ends)
    cases startDate : item.program.startDate with
    | none =>
        exact le_of_lt ends
    | some start =>
        cases endDate : item.program.endDate with
        | none =>
            rw [startDate] at starts
            exact le_of_lt starts
        | some «end» =>
            exact timed.ordered start startDate «end» endDate
  · exact max_le (le_of_lt window.start_lt_end) (le_of_lt starts)

/-- The start of the loop is the clamped start of the program. -/
theorem start_date_eq_clamp (onWindow : item.OfWindow window) :
    (window.start item).date =
      window.clamp
        (item.program.startDate.getD window.mCurrentGuideStart.date) := by
  rw [start_date, clamp,
    min_eq_left (le_of_lt (getD_start_lt_end onWindow))]

theorem end_date_eq_clamp (onWindow : item.OfWindow window) :
    (window.end item).date =
      window.clamp
        (item.program.endDate.getD window.mCurrentGuideEnd.date) := by
  have later :
      window.mCurrentGuideStart.date ≤
        min (item.program.endDate.getD window.mCurrentGuideEnd.date)
          window.mCurrentGuideEnd.date :=
    le_min (le_of_lt (start_lt_getD_end onWindow))
      (le_of_lt window.start_lt_end)
  rw [end_date, clamp, max_eq_right later]

end Program

/-! ## One round of the loop -/

section Step

variable {row : ProgramRow UUID}

/-- One more cell that begins at the cursor. -/
theorem Tiled.concat (tiled : window.Tiled row)
    {cell : ProgramGridCell UUID} {prevEnd : DateReference}
    {currentCellId : Nat}
    (begins : window.shownFrom cell = row.prevEnd.date)
    (ends : window.shownUntil cell = prevEnd.date)
    (width : cell.width = window.pixels row.prevEnd.date prevEnd.date)
    (whole : prevEnd.date.WholeMinute)
    (positive : row.prevEnd.date < prevEnd.date)
    (within : prevEnd.date ≤ window.mCurrentGuideEnd.date) :
    window.Tiled ⟨row.cells ++ [cell], prevEnd, currentCellId⟩ where
  tiles := by
    have reached := tiled.tiles
    rw [← begins] at reached positive
    rw [← ends] at positive ⊢
    exact reached.concat positive
  sized := by
    intro other member
    rcases List.mem_append.mp member with earlier | last
    · exact tiled.sized other earlier
    · cases List.mem_singleton.mp last
      rw [width, begins, ends, pixels_eq_sub tiled.whole whole]
  wholeCells := by
    intro other member
    rcases List.mem_append.mp member with earlier | last
    · exact tiled.wholeCells other earlier
    · cases List.mem_singleton.mp last
      rw [ends]
      exact whole
  whole := whole
  within := within

theorem Tiled.lower (tiled : window.Tiled row) :
    window.mCurrentGuideStart.date ≤ row.prevEnd.date :=
  tiled.tiles.le

theorem emptyRow_tiled (currentCellId : Nat) :
    window.Tiled (window.emptyRow currentCellId : ProgramRow UUID) where
  tiles := rfl
  sized := by
    intro cell member
    cases member
  wholeCells := by
    intro cell member
    cases member
  whole := window.wholeMinute
  within := le_of_lt window.start_lt_end

theorem fillEmptySlot_tiled {channelId : UUID} {slotEnd : DateReference}
    {first : Bool} (tiled : window.Tiled row)
    (whole : slotEnd.date.WholeMinute)
    (positive : row.prevEnd.date < slotEnd.date)
    (within : slotEnd.date ≤ window.mCurrentGuideEnd.date) :
    window.Tiled
      { window.fillEmptySlot channelId slotEnd first row with
        prevEnd := slotEnd } := by
  have lower := tiled.lower
  apply tiled.concat
  · exact clamp_of_mem lower tiled.within
  · exact clamp_of_mem (le_trans lower (le_of_lt positive)) within
  · rfl
  · exact whole
  · exact positive
  · exact within

/-- Adding a program moves the cursor wherever it was. -/
theorem addProgram_prevEnd (item : ListedProgram UUID)
    (prevEnd : DateReference) :
    window.addProgram item { row with prevEnd := prevEnd } =
      window.addProgram item row := by
  simp only [addProgram]

/-- A program is added at the cursor. -/
theorem addProgram_tiled {item : ListedProgram UUID}
    (timed : item.WellTimed) (onWindow : item.OfWindow window)
    (tiled : window.Tiled row)
    (reached : row.prevEnd.date = (window.start item).date) :
    window.Tiled (window.addProgram item row) := by
  have startWhole : (window.start item).date.WholeMinute :=
    wholeMinute_start_item timed
  have endWhole : (window.end item).date.WholeMinute :=
    wholeMinute_end_item timed
  have within :
      (window.end item).date ≤ window.mCurrentGuideEnd.date := by
    rw [end_date]
    exact min_le_right _ _
  by_cases positive : (window.start item).date < (window.end item).date
  · have minutes :=
      (LocalDateTime.minutesBetween_pos_iff startWhole endWhole).mpr positive
    rw [addProgram, if_pos minutes]
    apply tiled.concat
    · exact (start_date_eq_clamp onWindow).symm.trans reached.symm
    · exact (end_date_eq_clamp onWindow).symm
    · rw [reached]
      rfl
    · exact endWhole
    · rw [reached]
      exact positive
    · exact within
  · have noMinutes :
        ¬0 < LocalDateTime.minutesBetween (window.start item).date
          (window.end item).date := by
      rw [LocalDateTime.minutesBetween_pos_iff startWhole endWhole]
      exact positive
    have same : (window.end item).date = row.prevEnd.date := by
      rw [reached]
      exact le_antisymm (not_lt.mp positive)
        (start_le_end_item timed onWindow)
    rw [addProgram, if_neg noMinutes]
    refine ⟨?_, tiled.sized, tiled.wholeCells, endWhole, within⟩
    change
      Tiles window.shownFrom window.shownUntil
        window.mCurrentGuideStart.date row.cells (window.end item).date
    rw [same]
    exact tiled.tiles

theorem placeProgram_tiled {channelId : UUID} {item : ListedProgram UUID}
    (tiled : window.Tiled row) (timed : item.WellTimed)
    (onWindow : item.OfWindow window) :
    window.Tiled (window.placeProgram channelId row item) := by
  have startWhole : (window.start item).date.WholeMinute :=
    wholeMinute_start_item timed
  have within :
      (window.start item).date ≤ window.mCurrentGuideEnd.date := by
    rw [start_date]
    exact
      max_le (le_of_lt window.start_lt_end)
        (le_of_lt (getD_start_lt_end onWindow))
  unfold placeProgram
  simp only [DateReference.isBefore, DateReference.isAfter,
    decide_eq_true_eq]
  split_ifs with skipped gap
  · exact tiled
  · rw [← addProgram_prevEnd item (window.start item)]
    apply addProgram_tiled timed onWindow _ rfl
    exact fillEmptySlot_tiled tiled startWhole gap within
  · have reached : row.prevEnd.date = (window.start item).date :=
      le_antisymm (not_lt.mp skipped) (not_lt.mp gap)
    exact addProgram_tiled timed onWindow tiled reached

theorem fillRest_tiles {channelId : UUID} (tiled : window.Tiled row) :
    window.Tiled
      { window.fillRest channelId row with
        prevEnd := window.mCurrentGuideEnd } := by
  unfold fillRest
  simp only [DateReference.isBefore, decide_eq_true_eq]
  split_ifs with remaining
  · exact
      fillEmptySlot_tiled tiled window.wholeMinute_end remaining
        (le_refl _)
  · have reached : row.prevEnd.date = window.mCurrentGuideEnd.date :=
      le_antisymm tiled.within (not_lt.mp remaining)
    refine
      ⟨?_, tiled.sized, tiled.wholeCells, window.wholeMinute_end,
        le_refl _⟩
    change
      Tiles window.shownFrom window.shownUntil
        window.mCurrentGuideStart.date row.cells
        window.mCurrentGuideEnd.date
    rw [← reached]
    exact tiled.tiles

end Step

section Rows

variable {channelId : UUID} {programs : List (ListedProgram UUID)}
  {currentCellId : Nat}

/-- The row of the programs of the window, before it is filled up. -/
theorem run_placeProgram_tiled
    (timed : ∀ item ∈ programs, item.WellTimed)
    (onWindow : ∀ item ∈ programs, item.OfWindow window) :
    window.Tiled
      (run (window.placeProgram channelId) (window.emptyRow currentCellId)
        programs) := by
  have admitted :
      Admitted (window.placeProgram channelId)
        (fun _ item => item.WellTimed ∧ item.OfWindow window)
        (window.emptyRow currentCellId) programs :=
    admitted_of_forall fun item member =>
      ⟨timed item member, onWindow item member⟩
  have preserved :
      ∀ (row : ProgramRow UUID) (item : ListedProgram UUID),
        window.Tiled row → item.WellTimed ∧ item.OfWindow window →
          window.Tiled (window.placeProgram channelId row item) := by
    rintro row item tiled ⟨itemTimed, itemOnWindow⟩
    exact placeProgram_tiled tiled itemTimed itemOnWindow
  exact run_invariant preserved (emptyRow_tiled currentCellId) admitted

/-- The cells of a row without programs. -/
theorem placeholders_of_getProgramRow {filters : GuideFilters}
    {cells : List (ProgramGridCell UUID)}
    (built :
      window.getProgramRow filters [] channelId currentCellId =
        some cells) :
    window.placeholders channelId
        (LocalDateTime.minutesBetween window.mCurrentGuideStart.date
          window.mCurrentGuideEnd.date) 0 currentCellId =
      cells := by
  rw [getProgramRow, List.isEmpty_nil, if_pos rfl] at built
  split_ifs at built
  exact Option.some.inj built

/-- The cells of a row with programs. -/
theorem cells_of_getProgramRow {filters : GuideFilters}
    {cells : List (ProgramGridCell UUID)} (listed : programs ≠ [])
    (built :
      window.getProgramRow filters programs channelId currentCellId =
        some cells) :
    (window.fillRest channelId
        (run (window.placeProgram channelId)
          (window.emptyRow currentCellId) programs)).cells =
      cells := by
  have nonempty : ¬programs.isEmpty := by
    rw [List.isEmpty_iff]
    exact listed
  rw [getProgramRow, if_neg nonempty] at built
  exact Option.some.inj built

/-- A row with programs is tiled by the dates of its cells. -/
theorem getProgramRow_tiled {filters : GuideFilters}
    {cells : List (ProgramGridCell UUID)}
    (listed : programs ≠ [])
    (timed : ∀ item ∈ programs, item.WellTimed)
    (onWindow : ∀ item ∈ programs, item.OfWindow window)
    (built :
      window.getProgramRow filters programs channelId currentCellId =
        some cells) :
    ∃ row : ProgramRow UUID, row.cells = cells ∧
      row.prevEnd = window.mCurrentGuideEnd ∧ window.Tiled row := by
  rw [← cells_of_getProgramRow listed built]
  exact
    ⟨{ window.fillRest channelId
          (run (window.placeProgram channelId)
            (window.emptyRow currentCellId) programs) with
        prevEnd := window.mCurrentGuideEnd },
      rfl, rfl,
      fillRest_tiles (run_placeProgram_tiled timed onWindow)⟩

theorem Tiled.tilesWindow {row : ProgramRow UUID}
    (tiled : window.Tiled row)
    (complete : row.prevEnd = window.mCurrentGuideEnd) :
    window.TilesWindow row.cells where
  filled := by
    have total := tiled.tiles.total tiled.sized
    rw [complete, offset_start, Int.zero_add, offset_end] at total
    exact total
  placed := by
    intro cell left member
    unfold edges at member
    rw [← window.offset_start] at member
    exact tiled.tiles.placed tiled.sized member

end Rows

/-! ## Rows without programs -/

section Placeholders

variable {channelId : UUID} {minutes : Int} {slot currentCellId : Nat}

/-- Where a placeholder ends on the screen, whatever its program says. -/
def slotEnd (window : GuideWindow) (cell : ProgramGridCell UUID) :
    LocalDateTime :=
  (window.shownFrom cell).plusMinutes 30

variable (window) in
/-- The time at which a slot begins. -/
abbrev slotStart (slot : Nat) : LocalDateTime :=
  window.mCurrentGuideStart.date.plusMinutes (30 * slot)

theorem slotStart_mem (inside : (slot : Int) ≤ window.hours * 2) :
    window.mCurrentGuideStart.date ≤ window.slotStart slot ∧
      window.slotStart slot ≤ window.mCurrentGuideEnd.date := by
  have offset :
      30 * (slot : Int) * LocalDateTime.minuteMillis ≤
        window.hours * LocalDateTime.hourMillis := by
    unfold LocalDateTime.minuteMillis LocalDateTime.hourMillis
    omega
  have ahead : 0 ≤ 30 * (slot : Int) * LocalDateTime.minuteMillis := by
    unfold LocalDateTime.minuteMillis
    omega
  constructor
  · exact Int.le_add_of_nonneg_right ahead
  · rw [window.ends]
    exact Int.add_le_add_left offset _

theorem plusMinutes_slotStart :
    (window.slotStart slot).plusMinutes 30 =
      window.slotStart (slot + 1) := by
  unfold slotStart LocalDateTime.plusMinutes
  push_cast
  ring

theorem slotStart_eq_end (complete : (slot : Int) = window.hours * 2) :
    window.slotStart slot = window.mCurrentGuideEnd.date := by
  rw [window.ends, slotStart, LocalDateTime.plusMinutes, complete]
  unfold LocalDateTime.minuteMillis LocalDateTime.hourMillis
  ring

theorem slotStart_lt : window.slotStart slot < window.slotStart (slot + 1) :=
    by
  rw [← plusMinutes_slotStart]
  apply Int.lt_add_of_pos_right
  decide

/-- The cell of a slot. -/
theorem shownFrom_slot {cell : ProgramGridCell UUID}
    (starts : cell.program.startDate = some (window.slotStart slot))
    (inside : (slot : Int) < window.hours * 2) :
    window.shownFrom cell = window.slotStart slot := by
  obtain ⟨lower, upper⟩ := slotStart_mem (le_of_lt inside)
  rw [shownFrom, starts]
  exact clamp_of_mem lower upper

theorem slotEnd_slot {cell : ProgramGridCell UUID}
    (starts : cell.program.startDate = some (window.slotStart slot))
    (inside : (slot : Int) < window.hours * 2) :
    window.slotEnd cell = window.slotStart (slot + 1) := by
  rw [slotEnd, shownFrom_slot starts inside, plusMinutes_slotStart]

/-- A slot of the window and the slots behind it tile the rest of the
window. -/
theorem placeholders_tile (length : minutes = window.hours * 60)
    (inside : (slot : Int) < window.hours * 2) :
    Tiles window.shownFrom window.slotEnd (window.slotStart slot)
      (window.placeholders channelId minutes slot currentCellId)
      window.mCurrentGuideEnd.date := by
  fun_induction window.placeholders channelId minutes slot currentCellId with
  | case1 slot currentCellId empty cell more inductionHypothesis =>
      have next : ((slot + 1 : Nat) : Int) < window.hours * 2 := by
        omega
      have ends : window.slotEnd cell = window.slotStart (slot + 1) :=
        slotEnd_slot rfl inside
      refine ⟨shownFrom_slot rfl inside, ?_, ?_⟩
      · rw [ends]
        exact slotStart_lt
      · rw [ends]
        exact inductionHypothesis next
  | case2 slot currentCellId empty cell last =>
      have complete : ((slot + 1 : Nat) : Int) = window.hours * 2 := by
        omega
      have ends : window.slotEnd cell = window.slotStart (slot + 1) :=
        slotEnd_slot rfl inside
      refine ⟨shownFrom_slot rfl inside, ?_, ?_⟩
      · rw [ends]
        exact slotStart_lt
      · exact ends.trans (slotStart_eq_end complete)

/-- Every placeholder is the cell of a slot and half an hour wide. -/
theorem exists_slot {cell : ProgramGridCell UUID}
    (length : minutes = window.hours * 60)
    (inside : (slot : Int) < window.hours * 2)
    (member :
      cell ∈ window.placeholders channelId minutes slot currentCellId) :
    ∃ other : Nat, (other : Int) < window.hours * 2 ∧
      cell.program.startDate = some (window.slotStart other) ∧
      cell.width = 30 * window.guideRowWidthPerMinPx := by
  fun_induction window.placeholders channelId minutes slot currentCellId with
  | case1 slot currentCellId empty first more inductionHypothesis =>
      rcases List.mem_cons.mp member with same | later
      · rw [same]
        exact ⟨slot, inside, rfl, rfl⟩
      · have next : ((slot + 1 : Nat) : Int) < window.hours * 2 := by
          omega
        exact inductionHypothesis next later
  | case2 slot currentCellId empty first last =>
      rw [List.mem_singleton.mp member]
      exact ⟨slot, inside, rfl, rfl⟩

theorem wholeMinute_slotStart (slot : Nat) :
    (window.slotStart slot).WholeMinute := by
  apply Int.dvd_add window.wholeMinute
  exact Int.dvd_mul_left _ _

theorem offset_slotStart (slot : Nat) :
    window.offset (window.slotStart slot) =
      30 * slot * window.guideRowWidthPerMinPx := by
  obtain ⟨minutes, start⟩ := window.wholeMinute
  have reached :
      window.slotStart slot =
        LocalDateTime.minuteMillis * (minutes + 30 * slot) := by
    rw [slotStart, LocalDateTime.plusMinutes, start]
    ring
  rw [offset, pixels, start, reached, LocalDateTime.minutesBetween_mul]
  ring

/-- A row without programs fills the window as well. -/
theorem placeholders_tilesWindow (length : minutes = window.hours * 60) :
    window.TilesWindow
      (window.placeholders channelId minutes 0 currentCellId) := by
  have positive := window.positive
  have inside : ((0 : Nat) : Int) < window.hours * 2 := by
    omega
  have begins : window.slotStart 0 = window.mCurrentGuideStart.date := by
    simp [slotStart, LocalDateTime.plusMinutes]
  have tiles :
      Tiles window.shownFrom window.slotEnd (window.slotStart 0)
        (window.placeholders channelId minutes 0 currentCellId)
        window.mCurrentGuideEnd.date :=
    placeholders_tile length inside
  have sized :
      ∀ cell ∈ window.placeholders channelId minutes 0 currentCellId,
        cell.width =
          window.offset (window.slotEnd cell) -
            window.offset (window.shownFrom cell) := by
    intro cell member
    obtain ⟨slot, slotInside, starts, width⟩ :=
      exists_slot length inside member
    rw [slotEnd_slot starts slotInside, shownFrom_slot starts slotInside,
      offset_slotStart, offset_slotStart, width]
    push_cast
    ring
  rw [begins] at tiles
  constructor
  · have total := tiles.total sized
    rw [offset_start, Int.zero_add, offset_end] at total
    exact total
  · intro cell left member
    unfold edges at member
    rw [← window.offset_start] at member
    exact tiles.placed sized member

end Placeholders

/-- Every row that is shown for programs of the window fills the window,
with each cell at its start. -/
theorem rows_tile_window (window : GuideWindow) (filters : GuideFilters)
    (programs : List (ListedProgram UUID)) (channelId : UUID)
    (currentCellId : Nat)
    (timed : ∀ item ∈ programs, item.WellTimed)
    (onWindow : ∀ item ∈ programs, item.OfWindow window)
    (shown : programs = [] → filters.any = false) :
    ∃ cells,
      window.getProgramRow filters programs channelId currentCellId =
          some cells ∧
        window.TilesWindow cells := by
  by_cases listed : programs = []
  · have unfiltered : ¬filters.any = true := by
      rw [shown listed]
      exact Bool.false_ne_true
    rw [getProgramRow, listed, List.isEmpty_nil, if_pos rfl,
      if_neg unfiltered]
    exact
      ⟨_, rfl, placeholders_tilesWindow window.minutesBetween_window⟩
  · cases built :
        window.getProgramRow filters programs channelId currentCellId with
    | none =>
        simp [getProgramRow, listed] at built
    | some cells =>
        obtain ⟨row, rfl, complete, tiled⟩ :=
          getProgramRow_tiled listed timed onWindow built
        exact ⟨row.cells, rfl, tiled.tilesWindow complete⟩

/-- A program without a start, one that overlaps it, an empty one behind a
gap and one that ends behind the window. -/
def eveningPrograms : List (ListedProgram String) :=
  [.ofDates none (some 1800000), .ofDates (some 1200000) (some 2400000),
    .ofDates (some 3600000) (some 3600000),
    .ofDates (some 7200000) (some 36000000)]

def eveningWindow : GuideWindow :=
  .ofTimeLine 0 9 (by decide) 14 110 (by decide)

def noFilters : GuideFilters :=
  ⟨false, false, false, false, false, false⟩

def eveningRow : List (ProgramGridCell String) :=
  (eveningWindow.getProgramRow noFilters eveningPrograms "one" 0).getD []

theorem evening_row_tiles_window :
    ∃ cells,
      eveningWindow.getProgramRow noFilters eveningPrograms "one" 0 =
          some cells ∧
        eveningWindow.TilesWindow cells :=
  rows_tile_window eveningWindow noFilters eveningPrograms "one" 0
    (by decide) (by decide) (by decide)

example :
    eveningRow.map ProgramGridCell.width = [420, 420, 840, 5880] := by
  decide

end GuideWindow

end JellyfinTv.LiveTv
