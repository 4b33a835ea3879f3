import JellyfinTv.LiveTv.RowFocus

/-!
# Rows that are shifted

A program that ended before the window moves the cursor of the loop back, so
the gap behind it is drawn from its end on and pushes the rest of the row to
the right.  A program without an end is drawn up to the end of the window,
but is never chosen.  The focus moves to the cell drawn over the start unless
one of the two is in the way, or the other row has no programs.
-/

namespace JellyfinTv.LiveTv

open JellyfinTv.Library

variable {UUID : Type}

/-- A gap between two programs, or the part of a program in the window. -/
structure GuideSlot where
  start : LocalDateTime
  «end» : LocalDateTime
  deriving DecidableEq, Repr

namespace GuideWindow

def beginsAt (window : GuideWindow) (item : ListedProgram UUID) :
    LocalDateTime :=
  max window.mCurrentGuideStart.date
    (item.program.startDate.getD window.mCurrentGuideStart.date)

def endsAt (window : GuideWindow) (item : ListedProgram UUID) :
    LocalDateTime :=
  min (item.program.endDate.getD window.mCurrentGuideEnd.date)
    window.mCurrentGuideEnd.date

/-- How long before the window the programs at the front of the list that
ended by its start did so, all together. -/
def delay (window : GuideWindow) : List (ListedProgram UUID) → Int
  | [] => 0
  | item :: rest =>
      match item.program.endDate with
      | none => 0
      | some «end» =>
          if «end» ≤ window.mCurrentGuideStart.date then
            window.mCurrentGuideStart.date - «end» + window.delay rest
          else
            0

/-- The first gap or program with an end behind the time.  A program is left
out if it starts before the end of the one before. -/
def slotAt (window : GuideWindow) (time : LocalDateTime) :
    LocalDateTime → List (ListedProgram UUID) → Option GuideSlot
  | prevEnd, [] =>
      if prevEnd < window.mCurrentGuideEnd.date ∧
          time < window.mCurrentGuideEnd.date then
        some ⟨prevEnd, window.mCurrentGuideEnd.date⟩
      else
        none
  | prevEnd, item :: rest =>
      if window.beginsAt item < prevEnd then
        window.slotAt time prevEnd rest
      else if prevEnd < window.beginsAt item ∧
          time < window.beginsAt item then
        some ⟨prevEnd, window.beginsAt item⟩
      else if window.beginsAt item < window.endsAt item ∧
          item.program.endDate.any (decide <| time < ·) then
        some ⟨window.beginsAt item, window.endsAt item⟩
      else
        window.slotAt time (window.endsAt item) rest

/-- Without programs in the other row, the cell starts in the first half hour
of the window.  Otherwise its start is in the slot that is found for it also
after the delay, or the start lies before a window with a delay. -/
def FindsOverlap (window : GuideWindow)
    (otherPrograms : List (ListedProgram UUID))
    (cell : ProgramGridCell UUID) : Prop :=
  ∃ start ∈ cell.program.startDate,
    let shown := max window.mCurrentGuideStart.date start
    let delay := window.delay otherPrograms
    (otherPrograms = [] →
      start < window.mCurrentGuideStart.date.plusMinutes 30) ∧
    (otherPrograms ≠ [] →
      (start < window.mCurrentGuideStart.date ∧ 0 < delay) ∨
        ∃ slot ∈
            window.slotAt start window.mCurrentGuideStart.date otherPrograms,
          slot.start + delay ≤ shown ∧ shown < slot.end + delay)

/-- The first half hour of the window is in the window. -/
theorem findsOverlap_nil_iff (window : GuideWindow)
    (cell : ProgramGridCell UUID) :
    window.FindsOverlap [] cell ↔
      ∃ start ∈ cell.program.startDate,
        start < window.mCurrentGuideEnd.date ∧
          start < window.slotStart 1 := by
  have positive := window.positive
  have inside : ((1 : Nat) : Int) ≤ window.hours * 2 := by
    omega
  have inWindow := (slotStart_mem inside).2
  constructor
  · rintro ⟨start, starts, early, _⟩
    have first : start < window.slotStart 1 := early rfl
    exact ⟨start, starts, lt_of_lt_of_le first inWindow, first⟩
  · rintro ⟨start, starts, _, first⟩
    exact ⟨start, starts, fun _ => first, fun listed => absurd rfl listed⟩

variable {window : GuideWindow}

theorem delay_of_ended {item : ListedProgram UUID}
    {rest : List (ListedProgram UUID)} {«end» : LocalDateTime}
    (ends : item.program.endDate = some «end»)
    (early : «end» ≤ window.mCurrentGuideStart.date) :
    window.delay (item :: rest) =
      window.mCurrentGuideStart.date - «end» + window.delay rest := by
  rw [delay, ends]
  exact if_pos early

theorem delay_of_late {item : ListedProgram UUID}
    {rest : List (ListedProgram UUID)}
    (late :
      ∀ «end» ∈ item.program.endDate,
        window.mCurrentGuideStart.date < «end») :
    window.delay (item :: rest) = 0 := by
  rw [delay]
  cases ends : item.program.endDate with
  | none =>
      rfl
  | some «end» =>
      exact if_neg (not_le_of_gt (late «end» ends))

theorem delay_nonneg (programs : List (ListedProgram UUID)) :
    0 ≤ window.delay programs := by
  induction programs with
  | nil =>
      exact le_refl 0
  | cons item rest inductionHypothesis =>
      rw [delay]
      split
      · exact le_refl 0
      · split_ifs with early
        · exact Int.add_nonneg (Int.sub_nonneg.mpr early) inductionHypothesis
        · exact le_refl 0

/-- Whole minutes are as far apart in pixels wherever the row is. -/
theorem offset_add_pixels {first second delay : LocalDateTime}
    (firstWhole : first.WholeMinute) (secondWhole : second.WholeMinute)
    (delayWhole : LocalDateTime.minuteMillis ∣ delay) :
    window.offset (first + delay) + window.pixels first second =
      window.offset (second + delay) := by
  obtain ⟨startMinutes, start⟩ := window.wholeMinute
  obtain ⟨firstMinutes, rfl⟩ := firstWhole
  obtain ⟨secondMinutes, rfl⟩ := secondWhole
  obtain ⟨delayMinutes, rfl⟩ := delayWhole
  rw [← mul_add, ← mul_add, offset, offset, pixels, pixels, pixels, start,
    LocalDateTime.minutesBetween_mul, LocalDateTime.minutesBetween_mul,
    LocalDateTime.minutesBetween_mul]
  ring

/-- The date of the end lies behind the time. -/
def EndsBehind (time : LocalDateTime) (cell : ProgramGridCell UUID) : Bool :=
  cell.program.endDate.any (decide <| time < ·)

theorem getOtherCell_eq_find? {otherRow : List (ProgramGridCell UUID)}
    {cell : ProgramGridCell UUID} {start : LocalDateTime}
    (starts : cell.program.startDate = some start) :
    getOtherCell otherRow cell = otherRow.find? (EndsBehind start) := by
  apply List.find?_congr
  intro other _
  rw [starts, EndsBehind]
  cases other.program.endDate <;> rfl

/-- The loop has reached its cursor without a cell that ends behind the time,
and draws the cursor with the delay. -/
structure Passed (window : GuideWindow) (time delay : LocalDateTime)
    (row : ProgramRow UUID) : Prop where
  whole : row.prevEnd.date.WholeMinute
  delayWhole : LocalDateTime.minuteMillis ∣ delay
  passed : ∀ cell ∈ row.cells, EndsBehind time cell = false
  drawn :
    totalSize ProgramGridCell.width row.cells =
      window.offset (row.prevEnd.date + delay)

/-- The first cell that ends behind the time is drawn over the slot with the
delay, and there is none without a slot. -/
def Located (window : GuideWindow) (time delay : LocalDateTime)
    (cells : List (ProgramGridCell UUID)) : Option GuideSlot → Prop
  | none => ∀ cell ∈ cells, EndsBehind time cell = false
  | some slot =>
      ∃ before other after, cells = before ++ other :: after ∧
        (∀ cell ∈ before, EndsBehind time cell = false) ∧
        EndsBehind time other = true ∧
        (slot.start + delay).WholeMinute ∧
        (slot.end + delay).WholeMinute ∧
        totalSize ProgramGridCell.width before =
          window.offset (slot.start + delay) ∧
        totalSize ProgramGridCell.width before + other.width =
          window.offset (slot.end + delay)

section Locating

variable {row : ProgramRow UUID} {channelId : UUID}
  {time delay : LocalDateTime} {cell : ProgramGridCell UUID}
  {prevEnd : DateReference} {currentCellId : Nat}

/-- A cell at the cursor that ends by the time is passed. -/
theorem Passed.concat (passed : window.Passed time delay row)
    (width : cell.width = window.pixels row.prevEnd.date prevEnd.date)
    (whole : prevEnd.date.WholeMinute)
    (ended : EndsBehind time cell = false) :
    window.Passed time delay ⟨row.cells ++ [cell], prevEnd, currentCellId⟩
    where
  whole := whole
  delayWhole := passed.delayWhole
  passed :=
    List.forall_mem_append.mpr
      ⟨passed.passed, List.forall_mem_singleton.mpr ended⟩
  drawn := by
    rw [totalSize_append, passed.drawn, totalSize_cons, totalSize_nil,
      Int.add_zero, width]
    exact offset_add_pixels passed.whole whole passed.delayWhole

/-- A cell at the cursor that ends behind the time is the located one. -/
theorem Passed.located (passed : window.Passed time delay row)
    (width : cell.width = window.pixels row.prevEnd.date prevEnd.date)
    (whole : prevEnd.date.WholeMinute)
    (behind : EndsBehind time cell = true)
    (more : List (ProgramGridCell UUID)) :
    window.Located time delay (row.cells ++ [cell] ++ more)
      (some ⟨row.prevEnd.date, prevEnd.date⟩) := by
  refine
    ⟨row.cells, cell, more, List.append_assoc _ _ _, passed.passed, behind,
      Int.dvd_add passed.whole passed.delayWhole,
      Int.dvd_add whole passed.delayWhole, passed.drawn, ?_⟩
  rw [passed.drawn, width]
  exact offset_add_pixels passed.whole whole passed.delayWhole

/-- What the loop and the filling of the rest make of a row. -/
def finish (window : GuideWindow) (channelId : UUID) (row : ProgramRow UUID)
    (programs : List (ListedProgram UUID)) : List (ProgramGridCell UUID) :=
  (window.fillRest channelId
    (run (window.placeProgram channelId) row programs)).cells

/-- The row with the gap in front of a program. -/
def upTo (window : GuideWindow) (channelId : UUID)
    (item : ListedProgram UUID) (row : ProgramRow UUID) : ProgramRow UUID :=
  if row.prevEnd.date < window.beginsAt item then
    { window.fillEmptySlot channelId (window.start item)
        (row.prevEnd.same window.mCurrentGuideStart) row with
      prevEnd := window.start item }
  else
    row

variable {item : ListedProgram UUID} {programs : List (ListedProgram UUID)}

theorem placeProgram_of_before
    (before : window.beginsAt item < row.prevEnd.date) :
    window.placeProgram channelId row item = row := by
  rw [beginsAt, ← start_date] at before
  exact if_pos (decide_eq_true before)

theorem placeProgram_of_not_before
    (onward : ¬window.beginsAt item < row.prevEnd.date) :
    window.placeProgram channelId row item =
      window.addProgram item (window.upTo channelId item row) := by
  rw [beginsAt, ← start_date] at onward
  unfold placeProgram upTo
  rw [beginsAt, ← start_date]
  simp only [DateReference.isBefore, DateReference.isAfter,
    decide_eq_true_eq, if_neg onward]
  split_ifs
  · exact (addProgram_prevEnd item _).symm
  · rfl

theorem prefix_addProgram :
    row.cells <+: (window.addProgram item row).cells := by
  simp only [addProgram]
  split
  · exact List.prefix_append _ _
  · exact List.prefix_rfl

theorem prefix_upTo :
    row.cells <+: (window.upTo channelId item row).cells := by
  unfold upTo
  split
  · exact List.prefix_append _ _
  · exact List.prefix_rfl

/-- The cells that are in the row stay in front. -/
theorem prefix_finish :
    row.cells <+: window.finish channelId row programs := by
  induction programs generalizing row with
  | nil =>
      rw [finish, run_nil, fillRest]
      split
      · exact List.prefix_append _ _
      · exact List.prefix_rfl
  | cons item rest inductionHypothesis =>
      apply List.IsPrefix.trans _ inductionHypothesis
      by_cases before : window.beginsAt item < row.prevEnd.date
      · rewrite [placeProgram_of_before before]
        exact List.prefix_rfl
      · rw [placeProgram_of_not_before before]
        exact prefix_upTo.trans prefix_addProgram

theorem beginsAt_of_ended {«end» : LocalDateTime} (timed : item.WellTimed)
    (ends : item.program.endDate = some «end»)
    (early : «end» ≤ window.mCurrentGuideStart.date) :
    window.beginsAt item = window.mCurrentGuideStart.date := by
  apply max_eq_left
  cases starts : item.program.startDate with
  | none =>
      exact le_refl _
  | some start =>
      exact le_trans (timed.ordered start starts «end» ends) early

theorem endsAt_of_ended {«end» : LocalDateTime}
    (ends : item.program.endDate = some «end»)
    (early : «end» ≤ window.mCurrentGuideStart.date) :
    window.endsAt item = «end» := by
  rw [endsAt, ends]
  exact min_eq_left (le_trans early (le_of_lt window.start_lt_end))

section Late

variable
  (late :
    ∀ «end» ∈ item.program.endDate, window.mCurrentGuideStart.date < «end»)
include late

theorem start_lt_endsAt :
    window.mCurrentGuideStart.date < window.endsAt item := by
  apply lt_min _ window.start_lt_end
  cases ends : item.program.endDate with
  | none =>
      exact window.start_lt_end
  | some «end» =>
      exact late «end» ends

theorem beginsAt_le_endsAt (timed : item.WellTimed)
    (within : window.beginsAt item ≤ window.mCurrentGuideEnd.date) :
    window.beginsAt item ≤ window.endsAt item := by
  apply le_min _ within
  cases ends : item.program.endDate with
  | none =>
      exact within
  | some «end» =>
      apply max_le (le_of_lt (late «end» ends))
      cases starts : item.program.startDate with
      | none =>
          exact le_of_lt (late «end» ends)
      | some start =>
          exact timed.ordered start starts «end» ends

end Late

theorem addProgram_of_lt (timed : item.WellTimed)
    (positive : window.beginsAt item < window.endsAt item) :
    window.addProgram item row =
      ⟨row.cells ++
          [window.newCell item.program row.currentCellId
            (window.pixels (window.start item).date (window.end item).date)
            ((window.start item).same window.mCurrentGuideStart)
            ((window.end item).same window.mCurrentGuideEnd)],
        window.end item, row.currentCellId + 1⟩ := by
  apply if_pos
  apply
    (LocalDateTime.minutesBetween_pos_iff (wholeMinute_start_item timed)
      (wholeMinute_end_item timed)).mpr
  rw [start_date, end_date]
  exact positive

theorem addProgram_of_le (timed : item.WellTimed)
    (empty : window.endsAt item ≤ window.beginsAt item) :
    window.addProgram item row = { row with prevEnd := window.end item } := by
  apply if_neg
  rw [LocalDateTime.minutesBetween_pos_iff (wholeMinute_start_item timed)
    (wholeMinute_end_item timed), start_date, end_date]
  exact not_lt_of_ge empty

/-- The gap in front of a program is passed if the program begins by the
time. -/
theorem Passed.upTo (channelId : UUID)
    (passed : window.Passed time delay row) (timed : item.WellTimed)
    (onward : ¬window.beginsAt item < row.prevEnd.date)
    (begun :
      row.prevEnd.date < window.beginsAt item →
        window.beginsAt item ≤ time) :
    window.Passed time delay (window.upTo channelId item row) ∧
      (window.upTo channelId item row).prevEnd.date =
        window.beginsAt item := by
  unfold GuideWindow.upTo
  split_ifs with gap
  · refine ⟨passed.concat rfl (wholeMinute_start_item timed) ?_, ?_⟩
    · apply decide_eq_false
      rw [start_date]
      exact not_lt_of_ge (begun gap)
    · exact start_date item
  · exact ⟨passed, le_antisymm (not_lt.mp onward) (not_lt.mp gap)⟩

/-- Otherwise it is the located cell. -/
theorem Passed.located_upTo (passed : window.Passed time delay row)
    (timed : item.WellTimed)
    (gap : row.prevEnd.date < window.beginsAt item)
    (ahead : time < window.beginsAt item)
    (more : List (ProgramGridCell UUID)) :
    window.Located time delay
      ((window.upTo channelId item row).cells ++ more)
      (some ⟨row.prevEnd.date, window.beginsAt item⟩) := by
  have begins : (window.start item).date = window.beginsAt item :=
    start_date item
  rw [GuideWindow.upTo, if_pos gap, ← begins]
  apply passed.located rfl (wholeMinute_start_item timed)
  apply decide_eq_true
  rw [begins]
  exact ahead

/-- A program that ended by the start of the window is not drawn, and what
follows is delayed by the time since then. -/
theorem Passed.addProgram_of_ended {«end» : LocalDateTime}
    (passed : window.Passed time delay row) (timed : item.WellTimed)
    (reached : row.prevEnd.date = window.beginsAt item)
    (ends : item.program.endDate = some «end»)
    (early : «end» ≤ window.mCurrentGuideStart.date) :
    window.Passed time
      (delay + (window.mCurrentGuideStart.date - «end»))
      (window.addProgram item row) := by
  have begins := beginsAt_of_ended timed ends early
  have endDate : (window.end item).date = «end» :=
    (end_date item).trans (endsAt_of_ended ends early)
  have empty : window.endsAt item ≤ window.beginsAt item := by
    rw [begins, endsAt_of_ended ends early]
    exact early
  rw [addProgram_of_le timed empty]
  refine ⟨wholeMinute_end_item timed, ?_, passed.passed, ?_⟩
  · apply Int.dvd_add passed.delayWhole
    exact Int.dvd_sub window.wholeMinute (timed.endWhole «end» ends)
  · have drawn := passed.drawn
    rw [reached, begins] at drawn
    change _ = window.offset ((window.end item).date + _)
    rw [drawn, endDate]
    congr 1
    ring

/-- A program that does not end behind the time is passed. -/
theorem Passed.addProgram (passed : window.Passed time delay row)
    (timed : item.WellTimed)
    (reached : row.prevEnd.date = window.beginsAt item)
    (ordered : window.beginsAt item ≤ window.endsAt item)
    (unchosen :
      ¬(window.beginsAt item < window.endsAt item ∧
        item.program.endDate.any (decide <| time < ·))) :
    window.Passed time delay (window.addProgram item row) := by
  by_cases positive : window.beginsAt item < window.endsAt item
  · rw [addProgram_of_lt timed positive]
    apply passed.concat _ (wholeMinute_end_item timed)
    · exact Bool.eq_false_iff.mpr fun behind => unchosen ⟨positive, behind⟩
    · rw [reached, beginsAt, ← start_date]
      rfl
  · rw [addProgram_of_le timed (not_lt.mp positive)]
    refine
      ⟨wholeMinute_end_item timed, passed.delayWhole, passed.passed, ?_⟩
    rw [passed.drawn, reached]
    congr 2
    rw [end_date]
    exact le_antisymm ordered (not_lt.mp positive)

theorem Passed.located_addProgram (passed : window.Passed time delay row)
    (timed : item.WellTimed)
    (reached : row.prevEnd.date = window.beginsAt item)
    (positive : window.beginsAt item < window.endsAt item)
    (behind : item.program.endDate.any (decide <| time < ·))
    (more : List (ProgramGridCell UUID)) :
    window.Located time delay
      ((window.addProgram item row).cells ++ more)
      (some ⟨window.beginsAt item, window.endsAt item⟩) := by
  have ends : (window.end item).date = window.endsAt item := end_date item
  rw [addProgram_of_lt timed positive, ← ends, ← reached]
  apply passed.located _ (wholeMinute_end_item timed)
  · exact behind
  · rw [reached, beginsAt, ← start_date]
    rfl

/-- The time is in the window, or nothing is drawn before its start. -/
def Reaches (window : GuideWindow) (time prevEnd : LocalDateTime)
    (programs : List (ListedProgram UUID)) : Prop :=
  window.mCurrentGuideStart.date ≤ time ∨
    window.mCurrentGuideStart.date < prevEnd ∨
    (prevEnd = window.mCurrentGuideStart.date ∧ window.delay programs = 0)

/-- The delay that the programs bring, which is none behind the start of the
window. -/
def delayFrom (window : GuideWindow) (prevEnd : LocalDateTime)
    (programs : List (ListedProgram UUID)) : Int :=
  if prevEnd ≤ window.mCurrentGuideStart.date then
    window.delay programs
  else
    0

/-- The rest of the window is drawn behind the last program. -/
theorem Passed.located_fillRest (passed : window.Passed time delay row) :
    window.Located time delay (window.finish channelId row [])
      (window.slotAt time row.prevEnd.date
        ([] : List (ListedProgram UUID))) := by
  rw [finish, run_nil, slotAt, fillRest]
  simp only [DateReference.isBefore, decide_eq_true_eq]
  by_cases remaining :
      row.prevEnd.date < window.mCurrentGuideEnd.date
  · rw [if_pos remaining]
    by_cases ahead : time < window.mCurrentGuideEnd.date
    · rw [if_pos ⟨remaining, ahead⟩,
        ← List.append_nil (window.fillEmptySlot _ _ _ _).cells]
      apply passed.located rfl window.wholeMinute_end
      exact decide_eq_true ahead
    · rw [if_neg fun both => ahead both.2]
      exact
        List.forall_mem_append.mpr
          ⟨passed.passed,
            List.forall_mem_singleton.mpr (decide_eq_false ahead)⟩
  · rw [if_neg remaining, if_neg fun both => remaining both.1]
    exact passed.passed

theorem addProgram_prevEnd_date :
    (window.addProgram item row).prevEnd.date = window.endsAt item := by
  have ends : (window.addProgram item row).prevEnd = window.end item := by
    simp only [addProgram]
    split <;> rfl
  rw [ends, end_date, endsAt]

/-- One round with a program that ended by the start of the window. -/
theorem Passed.placeProgram_of_ended {«end» : LocalDateTime}
    (channelId : UUID) (passed : window.Passed time delay row)
    (timed : item.WellTimed)
    (onward : ¬window.beginsAt item < row.prevEnd.date)
    (ends : item.program.endDate = some «end»)
    (early : «end» ≤ window.mCurrentGuideStart.date)
    (reaches : window.Reaches time row.prevEnd.date (item :: programs)) :
    let placed := window.placeProgram channelId row item
    let delayed := delay + (window.mCurrentGuideStart.date - «end»)
    window.Passed time delayed placed ∧
      window.Reaches time placed.prevEnd.date programs ∧
      delay + window.delayFrom row.prevEnd.date (item :: programs) =
        delayed + window.delayFrom placed.prevEnd.date programs ∧
      window.slotAt time row.prevEnd.date (item :: programs) =
        window.slotAt time placed.prevEnd.date programs := by
  have begins := beginsAt_of_ended timed ends early
  have endsAt := endsAt_of_ended ends early
  rw [begins] at onward
  have inFront :
      row.prevEnd.date ≤ window.mCurrentGuideStart.date :=
    not_lt.mp onward
  -- A gap is only drawn in front of the window.
  have begun :
      row.prevEnd.date < window.mCurrentGuideStart.date →
        window.mCurrentGuideStart.date ≤ time := by
    intro gap
    rcases reaches with reached | behind | ⟨same, _⟩
    · exact reached
    · exact absurd behind onward
    · exact absurd same (ne_of_lt gap)
  rw [placeProgram_of_not_before (by rwa [begins])]
  obtain ⟨passedGap, reached⟩ :=
    passed.upTo channelId timed (by rwa [begins]) (by rwa [begins])
  have prevEnd :
      (window.addProgram item
        (window.upTo channelId item row)).prevEnd.date = «end» :=
    addProgram_prevEnd_date.trans endsAt
  dsimp only
  rw [prevEnd]
  refine
    ⟨passedGap.addProgram_of_ended timed reached ends early, ?_, ?_, ?_⟩
  · rcases reaches with reached | behind | ⟨_, noDelay⟩
    · exact Or.inl reached
    · exact absurd behind onward
    · have rest : 0 ≤ window.delay programs := delay_nonneg programs
      rw [delay_of_ended ends early] at noDelay
      obtain ⟨same, restNoDelay⟩ :=
        (add_eq_zero_iff_of_nonneg (Int.sub_nonneg.mpr early) rest).mp
          noDelay
      exact Or.inr (Or.inr ⟨(Int.sub_eq_zero.mp same).symm, restNoDelay⟩)
  · rw [delayFrom, if_pos inFront, delayFrom, if_pos early,
      delay_of_ended ends early, Int.add_assoc]
  · have noGap :
        ¬(row.prevEnd.date < window.beginsAt item ∧
          time < window.beginsAt item) := by
      rw [begins]
      exact fun both => absurd both.2 (not_lt_of_ge (begun both.1))
    have empty :
        ¬(window.beginsAt item < window.endsAt item ∧
          item.program.endDate.any (decide <| time < ·)) := by
      rw [begins, endsAt]
      exact fun both => absurd both.1 (not_lt_of_ge early)
    rw [slotAt, if_neg (by rwa [begins]), if_neg noGap, if_neg empty,
      endsAt]

/-- One round with a program of the window or behind it, which is drawn
with its gap.  Either one of the two is the located cell, or both are
passed. -/
theorem Passed.placeProgram_of_late (channelId : UUID)
    (programs : List (ListedProgram UUID))
    (within : time ≤ window.mCurrentGuideEnd.date)
    (passed : window.Passed time delay row) (timed : item.WellTimed)
    (prevWithin : row.prevEnd.date ≤ window.mCurrentGuideEnd.date)
    (onward : ¬window.beginsAt item < row.prevEnd.date)
    (late :
      ∀ «end» ∈ item.program.endDate,
        window.mCurrentGuideStart.date < «end») :
    let placed := window.placeProgram channelId row item
    (∃ slot, window.slotAt time row.prevEnd.date (item :: programs) =
        some slot ∧
      ∀ more, window.Located time delay (placed.cells ++ more)
        (some slot)) ∨
    (window.Passed time delay placed ∧
      window.mCurrentGuideStart.date < placed.prevEnd.date ∧
      window.slotAt time row.prevEnd.date (item :: programs) =
        window.slotAt time placed.prevEnd.date programs) := by
  dsimp only
  rw [placeProgram_of_not_before onward, slotAt, if_neg onward,
    addProgram_prevEnd_date]
  by_cases gap :
      row.prevEnd.date < window.beginsAt item ∧
        time < window.beginsAt item
  · have kept :
        (window.upTo channelId item row).cells <+:
          (window.addProgram item (window.upTo channelId item row)).cells :=
      prefix_addProgram
    obtain ⟨added, addedCells⟩ := kept
    refine Or.inl ⟨_, if_pos gap, fun more => ?_⟩
    rw [← addedCells, List.append_assoc]
    exact passed.located_upTo timed gap.1 gap.2 (added ++ more)
  · rw [if_neg gap]
    have begun :
        row.prevEnd.date < window.beginsAt item →
          window.beginsAt item ≤ time :=
      fun later => not_lt.mp fun ahead => gap ⟨later, ahead⟩
    obtain ⟨passedGap, reached⟩ :=
      passed.upTo channelId timed onward begun
    have inWindow :
        window.beginsAt item ≤ window.mCurrentGuideEnd.date := by
      rcases lt_or_ge row.prevEnd.date (window.beginsAt item) with
        later | same
      · exact le_trans (begun later) within
      · exact le_trans same prevWithin
    by_cases chosen :
        window.beginsAt item < window.endsAt item ∧
          item.program.endDate.any (decide <| time < ·)
    · refine Or.inl ⟨_, if_pos chosen, fun more => ?_⟩
      exact
        passedGap.located_addProgram timed reached chosen.1 chosen.2 more
    · refine Or.inr ⟨?_, start_lt_endsAt late, if_neg chosen⟩
      exact
        passedGap.addProgram timed reached
          (beginsAt_le_endsAt late timed inWindow) chosen

theorem placeProgram_within (channelId : UUID)
    (within : row.prevEnd.date ≤ window.mCurrentGuideEnd.date)
    (item : ListedProgram UUID) :
    (window.placeProgram channelId row item).prevEnd.date ≤
      window.mCurrentGuideEnd.date := by
  by_cases before : window.beginsAt item < row.prevEnd.date
  · rw [placeProgram_of_before before]
    exact within
  · rw [placeProgram_of_not_before before, addProgram_prevEnd_date]
    exact min_le_right _ _

/-- The located cell of a whole row, by induction over the programs: each is
skipped, ended by the start of the window, or is drawn with its gap. -/
theorem Passed.located_finish (channelId : UUID)
    (within : time ≤ window.mCurrentGuideEnd.date)
    (timed : ∀ item ∈ programs, item.WellTimed)
    (passed : window.Passed time delay row)
    (prevWithin : row.prevEnd.date ≤ window.mCurrentGuideEnd.date)
    (reaches : window.Reaches time row.prevEnd.date programs) :
    window.Located time
      (delay + window.delayFrom row.prevEnd.date programs)
      (window.finish channelId row programs)
      (window.slotAt time row.prevEnd.date programs) := by
  induction programs generalizing row delay with
  | nil =>
      have noDelay :
          window.delayFrom row.prevEnd.date
            ([] : List (ListedProgram UUID)) = 0 :=
        ite_self 0
      rw [noDelay, Int.add_zero]
      exact passed.located_fillRest
  | cons item rest inductionHypothesis =>
      rw [List.forall_mem_cons] at timed
      obtain ⟨itemTimed, restTimed⟩ := timed
      have placedWithin := placeProgram_within channelId prevWithin item
      change
        window.Located time _
          (window.finish channelId (window.placeProgram channelId row item)
            rest) _
      have noDelay {prevEnd : LocalDateTime}
          (behind : window.mCurrentGuideStart.date < prevEnd)
          (others : List (ListedProgram UUID)) :
          window.delayFrom prevEnd others = 0 :=
        if_neg (not_le_of_gt behind)
      by_cases before : window.beginsAt item < row.prevEnd.date
      · have behind : window.mCurrentGuideStart.date < row.prevEnd.date :=
          lt_of_le_of_lt (le_max_left _ _) before
        rw [slotAt, if_pos before, placeProgram_of_before before,
          noDelay behind, ← noDelay behind rest]
        exact
          inductionHypothesis restTimed passed prevWithin
            (Or.inr (Or.inl behind))
      by_cases early :
          ∃ «end» ∈ item.program.endDate,
            «end» ≤ window.mCurrentGuideStart.date
      · obtain ⟨«end», ends, early⟩ := early
        obtain ⟨placed, placedReaches, delays, slots⟩ :=
          passed.placeProgram_of_ended channelId itemTimed before ends early
            reaches
        rw [delays, slots]
        exact inductionHypothesis restTimed placed placedWithin placedReaches
      · have late :
            ∀ «end» ∈ item.program.endDate,
              window.mCurrentGuideStart.date < «end» :=
          fun «end» ends => not_le.mp fun le => early ⟨«end», ends, le⟩
        have whole : window.delayFrom row.prevEnd.date (item :: rest) = 0 := by
          rw [delayFrom, delay_of_late late]
          exact ite_self 0
        rw [whole, Int.add_zero]
        obtain ⟨slot, found, located⟩ | ⟨placed, behind, slots⟩ :=
          passed.placeProgram_of_late channelId rest within itemTimed
            prevWithin before late
        · have kept :
              (window.placeProgram channelId row item).cells <+:
                window.finish channelId
                  (window.placeProgram channelId row item) rest :=
            prefix_finish
          obtain ⟨more, cells⟩ := kept
          rw [found, ← cells]
          exact located more
        · have continued :=
            inductionHypothesis restTimed placed placedWithin
              (Or.inr (Or.inl behind))
          rw [noDelay behind, Int.add_zero] at continued
          rw [slots]
          exact continued

end Locating

/-- The cells have different ids, which are below the next one. -/
structure Numbered (row : ProgramRow UUID) : Prop where
  ids : (row.cells.map ProgramGridCell.id).Nodup
  below : ∀ cell ∈ row.cells, cell.id < row.currentCellId

section Numbers

variable {row : ProgramRow UUID} {channelId : UUID}

theorem Numbered.concat (numbered : Numbered row)
    {cell : ProgramGridCell UUID} (prevEnd : DateReference)
    (next : cell.id = row.currentCellId) :
    Numbered ⟨row.cells ++ [cell], prevEnd, row.currentCellId + 1⟩ where
  ids := by
    rw [List.map_append, List.map_singleton, List.nodup_append]
    refine ⟨numbered.ids, List.pairwise_singleton _ _, ?_⟩
    rintro id member _ last rfl
    obtain ⟨other, otherMember, rfl⟩ := List.mem_map.mp member
    have below := numbered.below other otherMember
    have same := List.mem_singleton.mp last
    omega
  below := by
    intro other member
    rcases List.mem_append.mp member with earlier | last
    · exact Nat.lt_succ_of_lt (numbered.below other earlier)
    · rw [List.mem_singleton.mp last, next]
      exact Nat.lt_succ_self _

theorem Numbered.addProgram (numbered : Numbered row)
    (item : ListedProgram UUID) :
    Numbered (window.addProgram item row) := by
  simp only [GuideWindow.addProgram]
  split
  · exact numbered.concat _ rfl
  · exact ⟨numbered.ids, numbered.below⟩

theorem Numbered.placeProgram (numbered : Numbered row)
    (item : ListedProgram UUID) :
    Numbered (window.placeProgram channelId row item) := by
  simp only [GuideWindow.placeProgram]
  split_ifs
  · exact numbered
  · exact (numbered.concat row.prevEnd rfl).addProgram item
  · exact numbered.addProgram item

/-- No id is given twice in a row. -/
theorem Numbered.finish (window : GuideWindow) (channelId : UUID)
    (numbered : Numbered row) (programs : List (ListedProgram UUID)) :
    ((window.finish channelId row programs).map
      ProgramGridCell.id).Nodup := by
  induction programs generalizing row with
  | nil =>
      rw [GuideWindow.finish, run_nil, fillRest]
      split
      · exact (numbered.concat row.prevEnd rfl).ids
      · exact numbered.ids
  | cons item rest inductionHypothesis =>
      exact inductionHypothesis (numbered.placeProgram item)

end Numbers

section Chosen

variable {cell other : ProgramGridCell UUID}
  {before after cells : List (ProgramGridCell UUID)}
  {start delay : LocalDateTime} {slot : Option GuideSlot}

/-- A cell with the id of another one of the row is that one. -/
theorem edge_of_id
    (ids : ((before ++ other :: after).map ProgramGridCell.id).Nodup)
    {found : ProgramGridCell UUID} {left : Int}
    (placed : (found, left) ∈ edges (before ++ other :: after))
    (same : other.id = found.id) :
    found = other ∧ left = totalSize ProgramGridCell.width before := by
  rw [List.map_append, List.map_cons, List.nodup_append,
    List.nodup_cons] at ids
  obtain ⟨_, ⟨notAfter, _⟩, apart⟩ := ids
  rw [edges, laidOut_append, laidOut, Int.zero_add] at placed
  rcases List.mem_append.mp placed with inFront | behind
  · have member : found.id ∈ before.map ProgramGridCell.id :=
      List.mem_map_of_mem (mem_of_laidOut _ inFront)
    exact absurd same.symm (apart _ member _ List.mem_cons_self)
  · rcases List.mem_cons.mp behind with isOther | later
    · cases isOther
      exact ⟨rfl, rfl⟩
    · have member : found.id ∈ after.map ProgramGridCell.id :=
        List.mem_map_of_mem (mem_of_laidOut _ later)
      rw [← same] at member
      exact absurd member notAfter

/-- The first cell that ends behind the start overlaps it if it is drawn over
it. -/
theorem choosesOverlap_append_iff
    (starts : cell.program.startDate = some start)
    (within : start ≤ window.mCurrentGuideEnd.date)
    (ids : ((before ++ other :: after).map ProgramGridCell.id).Nodup)
    (passed : ∀ earlier ∈ before, EndsBehind start earlier = false)
    (behind : EndsBehind start other = true) :
    window.ChoosesOverlap (before ++ other :: after) cell ↔
      window.Covers other (totalSize ProgramGridCell.width before)
        (max window.mCurrentGuideStart.date start) := by
  have shown :
      window.shownFrom cell = max window.mCurrentGuideStart.date start := by
    rw [shownFrom, starts, clamp]
    exact congrArg _ (min_eq_left within)
  have skipped : before.find? (EndsBehind start) = none := by
    apply List.find?_eq_none.mpr
    intro earlier member
    rw [passed earlier member]
    exact Bool.false_ne_true
  have chosen :
      getOtherCell (before ++ other :: after) cell = some other := by
    rw [getOtherCell_eq_find? starts, List.find?_append, skipped,
      List.find?_cons_of_pos behind]
    rfl
  rw [ChoosesOverlap, chosen, shown]
  constructor
  · rintro ⟨found, left, placed, covers, same⟩
    obtain ⟨rfl, rfl⟩ := edge_of_id ids placed (Option.some.inj same)
    exact covers
  · intro covers
    refine ⟨other, _, ?_, covers, rfl⟩
    rw [edges, laidOut_append, laidOut, Int.zero_add]
    exact List.mem_append_right _ List.mem_cons_self

theorem offset_le_iff {first second : LocalDateTime}
    (whole : first.WholeMinute)
    (inWindow : window.mCurrentGuideStart.date ≤ second) :
    window.offset first ≤ window.offset second ↔ first ≤ second := by
  constructor
  · intro le
    by_contra late
    exact
      absurd le (not_le_of_gt (offset_lt inWindow whole (not_le.mp late)))
  · exact offset_mono

theorem choosesOverlap_of_located
    (starts : cell.program.startDate = some start)
    (within : start ≤ window.mCurrentGuideEnd.date)
    (ids : (cells.map ProgramGridCell.id).Nodup)
    (located : window.Located start delay cells slot) :
    window.ChoosesOverlap cells cell ↔
      ∃ found ∈ slot,
        found.start + delay ≤ max window.mCurrentGuideStart.date start ∧
          max window.mCurrentGuideStart.date start < found.end + delay := by
  have inWindow := le_max_left window.mCurrentGuideStart.date start
  cases slot with
  | none =>
      have unchosen : getOtherCell cells cell = none := by
        rw [getOtherCell_eq_find? starts]
        apply List.find?_eq_none.mpr
        intro other member
        rw [located other member]
        exact Bool.false_ne_true
      rw [ChoosesOverlap, unchosen]
      simp
  | some found =>
      obtain
        ⟨before, other, after, rfl, passed, behind, startWhole, endWhole,
          left, right⟩ := located
      rw [choosesOverlap_append_iff starts within ids passed behind, Covers,
        right, left, offset_le_iff startWhole inWindow, ← not_le,
        offset_le_iff endWhole inWindow, not_le]
      simp

end Chosen

section Front

variable {row : ProgramRow UUID} {channelId : UUID} {time : LocalDateTime}
  {programs : List (ListedProgram UUID)}

theorem pixels_pos {first second : LocalDateTime}
    (firstWhole : first.WholeMinute) (secondWhole : second.WholeMinute)
    (lt : first < second) : 0 < window.pixels first second :=
  Int.mul_pos
    ((LocalDateTime.minutesBetween_pos_iff firstWhole secondWhole).mpr lt)
    window.visible

/-- A cursor in front of the window begins the row with a gap that ends
behind every time before the window. -/
theorem first_of_gap (timed : ∀ item ∈ programs, item.WellTimed)
    (empty : row.cells = []) (whole : row.prevEnd.date.WholeMinute)
    (inFront : row.prevEnd.date < window.mCurrentGuideStart.date)
    (before : time < window.mCurrentGuideStart.date) :
    ∃ first rest, window.finish channelId row programs = first :: rest ∧
      EndsBehind time first = true ∧ 0 < first.width := by
  cases programs with
  | nil =>
      have remaining := lt_trans inFront window.start_lt_end
      rw [finish, run_nil, fillRest]
      simp only [DateReference.isBefore, decide_eq_true_eq,
        if_pos remaining, fillEmptySlot, empty]
      refine ⟨_, _, rfl, ?_, ?_⟩
      · exact decide_eq_true (lt_trans before window.start_lt_end)
      · exact pixels_pos whole window.wholeMinute_end remaining
  | cons item rest =>
      rw [List.forall_mem_cons] at timed
      have begins : window.mCurrentGuideStart.date ≤ window.beginsAt item :=
        le_max_left _ _
      have gap := lt_of_lt_of_le inFront begins
      have placed :
          window.placeProgram channelId row item =
            window.addProgram item (window.upTo channelId item row) :=
        placeProgram_of_not_before (not_lt_of_gt gap)
      have kept :
          (window.upTo channelId item row).cells <+:
            window.finish channelId row (item :: rest) := by
        apply prefix_addProgram.trans
        rw [← placed]
        exact prefix_finish
      obtain ⟨more, cells⟩ := kept
      rw [← cells, GuideWindow.upTo, if_pos gap]
      simp only [fillEmptySlot, empty]
      refine ⟨_, _, rfl, ?_, ?_⟩
      · apply decide_eq_true
        rw [start_date]
        exact lt_of_lt_of_le before begins
      · apply pixels_pos whole (wholeMinute_start_item timed.1)
        rw [start_date]
        exact gap

/-- With a delay the row begins with such a gap. -/
theorem first_of_delay (timed : ∀ item ∈ programs, item.WellTimed)
    (empty : row.cells = [])
    (atStart : row.prevEnd.date = window.mCurrentGuideStart.date)
    (delayed : 0 < window.delay programs)
    (before : time < window.mCurrentGuideStart.date) :
    ∃ first rest, window.finish channelId row programs = first :: rest ∧
      EndsBehind time first = true ∧ 0 < first.width := by
  induction programs generalizing row with
  | nil =>
      exact absurd delayed (lt_irrefl 0)
  | cons item rest inductionHypothesis =>
      rw [List.forall_mem_cons] at timed
      obtain ⟨itemTimed, restTimed⟩ := timed
      by_cases early :
          ∃ «end» ∈ item.program.endDate,
            «end» ≤ window.mCurrentGuideStart.date
      · obtain ⟨«end», ends, early⟩ := early
        have begins := beginsAt_of_ended itemTimed ends early
        have endsAt := endsAt_of_ended ends early
        have placed :
            window.placeProgram channelId row item =
              { row with prevEnd := window.end item } := by
          rw [placeProgram_of_not_before, GuideWindow.upTo, if_neg,
            addProgram_of_le itemTimed]
          · rw [begins, endsAt]
            exact early
          · rw [begins, atStart]
            exact lt_irrefl _
          · rw [begins, atStart]
            exact lt_irrefl _
        have prevEnd : (window.end item).date = «end» :=
          (end_date item).trans endsAt
        have emptied :
            ({ row with prevEnd := window.end item } :
              ProgramRow UUID).cells = [] :=
          empty
        change
          ∃ first rest',
            window.finish channelId
                (window.placeProgram channelId row item) rest =
              first :: rest' ∧ _
        rw [placed]
        rcases lt_or_eq_of_le early with earlier | same
        · apply
            first_of_gap restTimed emptied (wholeMinute_end_item itemTimed) _
              before
          rw [prevEnd]
          exact earlier
        · apply inductionHypothesis restTimed emptied (prevEnd.trans same)
          rw [delay_of_ended ends early, same, Int.sub_self,
            Int.zero_add] at delayed
          exact delayed
      · have late :
            ∀ «end» ∈ item.program.endDate,
              window.mCurrentGuideStart.date < «end» :=
          fun «end» ends => not_le.mp fun le => early ⟨«end», ends, le⟩
        rw [delay_of_late late] at delayed
        exact absurd delayed (lt_irrefl 0)

end Front

section Listed

variable {channelId : UUID} {programs : List (ListedProgram UUID)}
  {currentCellId : Nat} {cell : ProgramGridCell UUID}
  {start : LocalDateTime}

/-- In a row with programs. -/
theorem choosesOverlap_finish_iff
    (timed : ∀ item ∈ programs, item.WellTimed)
    (starts : cell.program.startDate = some start)
    (within : start ≤ window.mCurrentGuideEnd.date) :
    window.ChoosesOverlap
        (window.finish channelId (window.emptyRow currentCellId) programs)
        cell ↔
      (start < window.mCurrentGuideStart.date ∧ 0 < window.delay programs) ∨
        ∃ slot ∈
            window.slotAt start window.mCurrentGuideStart.date programs,
          slot.start + window.delay programs ≤
              max window.mCurrentGuideStart.date start ∧
            max window.mCurrentGuideStart.date start <
              slot.end + window.delay programs := by
  have numbered :
      Numbered (window.emptyRow currentCellId : ProgramRow UUID) :=
    ⟨List.nodup_nil, by intro cell member; cases member⟩
  have ids := numbered.finish window channelId programs
  by_cases early :
      start < window.mCurrentGuideStart.date ∧ 0 < window.delay programs
  · obtain ⟨first, rest, cells, behind, width⟩ :
        ∃ first rest,
          window.finish channelId (window.emptyRow currentCellId) programs =
              first :: rest ∧
            EndsBehind start first = true ∧ 0 < first.width :=
      first_of_delay timed rfl rfl early.2 early.1
    rw [cells] at ids ⊢
    have chosen :
        window.ChoosesOverlap ([] ++ first :: rest) cell ↔ _ :=
      choosesOverlap_append_iff starts within ids (List.forall_mem_nil _)
        behind
    have covers :
        window.Covers first 0
          (max window.mCurrentGuideStart.date start) := by
      rw [max_eq_left (le_of_lt early.1), Covers, offset_start,
        Int.zero_add]
      exact ⟨le_refl 0, width⟩
    exact iff_of_true (chosen.mpr covers) (Or.inl early)
  · have passed :
        window.Passed start 0
          (window.emptyRow currentCellId : ProgramRow UUID) := by
      refine ⟨window.wholeMinute, Int.dvd_zero _, ?_, ?_⟩
      · intro cell member
        cases member
      · change 0 = window.offset (window.mCurrentGuideStart.date + 0)
        rw [Int.add_zero, offset_start]
    have reaches :
        window.Reaches start window.mCurrentGuideStart.date programs := by
      rcases lt_or_ge start window.mCurrentGuideStart.date with
        before | inWindow
      · have none := not_lt.mp fun delayed => early ⟨before, delayed⟩
        exact Or.inr (Or.inr ⟨rfl, le_antisymm none (delay_nonneg _)⟩)
      · exact Or.inl inWindow
    have located :=
      passed.located_finish channelId within timed
        (le_of_lt window.start_lt_end) reaches
    have whole :
        0 + window.delayFrom window.mCurrentGuideStart.date programs =
          window.delay programs := by
      rw [delayFrom, if_pos (le_refl _), Int.zero_add]
    change
      window.Located start
        (0 + window.delayFrom window.mCurrentGuideStart.date programs) _
        (window.slotAt start window.mCurrentGuideStart.date programs)
      at located
    rw [whole] at located
    rw [choosesOverlap_of_located starts within ids located]
    exact (or_iff_right early).symm

end Listed

/-- The cells start by the end of the window, and so does the cursor. -/
structure StartsWithin (window : GuideWindow) (row : ProgramRow UUID) :
    Prop where
  within : row.prevEnd.date ≤ window.mCurrentGuideEnd.date
  starts :
    ∀ cell ∈ row.cells, ∀ start ∈ cell.program.startDate,
      start ≤ window.mCurrentGuideEnd.date

section Starts

variable {row : ProgramRow UUID} {channelId : UUID}

theorem StartsWithin.fillEmptySlot (held : window.StartsWithin row)
    (slotEnd : DateReference) (first : Bool) :
    window.StartsWithin
      (window.fillEmptySlot channelId slotEnd first row) where
  within := held.within
  starts := by
    intro cell member
    rcases List.mem_append.mp member with earlier | last
    · exact held.starts cell earlier
    · cases List.mem_singleton.mp last
      rintro start ⟨⟩
      exact held.within

/-- A program that begins behind the window has no length in it. -/
theorem StartsWithin.addProgram (held : window.StartsWithin row)
    (item : ListedProgram UUID) :
    window.StartsWithin (window.addProgram item row) := by
  have within : (window.end item).date ≤ window.mCurrentGuideEnd.date := by
    rw [end_date]
    exact min_le_right _ _
  simp only [GuideWindow.addProgram]
  split
  · rename_i positive
    refine ⟨within, ?_⟩
    intro cell member start starts
    rcases List.mem_append.mp member with earlier | last
    · exact held.starts cell earlier start starts
    · cases List.mem_singleton.mp last
      by_contra late
      have begun : start ≤ (window.start item).date := by
        have startDate : item.program.startDate = some start := starts
        rw [start_date, startDate]
        exact le_max_right _ _
      have backwards :
          (window.end item).date - (window.start item).date ≤ 0 :=
        Int.sub_nonpos_of_le
          (le_trans within (le_trans (le_of_lt (not_le.mp late)) begun))
      have none : _ ≤ Int.tdiv 0 LocalDateTime.minuteMillis :=
        Int.tdiv_le_tdiv (by decide) backwards
      exact absurd positive (not_lt_of_ge none)
  · exact ⟨within, held.starts⟩

theorem StartsWithin.placeProgram (channelId : UUID)
    (held : window.StartsWithin row) (item : ListedProgram UUID) :
    window.StartsWithin (window.placeProgram channelId row item) := by
  simp only [GuideWindow.placeProgram]
  split_ifs
  · exact held
  · exact (held.fillEmptySlot _ _).addProgram item
  · exact held.addProgram item

/-- No cell of a row starts behind the window. -/
theorem start_le_end_getProgramRow {filters : GuideFilters}
    {programs : List (ListedProgram UUID)} {currentCellId : Nat}
    {cells : List (ProgramGridCell UUID)}
    (built :
      window.getProgramRow filters programs channelId currentCellId =
        some cells) :
    ∀ cell ∈ cells, ∀ start ∈ cell.program.startDate,
      start ≤ window.mCurrentGuideEnd.date := by
  by_cases listed : programs = []
  · subst listed
    rw [← placeholders_of_getProgramRow built]
    intro cell member start starts
    have positive := window.positive
    obtain ⟨slot, inside, slotStarts, _⟩ :=
      exists_slot window.minutesBetween_window (by omega) member
    cases starts.symm.trans slotStarts
    exact (slotStart_mem (le_of_lt inside)).2
  · have initial :
        window.StartsWithin
          (window.emptyRow currentCellId : ProgramRow UUID) :=
      ⟨le_of_lt window.start_lt_end, by intro cell member; cases member⟩
    have held :=
      run_preserves
        (fun row item held => held.placeProgram channelId item) initial
        programs
    rw [← cells_of_getProgramRow listed built, fillRest]
    split
    · exact (held.fillEmptySlot _ _).starts
    · exact held.starts

end Starts

end GuideWindow

/-- In neighbouring rows the focus moves to the cell drawn over the start
exactly under the condition on the programs of the other row. -/
theorem focus_overlaps_iff (window : GuideWindow) (filters : GuideFilters)
    (programs otherPrograms : List (ListedProgram UUID))
    (channelId otherChannelId : UUID) (firstId otherFirstId : Nat)
    (currentRow otherRow : List (ProgramGridCell UUID)) (up : Bool)
    (otherTimed : ∀ item ∈ otherPrograms, item.WellTimed)
    (built :
      window.getProgramRow filters programs channelId firstId =
        some currentRow)
    (otherBuilt :
      window.getProgramRow filters otherPrograms otherChannelId
          otherFirstId =
        some otherRow) :
    ∀ cell ∈ setFocusParams currentRow otherRow up,
      window.FocusesOverlap otherRow up cell ↔
        window.FindsOverlap otherPrograms cell := by
  intro cell member
  have unset := GuideWindow.nextFocusId_getProgramRow built up
  obtain ⟨before, beforeMember, program⟩ :=
    program_of_mem_setFocusParams member
  have within :
      ∀ start ∈ cell.program.startDate,
        start ≤ window.mCurrentGuideEnd.date := by
    rw [program]
    exact GuideWindow.start_le_end_getProgramRow built before beforeMember
  rw [focusesOverlap_iff_choosesOverlap unset member]
  by_cases listed : otherPrograms = []
  · subst listed
    rw [← GuideWindow.placeholders_of_getProgramRow otherBuilt,
      GuideWindow.choosesOverlap_placeholders_iff
        window.minutesBetween_window]
    exact (GuideWindow.findsOverlap_nil_iff window cell).symm
  · rw [← GuideWindow.cells_of_getProgramRow listed otherBuilt]
    cases starts : cell.program.startDate with
    | none =>
        apply iff_of_false (GuideWindow.not_choosesOverlap_of_none starts)
        simp [GuideWindow.FindsOverlap, starts]
    | some start =>
        apply
          (GuideWindow.choosesOverlap_finish_iff otherTimed starts
            (within start starts)).trans
        simp [GuideWindow.FindsOverlap, listed, starts]

namespace GuideWindow

def newsPrograms : List (ListedProgram String) :=
  [.ofDates (some 3600000) (some 7200000)]

def newsRow : List (ProgramGridCell String) :=
  (eveningWindow.getProgramRow noFilters newsPrograms "two" 4).getD []

theorem news_focuses_overlap :
    eveningWindow.getProgramRow noFilters newsPrograms "two" 4 =
        some newsRow ∧
      ∀ cell ∈ setFocusParams newsRow eveningRow true,
        eveningWindow.FocusesOverlap eveningRow true cell ↔
          eveningWindow.FindsOverlap eveningPrograms cell :=
  ⟨rfl,
    focus_overlaps_iff eveningWindow noFilters newsPrograms
      eveningPrograms "two" "one" 4 0 newsRow eveningRow true (by decide)
      rfl rfl⟩

/-- Without programs in the row above, the focus moves up from the news at
one o'clock to the first half hour after midnight. -/
theorem news_loses_focus :
    ∃ otherRow,
      eveningWindow.getProgramRow noFilters [] "one" 0 = some otherRow ∧
        ∃ cell ∈ setFocusParams newsRow otherRow true,
          ¬eveningWindow.FocusesOverlap otherRow true cell := by
  have built :
      eveningWindow.getProgramRow noFilters newsPrograms "two" 4 =
        some newsRow :=
    rfl
  have unset := nextFocusId_getProgramRow built true
  have news :
      ∃ cell ∈ newsRow, cell.program.startDate = some 3600000 ∧
        cell.program.endDate = some 7200000 := by
    decide
  obtain ⟨cell, cellMember, starts, _⟩ := news
  refine ⟨_, rfl, ?_⟩
  obtain ⟨after, member, program⟩ := exists_setFocusParams cellMember
  refine ⟨after, member, ?_⟩
  rw [focusesOverlap_iff_choosesOverlap unset member,
    choosesOverlap_placeholders_iff eveningWindow.minutesBetween_window,
    program, starts]
  decide

end GuideWindow

end JellyfinTv.LiveTv
