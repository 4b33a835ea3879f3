import JellyfinTv.LiveTv.GuideRows
import Mathlib.Data.List.Find

/-!
# Focus between two rows

The cell that gets the focus is chosen by the dates of the programs, as the
first cell of the other row that ends behind the start.  In a row of programs
these dates are the ones at which the cells are laid out.  The placeholders
of a row without programs end behind the window, so the first of them is
chosen whatever the start is.
-/

namespace JellyfinTv.LiveTv

open JellyfinTv.Library

variable {UUID : Type}

namespace GuideWindow

/-- The cell at this edge is drawn over the time. -/
def Covers (window : GuideWindow) (cell : ProgramGridCell UUID)
    (left : Int) (time : LocalDateTime) : Prop :=
  left ≤ window.offset time ∧ window.offset time < left + cell.width

/-- The focus moves from the cell to the one that is drawn over its start in
the window. -/
def FocusesOverlap (window : GuideWindow)
    (otherRow : List (ProgramGridCell UUID)) (up : Bool)
    (cell : ProgramGridCell UUID) : Prop :=
  ∃ other left, (other, left) ∈ edges otherRow ∧
    window.Covers other left (window.shownFrom cell) ∧
    cell.nextFocusId up = some other.id

/-- The cell that is chosen is drawn over the start in the window. -/
def ChoosesOverlap (window : GuideWindow)
    (otherRow : List (ProgramGridCell UUID))
    (cell : ProgramGridCell UUID) : Prop :=
  ∃ other left, (other, left) ∈ edges otherRow ∧
    window.Covers other left (window.shownFrom cell) ∧
    (getOtherCell otherRow cell).map ProgramGridCell.id = some other.id

variable {window : GuideWindow}

theorem offset_mono {first second : LocalDateTime}
    (le : first ≤ second) : window.offset first ≤ window.offset second := by
  apply Int.mul_le_mul_of_nonneg_right _ (le_of_lt window.visible)
  apply Int.tdiv_le_tdiv (by decide)
  exact Int.sub_le_sub_right le _

/-- A whole minute behind a time of the window lies further to the right. -/
theorem offset_lt {first second : LocalDateTime}
    (inWindow : window.mCurrentGuideStart.date ≤ first)
    (whole : second.WholeMinute) (lt : first < second) :
    window.offset first < window.offset second := by
  obtain ⟨startMinutes, start⟩ := window.wholeMinute
  obtain ⟨minutes, rfl⟩ := whole
  have ahead : 0 ≤ first - LocalDateTime.minuteMillis * startMinutes := by
    rw [← start]
    exact Int.sub_nonneg.mpr inWindow
  have near :
      first - LocalDateTime.minuteMillis * startMinutes <
        (minutes - startMinutes) * LocalDateTime.minuteMillis := by
    rw [sub_mul, mul_comm minutes, mul_comm startMinutes]
    exact Int.sub_lt_sub_right lt _
  apply Int.mul_lt_mul_of_pos_right _ window.visible
  rw [start, LocalDateTime.minutesBetween_mul,
    LocalDateTime.minutesBetween, Int.tdiv_eq_ediv_of_nonneg ahead]
  exact Int.ediv_lt_of_lt_mul (by decide) near

theorem clamp_mem (window : GuideWindow) (date : LocalDateTime) :
    window.mCurrentGuideStart.date ≤ window.clamp date ∧
      window.clamp date ≤ window.mCurrentGuideEnd.date := by
  constructor
  · exact le_max_left _ _
  · exact max_le (le_of_lt window.start_lt_end) (min_le_right _ _)

theorem clamp_lt_end {date : LocalDateTime}
    (before : date < window.mCurrentGuideEnd.date) :
    window.clamp date < window.mCurrentGuideEnd.date := by
  rw [clamp, min_eq_left (le_of_lt before)]
  exact max_lt window.start_lt_end before

/-- Behind the start of the window, clamping to the window keeps the order of
a start in it and an end. -/
theorem clamp_lt_clamp_iff {start «end» : LocalDateTime}
    (starts : start < window.mCurrentGuideEnd.date)
    (ends : window.mCurrentGuideStart.date < «end») :
    window.clamp start < window.clamp «end» ↔ start < «end» := by
  have startOfWindow := window.start_lt_end
  unfold clamp
  constructor
  · intro lt
    by_contra late
    have ordered : min «end» window.mCurrentGuideEnd.date ≤
        min start window.mCurrentGuideEnd.date :=
      min_le_min_right _ (not_lt.mp late)
    exact absurd lt (not_lt_of_ge (max_le_max_left _ ordered))
  · intro lt
    rw [min_eq_left (le_of_lt starts)]
    apply lt_max_of_lt_right
    apply lt_min
    · exact max_lt ends lt
    · exact max_lt startOfWindow starts

/-- One of the listed programs, or one that stands for no program. -/
def ShownBy (channelId : UUID) (programs : List (ListedProgram UUID))
    (program : Program UUID) : Prop :=
  (∃ item ∈ programs, program = item.program) ∨
    ∃ start «end»,
      program = createNoProgramDataBaseItem (some channelId) start «end»

section Built

variable {channelId : UUID} {programs : List (ListedProgram UUID)}
  {currentCellId : Nat} {property : ProgramGridCell UUID → Prop}
  (created :
    ∀ program, ShownBy channelId programs program →
      ∀ id width first last,
        property (window.newCell program id width first last))
include created

theorem forall_fillEmptySlot {slotEnd : DateReference} {first : Bool}
    {row : ProgramRow UUID} (held : ∀ cell ∈ row.cells, property cell) :
    ∀ cell ∈ (window.fillEmptySlot channelId slotEnd first row).cells,
      property cell := by
  have filler :
      property
        (window.newCell
          (createNoProgramDataBaseItem (some channelId) row.prevEnd.date
            slotEnd.date)
          row.currentCellId
          (window.pixels row.prevEnd.date slotEnd.date) first false) :=
    created _ (Or.inr ⟨_, _, rfl⟩) _ _ _ _
  exact
    List.forall_mem_append.mpr ⟨held, List.forall_mem_singleton.mpr filler⟩

theorem forall_addProgram {item : ListedProgram UUID}
    {row : ProgramRow UUID} (member : item ∈ programs)
    (held : ∀ cell ∈ row.cells, property cell) :
    ∀ cell ∈ (window.addProgram item row).cells, property cell := by
  simp only [addProgram]
  split
  · have added := created item.program (Or.inl ⟨item, member, rfl⟩)
    exact
      List.forall_mem_append.mpr
        ⟨held, List.forall_mem_singleton.mpr (added _ _ _ _)⟩
  · exact held

theorem forall_placeProgram {item : ListedProgram UUID}
    {row : ProgramRow UUID} (member : item ∈ programs)
    (held : ∀ cell ∈ row.cells, property cell) :
    ∀ cell ∈ (window.placeProgram channelId row item).cells,
      property cell := by
  simp only [placeProgram]
  split_ifs
  · exact held
  · exact
      forall_addProgram created member (forall_fillEmptySlot created held)
  · exact forall_addProgram created member held

theorem forall_placeholders {minutes : Int} {slot : Nat} :
    ∀ cell ∈ window.placeholders channelId minutes slot currentCellId,
      property cell := by
  fun_induction window.placeholders channelId minutes slot currentCellId with
  | case1 slot currentCellId empty first more inductionHypothesis =>
      have filler := created empty (Or.inr ⟨_, _, rfl⟩)
      exact
        List.forall_mem_cons.mpr
          ⟨filler _ _ _ _, inductionHypothesis⟩
  | case2 slot currentCellId empty first last =>
      have filler := created empty (Or.inr ⟨_, _, rfl⟩)
      exact List.forall_mem_singleton.mpr (filler _ _ _ _)

/-- What holds of every new cell holds of all cells of a row. -/
theorem forall_getProgramRow {filters : GuideFilters}
    {cells : List (ProgramGridCell UUID)}
    (built :
      window.getProgramRow filters programs channelId currentCellId =
        some cells) :
    ∀ cell ∈ cells, property cell := by
  unfold getProgramRow at built
  split_ifs at built
  · cases built
    exact forall_placeholders created
  · have preserved :
        ∀ (row : ProgramRow UUID) (item : ListedProgram UUID),
          (∀ cell ∈ row.cells, property cell) → item ∈ programs →
            ∀ cell ∈ (window.placeProgram channelId row item).cells,
              property cell :=
      fun row item held member => forall_placeProgram created member held
    have initial :
        ∀ cell ∈ (window.emptyRow currentCellId : ProgramRow UUID).cells,
          property cell := by
      intro cell member
      cases member
    have admitted :
        Admitted (window.placeProgram channelId)
          (fun _ item => item ∈ programs) (window.emptyRow currentCellId)
          programs :=
      admitted_of_forall fun _ member => member
    have held := run_invariant preserved initial admitted
    cases built
    unfold fillRest
    split
    · exact forall_fillEmptySlot created held
    · exact held

end Built

section Rows

variable {channelId : UUID} {programs : List (ListedProgram UUID)}
  {currentCellId : Nat} {filters : GuideFilters}
  {cells : List (ProgramGridCell UUID)}

/-- No focus is set before `setFocusParams`. -/
theorem nextFocusId_getProgramRow
    (built :
      window.getProgramRow filters programs channelId currentCellId =
        some cells)
    (up : Bool) : ∀ cell ∈ cells, cell.nextFocusId up = none := by
  have created :
      ∀ program, ShownBy channelId programs program →
        ∀ id width first last,
          (window.newCell program id width first last).nextFocusId up =
            none := by
    intro program _ id width first last
    cases up <;> rfl
  exact forall_getProgramRow created built

/-- All programs of a row end if the listed ones do. -/
theorem endDate_getProgramRow
    (ended : ∀ item ∈ programs, item.program.endDate ≠ none)
    (built :
      window.getProgramRow filters programs channelId currentCellId =
        some cells) :
    ∀ cell ∈ cells, cell.program.endDate ≠ none := by
  have created :
      ∀ program, ShownBy channelId programs program →
        ∀ id width first last,
          (window.newCell program id width first last).program.endDate ≠
            none := by
    rintro program shown id width first last
    obtain ⟨item, member, rfl⟩ | ⟨start, «end», rfl⟩ := shown
    · exact ended item member
    · exact Option.some_ne_none «end»
  exact forall_getProgramRow created built

end Rows

section Programs

variable {row : ProgramRow UUID} {cell : ProgramGridCell UUID}

/-- In the cells of a row of programs the dates are those of the layout. -/
theorem ends_behind_iff {other : ProgramGridCell UUID}
    {start «end» : LocalDateTime}
    (starts : start < window.mCurrentGuideEnd.date)
    (positive : window.shownFrom other < window.shownUntil other)
    (ends : other.program.endDate = some «end») :
    window.clamp start < window.shownUntil other ↔ start < «end» := by
  have inWindow := (window.clamp_mem
    (other.program.startDate.getD window.mCurrentGuideStart.date)).1
  have behind : window.mCurrentGuideStart.date < window.clamp «end» := by
    rw [shownUntil, ends] at positive
    exact lt_of_le_of_lt inWindow positive
  have later : window.mCurrentGuideStart.date < «end» := by
    by_contra early
    have clamped : window.clamp «end» = window.mCurrentGuideStart.date := by
      rw [clamp]
      exact max_eq_left (le_trans (min_le_left _ _) (not_lt.mp early))
    exact absurd behind (not_lt_of_ge (le_of_eq clamped))
  rw [shownUntil, ends]
  exact clamp_lt_clamp_iff starts later

/-- The cell that is chosen in a row of programs is the one whose clamped
dates contain the start. -/
theorem getOtherCell_of_tiled (tiled : window.Tiled row)
    (complete : row.prevEnd = window.mCurrentGuideEnd)
    (ended : ∀ other ∈ row.cells, other.program.endDate ≠ none)
    {start : LocalDateTime} (starts : cell.program.startDate = some start)
    (before : start < window.mCurrentGuideEnd.date) :
    ∃ other ∈ row.cells,
      getOtherCell row.cells cell = some other ∧
        window.shownFrom other ≤ window.clamp start ∧
        window.clamp start < window.shownUntil other := by
  have tiles := tiled.tiles
  rw [complete] at tiles
  obtain ⟨other, member, found, contains⟩ :=
    tiles.find? (window.clamp_mem start).1 (clamp_lt_end before)
  have same :
      getOtherCell row.cells cell =
        row.cells.find? fun other =>
          window.clamp start < window.shownUntil other := by
    apply List.find?_congr
    intro other member
    obtain ⟨«end», ends⟩ := Option.ne_none_iff_exists'.mp (ended other member)
    have positive := tiles.positive other member
    simp only [starts, ends]
    exact
      decide_eq_decide.mpr (ends_behind_iff before positive ends).symm
  exact ⟨other, member, same.trans found, contains⟩

/-- The right edge of a cell lies at its end in the window. -/
theorem right_of_tiled (tiled : window.Tiled row)
    (complete : row.prevEnd = window.mCurrentGuideEnd)
    {other : ProgramGridCell UUID} {left : Int}
    (placed : (other, left) ∈ edges row.cells) :
    left + other.width = window.offset (window.shownUntil other) := by
  have edge := (tiled.tilesWindow complete).placed other left placed
  rw [edge, tiled.sized other (mem_of_laidOut _ placed)]
  omega

/-- A cell is drawn over every time between its clamped dates. -/
theorem covers_of_tiled (tiled : window.Tiled row)
    (complete : row.prevEnd = window.mCurrentGuideEnd)
    {other : ProgramGridCell UUID} (member : other ∈ row.cells)
    {time : LocalDateTime}
    (inWindow : window.mCurrentGuideStart.date ≤ time)
    (begun : window.shownFrom other ≤ time)
    (ends : time < window.shownUntil other) :
    ∃ left, (other, left) ∈ edges row.cells ∧
      window.Covers other left time := by
  obtain ⟨left, placed⟩ :=
    exists_laidOut ProgramGridCell.width member 0
  refine ⟨left, placed, ?_, ?_⟩
  · rw [(tiled.tilesWindow complete).placed other left placed]
    exact offset_mono begun
  · rw [right_of_tiled tiled complete placed]
    exact offset_lt inWindow (tiled.wholeCells other member) ends

/-- No cell of a row of programs is drawn over the end of the window. -/
theorem not_covers_end_of_tiled (tiled : window.Tiled row)
    (complete : row.prevEnd = window.mCurrentGuideEnd)
    {other : ProgramGridCell UUID} {left : Int}
    (placed : (other, left) ∈ edges row.cells) :
    ¬window.Covers other left window.mCurrentGuideEnd.date := by
  rintro ⟨_, inside⟩
  have within :
      window.offset (window.shownUntil other) ≤
        window.offset window.mCurrentGuideEnd.date :=
    offset_mono (window.clamp_mem _).2
  rw [right_of_tiled tiled complete placed] at inside
  exact absurd inside (not_lt_of_ge within)

end Programs

section Placeholders

variable {channelId : UUID} {minutes : Int} {slot currentCellId : Nat}
  {cell : ProgramGridCell UUID}

theorem id_placeholders {other : ProgramGridCell UUID}
    (member :
      other ∈ window.placeholders channelId minutes slot currentCellId) :
    currentCellId ≤ other.id := by
  fun_induction window.placeholders channelId minutes slot currentCellId with
  | case1 slot currentCellId empty first more inductionHypothesis =>
      rcases List.mem_cons.mp member with same | later
      · rw [same]
        exact le_refl currentCellId
      · exact le_of_lt (inductionHypothesis later)
  | case2 slot currentCellId empty first last =>
      rw [List.mem_singleton.mp member]
      exact le_refl currentCellId

/-- The first placeholder and the ones with greater ids behind it. -/
theorem placeholders_eq_cons (length : minutes = window.hours * 60) :
    ∃ first rest,
      window.placeholders channelId minutes 0 currentCellId =
          first :: rest ∧
        first.id = currentCellId ∧
        first.width = 30 * window.guideRowWidthPerMinPx ∧
        first.program.endDate =
          some (window.mCurrentGuideEnd.date.plusMinutes 30) ∧
        ∀ other ∈ rest, first.id < other.id := by
  have positive := window.positive
  have more : 30 * (((0 : Nat) : Int) + 1) < minutes := by
    omega
  rw [placeholders, if_pos more]
  refine ⟨_, _, rfl, rfl, rfl, rfl, ?_⟩
  intro other member
  exact id_placeholders member

/-- The first placeholder is chosen from every start in the window. -/
theorem getOtherCell_placeholders {first : ProgramGridCell UUID}
    {rest : List (ProgramGridCell UUID)}
    (ends :
      first.program.endDate =
        some (window.mCurrentGuideEnd.date.plusMinutes 30))
    {start : LocalDateTime} (starts : cell.program.startDate = some start)
    (before : start < window.mCurrentGuideEnd.date) :
    getOtherCell (first :: rest) cell = some first := by
  have later :
      window.mCurrentGuideEnd.date <
        window.mCurrentGuideEnd.date.plusMinutes 30 :=
    Int.lt_add_of_pos_right _ (by decide)
  apply List.find?_cons_of_pos
  simp only [ends, starts, decide_eq_true_eq]
  exact lt_trans before later

/-- No placeholder is drawn over the end of the window. -/
theorem not_covers_end_of_placeholders
    (length : minutes = window.hours * 60)
    {other : ProgramGridCell UUID} {left : Int}
    (placed :
      (other, left) ∈
        edges (window.placeholders channelId minutes 0 currentCellId)) :
    ¬window.Covers other left window.mCurrentGuideEnd.date := by
  rintro ⟨_, inside⟩
  have positive := window.positive
  have first : ((0 : Nat) : Int) < window.hours * 2 := by
    omega
  obtain ⟨slot, slotInside, starts, width⟩ :=
    exists_slot length first (mem_of_laidOut _ placed)
  have edge :=
    (placeholders_tilesWindow length).placed other left placed
  have next : ((slot + 1 : Nat) : Int) ≤ window.hours * 2 := by
    omega
  have right :
      left + other.width = window.offset (window.slotStart (slot + 1)) := by
    rw [edge, width, shownFrom_slot starts slotInside, offset_slotStart,
      offset_slotStart]
    push_cast
    ring
  have within :
      window.offset (window.slotStart (slot + 1)) ≤
        window.offset window.mCurrentGuideEnd.date :=
    offset_mono (slotStart_mem next).2
  rw [right] at inside
  exact absurd inside (not_lt_of_ge within)

/-- Of the placeholders only the first one has its id. -/
theorem covers_first_iff {first : ProgramGridCell UUID}
    {rest : List (ProgramGridCell UUID)}
    (width : first.width = 30 * window.guideRowWidthPerMinPx)
    (later : ∀ other ∈ rest, first.id < other.id)
    {time : LocalDateTime}
    (inWindow : window.mCurrentGuideStart.date ≤ time) :
    (∃ other left, (other, left) ∈ edges (first :: rest) ∧
        window.Covers other left time ∧ first.id = other.id) ↔
      time < window.slotStart 1 := by
  have firstEdge : (first, 0) ∈ edges (first :: rest) :=
    List.mem_cons_self
  have right :
      0 + first.width = window.offset (window.slotStart 1) := by
    rw [offset_slotStart, width]
    push_cast
    ring
  have ahead : 0 ≤ window.offset time := by
    rw [← window.offset_start]
    exact offset_mono inWindow
  constructor
  · rintro ⟨other, left, placed, ⟨_, inside⟩, sameId⟩
    rcases List.mem_cons.mp placed with same | behind
    · cases same
      rw [right] at inside
      by_contra late
      exact absurd inside (not_lt_of_ge (offset_mono (not_lt.mp late)))
    · have greater := later other (mem_of_laidOut _ behind)
      omega
  · intro early
    refine ⟨first, 0, firstEdge, ⟨ahead, ?_⟩, rfl⟩
    rw [right]
    exact offset_lt inWindow (wholeMinute_slotStart 1) early

end Placeholders

/-! ## The chosen cells -/

section Chosen

variable {cell : ProgramGridCell UUID}
  {otherRow : List (ProgramGridCell UUID)}

theorem not_choosesOverlap_of_none
    (starts : cell.program.startDate = none) :
    ¬window.ChoosesOverlap otherRow cell := by
  rintro ⟨other, left, _, _, chosen⟩
  have unchosen : getOtherCell otherRow cell = none := by
    apply List.find?_eq_none.mpr
    intro other _
    cases ends : other.program.endDate <;> simp [starts]
  rw [unchosen] at chosen
  cases chosen

/-- From behind the window no cell is found. -/
theorem not_choosesOverlap_of_late {start : LocalDateTime}
    (starts : cell.program.startDate = some start)
    (late : window.mCurrentGuideEnd.date ≤ start)
    (uncovered :
      ∀ other left, (other, left) ∈ edges otherRow →
        ¬window.Covers other left window.mCurrentGuideEnd.date) :
    ¬window.ChoosesOverlap otherRow cell := by
  rintro ⟨other, left, placed, covers, _⟩
  have shown : window.shownFrom cell = window.mCurrentGuideEnd.date := by
    rw [shownFrom, starts, clamp]
    change
      max window.mCurrentGuideStart.date
          (min start window.mCurrentGuideEnd.date) =
        window.mCurrentGuideEnd.date
    rw [min_eq_right late, max_eq_right (le_of_lt window.start_lt_end)]
  rw [shown] at covers
  exact uncovered other left placed covers

theorem choosesOverlap_tiled_iff {row : ProgramRow UUID}
    (tiled : window.Tiled row)
    (complete : row.prevEnd = window.mCurrentGuideEnd)
    (ended : ∀ other ∈ row.cells, other.program.endDate ≠ none) :
    window.ChoosesOverlap row.cells cell ↔
      ∃ start ∈ cell.program.startDate,
        start < window.mCurrentGuideEnd.date := by
  constructor
  · intro chooses
    cases starts : cell.program.startDate with
    | none =>
        exact absurd chooses (not_choosesOverlap_of_none starts)
    | some start =>
        refine ⟨start, rfl, ?_⟩
        by_contra late
        apply not_choosesOverlap_of_late starts (not_lt.mp late) _ chooses
        intro other left placed
        exact not_covers_end_of_tiled tiled complete placed
  · rintro ⟨start, starts, before⟩
    obtain ⟨other, member, chosen, begun, inside⟩ :=
      getOtherCell_of_tiled tiled complete ended starts before
    obtain ⟨left, placed, covers⟩ :=
      covers_of_tiled tiled complete member (window.clamp_mem start).1
        begun inside
    have shown : window.shownFrom cell = window.clamp start := by
      rw [shownFrom, starts]
      rfl
    rw [← shown] at covers
    exact
      ⟨other, left, placed, covers, congrArg (Option.map _) chosen⟩

theorem choosesOverlap_placeholders_iff {channelId : UUID} {minutes : Int}
    {currentCellId : Nat} (length : minutes = window.hours * 60) :
    window.ChoosesOverlap
        (window.placeholders channelId minutes 0 currentCellId) cell ↔
      ∃ start ∈ cell.program.startDate,
        start < window.mCurrentGuideEnd.date ∧
          start < window.slotStart 1 := by
  have uncovered :
      ∀ other left,
        (other, left) ∈
            edges
              (window.placeholders channelId minutes 0 currentCellId) →
          ¬window.Covers other left window.mCurrentGuideEnd.date :=
    fun other left placed => not_covers_end_of_placeholders length placed
  obtain ⟨first, rest, shape, _, width, ends, later⟩ :
      ∃ first rest,
        window.placeholders channelId minutes 0 currentCellId =
            first :: rest ∧ _ :=
    placeholders_eq_cons length
  rw [shape] at uncovered ⊢
  cases starts : cell.program.startDate with
  | none =>
      have none : ¬window.ChoosesOverlap (first :: rest) cell :=
        not_choosesOverlap_of_none starts
      simp [none]
  | some start =>
      by_cases before : start < window.mCurrentGuideEnd.date
      · have chosen :
            getOtherCell (first :: rest) cell = some first :=
          getOtherCell_placeholders ends starts before
        have shown : window.shownFrom cell = window.clamp start := by
          rw [shownFrom, starts]
          rfl
        have begun :
            window.mCurrentGuideStart.date < window.slotStart 1 :=
          Int.lt_add_of_pos_right _ (by decide)
        have early :
            window.clamp start < window.slotStart 1 ↔
              start < window.slotStart 1 := by
          rw [clamp, min_eq_left (le_of_lt before), max_lt_iff]
          exact and_iff_right begun
        rw [ChoosesOverlap, chosen, shown]
        simp only [Option.map_some, Option.some.injEq]
        rw [covers_first_iff width later (window.clamp_mem start).1, early]
        simp [before]
      · have late : ¬window.ChoosesOverlap (first :: rest) cell :=
          not_choosesOverlap_of_late starts (not_lt.mp before) uncovered
        simp [late, before]

end Chosen

end GuideWindow

section SetFocusParams

variable {currentRow otherRow : List (ProgramGridCell UUID)} {up : Bool}

/-- The focus of a cell is the id of the chosen one, if there is one. -/
theorem nextFocusId_setFocusParams
    (unset : ∀ cell ∈ currentRow, cell.nextFocusId up = none)
    {cell : ProgramGridCell UUID}
    (member : cell ∈ setFocusParams currentRow otherRow up) :
    cell.nextFocusId up =
      (getOtherCell otherRow cell).map ProgramGridCell.id := by
  obtain ⟨before, beforeMember, rfl⟩ := List.mem_map.mp member
  cases chosen : getOtherCell otherRow before with
  | none =>
      rw [unset before beforeMember, chosen]
      rfl
  | some other =>
      have same :
          getOtherCell otherRow (before.setNextFocusId up other.id) =
            getOtherCell otherRow before := by
        cases up <;> rfl
      rw [same, chosen]
      cases up <;> rfl

theorem exists_setFocusParams {cell : ProgramGridCell UUID}
    (member : cell ∈ currentRow) :
    ∃ after ∈ setFocusParams currentRow otherRow up,
      after.program = cell.program := by
  refine ⟨_, List.mem_map_of_mem member, ?_⟩
  cases getOtherCell otherRow cell with
  | none =>
      rfl
  | some other =>
      cases up <;> rfl

theorem program_of_mem_setFocusParams {cell : ProgramGridCell UUID}
    (member : cell ∈ setFocusParams currentRow otherRow up) :
    ∃ before ∈ currentRow, cell.program = before.program := by
  obtain ⟨before, beforeMember, rfl⟩ := List.mem_map.mp member
  refine ⟨before, beforeMember, ?_⟩
  cases getOtherCell otherRow before with
  | none =>
      rfl
  | some other =>
      cases up <;> rfl

theorem focusesOverlap_iff_choosesOverlap {window : GuideWindow}
    (unset : ∀ cell ∈ currentRow, cell.nextFocusId up = none)
    {cell : ProgramGridCell UUID}
    (member : cell ∈ setFocusParams currentRow otherRow up) :
    window.FocusesOverlap otherRow up cell ↔
      window.ChoosesOverlap otherRow cell := by
  rw [GuideWindow.FocusesOverlap, nextFocusId_setFocusParams unset member]
  rfl

end SetFocusParams

/-- Next to a row whose programs are on in the window and have an end, the
focus moves to the cell drawn over the start from every cell that starts in
the window. -/
theorem focus_overlaps_beside_window_iff (window : GuideWindow)
    (filters : GuideFilters)
    (programs otherPrograms : List (ListedProgram UUID))
    (channelId otherChannelId : UUID) (firstId otherFirstId : Nat)
    (currentRow otherRow : List (ProgramGridCell UUID)) (up : Bool)
    (otherListed : otherPrograms ≠ [])
    (otherTimed : ∀ item ∈ otherPrograms, item.WellTimed)
    (otherOnWindow : ∀ item ∈ otherPrograms, item.OfWindow window)
    (otherEnded :
      ∀ item ∈ otherPrograms, item.program.endDate ≠ none)
    (built :
      window.getProgramRow filters programs channelId firstId =
        some currentRow)
    (otherBuilt :
      window.getProgramRow filters otherPrograms otherChannelId
          otherFirstId =
        some otherRow) :
    ∀ cell ∈ setFocusParams currentRow otherRow up,
      window.FocusesOverlap otherRow up cell ↔
        ∃ start ∈ cell.program.startDate,
          start < window.mCurrentGuideEnd.date := by
  intro cell member
  have unset := GuideWindow.nextFocusId_getProgramRow built up
  have ended := GuideWindow.endDate_getProgramRow otherEnded otherBuilt
  obtain ⟨row, rfl, complete, tiled⟩ :=
    GuideWindow.getProgramRow_tiled otherListed otherTimed otherOnWindow
      otherBuilt
  rw [focusesOverlap_iff_choosesOverlap unset member,
    GuideWindow.choosesOverlap_tiled_iff tiled complete ended]

end JellyfinTv.LiveTv
