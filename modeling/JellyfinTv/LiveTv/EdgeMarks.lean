import JellyfinTv.LiveTv.GuideRows

/-!
# The marks of the edge cells

Paging from the keys depends on the marks of the first and the last cell of a
row.  The loop sets them where a date is the object of the window itself, so
a program that begins or ends exactly with the window is not marked, nor is
the cell behind the last program.  The marks of a row are the sequence
`marksFrom`, which depends on the cursor alone.
-/

namespace JellyfinTv.LiveTv

open JellyfinTv.Library

variable {UUID : Type}

/-- The first mark and only it is set. -/
def Opens (marks : List Bool) : Prop :=
  ∃ others, marks = true :: others ∧ true ∉ others

/-- The last mark and only it is set. -/
def Closes (marks : List Bool) : Prop :=
  ∃ others, marks = others ++ [true] ∧ true ∉ others

/-- The leftmost cell and only it is marked as the first one, the rightmost
cell and only it as the last one. -/
structure MarksEdges (cells : List (ProgramGridCell UUID)) : Prop where
  first : Opens (cells.map ProgramGridCell.isFirst)
  last : Closes (cells.map ProgramGridCell.isLast)

/-- The dates of the program are other objects than those of the window. -/
structure ListedProgram.OwnDates (window : GuideWindow)
    (item : ListedProgram UUID) : Prop where
  startNotStart : item.startObject ≠ window.mCurrentGuideStart.object
  startNotEnd : item.startObject ≠ window.mCurrentGuideEnd.object
  endNotStart : item.endObject ≠ window.mCurrentGuideStart.object
  endNotEnd : item.endObject ≠ window.mCurrentGuideEnd.object

namespace GuideWindow

/-- The program ends by the start of the window. -/
def EndsBy (window : GuideWindow) (item : ListedProgram UUID) : Prop :=
  ∃ «end» ∈ item.program.endDate, «end» ≤ window.mCurrentGuideStart.date

/-- The program starts before the window, or at an unknown time. -/
def CutAtStart (window : GuideWindow) (item : ListedProgram UUID) : Prop :=
  ∀ start ∈ item.program.startDate, start < window.mCurrentGuideStart.date

def StartsInside (window : GuideWindow) (item : ListedProgram UUID) :
    Prop :=
  ∀ start ∈ item.program.startDate, window.mCurrentGuideStart.date < start

/-- The program ends behind the window, or at an unknown time. -/
def CutAtEnd (window : GuideWindow) (item : ListedProgram UUID) : Prop :=
  ∀ «end» ∈ item.program.endDate, window.mCurrentGuideEnd.date < «end»

def StartsBeforeEnd (window : GuideWindow) (item : ListedProgram UUID) :
    Prop :=
  ∀ start ∈ item.program.startDate, start < window.mCurrentGuideEnd.date

def StartsByEnd (window : GuideWindow) (item : ListedProgram UUID) : Prop :=
  ∀ start ∈ item.program.startDate, start ≤ window.mCurrentGuideEnd.date

/-- Behind programs that end exactly with the start of the window, the next
one is cut at it. -/
def OpensCut (window : GuideWindow) : List (ListedProgram UUID) → Prop
  | [] => False
  | item :: rest =>
      (window.EndsBy item →
        item.program.endDate = some window.mCurrentGuideStart.date ∧
          OpensCut window rest) ∧
      (¬window.EndsBy item → window.CutAtStart item)

/-- The leftmost cell of the row is marked. -/
def OpensMarked (window : GuideWindow) :
    List (ListedProgram UUID) → Prop
  | [] => False
  | item :: rest =>
      (window.EndsBy item →
        item.program.endDate = some window.mCurrentGuideStart.date ∧
          window.OpensCut rest) ∧
      (¬window.EndsBy item →
        window.CutAtStart item ∨ window.StartsInside item)

/-- The programs that do not start before the end of the one shown before
them. -/
def shown (window : GuideWindow) :
    LocalDateTime → List (ListedProgram UUID) →
      List (ListedProgram UUID)
  | _, [] => []
  | cursor, item :: rest =>
      if (window.start item).date < cursor then
        shown window cursor rest
      else
        item :: shown window (window.end item).date rest

/-- A shown program is cut at the end of the window, and none starts behind
the window. -/
def ClosesMarked (window : GuideWindow) (cursor : LocalDateTime)
    (programs : List (ListedProgram UUID)) : Prop :=
  (∀ item ∈ programs, window.StartsByEnd item) ∧
    ∃ item ∈ window.shown cursor programs,
      window.StartsBeforeEnd item ∧ window.CutAtEnd item

/-- The marks behind the cursor, from the marks of the cells that fill a gap
and of the cells of programs; the last cell is never marked. -/
def marksFrom (window : GuideWindow) (gapMark : DateReference → Bool)
    (programMark : ListedProgram UUID → Bool) :
    DateReference → List (ListedProgram UUID) → List Bool
  | cursor, [] =>
      if cursor.date < window.mCurrentGuideEnd.date then [false] else []
  | cursor, item :: rest =>
      let start := window.start item
      let «end» := window.end item
      if start.date < cursor.date then
        marksFrom window gapMark programMark cursor rest
      else
        (if cursor.date < start.date then [gapMark cursor] else []) ++
          (if start.date < «end».date then [programMark item] else []) ++
          marksFrom window gapMark programMark «end» rest

variable {window : GuideWindow} {gapMark : DateReference → Bool}
  {programMark : ListedProgram UUID → Bool}

section Marks

variable {mark : ProgramGridCell UUID → Bool} {channelId : UUID}
  (gap :
    ∀ program id width cursor,
      mark (window.newCell program id width
          (cursor.same window.mCurrentGuideStart) false) =
        gapMark cursor)
  (program :
    ∀ item id width,
      mark (window.newCell item.program id width
          ((window.start item).same window.mCurrentGuideStart)
          ((window.end item).same window.mCurrentGuideEnd)) =
        programMark item)
include gap program

/-- The marks that one program adds. -/
theorem map_placeProgram {item : ListedProgram UUID}
    (timed : item.WellTimed) (row : ProgramRow UUID)
    (reached :
      ¬(window.start item).date < row.prevEnd.date) :
    (window.placeProgram channelId row item).prevEnd = window.end item ∧
      (window.placeProgram channelId row item).cells.map mark =
        row.cells.map mark ++
          (if row.prevEnd.date < (window.start item).date then
            [gapMark row.prevEnd] else []) ++
          (if (window.start item).date < (window.end item).date then
            [programMark item] else []) := by
  have minutes :
      0 < LocalDateTime.minutesBetween (window.start item).date
          (window.end item).date ↔
        (window.start item).date < (window.end item).date :=
    LocalDateTime.minutesBetween_pos_iff (wholeMinute_start_item timed)
      (wholeMinute_end_item timed)
  by_cases behind : row.prevEnd.date < (window.start item).date
  · by_cases positive : (window.start item).date < (window.end item).date
    · simp [placeProgram, DateReference.isBefore, DateReference.isAfter,
        reached, behind, addProgram, minutes, positive, fillEmptySlot, gap,
        program]
    · simp [placeProgram, DateReference.isBefore, DateReference.isAfter,
        reached, behind, addProgram, minutes, positive, fillEmptySlot, gap]
  · by_cases positive : (window.start item).date < (window.end item).date
    · simp [placeProgram, DateReference.isBefore, DateReference.isAfter,
        reached, behind, addProgram, minutes, positive, program]
    · simp [placeProgram, DateReference.isBefore, DateReference.isAfter,
        reached, behind, addProgram, minutes, positive]

theorem map_fillRest
    (rest :
      ∀ program id width,
        mark (window.newCell program id width false false) = false)
    {programs : List (ListedProgram UUID)}
    (timed : ∀ item ∈ programs, item.WellTimed) (row : ProgramRow UUID) :
    (window.fillRest channelId
        (run (window.placeProgram channelId) row programs)).cells.map mark =
      row.cells.map mark ++
        window.marksFrom gapMark programMark row.prevEnd programs := by
  induction programs generalizing row with
  | nil =>
      by_cases remaining :
          row.prevEnd.date < window.mCurrentGuideEnd.date
      · simp [fillRest, DateReference.isBefore, remaining, fillEmptySlot,
          rest, marksFrom]
      · simp [fillRest, DateReference.isBefore, remaining, marksFrom]
  | cons item items inductionHypothesis =>
      rw [List.forall_mem_cons] at timed
      have later :=
        inductionHypothesis timed.2
          (window.placeProgram channelId row item)
      rw [run_cons, later, marksFrom]
      by_cases skipped : (window.start item).date < row.prevEnd.date
      · have unchanged : window.placeProgram channelId row item = row := by
          simp [placeProgram, DateReference.isBefore, skipped]
        rw [unchanged, if_pos skipped]
      · obtain ⟨prevEnd, marks⟩ :
            (window.placeProgram channelId row item).prevEnd =
              window.end item ∧ _ :=
          map_placeProgram gap program timed.1 row skipped
        rw [prevEnd, marks, if_neg skipped]
        simp only [List.append_assoc]

end Marks

section Dates

variable {item : ListedProgram UUID}

theorem start_of_cutAtStart (cut : window.CutAtStart item) :
    window.start item = window.mCurrentGuideStart := by
  cases starts : item.program.startDate with
  | none =>
      simp [start, ListedProgram.getStartDate, starts]
  | some date =>
      have early := cut date starts
      simp [start, ListedProgram.getStartDate, starts,
        DateReference.isBefore, early]

theorem start_of_not_cutAtStart (uncut : ¬window.CutAtStart item) :
    ∃ date, item.program.startDate = some date ∧
      window.mCurrentGuideStart.date ≤ date ∧
      window.start item = ⟨item.startObject, date⟩ := by
  cases starts : item.program.startDate with
  | none =>
      simp [CutAtStart, starts] at uncut
  | some date =>
      have late : window.mCurrentGuideStart.date ≤ date := by
        simpa [CutAtStart, starts] using uncut
      refine ⟨date, rfl, late, ?_⟩
      simp [start, ListedProgram.getStartDate, starts,
        DateReference.isBefore, late]

theorem start_ge (item : ListedProgram UUID) :
    window.mCurrentGuideStart.date ≤ (window.start item).date := by
  rw [start_date]
  exact le_max_left _ _

theorem end_le (item : ListedProgram UUID) :
    (window.end item).date ≤ window.mCurrentGuideEnd.date := by
  rw [end_date]
  exact min_le_right _ _

theorem end_le_start_iff :
    (window.end item).date ≤ window.mCurrentGuideStart.date ↔
      window.EndsBy item := by
  rw [end_date, EndsBy]
  cases ends : item.program.endDate with
  | none =>
      simp [window.start_lt_end]
  | some date =>
      simp [window.start_lt_end]

theorem end_eq_start_iff :
    (window.end item).date = window.mCurrentGuideStart.date ↔
      item.program.endDate = some window.mCurrentGuideStart.date := by
  have later := window.start_lt_end
  rw [end_date]
  cases ends : item.program.endDate with
  | none =>
      simp [ne_of_gt later]
  | some date =>
      simp only [Option.getD_some, Option.some.injEq]
      rcases le_or_gt date window.mCurrentGuideEnd.date with early | late
      · rw [min_eq_left early]
      · have apart : date ≠ window.mCurrentGuideStart.date :=
          ne_of_gt (lt_trans later late)
        simp [min_eq_right (le_of_lt late), ne_of_gt later, apart]

/-- No program ends with the object of the window's start. -/
theorem end_object (own : item.OwnDates window) :
    (window.end item).object ≠ window.mCurrentGuideStart.object := by
  unfold «end» ListedProgram.getEndDate
  cases item.program.endDate with
  | none =>
      exact window.distinct.symm
  | some date =>
      simp only [Option.map_some]
      split
      · exact window.distinct.symm
      · exact own.endNotStart

theorem end_same_iff (own : item.OwnDates window) :
    (window.end item).same window.mCurrentGuideEnd = true ↔
      window.CutAtEnd item := by
  unfold «end» ListedProgram.getEndDate CutAtEnd
  cases item.program.endDate with
  | none =>
      simp [DateReference.same]
  | some date =>
      by_cases late : window.mCurrentGuideEnd.date < date
      · simp [DateReference.same, DateReference.isAfter, late]
      · simp [DateReference.same, DateReference.isAfter, late,
          own.endNotEnd]

/-- A program that ends by the start of the window has no cell in it. -/
theorem start_of_endsBy (timed : item.WellTimed)
    (early : window.EndsBy item) :
    (window.start item).date = window.mCurrentGuideStart.date := by
  obtain ⟨«end», ends, byStart⟩ := early
  rw [start_date]
  apply max_eq_left
  cases starts : item.program.startDate with
  | none =>
      exact le_refl _
  | some start =>
      exact le_trans (timed.ordered start starts «end» ends) byStart

/-- A program that starts inside the window ends inside it. -/
theorem start_lt_end_of_inside (timed : item.WellTimed)
    (inside :
      window.mCurrentGuideStart.date < (window.start item).date) :
    window.mCurrentGuideStart.date < (window.end item).date := by
  rw [← not_le, end_le_start_iff]
  intro early
  rw [start_of_endsBy timed early] at inside
  exact absurd inside (lt_irrefl _)

end Dates

/-! ## The first mark -/

section First

variable {cursor : DateReference} {programs : List (ListedProgram UUID)}

/-- The marks of the first cell behind the cursor. -/
abbrev firstMarks (window : GuideWindow) :
    DateReference → List (ListedProgram UUID) → List Bool :=
  window.marksFrom
    (fun cursor => cursor.same window.mCurrentGuideStart)
    (fun item => (window.start item).same window.mCurrentGuideStart)

theorem same_eq_false {first second : DateReference}
    (apart : first.object ≠ second.object) :
    first.same second = false :=
  decide_eq_false apart

/-- Inside the window no cell is marked as the first one. -/
theorem firstMarks_of_inside
    (timed : ∀ item ∈ programs, item.WellTimed)
    (own : ∀ item ∈ programs, item.OwnDates window)
    (inside : window.mCurrentGuideStart.date < cursor.date)
    (other : cursor.object ≠ window.mCurrentGuideStart.object) :
    true ∉ window.firstMarks cursor programs := by
  induction programs generalizing cursor with
  | nil =>
      rw [firstMarks, marksFrom]
      split <;> simp
  | cons item rest inductionHypothesis =>
      rw [List.forall_mem_cons] at timed own
      rw [firstMarks, marksFrom]
      by_cases skipped : (window.start item).date < cursor.date
      · rw [if_pos skipped]
        exact inductionHypothesis timed.2 own.2 inside other
      · have startInside :
            window.mCurrentGuideStart.date < (window.start item).date :=
          lt_of_lt_of_le inside (not_lt.mp skipped)
        have uncut : ¬window.CutAtStart item := by
          intro cut
          rw [start_of_cutAtStart cut] at startInside
          exact absurd startInside (lt_irrefl _)
        obtain ⟨date, _, _, start⟩ := start_of_not_cutAtStart uncut
        have startOther :
            (window.start item).object ≠
              window.mCurrentGuideStart.object := by
          rw [start]
          exact own.1.startNotStart
        have later :=
          inductionHypothesis timed.2 own.2
            (start_lt_end_of_inside timed.1 startInside)
            (end_object own.1)
        rw [if_neg skipped, same_eq_false other, same_eq_false startOther]
        simp only [List.mem_append, not_or]
        refine ⟨⟨?_, ?_⟩, later⟩
        · split <;> simp
        · split <;> simp

/-- From a cursor before the window the leftmost cell is unmarked. -/
theorem firstMarks_of_before
    (before : cursor.date < window.mCurrentGuideStart.date)
    (other : cursor.object ≠ window.mCurrentGuideStart.object) :
    ¬Opens (window.firstMarks cursor programs) := by
  rintro ⟨others, marks, _⟩
  cases programs with
  | nil =>
      have remaining := lt_trans before window.start_lt_end
      rw [firstMarks, marksFrom, if_pos remaining] at marks
      cases marks
  | cons item rest =>
      have gap : cursor.date < (window.start item).date :=
        lt_of_lt_of_le before (start_ge item)
      rw [firstMarks, marksFrom, if_neg (lt_asymm gap), if_pos gap,
        same_eq_false other] at marks
      cases marks

theorem opens_true {marks : List Bool} (unmarked : true ∉ marks) :
    Opens (true :: marks) :=
  ⟨marks, rfl, unmarked⟩

theorem not_opens_false (marks : List Bool) : ¬Opens (false :: marks) := by
  rintro ⟨others, same, _⟩
  cases same

/-- A program that ends by the start of the window only moves the cursor. -/
theorem firstMarks_of_endsBy {item : ListedProgram UUID}
    {rest : List (ListedProgram UUID)} (timed : item.WellTimed)
    (reached : cursor.date = window.mCurrentGuideStart.date)
    (early : window.EndsBy item) :
    window.firstMarks cursor (item :: rest) =
      window.firstMarks (window.end item) rest := by
  have start := start_of_endsBy timed early
  have empty : ¬window.mCurrentGuideStart.date < (window.end item).date :=
    not_lt.mpr (end_le_start_iff.mpr early)
  rw [firstMarks, marksFrom]
  simp [start, reached, empty]

/-- The first program that does not end by the start of the window has a
cell, which is the leftmost one unless the program starts inside the
window. -/
theorem opens_iff_of_not_endsBy {item : ListedProgram UUID}
    {rest : List (ListedProgram UUID)}
    (timed : ∀ other ∈ item :: rest, other.WellTimed)
    (own : ∀ other ∈ item :: rest, other.OwnDates window)
    (reached : cursor.date = window.mCurrentGuideStart.date)
    (late : ¬window.EndsBy item) :
    Opens (window.firstMarks cursor (item :: rest)) ↔
      window.CutAtStart item ∨
        window.StartsInside item ∧
          cursor.same window.mCurrentGuideStart = true := by
  rw [List.forall_mem_cons] at timed own
  have inside :
      window.mCurrentGuideStart.date < (window.end item).date := by
    rw [← not_le, end_le_start_iff]
    exact late
  have later :=
    firstMarks_of_inside timed.2 own.2 inside (end_object own.1)
  have begun : ¬(window.start item).date < cursor.date := by
    rw [reached]
    exact not_lt.mpr (start_ge item)
  rw [firstMarks, marksFrom, if_neg begun]
  by_cases cut : window.CutAtStart item
  · have start := start_of_cutAtStart cut
    have noGap : ¬cursor.date < window.mCurrentGuideStart.date := by
      rw [reached]
      exact lt_irrefl _
    rw [start, if_neg noGap, if_pos inside]
    have marked :
        window.mCurrentGuideStart.same window.mCurrentGuideStart = true :=
      decide_eq_true rfl
    rw [marked]
    exact iff_of_true (opens_true later) (Or.inl cut)
  · obtain ⟨date, starts, _, start⟩ := start_of_not_cutAtStart cut
    have unmarked :
        (window.start item).same window.mCurrentGuideStart = false := by
      rw [start]
      exact same_eq_false own.1.startNotStart
    have startsInside :
        window.StartsInside item ↔
          cursor.date < (window.start item).date := by
      simp [StartsInside, starts, start, reached]
    simp only [cut, false_or, startsInside, unmarked]
    by_cases gap : cursor.date < (window.start item).date
    · have program :
          true ∉
            (if (window.start item).date < (window.end item).date then
              [false] else []) ++
              window.firstMarks (window.end item) rest := by
        rw [List.mem_append, not_or]
        refine ⟨?_, later⟩
        split <;> simp
      simp only [gap, if_true, true_and,
        List.singleton_append]
      cases same : cursor.same window.mCurrentGuideStart with
      | true =>
          exact iff_of_true (opens_true program) rfl
      | false =>
          exact iff_of_false (not_opens_false _) Bool.false_ne_true
    · have onTime : (window.start item).date = cursor.date :=
        le_antisymm (not_lt.mp gap) (not_lt.mp begun)
      rw [onTime, reached, if_neg (lt_irrefl _), if_pos inside]
      exact
        iff_of_false (not_opens_false _) fun starts =>
          absurd starts.1 (lt_irrefl _)

/-- A program that ends by the start of the window has to end exactly then,
and the cursor is its end from there on. -/
theorem opens_iff_of_endsBy {item : ListedProgram UUID}
    {rest : List (ListedProgram UUID)} (timed : item.WellTimed)
    (own : item.OwnDates window)
    (reached : cursor.date = window.mCurrentGuideStart.date)
    (early : window.EndsBy item)
    (continued :
      ∀ later : DateReference,
        later.date = window.mCurrentGuideStart.date →
          later.object ≠ window.mCurrentGuideStart.object →
            (Opens (window.firstMarks later rest) ↔
              window.OpensCut rest)) :
    Opens (window.firstMarks cursor (item :: rest)) ↔
      item.program.endDate = some window.mCurrentGuideStart.date ∧
        window.OpensCut rest := by
  rw [firstMarks_of_endsBy timed reached early, ← end_eq_start_iff]
  by_cases onTime :
      (window.end item).date = window.mCurrentGuideStart.date
  · rw [continued _ onTime (end_object own)]
    exact (and_iff_right onTime).symm
  · have before :
        (window.end item).date < window.mCurrentGuideStart.date :=
      lt_of_le_of_ne (end_le_start_iff.mpr early) onTime
    exact
      iff_of_false (firstMarks_of_before before (end_object own))
        fun cut => onTime cut.1

/-- Behind a program that ends with the start of the window. -/
theorem opens_iff_opensCut (timed : ∀ item ∈ programs, item.WellTimed)
    (own : ∀ item ∈ programs, item.OwnDates window)
    (reached : cursor.date = window.mCurrentGuideStart.date)
    (other : cursor.object ≠ window.mCurrentGuideStart.object) :
    Opens (window.firstMarks cursor programs) ↔
      window.OpensCut programs := by
  induction programs generalizing cursor with
  | nil =>
      rw [firstMarks, marksFrom, reached, if_pos window.start_lt_end]
      exact iff_of_false (not_opens_false []) id
  | cons item rest inductionHypothesis =>
      rw [OpensCut]
      by_cases early : window.EndsBy item
      · rw [List.forall_mem_cons] at timed own
        rw [opens_iff_of_endsBy timed.1 own.1 reached early
          fun later => inductionHypothesis timed.2 own.2]
        simp [early]
      · rw [opens_iff_of_not_endsBy timed own reached early,
          same_eq_false other]
        simp [early]

/-- From the start of the window. -/
theorem opens_iff_opensMarked (listed : programs ≠ [])
    (timed : ∀ item ∈ programs, item.WellTimed)
    (own : ∀ item ∈ programs, item.OwnDates window) :
    Opens (window.firstMarks window.mCurrentGuideStart programs) ↔
      window.OpensMarked programs := by
  cases programs with
  | nil =>
      exact absurd rfl listed
  | cons item rest =>
      rw [OpensMarked]
      by_cases early : window.EndsBy item
      · rw [List.forall_mem_cons] at timed own
        rw [opens_iff_of_endsBy timed.1 own.1 rfl early
          fun later => opens_iff_opensCut timed.2 own.2]
        simp [early]
      · have same :
            window.mCurrentGuideStart.same window.mCurrentGuideStart =
              true :=
          decide_eq_true rfl
        rw [opens_iff_of_not_endsBy timed own rfl early, same]
        simp [early]

end First

/-! ## The last mark -/

section Last

variable {cursor : DateReference} {programs : List (ListedProgram UUID)}

abbrev lastMarks (window : GuideWindow) :
    DateReference → List (ListedProgram UUID) → List Bool :=
  window.marksFrom (fun _ => false)
    (fun item => (window.end item).same window.mCurrentGuideEnd)

theorem closes_false_iff (marks : List Bool) :
    Closes (false :: marks) ↔ Closes marks := by
  constructor
  · rintro ⟨others, same, unmarked⟩
    cases others with
    | nil =>
        cases same
    | cons mark others =>
        obtain ⟨rfl, rfl⟩ := List.cons.inj same
        exact ⟨others, rfl, fun set => unmarked (List.mem_cons_of_mem _ set)⟩
  · rintro ⟨others, rfl, unmarked⟩
    exact ⟨false :: others, rfl, by simpa using unmarked⟩

theorem closes_true_iff (marks : List Bool) :
    Closes (true :: marks) ↔ marks = [] := by
  constructor
  · rintro ⟨others, same, unmarked⟩
    cases others with
    | nil =>
        exact (List.cons.inj same).2
    | cons mark others =>
        obtain ⟨rfl, _⟩ := List.cons.inj same
        exact absurd List.mem_cons_self unmarked
  · rintro rfl
    exact ⟨[], rfl, List.not_mem_nil⟩

/-- Unmarked cells in front do not matter. -/
theorem closes_append_iff {front : List Bool} (unmarked : true ∉ front)
    (marks : List Bool) : Closes (front ++ marks) ↔ Closes marks := by
  induction front with
  | nil =>
      exact Iff.rfl
  | cons mark front inductionHypothesis =>
      rw [List.mem_cons, not_or] at unmarked
      have unset : mark = false := by
        simpa using Ne.symm unmarked.1
      rw [unset, List.cons_append, closes_false_iff,
        inductionHypothesis unmarked.2]

theorem not_closes {marks : List Bool} (unmarked : true ∉ marks) :
    ¬Closes marks := by
  rintro ⟨others, rfl, _⟩
  exact unmarked (List.mem_append_right others (List.mem_singleton_self _))

section Item

variable {item : ListedProgram UUID}

theorem start_lt_end_iff :
    (window.start item).date < window.mCurrentGuideEnd.date ↔
      window.StartsBeforeEnd item := by
  rw [start_date, StartsBeforeEnd]
  cases starts : item.program.startDate with
  | none =>
      simp [window.start_lt_end]
  | some date =>
      simp [window.start_lt_end]

theorem start_le_end_iff :
    (window.start item).date ≤ window.mCurrentGuideEnd.date ↔
      window.StartsByEnd item := by
  have begun := le_of_lt window.start_lt_end
  rw [start_date, StartsByEnd]
  cases starts : item.program.startDate with
  | none =>
      simp [begun]
  | some date =>
      simp [begun]

/-- A program that starts at or behind the end of the window moves the cursor
to it. -/
theorem end_of_start_ge (timed : item.WellTimed)
    (late : window.mCurrentGuideEnd.date ≤ (window.start item).date) :
    (window.end item).date = window.mCurrentGuideEnd.date := by
  rw [end_date]
  apply min_eq_right
  cases ends : item.program.endDate with
  | none =>
      exact le_refl _
  | some «end» =>
      have uncut : ¬window.StartsBeforeEnd item := by
        rw [← start_lt_end_iff]
        exact not_lt.mpr late
      simp only [StartsBeforeEnd, not_forall, not_lt] at uncut
      obtain ⟨start, starts, behind⟩ := uncut
      exact le_trans behind (timed.ordered start starts «end» ends)

/-- At the end of the window a program that is not skipped has no cell. -/
theorem stays_at_end (timed : item.WellTimed)
    (reached : cursor.date = window.mCurrentGuideEnd.date)
    (shown : ¬(window.start item).date < cursor.date) :
    (window.end item).date = window.mCurrentGuideEnd.date ∧
      ¬(window.start item).date < (window.end item).date := by
  have late : window.mCurrentGuideEnd.date ≤ (window.start item).date := by
    rw [← reached]
    exact not_lt.mp shown
  have ends := end_of_start_ge timed late
  refine ⟨ends, ?_⟩
  rw [ends]
  exact not_lt.mpr late

theorem end_of_cutAtEnd (cut : window.CutAtEnd item) :
    (window.end item).date = window.mCurrentGuideEnd.date := by
  rw [end_date]
  apply min_eq_right
  cases ends : item.program.endDate with
  | none =>
      exact le_refl _
  | some «end» =>
      exact le_of_lt (cut «end» ends)

end Item

/-- Behind the end of the window no cell is marked as the last one. -/
theorem lastMarks_of_end (timed : ∀ item ∈ programs, item.WellTimed)
    (reached : cursor.date = window.mCurrentGuideEnd.date) :
    true ∉ window.lastMarks cursor programs := by
  induction programs generalizing cursor with
  | nil =>
      rw [lastMarks, marksFrom]
      split <;> simp
  | cons item rest inductionHypothesis =>
      rw [List.forall_mem_cons] at timed
      rw [lastMarks, marksFrom]
      by_cases skipped : (window.start item).date < cursor.date
      · rw [if_pos skipped]
        exact inductionHypothesis timed.2 reached
      · obtain ⟨ends, empty⟩ := stays_at_end timed.1 reached skipped
        rw [if_neg skipped, if_neg empty, List.append_nil, List.mem_append,
          not_or]
        refine ⟨?_, inductionHypothesis timed.2 ends⟩
        split <;> simp

/-- Behind the end of the window only the time up to programs that start
later is filled. -/
theorem lastMarks_eq_nil_iff (timed : ∀ item ∈ programs, item.WellTimed)
    (reached : cursor.date = window.mCurrentGuideEnd.date) :
    window.lastMarks cursor programs = [] ↔
      ∀ item ∈ programs, window.StartsByEnd item := by
  induction programs generalizing cursor with
  | nil =>
      simp [lastMarks, marksFrom, reached]
  | cons item rest inductionHypothesis =>
      rw [List.forall_mem_cons] at timed
      rw [lastMarks, marksFrom, List.forall_mem_cons, ← start_le_end_iff]
      by_cases skipped : (window.start item).date < cursor.date
      · rw [if_pos skipped, inductionHypothesis timed.2 reached]
        rw [reached] at skipped
        exact (and_iff_right (le_of_lt skipped)).symm
      · obtain ⟨ends, empty⟩ := stays_at_end timed.1 reached skipped
        rw [if_neg skipped, if_neg empty, List.append_nil,
          List.append_eq_nil_iff, inductionHypothesis timed.2 ends, reached]
        by_cases gap :
            window.mCurrentGuideEnd.date < (window.start item).date
        · simp [gap, not_le.mpr gap]
        · simp [gap, not_lt.mp gap]

/-- No program that starts in the window is shown behind its end. -/
theorem shown_of_end (timed : ∀ item ∈ programs, item.WellTimed)
    {item : ListedProgram UUID}
    (member :
      item ∈ window.shown window.mCurrentGuideEnd.date programs) :
    ¬window.StartsBeforeEnd item := by
  induction programs with
  | nil =>
      cases member
  | cons first rest inductionHypothesis =>
      rw [List.forall_mem_cons] at timed
      rw [shown] at member
      by_cases skipped :
          (window.start first).date < window.mCurrentGuideEnd.date
      · rw [if_pos skipped] at member
        exact inductionHypothesis timed.2 member
      · rw [if_neg skipped,
          end_of_start_ge timed.1 (not_lt.mp skipped)] at member
        rcases List.mem_cons.mp member with rfl | later
        · rw [← start_lt_end_iff]
          exact skipped
        · exact inductionHypothesis timed.2 later

theorem closes_iff_closesMarked
    (timed : ∀ item ∈ programs, item.WellTimed)
    (own : ∀ item ∈ programs, item.OwnDates window)
    (within : cursor.date ≤ window.mCurrentGuideEnd.date) :
    Closes (window.lastMarks cursor programs) ↔
      window.ClosesMarked cursor.date programs := by
  induction programs generalizing cursor with
  | nil =>
      constructor
      · intro closes
        rw [lastMarks, marksFrom] at closes
        split at closes
        · exact absurd closes (not_closes (by simp))
        · exact absurd closes (not_closes List.not_mem_nil)
      · rintro ⟨_, item, member, _⟩
        cases member
  | cons item rest inductionHypothesis =>
      rw [List.forall_mem_cons] at timed own
      rw [lastMarks, marksFrom, ClosesMarked, List.forall_mem_cons, shown]
      by_cases skipped : (window.start item).date < cursor.date
      · have byEnd : window.StartsByEnd item :=
          start_le_end_iff.mp (le_trans (le_of_lt skipped) within)
        rw [if_pos skipped, if_pos skipped,
          inductionHypothesis timed.2 own.2 within]
        simp [ClosesMarked, byEnd]
      · rw [if_neg skipped, if_neg skipped, List.append_assoc]
        have gap :
            true ∉
              (if cursor.date < (window.start item).date then [false]
                else []) := by
          split <;> simp
        rw [closes_append_iff gap]
        by_cases before : window.StartsBeforeEnd item
        · have startsBefore := start_lt_end_iff.mpr before
          have byEnd : window.StartsByEnd item :=
            start_le_end_iff.mp (le_of_lt startsBefore)
          by_cases cut : window.CutAtEnd item
          · have ends := end_of_cutAtEnd cut
            rw [ends, if_pos startsBefore, (end_same_iff own.1).mpr cut,
              List.singleton_append, closes_true_iff,
              lastMarks_eq_nil_iff timed.2 ends]
            simp [byEnd, before, cut]
          · have unset :
                (window.end item).same window.mCurrentGuideEnd = false := by
              rw [← Bool.not_eq_true, end_same_iff own.1]
              exact cut
            have program :
                true ∉
                  (if (window.start item).date < (window.end item).date then
                    [(window.end item).same window.mCurrentGuideEnd]
                    else []) := by
              rw [unset]
              split <;> simp
            rw [closes_append_iff program,
              inductionHypothesis timed.2 own.2 (end_le item)]
            simp [ClosesMarked, byEnd, cut]
        · have late :
              window.mCurrentGuideEnd.date ≤ (window.start item).date := by
            rw [← not_lt, start_lt_end_iff]
            exact before
          have ends := end_of_start_ge timed.1 late
          have empty :
              ¬(window.start item).date < (window.end item).date := by
            rw [ends]
            exact not_lt.mpr late
          rw [if_neg empty, List.nil_append, ends]
          constructor
          · intro closes
            exact
              absurd closes (not_closes (lastMarks_of_end timed.2 ends))
          · rintro ⟨_, other, member, otherBefore, _⟩
            rcases List.mem_cons.mp member with rfl | later
            · exact absurd otherBefore before
            · exact absurd otherBefore (shown_of_end timed.2 later)

end Last

section Placeholders

variable {channelId : UUID} {minutes : Int} {slot currentCellId : Nat}

/-- Only the first slot is marked as the first one. -/
theorem isFirst_placeholders (later : slot ≠ 0) :
    true ∉
      (window.placeholders channelId minutes slot currentCellId).map
        ProgramGridCell.isFirst := by
  fun_induction window.placeholders channelId minutes slot currentCellId with
  | case1 slot currentCellId empty cell more inductionHypothesis =>
      have unmarked : cell.isFirst = false := decide_eq_false later
      rw [List.map_cons, unmarked, List.mem_cons, not_or]
      exact
        ⟨Bool.noConfusion, inductionHypothesis (Nat.succ_ne_zero slot)⟩
  | case2 slot currentCellId empty cell last =>
      have unmarked : cell.isFirst = false := decide_eq_false later
      simp [unmarked]

/-- Of the slots that are left the last one is marked as such. -/
theorem isLast_placeholders (length : minutes = window.hours * 60)
    (inside : (slot : Int) < window.hours * 2) :
    Closes
      ((window.placeholders channelId minutes slot currentCellId).map
        ProgramGridCell.isLast) := by
  have slots : minutes.tdiv 30 = window.hours * 2 := by
    have halves : minutes = window.hours * 2 * 30 := by
      omega
    rw [halves]
    exact Int.mul_tdiv_cancel _ (by decide)
  fun_induction window.placeholders channelId minutes slot currentCellId with
  | case1 slot currentCellId empty cell more inductionHypothesis =>
      have next : ((slot + 1 : Nat) : Int) < window.hours * 2 := by
        omega
      have unmarked : cell.isLast = false := by
        apply decide_eq_false
        omega
      rw [List.map_cons, unmarked, closes_false_iff]
      exact inductionHypothesis next
  | case2 slot currentCellId empty cell last =>
      have marked : cell.isLast = true := by
        apply decide_eq_true
        omega
      rw [List.map_cons, marked, closes_true_iff]
      rfl

theorem placeholders_marksEdges (length : minutes = window.hours * 60) :
    MarksEdges
      (window.placeholders channelId minutes 0 currentCellId) where
  first := by
    have positive := window.positive
    have more : 30 * (((0 : Nat) : Int) + 1) < minutes := by
      omega
    rw [placeholders, if_pos more]
    exact opens_true (isFirst_placeholders (Nat.succ_ne_zero 0))
  last := by
    have positive := window.positive
    exact isLast_placeholders length (by omega)

end Placeholders

/-- The edges of a row are marked exactly if it has no programs, or its first
program does not begin with the window and its last one ends behind it. -/
theorem edges_marked_iff (window : GuideWindow) (filters : GuideFilters)
    (programs : List (ListedProgram UUID)) (channelId : UUID)
    (currentCellId : Nat) (cells : List (ProgramGridCell UUID))
    (timed : ∀ item ∈ programs, item.WellTimed)
    (own : ∀ item ∈ programs, item.OwnDates window)
    (built :
      window.getProgramRow filters programs channelId currentCellId =
        some cells) :
    MarksEdges cells ↔
      programs = [] ∨
        window.OpensMarked programs ∧
          window.ClosesMarked window.mCurrentGuideStart.date programs := by
  by_cases listed : programs = []
  · subst listed
    rw [← placeholders_of_getProgramRow built]
    exact
      iff_of_true (placeholders_marksEdges window.minutesBetween_window)
        (Or.inl rfl)
  · have marks :=
      cells_of_getProgramRow listed built
    have firsts :
        cells.map ProgramGridCell.isFirst =
          window.firstMarks window.mCurrentGuideStart programs := by
      rw [← marks]
      exact
        map_fillRest (fun _ _ _ _ => rfl) (fun _ _ _ => rfl)
          (fun _ _ _ => rfl) timed (window.emptyRow currentCellId)
    have lasts :
        cells.map ProgramGridCell.isLast =
          window.lastMarks window.mCurrentGuideStart programs := by
      rw [← marks]
      exact
        map_fillRest (fun _ _ _ _ => rfl) (fun _ _ _ => rfl)
          (fun _ _ _ => rfl) timed (window.emptyRow currentCellId)
    have begun := le_of_lt window.start_lt_end
    have edges :
        MarksEdges cells ↔
          Opens (cells.map ProgramGridCell.isFirst) ∧
            Closes (cells.map ProgramGridCell.isLast) :=
      ⟨fun marked => ⟨marked.first, marked.last⟩,
        fun marked => ⟨marked.1, marked.2⟩⟩
    rw [edges, firsts, lasts, opens_iff_opensMarked listed timed own,
      closes_iff_closesMarked timed own begun]
    simp [listed]

theorem eveningPrograms_own :
    ∀ item ∈ eveningPrograms, item.OwnDates eveningWindow := by
  have own :
      ∀ startDate endDate,
        (ListedProgram.ofDates startDate endDate :
            ListedProgram String).OwnDates eveningWindow :=
    fun _ _ =>
      ⟨(by decide : 2 ≠ 0), (by decide : 2 ≠ 1), (by decide : 3 ≠ 0),
        (by decide : 3 ≠ 1)⟩
  simp [eveningPrograms, own]

theorem evening_edges_marked : MarksEdges eveningRow :=
  (edges_marked_iff eveningWindow noFilters eveningPrograms "one" 0
      eveningRow (by decide) eveningPrograms_own rfl).mpr
    (Or.inr
      ⟨⟨fun early => absurd early (by unfold EndsBy; decide),
          fun _ => Or.inl (by unfold CutAtStart; decide)⟩,
        by unfold StartsByEnd; decide,
        by unfold StartsBeforeEnd CutAtEnd; decide⟩)

/-- A program that begins with the window is not marked. -/
theorem program_from_start_unmarked :
    ∃ cells,
      eveningWindow.getProgramRow noFilters
          [ListedProgram.ofDates (some 0) (some 43200000)] "one" 0 =
          some cells ∧
        ¬MarksEdges cells :=
  ⟨_, rfl, fun marked => not_opens_false [] marked.first⟩

end GuideWindow

end JellyfinTv.LiveTv
