import JellyfinTv.Library.Loops
import JellyfinTv.LiveTv.GuideRows

/-!
# The time line of the guide

`fillTimeLine` adds a label for the start of the window and for the full and
half hours behind it.  A label is as wide as the interval up to the next one,
but not narrower than a quarter of an hour, so after a shorter first interval
all other labels stand too far to the right.
-/

namespace JellyfinTv.LiveTv

open JellyfinTv.Library

/-- The text is the time, formatted. -/
structure TimeLabel where
  text : LocalDateTime
  width : Int
  deriving DecidableEq, Repr

namespace TimeLine

/-- The time of the next label and the minutes from it to the one behind
it. -/
structure Cursor where
  current : LocalDateTime
  interval : Int
  deriving DecidableEq, Repr

def firstInterval (mCurrentGuideStart : LocalDateTime) : Int :=
  if 30 ≤ mCurrentGuideStart.getMinute then
    60 - mCurrentGuideStart.getMinute
  else
    30 - mCurrentGuideStart.getMinute

def labelWidth (guideRowWidthPerMinPx interval : Int) : Int :=
  if interval ≠ 60 then
    if interval < 15 then
      15 * guideRowWidthPerMinPx
    else
      interval * guideRowWidthPerMinPx
  else
    60 * guideRowWidthPerMinPx

def label (guideRowWidthPerMinPx : Int) (cursor : Cursor) : TimeLabel where
  text := cursor.current
  width := labelWidth guideRowWidthPerMinPx cursor.interval

def next (cursor : Cursor) : Cursor where
  current := cursor.current.plusMinutes cursor.interval
  interval := if cursor.interval < 30 then 30 else 60

def isBefore (mCurrentGuideEnd : LocalDateTime) (cursor : Cursor) : Bool :=
  decide (cursor.current < mCurrentGuideEnd)

/-- The labels that `fillTimeLine` adds, none if the fuel runs out. -/
def fillTimeLine (fuel : Nat) (guideRowWidthPerMinPx : Int)
    (start : LocalDateTime) (hours : Int) : Option (List TimeLabel) :=
  let mCurrentGuideStart := start.truncatedToMinute
  let mCurrentGuideEnd :=
    mCurrentGuideStart + hours * LocalDateTime.hourMillis
  collectWhile (isBefore mCurrentGuideEnd) (label guideRowWidthPerMinPx)
    next fuel ⟨mCurrentGuideStart, firstInterval mCurrentGuideStart⟩

/-- The loop ends, every label stands where a program that starts at its time
would, and the labels are as wide as the window. -/
def LinesUp (guideRowWidthPerMinPx : Int) (start : LocalDateTime)
    (hours : Int) : Prop :=
  ∃ labels,
    (∃ fuel,
      fillTimeLine fuel guideRowWidthPerMinPx start hours = some labels) ∧
    (∀ label left, (label, left) ∈ laidOut TimeLabel.width 0 labels →
      left =
        LocalDateTime.minutesBetween start.truncatedToMinute label.text *
          guideRowWidthPerMinPx) ∧
    hours * 60 * guideRowWidthPerMinPx ≤ totalSize TimeLabel.width labels

variable {guideRowWidthPerMinPx : Int} {start : LocalDateTime}
  {hours : Int}

theorem firstInterval_pos (time : LocalDateTime) :
    0 < firstInterval time ∧ firstInterval time ≤ 30 ∧
      (15 ≤ firstInterval time ↔ time.getMinute % 30 ≤ 15) := by
  have bounds : 0 ≤ time.getMinute ∧ time.getMinute < 60 := by
    unfold LocalDateTime.getMinute LocalDateTime.hourMillis
      LocalDateTime.minuteMillis
    omega
  unfold firstInterval
  split <;> omega

theorem labelWidth_ge (visible : 0 < guideRowWidthPerMinPx)
    (interval : Int) :
    interval * guideRowWidthPerMinPx ≤
      labelWidth guideRowWidthPerMinPx interval := by
  unfold labelWidth
  split_ifs with notHour short
  · exact Int.mul_le_mul_of_nonneg_right (le_of_lt short) (le_of_lt visible)
  · exact le_refl _
  · rw [not_not.mp notHour]

theorem labelWidth_of_long {interval : Int} (long : 15 ≤ interval) :
    labelWidth guideRowWidthPerMinPx interval =
      interval * guideRowWidthPerMinPx := by
  unfold labelWidth
  split_ifs with notHour short
  · exact absurd short (not_lt.mpr long)
  · rfl
  · rw [not_not.mp notHour]

theorem next_interval (cursor : Cursor) : 15 ≤ (next cursor).interval := by
  unfold next
  dsimp only
  split <;> omega

theorem wholeMinute_plusMinutes {time : LocalDateTime}
    (whole : time.WholeMinute) (minutes : Int) :
    (time.plusMinutes minutes).WholeMinute := by
  apply Int.dvd_add whole
  exact Int.dvd_mul_left _ _

theorem minutesBetween_plusMinutes {time : LocalDateTime}
    (whole : time.WholeMinute) (minutes : Int) :
    LocalDateTime.minutesBetween time (time.plusMinutes minutes) =
      minutes := by
  obtain ⟨count, rfl⟩ := whole
  have reached :
      LocalDateTime.plusMinutes (LocalDateTime.minuteMillis * count)
          minutes =
        LocalDateTime.minuteMillis * (count + minutes) := by
    rw [LocalDateTime.plusMinutes]
    ring
  rw [reached, LocalDateTime.minutesBetween_mul]
  omega

section Loop

variable {mCurrentGuideEnd : LocalDateTime} {cursor : Cursor}
  {labels : List TimeLabel}

/-- The cursor is on a whole minute, and the interval at least this long. -/
def Regular (least : Int) (cursor : Cursor) : Prop :=
  cursor.current.WholeMinute ∧ least ≤ cursor.interval

theorem Regular.next {least : Int} (short : least ≤ 15)
    (regular : Regular least cursor) : Regular least (next cursor) :=
  ⟨wholeMinute_plusMinutes regular.1 _,
    le_trans short (next_interval cursor)⟩

theorem exists_labels (regular : Regular 1 cursor) :
    ∃ labels,
      Collects (isBefore mCurrentGuideEnd) (label guideRowWidthPerMinPx)
        next cursor labels := by
  have decreases :
      ∀ cursor, Regular 1 cursor → isBefore mCurrentGuideEnd cursor →
        (mCurrentGuideEnd - (next cursor).current).toNat <
          (mCurrentGuideEnd - cursor.current).toNat := by
    intro cursor regular before
    have behind : 0 < mCurrentGuideEnd - cursor.current :=
      Int.sub_pos.mpr (of_decide_eq_true before)
    have advanced :
        mCurrentGuideEnd - (TimeLine.next cursor).current <
          mCurrentGuideEnd - cursor.current := by
      apply Int.sub_lt_sub_left
      apply Int.lt_add_of_pos_right
      exact Int.mul_pos (Int.lt_of_lt_of_le Int.one_pos regular.2)
        (by decide)
    exact (Int.toNat_lt_toNat behind).mpr advanced
  have kept :
      ∀ cursor, Regular 1 cursor → isBefore mCurrentGuideEnd cursor →
        Regular 1 (TimeLine.next cursor) :=
    fun cursor regular _ => regular.next (by decide)
  exact
    exists_collects
      (fun cursor => (mCurrentGuideEnd - cursor.current).toNat) kept
      decreases regular

/-- From an edge on, the labels stand where programs would. -/
def Aligned (guideRowWidthPerMinPx : Int) (cursor : Cursor)
    (labels : List TimeLabel) : Prop :=
  ∀ edge label left, (label, left) ∈ laidOut TimeLabel.width edge labels →
    label.text.WholeMinute ∧
      left =
        edge +
          LocalDateTime.minutesBetween cursor.current label.text *
            guideRowWidthPerMinPx

theorem Aligned.cons {rest : List TimeLabel} (regular : Regular 15 cursor)
    (aligned : Aligned guideRowWidthPerMinPx (next cursor) rest) :
    Aligned guideRowWidthPerMinPx cursor
      (label guideRowWidthPerMinPx cursor :: rest) := by
  intro edge other left member
  rcases List.mem_cons.mp member with same | later
  · cases same
    refine ⟨regular.1, ?_⟩
    change
      edge =
        edge +
          LocalDateTime.minutesBetween cursor.current cursor.current *
            guideRowWidthPerMinPx
    rw [LocalDateTime.minutesBetween_self]
    omega
  · obtain ⟨whole, reached⟩ := aligned _ other left later
    refine ⟨whole, ?_⟩
    have minutes :=
      LocalDateTime.minutesBetween_add regular.1
        (wholeMinute_plusMinutes regular.1 cursor.interval) whole
    rw [minutesBetween_plusMinutes regular.1] at minutes
    have width :
        (label guideRowWidthPerMinPx cursor).width =
          cursor.interval * guideRowWidthPerMinPx :=
      labelWidth_of_long regular.2
    rw [reached, width, ← minutes]
    change
      edge + cursor.interval * guideRowWidthPerMinPx +
          LocalDateTime.minutesBetween
              (cursor.current.plusMinutes cursor.interval) other.text *
            guideRowWidthPerMinPx =
        _
    ring

theorem aligned_of_long (regular : Regular 15 cursor)
    (collects :
      Collects (isBefore mCurrentGuideEnd) (label guideRowWidthPerMinPx)
        next cursor labels) :
    Aligned guideRowWidthPerMinPx cursor labels := by
  have done :
      ∀ cursor, Regular 15 cursor → ¬isBefore mCurrentGuideEnd cursor →
        Aligned guideRowWidthPerMinPx cursor [] := by
    intro cursor _ _ edge label left member
    cases member
  have step :
      ∀ cursor rest, Regular 15 cursor → isBefore mCurrentGuideEnd cursor →
        Aligned guideRowWidthPerMinPx (next cursor) rest →
          Aligned guideRowWidthPerMinPx cursor
            (label guideRowWidthPerMinPx cursor :: rest) :=
    fun _ _ regular _ aligned => aligned.cons regular
  have kept :
      ∀ cursor, Regular 15 cursor → isBefore mCurrentGuideEnd cursor →
        Regular 15 (next cursor) :=
    fun cursor regular _ => regular.next (le_refl _)
  exact collects.rule kept done step regular

/-- The labels reach the end of the window. -/
def Covered (guideRowWidthPerMinPx : Int)
    (mCurrentGuideEnd : LocalDateTime) (cursor : Cursor)
    (labels : List TimeLabel) : Prop :=
  LocalDateTime.minutesBetween cursor.current mCurrentGuideEnd *
      guideRowWidthPerMinPx ≤
    totalSize TimeLabel.width labels

theorem covered_of_collects (visible : 0 < guideRowWidthPerMinPx)
    (endWhole : mCurrentGuideEnd.WholeMinute)
    (regular : Regular 1 cursor)
    (collects :
      Collects (isBefore mCurrentGuideEnd) (label guideRowWidthPerMinPx)
        next cursor labels) :
    Covered guideRowWidthPerMinPx mCurrentGuideEnd cursor labels := by
  have done :
      ∀ cursor, Regular 1 cursor → ¬isBefore mCurrentGuideEnd cursor →
        Covered guideRowWidthPerMinPx mCurrentGuideEnd cursor [] := by
    intro cursor regular behind
    have negative :
        LocalDateTime.minutesBetween cursor.current mCurrentGuideEnd ≤ 0 := by
      rw [← not_lt,
        LocalDateTime.minutesBetween_pos_iff regular.1 endWhole]
      exact of_decide_eq_false (Bool.eq_false_of_not_eq_true behind)
    exact Int.mul_nonpos_of_nonpos_of_nonneg negative (le_of_lt visible)
  have step :
      ∀ cursor rest, Regular 1 cursor → isBefore mCurrentGuideEnd cursor →
        Covered guideRowWidthPerMinPx mCurrentGuideEnd (next cursor)
            rest →
          Covered guideRowWidthPerMinPx mCurrentGuideEnd cursor
            (label guideRowWidthPerMinPx cursor :: rest) := by
    intro cursor rest regular _ covered
    have minutes :=
      LocalDateTime.minutesBetween_add regular.1
        (wholeMinute_plusMinutes regular.1 cursor.interval) endWhole
    rw [minutesBetween_plusMinutes regular.1] at minutes
    have width := labelWidth_ge visible cursor.interval
    rw [Covered, totalSize_cons, ← minutes, Int.add_mul]
    exact Int.add_le_add width covered
  have kept :
      ∀ cursor, Regular 1 cursor → isBefore mCurrentGuideEnd cursor →
        Regular 1 (next cursor) :=
    fun cursor regular _ => regular.next (by decide)
  exact collects.rule kept done step regular

/-- Behind an interval that is shorter than its label, the second label
stands too far to the right. -/
theorem not_aligned_of_short (visible : 0 < guideRowWidthPerMinPx)
    (whole : cursor.current.WholeMinute) (short : cursor.interval < 15)
    (before : isBefore mCurrentGuideEnd cursor)
    (another : isBefore mCurrentGuideEnd (next cursor))
    (collects :
      Collects (isBefore mCurrentGuideEnd) (label guideRowWidthPerMinPx)
        next cursor labels) :
    ¬∀ label left, (label, left) ∈ laidOut TimeLabel.width 0 labels →
      left =
        LocalDateTime.minutesBetween cursor.current label.text *
          guideRowWidthPerMinPx := by
  intro aligned
  obtain ⟨stops, _⟩ | ⟨_, behind, rfl, later⟩ := collects.cases
  · exact stops before
  obtain ⟨stops, _⟩ | ⟨_, rest, rfl, _⟩ := later.cases
  · exact stops another
  have second :
      (label guideRowWidthPerMinPx (next cursor),
          0 + (label guideRowWidthPerMinPx cursor).width) ∈
        laidOut TimeLabel.width 0
          (label guideRowWidthPerMinPx cursor ::
            label guideRowWidthPerMinPx (next cursor) :: rest) :=
    List.mem_cons_of_mem _ List.mem_cons_self
  have reached := aligned _ _ second
  have width :
      (label guideRowWidthPerMinPx cursor).width =
        15 * guideRowWidthPerMinPx := by
    have notHour : cursor.interval ≠ 60 := by
      omega
    change labelWidth guideRowWidthPerMinPx cursor.interval = _
    rw [labelWidth, if_pos notHour, if_pos short]
  have minutes :
      LocalDateTime.minutesBetween cursor.current
          (label guideRowWidthPerMinPx (next cursor)).text =
        cursor.interval :=
    minutesBetween_plusMinutes whole cursor.interval
  rw [width, minutes, Int.zero_add] at reached
  have same := Int.eq_of_mul_eq_mul_right (ne_of_gt visible) reached
  omega

end Loop

theorem wholeMinute_truncatedToMinute (time : LocalDateTime) :
    time.truncatedToMinute.WholeMinute :=
  Int.dvd_self_sub_emod

theorem plusHours_eq (time : LocalDateTime) (hours : Int) :
    time + hours * LocalDateTime.hourMillis =
      time.plusMinutes (hours * 60) := by
  unfold LocalDateTime.plusMinutes LocalDateTime.hourMillis
    LocalDateTime.minuteMillis
  ring

theorem plusMinutes_lt_iff {time : LocalDateTime} {first second : Int} :
    time.plusMinutes first < time.plusMinutes second ↔ first < second := by
  have scaled :
      first * LocalDateTime.minuteMillis <
          second * LocalDateTime.minuteMillis ↔
        first < second :=
    Int.mul_lt_mul_right (by decide)
  rw [← scaled]
  exact Int.add_lt_add_iff_left _

theorem plusMinutes_zero (time : LocalDateTime) :
    time.plusMinutes 0 = time := by
  rw [LocalDateTime.plusMinutes, Int.zero_mul]
  exact Int.add_zero time

/-- The loop is entered if any hours are asked for. -/
theorem isBefore_start_iff {time : LocalDateTime} {interval : Int} :
    isBefore (time.plusMinutes (hours * 60)) ⟨time, interval⟩ = true ↔
      0 < hours := by
  have started : time < time.plusMinutes (hours * 60) ↔ 0 < hours * 60 := by
    nth_rewrite 1 [← plusMinutes_zero time]
    exact plusMinutes_lt_iff
  rw [isBefore, decide_eq_true_eq, started]
  omega

/-- The labels line up with the programs exactly if the first interval is at
least a quarter of an hour long. -/
theorem linesUp_iff (visible : 0 < guideRowWidthPerMinPx)
    (start : LocalDateTime) (hours : Int) :
    LinesUp guideRowWidthPerMinPx start hours ↔
      hours ≤ 0 ∨ start.truncatedToMinute.getMinute % 30 ≤ 15 := by
  have whole := wholeMinute_truncatedToMinute start
  obtain ⟨positive, atMost, long⟩ :=
    firstInterval_pos start.truncatedToMinute
  unfold LinesUp fillTimeLine
  simp only [plusHours_eq]
  generalize start.truncatedToMinute = time at whole positive atMost long ⊢
  have before :
      isBefore (time.plusMinutes (hours * 60)) ⟨time, firstInterval time⟩ ↔
        0 < hours :=
    isBefore_start_iff
  constructor
  · rintro ⟨labels, collects, aligned, _⟩
    by_contra neither
    rw [not_or, not_le] at neither
    have short : firstInterval time < 15 := by
      omega
    have another :
        isBefore (time.plusMinutes (hours * 60))
          (next ⟨time, firstInterval time⟩) := by
      have inside : firstInterval time < hours * 60 := by
        omega
      exact decide_eq_true (plusMinutes_lt_iff.mpr inside)
    exact
      not_aligned_of_short visible whole short (before.mpr neither.1)
        another collects aligned
  · intro condition
    have regular : Regular 1 ⟨time, firstInterval time⟩ :=
      ⟨whole, positive⟩
    obtain ⟨labels, collects⟩ :
        ∃ labels,
          Collects (isBefore (time.plusMinutes (hours * 60)))
            (label guideRowWidthPerMinPx) next
            ⟨time, firstInterval time⟩ labels :=
      exists_labels regular
    have endWhole := wholeMinute_plusMinutes whole (hours * 60)
    have covered :=
      covered_of_collects visible endWhole regular collects
    rw [Covered, minutesBetween_plusMinutes whole] at covered
    refine ⟨labels, collects, ?_, covered⟩
    intro label left member
    by_cases goes : 0 < hours
    · have quarter : 15 ≤ firstInterval time := by
        omega
      have aligned := aligned_of_long ⟨whole, quarter⟩ collects
      rw [(aligned 0 label left member).2, Int.zero_add]
    · obtain ⟨_, rfl⟩ | ⟨starts, _⟩ := collects.cases
      · cases member
      · exact absurd (before.mp starts) goes

theorem ten_past_lines_up : LinesUp 14 29400000 9 :=
  (linesUp_iff (by decide) 29400000 9).mpr (Or.inr (by decide))

/-- From twenty past eight, the label of half past eight stands at a quarter
of an hour instead of ten minutes. -/
theorem twenty_past_misaligned : ¬LinesUp 14 30000000 9 := by
  rintro ⟨labels, filled, aligned, _⟩
  have whole : (30000000 : LocalDateTime).WholeMinute := by
    decide
  exact
    not_aligned_of_short (by decide) whole (by decide) (by decide)
      (by decide) filled aligned

end TimeLine

end JellyfinTv.LiveTv
