import JellyfinTv.LiveTv.Guide
import JellyfinTv.Library.Runs

/-!
# Paging through the channels

A load of the guide starts on the page of the last channel, and the paging
buttons lead to the pages before and after.  Each page is requested by the
ids of its channels, which are copied out of an array that only a load
fills.
-/

namespace JellyfinTv.LiveTv

open JellyfinTv.Library

variable {UUID : Type}

/-- What happens to a guide on a server with fixed channels: the load of the
guide, its answer or failure with the last channel that is stored by then,
a click on one of the paging buttons, the answer to a request. -/
inductive PagingEvent (UUID : Type) where
  | load (now : LocalDateTime)
  | channelsArrive (answered : Bool) (last : Option UUID)
  | press (button : Nat)
  | programsArrive (index : Nat) (programs : Option (List (Program UUID)))

namespace Guide

/-- A new guide in an app that has not loaded any channels. -/
def opened (filters : GuideFilters) (now : LocalDateTime) : Guide UUID where
  manager := ⟨none, none, fun _ => none⟩
  filters := filters
  allChannels := none
  currentGuideStart := now
  currentGuideEnd := now
  currentDisplayChannelStartNdx := 0
  currentDisplayChannelEndNdx := 0
  programRows := []
  pagingButtons := []
  loads := 0
  requests := []
  outstanding := []
  answers := []

/-- The channels from the first to the last position of the page. -/
def displayedChannels (guide : Guide UUID) : List (Channel UUID) :=
  ((guide.allChannels.getD []).drop
      guide.currentDisplayChannelStartNdx.toNat).take
    (guide.currentDisplayChannelEndNdx + 1 -
      guide.currentDisplayChannelStartNdx).toNat

/-- If a request was made, it is for the ids of the channels displayed. -/
def RequestsDisplayed (before after : Guide UUID) : Prop :=
  after.requests = before.requests ∨
    ∃ request, after.requests = before.requests ++ [request] ∧
      request.channelIds =
        after.displayedChannels.map fun channel => some channel.id

/-- The last channel is displayed if the list has it. -/
def ShowsLast (guide : Guide UUID) (last : Option UUID) : Prop :=
  (∃ channel ∈ guide.allChannels.getD [], some channel.id = last) →
    ∃ channel ∈ guide.displayedChannels, some channel.id = last

/-- A click on a paging button, or the given answer to the oldest request. -/
def IsPaging (programs : Option (List (Program UUID)))
    (move : PagingEvent UUID) : Prop :=
  (∃ button, move = .press button) ∨ move = .programsArrive 0 programs

section Machine

variable [DecidableEq UUID]

def page (channels : List (Channel UUID)) (guide : Guide UUID) :
    PagingEvent UUID → Option (Guide UUID)
  | .load now => some (guide.load now)
  | .channelsArrive answered last =>
      if guide.loads = 0 then
        some guide
      else
        guide.channelsArrive (if answered then some channels else none) last
  | .press button =>
      match guide.pagingButtons[button]? with
      | none => some guide
      | some start => guide.displayChannels start pageSize
  | .programsArrive index programs => guide.programsArrive index programs

/-- Clicks on paging buttons and the answers to them lead from one guide to
the other. -/
def Leads (channels : List (Channel UUID))
    (programs : Option (List (Program UUID))) (guide after : Guide UUID) :
    Prop :=
  ∃ moves, (∀ move ∈ moves, IsPaging programs move) ∧
    run (fallible (page channels)) (some guide) moves = some after

/-- The paging buttons lead to a page that displays the position, whatever
the server answers on the way. -/
def Reaches (channels : List (Channel UUID)) (guide : Guide UUID)
    (position : Int) : Prop :=
  ∀ programs : Option (List (Program UUID)),
    (∀ program ∈ programs.getD [], program.endDate ≠ none) →
      ∃ reached, Leads channels programs guide reached ∧
        reached.currentDisplayChannelStartNdx ≤ position ∧
        position ≤ reached.currentDisplayChannelEndNdx

/-- What is expected of one event. -/
structure PagesExactly (channels : List (Channel UUID))
    (before : Guide UUID) (event : PagingEvent UUID) : Prop where
  completes : (∀ index programs, event ≠ .programsArrive index programs) →
    before.page channels event ≠ none
  requested : ∀ after, before.page channels event = some after →
    RequestsDisplayed before after
  lastShown : ∀ answered last after,
    event = .channelsArrive answered last → before.loads ≠ 0 →
      before.page channels event = some after → after.ShowsLast last
  reachable : ∀ after, before.page channels event = some after →
    ∀ position : Nat, position < (after.allChannels.getD []).length →
      after.Reaches channels position

end Machine

/-- A load that is answered with channels finds a last channel stored, and
one that fails finds it on the first page, if it is in the list that is
still there. -/
def LastChannelStored (channels : List (Channel UUID))
    (guide : Guide UUID) : PagingEvent UUID → Prop
  | .channelsArrive true last =>
      guide.loads = 0 ∨ channels = [] ∨ last ≠ none
  | .channelsArrive false last =>
      guide.loads = 0 ∨
        ((∃ channel ∈ guide.manager.getAllChannels,
            some channel.id = last) →
          ∃ channel ∈ guide.manager.getAllChannels.take pageSize.toNat,
            some channel.id = last)
  | _ => True

end Guide

theorem copyOfRange_inside {Value : Type} (array : List (Option Value))
    {first last : Int} (nonneg : 0 ≤ first) (ordered : first ≤ last)
    (inside : last ≤ array.length) :
    copyOfRange array first last =
      some ((array.drop first.toNat).take (last - first).toNat) := by
  have possible :
      ¬(first < 0 ∨ array.length < first ∨ last < first) := by
    omega
  have enough :
      (last - first).toNat ≤ (array.drop first.toNat).length := by
    rw [List.length_drop]
    omega
  simp only [copyOfRange, if_neg possible,
    List.take_append_of_le_length enough]

section Filling

variable [DecidableEq UUID]

theorem fillFrom_fst (last : UUID) (channels : List (Channel UUID))
    (position ndx : Nat) :
    (fillFrom last position ndx channels).1 =
      channels.map fun channel => some channel.id := by
  induction channels generalizing position ndx with
  | nil =>
      rfl
  | cons channel rest inductionHypothesis =>
      simp only [fillFrom, inductionHypothesis, List.map_cons]

/-- The loop ends with the last position of the channel, if there is one. -/
theorem fillFrom_snd (last : UUID) (channels : List (Channel UUID))
    (position ndx : Nat) :
    ((∀ channel ∈ channels, channel.id ≠ last) ∧
        (fillFrom last position ndx channels).2 = ndx) ∨
      ∃ offset channel, channels[offset]? = some channel ∧
        channel.id = last ∧
        (fillFrom last position ndx channels).2 =
          position + offset + 1 := by
  induction channels generalizing position ndx with
  | nil =>
      exact Or.inl ⟨by simp, rfl⟩
  | cons channel rest inductionHypothesis =>
      simp only [fillFrom]
      rcases inductionHypothesis (position + 1)
          (if channel.id = last then position + 1 else ndx) with
        ⟨absent, kept⟩ | ⟨offset, found, at_offset, same, ended⟩
      · by_cases here : channel.id = last
        · refine Or.inr ⟨0, channel, rfl, here, ?_⟩
          rw [kept, if_pos here]
        · refine Or.inl ⟨?_, ?_⟩
          · intro other member
            rcases List.mem_cons.mp member with rfl | later
            · exact here
            · exact absent other later
          · rw [kept, if_neg here]
      · refine Or.inr ⟨offset + 1, found, at_offset, same, ?_⟩
        rw [ended]
        omega

end Filling

/-- The last position of the page that begins at the start. -/
def lastPosition (size : Nat) (start : Int) : Int :=
  if (size : Int) < start + pageSize then size - 1
  else start + pageSize - 1

theorem lastPosition_bounds {size : Nat} {start : Int}
    (inside : start < size) :
    start ≤ lastPosition size start ∧ lastPosition size start < size ∧
      (lastPosition size start + 1 < size →
        lastPosition size start = start + pageSize - 1) := by
  unfold lastPosition pageSize
  split <;> omega

namespace Guide

/-- The guide after `loadProgramData` has asked for a page. -/
def turned (guide : Guide UUID) (start last : Int)
    (request : ProgramsRequest UUID) : Guide UUID :=
  { guide with
    currentDisplayChannelStartNdx := start
    currentDisplayChannelEndNdx := last
    programRows := []
    pagingButtons := []
    requests := guide.requests ++ [request]
    outstanding := guide.outstanding ++ [request] }

theorem displayChannels_eq {guide : Guide UUID}
    {channels : List (Channel UUID)} {ids : List (Option UUID)}
    {start : Int} (unfiltered : guide.filters.any = false)
    (shown : guide.allChannels = some channels)
    (filled : guide.manager.channelIds = some ids)
    (lengths : ids.length = channels.length)
    (nonneg : 0 ≤ start) (inside : start < channels.length) :
    ∃ request,
      guide.displayChannels start pageSize =
        some (guide.turned start (lastPosition channels.length start)
          request) ∧
      request.channelIds =
        (ids.drop start.toNat).take
          (lastPosition channels.length start + 1 - start).toNat := by
  obtain ⟨first_le, last_lt, _⟩ := lastPosition_bounds inside
  have range :
      (if (ids.length : Int) < lastPosition channels.length start then
        (ids.length : Int)
      else lastPosition channels.length start + 1) =
        lastPosition channels.length start + 1 :=
    if_neg (by omega)
  have ordered : start ≤ lastPosition channels.length start + 1 := by
    omega
  have within :
      lastPosition channels.length start + 1 ≤ (ids.length : Int) := by
    omega
  have copied := copyOfRange_inside ids nonneg ordered within
  have last_eq :
      (if (channels.length : Int) < start + pageSize then
        (channels.length : Int)
      else start + pageSize) - 1 = lastPosition channels.length start := by
    unfold lastPosition
    split <;> rfl
  simp only [displayChannels, shown, Option.bind_some, unfiltered,
    Bool.false_eq_true, if_false, loadProgramData,
    TvManager.getProgramsAsync, filled, last_eq, range, copied,
    Option.map_some, turned]
  exact ⟨_, rfl, rfl⟩

/-- Before any channels have arrived. -/
structure Blank (guide : Guide UUID) : Prop where
  unfiltered : guide.filters.any = false
  none_known : guide.manager.getAllChannels = []
  none_shown : guide.allChannels.getD [] = []
  silent : guide.outstanding = []
  no_buttons : guide.pagingButtons = []

/-- The guide has asked for a page of the channels, with buttons as soon as
an answer has arrived. -/
structure Paged (channels : List (Channel UUID)) (guide : Guide UUID) :
    Prop where
  unfiltered : guide.filters.any = false
  known : guide.manager.allChannels = some channels
  shown : guide.allChannels = some channels
  filled : guide.manager.channelIds =
    some (channels.map fun channel => some channel.id)
  nonneg : 0 ≤ guide.currentDisplayChannelStartNdx
  inside : guide.currentDisplayChannelStartNdx < channels.length
  last : guide.currentDisplayChannelEndNdx =
    lastPosition channels.length guide.currentDisplayChannelStartNdx
  buttons : guide.pagingButtons =
      guide.pageUpButton ++ guide.pageDownButton ∨
    guide.pagingButtons = [] ∧ guide.outstanding ≠ []

def Sound (channels : List (Channel UUID)) (guide : Guide UUID) : Prop :=
  guide.Blank ∨ guide.Paged channels

theorem opened_blank {filters : GuideFilters} (now : LocalDateTime)
    (unfiltered : filters.any = false) :
    (opened filters now : Guide UUID).Blank :=
  ⟨unfiltered, rfl, rfl, rfl, rfl⟩

variable {channels : List (Channel UUID)} {guide : Guide UUID}

theorem Paged.last_bounds (paged : guide.Paged channels) :
    guide.currentDisplayChannelStartNdx ≤
        guide.currentDisplayChannelEndNdx ∧
      guide.currentDisplayChannelEndNdx < channels.length := by
  have bounds := lastPosition_bounds paged.inside
  rw [paged.last]
  exact ⟨bounds.1, bounds.2.1⟩

/-- Every button turns to a page inside the list. -/
theorem Paged.button_inside (paged : guide.Paged channels) {start : Int}
    (member : start ∈ guide.pagingButtons) :
    0 ≤ start ∧ start < channels.length := by
  have bounds := paged.last_bounds
  have nonneg := paged.nonneg
  have inside := paged.inside
  rcases paged.buttons with drawn | ⟨none, _⟩
  · rw [drawn, List.mem_append, pageUpButton, pageDownButton,
      paged.shown] at member
    rcases member with up | down
    · split at up
      · rw [List.mem_singleton] at up
        have page : pageSize = 75 := rfl
        omega
      · simp at up
    · split at down
      case isTrue more =>
        rw [List.mem_singleton] at down
        have below := more.1
        rw [Option.getD_some] at below
        omega
      case isFalse =>
        simp at down
  · simp [none] at member

/-- A page that begins inside the list is requested by its ids. -/
theorem Paged.of_displayChannels {start : Int}
    (unfiltered : guide.filters.any = false)
    (known : guide.manager.allChannels = some channels)
    (shown : guide.allChannels = some channels)
    (filled : guide.manager.channelIds =
      some (channels.map fun channel => some channel.id))
    (nonneg : 0 ≤ start) (inside : start < channels.length) :
    ∃ after, guide.displayChannels start pageSize = some after ∧
      after.Paged channels ∧ RequestsDisplayed guide after ∧
      after.currentDisplayChannelStartNdx = start := by
  obtain ⟨request, turns, ids⟩ :=
    displayChannels_eq unfiltered shown filled (List.length_map _) nonneg inside
  refine ⟨_, turns, ?_, Or.inr ⟨request, rfl, ?_⟩, rfl⟩
  · exact
      { unfiltered := unfiltered
        known := known
        shown := shown
        filled := filled
        nonneg := nonneg
        inside := inside
        last := rfl
        buttons := Or.inr ⟨rfl, by simp [turned]⟩ }
  · rw [ids, ← List.map_drop, ← List.map_take]
    simp [turned, displayedChannels, shown]

/-- The page has the channel at every position from its first to its
last. -/
theorem Paged.mem_displayedChannels (paged : guide.Paged channels)
    {position : Nat} {channel : Channel UUID}
    (held : channels[position]? = some channel)
    (after_first : guide.currentDisplayChannelStartNdx ≤ position)
    (before_last : (position : Int) ≤ guide.currentDisplayChannelEndNdx) :
    channel ∈ guide.displayedChannels := by
  have nonneg := paged.nonneg
  have place :
      guide.displayedChannels[position -
        guide.currentDisplayChannelStartNdx.toNat]? = some channel := by
    rw [displayedChannels, paged.shown, Option.getD_some,
      List.getElem?_take_of_lt (by omega), List.getElem?_drop, ← held]
    congr 1
    omega
  exact List.mem_of_getElem? place

/-- The page on which a load starts has the position, counted from one, for
which it was chosen. -/
theorem firstPage_bounds {size ndx : Nat} (found : ndx ≤ size)
    (some : 0 < size) :
    0 ≤ firstPage ndx ∧ firstPage ndx < size ∧
      (0 < ndx →
        firstPage ndx + 1 ≤ ndx ∧
          (ndx : Int) ≤ lastPosition size (firstPage ndx) + 1) := by
  unfold firstPage lastPosition pageSize
  split <;> split <;> omega

theorem Paged.load (paged : guide.Paged channels) (now : LocalDateTime) :
    (guide.load now).Paged channels :=
  ⟨paged.unfiltered, paged.known, paged.shown, paged.filled, paged.nonneg,
    paged.inside, paged.last, paged.buttons⟩

theorem Blank.load (blank : guide.Blank) (now : LocalDateTime) :
    (guide.load now).Blank :=
  ⟨blank.unfiltered, blank.none_known, blank.none_shown, blank.silent,
    blank.no_buttons⟩

section Events

variable [DecidableEq UUID]

theorem Paged.press (paged : guide.Paged channels) {button : Nat}
    {start : Int} (shown : guide.pagingButtons[button]? = some start) :
    ∃ after, guide.page channels (.press button) = some after ∧
      after.Paged channels ∧ RequestsDisplayed guide after ∧
      after.currentDisplayChannelStartNdx = start := by
  obtain ⟨nonneg, inside⟩ :=
    paged.button_inside (List.mem_of_getElem? shown)
  simp only [page, shown]
  exact
    Paged.of_displayChannels paged.unfiltered paged.known paged.shown
      paged.filled nonneg inside

theorem Paged.programsArrive (paged : guide.Paged channels)
    {after : Guide UUID} {index : Nat}
    {programs : Option (List (Program UUID))}
    (arrives : guide.programsArrive index programs = some after) :
    after.Paged channels ∧ after.requests = guide.requests := by
  rcases programsArrive_eq arrives with
    ⟨rfl, _⟩ | ⟨request, manager, _, loaded, rfl⟩
  · exact ⟨paged, rfl⟩
  · rw [programsLoaded_eq loaded]
    exact
      ⟨⟨paged.unfiltered, paged.known, paged.shown, paged.filled,
        paged.nonneg, paged.inside, paged.last, Or.inl rfl⟩, rfl⟩

theorem Blank.programsArrive (blank : guide.Blank) (index : Nat)
    (programs : Option (List (Program UUID))) :
    guide.programsArrive index programs = some guide := by
  simp [Guide.programsArrive, blank.silent]

/-- The guide when channels have arrived, before it turns to a page. -/
def withChannels (guide : Guide UUID) (channels : List (Channel UUID))
    (ids : List (Option UUID)) : Guide UUID :=
  { guide with
    loads := guide.loads - 1
    manager :=
      { guide.manager with
        allChannels := some channels
        channelIds := some ids }
    allChannels := some channels }

theorem answered (guide : Guide UUID) (last : UUID)
    (some_channels : channels ≠ []) :
    guide.channelsArrive (some channels) (some last) =
      (guide.withChannels channels
        (fillFrom last 0 0 channels).1).displayChannels
          (firstPage (fillFrom last 0 0 channels).2) pageSize := by
  simp only [channelsArrive, TvManager.channelsLoaded,
    TvManager.fillChannelIds, TvManager.getAllChannels, Option.getD_some,
    List.isEmpty_iff, some_channels, if_false]
  rfl

theorem answered_without_last (guide : Guide UUID)
    (some_channels : channels ≠ []) :
    guide.channelsArrive (some channels) none =
      (guide.withChannels channels
        (List.replicate channels.length none)).displayChannels 0
          pageSize := by
  simp only [channelsArrive, TvManager.channelsLoaded,
    TvManager.fillChannelIds, TvManager.getAllChannels, Option.getD_some,
    List.isEmpty_iff, some_channels, if_false]
  rfl

theorem Paged.of_answer (unfiltered : guide.filters.any = false)
    (some_channels : channels ≠ []) (last : UUID) :
    ∃ after,
      guide.channelsArrive (some channels) (some last) = some after ∧
        after.Paged channels ∧ RequestsDisplayed guide after ∧
        after.ShowsLast (some last) := by
  have size : 0 < channels.length := List.length_pos_iff.mpr some_channels
  have position := fillFrom_snd last channels 0 0
  have found :
      (fillFrom last 0 0 channels).2 ≤ channels.length := by
    rcases position with ⟨_, none⟩ | ⟨offset, channel, held, _, one⟩
    · omega
    · have inside := (List.getElem?_eq_some_iff.mp held).1
      omega
  obtain ⟨nonneg, inside, bounds⟩ := firstPage_bounds found size
  rw [answered guide last some_channels]
  obtain ⟨after, turns, paged, requested, start⟩ :=
    @Paged.of_displayChannels UUID channels
      (guide.withChannels channels (fillFrom last 0 0 channels).1) _
      unfiltered rfl rfl (congrArg some (fillFrom_fst last channels 0 0))
      nonneg inside
  refine ⟨after, turns, paged, requested, ?_⟩
  intro given
  obtain ⟨channel, member, same⟩ := given
  rcases position with ⟨absent, _⟩ | ⟨offset, watched, held, id, one⟩
  · rw [paged.shown, Option.getD_some] at member
    exact absurd (Option.some.inj same) (absent channel member)
  · refine ⟨watched, ?_, by rw [id]⟩
    have within := bounds (by omega)
    apply paged.mem_displayedChannels held
    · rw [start]
      omega
    · rw [paged.last, start]
      omega

/-- Without a last channel the first page is requested by nulls. -/
theorem not_requestsDisplayed_without_last
    (unfiltered : guide.filters.any = false)
    (some_channels : channels ≠ []) :
    ∃ after, guide.channelsArrive (some channels) none = some after ∧
      ¬RequestsDisplayed guide after := by
  have size : 0 < channels.length := List.length_pos_iff.mpr some_channels
  rw [answered_without_last guide some_channels]
  obtain ⟨request, turns, ids⟩ :=
    @displayChannels_eq UUID
      (guide.withChannels channels (List.replicate channels.length none))
      channels (List.replicate channels.length none) 0 unfiltered rfl rfl
      (List.length_replicate) (Int.le_refl 0) (by omega)
  refine ⟨_, turns, ?_⟩
  intro either
  rcases either with same | ⟨other, more, shown⟩
  · have lengths := congrArg List.length same
    simp [turned, withChannels] at lengths
  · have equal : other = request := by
      simpa [turned, withChannels] using more.symm
    subst equal
    have null : none ∈ other.channelIds := by
      rw [ids, List.drop_replicate, List.take_replicate]
      apply List.mem_replicate.mpr
      refine ⟨?_, rfl⟩
      unfold lastPosition pageSize
      split <;> omega
    rw [shown] at null
    obtain ⟨channel, _, impossible⟩ := List.mem_map.mp null
    cases impossible

theorem Paged.of_failure (paged : guide.Paged channels)
    (last : Option UUID) :
    ∃ after, guide.channelsArrive none last = some after ∧
      after.Paged channels ∧ RequestsDisplayed guide after ∧
      after.displayedChannels = channels.take pageSize.toNat := by
  have size : 0 < channels.length := by
    have nonneg := paged.nonneg
    have inside := paged.inside
    omega
  have some_channels : channels ≠ [] := List.length_pos_iff.mp size
  have failed :
      guide.channelsArrive none last =
        { guide with
          loads := guide.loads - 1
          allChannels := some channels }.displayChannels 0 pageSize := by
    simp only [channelsArrive, TvManager.channelsLoaded,
      TvManager.getAllChannels, paged.known, Option.getD_some,
      List.isEmpty_iff, some_channels, if_false]
    rfl
  rw [failed]
  obtain ⟨after, turns, turned, requested, start⟩ :=
    @Paged.of_displayChannels UUID channels
      { guide with
        loads := guide.loads - 1
        allChannels := some channels } _
      paged.unfiltered paged.known rfl paged.filled (Int.le_refl 0)
      (by omega)
  refine ⟨after, turns, turned, requested, ?_⟩
  rw [displayedChannels, turned.shown, turned.last, start,
    Option.getD_some]
  unfold lastPosition pageSize
  split
  case isTrue short =>
    rw [List.take_of_length_le (by simp), List.take_of_length_le]
    · rfl
    · omega
  case isFalse long =>
    rfl

/-! ## Following the buttons -/

section Following

variable {programs : Option (List (Program UUID))}

theorem Leads.refl (guide : Guide UUID) :
    Leads channels programs guide guide :=
  ⟨[], by simp, rfl⟩

theorem Leads.trans {first second third : Guide UUID}
    (former : Leads channels programs first second)
    (latter : Leads channels programs second third) :
    Leads channels programs first third := by
  obtain ⟨early, early_paging, reaches⟩ := former
  obtain ⟨late, late_paging, goes_on⟩ := latter
  refine ⟨early ++ late, ?_, ?_⟩
  · intro move member
    rcases List.mem_append.mp member with first | second
    · exact early_paging move first
    · exact late_paging move second
  · rw [run_append, reaches, goes_on]

theorem Leads.single {after : Guide UUID} {move : PagingEvent UUID}
    (paging : IsPaging programs move)
    (moves : guide.page channels move = some after) :
    Leads channels programs guide after := by
  refine ⟨[move], ?_, moves⟩
  intro other member
  rwa [List.mem_singleton.mp member]

theorem buildProgramsDict_some (manager : TvManager UUID)
    {list : List (Program UUID)} (startTime : LocalDateTime)
    (readable : ∀ program ∈ list, program.endDate ≠ none) :
    ∃ after, manager.buildProgramsDict list startTime = some after := by
  have folds :
      ∀ dict : ProgramsDict UUID, ∃ filled,
        list.foldlM (TvManager.addProgram startTime) dict =
          some filled := by
    induction list with
    | nil =>
        intro dict
        exact ⟨dict, rfl⟩
    | cons program rest inductionHypothesis =>
        intro dict
        rw [List.forall_mem_cons] at readable
        obtain ⟨endDate, ends⟩ := Option.ne_none_iff_exists'.mp readable.1
        simp only [List.foldlM_cons, TvManager.addProgram, ends,
          Option.map_some, Option.bind_eq_bind, Option.bind_some]
        exact inductionHypothesis readable.2 _
  obtain ⟨filled, filling⟩ := folds fun _ => none
  exact ⟨_, by rw [TvManager.buildProgramsDict, filling, Option.map_some]⟩

/-- One answer brings the buttons of the page. -/
theorem Paged.draw (paged : guide.Paged channels)
    (readable : ∀ program ∈ programs.getD [], program.endDate ≠ none) :
    ∃ after, Leads channels programs guide after ∧
      after.Paged channels ∧
      after.currentDisplayChannelStartNdx =
        guide.currentDisplayChannelStartNdx ∧
      after.pagingButtons = after.pageUpButton ++ after.pageDownButton := by
  rcases paged.buttons with drawn | ⟨_, waiting⟩
  · exact ⟨guide, Leads.refl guide, paged, rfl, drawn⟩
  · obtain ⟨request, rest, outstanding⟩ :=
      List.exists_cons_of_ne_nil waiting
    have arrives : ∃ after, guide.programsArrive 0 programs = some after := by
      simp only [Guide.programsArrive, outstanding, List.getElem?_cons_zero]
      cases programs with
      | none =>
          exact ⟨_, rfl⟩
      | some list =>
          have ends : ∀ program ∈ list, program.endDate ≠ none := readable
          obtain ⟨manager, built⟩ :=
            buildProgramsDict_some guide.manager request.startTime ends
          simp only [TvManager.programsLoaded, built]
          exact ⟨_, rfl⟩
    obtain ⟨after, arrived⟩ := arrives
    refine
      ⟨after, Leads.single (Or.inr rfl) arrived,
        (paged.programsArrive arrived).1, ?_⟩
    rcases programsArrive_eq arrived with
      ⟨_, none⟩ | ⟨answered, manager, _, _, rfl⟩
    · simp [outstanding] at none
    · exact ⟨rfl, rfl⟩

/-- A button of the page turns to its start. -/
theorem Paged.follow (paged : guide.Paged channels)
    (readable : ∀ program ∈ programs.getD [], program.endDate ≠ none)
    {start : Int}
    (member :
      ∀ drawn : Guide UUID, drawn.Paged channels →
        drawn.currentDisplayChannelStartNdx =
          guide.currentDisplayChannelStartNdx →
        start ∈ drawn.pageUpButton ++ drawn.pageDownButton) :
    ∃ after, Leads channels programs guide after ∧
      after.Paged channels ∧
      after.currentDisplayChannelStartNdx = start := by
  obtain ⟨drawn, leads, drawnPaged, same, buttons⟩ := paged.draw readable
  have shown := member drawn drawnPaged same
  rw [← buttons] at shown
  obtain ⟨button, at_button⟩ := List.getElem?_of_mem shown
  obtain ⟨after, moves, afterPaged, _, turned⟩ := drawnPaged.press at_button
  have pressed : Leads channels programs drawn after :=
    Leads.single (Or.inl ⟨button, rfl⟩) moves
  exact ⟨after, leads.trans pressed, afterPaged, turned⟩

theorem Paged.reaches_up
    (readable : ∀ program ∈ programs.getD [], program.endDate ≠ none)
    (bound : Nat) :
    ∀ {guide : Guide UUID}, guide.Paged channels →
      guide.currentDisplayChannelStartNdx ≤ bound →
        ∀ position : Nat,
          (position : Int) ≤ guide.currentDisplayChannelEndNdx →
            ∃ reached, Leads channels programs guide reached ∧
              reached.currentDisplayChannelStartNdx ≤ position ∧
              position ≤ reached.currentDisplayChannelEndNdx := by
  induction bound with
  | zero =>
      intro guide paged first position last
      exact ⟨guide, Leads.refl guide, by omega, last⟩
  | succ bound inductionHypothesis =>
      intro guide paged first position last
      by_cases here : guide.currentDisplayChannelStartNdx ≤ position
      · exact ⟨guide, Leads.refl guide, here, last⟩
      · obtain ⟨after, leads, turned, start⟩ :=
          @Paged.follow UUID channels guide _ programs paged readable
            (max 0 (guide.currentDisplayChannelStartNdx - pageSize))
            (by
              intro drawn _ same
              rw [pageUpButton, same, if_pos (by omega)]
              simp)
        have page : pageSize = 75 := rfl
        have inside := paged.inside
        have before : (position : Int) ≤ after.currentDisplayChannelEndNdx := by
          rw [turned.last, start]
          unfold lastPosition
          split <;> omega
        obtain ⟨reached, goes_on, displays⟩ :=
          inductionHypothesis turned (by omega) position before
        exact ⟨reached, leads.trans goes_on, displays⟩

theorem Paged.reaches_down
    (readable : ∀ program ∈ programs.getD [], program.endDate ≠ none)
    (bound : Nat) :
    ∀ {guide : Guide UUID}, guide.Paged channels →
      (channels.length : Int) ≤
          guide.currentDisplayChannelEndNdx + 1 + bound →
        ∀ position : Nat, position < channels.length →
          guide.currentDisplayChannelStartNdx ≤ position →
            ∃ reached, Leads channels programs guide reached ∧
              reached.currentDisplayChannelStartNdx ≤ position ∧
              position ≤ reached.currentDisplayChannelEndNdx := by
  induction bound with
  | zero =>
      intro guide paged last position inside first
      exact ⟨guide, Leads.refl guide, first, by omega⟩
  | succ bound inductionHypothesis =>
      intro guide paged last position inside first
      by_cases here :
          (position : Int) ≤ guide.currentDisplayChannelEndNdx
      · exact ⟨guide, Leads.refl guide, first, here⟩
      · obtain ⟨after, leads, turned, start⟩ :=
          @Paged.follow UUID channels guide _ programs paged readable
            (guide.currentDisplayChannelEndNdx + 1)
            (by
              intro drawn drawnPaged same
              have equal :
                  drawn.currentDisplayChannelEndNdx =
                    guide.currentDisplayChannelEndNdx := by
                rw [drawnPaged.last, same, paged.last]
              rw [pageDownButton, drawnPaged.shown, equal,
                drawnPaged.unfiltered, Option.getD_some,
                if_pos ⟨by omega, rfl⟩]
              simp)
        have bounds := turned.last_bounds
        obtain ⟨reached, goes_on, displays⟩ :=
          inductionHypothesis turned (by omega) position inside (by omega)
        exact ⟨reached, leads.trans goes_on, displays⟩

end Following

theorem Paged.reaches (paged : guide.Paged channels) {position : Nat}
    (inside : position < channels.length) :
    guide.Reaches channels position := by
  intro programs readable
  have nonneg := paged.nonneg
  have bounds := paged.last_bounds
  by_cases below :
      guide.currentDisplayChannelStartNdx ≤ position
  · exact
      Paged.reaches_down readable channels.length paged (by omega) position
        inside below
  · exact
      Paged.reaches_up readable
        guide.currentDisplayChannelStartNdx.toNat paged (by omega) position
        (by omega)

/-! ## Every event -/

theorem Sound.reaches (sound : guide.Sound channels) {position : Nat}
    (inside : position < (guide.allChannels.getD []).length) :
    guide.Reaches channels position := by
  rcases sound with blank | paged
  · simp [blank.none_shown] at inside
  · rw [paged.shown, Option.getD_some] at inside
    exact paged.reaches inside

/-- The guide is as expected after the event exactly if the last channel was
stored, and then it stays sound. -/
def PagesWhenStored (channels : List (Channel UUID)) (guide : Guide UUID)
    (event : PagingEvent UUID) : Prop :=
  (guide.PagesExactly channels event ↔
      guide.LastChannelStored channels event) ∧
    (guide.LastChannelStored channels event →
      ∀ after, guide.page channels event = some after →
        after.Sound channels)

/-- An event that turns to a page by its ids is as expected if it shows the
last channel. -/
theorem PagesWhenStored.of_after {event : PagingEvent UUID}
    {after : Guide UUID} (moves : guide.page channels event = some after)
    (sound : after.Sound channels) (requested : RequestsDisplayed guide after)
    (stored : guide.LastChannelStored channels event ↔
      ∀ answered last, event = .channelsArrive answered last →
        guide.loads ≠ 0 → after.ShowsLast last) :
    guide.PagesWhenStored channels event := by
  have only : ∀ other, guide.page channels event = some other →
      other = after := by
    intro other same
    rw [moves] at same
    exact (Option.some.inj same).symm
  refine ⟨⟨?_, ?_⟩, ?_⟩
  · intro exactly
    apply stored.mpr
    intro answered last arrival loading
    exact exactly.lastShown answered last after arrival loading moves
  · intro holds
    constructor
    · intro _
      simp [moves]
    · rintro other same
      rw [only other same]
      exact requested
    · intro answered last other arrival loading same
      rw [only other same]
      exact stored.mp holds answered last arrival loading
    · intro other same position inside
      rw [only other same] at inside ⊢
      exact sound.reaches inside
  · intro _ other same
    rw [only other same]
    exact sound

theorem Sound.pagesWhenStored_answered (sound : guide.Sound channels)
    (loading : guide.loads ≠ 0) (last : Option UUID) :
    guide.PagesWhenStored channels (.channelsArrive true last) := by
  have unfiltered : guide.filters.any = false := by
    rcases sound with blank | paged
    · exact blank.unfiltered
    · exact paged.unfiltered
  by_cases none_at_all : channels = []
  · subst none_at_all
    have moves :
        ∃ manager : TvManager UUID, manager.allChannels = some [] ∧
          guide.page [] (.channelsArrive true last) =
            some
              { guide with
                loads := guide.loads - 1
                manager := manager
                allChannels := some [] } := by
      simp only [page, if_neg loading, if_true, channelsArrive,
        TvManager.channelsLoaded, TvManager.fillChannelIds]
      cases last with
      | none => exact ⟨_, rfl, rfl⟩
      | some last => exact ⟨_, rfl, rfl⟩
    obtain ⟨manager, empty, moves⟩ := moves
    rcases sound with blank | paged
    · refine PagesWhenStored.of_after moves ?_ (Or.inl rfl) ?_
      · exact
          Or.inl
            ⟨unfiltered, by simp [TvManager.getAllChannels, empty], rfl,
              blank.silent, blank.no_buttons⟩
      · refine iff_of_true (Or.inr (Or.inl rfl)) ?_
        rintro _ _ _ _ ⟨channel, member, _⟩
        simp at member
    · have nonneg := paged.nonneg
      have inside := paged.inside
      simp only [List.length_nil] at inside
      omega
  · cases last with
    | none =>
        have nulls :
            ¬guide.LastChannelStored channels
              (.channelsArrive true none) := by
          simp [LastChannelStored, loading, none_at_all]
        obtain ⟨after, arrives, wrong⟩ :=
          not_requestsDisplayed_without_last unfiltered none_at_all
        have moves :
            guide.page channels (.channelsArrive true none) =
              some after := by
          simp only [page, if_neg loading, if_true, arrives]
        refine ⟨iff_of_false ?_ nulls, fun holds => absurd holds nulls⟩
        intro exactly
        exact wrong (exactly.requested after moves)
    | some last =>
        obtain ⟨after, arrives, paged, requested, shows⟩ :=
          Paged.of_answer unfiltered none_at_all last
        have moves :
            guide.page channels (.channelsArrive true (some last)) =
              some after := by
          simp only [page, if_neg loading, if_true, arrives]
        apply PagesWhenStored.of_after moves (Or.inr paged) requested
        refine iff_of_true (Or.inr (Or.inr (by simp))) ?_
        intro _ _ same _
        cases same
        exact shows

theorem Sound.pagesWhenStored_failed (sound : guide.Sound channels)
    (loading : guide.loads ≠ 0) (last : Option UUID) :
    guide.PagesWhenStored channels (.channelsArrive false last) := by
  rcases sound with blank | paged
  · have moves :
        guide.page channels (.channelsArrive false last) =
          some
            { guide with
              loads := guide.loads - 1
              allChannels := some [] } := by
      simp [page, if_neg loading, channelsArrive, TvManager.channelsLoaded,
        blank.none_known]
    refine PagesWhenStored.of_after moves ?_ (Or.inl rfl) ?_
    · exact
        Or.inl
          ⟨blank.unfiltered, blank.none_known, rfl, blank.silent,
            blank.no_buttons⟩
    · refine iff_of_true (Or.inr ?_) ?_
      · intro given
        obtain ⟨channel, member, _⟩ := given
        simp [blank.none_known] at member
      · rintro _ _ _ _ ⟨channel, member, _⟩
        simp at member
  · obtain ⟨after, arrives, turned, requested, displayed⟩ :=
      paged.of_failure last
    have moves :
        guide.page channels (.channelsArrive false last) =
          some after := by
      simp only [page, if_neg loading, Bool.false_eq_true, if_false, arrives]
    apply PagesWhenStored.of_after moves (Or.inr turned) requested
    have known : guide.manager.getAllChannels = channels := by
      rw [TvManager.getAllChannels, paged.known, Option.getD_some]
    simp only [LastChannelStored, loading, false_or, known]
    constructor
    · intro stored _ _ same _
      cases same
      rw [ShowsLast, displayed, turned.shown, Option.getD_some]
      exact stored
    · intro shows
      have shown := shows false last rfl loading
      rwa [ShowsLast, displayed, turned.shown, Option.getD_some] at shown

theorem Sound.pagesWhenStored (sound : guide.Sound channels)
    (event : PagingEvent UUID) :
    guide.PagesWhenStored channels event := by
  have no_arrival :
      ∀ {other : PagingEvent UUID} {after : Guide UUID},
        (∀ answered last, other ≠ .channelsArrive answered last) →
          (guide.LastChannelStored channels other ↔
            ∀ answered last, other = .channelsArrive answered last →
              guide.loads ≠ 0 → after.ShowsLast last) := by
    intro other after different
    refine iff_of_true ?_ ?_
    · cases other with
      | channelsArrive answered last => exact absurd rfl (different _ _)
      | load | press | programsArrive => trivial
    · intro answered last same
      exact absurd same (different answered last)
  cases event with
  | load now =>
      have kept : (guide.load now).Sound channels := by
        rcases sound with blank | paged
        · exact Or.inl (blank.load now)
        · exact Or.inr (paged.load now)
      have moves :
          guide.page channels (.load now) = some (guide.load now) :=
        rfl
      exact
        PagesWhenStored.of_after moves kept (Or.inl rfl)
          (no_arrival (by simp))
  | channelsArrive answered last =>
      by_cases loading : guide.loads = 0
      · have moves :
            guide.page channels (.channelsArrive answered last) =
              some guide := by
          simp only [page, if_pos loading]
        apply PagesWhenStored.of_after moves sound (Or.inl rfl)
        refine iff_of_true ?_ fun _ _ _ different => absurd loading different
        cases answered with
        | true => exact Or.inl loading
        | false => exact Or.inl loading
      · cases answered with
        | true => exact sound.pagesWhenStored_answered loading last
        | false => exact sound.pagesWhenStored_failed loading last
  | press button =>
      cases shown : guide.pagingButtons[button]? with
      | none =>
          have moves :
              guide.page channels (.press button) = some guide := by
            simp only [page, shown]
          exact
            PagesWhenStored.of_after moves sound (Or.inl rfl)
              (no_arrival (by simp))
      | some start =>
          rcases sound with blank | paged
          · simp [blank.no_buttons] at shown
          · obtain ⟨after, moves, turned, requested, _⟩ := paged.press shown
            exact
              PagesWhenStored.of_after moves (Or.inr turned) requested
                (no_arrival (by simp))
  | programsArrive index programs =>
      cases arrives : guide.page channels (.programsArrive index programs)
        with
      | none =>
          refine ⟨iff_of_true ?_ trivial, ?_⟩
          · constructor <;> simp [arrives]
          · simp [arrives]
      | some after =>
          have both : after.Sound channels ∧
              RequestsDisplayed guide after := by
            rcases sound with blank | paged
            · have same : some guide = some after := by
                rw [← arrives]
                exact (blank.programsArrive index programs).symm
              cases same
              exact ⟨Or.inl blank, Or.inl rfl⟩
            · have kept := paged.programsArrive arrives
              exact ⟨Or.inr kept.1, Or.inl kept.2⟩
          exact
            PagesWhenStored.of_after arrives both.1 both.2
              (no_arrival (by simp))

/-- In every run of a guide without filters each event is as expected if and
only if each load finds a last channel stored. -/
theorem pages_exactly_iff_stored (channels : List (Channel UUID))
    {filters : GuideFilters} (unfiltered : filters.any = false)
    (now : LocalDateTime) (events : List (PagingEvent UUID)) :
    Admitted (fallible (page channels)) (WhileRunning (PagesExactly channels))
        (some (opened filters now)) events ↔
      Admitted (fallible (page channels))
        (WhileRunning (LastChannelStored channels))
        (some (opened filters now)) events := by
  have initially : (opened filters now : Guide UUID).Sound channels :=
    Or.inl (opened_blank now unfiltered)
  apply fallible_admitted_iff _ _ initially
  · intro guide event sound
    exact (sound.pagesWhenStored event).1
  · intro guide event after sound stored moves
    exact (sound.pagesWhenStored event).2 stored after moves

def threeChannels : List (Channel Nat) :=
  [⟨10⟩, ⟨20⟩, ⟨30⟩]

def noFilters : GuideFilters :=
  ⟨false, false, false, false, false, false⟩

/-- A load and a reload with the second channel as the last one, and the
answers to their requests. -/
theorem three_channels_paged_exactly :
    Admitted (fallible (page threeChannels))
      (WhileRunning (PagesExactly threeChannels))
      (some (opened noFilters 0))
      [.load 0, .channelsArrive true (some 20), .programsArrive 0 (some []),
        .load 60000, .channelsArrive true (some 20),
        .programsArrive 0 none] := by
  apply (pages_exactly_iff_stored threeChannels rfl 0 _).mpr
  exact
    ⟨fun _ _ => trivial, fun _ _ => Or.inr (Or.inr (by simp)),
      fun _ _ => trivial, fun _ _ => trivial,
      fun _ _ => Or.inr (Or.inr (by simp)), fun _ _ => trivial, trivial⟩

/-- Without a stored channel the three channels are requested by three
nulls. -/
theorem no_last_channel_requests_nulls :
    (∃ guide,
      run (fallible (page threeChannels)) (some (opened noFilters 0))
          [.load 0, .channelsArrive true none] = some guide ∧
        guide.displayedChannels = threeChannels ∧
        guide.requests.map ProgramsRequest.channelIds =
          [[none, none, none]]) ∧
      ¬Admitted (fallible (page threeChannels))
        (WhileRunning (PagesExactly threeChannels))
        (some (opened noFilters 0))
        [.load 0, .channelsArrive true none] := by
  refine ⟨⟨_, rfl, rfl, rfl⟩, ?_⟩
  intro given
  obtain ⟨_, arrival, _⟩ := given
  have requested := (arrival _ rfl).requested _ rfl
  rcases requested with none_made | ⟨request, made, ids⟩
  · have lengths := congrArg List.length none_made
    exact absurd lengths (by decide)
  · have nulls :
        [request.channelIds] = [[none, none, none]] := by
      have mapped := congrArg (List.map ProgramsRequest.channelIds) made
      exact mapped.symm
    rw [List.singleton_inj] at nulls
    rw [nulls] at ids
    exact absurd ids (by decide)

end Events

end Guide

end JellyfinTv.LiveTv
