import JellyfinTv.Home.MutableObjectAdapter
import JellyfinTv.Library.Texts
import Mathlib.Data.List.Perm.Subperm
import Mathlib.Data.List.Infix

/-!
# The rows of the home screen

`HomeRowsFragment` has rows of content, in the order of the user's sections,
and two rows that come and go in front of them: the notifications and the
queue of the music that is playing.  Rows of content are removed when the
server has nothing for them.
-/

namespace JellyfinTv.Home

open JellyfinTv.Library

/-- Dismissing the notification of a beta version remembers the version. -/
structure AppNotification where
  message : Text
  dismiss : Option Text
  isPublic : Bool
  deriving DecidableEq, Repr

structure SystemPreferences where
  disableUiModeWarning : Bool
  dismissedBetaNotificationVersion : Text
  deriving DecidableEq, Repr

/-- The device, the build and the texts of the app. -/
structure Environment (Version : Type) where
  isTvDevice : Bool
  VERSION_NAME : Text
  fromString : Text → Option Version
  upcomingMinimumServerVersion : Version
  app_notification_uimode_invalid : Text
  app_notification_beta : Text → Text
  app_notification_update_soon : Version → Version → Text

structure NotificationsRepository where
  notifications : List AppNotification
  systemPreferences : SystemPreferences
  updateServerNotification : Option AppNotification
  deriving DecidableEq, Repr

namespace NotificationsRepository

variable {Version : Type}

def dismissNotification (repository : NotificationsRepository)
    (item : AppNotification) : NotificationsRepository :=
  { repository with
    notifications := repository.notifications.filter (· ≠ item)
    systemPreferences :=
      match item.dismiss with
      | none => repository.systemPreferences
      | some version =>
          { repository.systemPreferences with
            dismissedBetaNotificationVersion := version } }

def addNotification (repository : NotificationsRepository)
    (notification : AppNotification) : NotificationsRepository :=
  { repository with
    notifications := repository.notifications ++ [notification] }

def removeNotification (repository : NotificationsRepository)
    (notification : AppNotification) : NotificationsRepository :=
  { repository with
    notifications := repository.notifications.erase notification }

def addUiModeNotification (environment : Environment Version)
    (repository : NotificationsRepository) : NotificationsRepository :=
  if !environment.isTvDevice &&
      !repository.systemPreferences.disableUiModeWarning then
    repository.addNotification
      ⟨environment.app_notification_uimode_invalid, none, true⟩
  else
    repository

def addBetaNotification (environment : Environment Version)
    (repository : NotificationsRepository) : NotificationsRepository :=
  let dismissedVersion :=
    repository.systemPreferences.dismissedBetaNotificationVersion
  let currentVersion := environment.VERSION_NAME
  let isBeta : Bool := "beta".toList <:+: currentVersion.map Char.toLower
  if isBeta && currentVersion ≠ dismissedVersion then
    repository.addNotification
      ⟨environment.app_notification_beta currentVersion, some currentVersion,
        false⟩
  else
    repository

def addDefaultNotifications (environment : Environment Version)
    (repository : NotificationsRepository) : NotificationsRepository :=
  (repository.addUiModeNotification environment).addBetaNotification
    environment

def created (environment : Environment Version)
    (systemPreferences : SystemPreferences) : NotificationsRepository :=
  addDefaultNotifications environment ⟨[], systemPreferences, none⟩

/-- Given the version of the current server.  The notification that has been
removed is not forgotten unless there is a new one. -/
def updateServerNotifications [LT Version] [DecidableLT Version]
    (environment : Environment Version) (repository : NotificationsRepository)
    (version : Option Text) : NotificationsRepository :=
  let repository :=
    match repository.updateServerNotification with
    | none => repository
    | some notification => repository.removeNotification notification
  match version.bind environment.fromString with
  | none => repository
  | some currentServerVersion =>
      if currentServerVersion < environment.upcomingMinimumServerVersion then
        let notification :=
          ⟨environment.app_notification_update_soon currentServerVersion
            environment.upcomingMinimumServerVersion, none, false⟩
        { repository.addNotification notification with
          updateServerNotification := some notification }
      else
        repository

end NotificationsRepository

/-! ## Rows -/

/-- Rows are told apart by their identity.  A row for what is playing and one
that stands for no items are made each time they are needed. -/
inductive Row where
  | notifications
  | nowPlaying (number : Nat)
  | content (id : Nat)
  | noItems (number : Nat)
  deriving DecidableEq, Repr

structure NotificationsHomeFragmentRow where
  announcementAdapter : Display AppNotification
  hasRowsAdapter : Bool
  rowAdded : Bool
  deriving DecidableEq, Repr

structure HomeFragmentNowPlayingRow where
  row : Option Nat
  rowsMade : Nat
  deriving DecidableEq, Repr

structure HomeRowsFragment where
  notificationsRepository : NotificationsRepository
  adapter : Display Row
  notificationsRow : NotificationsHomeFragmentRow
  nowPlaying : HomeFragmentNowPlayingRow
  noItemsMade : Nat
  deriving DecidableEq, Repr

namespace HomeRowsFragment

variable (calculateDiff : CalculateDiff)

def created (notificationsRepository : NotificationsRepository) :
    HomeRowsFragment where
  notificationsRepository := notificationsRepository
  adapter := .created
  notificationsRow := ⟨.created, false, false⟩
  nowPlaying := ⟨none, 0⟩
  noItemsMade := 0

def rows (fragment : HomeRowsFragment) : List Row :=
  fragment.adapter.adapter.data

/-- A call on the adapter of the rows. -/
def perform (fragment : HomeRowsFragment)
    (operation : MutableObjectAdapter.Operation Row) : HomeRowsFragment :=
  { fragment with
    adapter := fragment.adapter.step calculateDiff (.perform operation) }

/-- `NotificationsHomeFragmentRow.update` -/
def updateNotifications (fragment : HomeRowsFragment) (empty : Bool) :
    HomeRowsFragment :=
  if !fragment.notificationsRow.hasRowsAdapter then
    fragment
  else if empty && fragment.notificationsRow.rowAdded then
    { fragment.perform calculateDiff (.remove .notifications) with
      notificationsRow :=
        { fragment.notificationsRow with rowAdded := false } }
  else if !empty && !fragment.notificationsRow.rowAdded then
    { fragment.perform calculateDiff (.addAt 0 .notifications) with
      notificationsRow :=
        { fragment.notificationsRow with rowAdded := true } }
  else
    fragment

/-- The row hears of the notifications. -/
def notificationsChanged (fragment : HomeRowsFragment) : HomeRowsFragment :=
  let notifications := fragment.notificationsRepository.notifications
  let announcementAdapter :=
    fragment.notificationsRow.announcementAdapter.step calculateDiff
      (.perform (.replaceAll notifications (· == ·) (· == ·)))
  updateNotifications calculateDiff
    { fragment with
      notificationsRow :=
        { fragment.notificationsRow with
          announcementAdapter := announcementAdapter } }
    notifications.isEmpty

/-- `HomeFragmentNowPlayingRow.update` -/
def updateNowPlaying (fragment : HomeRowsFragment)
    (hasAudioQueueItems : Bool) : HomeRowsFragment :=
  if hasAudioQueueItems then
    let nowPlaying :=
      match fragment.nowPlaying.row with
      | some _ => fragment.nowPlaying
      | none =>
          ⟨some fragment.nowPlaying.rowsMade, fragment.nowPlaying.rowsMade + 1⟩
    let fragment := { fragment with nowPlaying := nowPlaying }
    match nowPlaying.row with
    | none => fragment
    | some number =>
        if .nowPlaying number ∈ fragment.rows then fragment
        else fragment.perform calculateDiff (.addAt 0 (.nowPlaying number))
  else
    match fragment.nowPlaying.row with
    | none => fragment
    | some number =>
        { fragment.perform calculateDiff (.remove (.nowPlaying number)) with
          nowPlaying := { fragment.nowPlaying with row := none } }

/-- The rows are added once the sections of the user are known. -/
def addRows (fragment : HomeRowsFragment) (hasAudioQueueItems : Bool)
    (sections : List Nat) : HomeRowsFragment :=
  let fragment :=
    updateNotifications calculateDiff
      { fragment with
        notificationsRow :=
          { fragment.notificationsRow with hasRowsAdapter := true } }
      fragment.notificationsRepository.notifications.isEmpty
  let fragment := fragment.updateNowPlaying calculateDiff hasAudioQueueItems
  sections.foldl
    (fun fragment id => fragment.perform calculateDiff (.add (.content id)))
    fragment

/-- `ItemRowAdapter.removeRow`, for a row and its sibling.  A row that says so
takes the place of the last one. -/
def removeRow (fragment : HomeRowsFragment) (id : Nat)
    (siblingRow : Option Nat) : HomeRowsFragment :=
  let fragment :=
    match siblingRow with
    | none => fragment
    | some sibling =>
        fragment.perform calculateDiff (.remove (.content sibling))
  let fragment :=
    if fragment.rows.length = 1 then
      { fragment.perform calculateDiff
          (.add (.noItems fragment.noItemsMade)) with
        noItemsMade := fragment.noItemsMade + 1 }
    else
      fragment
  fragment.perform calculateDiff (.remove (.content id))

inductive Event where
  | dismissNotification (item : AppNotification)
  | updateServerNotifications (version : Option Text)
  | notificationsChanged
  | addRows (hasAudioQueueItems : Bool) (sections : List Nat)
  | audioQueueChanged (hasAudioQueueItems : Bool)
  | removeRow (id : Nat) (siblingRow : Option Nat)
  | layout

def step {Version : Type} [LT Version] [DecidableLT Version]
    (environment : Environment Version) (fragment : HomeRowsFragment) :
    Event → HomeRowsFragment
  | .dismissNotification item =>
      { fragment with
        notificationsRepository :=
          fragment.notificationsRepository.dismissNotification item }
  | .updateServerNotifications version =>
      { fragment with
        notificationsRepository :=
          fragment.notificationsRepository.updateServerNotifications
            environment version }
  | .notificationsChanged => fragment.notificationsChanged calculateDiff
  | .addRows hasAudioQueueItems sections =>
      fragment.addRows calculateDiff hasAudioQueueItems sections
  | .audioQueueChanged hasAudioQueueItems =>
      fragment.updateNowPlaying calculateDiff hasAudioQueueItems
  | .removeRow id siblingRow =>
      fragment.removeRow calculateDiff id siblingRow
  | .layout =>
      { fragment with
        adapter := fragment.adapter.layout
        notificationsRow :=
          { fragment.notificationsRow with
            announcementAdapter :=
              fragment.notificationsRow.announcementAdapter.layout } }

end HomeRowsFragment

namespace Row

/-- The rows that come and go in front of the others. -/
def isSpecial : Row → Bool
  | .notifications | .nowPlaying _ => true
  | _ => false

def isNowPlaying : Row → Bool
  | .nowPlaying _ => true
  | _ => false

end Row

section Front

variable {Item : Type} {inFront : Item → Bool} {items : List Item}

/-- The items of a kind are in front of the others. -/
def InFront (inFront : Item → Bool) (items : List Item) : Prop :=
  items = items.filter inFront ++ items.filter (!inFront ·)

theorem InFront.cons (front : InFront inFront items) {item : Item}
    (special : inFront item = true) : InFront inFront (item :: items) := by
  rw [InFront, List.filter_cons_of_pos special,
    List.filter_cons_of_neg (by rw [special]; exact Bool.false_ne_true),
    List.cons_append]
  exact congrArg _ front

theorem InFront.append_singleton (front : InFront inFront items) {item : Item}
    (plain : inFront item = false) : InFront inFront (items ++ [item]) := by
  rw [InFront, List.filter_append, List.filter_append,
    List.filter_singleton, List.filter_singleton, plain]
  exact (congrArg (· ++ [item]) front).trans (by simp)

theorem InFront.erase [DecidableEq Item] (front : InFront inFront items)
    (item : Item) : InFront inFront (items.erase item) := by
  rw [InFront, ← List.erase_filter, ← List.erase_filter]
  conv_lhs => rw [front]
  rw [List.erase_append]
  split
  · rename_i here
    have special := (List.mem_filter.mp here).2
    have absent : item ∉ items.filter (!inFront ·) := by
      intro there
      have plain := (List.mem_filter.mp there).2
      rw [special] at plain
      exact Bool.false_ne_true plain
    rw [List.erase_of_not_mem absent]
  · rename_i absent
    rw [List.erase_of_not_mem absent]

end Front

/-- The special rows are in front, each of them at most once: the one of the
notifications if it has been added, the other if there is one. -/
structure InOrder (rows : List Row) (rowAdded : Bool) (playing : Option Nat) :
    Prop where
  front : InFront Row.isSpecial rows
  notifications : rows.count .notifications = if rowAdded then 1 else 0
  nowPlaying :
    rows.filter Row.isNowPlaying = playing.toList.map Row.nowPlaying

namespace InOrder

variable {rows : List Row} {rowAdded : Bool} {playing : Option Nat}

theorem notifications_mem (ordered : InOrder rows rowAdded playing) :
    .notifications ∈ rows ↔ rowAdded = true := by
  rw [← List.count_pos_iff, ordered.notifications]
  cases rowAdded <;> decide

theorem nowPlaying_mem (ordered : InOrder rows rowAdded playing)
    {number : Nat} : .nowPlaying number ∈ rows ↔ playing = some number := by
  have kept :
      .nowPlaying number ∈ rows ↔
        .nowPlaying number ∈ rows.filter Row.isNowPlaying := by
    rw [List.mem_filter]
    exact (and_iff_left rfl).symm
  rw [kept, ordered.nowPlaying]
  cases playing <;> simp [eq_comm]

theorem addNotifications (ordered : InOrder rows false playing) :
    InOrder (.notifications :: rows) true playing where
  front := ordered.front.cons rfl
  notifications := by
    rw [List.count_cons_self, ordered.notifications]
    rfl
  nowPlaying := ordered.nowPlaying

theorem removeNotifications (ordered : InOrder rows true playing) :
    InOrder (rows.erase .notifications) false playing where
  front := ordered.front.erase _
  notifications := by
    rw [List.count_erase_self, ordered.notifications]
    rfl
  nowPlaying := by
    rw [← List.erase_filter, ordered.nowPlaying]
    refine List.erase_of_not_mem fun member => ?_
    obtain ⟨number, -, different⟩ := List.mem_map.mp member
    cases different

theorem addNowPlaying (ordered : InOrder rows rowAdded none) (number : Nat) :
    InOrder (.nowPlaying number :: rows) rowAdded (some number) where
  front := ordered.front.cons rfl
  notifications := by
    rw [List.count_cons_of_ne (by rintro ⟨⟩)]
    exact ordered.notifications
  nowPlaying := by
    rw [List.filter_cons_of_pos rfl, ordered.nowPlaying]
    rfl

theorem removeNowPlaying {number : Nat}
    (ordered : InOrder rows rowAdded (some number)) :
    InOrder (rows.erase (.nowPlaying number)) rowAdded none where
  front := ordered.front.erase _
  notifications := by
    rw [List.count_erase_of_ne (by rintro ⟨⟩)]
    exact ordered.notifications
  nowPlaying := by
    rw [← List.erase_filter, ordered.nowPlaying]
    exact List.erase_cons_head _ _

theorem add (ordered : InOrder rows rowAdded playing) {row : Row}
    (plain : row.isSpecial = false) :
    InOrder (rows ++ [row]) rowAdded playing := by
  refine ⟨ordered.front.append_singleton plain, ?_, ?_⟩
  · rw [List.count_append, ordered.notifications,
      List.count_eq_zero_of_not_mem, Nat.add_zero]
    intro member
    rw [← List.mem_singleton.mp member] at plain
    cases plain
  · rw [List.filter_append, ordered.nowPlaying]
    cases row with
    | notifications => cases plain
    | nowPlaying _ => cases plain
    | content _ => exact List.append_nil _
    | noItems _ => exact List.append_nil _

theorem remove (ordered : InOrder rows rowAdded playing) {row : Row}
    (plain : row.isSpecial = false) :
    InOrder (rows.erase row) rowAdded playing := by
  refine ⟨ordered.front.erase row, ?_, ?_⟩
  · rw [List.count_erase_of_ne, ordered.notifications]
    rintro rfl
    cases plain
  · rw [← List.erase_filter, ordered.nowPlaying]
    refine List.erase_of_not_mem fun member => ?_
    obtain ⟨number, -, rfl⟩ := List.mem_map.mp member
    cases plain

end InOrder

/-! ## Runs of the home screen -/

namespace HomeRowsFragment

variable {calculateDiff : CalculateDiff} {fragment : HomeRowsFragment}

@[simp]
theorem rows_perform_add (row : Row) :
    (fragment.perform calculateDiff (.add row)).rows = fragment.rows ++ [row] :=
  rfl

@[simp]
theorem rows_perform_addAt (row : Row) :
    (fragment.perform calculateDiff (.addAt 0 row)).rows =
      row :: fragment.rows := by
  have inside : ¬((0 : Int) < 0 ∨ (fragment.rows.length : Int) < 0) := by
    omega
  simp only [perform, rows, Display.step, MutableObjectAdapter.perform,
    MutableObjectAdapter.addAt] at inside ⊢
  rw [if_neg inside]
  rfl

@[simp]
theorem rows_perform_remove (row : Row) :
    (fragment.perform calculateDiff (.remove row)).rows =
      fragment.rows.erase row := by
  obtain ⟨patches, removed⟩ :
      ∃ patches,
        fragment.adapter.adapter.perform calculateDiff (.remove row) =
          .ok (⟨fragment.rows.erase row⟩, patches) :=
    MutableObjectAdapter.perform_remove fragment.adapter.adapter row
  simp only [perform, rows, Display.step, removed]

/-- What holds of the home screen at any time. -/
structure Consistent (defaults : List AppNotification)
    (fragment : HomeRowsFragment) : Prop where
  ordered :
    InOrder fragment.rows fragment.notificationsRow.rowAdded
      fragment.nowPlaying.row
  view : fragment.adapter.Mirrors (· = ·)
  announcements :
    fragment.notificationsRow.announcementAdapter.Mirrors (· = ·)
  notices :
    fragment.notificationsRepository.notifications.Subperm
      (fragment.notificationsRepository.updateServerNotification.toList ++
        defaults)

section Steps

variable {defaults : List AppNotification}

/-- A call that keeps the order of the rows. -/
theorem Consistent.perform (converts : calculateDiff.Converts)
    (consistent : fragment.Consistent defaults)
    (operation : MutableObjectAdapter.Operation Row)
    (nowPlaying : HomeFragmentNowPlayingRow) {rowAdded : Bool}
    (keeps : operation.Keeps (· = ·))
    (ordered :
      InOrder (fragment.perform calculateDiff operation).rows rowAdded
        nowPlaying.row) :
    { fragment.perform calculateDiff operation with
      notificationsRow :=
        { fragment.notificationsRow with rowAdded := rowAdded }
      nowPlaying := nowPlaying }.Consistent defaults where
  ordered := ordered
  view := consistent.view.step converts (fun _ => rfl) keeps
  announcements := consistent.announcements
  notices := consistent.notices

theorem Consistent.updateNotifications (converts : calculateDiff.Converts)
    (consistent : fragment.Consistent defaults) (empty : Bool) :
    (fragment.updateNotifications calculateDiff empty).Consistent
      defaults := by
  have ordered := consistent.ordered
  unfold HomeRowsFragment.updateNotifications
  split_ifs with noAdapter leaves comes
  · exact consistent
  · rw [(Bool.and_eq_true_iff.mp leaves).2] at ordered
    refine
      consistent.perform converts (.remove .notifications) fragment.nowPlaying
        trivial ?_
    rw [rows_perform_remove]
    exact ordered.removeNotifications
  · have absent := (Bool.and_eq_true_iff.mp comes).2
    rw [Bool.not_eq_true'] at absent
    rw [absent] at ordered
    refine
      consistent.perform converts (.addAt 0 .notifications) fragment.nowPlaying
        trivial ?_
    rw [rows_perform_addAt]
    exact ordered.addNotifications
  · exact consistent

/-- The row of the notifications is there if it knows of any. -/
theorem rowAdded_updateNotifications
    (added : fragment.notificationsRow.hasRowsAdapter = true) (empty : Bool) :
    (fragment.updateNotifications calculateDiff
      empty).notificationsRow.rowAdded = !empty := by
  unfold updateNotifications
  rw [added]
  cases empty <;> cases known : fragment.notificationsRow.rowAdded <;>
    simp [known]

theorem Consistent.updateNowPlaying (converts : calculateDiff.Converts)
    (consistent : fragment.Consistent defaults) (hasAudioQueueItems : Bool) :
    (fragment.updateNowPlaying calculateDiff hasAudioQueueItems).Consistent
      defaults := by
  have ordered := consistent.ordered
  unfold HomeRowsFragment.updateNowPlaying
  split_ifs
  · cases playing : fragment.nowPlaying.row with
    | none =>
        rw [playing] at ordered
        dsimp only
        split_ifs with there
        · cases ordered.nowPlaying_mem.mp there
        · refine
            consistent.perform converts
              (.addAt 0 (.nowPlaying fragment.nowPlaying.rowsMade)) _
              trivial ?_
          rw [rows_perform_addAt]
          exact ordered.addNowPlaying _
    | some number =>
        rw [playing] at ordered
        dsimp only
        rw [playing]
        dsimp only
        split_ifs with there
        · exact consistent
        · exact absurd (ordered.nowPlaying_mem.mpr rfl) there
  · cases playing : fragment.nowPlaying.row with
    | none =>
        exact consistent
    | some number =>
        rw [playing] at ordered
        refine
          consistent.perform converts (.remove (.nowPlaying number)) _
            trivial ?_
        rw [rows_perform_remove]
        exact ordered.removeNowPlaying

/-- The row of the music is there if there is any. -/
theorem isSome_row_updateNowPlaying (hasAudioQueueItems : Bool) :
    (fragment.updateNowPlaying calculateDiff
      hasAudioQueueItems).nowPlaying.row.isSome = hasAudioQueueItems := by
  unfold updateNowPlaying
  split_ifs with playing
  · rw [playing]
    cases known : fragment.nowPlaying.row with
    | none =>
        dsimp only
        split_ifs <;> rfl
    | some number =>
        dsimp only
        rw [known]
        dsimp only
        split_ifs <;> exact congrArg Option.isSome known
  · rw [Bool.not_eq_true] at playing
    rw [playing]
    cases known : fragment.nowPlaying.row with
    | none =>
        exact congrArg Option.isSome known
    | some number =>
        rfl

theorem Consistent.counted (consistent : fragment.Consistent defaults)
    (noItemsMade : Nat) :
    { fragment with noItemsMade := noItemsMade }.Consistent defaults where
  ordered := consistent.ordered
  view := consistent.view
  announcements := consistent.announcements
  notices := consistent.notices

theorem Consistent.add (converts : calculateDiff.Converts)
    (consistent : fragment.Consistent defaults) (row : Row)
    (plain : row.isSpecial = false) :
    (fragment.perform calculateDiff (.add row)).Consistent defaults :=
  consistent.perform converts (.add row) fragment.nowPlaying trivial
    (consistent.ordered.add plain)

theorem Consistent.remove (converts : calculateDiff.Converts)
    (consistent : fragment.Consistent defaults) (row : Row)
    (plain : row.isSpecial = false) :
    (fragment.perform calculateDiff (.remove row)).Consistent defaults := by
  refine
    consistent.perform converts (.remove row) fragment.nowPlaying trivial ?_
  rw [rows_perform_remove]
  exact consistent.ordered.remove plain

/-- The rows of the sections, added one after another. -/
theorem Consistent.addContents (converts : calculateDiff.Converts)
    (consistent : fragment.Consistent defaults) (sections : List Nat) :
    let added :=
      sections.foldl
        (fun fragment id => fragment.perform calculateDiff (.add (.content id)))
        fragment
    added.Consistent defaults ∧
      added.rows = fragment.rows ++ sections.map Row.content ∧
        added.nowPlaying = fragment.nowPlaying ∧
          added.notificationsRow = fragment.notificationsRow := by
  induction sections generalizing fragment with
  | nil =>
      exact ⟨consistent, (List.append_nil _).symm, rfl, rfl⟩
  | cons id rest inductionHypothesis =>
      obtain ⟨kept, rows, playing, notifications⟩ :=
        inductionHypothesis (consistent.add converts (.content id) rfl)
      refine ⟨kept, ?_, playing, notifications⟩
      rw [List.foldl_cons, rows, rows_perform_add, List.map_cons,
        List.append_assoc]
      rfl

theorem Consistent.addRows (converts : calculateDiff.Converts)
    (consistent : fragment.Consistent defaults) (hasAudioQueueItems : Bool)
    (sections : List Nat) :
    (fragment.addRows calculateDiff hasAudioQueueItems sections).Consistent
      defaults := by
  have known :
      { fragment with
        notificationsRow :=
          { fragment.notificationsRow with
            hasRowsAdapter := true } }.Consistent defaults :=
    { ordered := consistent.ordered
      view := consistent.view
      announcements := consistent.announcements
      notices := consistent.notices }
  exact
    (((known.updateNotifications converts _).updateNowPlaying converts
      _).addContents converts sections).1

theorem Consistent.removeRow (converts : calculateDiff.Converts)
    (consistent : fragment.Consistent defaults) (id : Nat)
    (siblingRow : Option Nat) :
    (fragment.removeRow calculateDiff id siblingRow).Consistent defaults := by
  have without :
      (match siblingRow with
        | none => fragment
        | some sibling =>
            fragment.perform calculateDiff
              (.remove (.content sibling))).Consistent defaults := by
    cases siblingRow with
    | none =>
        exact consistent
    | some sibling =>
        exact consistent.remove converts (.content sibling) rfl
  unfold HomeRowsFragment.removeRow
  dsimp only
  apply Consistent.remove converts _ (.content id) rfl
  split_ifs
  · exact (without.add converts (.noItems _) rfl).counted _
  · exact without

theorem Consistent.notificationsChanged (converts : calculateDiff.Converts)
    (consistent : fragment.Consistent defaults) :
    (fragment.notificationsChanged calculateDiff).Consistent defaults := by
  refine Consistent.updateNotifications converts ?_ _
  refine
    { ordered := consistent.ordered
      view := consistent.view
      announcements := ?_
      notices := consistent.notices }
  refine consistent.announcements.step converts (fun _ => rfl) ?_
  intro old new shown same _ equal
  rw [equal]
  exact beq_iff_eq.mp same

theorem consistent_created {Version : Type}
    (environment : Environment Version)
    (systemPreferences : SystemPreferences) :
    let repository :=
      NotificationsRepository.created environment systemPreferences
    (created repository).Consistent repository.notifications := by
  refine ⟨⟨rfl, rfl, rfl⟩, ⟨[], rfl, .nil⟩, ⟨[], rfl, .nil⟩, ?_⟩
  exact (List.sublist_append_right _ _).subperm

variable {Version : Type} [LT Version] [DecidableLT Version]
  {environment : Environment Version}

section Repository

variable {repository : NotificationsRepository}

/-- The notification of an update is removed before there is another one. -/
theorem notices_updateServerNotifications
    (notices :
      repository.notifications.Subperm
        (repository.updateServerNotification.toList ++ defaults))
    (version : Option Text) :
    let after := repository.updateServerNotifications environment version
    after.notifications.Subperm
        (after.updateServerNotification.toList ++ defaults) ∧
      ((∀ current, version.bind environment.fromString = some current →
          ¬current < environment.upcomingMinimumServerVersion) →
        after.notifications.Subperm defaults) := by
  have cleared :
      (match repository.updateServerNotification with
        | none => repository
        | some notification =>
            repository.removeNotification
              notification).notifications.Subperm defaults := by
    cases known : repository.updateServerNotification with
    | none =>
        rw [known] at notices
        exact notices
    | some notification =>
        rw [known] at notices
        have erased := notices.erase notification
        rw [Option.toList_some, List.singleton_append,
          List.erase_cons_head] at erased
        exact erased
  unfold NotificationsRepository.updateServerNotifications
  dsimp only
  generalize (match repository.updateServerNotification with
    | none => repository
    | some notification => repository.removeNotification notification) =
    without at cleared ⊢
  have kept :
      without.notifications.Subperm
        (without.updateServerNotification.toList ++ defaults) :=
    cleared.trans (List.sublist_append_right _ _).subperm
  split
  · exact ⟨kept, fun _ => cleared⟩
  · rename_i current found
    split_ifs with old
    · refine ⟨?_, fun recent => absurd old (recent current found)⟩
      refine List.perm_append_comm.subperm.trans ?_
      exact (List.subperm_append_left _).mpr cleared
    · exact ⟨kept, fun _ => cleared⟩

theorem notices_dismissNotification
    (notices :
      repository.notifications.Subperm
        (repository.updateServerNotification.toList ++ defaults))
    (item : AppNotification) :
    (repository.dismissNotification item).notifications.Subperm
      (repository.updateServerNotification.toList ++ defaults) :=
  List.filter_sublist.subperm.trans notices

end Repository

theorem Consistent.step (converts : calculateDiff.Converts)
    (consistent : fragment.Consistent defaults) (event : Event) :
    (fragment.step calculateDiff environment event).Consistent defaults := by
  cases event with
  | dismissNotification item =>
      exact
        { ordered := consistent.ordered
          view := consistent.view
          announcements := consistent.announcements
          notices := notices_dismissNotification consistent.notices item }
  | updateServerNotifications version =>
      exact
        { ordered := consistent.ordered
          view := consistent.view
          announcements := consistent.announcements
          notices :=
            (notices_updateServerNotifications consistent.notices version).1 }
  | notificationsChanged =>
      exact consistent.notificationsChanged converts
  | addRows hasAudioQueueItems sections =>
      exact consistent.addRows converts hasAudioQueueItems sections
  | audioQueueChanged hasAudioQueueItems =>
      exact consistent.updateNowPlaying converts hasAudioQueueItems
  | removeRow id siblingRow =>
      exact consistent.removeRow converts id siblingRow
  | layout =>
      exact
        { ordered := consistent.ordered
          view := consistent.view.laidOut fun _ => rfl
          announcements := consistent.announcements.laidOut fun _ => rfl
          notices := consistent.notices }

/-- The rows that are not special. -/
def contents (fragment : HomeRowsFragment) : List Row :=
  fragment.rows.filter (!Row.isSpecial ·)

theorem contents_perform_remove (calculateDiff : CalculateDiff)
    (fragment : HomeRowsFragment) {row : Row} (special : row.isSpecial = true) :
    (fragment.perform calculateDiff (.remove row)).contents =
      fragment.contents := by
  rw [contents, rows_perform_remove, ← List.erase_filter]
  refine List.erase_of_not_mem fun member => ?_
  have plain := (List.mem_filter.mp member).2
  rw [special] at plain
  cases plain

theorem contents_perform_addAt (calculateDiff : CalculateDiff)
    (fragment : HomeRowsFragment) {row : Row} (special : row.isSpecial = true) :
    (fragment.perform calculateDiff (.addAt 0 row)).contents =
      fragment.contents := by
  rw [contents, rows_perform_addAt, List.filter_cons, special]
  rfl

theorem contents_updateNotifications (empty : Bool) :
    (fragment.updateNotifications calculateDiff empty).contents =
      fragment.contents := by
  unfold updateNotifications
  split_ifs
  · rfl
  · exact contents_perform_remove calculateDiff fragment rfl
  · exact contents_perform_addAt calculateDiff fragment rfl
  · rfl

theorem contents_updateNowPlaying (hasAudioQueueItems : Bool) :
    (fragment.updateNowPlaying calculateDiff hasAudioQueueItems).contents =
      fragment.contents := by
  unfold updateNowPlaying
  split_ifs
  · cases known : fragment.nowPlaying.row with
    | none =>
        dsimp only
        split_ifs
        · rfl
        · exact contents_perform_addAt calculateDiff _ rfl
    | some number =>
        dsimp only
        rw [known]
        dsimp only
        split_ifs
        · rfl
        · exact contents_perform_addAt calculateDiff _ rfl
  · cases fragment.nowPlaying.row with
    | none =>
        rfl
    | some number =>
        exact contents_perform_remove calculateDiff fragment rfl

theorem Consistent.nowPlaying_iff (consistent : fragment.Consistent defaults) :
    (∃ number, .nowPlaying number ∈ fragment.rows) ↔
      fragment.nowPlaying.row.isSome = true := by
  rw [Option.isSome_iff_exists]
  exact exists_congr fun _ => consistent.ordered.nowPlaying_mem

theorem announcementAdapter_updateNotifications (empty : Bool) :
    (fragment.updateNotifications calculateDiff
      empty).notificationsRow.announcementAdapter =
      fragment.notificationsRow.announcementAdapter := by
  unfold updateNotifications
  split_ifs <;> rfl

theorem notificationsRow_updateNowPlaying (hasAudioQueueItems : Bool) :
    (fragment.updateNowPlaying calculateDiff
      hasAudioQueueItems).notificationsRow = fragment.notificationsRow := by
  unfold updateNowPlaying
  split_ifs
  · dsimp only
    split
    · rfl
    · split_ifs <;> rfl
  · split <;> rfl

/-- The row of the notifications shows them, if there are any. -/
theorem Consistent.notificationsChanged_shows
    (converts : calculateDiff.Converts)
    (consistent : fragment.Consistent defaults) :
    let after := fragment.notificationsChanged calculateDiff
    let notifications := fragment.notificationsRepository.notifications
    after.notificationsRow.announcementAdapter.adapter.data = notifications ∧
      (fragment.notificationsRow.hasRowsAdapter = true →
        (.notifications ∈ after.rows ↔ notifications ≠ [])) ∧
      after.contents = fragment.contents := by
  refine ⟨?_, fun added => ?_, ?_⟩
  · rw [HomeRowsFragment.notificationsChanged,
      announcementAdapter_updateNotifications]
    rfl
  · have shown :
        (fragment.notificationsChanged
          calculateDiff).notificationsRow.rowAdded =
          !fragment.notificationsRepository.notifications.isEmpty := by
      refine rowAdded_updateNotifications ?_ _
      exact added
    rw [(consistent.notificationsChanged converts).ordered.notifications_mem,
      shown, Bool.not_eq_true', List.isEmpty_eq_false_iff]
  · exact contents_updateNotifications _

/-- The sections follow the rows that are there. -/
theorem Consistent.addRows_shows (converts : calculateDiff.Converts)
    (consistent : fragment.Consistent defaults) (hasAudioQueueItems : Bool)
    (sections : List Nat) :
    let after := fragment.addRows calculateDiff hasAudioQueueItems sections
    (.notifications ∈ after.rows ↔
        fragment.notificationsRepository.notifications ≠ []) ∧
      ((∃ number, .nowPlaying number ∈ after.rows) ↔
        hasAudioQueueItems = true) ∧
      after.contents = fragment.contents ++ sections.map Row.content := by
  have known :
      { fragment with
        notificationsRow :=
          { fragment.notificationsRow with
            hasRowsAdapter := true } }.Consistent defaults :=
    { ordered := consistent.ordered
      view := consistent.view
      announcements := consistent.announcements
      notices := consistent.notices }
  obtain ⟨after, rows, playing, notifications⟩ :=
    ((known.updateNotifications converts
      fragment.notificationsRepository.notifications.isEmpty).updateNowPlaying
        converts hasAudioQueueItems).addContents converts sections
  refine ⟨?_, ?_, ?_⟩
  · refine after.ordered.notifications_mem.trans ?_
    rw [notifications, notificationsRow_updateNowPlaying,
      rowAdded_updateNotifications rfl, Bool.not_eq_true',
      List.isEmpty_eq_false_iff]
  · refine after.nowPlaying_iff.trans ?_
    rw [playing, isSome_row_updateNowPlaying]
  · have plain :
        (sections.map Row.content).filter (!Row.isSpecial ·) =
          sections.map Row.content := by
      rw [List.filter_eq_self]
      intro row member
      obtain ⟨id, -, rfl⟩ := List.mem_map.mp member
      rfl
    refine (congrArg (List.filter _) rows).trans ?_
    rw [List.filter_append, plain]
    refine congrArg (· ++ _) ?_
    exact
      (contents_updateNowPlaying hasAudioQueueItems).trans
        (contents_updateNotifications _)

/-- The rows keep their order without the row and its sibling.  A row that
says so takes the place of the last one, so the list becomes empty only if
nothing but the sibling was there. -/
theorem rows_removeRow (fragment : HomeRowsFragment) (id : Nat)
    (siblingRow : Option Nat) :
    let others := fragment.rows.diff (siblingRow.toList.map Row.content)
    let after := fragment.removeRow calculateDiff id siblingRow
    after.rows =
        others.erase (.content id) ++
          (if others.length = 1 then [.noItems fragment.noItemsMade]
          else []) ∧
      (after.rows = [] ↔ others = []) := by
  intro others after
  have rows :
      after.rows =
        others.erase (.content id) ++
          (if others.length = 1 then [.noItems fragment.noItemsMade]
          else []) := by
    have without :
        (match siblingRow with
          | none => fragment
          | some sibling =>
              fragment.perform calculateDiff
                (.remove (.content sibling))).rows = others ∧
          (match siblingRow with
            | none => fragment
            | some sibling =>
                fragment.perform calculateDiff
                  (.remove (.content sibling))).noItemsMade =
            fragment.noItemsMade := by
      cases siblingRow with
      | none =>
          exact ⟨(List.diff_nil _).symm, rfl⟩
      | some sibling =>
          refine ⟨(rows_perform_remove (.content sibling)).trans ?_, rfl⟩
          exact ((List.diff_cons _ _ _).trans (List.diff_nil _)).symm
    change (HomeRowsFragment.removeRow calculateDiff fragment id
      siblingRow).rows = _
    unfold removeRow
    dsimp only
    generalize (match siblingRow with
      | none => fragment
      | some sibling =>
          fragment.perform calculateDiff (.remove (.content sibling))) =
      left at without ⊢
    obtain ⟨leftRows, leftMade⟩ := without
    rw [rows_perform_remove, leftRows, leftMade]
    split_ifs with single
    · change (left.rows ++ [Row.noItems fragment.noItemsMade]).erase _ = _
      rw [leftRows, List.erase_append]
      split_ifs with member
      · rfl
      · rw [List.erase_of_not_mem member]
        rfl
    · rw [leftRows, List.append_nil]
  refine ⟨rows, ?_⟩
  rw [rows]
  by_cases single : others.length = 1
  · rw [if_pos single]
    refine iff_of_false ?_ ?_
    · exact List.append_ne_nil_of_right_ne_nil _ (List.cons_ne_nil _ _)
    · exact List.ne_nil_of_length_eq_add_one single
  · rw [if_neg single, List.append_nil, ← List.length_eq_zero_iff,
      ← List.length_eq_zero_iff]
    have kept :
        others.length - 1 ≤ (others.erase (.content id)).length :=
      List.le_length_erase
    have fewer :
        (others.erase (.content id)).length ≤ others.length :=
      List.erase_sublist.length_le
    omega

/-- The other events leave the rows where they are. -/
theorem rows_step_of_quiet {item : AppNotification} {version : Option Text}
    {event : Event}
    (quiet :
      event ∈
        [.dismissNotification item, .updateServerNotifications version,
          .layout]) :
    (fragment.step calculateDiff environment event).rows =
      fragment.rows := by
  simp only [List.mem_cons, List.not_mem_nil, or_false] at quiet
  rcases quiet with rfl | rfl | rfl <;> rfl

end Steps

/-- In every run, the view shows the rows of the home screen: those of the
notifications and of the music in front, each at most once and exactly when
there is something to show, and the sections behind them in order. -/
theorem home_rows_in_order {Version : Type} [LT Version]
    [DecidableLT Version] (converts : calculateDiff.Converts)
    (environment : Environment Version)
    (systemPreferences : SystemPreferences) (history : List Event) :
    let repository :=
      NotificationsRepository.created environment systemPreferences
    let fragment :=
      run (step calculateDiff environment) (created repository) history
    fragment.Consistent repository.notifications ∧
      (let after := fragment.notificationsChanged calculateDiff
       let notifications := fragment.notificationsRepository.notifications
       after.notificationsRow.announcementAdapter.adapter.data =
          notifications ∧
         (fragment.notificationsRow.hasRowsAdapter = true →
           (.notifications ∈ after.rows ↔ notifications ≠ [])) ∧
         after.contents = fragment.contents) ∧
      (∀ hasAudioQueueItems,
        let after := fragment.updateNowPlaying calculateDiff hasAudioQueueItems
        ((∃ number, .nowPlaying number ∈ after.rows) ↔
            hasAudioQueueItems = true) ∧
          after.contents = fragment.contents) ∧
      (∀ hasAudioQueueItems sections,
        let after := fragment.addRows calculateDiff hasAudioQueueItems sections
        (.notifications ∈ after.rows ↔
            fragment.notificationsRepository.notifications ≠ []) ∧
          ((∃ number, .nowPlaying number ∈ after.rows) ↔
            hasAudioQueueItems = true) ∧
          after.contents = fragment.contents ++ sections.map Row.content) ∧
      (∀ id siblingRow,
        let others := fragment.rows.diff (siblingRow.toList.map Row.content)
        let after := fragment.removeRow calculateDiff id siblingRow
        after.rows =
            others.erase (.content id) ++
              (if others.length = 1 then [.noItems fragment.noItemsMade]
              else []) ∧
          (after.rows = [] ↔ others = [])) ∧
      (∀ item version,
        ∀ event ∈
            [.dismissNotification item, .updateServerNotifications version,
              .layout],
          (fragment.step calculateDiff environment event).rows =
            fragment.rows) ∧
      (∀ version : Option Text,
        (∀ current, version.bind environment.fromString = some current →
          ¬current < environment.upcomingMinimumServerVersion) →
          (fragment.notificationsRepository.updateServerNotifications
            environment version).notifications.Subperm
              repository.notifications) := by
  intro repository fragment
  have consistent : fragment.Consistent repository.notifications := by
    refine run_invariant (fun fragment event consistent _ => ?_) ?_
      (admitted_of_forall fun _ _ => trivial)
    · exact Consistent.step converts consistent event
    · exact consistent_created environment systemPreferences
  refine
    ⟨consistent, consistent.notificationsChanged_shows converts, ?_,
      consistent.addRows_shows converts,
      rows_removeRow fragment,
      fun item version event quiet => rows_step_of_quiet quiet,
      fun version =>
        (notices_updateServerNotifications consistent.notices version).2⟩
  intro hasAudioQueueItems
  refine ⟨?_, contents_updateNowPlaying hasAudioQueueItems⟩
  refine
    (consistent.updateNowPlaying converts
      hasAudioQueueItems).nowPlaying_iff.trans ?_
  rw [isSome_row_updateNowPlaying]

def televisionEnvironment : Environment Nat where
  isTvDevice := true
  VERSION_NAME := "0.20.0-beta.1".toList
  fromString := fun text =>
    if text = "10.10.7".toList then some 101007 else none
  upcomingMinimumServerVersion := 101100
  app_notification_uimode_invalid := "uimode".toList
  app_notification_beta := fun version => "beta ".toList ++ version
  app_notification_update_soon := fun _ _ => "update".toList

def oldServer : List Event :=
  [.audioQueueChanged true, .addRows true [1, 2],
    .updateServerNotifications (some "10.10.7".toList)]

theorem home_rows_in_order_old_server :
    let repository :=
      NotificationsRepository.created televisionEnvironment ⟨false, []⟩
    let fragment :=
      run (step Display.replaceWholly televisionEnvironment)
        (created repository) oldServer
    fragment.Consistent repository.notifications ∧
      fragment.rows =
        [.notifications, .nowPlaying 0, .content 1, .content 2] :=
  ⟨(home_rows_in_order Display.converts_replaceWholly televisionEnvironment
    ⟨false, []⟩ oldServer).1, by decide⟩

end HomeRowsFragment

end JellyfinTv.Home
