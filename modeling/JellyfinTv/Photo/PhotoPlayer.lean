import Mathlib.Data.List.Basic
import JellyfinTv.Library.Runs

/-!
# The photo player

`PhotoPlayerViewModel` shows the photos of an album one by one.  A running
presentation shows the next photo when the delay of its job is over, and
every photo that is shown cancels the job and launches another one.
-/

namespace JellyfinTv.Photo

open JellyfinTv.Library

variable {UUID : Type}

structure BaseItemDto (UUID : Type) where
  id : UUID
  parentId : Option UUID
  deriving DecidableEq, Repr

/-- The answers of the server, with the photos below a parent in the order
that was asked for.  An item is found by its id. -/
structure ApiClient (UUID : Type) where
  getItem : UUID → BaseItemDto UUID
  getItems : Option UUID → List (BaseItemDto UUID)
  id_getItem : ∀ id, (getItem id).id = id

/-- `PhotoPlayerViewModel`.  Launched jobs are numbered, and those that were
not cancelled are live. -/
structure PhotoPlayer (UUID : Type) where
  album : List (BaseItemDto UUID)
  albumIndex : Int
  currentItem : Option (BaseItemDto UUID)
  settingsVisible : Bool
  presentationJob : Option Nat
  presentationActive : Bool
  launchedJobs : Nat
  liveJobs : List Nat
  deriving DecidableEq, Repr

namespace PhotoPlayer

/-- The fields of a new view model. -/
def created : PhotoPlayer UUID where
  album := []
  albumIndex := -1
  currentItem := none
  settingsVisible := false
  presentationJob := none
  presentationActive := false
  launchedJobs := 0
  liveJobs := []

/-- `indexOfFirst`, -1 if there is none. -/
def indexOfFirst [DecidableEq UUID] (id : UUID)
    (items : List (BaseItemDto UUID)) : Int :=
  match items.findIdx? fun item => item.id = id with
  | none => -1
  | some index => index

def loadItem [DecidableEq UUID] (player : PhotoPlayer UUID)
    (api : ApiClient UUID) (id : UUID) : PhotoPlayer UUID :=
  let itemResponse := api.getItem id
  let albumResponse := api.getItems itemResponse.parentId
  if albumResponse.isEmpty then
    { player with
      currentItem := some itemResponse
      album := [itemResponse]
      albumIndex := 0 }
  else
    { player with
      currentItem := some itemResponse
      album := albumResponse
      albumIndex := indexOfFirst id albumResponse }

/-- `album[index]`, which throws outside of the album. -/
def itemAt (player : PhotoPlayer UUID) (index : Int) :
    Option (BaseItemDto UUID) :=
  if index < 0 then none else player.album[index.toNat]?

/-- `presentationJob?.cancel()`; the field keeps the job. -/
def cancelPresentationJob (player : PhotoPlayer UUID) : PhotoPlayer UUID :=
  match player.presentationJob with
  | none => player
  | some job =>
      { player with
        liveJobs := player.liveJobs.filter fun live => live ≠ job }

/-- `presentationJob = createPresentationJob()`. -/
def launchPresentationJob (player : PhotoPlayer UUID) : PhotoPlayer UUID :=
  { player with
    presentationJob := some player.launchedJobs
    launchedJobs := player.launchedJobs + 1
    liveJobs := player.liveJobs ++ [player.launchedJobs] }

def startPresentation (player : PhotoPlayer UUID) : PhotoPlayer UUID :=
  if player.presentationActive then
    player
  else
    { player with presentationActive := true }.launchPresentationJob

def restartPresentation (player : PhotoPlayer UUID) : PhotoPlayer UUID :=
  if !player.presentationActive then
    player
  else
    player.cancelPresentationJob.launchPresentationJob

def stopPresentation (player : PhotoPlayer UUID) : PhotoPlayer UUID :=
  if !player.presentationActive then
    player
  else
    { player.cancelPresentationJob with
      presentationJob := none
      presentationActive := false }

def togglePresentation (player : PhotoPlayer UUID) : PhotoPlayer UUID :=
  if player.presentationActive then
    player.stopPresentation
  else
    player.startPresentation

def setSettingsVisible (player : PhotoPlayer UUID) (visible : Bool) :
    PhotoPlayer UUID :=
  let player := { player with settingsVisible := visible }
  if visible then
    { player.cancelPresentationJob with presentationJob := none }
  else
    player.restartPresentation

/-- The end of `showNext` and `showPrevious`, with `none` for an
exception. -/
def showAt (player : PhotoPlayer UUID) (index : Int) :
    Option (PhotoPlayer UUID) :=
  (player.itemAt index).map fun item =>
    { player with
      albumIndex := index
      currentItem := some item }.restartPresentation

def showNext (player : PhotoPlayer UUID) : Option (PhotoPlayer UUID) :=
  if player.album.isEmpty then
    some player
  else
    let albumIndex := player.albumIndex + 1
    player.showAt
      (if albumIndex = player.album.length then 0 else albumIndex)

def showPrevious (player : PhotoPlayer UUID) : Option (PhotoPlayer UUID) :=
  if player.album.isEmpty then
    some player
  else
    let albumIndex := player.albumIndex - 1
    player.showAt
      (if albumIndex = -1 then player.album.length - 1 else albumIndex)

/-- A live job shows the next item after its delay.  Where that cancelled
it, its loop ends. -/
def tick (player : PhotoPlayer UUID) (job : Nat) :
    Option (PhotoPlayer UUID) :=
  if job ∈ player.liveJobs then player.showNext else some player

variable (player : PhotoPlayer UUID)

theorem cancelPresentationJob_eq :
    ∃ live,
      player.cancelPresentationJob = { player with liveJobs := live } := by
  unfold cancelPresentationJob
  split
  · exact ⟨player.liveJobs, rfl⟩
  · exact ⟨_, rfl⟩

@[simp]
theorem album_cancelPresentationJob :
    player.cancelPresentationJob.album = player.album := by
  obtain ⟨live, cancelled⟩ := player.cancelPresentationJob_eq
  rw [cancelled]

@[simp]
theorem albumIndex_cancelPresentationJob :
    player.cancelPresentationJob.albumIndex = player.albumIndex := by
  obtain ⟨live, cancelled⟩ := player.cancelPresentationJob_eq
  rw [cancelled]

@[simp]
theorem settingsVisible_cancelPresentationJob :
    player.cancelPresentationJob.settingsVisible =
      player.settingsVisible := by
  obtain ⟨live, cancelled⟩ := player.cancelPresentationJob_eq
  rw [cancelled]

/-- Restarting the presentation touches its jobs only. -/
theorem restartPresentation_eq :
    ∃ job launched live,
      player.restartPresentation =
        { player with
          presentationJob := job
          launchedJobs := launched
          liveJobs := live } := by
  unfold restartPresentation
  split
  · exact
      ⟨player.presentationJob, player.launchedJobs, player.liveJobs, rfl⟩
  · obtain ⟨live, cancelled⟩ := player.cancelPresentationJob_eq
    rw [cancelled]
    exact ⟨_, _, _, rfl⟩

@[simp]
theorem album_restartPresentation :
    player.restartPresentation.album = player.album := by
  obtain ⟨job, launched, live, restarted⟩ := player.restartPresentation_eq
  rw [restarted]

@[simp]
theorem albumIndex_restartPresentation :
    player.restartPresentation.albumIndex = player.albumIndex := by
  obtain ⟨job, launched, live, restarted⟩ := player.restartPresentation_eq
  rw [restarted]

@[simp]
theorem currentItem_restartPresentation :
    player.restartPresentation.currentItem = player.currentItem := by
  obtain ⟨job, launched, live, restarted⟩ := player.restartPresentation_eq
  rw [restarted]

@[simp]
theorem settingsVisible_restartPresentation :
    player.restartPresentation.settingsVisible =
      player.settingsVisible := by
  obtain ⟨job, launched, live, restarted⟩ := player.restartPresentation_eq
  rw [restarted]

@[simp]
theorem presentationActive_restartPresentation :
    player.restartPresentation.presentationActive =
      player.presentationActive := by
  obtain ⟨job, launched, live, restarted⟩ := player.restartPresentation_eq
  rw [restarted]

end PhotoPlayer

end JellyfinTv.Photo
