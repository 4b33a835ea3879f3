import Mathlib.Data.List.Basic
import JellyfinTv.Library.Runs

/-!
# The background service

`BackgroundService` loads the backdrops of an item one by one and shows them
in a slideshow.  Two changes of the background are kept apart: an update that
comes too early is put off by the one timer of the service, which the
slideshow uses as well.
-/

namespace JellyfinTv.Background

open JellyfinTv.Library

def SLIDESHOW_DURATION : Int := 30000

def TRANSITION_DURATION : Int := 800

inductive BackdropBehavior where
  | DISABLED
  | BACKDROP_WITH_BLUR
  | BACKDROP_WITHOUT_BLUR
  deriving DecidableEq, Repr

/-- A job of `setTimer` that has not been cancelled. -/
structure TimerJob where
  due : Int
  increaseIndex : Bool
  deriving DecidableEq, Repr

/-- A job of `loadBackgrounds` that has not been cancelled: it waits for the
image at `url`. -/
structure LoadJob (Url ImageBitmap : Type) where
  url : Url
  remaining : List Url
  loaded : List ImageBitmap
  deriving DecidableEq, Repr

/-- `shown` records the values that were given to `currentBackground`, each
one with the time. -/
structure BackgroundService (Url ImageBitmap : Type) where
  now : Int
  loadBackgroundsJob : Option (LoadJob Url ImageBitmap)
  updateBackgroundTimerJob : Option TimerJob
  lastBackgroundTimerUpdate : Int
  backgrounds : List ImageBitmap
  currentIndex : Nat
  currentBackground : Option ImageBitmap
  blurBackground : Bool
  enabled : Bool
  shown : List (Int × Option ImageBitmap)
  deriving DecidableEq, Repr

namespace BackgroundService

variable {Url ImageBitmap : Type}

/-- The fields of a new service. -/
def created (now : Nat) : BackgroundService Url ImageBitmap where
  now := now
  loadBackgroundsJob := none
  updateBackgroundTimerJob := none
  lastBackgroundTimerUpdate := 0
  backgrounds := []
  currentIndex := 0
  currentBackground := none
  blurBackground := false
  enabled := true
  shown := []

variable (service : BackgroundService Url ImageBitmap)

def setTimer (updateDelay : Int) (increaseIndex : Bool) :
    BackgroundService Url ImageBitmap :=
  { service with
    updateBackgroundTimerJob :=
      some ⟨service.now + updateDelay, increaseIndex⟩ }

/-- The part of `update` behind its early return. -/
def showCurrent : BackgroundService Url ImageBitmap :=
  let currentIndex :=
    if service.backgrounds.length ≤ service.currentIndex then 0
    else service.currentIndex
  let background := service.backgrounds[currentIndex]?
  let service :=
    { service with
      lastBackgroundTimerUpdate := service.now
      currentIndex := currentIndex
      currentBackground := background
      shown := service.shown ++ [(service.now, background)] }
  if 1 < service.backgrounds.length then
    service.setTimer SLIDESHOW_DURATION true
  else
    { service with updateBackgroundTimerJob := none }

def update : BackgroundService Url ImageBitmap :=
  if service.now - TRANSITION_DURATION < service.lastBackgroundTimerUpdate then
    service.setTimer
      (service.lastBackgroundTimerUpdate - service.now + TRANSITION_DURATION)
      false
  else
    service.showCurrent

/-- What follows the delay of the timer job, which may take longer than it
was asked to. -/
def timerFires : BackgroundService Url ImageBitmap :=
  match service.updateBackgroundTimerJob with
  | none => service
  | some job =>
      if job.due ≤ service.now then
        { service with
          updateBackgroundTimerJob := none
          currentIndex :=
            if job.increaseIndex then service.currentIndex + 1
            else service.currentIndex }.update
      else
        service

def clearBackgrounds : BackgroundService Url ImageBitmap :=
  let service := { service with loadBackgroundsJob := none, enabled := true }
  if service.backgrounds.isEmpty then
    service
  else
    { service with backgrounds := [] }.update

def loadBackgrounds (backdropUrls : List Url) :
    BackgroundService Url ImageBitmap :=
  match backdropUrls with
  | [] => service.clearBackgrounds
  | url :: remaining =>
      { service with
        enabled := true
        loadBackgroundsJob := some ⟨url, remaining, []⟩ }

/-- The image loader has answered the job, with `none` for a failure. -/
def imageAnswered (image : Option ImageBitmap) :
    BackgroundService Url ImageBitmap :=
  match service.loadBackgroundsJob with
  | none => service
  | some job =>
      let loaded := job.loaded ++ image.toList
      match job.remaining with
      | [] =>
          { service with
            loadBackgroundsJob := none
            backgrounds := loaded
            currentIndex := 0 }.update
      | url :: remaining =>
          { service with
            loadBackgroundsJob := some ⟨url, remaining, loaded⟩ }

section Requests

variable [DecidableEq Url]

/-- `setBackground(baseItem)`, given the urls of the backdrops of the item
and of its parent. -/
def setBackground (backdrops : Option (List Url))
    (backdropBehavior : BackdropBehavior) :
    BackgroundService Url ImageBitmap :=
  match backdrops with
  | none => service.clearBackgrounds
  | some urls =>
      if backdropBehavior = .DISABLED then
        service.clearBackgrounds
      else
        let blurBackground := backdropBehavior = .BACKDROP_WITH_BLUR
        { service with blurBackground := blurBackground }.loadBackgrounds
          urls.eraseDups

omit [DecidableEq Url] in
/-- `setBackground(server)`. -/
def setServerBackground (splashscreenEnabled : Bool) (splashscreenUrl : Url)
    (backdropBehavior : BackdropBehavior) :
    BackgroundService Url ImageBitmap :=
  if backdropBehavior = .DISABLED then
    service.clearBackgrounds
  else if !splashscreenEnabled then
    service.clearBackgrounds
  else
    { service with blurBackground := false }.loadBackgrounds [splashscreenUrl]

omit [DecidableEq Url] in
def disable : BackgroundService Url ImageBitmap :=
  { service with enabled := false }

/-- The calls with what the preferences say at that moment, the answers of
the image loader, and time. -/
inductive Event (Url ImageBitmap : Type) where
  | setBackground (backdrops : Option (List Url))
      (backdropBehavior : BackdropBehavior)
  | setServerBackground (splashscreenEnabled : Bool) (splashscreenUrl : Url)
      (backdropBehavior : BackdropBehavior)
  | clearBackgrounds
  | disable
  | imageAnswered (image : Option ImageBitmap)
  | pass (milliseconds : Nat)
  | timerFires
  deriving DecidableEq, Repr

def step (service : BackgroundService Url ImageBitmap) :
    Event Url ImageBitmap → BackgroundService Url ImageBitmap
  | .setBackground backdrops backdropBehavior =>
      service.setBackground backdrops backdropBehavior
  | .setServerBackground splashscreenEnabled splashscreenUrl
      backdropBehavior =>
      service.setServerBackground splashscreenEnabled splashscreenUrl
        backdropBehavior
  | .clearBackgrounds => service.clearBackgrounds
  | .disable => service.disable
  | .imageAnswered image => service.imageAnswered image
  | .pass milliseconds => { service with now := service.now + milliseconds }
  | .timerFires => service.timerFires

end Requests

end BackgroundService

end JellyfinTv.Background
