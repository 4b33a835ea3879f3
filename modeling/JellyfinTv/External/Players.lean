import Mathlib.Data.Prod.Lex
import Mathlib.Order.Lattice.Nat
import JellyfinTv.Launch.PlaybackHelper
import JellyfinTv.Library.LinkedMaps
import JellyfinTv.Library.SortedBy

/-!
# External players

An external player is an app that is asked to play a video with an intent and
answers with a result.  What the extras of both mean depends on the app;
`ExternalPlayerApi` is one app's way of writing and reading them.
-/

namespace JellyfinTv.External

open JellyfinTv.Library

open Launch.SdkPlaybackHelper (inWholeMilliseconds toInt)

abbrev Uri := Text

inductive Extra where
  | int (value : Int)
  | long (value : Int)
  | flag (value : Bool)
  | text (value : Text)
  | uris (values : List Uri)
  | texts (values : List (Option Text))
  deriving DecidableEq, Repr

abbrev Extras := List (Text × Extra)

structure ComponentName where
  packageName : Text
  className : Text
  deriving DecidableEq, Repr

/-- An intent to view `data`. -/
structure Intent where
  component : Option ComponentName
  data : Uri
  type : Option Text
  extras : Extras
  deriving DecidableEq, Repr

def Intent.putExtra (intent : Intent) (name : Text) (value : Extra) : Intent :=
  { intent with extras := put name value intent.extras }

/-- `getIntExtra`: the default stands for an extra of another type as well. -/
def getIntExtra (extras : Extras) (name : Text) (defaultValue : Int) : Int :=
  match extras.lookup name with
  | some (.int value) => value
  | _ => defaultValue

def getLongExtra (extras : Extras) (name : Text) (defaultValue : Int) : Int :=
  match extras.lookup name with
  | some (.long value) => value
  | _ => defaultValue

def getStringExtra (extras : Extras) (name : Text) : Option Text :=
  match extras.lookup name with
  | some (.text value) => some value
  | _ => none

def hasExtra (extras : Extras) (name : Text) : Bool :=
  (extras.lookup name).isSome

/-- `data` are the extras of the intent that comes with the result. -/
structure ActivityResult where
  resultCode : Int
  data : Option Extras
  deriving DecidableEq, Repr

def RESULT_OK : Int := -1

structure MediaStream where
  isSubtitle : Bool
  isExternal : Bool
  isDefault : Bool
  index : Int
  path : Option Text
  codec : Option Text
  displayTitle : Option Text
  title : Option Text
  language : Option Text
  deriving DecidableEq, Repr

structure Subtitle where
  mediaStream : MediaStream
  url : Uri
  name : Option Text
  language : Option Text
  deriving DecidableEq, Repr

/-- The position is in nanoseconds. -/
structure ExternalPlayData where
  url : Uri
  title : Text
  fileName : Option Text
  externalSubtitles : List Subtitle
  position : Int
  deriving DecidableEq, Repr

inductive ExternalPlayResult where
  | success (position : Option Int) (completed : Option Bool)
  | failed
  deriving DecidableEq, Repr

structure ExternalPlayerApi where
  supports : Text → Bool
  populateIntent : Intent → ExternalPlayData → Intent
  parseResult : ActivityResult → ExternalPlayResult

/-- `takeIf { it >= 0 }?.milliseconds` of an extra that is -1 if missing. -/
def positionExtra (value : Int) : Option Int :=
  if 0 ≤ value then some (value * 1000000) else none

def positionMilliseconds (data : ExternalPlayData) : Extra :=
  .int (toInt (inWholeMilliseconds data.position))

def isDefault (subtitle : Subtitle) : Bool :=
  subtitle.mediaStream.isDefault

/-- The extras of the mpv and MX players for the subtitles that are on from
the start. -/
def enableDefaultSubtitles (name : String) (data : ExternalPlayData)
    (intent : Intent) : Intent :=
  let defaultSubtitles := data.externalSubtitles.filter isDefault
  if defaultSubtitles.isEmpty then
    intent
  else
    intent.putExtra name.toList (.uris (defaultSubtitles.map Subtitle.url))

def DefaultExternalPlayerApi : ExternalPlayerApi where
  supports := fun _ => false
  populateIntent := fun intent data =>
    let intent := intent.putExtra "title".toList (.text data.title)
    intent.putExtra "position".toList (positionMilliseconds data)
  parseResult := fun result =>
    if result.resultCode = RESULT_OK then .success none none else .failed

def MpvExternalPlayerApi : ExternalPlayerApi where
  supports := fun packageName => packageName = "is.xyz.mpv".toList
  populateIntent := fun intent data =>
    let intent := intent.putExtra "title".toList (.text data.title)
    let intent :=
      intent.putExtra "position".toList (positionMilliseconds data)
    if data.externalSubtitles.isEmpty then
      intent
    else
      let intent :=
        intent.putExtra "subs".toList
          (.uris (data.externalSubtitles.map Subtitle.url))
      enableDefaultSubtitles "subs.enable" data intent
  parseResult := fun result =>
    if result.resultCode = RESULT_OK then
      match result.data with
      | none => .success none (some false)
      | some data =>
          .success (positionExtra (getIntExtra data "position".toList (-1)))
            (some (!hasExtra data "position".toList))
    else
      .failed

def MxExternalPlayerApi : ExternalPlayerApi where
  supports := fun packageName =>
    packageName = "com.mxtech.videoplayer.ad".toList
  populateIntent := fun intent data =>
    let intent := intent.putExtra "title".toList (.text data.title)
    let intent :=
      intent.putExtra "position".toList (positionMilliseconds data)
    let intent := intent.putExtra "return_result".toList (.flag true)
    let intent := intent.putExtra "secure_uri".toList (.flag true)
    let intent :=
      match data.fileName with
      | none => intent
      | some fileName => intent.putExtra "filename".toList (.text fileName)
    if data.externalSubtitles.isEmpty then
      intent
    else
      let intent :=
        intent.putExtra "subs".toList
          (.uris (data.externalSubtitles.map Subtitle.url))
      let intent :=
        intent.putExtra "subs.name".toList
          (.texts (data.externalSubtitles.map Subtitle.name))
      enableDefaultSubtitles "subs.enable" data intent
  parseResult := fun result =>
    if result.resultCode = RESULT_OK then
      match result.data with
      | none => .success none none
      | some data =>
          .success (positionExtra (getIntExtra data "position".toList (-1)))
            (match getStringExtra data "end_by".toList with
            | none => none
            | some endBy =>
                if endBy = "playback_completion".toList then some true
                else if endBy = "user".toList then some false
                else none)
    else
      .failed

/-- The extra of the VIMU and VLC players, which take one subtitle only. -/
def firstSubtitle (name : String) (data : ExternalPlayData)
    (intent : Intent) : Intent :=
  match data.externalSubtitles with
  | [] => intent
  | subtitle :: _ => intent.putExtra name.toList (.text subtitle.url)

def VimuExternalPlayerApi : ExternalPlayerApi where
  supports := fun packageName => packageName = "net.gtvbox.videoplayer".toList
  populateIntent := fun intent data =>
    let intent := intent.putExtra "forcename".toList (.text data.title)
    let intent :=
      intent.putExtra "startfrom".toList (positionMilliseconds data)
    firstSubtitle "forcedsrt" data intent
  parseResult := fun result =>
    if result.resultCode = 1 then
      .success none (some true)
    else if result.resultCode = 0 then
      match result.data with
      | none => .success none (some false)
      | some data =>
          .success (positionExtra (getIntExtra data "position".toList (-1)))
            (some false)
    else
      .failed

def VlcExternalPlayerApi : ExternalPlayerApi where
  supports := fun packageName => packageName = "org.videolan.vlc".toList
  populateIntent := fun intent data =>
    let intent := intent.putExtra "title".toList (.text data.title)
    let intent :=
      intent.putExtra "position".toList (positionMilliseconds data)
    firstSubtitle "subtitles_location" data intent
  parseResult := fun result =>
    if result.resultCode = RESULT_OK then
      match result.data with
      | none => .success none none
      | some data =>
          let position := getLongExtra data "extra_position".toList (-1)
          .success (if 0 < position then some (position * 1000000) else none)
            none
    else
      .failed

/-- The class that is launched and the package of its app. -/
structure ActivityInfo where
  packageName : Text
  name : Text
  deriving DecidableEq, Repr

def ActivityInfo.componentName (activityInfo : ActivityInfo) : ComponentName :=
  ⟨activityInfo.packageName, activityInfo.name⟩

structure ResolveInfo where
  activityInfo : ActivityInfo
  priority : Int
  isDefault : Bool
  deriving DecidableEq, Repr

/-- The package manager, with `startActivity` for whether an intent can be
started. -/
structure PackageManager where
  queryIntentActivities : Intent → List ResolveInfo
  getActivityInfo : ComponentName → Option ActivityInfo
  startActivity : Intent → Bool

structure UserPreferences where
  useExternalPlayer : Bool
  externalPlayerComponentName : Text
  deriving DecidableEq, Repr

namespace ExternalAppRepository

def externalPlayerAppIntent : Intent where
  component := none
  data := "http://jellyfin.local/query.mp4".toList
  type := some "video/*".toList
  extras := []

def externalPlayerApis : List ExternalPlayerApi :=
  [VlcExternalPlayerApi, MxExternalPlayerApi, MpvExternalPlayerApi,
    VimuExternalPlayerApi]

section Choice

variable (packageManager : PackageManager)
  (unflattenFromString : Text → Option ComponentName)
  (userPreferences : UserPreferences)

def getExternalPlayerApps : List ResolveInfo :=
  (packageManager.queryIntentActivities externalPlayerAppIntent).filter
    fun app => 0 ≤ app.priority

def getCurrentExternalPlayerApp : Option ActivityInfo :=
  if !userPreferences.useExternalPlayer then
    none
  else
    let name := userPreferences.externalPlayerComponentName
    let resolvedInfo :=
      if name.isEmpty then none
      else (unflattenFromString name).bind packageManager.getActivityInfo
    match resolvedInfo with
    | some activityInfo => some activityInfo
    | none =>
        let externalApps := getExternalPlayerApps packageManager
        match externalApps.find? ResolveInfo.isDefault with
        | some app => some app.activityInfo
        | none => externalApps.head?.map ResolveInfo.activityInfo

end Choice

def getExternalPlayerApi (activityInfo : ActivityInfo) : ExternalPlayerApi :=
  (externalPlayerApis.find? fun player =>
    player.supports activityInfo.packageName).getD DefaultExternalPlayerApi

end ExternalAppRepository

end JellyfinTv.External
