import JellyfinTv.Video.PlaybackController

/-!
# Seeks, streams and callbacks of the controller

The rest of `PlaybackController` and the functions of its helper: seeking and
skipping, starting an answered stream, the choice of subtitles and of the audio
track, and the callbacks of the player.  A run is a list of events; each event
is handled before the next one.
-/

namespace JellyfinTv.Video

open JellyfinTv.Library PlaybackController

/-! ## Seeking -/

/-- The part of `seek` behind the check for the end of the video. -/
def seekWithin (pos duration : Int) : ControllerM Unit := do
  let target := min pos duration
  modify fun controller => { controller with mSeekPosition := target }
  let controller ← get
  match controller.mCurrentStreamInfo, controller.initializedManager with
  | some _, some manager =>
      if ¬manager.isSeekable then
        modify fun controller =>
          { controller with mPlaybackState := .buffering }
        if ¬controller.hasFragment then
          throw .nullPointer
        else
          let reference ← requireNotNull controller.mCurrentOptions
          modify fun controller =>
            controller.send
              { kind := .changeVideoStream
                isLiveTv := controller.isLiveTv
                item := none
                position := target
                options := reference }
      else
        modify fun controller =>
          ({ controller with mPlaybackState := .playing }.record
            (.seekTo target)).startReportLoop
  | _, _ => return ()

/-- Playback is completed when the requested position is at the end of the
video.  The skip position keeps the end from being overwritten. -/
def skipToEnd (duration : Int) : ControllerM Unit := do
  modify fun controller =>
    { controller with
      mCurrentPosition := duration
      currentSkipPos := duration
      mSeekPosition := duration }
  itemComplete

def seek (pos : Int) (skipToNext : Bool) : ControllerM Unit := do
  let pos := max pos 0
  let controller ← get
  if controller.initializedManager = none then
    return ()
  else if controller.wasSeeking then
    if controller.isPaused then
      modify refreshCurrentPosition
      play (← get).mCurrentPosition none
    else
      return ()
  else
    modify fun controller => { controller with wasSeeking := true }
    let duration ← lift controller.getDuration
    if skipToNext ∧ pos ≥ duration - 100 then
      skipToEnd duration
    else
      seekWithin pos duration

/-- The delayed end of a sequence of skips. -/
def skipRunnable : ControllerM Unit := do
  modify fun controller => { controller with skipScheduled := false }
  let controller ← get
  if ¬(controller.isPlaying ∨ controller.isPaused) then
    return ()
  else
    seek controller.currentSkipPos false
    modify fun controller => { controller with currentSkipPos := 0 }

/-- The part of `skip` behind its guards.  The delayed end is posted anew. -/
def addSkip (msec : Int) : ControllerM Unit := do
  modify fun controller =>
    { controller with skipScheduled := false }.refreshCurrentPosition
  let duration ← lift (← get).getDuration
  modify fun controller =>
    let base :=
      if controller.currentSkipPos = 0 then
        controller.mCurrentPosition
      else
        controller.currentSkipPos
    let target := getSafeSeekPosition (base + msec) duration
    { controller with
      currentSkipPos := target
      mSeekPosition := target
      skipScheduled := true }

/-- A press of fast forward or rewind. -/
def skip (msec : Int) : ControllerM Unit := do
  let controller ← get
  match controller.initializedManager with
  | none => return ()
  | some manager =>
      if ¬((controller.isPlaying ∨ controller.isPaused) ∧
          controller.spinnerOff) then
        return ()
      else
        modify fun controller =>
          { controller with
            mVideoManager := controller.mVideoManager.map VideoManager.polled }
        if manager.getCurrentPosition > 0 then
          addSkip msec
        else
          return ()

/-- A posted initial seek; it is posted again while the duration is not
known. -/
def runInitialSeek (position : Int) : ControllerM Unit := do
  modify fun controller =>
    { controller with
      initialSeeks := controller.initialSeeks.erase position }
  match (← get).mVideoManager with
  | none => return ()
  | some manager =>
      if manager.getDuration ≤ 0 then
        modify fun controller =>
          { controller with
            initialSeeks := controller.initialSeeks ++ [position] }
      else if manager.isSeekable then
        seek position false
      else
        modify fun controller =>
          { controller with finishedInitialSeek := true }

def getAudioStreamIndex : ControllerM Int := do
  let options ← currentOptions
  match options.audioStreamIndex with
  | some index => return index
  | none =>
      let controller ← get
      let source ← lift controller.getCurrentMediaSource
      let remote := source.bind MediaSourceInfo.defaultAudioStreamIndex
      if controller.isTranscoding then
        let _ ← requireNotNull source
        return remote.getD (-1)
      else
        match controller.initializedManager with
        | some manager =>
            let _ ← requireNotNull controller.getCurrentlyPlayingItem
            return manager.readings.audioTrack
        | none => return -1

/-- The first audio track after a video track that satisfies the test. -/
def audioTrackAfterVideo (accepted : MediaStream → Bool) :
    Bool → List MediaStream → Option Int
  | _, [] => none
  | videoFound, track :: rest =>
      if track.type = .video then
        audioTrackAfterVideo accepted true rest
      else if videoFound ∧ track.type = .audio ∧ accepted track then
        some track.index
      else
        audioTrackAfterVideo accepted videoFound rest

def setDefaultAudioIndex (source : MediaSourceInfo) : ControllerM Unit := do
  let controller ← get
  if controller.mDefaultAudioIndex ≠ -1 then
    return ()
  else
    let streams ← requireNotNull source.mediaStreams
    let lastChosenLanguage :=
      audioTrackAfterVideo
        (fun track =>
          track.language.isSome &&
            track.language = controller.lastPlayedAudioLanguageIsoCode)
        false streams
    let bestGuess := audioTrackAfterVideo (fun _ => true) false streams
    modify fun controller =>
      { controller with
        mDefaultAudioIndex :=
          ((lastChosenLanguage.or source.defaultAudioStreamIndex).or
            bestGuess).getD (-1) }

/-- A stream that is not transcoded has its track switched by the player. -/
def setExoPlayerTrack : ControllerM Bool := do
  let controller ← get
  if controller.isTranscoding then
    return false
  else
    let manager ← requireNotNull controller.mVideoManager
    return manager.isInitialized && manager.readings.acceptsAudioTrack

/-- The end of `switchAudioStream`: the track is switched in the player or the
playback restarts. -/
def applyAudioStream (index : Int) (source : MediaSourceInfo) :
    ControllerM Unit := do
  modify refreshCurrentPosition
  let switched ← setExoPlayerTrack
  updateOptions fun options =>
    { options with
      mediaSourceId := some source.id
      audioStreamIndex := some index }
  if switched then
    return ()
  else
    modify fun controller => { controller with spinnerOff := false }
    stop
    modify fun controller => controller.record .restart
    let controller ← get
    let reference ← requireNotNull controller.mCurrentOptions
    playInternal controller.mCurrentPosition reference
    modify fun controller => { controller with mPlaybackState := .buffering }

def switchAudioStream (index : Int) : ControllerM Unit := do
  let controller ← get
  if ¬(controller.isPlaying ∨ controller.isPaused) ∨ index < 0 then
    return ()
  else
    let source ← lift controller.getCurrentMediaSource
    match source with
    | none => return ()
    | some source =>
        match source.mediaStreams.bind fun streams =>
            streams[index.toNat]? with
        | none => return ()
        | some track =>
            modify fun controller =>
              { controller with
                lastPlayedAudioLanguageIsoCode :=
                  track.language.or
                    controller.lastPlayedAudioLanguageIsoCode }
            let currAudioIndex ← getAudioStreamIndex
            if currAudioIndex = index then
              updateOptions fun options =>
                { options with audioStreamIndex := some index }
            else
              applyAudioStream index source

/-! ## Starting a stream -/

def updateBurningSubs (stream : StreamInfo) : ControllerM Unit := do
  let method ← lift stream.getSubtitleDeliveryMethod
  modify fun controller =>
    { controller with
      burningSubs :=
        method ≠ some .drop &&
          (method = some .encode ||
            controller.shouldBurnInSubtitles stream.playMethod) }

/-- The requested index if it is a subtitle stream of the language, else the
first subtitle stream of the language. -/
def subtitleOfLanguage (language : String) (requestedIndex : Option Int)
    (streams : List MediaStream) : Option Int :=
  let matching :=
    streams.filter fun stream =>
      stream.type = .subtitle ∧ stream.language = some language
  ((matching.find? fun stream => some stream.index = requestedIndex).or
    matching.head?).map MediaStream.index

/-- The subtitle index of a started item: the saved language is preferred over
the default of the server. -/
def selectSubtitle (lastSubtitleLanguage : Option String)
    (requestedIndex : Option Int) (source : MediaSourceInfo) : Option Int :=
  match lastSubtitleLanguage with
  | none => source.defaultSubtitleStreamIndex
  | some language =>
      if language.isEmpty then
        none
      else
        match source.mediaStreams with
        | none => requestedIndex
        | some streams => subtitleOfLanguage language requestedIndex streams

/-- A stream without a url is tried again without subtitles if these had to be
burned in. -/
def retryWithoutSubtitles (position : Int) (stream : StreamInfo) :
    ControllerM Unit := do
  let method ← lift stream.getSubtitleDeliveryMethod
  if method = some .encode then
    modify fun controller => { controller with burningSubs := false }
    stop
    play position (some (-1))
  else
    return ()

/-- The part of `startItem` for a stored stream with a url. -/
def startStream (item : BaseItemDto) (position : Int) (stream : StreamInfo)
    (source : MediaSourceInfo) : ControllerM Unit := do
  let options ← currentOptions
  let chosen :=
    selectSubtitle (← get).lastPlayedSubtitleLanguageIsoCode
      options.subtitleStreamIndex source
  updateOptions fun options => { options with subtitleStreamIndex := chosen }
  modify fun controller =>
    controller.record
      (.subtitleSelected source.defaultSubtitleStreamIndex chosen)
  setDefaultAudioIndex source
  modify fun controller =>
    controller.record
      (.setMediaStreamInfo stream controller.getCurrentlyPlayingItem)
  modify fun controller =>
    { controller with
      lookups := controller.lookups ++ [⟨item, stream, position⟩] }

/-- The part of `startItem` for a stream that was stored. -/
def startStored (item : BaseItemDto) (position : Int)
    (stream : StreamInfo) : ControllerM Unit := do
  let source ← requireNotNull stream.mediaSource
  updateOptions fun options =>
    { options with mediaSourceId := some source.id }
  if ¬stream.hasMediaUrl then
    retryWithoutSubtitles position stream
  else
    startStream item position stream source

def startItem (item : BaseItemDto) (position : Int) (stream : StreamInfo) :
    ControllerM Unit := do
  let controller ← get
  if controller.initializedManager = none ∨ ¬controller.hasFragment then
    return ()
  else
    updateOptions fun options => { options with audioStreamIndex := none }
    modify fun controller =>
      { controller with
        mStartPosition := position
        mCurrentStreamInfo := some stream }.record
          (.stored stream controller.getCurrentlyPlayingItem)
    startStored item position stream

/-- The video starts now or after a delay. -/
def startVideo : ControllerM Unit := do
  let controller ← get
  if controller.settings.delaysVideoStart then
    modify fun controller =>
      { controller with delayedStarts := controller.delayedStarts + 1 }
  else
    let _ ← requireNotNull controller.mVideoManager
    modify fun controller => controller.record .start

/-- The callback of `applyMediaSegments`. -/
def segmentsLoaded (lookup : Lookup) : ControllerM Unit := do
  startVideo
  if ¬(← get).hasFragment then
    throw .nullPointer
  else
    modify fun controller =>
      controller.record
        (.reportStart lookup.item lookup.stream lookup.position)

/-- The callback for live TV does not look at the subtitles. -/
def updateAnsweredSubs (request : Request) (stream : StreamInfo) :
    ControllerM Unit :=
  if request.isLiveTv then return () else updateBurningSubs stream

/-- The callbacks of a request that was answered with a stream. -/
def onResponse (request : Request) (stream : StreamInfo) :
    ControllerM Unit := do
  let controller ← get
  match request.kind with
  | .videoStreamInfo =>
      if controller.mVideoManager = none then
        return ()
      else
        modify fun controller =>
          { controller with mCurrentOptions := some request.options }
        updateAnsweredSubs request stream
        let item ← requireNotNull request.item
        startItem item request.position stream
  | .changeVideoStream =>
      modify fun controller =>
        { controller with mCurrentStreamInfo := some stream }.record
          (.stored stream controller.getCurrentlyPlayingItem)
      updateBurningSubs stream
      if controller.mVideoManager = none then
        return ()
      else
        modify fun controller =>
          (controller.record
            (.setMediaStreamInfo stream
              controller.getCurrentlyPlayingItem)).record .start

def onRequestError (request : Request) : ControllerM Unit :=
  match request.kind with
  | .videoStreamInfo => return ()
  | .changeVideoStream => stop

def disableDefaultSubtitles : ControllerM Unit := do
  let _ ← requireNotNull (← get).initializedManager
  modify fun controller => controller.record .textDisabled

def setLastPlayedSubtitleLanguageIsoCode (isoCode : Option String) :
    ControllerM Unit :=
  modify fun controller =>
    { controller with lastPlayedSubtitleLanguageIsoCode := isoCode }

/-- Playback restarts with other subtitles. -/
def restartWithSubtitles (index : Int) (burned : Bool) :
    ControllerM Unit := do
  stop
  modify fun controller => { controller with burningSubs := burned }
  updateOptions fun options =>
    { options with subtitleStreamIndex := some index }
  play (← get).mCurrentPosition (some index)

/-- `setSubtitleIndex` with the index -1. -/
def disableSubtitles (force : Bool) : ControllerM Unit := do
  let options ← currentOptions
  if options.subtitleStreamIndex = some (-1) ∧ ¬force then
    return ()
  else if ¬(← get).hasFragment then
    throw .nullPointer
  else
    setLastPlayedSubtitleLanguageIsoCode (some "")
    updateOptions fun options =>
      { options with subtitleStreamIndex := some (-1) }
    if (← get).burningSubs then
      restartWithSubtitles (-1) false
    else
      disableDefaultSubtitles

/-- The id of an external subtitle ends with its index. -/
def TrackGroup.isExternalSubtitle (group : TrackGroup) (index : Int) : Bool :=
  match group.formatIds with
  | [some id] => id.endsWith (":JF_EXTERNAL:" ++ toString index)
  | _ => false

/-- The position of an embedded subtitle among those the player exposes. -/
def localSubtitleIndex (stream : MediaStream) (streams : List MediaStream) :
    Option Nat :=
  ((streams.filter fun other => other.type = .subtitle).filter fun other =>
    if stream.deliveryMethod = some .embed then
      ¬other.isExternal
    else
      other.deliveryMethod = some .embed ∨
        other.deliveryMethod = some .hls).idxOf? stream

/-- Without a group of the player subtitles are disabled. -/
def enableGroup (index : Int) (group : Option TrackGroup) :
    ControllerM Unit :=
  match group with
  | none => disableSubtitles false
  | some group => do
      updateOptions fun options =>
        { options with subtitleStreamIndex := some index }
      modify fun controller => controller.record (.textEnabled group)

/-- A subtitle stream that the player shows. -/
def enableSubtitle (index : Int) (stream : MediaStream)
    (streams : List MediaStream) : ControllerM Unit := do
  if stream.deliveryMethod = some .external then
    let manager ← requireNotNull (← get).initializedManager
    enableGroup index
      (manager.readings.groups.find? fun group =>
        group.isExternalSubtitle index)
  else
    match localSubtitleIndex stream streams with
    | none => disableSubtitles false
    | some localIndex =>
        let manager ← requireNotNull (← get).initializedManager
        enableGroup index
          ((manager.readings.groups.filter TrackGroup.isText).filter
            fun group => ¬group.isExternalSubtitle index)[localIndex]?

/-- The part of `setSubtitleIndex` for subtitles that are not burned in. -/
def applySubtitle (index : Int) (found : Option MediaStream)
    (streams : List MediaStream) : ControllerM Unit :=
  match found with
  | none => disableSubtitles false
  | some stream => do
      if stream.deliveryMethod = some .encode then
        restartWithSubtitles index true
      else
        let current ← requireNotNull (← get).mCurrentStreamInfo
        if (← get).shouldBurnInSubtitles current.playMethod then
          restartWithSubtitles index true
        else if stream.deliveryMethod = some .drop ∨
            stream.deliveryMethod = none then
          disableSubtitles false
        else
          enableSubtitle index stream streams

def subtitleStream (index : Int) (streams : List MediaStream) :
    Option MediaStream :=
  streams.find? fun stream => stream.type = .subtitle ∧ stream.index = index

def setSubtitleIndex (index : Int) (force : Bool) : ControllerM Unit := do
  if index = -1 then
    disableSubtitles force
  else
    let options ← currentOptions
    if options.subtitleStreamIndex = some index ∧ ¬force then
      return ()
    else if ¬(← get).hasFragment then
      throw .nullPointer
    else
      let source ← requireNotNull (← lift (← get).getCurrentMediaSource)
      let streams := source.mediaStreams.getD []
      let found := subtitleStream index streams
      setLastPlayedSubtitleLanguageIsoCode
        (found.bind MediaStream.language)
      if (← get).burningSubs then
        restartWithSubtitles index false
      else
        applySubtitle index found streams

/-- Subtitles that are not burned in are enabled in the player. -/
def selectSubtitleTrack : ControllerM Unit := do
  if (← get).burningSubs then
    disableDefaultSubtitles
  else
    let options ← currentOptions
    setSubtitleIndex (options.subtitleStreamIndex.getD (-1)) true

def selectAudioTrack : ControllerM Unit := do
  let options ← currentOptions
  let controller ← get
  match options.audioStreamIndex with
  | some index => switchAudioStream index
  | none =>
      let source ←
        requireNotNull (← lift controller.getCurrentMediaSource)
      switchAudioStream
        (source.defaultAudioStreamIndex.getD controller.mDefaultAudioIndex)

/-- The part of `onPrepared` for a stream that was buffering. -/
def endBuffering : ControllerM Unit := do
  let controller ← get
  if controller.mPlaybackState = .buffering then
    modify fun controller => { controller with mPlaybackState := .playing }
    let _ ← requireNotNull controller.getCurrentlyPlayingItem
    let _ ← requireNotNull controller.mCurrentStreamInfo
    modify startReportLoop
  else
    return ()

def onPrepared : ControllerM Unit := do
  endBuffering
  let controller ← get
  let _ ← requireNotNull controller.mCurrentStreamInfo
  if controller.mPlaybackState = .paused then
    modify fun controller => { controller with mPlaybackState := .playing }
  else
    selectSubtitleTrack
    selectAudioTrack

/-- `stabilized` says whether the last error is more than 30 seconds ago. -/
def playerErrorEncountered (stabilized : Bool) : ControllerM Unit := do
  modify fun controller =>
    { controller with
      playbackRetries :=
        (if controller.playbackRetries > 0 ∧ stabilized then 0
          else controller.playbackRetries) + 1 }
  if (← get).playbackRetries < 3 then
    stop
    play (← get).mCurrentPosition none
  else
    modify fun controller => { controller with mPlaybackState := .error }

def onError (stabilized : Bool) : ControllerM Unit := do
  modify fun controller =>
    { controller with
      directStreamLiveTv :=
        controller.directStreamLiveTv &&
          !(controller.hasFragment && controller.isLiveTv) }
  playerErrorEncountered stabilized

def onProgress : ControllerM Unit := do
  modify refreshCurrentPosition
  let controller ← get
  if controller.isPlaying ∧ ¬controller.spinnerOff then
    if controller.mStartPosition > 0 then
      modify fun controller =>
        { controller with
          initialSeeks :=
            controller.initialSeeks ++ [controller.mStartPosition]
          mStartPosition := 0 }
    else
      modify fun controller =>
        { controller with finishedInitialSeek := true, spinnerOff := true }
  else
    return ()

/-- One run of the report loop. -/
def reportTick : ControllerM Unit := do
  let controller ← get
  match controller.reportLoop with
  | none => return ()
  | some .playing =>
      modify fun controller =>
        if controller.isPlaying then controller.refreshCurrentPosition
        else controller
      modify fun controller =>
        if controller.mPlaybackState = .undefined ∨
            controller.mPlaybackState = .idle then
          { controller with reportLoop := none }
        else
          controller
  | some .paused =>
      if controller.getCurrentlyPlayingItem = none ∨
          controller.mPlaybackState ≠ .paused then
        modify fun controller => { controller with reportLoop := none }
      else
        modify refreshCurrentPosition

/-- What the server answers to a request: the sources it offers, or `none` for
a failure. -/
abbrev Answer := Option (List MediaSourceInfo)

inductive Event where
  | init (readings : PlayerReadings) (directStreamLiveTv : Bool)
  | play (position : Int)
  | playPause
  | pause
  | stop
  | next
  | prev
  | skip (msec : Int)
  | skipRunnable
  | seek (pos : Int) (skipToNext : Bool)
  | initialSeek (position : Int)
  | switchAudioStream (index : Int)
  | setSubtitleIndex (index : Int)
  | refreshStream
  | endPlayback
  | onPrepared
  | onProgress
  | onCompletion
  | onError (stabilized : Bool)
  | reportTick
  | response (index : Nat) (isActive : Bool) (answer : Answer)
  | segmentsLoaded (index : Nat)
  | delayedStart
  | programStarted (start : Int)
  | timePasses (now : Int)
  | playerChanges (readings : PlayerReadings)
  deriving DecidableEq, Repr

/-- The answer to the request at the index. -/
def respond (index : Nat) (isActive : Bool) (answer : Answer) :
    ControllerM Unit := do
  let controller ← get
  match controller.requests[index]? with
  | none => return ()
  | some request =>
      modify fun controller =>
        { controller with requests := controller.requests.eraseIdx index }
      if ¬isActive then
        return ()
      else
        let options ← requireNotNull
          controller.optionObjects[request.options]?
        match answer.bind (createStreamInfo options) with
        | none => onRequestError request
        | some stream => onResponse request stream

def handle : Event → ControllerM Unit
  | .init readings directStreamLiveTv =>
      modify fun controller => controller.init readings directStreamLiveTv
  | .play position => play position none
  | .playPause => playPause
  | .pause => pause
  | .stop => stop
  | .next => next
  | .prev => prev
  | .skip msec => skip msec
  | .skipRunnable => do
      if (← get).skipScheduled then
        skipRunnable
      else
        return ()
  | .seek pos skipToNext => seek pos skipToNext
  | .initialSeek position => do
      if position ∈ (← get).initialSeeks then
        runInitialSeek position
      else
        return ()
  | .switchAudioStream index => switchAudioStream index
  | .setSubtitleIndex index => setSubtitleIndex index false
  | .refreshStream => refreshStream
  | .endPlayback => endPlayback
  | .onPrepared => onPrepared
  | .onProgress => onProgress
  | .onCompletion => itemComplete
  | .onError stabilized => onError stabilized
  | .reportTick => reportTick
  | .response index isActive answer => respond index isActive answer
  | .segmentsLoaded index => do
      match (← get).lookups[index]? with
      | none => return ()
      | some lookup =>
          modify fun controller =>
            { controller with lookups := controller.lookups.eraseIdx index }
          segmentsLoaded lookup
  | .delayedStart => do
      let controller ← get
      if controller.delayedStarts > 0 then
        modify fun controller =>
          { controller with delayedStarts := controller.delayedStarts - 1 }
        if controller.mVideoManager = none then
          return ()
        else
          modify fun controller => controller.record .start
      else
        return ()
  | .programStarted start =>
      modify fun controller =>
        { controller with mCurrentProgramStart := some start }
  | .timePasses now =>
      modify fun controller => { controller with now := now }
  | .playerChanges readings =>
      modify fun controller =>
        { controller with
          mVideoManager :=
            controller.mVideoManager.map fun manager =>
              { manager with readings := readings } }

/-- The state after an event, whether its handler has returned or thrown. -/
def step (controller : PlaybackController) (event : Event) :
    PlaybackController :=
  finalState ((handle event).run controller)

/-- A source of one minute that is played directly. -/
def shortSource (id : Nat) (streams : List MediaStream)
    (subtitle : Option Int) : MediaSourceInfo where
  id := id
  mediaStreams := some streams
  defaultAudioStreamIndex := none
  defaultSubtitleStreamIndex := subtitle
  runTimeTicks := some 600000000
  supportsDirectPlay := true
  supportsDirectStream := false
  supportsTranscoding := false
  hasTranscodingUrl := false

def shortEpisode (source : MediaSourceInfo) : BaseItemDto where
  id := source.id
  type := .other
  isVirtual := false
  runTimeTicks := source.runTimeTicks
  mediaSources := [source]

/-- The player while it plays the episode. -/
def playingAt (position : Nat) (groups : List TrackGroup) :
    PlayerReadings where
  isPlaying := true
  currentPosition := position
  duration := 60000
  isSeekable := true
  groups := groups
  audioTrack := -1
  acceptsAudioTrack := true

/-- The server answers the oldest request and the player starts. -/
def opening (source : MediaSourceInfo) (groups : List TrackGroup) :
    List Event :=
  [.response 0 true (some [source]), .segmentsLoaded 0,
    .playerChanges (playingAt 1000 groups), .onPrepared, .onProgress]

end JellyfinTv.Video
