import JellyfinTv.External.Activity

/-!
# The session of an external player

A session goes through the items that are left in the queue: launch one, wait
for its result, report it and go on if it was watched.  The activity does the
same step by step, with the position of the queue as its only memory of what
is left.
-/

namespace JellyfinTv.External

open JellyfinTv.Library

variable {UUID : Type}

/-! ## Effects -/

/-- What the server is told about the playback. -/
def reports (effects : List (Effect UUID)) : List (PlaybackStopInfo UUID) :=
  effects.filterMap fun effect =>
    match effect with
    | .reportPlaybackStopped info => some info
    | _ => none

/-- The items that were handed to a player. -/
def launches (effects : List (Effect UUID)) : List (BaseItemDto UUID) :=
  effects.filterMap fun effect =>
    match effect with
    | .launch item _ _ _ => some item
    | _ => none

def Effect.IsAside : Effect UUID → Prop
  | .launch _ _ _ _ | .reportPlaybackStopped _ => False
  | _ => True

theorem reports_of_aside {effects : List (Effect UUID)}
    (aside : ∀ effect ∈ effects, effect.IsAside) : reports effects = [] := by
  refine List.filterMap_eq_nil_iff.mpr fun effect member => ?_
  have silent := aside effect member
  cases effect with
  | reportPlaybackStopped info =>
      exact silent.elim
  | launch _ _ _ _ | toast _ | lastPlayback | lastMoviePlayback
  | lastTvPlayback | finish =>
      rfl

theorem launches_of_aside {effects : List (Effect UUID)}
    (aside : ∀ effect ∈ effects, effect.IsAside) : launches effects = [] := by
  refine List.filterMap_eq_nil_iff.mpr fun effect member => ?_
  have silent := aside effect member
  cases effect with
  | launch item mediaSource position intent =>
      exact silent.elim
  | reportPlaybackStopped _ | toast _ | lastPlayback | lastMoviePlayback
  | lastTvPlayback | finish =>
      rfl

theorem reports_append (first second : List (Effect UUID)) :
    reports (first ++ second) = reports first ++ reports second :=
  List.filterMap_append

/-- A round makes one report. -/
theorem reports_round {asides : List (Effect UUID)}
    (aside : ∀ effect ∈ asides, effect.IsAside) (item : BaseItemDto UUID)
    (mediaSource : MediaSourceInfo) (position : Int) (intent : Intent)
    (info : PlaybackStopInfo UUID) (ending : List (Effect UUID)) :
    (reports
        (.launch item mediaSource position intent ::
          .reportPlaybackStopped info :: (asides ++ ending))).length =
      (reports ending).length + 1 := by
  change (info :: reports (asides ++ ending)).length = _
  rw [reports_append, reports_of_aside aside, List.nil_append,
    List.length_cons]

theorem launches_append (first second : List (Effect UUID)) :
    launches (first ++ second) = launches first ++ launches second :=
  List.filterMap_append

/-- At any time, the items reported so far are the first ones of those
launched so far. -/
def Paired (effects : List (Effect UUID)) : Prop :=
  ∀ early, early <+: effects →
    (reports early).map PlaybackStopInfo.itemId <+:
      (launches early).map BaseItemDto.id

theorem paired_nil : Paired ([] : List (Effect UUID)) := by
  intro early earlier
  rw [List.prefix_nil.mp earlier]
  exact List.nil_prefix

theorem Paired.cons {effect : Effect UUID} {effects : List (Effect UUID)}
    (paired : Paired effects) (aside : effect.IsAside) :
    Paired (effect :: effects) := by
  intro early earlier
  rcases List.prefix_cons_iff.mp earlier with rfl | ⟨later, rfl, inside⟩
  · exact List.nil_prefix
  · have silent : ∀ other ∈ [effect], other.IsAside := by
      intro other member
      rw [List.mem_singleton.mp member]
      exact aside
    rw [← List.singleton_append, reports_append, launches_append,
      reports_of_aside silent, launches_of_aside silent]
    exact paired later inside

theorem Paired.append {asides effects : List (Effect UUID)}
    (paired : Paired effects) (aside : ∀ effect ∈ asides, effect.IsAside) :
    Paired (asides ++ effects) := by
  induction asides with
  | nil =>
      exact paired
  | cons effect rest inductionHypothesis =>
      obtain ⟨first, later⟩ := List.forall_mem_cons.mp aside
      exact (inductionHypothesis later).cons first

theorem paired_launch {asides : List (Effect UUID)}
    (aside : ∀ effect ∈ asides, effect.IsAside) (item : BaseItemDto UUID)
    (mediaSource : MediaSourceInfo) (position : Int) (intent : Intent) :
    Paired (.launch item mediaSource position intent :: asides) := by
  intro early earlier
  rcases List.prefix_cons_iff.mp earlier with rfl | ⟨later, rfl, inside⟩
  · exact List.nil_prefix
  · have none : reports later = [] :=
      reports_of_aside fun effect member =>
        aside effect (inside.subset member)
    change (reports later).map PlaybackStopInfo.itemId <+: _
    rw [none]
    exact List.nil_prefix

theorem Paired.round {effects : List (Effect UUID)} (paired : Paired effects)
    {item : BaseItemDto UUID} {info : PlaybackStopInfo UUID}
    (same : info.itemId = item.id) (mediaSource : MediaSourceInfo)
    (position : Int) (intent : Intent) :
    Paired
      (.launch item mediaSource position intent ::
        .reportPlaybackStopped info :: effects) := by
  intro early earlier
  rcases List.prefix_cons_iff.mp earlier with rfl | ⟨second, rfl, inside⟩
  · exact List.nil_prefix
  · rcases List.prefix_cons_iff.mp inside with rfl | ⟨later, rfl, further⟩
    · exact List.nil_prefix
    · change info.itemId :: (reports later).map PlaybackStopInfo.itemId <+:
        item.id :: (launches later).map BaseItemDto.id
      rw [same, List.prefix_cons_inj]
      exact paired later further

/-- The result of a launch, and whether the server accepts the report. -/
abbrev Round := ActivityResult × Bool

def failure (accepted : Bool) : List (Effect UUID) :=
  if accepted then [] else [.toast .video_error_unknown_error]

variable [DecidableEq UUID] (environment : Environment UUID)

/-- What happens to the items that are left, given the rounds to come. -/
def session :
    List (BaseItemDto UUID) → Int → List Round → List (Effect UUID)
  | [], _, _ => [.finish]
  | item :: later, position, rounds =>
      match prepare environment item position with
      | .error message => [.toast message, .finish]
      | .ok (player, mediaSource, playIntent) =>
          if environment.packageManager.startActivity playIntent then
            .launch item mediaSource position playIntent ::
              match rounds with
              | [] => []
              | (result, accepted) :: rounds =>
                  match player.parseResult result with
                  | .failed => [.toast .video_error_unknown_error, .finish]
                  | .success ended completed =>
                      .reportPlaybackStopped
                          (stopInfo environment item mediaSource ended
                            completed) ::
                        (failure accepted ++ refreshes item ++
                          if shouldPlayNext environment item mediaSource
                              ended completed then
                            session later 0 rounds
                          else
                            [.finish])
          else
            [.toast .no_player_message, .finish]

omit [DecidableEq UUID] in
theorem aside_after (item : BaseItemDto UUID) (accepted : Bool) :
    ∀ effect ∈ failure accepted ++ refreshes item, effect.IsAside := by
  refine List.forall_mem_append.mpr ⟨?_, ?_⟩
  · cases accepted <;> simp [failure, Effect.IsAside]
  · unfold refreshes
    split <;> simp [Effect.IsAside]

omit [DecidableEq UUID] in
theorem aside_stop (message : Message) :
    ∀ effect ∈ [.toast message, (.finish : Effect UUID)], effect.IsAside := by
  simp [Effect.IsAside]

/-- The items are launched in order, and each one is reported before the next
one is launched. -/
theorem session_order (items : List (BaseItemDto UUID)) (position : Int)
    (rounds : List Round) :
    launches (session environment items position rounds) <+: items ∧
      Paired (session environment items position rounds) := by
  induction items generalizing position rounds with
  | nil =>
      exact ⟨List.nil_prefix, Paired.cons paired_nil trivial⟩
  | cons item later inductionHypothesis =>
      have stops (message : Message) :
          launches [.toast message, .finish] <+: item :: later ∧
            Paired [.toast message, (.finish : Effect UUID)] :=
        ⟨List.nil_prefix, paired_nil.append (aside_stop message)⟩
      rw [session]
      split
      · exact stops _
      · rename_i player mediaSource playIntent prepared
        split
        · split
          · exact
              ⟨List.prefix_append [item] later,
                paired_launch (List.forall_mem_nil _) item mediaSource
                  position playIntent⟩
          · rename_i result accepted rest
            split
            · exact
                ⟨List.prefix_append [item] later,
                  paired_launch (aside_stop _) item mediaSource position
                    playIntent⟩
            · rename_i ended completed parsed
              have next :
                  launches
                        (if shouldPlayNext environment item mediaSource ended
                            completed then
                          session environment later 0 rest
                        else
                          [.finish]) <+: later ∧
                    Paired
                      (if shouldPlayNext environment item mediaSource ended
                          completed then
                        session environment later 0 rest
                      else
                        [.finish]) := by
                split
                · exact inductionHypothesis 0 rest
                · exact ⟨List.nil_prefix, Paired.cons paired_nil trivial⟩
              have aside := aside_after item accepted
              refine
                ⟨?_,
                  Paired.round (next.2.append aside) rfl mediaSource position
                    playIntent⟩
              change
                item :: launches (failure accepted ++ refreshes item ++ _) <+:
                  item :: later
              rw [launches_append, launches_of_aside aside, List.nil_append,
                List.prefix_cons_inj]
              exact next.1
        · exact stops _

/-! ## The activity plays the session -/

namespace ExternalPlayerActivity

variable {environment} {activity : ExternalPlayerActivity UUID}
  {queue : List (BaseItemDto UUID)}

def roundEvents (round : Round) : List Event :=
  [.result round.1, .reported round.2]

theorem run_of_still (still : activity.launched = false)
    (idle : activity.resultJob = none) (rounds : List Round) :
    run (step environment) activity (rounds.flatMap roundEvents) =
      activity := by
  induction rounds with
  | nil =>
      rfl
  | cons round rest inductionHypothesis =>
      have ignored :
          step environment activity (.result round.1) = activity := by
        rw [step, still]
        rfl
      have unanswered :
          step environment activity (.reported round.2) = activity := by
        rw [step, idle]
      rw [List.flatMap_cons, run_append, roundEvents, run_cons, run_cons,
        run_nil, ignored, unanswered]
      exact inductionHypothesis

/-- The activity is about to play the item at the position. -/
structure Stands (queue : List (BaseItemDto UUID)) (position : Nat)
    (activity : ExternalPlayerActivity UUID) : Prop where
  queue : activity.currentVideoQueue = queue
  place : activity.currentMediaPosition = position
  still : activity.launched = false
  idle : activity.resultJob = none

omit [DecidableEq UUID] in
theorem Stands.queuedItem {place : Nat} (stands : Stands queue place activity) :
    activity.queuedItem = queue[place]? := by
  rw [ExternalPlayerActivity.queuedItem, stands.place, stands.queue,
    if_neg (by omega), Int.toNat_natCast]

/-- The activity has launched the item at the position. -/
structure Awaits (queue : List (BaseItemDto UUID)) (position : Nat)
    (item : BaseItemDto UUID) (mediaSource : MediaSourceInfo)
    (player : ExternalPlayerApi) (activity : ExternalPlayerActivity UUID) :
    Prop where
  queue : activity.currentVideoQueue = queue
  place : activity.currentMediaPosition = position
  launched : activity.launched = true
  idle : activity.resultJob = none
  player : activity.currentPlayer = some player
  item : activity.currentItem = some (item, mediaSource)

variable {place : Nat} {item : BaseItemDto UUID}
  {mediaSource : MediaSourceInfo} {player : ExternalPlayerApi}

theorem Awaits.failed
    (awaits : Awaits queue place item mediaSource player activity)
    {result : ActivityResult} (parsed : player.parseResult result = .failed)
    (accepted : Bool) :
    run (step environment) activity (roundEvents (result, accepted)) =
      { activity with launched := false }.giveUp
        .video_error_unknown_error := by
  have ends :
      step environment activity (.result result) =
        { activity with launched := false }.giveUp
          .video_error_unknown_error := by
    rw [step, if_pos awaits.launched, onResult, awaits.player,
      Option.getD_some, parsed]
  rw [roundEvents, run_cons, ends, run_cons, run_nil, step]
  dsimp only [giveUp, ExternalPlayerActivity.finish, emit]
  rw [awaits.idle]

/-- A success moves the queue on and reports the item. -/
theorem Awaits.success
    (awaits : Awaits queue place item mediaSource player activity)
    (inside : place < queue.length) {result : ActivityResult}
    {ended : Option Int} {completed : Option Bool}
    (parsed : player.parseResult result = .success ended completed) :
    step environment activity (.result result) =
      { activity with
        launched := false
        currentMediaPosition := (place + 1 : Nat)
        resultJob :=
          some
            (item,
              shouldPlayNext environment item mediaSource ended completed)
        effects :=
          activity.effects ++
            [.reportPlaybackStopped
              (stopInfo environment item mediaSource ended completed)] } := by
  have allowed :
      0 ≤ (place : Int) + 1 ∧ (place : Int) + 1 ≤ queue.length := by
    omega
  rw [step, if_pos awaits.launched, onResult, awaits.player,
    Option.getD_some, parsed]
  simp only [onPlayResultSuccess, setCurrentMediaPosition, awaits.queue,
    awaits.place, if_pos allowed, awaits.item]
  rfl

/-- What is left of a round is to go on or not. -/
theorem Awaits.round
    (awaits : Awaits queue place item mediaSource player activity)
    (inside : place < queue.length) {result : ActivityResult}
    {ended : Option Int} {completed : Option Bool}
    (parsed : player.parseResult result = .success ended completed)
    (accepted : Bool) :
    ∃ after : ExternalPlayerActivity UUID,
      Stands queue (place + 1) after ∧
        after.effects =
          activity.effects ++
            .reportPlaybackStopped
                (stopInfo environment item mediaSource ended completed) ::
              (failure accepted ++ refreshes item) ∧
        run (step environment) activity (roundEvents (result, accepted)) =
          if shouldPlayNext environment item mediaSource ended completed then
            after.playNext environment 0
          else
            after.finish := by
  refine
    ⟨{ activity with
        launched := false
        currentMediaPosition := (place + 1 : Nat)
        resultJob := none
        effects :=
          activity.effects ++
            [Effect.reportPlaybackStopped
              (stopInfo environment item mediaSource ended completed)] }.emit
        (failure accepted ++ refreshes item),
      ⟨awaits.queue, rfl, rfl, rfl⟩, ?_, ?_⟩
  · simp [emit]
  · rw [roundEvents, run_cons, run_cons, run_nil, awaits.success inside parsed]
    rfl

/-- The activity is done, after effects that tell the server nothing. -/
structure Over (place : Int) (asides : List (Effect UUID))
    (activity after : ExternalPlayerActivity UUID) : Prop where
  place : after.currentMediaPosition = place
  still : after.launched = false
  idle : after.resultJob = none
  effects : after.effects = activity.effects ++ asides
  aside : ∀ effect ∈ asides, effect.IsAside

omit [DecidableEq UUID] in
theorem over_finish {place : Int}
    (place_eq : activity.currentMediaPosition = place)
    (still : activity.launched = false) (idle : activity.resultJob = none) :
    Over place [.finish] activity activity.finish where
  place := place_eq
  still := still
  idle := idle
  effects := rfl
  aside := by
    simp [Effect.IsAside]

omit [DecidableEq UUID] in
theorem over_giveUp (place_eq : activity.currentMediaPosition = place)
    (still : activity.launched = false) (idle : activity.resultJob = none)
    (message : Message) :
    Over place [.toast message, .finish] activity
      (activity.giveUp message) where
  place := place_eq
  still := still
  idle := idle
  effects := List.append_assoc _ _ _
  aside := aside_stop message

/-- Playing the next item ends the session, whatever rounds are to come, or
launches the item at the position. -/
theorem Stands.playNext (stands : Stands queue place activity)
    (environment : Environment UUID) (position : Int) :
    (∃ effects,
      Over place effects activity (activity.playNext environment position) ∧
        ∀ rounds,
          session environment (queue.drop place) position rounds = effects) ∨
    ∃ item mediaSource player playIntent,
      queue.drop place = item :: queue.drop (place + 1) ∧
        prepare environment item position =
          .ok (player, mediaSource, playIntent) ∧
        environment.packageManager.startActivity playIntent = true ∧
        Awaits queue place item mediaSource player
          (activity.playNext environment position) ∧
        (activity.playNext environment position).effects =
          activity.effects ++
            [.launch item mediaSource position playIntent] := by
  cases found : queue[place]? with
  | none =>
      left
      refine ⟨[.finish], ?_, ?_⟩
      · rw [ExternalPlayerActivity.playNext, stands.queuedItem, found]
        exact over_finish stands.place stands.still stands.idle
      · intro rounds
        rw [List.drop_of_length_le (List.getElem?_eq_none_iff.mp found)]
        rfl
  | some item =>
      have split : queue.drop place = item :: queue.drop (place + 1) := by
        obtain ⟨inside, here⟩ := List.getElem?_eq_some_iff.mp found
        rw [List.drop_eq_getElem_cons inside, here]
      have plays :
          activity.playNext environment position =
            activity.playItem environment item position := by
        rw [ExternalPlayerActivity.playNext, stands.queuedItem, found]
      rw [plays, playItem, split]
      cases prepared : prepare environment item position with
      | error message =>
          left
          refine
            ⟨_, over_giveUp stands.place stands.still stands.idle message, ?_⟩
          intro rounds
          rw [session, prepared]
      | ok playing =>
          obtain ⟨player, mediaSource, playIntent⟩ := playing
          dsimp only
          split
          · rename_i starts
            right
            exact
              ⟨item, mediaSource, player, playIntent, rfl, prepared, starts,
                ⟨stands.queue, stands.place, rfl, stands.idle, rfl, rfl⟩, rfl⟩
          · rename_i fails
            left
            refine ⟨[.toast .no_player_message, .finish], ?_, ?_⟩
            · exact
                ⟨stands.place, stands.still, stands.idle,
                  List.append_assoc _ _ _, aside_stop _⟩
            · intro rounds
              rw [session, prepared]
              exact if_neg fails

/-- The run of an activity that is about to play, in terms of the session. -/
structure Plays (environment : Environment UUID)
    (items : List (BaseItemDto UUID)) (place position : Int)
    (rounds : List Round) (activity final : ExternalPlayerActivity UUID) :
    Prop where
  effects :
    final.effects =
      activity.effects ++ session environment items position rounds
  place :
    final.currentMediaPosition =
      place + (reports (session environment items position rounds)).length

theorem Over.plays {asides : List (Effect UUID)}
    {final : ExternalPlayerActivity UUID} {items : List (BaseItemDto UUID)}
    {place position : Int} {rounds : List Round}
    (closing : Over place asides activity final)
    (same : session environment items position rounds = asides) :
    Plays environment items place position rounds activity final where
  effects := by
    rw [closing.effects, same]
  place := by
    rw [closing.place, same, reports_of_aside closing.aside]
    simp

theorem session_failed {later : List (BaseItemDto UUID)} {position : Int}
    {playIntent : Intent} {result : ActivityResult}
    (prepared :
      prepare environment item position = .ok (player, mediaSource, playIntent))
    (starts : environment.packageManager.startActivity playIntent = true)
    (parsed : player.parseResult result = .failed) (accepted : Bool)
    (rest : List Round) :
    session environment (item :: later) position ((result, accepted) :: rest) =
      [.launch item mediaSource position playIntent,
        .toast .video_error_unknown_error, .finish] := by
  rw [session, prepared]
  dsimp only
  rw [if_pos starts, parsed]

theorem session_success {later : List (BaseItemDto UUID)} {position : Int}
    {playIntent : Intent} {result : ActivityResult} {ended : Option Int}
    {completed : Option Bool}
    (prepared :
      prepare environment item position = .ok (player, mediaSource, playIntent))
    (starts : environment.packageManager.startActivity playIntent = true)
    (parsed : player.parseResult result = .success ended completed)
    (accepted : Bool) (rest : List Round) :
    session environment (item :: later) position ((result, accepted) :: rest) =
      .launch item mediaSource position playIntent ::
        .reportPlaybackStopped
            (stopInfo environment item mediaSource ended completed) ::
          (failure accepted ++ refreshes item ++
            if shouldPlayNext environment item mediaSource ended completed then
              session environment later 0 rest
            else
              [.finish]) := by
  rw [session, prepared]
  dsimp only
  rw [if_pos starts, parsed]

/-- The run after a round, which goes on or not. -/
theorem Stands.ends (stands : Stands queue place activity) (goesOn : Bool)
    (rounds : List Round)
    (plays :
      Plays environment (queue.drop place) place 0 rounds activity
        (run (step environment) (activity.playNext environment 0)
          (rounds.flatMap roundEvents))) :
    let final :=
      run (step environment)
        (if goesOn then activity.playNext environment 0 else activity.finish)
        (rounds.flatMap roundEvents)
    let ending :=
      if goesOn then session environment (queue.drop place) 0 rounds
      else [.finish]
    final.effects = activity.effects ++ ending ∧
      final.currentMediaPosition = place + (reports ending).length := by
  cases goesOn with
  | true =>
      exact ⟨plays.effects, plays.place⟩
  | false =>
      have closing := over_finish stands.place stands.still stands.idle
      simp only [Bool.false_eq_true, if_false]
      rw [run_of_still closing.still closing.idle]
      exact ⟨closing.effects, closing.place.trans (Int.add_zero _).symm⟩

/-- An activity that is about to play goes through the session of the items
from its position on. -/
theorem run_playNext (stands : Stands queue place activity) (position : Int)
    (rounds : List Round) :
    Plays environment (queue.drop place) place position rounds activity
      (run (step environment) (activity.playNext environment position)
        (rounds.flatMap roundEvents)) := by
  induction rounds generalizing place position activity with
  | nil =>
      rcases stands.playNext environment position with
        ⟨asides, closing, same⟩ |
          ⟨item, mediaSource, player, playIntent, split, prepared, starts,
            awaits, effects⟩
      · exact closing.plays (same [])
      · have whole :
            session environment (queue.drop place) position [] =
              [.launch item mediaSource position playIntent] := by
          rw [split, session, prepared]
          exact if_pos starts
        constructor
        · rw [whole]
          exact effects
        · rw [whole]
          exact awaits.place.trans (Int.add_zero _).symm
  | cons round rest inductionHypothesis =>
      rcases stands.playNext environment position with
        ⟨asides, closing, same⟩ |
          ⟨item, mediaSource, player, playIntent, split, prepared, starts,
            awaits, effects⟩
      · rw [run_of_still closing.still closing.idle]
        exact closing.plays (same _)
      · obtain ⟨result, accepted⟩ := round
        have inside : place < queue.length := by
          have length := congrArg List.length split
          rw [List.length_drop, List.length_cons] at length
          omega
        rw [List.flatMap_cons, run_append]
        cases parsed : player.parseResult result with
        | failed =>
            have closing :
                Over place [.toast .video_error_unknown_error, .finish]
                  (activity.playNext environment position)
                  ({ activity.playNext environment position with
                      launched := false }.giveUp
                    .video_error_unknown_error) :=
              ⟨awaits.place, rfl, awaits.idle, List.append_assoc _ _ _,
                aside_stop _⟩
            rw [awaits.failed parsed accepted,
              run_of_still closing.still closing.idle]
            constructor
            · rw [split, session_failed prepared starts parsed, closing.effects,
                effects, List.append_assoc]
              rfl
            · rw [split, session_failed prepared starts parsed]
              exact closing.place.trans (Int.add_zero _).symm
        | success ended completed =>
            obtain ⟨after, next, told, ran⟩ :
                ∃ after : ExternalPlayerActivity UUID,
                  Stands queue (place + 1) after ∧ _ :=
              awaits.round inside parsed accepted
            obtain ⟨made, moved⟩ :=
              next.ends
                (shouldPlayNext environment item mediaSource ended completed)
                rest (inductionHypothesis next 0)
            rw [ran]
            constructor
            · rw [split, session_success prepared starts parsed, made, told,
                effects]
              simp
            · rw [split, session_success prepared starts parsed, moved,
                reports_round (aside_after item accepted)]
              omega

/-- The items from a position of the queue on.  There are none from the
position of a cleared queue on. -/
def itemsFrom (queue : List (BaseItemDto UUID)) (place : Int) :
    List (BaseItemDto UUID) :=
  if place < 0 then [] else queue.drop place.toNat

theorem run_created (environment : Environment UUID)
    (queue : List (BaseItemDto UUID)) (place position : Int)
    (rounds : List Round) :
    Plays environment (itemsFrom queue place) place position rounds
      (created queue place)
      (run (step environment)
        ((created queue place).playNext environment position)
        (rounds.flatMap roundEvents)) := by
  rw [itemsFrom]
  split
  · rename_i cleared
    have absent : (created queue place).queuedItem = none :=
      if_pos cleared
    have ends :
        (created queue place).playNext environment position =
          (created queue place).finish := by
      rw [ExternalPlayerActivity.playNext, absent]
    have closing :
        Over place [.finish] (created queue place)
          (created queue place).finish :=
      over_finish rfl rfl rfl
    rw [ends, run_of_still closing.still closing.idle]
    exact closing.plays rfl
  · rename_i inside
    obtain ⟨start, rfl⟩ := Int.eq_ofNat_of_zero_le (Int.not_lt.mp inside)
    have stands : Stands queue start (created queue start) :=
      ⟨rfl, rfl, rfl, rfl⟩
    exact run_playNext stands position rounds

omit [DecidableEq UUID] in
theorem effects_emit (effects : List (Effect UUID)) :
    activity.effects <+: (activity.emit effects).effects :=
  List.prefix_append _ _

omit [DecidableEq UUID] in
theorem effects_giveUp (message : Message) :
    activity.effects <+: (activity.giveUp message).effects :=
  (effects_emit [.toast message]).trans (effects_emit [.finish])

theorem effects_playNext (position : Int) :
    activity.effects <+: (activity.playNext environment position).effects := by
  unfold playNext
  split
  · exact effects_emit [.finish]
  · unfold playItem
    split
    · exact effects_giveUp _
    · dsimp only
      split
      · exact List.prefix_append _ _
      · exact effects_giveUp _

omit [DecidableEq UUID] in
theorem effects_onResult (result : ActivityResult) :
    activity.effects <+: (activity.onResult environment result).effects := by
  unfold onResult
  dsimp only
  split
  · unfold onPlayResultSuccess setCurrentMediaPosition
    dsimp only
    split
    · split <;> exact effects_giveUp _
    · split <;> exact List.prefix_append _ _
  · exact effects_giveUp _

theorem effects_step (event : Event) :
    activity.effects <+: (step environment activity event).effects := by
  cases event with
  | onCreate position =>
      rw [step, onCreate]
      split
      · exact List.prefix_rfl
      · exact effects_playNext position
  | result result =>
      rw [step]
      split
      · have silent :
            activity.effects = { activity with launched := false }.effects :=
          rfl
        rw [silent]
        exact effects_onResult result
      · exact List.prefix_rfl
  | reported accepted =>
      rw [step]
      split
      · exact List.prefix_rfl
      · rename_i item playsNext waiting
        have told :
            activity.effects <+:
              ({ activity with resultJob := none }.emit
                (failure accepted ++ refreshes item)).effects :=
          List.prefix_append _ _
        rw [onReported]
        cases playsNext with
        | true =>
            exact told.trans (effects_playNext 0)
        | false =>
            exact told.trans (effects_emit [.finish])

theorem effects_run (events : List Event) :
    activity.effects <+: (run (step environment) activity events).effects := by
  induction events generalizing activity with
  | nil =>
      exact List.prefix_rfl
  | cons event rest inductionHypothesis =>
      exact (effects_step event).trans inductionHypothesis

/-- The activity plays the queue from the position on: it does what the
session of the items there does, with the next position at the first item
that has not been reported.  At any time, the items were launched in the
order of the queue, without leaving one out, and those that returned were
reported in this order, each one once. -/
theorem queue_played_in_order (environment : Environment UUID)
    (queue : List (BaseItemDto UUID)) (place position : Int)
    (rounds : List Round) :
    let events := .onCreate position :: rounds.flatMap roundEvents
    let final := run (step environment) (created queue place) events
    final.effects =
        session environment (itemsFrom queue place) position rounds ∧
      final.currentMediaPosition = place + (reports final.effects).length ∧
        ∀ early, early <+: events →
          let activity := run (step environment) (created queue place) early
          activity.effects <+: final.effects ∧
            launches activity.effects <+: itemsFrom queue place ∧
              (reports activity.effects).map PlaybackStopInfo.itemId <+:
                (launches activity.effects).map BaseItemDto.id := by
  intro events final
  have plays :
      Plays environment (itemsFrom queue place) place position rounds _
        final :=
    run_created environment queue place position rounds
  have effects := plays.effects.trans (List.nil_append _)
  refine ⟨effects, ?_, ?_⟩
  · rw [effects]
    exact plays.place
  · rintro early ⟨later, same⟩
    have earlier :
        (run (step environment) (created queue place) early).effects <+:
          final.effects := by
      change _ <+:
        (run (step environment) (created queue place) events).effects
      rw [← same, run_append]
      exact effects_run later
    obtain ⟨ordered, paired⟩ :=
      session_order environment (itemsFrom queue place) position rounds
    rw [← effects] at ordered paired
    exact
      ⟨earlier, (earlier.filterMap _).trans ordered, paired _ earlier⟩

end ExternalPlayerActivity

end JellyfinTv.External
