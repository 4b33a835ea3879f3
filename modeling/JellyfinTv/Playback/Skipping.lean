import JellyfinTv.Playback.Resolving

/-!
# Entries without a stream

As long as nobody else calls the queue while `MediaStreamService` looks for a
stream, the entries without one are passed over and all others are played.
-/

namespace JellyfinTv.Playback

open JellyfinTv.Queue JellyfinTv.Library

namespace MediaStreamService

variable {Stream : Type}

section Order

variable {mediaStreamResolvers : List (Resolver Stream)}
  {first : QueueEntry} {later : List QueueEntry}
  {service : MediaStreamService Stream}

/-! ## Nothing is passed over -/

/-- The last thing the backend was asked, apart from preparations. -/
def lastCall (service : MediaStreamService Stream) : Option BackendCall :=
  (service.backend.filter fun call => !call.prepares).getLast?

theorem lastCall_callBackend {call : BackendCall}
    (lasting : call.prepares = false) :
    (service.callBackend call).lastCall = some call := by
  simp [lastCall, callBackend, lasting]

/-- A service that is about to take up the current entry has played all
entries before it that can be played. -/
structure Ready (mediaStreamResolvers : List (Resolver Stream))
    (first : QueueEntry) (later : List QueueEntry)
    (service : MediaStreamService Stream) : Prop where
  follows : Follows mediaStreamResolvers first later service
  idle : service.collecting = none
  played :
    service.played =
      (if service.current = none ∨ service.current = service.collected then
        service.reached first
      else (service.reached first).dropLast).filter
        (playable mediaStreamResolvers)
  ended :
    service.current = none →
      service.playback.visited = service.playback.awaited later
  stopped :
    service.lastCall = some .stop → service.current = service.collected →
      service.playback.visited = service.playback.awaited later

/-- A service that has taken up the current entry. -/
structure Exact (mediaStreamResolvers : List (Resolver Stream))
    (first : QueueEntry) (later : List QueueEntry)
    (service : MediaStreamService Stream) : Prop where
  follows : Follows mediaStreamResolvers first later service
  settled : service.collected = service.current
  idle :
    service.collecting = none →
      service.played =
        (service.reached first).filter (playable mediaStreamResolvers)
  busy :
    ∀ entry, service.collecting = some entry →
      service.current = some entry ∧
        service.played =
          (service.reached first).dropLast.filter
            (playable mediaStreamResolvers)
  ended :
    service.current = none →
      service.playback.visited = service.playback.awaited later
  stopped :
    service.lastCall = some .stop → service.collecting = none →
      service.playback.visited = service.playback.awaited later

theorem reached_split
    (follows : Follows mediaStreamResolvers first later service)
    {entry : QueueEntry} (isCurrent : service.current = some entry) :
    (service.reached first).dropLast ++ [entry] = service.reached first :=
  List.dropLast_append_getLast? entry (follows.running entry isCurrent).2

theorem collect_of_settled (settled : service.current = service.collected) :
    service.collect = service :=
  if_pos (Or.inr settled)

theorem collect_of_new (idle : service.collecting = none)
    (new : service.current ≠ service.collected) :
    service.collect =
      match service.current with
      | none =>
          callBackend { service with collected := service.current } .stop
      | some entry =>
          if (service.mediaStream entry).isSome then
            callBackend { service with collected := service.current }
              (.playItem entry)
          else
            { service with
              collected := service.current
              collecting := some entry } :=
  if_neg fun either => either.elim (fun busy => busy idle) new

theorem Ready.collect
    (ready : Ready mediaStreamResolvers first later service) :
    Exact mediaStreamResolvers first later service.collect := by
  have follows := ready.follows.collect
  have played := ready.played
  have idle := ready.idle
  by_cases settled : service.current = service.collected
  · rw [collect_of_settled settled] at follows ⊢
    rw [if_pos (Or.inr settled)] at played
    exact
      { follows := follows
        settled := settled.symm
        idle := fun _ => played
        busy := by
          intro entry looking
          cases idle.symm.trans looking
        ended := ready.ended
        stopped := fun stops _ => ready.stopped stops settled }
  · rw [collect_of_new idle settled] at follows ⊢
    cases isCurrent : service.current with
    | none =>
        simp only [isCurrent] at follows ⊢
        rw [if_pos (Or.inl isCurrent)] at played
        exact
          { follows := follows
            settled := isCurrent.symm
            idle := by
              intro _
              rw [played_callBackend]
              exact (List.append_nil _).trans played
            busy := by
              intro entry looking
              cases idle.symm.trans looking
            ended := fun _ => ready.ended isCurrent
            stopped := fun _ _ => ready.ended isCurrent }
    | some entry =>
        have shape := reached_split ready.follows isCurrent
        have waiting :
            ¬(service.current = none ∨
              service.current = service.collected) := by
          rw [isCurrent]
          rintro (absent | taken)
          · cases absent
          · exact settled (isCurrent.trans taken)
        rw [if_neg waiting] at played
        simp only [isCurrent] at follows ⊢
        split
        · rename_i cached
          rw [if_pos cached] at follows
          have isPlayable := ready.follows.kept entry cached
          exact
            { follows := follows
              settled := isCurrent.symm
              idle := by
                intro _
                rw [played_callBackend, reached_callBackend]
                change service.played ++ [entry] =
                  (service.reached first).filter _
                rw [← shape, List.filter_append, ← played,
                  List.filter_cons_of_pos isPlayable, List.filter_nil]
              busy := by
                intro other looking
                cases idle.symm.trans looking
              ended := by
                intro absent
                cases isCurrent.symm.trans absent
              stopped := by
                intro stops
                rw [lastCall_callBackend rfl] at stops
                cases stops }
        · rename_i uncached
          rw [if_neg uncached] at follows
          exact
            { follows := follows
              settled := isCurrent.symm
              idle := by
                rintro ⟨⟩
              busy := by
                rintro other ⟨⟩
                exact ⟨isCurrent, played⟩
              ended := by
                intro absent
                cases isCurrent.symm.trans absent
              stopped := by
                rintro _ ⟨⟩ }

/-- A move of the queue after everything up to the current entry has been
played. -/
theorem ready_of_moves (distinct : (first :: later).Nodup)
    (follows : Follows mediaStreamResolvers first later service)
    (idle : service.collecting = none)
    (settled : service.collected = service.current)
    (present : service.current.isSome)
    (played :
      service.played =
        (service.reached first).filter (playable mediaStreamResolvers))
    {playback : Queue.Playback}
    (moves : Moves later service.playback playback)
    (stopped :
      service.lastCall = some .stop →
        playback.queue.entry = service.current →
          playback.visited = playback.awaited later) :
    Ready mediaStreamResolvers first later
      { service with playback := playback } := by
  refine
    { follows := follows.move distinct moves
      idle := idle
      played := ?_
      ended := ?_
      stopped := fun stops same => stopped stops (same.trans settled) }
  · change service.played =
      (if playback.queue.entry = none ∨
          playback.queue.entry = service.collected then
        first :: playback.visited
      else (first :: playback.visited).dropLast).filter _
    rw [settled, played]
    cases moves with
    | stays same visited onTrack =>
        rw [if_pos, visited]
        · rfl
        · exact Or.inr same
    | arrives entry other arrived visited onTrack =>
        have elsewhere :
            ¬(playback.queue.entry = none ∨
              playback.queue.entry = service.current) := by
          rw [arrived]
          rintro (absent | same)
          · cases absent
          · exact other same.symm
        rw [if_neg elsewhere, visited, ← List.cons_append,
          List.dropLast_concat]
        rfl
    | ends ended visited exhausted =>
        rw [if_pos (Or.inl ended), visited]
        rfl
  · intro absent
    cases moves with
    | stays same visited onTrack =>
        rw [Option.isSome_iff_ne_none] at present
        exact absurd (same.symm.trans absent) present
    | arrives entry other arrived visited onTrack =>
        cases arrived.symm.trans absent
    | ends ended visited exhausted =>
        exact exhausted

/-- Where all expected entries have come, no call brings another one. -/
theorem exhausted_step {playback : Queue.Playback}
    {operation : Operation FixedSupplier}
    (exhausted : playback.visited = playback.awaited later)
    (moves : Moves later playback (playback.step operation)) :
    (playback.step operation).visited =
      (playback.step operation).awaited later := by
  have fewer :
      ((playback.step operation).awaited later).Sublist
        (playback.awaited later) := by
    have both :
        (playback.step operation).awaited later =
          (playback.awaited later).filter fun entry =>
            entry ∉ playback.unreached operation := by
      rw [Queue.Playback.awaited, Queue.Playback.awaited,
        List.filter_filter]
      apply List.filter_congr
      intro entry _
      simp [Queue.Playback.step, Bool.and_comm]
    rw [both]
    exact List.filter_sublist
  have early :
      (playback.step operation).visited <+:
        (playback.step operation).awaited later := by
    cases moves with
    | stays same visited onTrack =>
        exact ⟨_, onTrack.covers⟩
    | arrives entry other arrived visited onTrack =>
        exact ⟨_, onTrack.covers⟩
    | ends ended visited all =>
        exact all ▸ List.prefix_rfl
  have longer :
      playback.visited.length ≤
        (playback.step operation).visited.length := by
    rw [Queue.Playback.step, List.length_append]
    exact Nat.le_add_right _ _
  apply early.eq_of_length
  have upper := fewer.length_le
  have lower := early.length_le
  rw [exhausted] at longer
  omega

theorem Exact.queueCall
    (exact : Exact mediaStreamResolvers first later service)
    (distinct : (first :: later).Nodup) (present : service.current.isSome)
    (idle : service.collecting = none)
    {operation : Operation FixedSupplier} (call : QueueCall operation) :
    Exact mediaStreamResolvers first later
      (service.callQueue operation) := by
  obtain ⟨entry, isCurrent⟩ := Option.isSome_iff_exists.mp present
  have moves :=
    moves_of_queueCall (exact.follows.running entry isCurrent).1
      (List.nodup_cons.mp distinct).2 present call
  apply Ready.collect
  refine ready_of_moves distinct exact.follows idle exact.settled present
    (exact.idle idle) moves ?_
  intro stops _
  exact exhausted_step (exact.stopped stops idle) moves

/-- The entry that a peek shows is the first one behind the current one. -/
theorem peekedEntry_eq {queue : FixedQueue} (sequential : queue.Sequential) :
    peekedEntry queue = queue.pending.head? := by
  have valid := sequential.valid
  simp only [INDEX_NONE] at valid
  have picked :
      (getNextIndices 1 true false).run queue =
        .ok (upcoming 1 queue.estimatedSize queue.entryIndex) queue := by
    rw [getNextIndices_run_none rfl,
      provideIndices_default (sequential.provider true) (by decide)]
  obtain ⟨loaded, supplied, _⟩ :=
    QueueService.supplyEntries_run
      (upcoming 1 queue.estimatedSize queue.entryIndex) queue
  have shown :
      (peekNext 1 true false).run queue =
        .ok ((upcoming 1 queue.estimatedSize queue.entryIndex).filterMap
          (entryAt queue.contents)) loaded := by
    simp only [peekNext, EStateM.run_bind, picked, supplied]
  rw [peekedEntry, shown]
  simp only [upcoming_one]
  split
  · have found :
        entryAt queue.contents (queue.entryIndex + 1) =
          queue.pending.head? := by
      rw [entryAt, if_pos (by omega), ← List.head?_drop]
      rfl
    rw [List.filterMap_cons, found, List.filterMap_nil]
    cases queue.pending.head? <;> rfl
  · rename_i ended
    rw [sequential.pending_eq_nil_iff.mpr ended]
    rfl

/-- A peek shows the first entry behind the current one and moves nothing. -/
theorem step_peekNext_frame {playback : Queue.Playback}
    (sequential : playback.queue.Sequential) :
    (playback.step (.peekNext 1 true false)).queue.entry =
        playback.queue.entry ∧
      (playback.step (.peekNext 1 true false)).visited =
          playback.visited ∧
        (playback.step (.peekNext 1 true false)).queue.pending =
          playback.queue.pending := by
  have loads := sequential.peekNext_loads 1 true false
  have steady : QueueService.Steady
      (.peekNext 1 true false : Operation FixedSupplier) := trivial
  have same :
      (Queue.step playback.queue (.peekNext 1 true false)).entry =
        playback.queue.entry := by
    rw [loads.frame]
  refine ⟨same, ?_, ?_⟩
  · rw [Queue.Playback.step, Queue.Playback.arrival, if_pos same,
      List.append_nil]
  · exact (sequential.of_loads loads
      (QueueService.step_keeps steady playback.queue)).2

theorem Ready.callStop
    (ready : Ready mediaStreamResolvers first later service)
    (exhausted :
      service.playback.visited = service.playback.awaited later) :
    Ready mediaStreamResolvers first later (service.callBackend .stop) where
  follows := ready.follows.callBackend rfl
  idle := ready.idle
  played := by
    rw [played_callBackend]
    exact (List.append_nil _).trans ready.played
  ended := ready.ended
  stopped := fun _ _ => exhausted

/-- An entry without a stream is passed over if another one is left. -/
theorem ready_skipEntry (distinct : (first :: later).Nodup)
    (follows : Follows mediaStreamResolvers first later service)
    (idle : service.collecting = none)
    (settled : service.collected = service.current)
    (present : service.current.isSome)
    (played :
      service.played =
        (service.reached first).filter (playable mediaStreamResolvers)) :
    Ready mediaStreamResolvers first later service.skipEntry ∧
      (service.skipEntry.current = service.skipEntry.collected ∨
        service.skipEntry.playback.queue.pending.length <
          service.playback.queue.pending.length) := by
  obtain ⟨entry, isCurrent⟩ := Option.isSome_iff_exists.mp present
  have onTrack := (follows.running entry isCurrent).1
  have sequential := onTrack.sequential
  obtain ⟨same, visited, remaining⟩ := step_peekNext_frame sequential
  have call : QueueCall (.peekNext 1 true false) := trivial
  have moves :=
    moves_of_queueCall onTrack (List.nodup_cons.mp distinct).2 present call
  have shown := peekedEntry_eq sequential
  unfold skipEntry
  dsimp only
  cases shape : service.playback.queue.pending with
  | nil =>
      rw [shape] at shown
      rw [shown]
      have covers := onTrack.covers
      rw [shape, List.append_nil] at covers
      have exhausted := exhausted_step covers moves
      have ready :=
        ready_of_moves distinct follows idle settled present played moves
          fun _ _ => exhausted
      refine ⟨ready.callStop exhausted, Or.inl ?_⟩
      exact same.trans settled.symm
  | cons entry rest =>
      rw [shape] at shown remaining
      rw [shown]
      have peeked := (follows.peekNext distinct present).1
      have isPeeked :
          (service.playback.step (.peekNext 1 true false)).queue.entry =
            some _ :=
        same.trans isCurrent
      have peekedOnTrack := (peeked.running _ isPeeked).1
      have stillPresent :
          (service.playback.step
            (.peekNext 1 true false)).queue.entry.isSome := by
        rw [isPeeked]
        rfl
      have following : QueueCall (.next true false) := trivial
      have advances :=
        moves_of_queueCall peekedOnTrack (List.nodup_cons.mp distinct).2
          stillPresent following
      obtain ⟨moved, ran, _, arrived, left⟩ :=
        peekedOnTrack.sequential.next_advances remaining true false
      have reachedNext := step_next ran
      have history :
          reached first
              { service with
                playback :=
                  service.playback.step (.peekNext 1 true false) } =
            service.reached first :=
        congrArg (first :: ·) visited
      constructor
      · refine
          ready_of_moves distinct peeked idle (settled.trans same.symm)
            stillPresent (by rw [history]; exact played) advances ?_
        intro _ stays
        -- The next entry is another one.
        rw [Queue.Playback.step, reachedNext, arrived] at stays
        have member : entry ∈
            (service.playback.step
              (.peekNext 1 true false)).queue.pending := by
          rw [remaining]
          exact List.mem_cons_self
        exact absurd member
          (peekedOnTrack.sequential.behind entry stays.symm)
      · right
        have final :
            ((service.playback.step (.peekNext 1 true false)).step
              (.next true false)).queue.pending = rest := by
          rw [← left, ← reachedNext]
          rfl
        change
          ((service.playback.step (.peekNext 1 true false)).step
            (.next true false)).queue.pending.length <
              (entry :: rest).length
        rw [final]
        exact Nat.lt_succ_self _

theorem collect_playback : service.collect.playback = service.playback := by
  unfold collect
  dsimp only
  split
  · rfl
  · split
    · rfl
    · split <;> rfl

/-- An answer of the resolvers keeps the order.  Afterwards the service looks
for nothing, or fewer entries are left. -/
theorem Exact.resolved
    (exact : Exact mediaStreamResolvers first later service)
    (distinct : (first :: later).Nodup) (present : service.current.isSome) :
    Exact mediaStreamResolvers first later
        (service.resolved mediaStreamResolvers) ∧
      ((service.resolved mediaStreamResolvers).collecting = none ∨
        (service.resolved
            mediaStreamResolvers).playback.queue.pending.length <
          service.playback.queue.pending.length) := by
  cases looking : service.collecting with
  | none =>
      have idle : service.resolved mediaStreamResolvers = service := by
        rw [MediaStreamService.resolved, looking]
      rw [idle]
      exact ⟨exact, Or.inl looking⟩
  | some entry =>
      obtain ⟨isCurrent, played⟩ := exact.busy entry looking
      have shape := reached_split exact.follows isCurrent
      simp only [MediaStreamService.resolved, looking]
      by_cases isPlayable :
          (ensureMediaStream mediaStreamResolvers entry).isSome = true
      · rw [if_pos isPlayable]
        have follows := exact.follows.answered looking isPlayable
        have settled : service.current = service.collected :=
          exact.settled.symm
        refine ⟨Ready.collect ⟨follows, rfl, ?_, exact.ended, ?_⟩, ?_⟩
        · rw [if_pos, played_callBackend]
          · have plays : playable mediaStreamResolvers entry = true :=
              isPlayable
            change service.played ++ [entry] =
              (service.reached first).filter _
            rw [← shape, List.filter_append, ← played,
              List.filter_cons_of_pos plays, List.filter_nil]
          · exact Or.inr settled
        · intro stops
          rw [lastCall_callBackend rfl] at stops
          cases stops
        · rw [collect_of_settled]
          · exact Or.inl rfl
          · exact settled
      · rw [if_neg isPlayable]
        have follows := exact.follows.freed entry
        have fails : ¬playable mediaStreamResolvers entry = true :=
          isPlayable
        have all :
            service.played =
              (service.reached first).filter
                (playable mediaStreamResolvers) := by
          rw [← shape, List.filter_append, ← played,
            List.filter_cons_of_neg fails, List.filter_nil,
            List.append_nil]
        obtain ⟨ready, fewer⟩ :=
          ready_skipEntry distinct follows rfl exact.settled present all
        refine ⟨ready.collect, ?_⟩
        rcases fewer with settled | fewer
        · rw [collect_of_settled settled]
          exact Or.inl ready.idle
        · rw [collect_playback]
          exact Or.inr fewer

/-- A step that leaves the current entry and the collector alone. -/
theorem Exact.frame {after : MediaStreamService Stream}
    (exact : Exact mediaStreamResolvers first later service)
    (follows : Follows mediaStreamResolvers first later after)
    (current : after.current = service.current)
    (visited : after.playback.visited = service.playback.visited)
    (awaited :
      after.playback.awaited later = service.playback.awaited later)
    (collected : after.collected = service.collected)
    (collecting : after.collecting = service.collecting)
    (played : after.played = service.played)
    (lastCall : after.lastCall = service.lastCall) :
    Exact mediaStreamResolvers first later after := by
  have history : after.reached first = service.reached first :=
    congrArg (first :: ·) visited
  constructor
  · exact follows
  · rw [collected, current]
    exact exact.settled
  · rw [collecting, played, history]
    exact exact.idle
  · rw [collecting, played, history, current]
    exact exact.busy
  · rw [current, visited, awaited]
    exact exact.ended
  · rw [lastCall, collecting, visited, awaited]
    exact exact.stopped

theorem Exact.callPrepare
    (exact : Exact mediaStreamResolvers first later service)
    (item : QueueEntry) :
    Exact mediaStreamResolvers first later
      (service.callBackend (.prepareItem item)) := by
  refine exact.frame (exact.follows.callBackend rfl) rfl rfl rfl rfl rfl ?_ ?_
  · rw [played_callBackend]
    exact List.append_nil _
  · simp [lastCall, callBackend, BackendCall.prepares]

theorem Exact.peekNext
    (exact : Exact mediaStreamResolvers first later service)
    (distinct : (first :: later).Nodup) (present : service.current.isSome) :
    Exact mediaStreamResolvers first later
      { service with
        playback := service.playback.step (.peekNext 1 true false) } := by
  obtain ⟨same, visited, -⟩ :=
    step_peekNext_frame (exact.follows.sequential present)
  refine
    exact.frame (exact.follows.peekNext distinct present).1 same visited ?_
      rfl rfl rfl rfl
  simp [Queue.Playback.awaited, Queue.Playback.step,
    Queue.Playback.unreached]

theorem Exact.preloadNextEntry
    (exact : Exact mediaStreamResolvers first later service)
    (distinct : (first :: later).Nodup) (present : service.current.isSome) :
    Exact mediaStreamResolvers first later service.preloadNextEntry := by
  have follows := exact.follows.preloadNextEntry distinct present
  have peeked := exact.peekNext distinct present
  unfold MediaStreamService.preloadNextEntry at follows ⊢
  dsimp only at follows ⊢
  split at follows
  · exact peeked
  · split at follows
    · rename_i cached
      rw [if_pos cached]
      exact peeked.callPrepare _
    · rename_i uncached
      rw [if_neg uncached]
      exact peeked.frame follows rfl rfl rfl rfl rfl rfl rfl

theorem Exact.preloaded
    (exact : Exact mediaStreamResolvers first later service)
    (position : Nat) :
    Exact mediaStreamResolvers first later
      (service.preloaded mediaStreamResolvers position) := by
  unfold MediaStreamService.preloaded
  split
  · exact exact
  · rename_i nextItem _
    have known :
        Exact mediaStreamResolvers first later
          { service with
            mediaStream :=
              Function.update service.mediaStream nextItem
                (ensureMediaStream mediaStreamResolvers nextItem)
            preloading := service.preloading.eraseIdx position } := by
      refine exact.frame ?_ rfl rfl rfl rfl rfl rfl rfl
      exact
        exact.follows.frame rfl rfl (List.Sublist.refl _)
          (fun other => Or.inl) (exact.follows.kept_update nextItem)
    dsimp only
    split
    · exact known.callPrepare nextItem
    · exact known

theorem Exact.step
    (exact : Exact mediaStreamResolvers first later service)
    (distinct : (first :: later).Nodup) {event : Event}
    (undisturbed : Undisturbed service event) :
    Exact mediaStreamResolvers first later
      (step mediaStreamResolvers service event) := by
  obtain ⟨⟨present, calls⟩, idle⟩ := undisturbed
  cases event with
  | call operation =>
      exact
        exact.queueCall distinct present (idle rfl) (calls operation rfl)
  | resolved =>
      exact (exact.resolved distinct present).1
  | preload =>
      exact exact.preloadNextEntry distinct present
  | preloaded position =>
      exact exact.preloaded position

/-! ## Runs -/

theorem run_idle (idle : service.collecting = none) (count : Nat) :
    run (MediaStreamService.step mediaStreamResolvers) service
        (List.replicate count .resolved) =
      service := by
  have still :
      MediaStreamService.step mediaStreamResolvers service .resolved =
        service := by
    rw [MediaStreamService.step, MediaStreamService.resolved, idle]
  induction count with
  | zero =>
      rfl
  | succ count inductionHypothesis =>
      rw [List.replicate_succ, run_cons, still, inductionHypothesis]

/-- The service looks for streams of the entries that are left at most. -/
theorem Exact.resolves
    (exact : Exact mediaStreamResolvers first later service)
    (distinct : (first :: later).Nodup) {count : Nat}
    (enough : service.playback.queue.pending.length < count) :
    (run (MediaStreamService.step mediaStreamResolvers) service
      (List.replicate count .resolved)).collecting = none := by
  induction count generalizing service with
  | zero =>
      exact absurd enough (Nat.not_lt_zero _)
  | succ count inductionHypothesis =>
      cases looking : service.collecting with
      | none =>
          rw [run_idle looking]
          exact looking
      | some entry =>
          have present : service.current.isSome := by
            rw [(exact.busy entry looking).1]
            rfl
          obtain ⟨answered, ends | fewer⟩ := exact.resolved distinct present
          · rw [List.replicate_succ, run_cons]
            exact (congrArg MediaStreamService.collecting
              (run_idle ends count)).trans ends
          · exact
              inductionHypothesis answered
                (Nat.lt_of_lt_of_le fewer (Nat.le_of_lt_succ enough))

theorem Exact.prefix_expected
    (exact : Exact mediaStreamResolvers first later service) :
    service.played <+:
      (service.expected first later).filter
        (playable mediaStreamResolvers) := by
  have early : service.reached first <+: service.expected first later :=
    List.cons_prefix_cons.mpr ⟨rfl, exact.follows.early⟩
  cases looking : service.collecting with
  | none =>
      rw [exact.idle looking]
      exact early.filter _
  | some entry =>
      rw [(exact.busy entry looking).2]
      exact ((List.dropLast_prefix _).trans early).filter _

end Order

section Start

variable (mediaStreamResolvers : List (Resolver Stream)) (random : Random)
  {suppliers : List FixedSupplier} {current : Nat}

/-- The service before it takes up the first entry. -/
theorem exact_start
    (exact : ∀ supplier ∈ suppliers, supplier.Exact)
    (distinct : (suppliers.flatMap FixedSupplier.items).Nodup)
    (inside : current < (suppliers.flatMap FixedSupplier.items).length) :
    Exact mediaStreamResolvers
      (suppliers.flatMap FixedSupplier.items)[current]
      ((suppliers.flatMap FixedSupplier.items).drop (current + 1))
      (start (Queue.Playback.start random suppliers current)) := by
  have entry :
      (Queue.Playback.start random suppliers current).queue.entry =
        some (suppliers.flatMap FixedSupplier.items)[current] := by
    have stocked :=
      (QueueService.stocked_fresh .default .none random).addSuppliers exact
    have found :
        entryAt
            (run Queue.step (QueueService.fresh .default .none random)
              (suppliers.map Operation.addSupplier)).contents current =
          some (suppliers.flatMap FixedSupplier.items)[current] := by
      rw [stocked.contents, List.nil_append, entryAt,
        if_pos (Int.natCast_nonneg current), Int.toNat_natCast,
        List.getElem?_eq_getElem inside]
    rw [Queue.Playback.start, QueueService.filled_eq_jump]
    simp [QueueService.jump, applyIndex, found]
  have waiting :
      ¬((Queue.Playback.start random suppliers current).queue.entry = none ∨
        (Queue.Playback.start random suppliers current).queue.entry =
          none) := by
    rw [entry]
    rintro (absent | absent) <;> cases absent
  apply Ready.collect
  exact
    { follows :=
        { early := List.nil_prefix
          running := by
            intro now isCurrent
            cases entry.symm.trans isCurrent
            exact
              ⟨Queue.Playback.onTrack_start random exact distinct inside,
                rfl⟩
          collected := by
            rintro taken ⟨⟩
          ordered := List.nil_sublist _
          found := by
            rintro played ⟨⟩
          kept := by
            rintro cached ⟨⟩ }
      idle := rfl
      played := by
        rw [if_neg]
        · rfl
        · exact waiting
      ended := fun absent => absurd (Or.inl absent) waiting
      stopped := fun _ absent => absurd (Or.inr absent) waiting }

end Start

/-- The resolver fails for the first entry and has nothing for the second
one. -/
def sampleResolver : Resolver Nat := fun entry =>
  if entry.id = 0 then .error ()
  else .ok (if entry.id = 1 then none else some entry.id)

/-- A call of the queue while the service looks for a stream can make it pass
over an entry that has one. -/
example :
    (run (step [sampleResolver])
      (start
        (Queue.Playback.start (fun _ => 0)
          [.ofList [⟨1⟩, ⟨2⟩], .ofList [⟨3⟩]] 0))
      [.call (.next true false), .resolved, .resolved]).played = [⟨3⟩] := by
  decide

end MediaStreamService

end JellyfinTv.Playback
