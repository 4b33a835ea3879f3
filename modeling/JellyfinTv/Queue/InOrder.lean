import JellyfinTv.Queue.Cursor
import JellyfinTv.Queue.Sizes

/-!
# Playing a queue in its own order

In the default order the entries behind the cursor are what remains to be
played.  `next` moves the first of them to the front of the history, a removal
takes its entry out of them, and nothing else changes them.  The history of a
run and the entries behind its last cursor are therefore always the original
order without the entries removed before they were reached.
-/

namespace JellyfinTv.Queue

open QueueService Library

namespace QueueService

/-- The entries behind the cursor, loaded or not. -/
def pending (queue : FixedQueue) : List QueueEntry :=
  queue.contents.drop (queue.entryIndex + 1).toNat

/-- Removing the element between `before` and `after`, seen from a position
that moves along with its element. -/
theorem erase_drop_between {entry : QueueEntry}
    {before after : List QueueEntry}
    (first : entry ∉ before) (last : entry ∉ after) (position : Nat) :
    ((before ++ entry :: after).drop position).erase entry =
      (before ++ after).drop
        (if before.length < position then position - 1 else position) := by
  split
  · rename_i passed
    obtain ⟨further, rfl⟩ :
        ∃ further, position = before.length + (further + 1) :=
      ⟨position - before.length - 1, by omega⟩
    have absent : entry ∉ after.drop further :=
      fun member => last (List.mem_of_mem_drop member)
    have back :
        before.length + (further + 1) - 1 = before.length + further := by
      omega
    rw [back, List.drop_length_add_append, List.drop_length_add_append,
      List.drop_succ_cons]
    exact List.erase_of_not_mem absent
  · rename_i ahead
    have inside : position ≤ before.length := by omega
    have absent : entry ∉ before.drop position :=
      fun member => first (List.mem_of_mem_drop member)
    rw [List.drop_append_of_le_length inside,
      List.drop_append_of_le_length inside,
      List.erase_append_right _ absent, List.erase_cons_head]

/-- The contents around the first occurrence of a cached entry. -/
theorem contents_around {queue : FixedQueue} {entry : QueueEntry}
    {index : Nat} (found : queue.indexOf entry = some index) :
    ∃ before after,
      queue.contents = before ++ entry :: after ∧
        before.length = index ∧ entry ∉ before := by
  obtain ⟨inside, located, first⟩ := List.idxOf?_eq_some_iff.mp found
  refine ⟨queue.fetchedEntries.take index,
    queue.fetchedEntries.drop (index + 1) ++ queue.undrawn, ?_, ?_, ?_⟩
  · have same : queue.fetchedEntries[index] = entry := by
      simpa using located
    rw [contents, ← List.cons_append, ← same,
      ← List.drop_eq_getElem_cons inside, ← List.append_assoc,
      List.take_append_drop]
  · rw [List.length_take]
    omega
  · intro member
    obtain ⟨position, below, same⟩ := List.mem_take_iff_getElem.mp member
    exact first position (by omega) (by simpa using same)

/-- A queue that is played in its own order. -/
structure Sequential (queue : FixedQueue) : Prop where
  order : queue.orderIndexProvider = .default
  mode : queue.repeatMode = .none
  counted : queue.Counted
  distinct : queue.contents.Nodup
  valid : INDEX_NONE ≤ queue.entryIndex
  behind : ∀ entry, queue.entry = some entry → entry ∉ queue.pending

namespace Sequential

variable {queue : FixedQueue}

theorem provider (sequential : queue.Sequential) (usePlaybackOrder : Bool) :
    queue.provider usePlaybackOrder = .default := by
  cases usePlaybackOrder with
  | false => rfl
  | true => exact sequential.order

theorem effectiveRepeatMode (sequential : queue.Sequential)
    (useRepeatMode : Bool) :
    queue.effectiveRepeatMode useRepeatMode = .none := by
  cases useRepeatMode with
  | false => rfl
  | true => exact sequential.mode

/-- There is a next position exactly when an entry is pending. -/
theorem pending_eq_nil_iff (sequential : queue.Sequential) :
    queue.pending = [] ↔
      ¬ queue.entryIndex + 1 < queue.estimatedSize := by
  have valid := sequential.valid
  rw [pending, List.drop_eq_nil_iff, sequential.counted.estimatedSize]
  simp only [INDEX_NONE] at valid
  omega

theorem next_ends (sequential : queue.Sequential)
    (empty : queue.pending = []) (usePlaybackOrder useRepeatMode : Bool) :
    (next usePlaybackOrder useRepeatMode).run queue = .ok none queue := by
  rw [next_default (sequential.effectiveRepeatMode useRepeatMode)
    (sequential.provider usePlaybackOrder),
    if_neg (sequential.pending_eq_nil_iff.mp empty)]

theorem of_loads {after : FixedQueue} (sequential : queue.Sequential)
    (loads : Loads queue after) (keeps : Keeps queue after) :
    after.Sequential ∧ after.pending = queue.pending := by
  have sameIndex : after.entryIndex = queue.entryIndex := by
    rw [loads.frame]
  have samePending : after.pending = queue.pending := by
    rw [pending, pending, loads.contents, sameIndex]
  refine ⟨?_, samePending⟩
  exact
    { order := by rw [loads.frame]; exact sequential.order
      mode := by rw [loads.frame]; exact sequential.mode
      counted := sequential.counted.of_keeps keeps
      distinct := by rw [loads.contents]; exact sequential.distinct
      valid := by rw [sameIndex]; exact sequential.valid
      behind := by rw [samePending, loads.frame]; exact sequential.behind }

/-- `next` makes the first pending entry current. -/
theorem next_advances (sequential : queue.Sequential)
    {entry : QueueEntry} {rest : List QueueEntry}
    (shape : queue.pending = entry :: rest)
    (usePlaybackOrder useRepeatMode : Bool) :
    ∃ moved,
      (next usePlaybackOrder useRepeatMode).run queue =
        .ok (some entry) moved ∧
      moved.Sequential ∧ moved.entry = some entry ∧
        moved.pending = rest := by
  have valid := sequential.valid
  simp only [INDEX_NONE] at valid
  have more : queue.entryIndex + 1 < queue.estimatedSize := by
    by_contra ended
    rw [sequential.pending_eq_nil_iff.mpr ended] at shape
    cases shape
  have found : entryAt queue.contents (queue.entryIndex + 1) = some entry := by
    rw [entryAt, if_pos (by omega), ← List.head?_drop]
    rw [pending] at shape
    rw [shape]
    rfl
  have outcome :=
    next_default_jumps (sequential.effectiveRepeatMode useRepeatMode)
      (sequential.provider usePlaybackOrder) valid more
  have keeps := keeps_movement.jumps (queue.entryIndex + 1) true queue
  rw [found] at outcome
  refine ⟨_, outcome, ?_⟩
  have movedIndex :
      (jump (queue.entryIndex + 1) true queue).entryIndex =
        queue.entryIndex + 1 := by
    simp [jump, applyIndex, found]
  have movedEntry :
      (jump (queue.entryIndex + 1) true queue).entry = some entry := by
    simp [jump, applyIndex, found]
  have movedPending :
      (jump (queue.entryIndex + 1) true queue).pending = rest := by
    have split :
        (queue.entryIndex + 1 + 1).toNat =
          (queue.entryIndex + 1).toNat + 1 := by omega
    rw [pending] at shape
    rw [pending, keeps.contents, movedIndex, split, ← List.tail_drop,
      shape, List.tail_cons]
  have unique : entry ∉ rest := by
    have suffix : (entry :: rest).Nodup := by
      rw [← shape, pending]
      exact sequential.distinct.sublist (List.drop_sublist _ _)
    exact (List.nodup_cons.mp suffix).1
  refine ⟨?_, movedEntry, movedPending⟩
  exact
    { order := (jump_provider _ true queue).trans sequential.order
      mode := (jump_repeatMode _ true queue).trans sequential.mode
      counted := sequential.counted.of_keeps keeps
      distinct := by rw [keeps.contents]; exact sequential.distinct
      valid := by simp only [movedIndex, INDEX_NONE]; omega
      behind := by
        rw [movedPending, movedEntry]
        rintro other same
        rw [← Option.some.inj same]
        exact unique }

/-- Removing an entry takes it out of the pending ones and moves the cursor
along. -/
theorem dropEntry (sequential : queue.Sequential) {entry : QueueEntry}
    {index : Nat} (found : queue.indexOf entry = some index) :
    (queue.dropEntry index).Sequential ∧
      (queue.dropEntry index).pending = queue.pending.erase entry := by
  have valid := sequential.valid
  simp only [INDEX_NONE] at valid
  obtain ⟨before, after, around, length, first⟩ := contents_around found
  have last : entry ∉ after := by
    have distinct := sequential.distinct
    rw [around] at distinct
    exact (List.nodup_cons.mp (List.nodup_append.mp distinct).2.1).1
  have shifted :
      (queue.dropEntry index).pending = queue.pending.erase entry := by
    have erased :
        (before ++ entry :: after).erase entry = before ++ after := by
      rw [List.erase_append_right _ first, List.erase_cons_head]
    rw [pending, pending, contents_dropEntry found, around, erased,
      erase_drop_between first last, length]
    congr 1
    simp only [QueueService.dropEntry]
    split
    · rw [if_pos (by omega)]
      omega
    · rw [if_neg (by omega)]
  refine ⟨?_, shifted⟩
  exact
    { order := by
        simp [QueueService.dropEntry, sequential.order,
          OrderIndexProvider.notifyRemoved]
      mode := sequential.mode
      counted := sequential.counted.dropEntry found
      distinct := by
        rw [contents_dropEntry found]
        exact sequential.distinct.erase entry
      valid := by
        simp only [QueueService.dropEntry, INDEX_NONE]
        split <;> omega
      behind := by
        intro other current member
        rw [shifted] at member
        exact sequential.behind other current
          (List.mem_of_mem_erase member) }

theorem peekNext_loads (sequential : queue.Sequential) (amount : Int)
    (usePlaybackOrder useRepeatMode : Bool) :
    Loads queue
      (step queue (.peekNext amount usePlaybackOrder useRepeatMode)) := by
  have unchanged :
      finalState
          ((getNextIndices amount usePlaybackOrder useRepeatMode).run
            queue) = queue := by
    rw [getNextIndices_run_none
      (sequential.effectiveRepeatMode useRepeatMode)]
    exact provideIndices_default_unchanged
      (sequential.provider usePlaybackOrder) amount
  simp only [step, perform, peekNext, EStateM.run_bind]
  cases outcome :
      (getNextIndices amount usePlaybackOrder useRepeatMode).run queue with
  | error exception final =>
      rw [outcome, finalState_error] at unchanged
      subst unchanged
      exact Loads.refl final
  | ok indices final =>
      rw [outcome, finalState_ok] at unchanged
      subst unchanged
      have loads := respects_supplyEntries indices final
      cases supplied : (supplyEntries indices).run final with
      | error exception loaded =>
          rw [supplied] at loads
          simp only [supplied]
          exact loads
      | ok entries loaded =>
          rw [supplied] at loads
          simp only [supplied]
          exact loads

theorem publish (sequential : queue.Sequential) :
    queue.publish.Sequential :=
  { order := sequential.order
    mode := sequential.mode
    counted := ⟨sequential.counted.exact, sequential.counted.tally⟩
    distinct := sequential.distinct
    valid := sequential.valid
    behind := sequential.behind }

end Sequential

end QueueService

/-- The calls of in-order playback. -/
def InOrderCall : Operation FixedSupplier → Prop
  | .next _ _ | .peekNext _ _ _ | .removeEntry _ => True
  | _ => False

/-- A queue with the entries that have become current and those removed before
they were reached. -/
structure Playback where
  queue : FixedQueue
  visited : List QueueEntry
  skipped : List QueueEntry

namespace Playback

/-- The entry that newly becomes current between two states. -/
def arrival (before after : FixedQueue) : List QueueEntry :=
  if after.entry = before.entry then [] else after.entry.toList

/-- The entry that an operation removes without it having been current. -/
def unreached (playback : Playback) :
    Operation FixedSupplier → List QueueEntry
  | .removeEntry entry =>
      if entry ∈ playback.queue.fetchedEntries ∧ entry ∉ playback.visited
      then [entry] else []
  | _ => []

def step (playback : Playback) (operation : Operation FixedSupplier) :
    Playback where
  queue := Queue.step playback.queue operation
  visited :=
    playback.visited ++
      arrival playback.queue (Queue.step playback.queue operation)
  skipped := playback.skipped ++ playback.unreached operation

/-- The order of the entries `later` without the skipped ones. -/
def awaited (later : List QueueEntry) (playback : Playback) :
    List QueueEntry :=
  later.filter fun entry => entry ∉ playback.skipped

/-- `next` hands the first pending entry over to the history. -/
theorem next_arrives {queue before : FixedQueue}
    (sequential : queue.Sequential) (same : queue.entry = before.entry)
    (usePlaybackOrder useRepeatMode : Bool) :
    ∃ response moved,
      (next usePlaybackOrder useRepeatMode).run queue =
        .ok response moved ∧
      moved.Sequential ∧
        arrival before moved ++ moved.pending = queue.pending := by
  cases shape : queue.pending with
  | nil =>
      refine ⟨_, _, sequential.next_ends shape _ _, sequential, ?_⟩
      rw [arrival, if_pos same, shape]
      rfl
  | cons entry rest =>
      obtain ⟨moved, outcome, kept, current, remaining⟩ :=
        sequential.next_advances shape usePlaybackOrder useRepeatMode
      refine ⟨_, moved, outcome, kept, ?_⟩
      have different : moved.entry ≠ before.entry := by
        rw [current, ← same]
        intro already
        apply sequential.behind entry already.symm
        rw [shape]
        exact List.mem_cons_self
      rw [arrival, if_neg different, current, remaining]
      rfl

/-- What has been played and what is pending make up the awaited entries. -/
structure OnTrack (later : List QueueEntry) (playback : Playback) :
    Prop where
  sequential : playback.queue.Sequential
  covers :
    playback.visited ++ playback.queue.pending = playback.awaited later

namespace OnTrack

variable {later : List QueueEntry} {playback : Playback}

theorem next (onTrack : OnTrack later playback)
    (usePlaybackOrder useRepeatMode : Bool) :
    OnTrack later
      (playback.step (.next usePlaybackOrder useRepeatMode)) := by
  obtain ⟨response, moved, outcome, kept, handedOver⟩ :=
    next_arrives onTrack.sequential rfl usePlaybackOrder useRepeatMode
  have final :
      Queue.step playback.queue (.next usePlaybackOrder useRepeatMode) =
        moved :=
    step_next outcome
  refine ⟨?_, ?_⟩
  · simp only [step, final]
    exact kept
  · simp only [step, final, awaited, unreached, List.append_nil,
      List.append_assoc, handedOver]
    exact onTrack.covers

theorem peekNext (onTrack : OnTrack later playback) (amount : Int)
    (usePlaybackOrder useRepeatMode : Bool) :
    OnTrack later
      (playback.step
        (.peekNext amount usePlaybackOrder useRepeatMode)) := by
  have steady :
      Steady (.peekNext amount usePlaybackOrder useRepeatMode) := trivial
  have loads :=
    onTrack.sequential.peekNext_loads amount usePlaybackOrder useRepeatMode
  obtain ⟨kept, samePending⟩ :=
    onTrack.sequential.of_loads loads (step_keeps steady playback.queue)
  have sameEntry :
      (Queue.step playback.queue
        (.peekNext amount usePlaybackOrder useRepeatMode)).entry =
          playback.queue.entry := by
    rw [loads.frame]
  refine ⟨kept, ?_⟩
  simp only [step, awaited, unreached, List.append_nil, arrival,
    if_pos sameEntry, samePending]
  exact onTrack.covers

/-- Taking a cached entry out of the pending ones keeps the playback on track,
whether it had been reached or not. -/
theorem erase_covers (onTrack : OnTrack later playback)
    (distinct : later.Nodup) {entry : QueueEntry}
    (cached : entry ∈ playback.queue.fetchedEntries) :
    playback.visited ++ playback.queue.pending.erase entry =
      later.filter fun other =>
        other ∉ playback.skipped ++
          playback.unreached (.removeEntry entry) := by
  have covers := onTrack.covers
  have unique : (playback.visited ++ playback.queue.pending).Nodup := by
    rw [covers]
    exact distinct.filter _
  by_cases reached : entry ∈ playback.visited
  · have absent : entry ∉ playback.queue.pending := by
      intro member
      exact (List.nodup_append.mp unique).2.2 entry reached entry member rfl
    rw [List.erase_of_not_mem absent, covers]
    simp [unreached, reached, awaited]
  · rw [← List.erase_append_right _ reached,
      unique.erase_eq_filter, covers, awaited, List.filter_filter]
    apply List.filter_congr
    intro other _
    by_cases same : other = entry <;>
      simp [unreached, cached, reached, same]

theorem removeEntry (onTrack : OnTrack later playback)
    (distinct : later.Nodup) (entry : QueueEntry) :
    OnTrack later (playback.step (.removeEntry entry)) := by
  cases found : playback.queue.indexOf entry with
  | none =>
      have absent : entry ∉ playback.queue.fetchedEntries :=
        List.idxOf?_eq_none_iff.mp found
      have final := step_removeEntry_of_absent found
      refine ⟨?_, ?_⟩
      · simp only [step, final]
        exact onTrack.sequential
      · simp only [step, final, awaited, unreached, absent, false_and,
          if_false, arrival, if_true, List.append_nil]
        exact onTrack.covers
  | some index =>
      obtain ⟨dropped, remaining⟩ := onTrack.sequential.dropEntry found
      have covers := onTrack.erase_covers distinct (mem_of_indexOf found)
      rw [← remaining] at covers
      have untouched :
          (playback.queue.dropEntry index).entry = playback.queue.entry :=
        rfl
      by_cases current : playback.queue.entry = some entry
      · obtain ⟨response, moved, outcome, kept, handedOver⟩ :=
          next_arrives dropped untouched true false
        have final :
            Queue.step playback.queue (.removeEntry entry) =
              moved.publish := by
          rw [step_removeEntry_eq found, finishRemoval_run, untouched,
            if_pos current, outcome]
          rfl
        refine ⟨?_, ?_⟩
        · simp only [step, final]
          exact kept.publish
        · simp only [step, final, awaited, List.append_assoc]
          rw [← covers, ← handedOver]
          rfl
      · have final :
            Queue.step playback.queue (.removeEntry entry) =
              (playback.queue.dropEntry index).publish := by
          rw [step_removeEntry_eq found, finishRemoval_run, untouched,
            if_neg current]
          rfl
        have stays :
            arrival playback.queue
              (playback.queue.dropEntry index).publish = [] :=
          if_pos rfl
        refine ⟨?_, ?_⟩
        · simp only [step, final]
          exact dropped.publish
        · simp only [step, final, awaited, stays, List.append_nil]
          exact covers

theorem step (onTrack : OnTrack later playback) (distinct : later.Nodup)
    {operation : Operation FixedSupplier} (call : InOrderCall operation) :
    OnTrack later (playback.step operation) := by
  cases operation with
  | next usePlaybackOrder useRepeatMode =>
      exact onTrack.next usePlaybackOrder useRepeatMode
  | peekNext amount usePlaybackOrder useRepeatMode =>
      exact onTrack.peekNext amount usePlaybackOrder useRepeatMode
  | removeEntry entry =>
      exact onTrack.removeEntry distinct entry
  | addSupplier | setIndex | previous | peekPrevious | clear
    | mediaStreamEnd | setPlaybackOrder | setRepeatMode =>
      exact call.elim

end OnTrack

/-- The playback of a new queue whose current entry is at `current`. -/
def start (random : Random) (suppliers : List FixedSupplier)
    (current : Nat) : Playback where
  queue := filled .default .none random suppliers current
  visited := []
  skipped := []

theorem onTrack_start (random : Random) {suppliers : List FixedSupplier}
    (exact : ∀ supplier ∈ suppliers, supplier.Exact)
    (distinct : (suppliers.flatMap FixedSupplier.items).Nodup)
    {current : Nat}
    (inside : current < (suppliers.flatMap FixedSupplier.items).length) :
    OnTrack ((suppliers.flatMap FixedSupplier.items).drop (current + 1))
      (start random suppliers current) := by
  have stocked := stocked_filled .default .none random exact current
  have located :
      (filled .default .none random suppliers current).entryIndex =
          current ∧
        (filled .default .none random suppliers current).entry =
          some (suppliers.flatMap FixedSupplier.items)[current] := by
    have stocked :=
      (stocked_fresh .default .none random).addSuppliers exact
    have found :
        entryAt
            (run Queue.step (QueueService.fresh .default .none random)
              (suppliers.map Operation.addSupplier)).contents current =
          some (suppliers.flatMap FixedSupplier.items)[current] := by
      rw [stocked.contents, List.nil_append, entryAt,
        if_pos (Int.natCast_nonneg current), Int.toNat_natCast,
        List.getElem?_eq_getElem inside]
    rw [filled_eq_jump]
    simp [jump, applyIndex, found]
  have pending :
      (filled .default .none random suppliers current).pending =
        (suppliers.flatMap FixedSupplier.items).drop (current + 1) := by
    rw [QueueService.pending, stocked.contents, located.1]
    rfl
  refine ⟨?_, ?_⟩
  · exact
      { order := stocked.provider
        mode := stocked.mode
        counted := stocked.counted
        distinct := by
          simp only [start, stocked.contents]
          exact distinct
        valid := by
          simp only [start, located.1, INDEX_NONE]
          omega
        behind := by
          intro entry same member
          simp only [start, located.2, Option.some.injEq] at same
          simp only [start, pending] at member
          have suffix :=
            distinct.sublist (List.drop_sublist current _)
          rw [List.drop_eq_getElem_cons inside, same] at suffix
          exact (List.nodup_cons.mp suffix).1 member }
  · simp [start, awaited, pending]

/-- Every run of in-order calls stays on track. -/
theorem run_onTrack {later : List QueueEntry} {playback : Playback}
    {operations : List (Operation FixedSupplier)}
    (onTrack : OnTrack later playback) (distinct : later.Nodup)
    (calls : ∀ operation ∈ operations, InOrderCall operation) :
    OnTrack later (run step playback operations) := by
  apply run_invariant _ onTrack (admitted_of_forall calls)
  intro playback operation onTrack call
  exact onTrack.step distinct call

theorem run_queue (playback : Playback)
    (operations : List (Operation FixedSupplier)) :
    (run step playback operations).queue =
      run Queue.step playback.queue operations :=
  run_projection (fun _ _ => rfl) playback operations

end Playback

/-- In every run of `next`, `peekNext` and `removeEntry` on a new queue in the
default order, the entries that newly become current are the entries after the
starting position in supplier order, each at most once, without those removed
before they were reached.  When `next` returns `null`, all of them have been
current. -/
theorem playback_follows_supplier_order
    (random : Random) (suppliers : List FixedSupplier)
    (exact : ∀ supplier ∈ suppliers, supplier.Exact)
    (distinct : (suppliers.flatMap FixedSupplier.items).Nodup)
    (current : Nat)
    (inside : current < (suppliers.flatMap FixedSupplier.items).length)
    (operations : List (Operation FixedSupplier))
    (calls : ∀ operation ∈ operations, InOrderCall operation) :
    let later := (suppliers.flatMap FixedSupplier.items).drop (current + 1)
    let played :=
      run Playback.step (Playback.start random suppliers current) operations
    played.queue =
        run step (filled .default .none random suppliers current)
          operations ∧
      played.visited <+: played.awaited later ∧
      played.visited.Nodup ∧
      ∀ usePlaybackOrder useRepeatMode final,
        (next usePlaybackOrder useRepeatMode).run played.queue =
          .ok none final →
        played.visited = played.awaited later := by
  intro later played
  have distinctLater : later.Nodup :=
    distinct.sublist (List.drop_sublist _ _)
  have onTrack : Playback.OnTrack later played :=
    Playback.run_onTrack
      (Playback.onTrack_start random exact distinct inside) distinctLater
      calls
  have reached : played.visited <+: played.awaited later :=
    ⟨played.queue.pending, onTrack.covers⟩
  refine ⟨Playback.run_queue _ _, reached, ?_, ?_⟩
  · exact (distinctLater.filter _).sublist reached.sublist
  · intro usePlaybackOrder useRepeatMode final ended
    have empty : played.queue.pending = [] := by
      cases shape : played.queue.pending with
      | nil =>
          rfl
      | cons entry rest =>
          obtain ⟨moved, outcome, _⟩ :=
            onTrack.sequential.next_advances shape usePlaybackOrder
              useRepeatMode
          rw [outcome] at ended
          injection ended with found
          cases found
    rw [← onTrack.covers, empty, List.append_nil]

theorem playback_skips_removed_entry :
    let played :=
      run Playback.step
        (Playback.start (fun _ => 0)
          [.ofList [⟨0⟩, ⟨1⟩], .ofList [⟨2⟩, ⟨3⟩]] 0)
        [.peekNext 2 true false, .removeEntry ⟨1⟩, .next true false,
          .removeEntry ⟨2⟩]
    played.visited = [⟨2⟩, ⟨3⟩] :=
  ((playback_follows_supplier_order (fun _ => 0)
    [.ofList [⟨0⟩, ⟨1⟩], .ofList [⟨2⟩, ⟨3⟩]]
    (by simp [FixedSupplier.ofList_exact]) (by decide) 0 (by decide)
    [.peekNext 2 true false, .removeEntry ⟨1⟩, .next true false,
      .removeEntry ⟨2⟩] (by simp [InOrderCall])).2.2.2 true false _
    rfl).trans (by decide)

end JellyfinTv.Queue
