import Mathlib.Data.List.Chain
import Mathlib.Logic.Function.Basic
import JellyfinTv.Library.Runs
import JellyfinTv.Library.SharedFlow

/-!
# The elements of a container

`ElementsContainer` stores a value and then emits its key into a shared flow
that keeps the newest two keys.  A collector of `getFlow` takes a key, reads
the stored value at a later moment and passes it on if it has changed.  Keys
may be dropped, but the newest one never is, and whatever is read after it is
as new as the value that it was emitted for.
-/

namespace JellyfinTv.Playback

open JellyfinTv.Library

variable {ElementKey Value : Type}

/-- `updateFlow` replays one key and has one extra slot. -/
structure ElementsContainer (ElementKey Value : Type) where
  elements : ElementKey → Option Value
  updateFlow : SharedFlow ElementKey 2

namespace ElementsContainer

def created : ElementsContainer ElementKey Value where
  elements := fun _ => none
  updateFlow := SharedFlow.empty

def getOrNull (container : ElementsContainer ElementKey Value)
    (key : ElementKey) : Option Value :=
  container.elements key

/-- The first line of `put` and `remove`. -/
def store [DecidableEq ElementKey]
    (container : ElementsContainer ElementKey Value) (key : ElementKey)
    (value : Option Value) : ElementsContainer ElementKey Value :=
  { container with
    elements := Function.update container.elements key value }

def tryEmit (container : ElementsContainer ElementKey Value)
    (key : ElementKey) : ElementsContainer ElementKey Value :=
  { container with updateFlow := container.updateFlow.emit key }

end ElementsContainer

/-- The container with the keys of the calls that have stored their value and
not yet emitted its key, and a collector: whether it is subscribed, whether
it has taken a key, the value it has read for it, and what it has passed
on. -/
structure ElementFlow (ElementKey Value : Type) where
  container : ElementsContainer ElementKey Value
  inFlight : List ElementKey
  subscribed : Bool
  taken : Bool
  read : Option (Option Value)
  collected : List (Option Value)

/-- The two lines of a call, and the steps of the collector. -/
inductive ElementEvent (ElementKey Value : Type) where
  | put (key : ElementKey) (value : Value)
  | remove (key : ElementKey)
  | emits (call : Nat)
  | subscribes
  | takes
  | reads
  | passes
  deriving DecidableEq, Repr

def ElementEvent.isCall : ElementEvent ElementKey Value → Bool
  | .put _ _ => true
  | .remove _ => true
  | _ => false

/-- `distinctUntilChanged`. -/
def distinctUntilChanged [DecidableEq Value]
    (collected : List (Option Value)) (value : Option Value) :
    List (Option Value) :=
  if collected.getLast? = some value then collected
  else collected ++ [value]

namespace ElementFlow

def created : ElementFlow ElementKey Value where
  container := ElementsContainer.created
  inFlight := []
  subscribed := false
  taken := false
  read := none
  collected := []

def stores [DecidableEq ElementKey] (flow : ElementFlow ElementKey Value)
    (key : ElementKey) (value : Option Value) :
    ElementFlow ElementKey Value :=
  { flow with
    container := flow.container.store key value
    inFlight := flow.inFlight ++ [key] }

def emits (flow : ElementFlow ElementKey Value) (call : Nat) :
    ElementFlow ElementKey Value :=
  match flow.inFlight[call]? with
  | none => flow
  | some key =>
      { flow with
        container := flow.container.tryEmit key
        inFlight := flow.inFlight.eraseIdx call }

def subscribes (flow : ElementFlow ElementKey Value) :
    ElementFlow ElementKey Value :=
  if flow.subscribed then
    flow
  else
    { flow with
      subscribed := true
      container :=
        { flow.container with
          updateFlow := flow.container.updateFlow.subscribe 1 } }

/-- The collector takes its next key once it has passed on the last value. -/
def takes (flow : ElementFlow ElementKey Value) :
    ElementFlow ElementKey Value :=
  if flow.subscribed && !flow.taken && flow.read.isNone then
    match flow.container.updateFlow.collect with
    | (none, _) => flow
    | (some _, later) =>
        { flow with
          taken := true
          container := { flow.container with updateFlow := later } }
  else
    flow

/-- `map { getOrNull(key) }`, for whatever key was taken. -/
def reads (flow : ElementFlow ElementKey Value) (key : ElementKey) :
    ElementFlow ElementKey Value :=
  if flow.taken then
    { flow with
      taken := false
      read := some (flow.container.getOrNull key) }
  else
    flow

def passes [DecidableEq Value] (flow : ElementFlow ElementKey Value) :
    ElementFlow ElementKey Value :=
  match flow.read with
  | none => flow
  | some value =>
      { flow with
        read := none
        collected := distinctUntilChanged flow.collected value }

/-- The steps of the container and of a collector of `getFlow(key)`. -/
def step [DecidableEq ElementKey] [DecidableEq Value] (key : ElementKey)
    (flow : ElementFlow ElementKey Value) :
    ElementEvent ElementKey Value → ElementFlow ElementKey Value
  | .put stored value => flow.stores stored (some value)
  | .remove stored => flow.stores stored none
  | .emits call => flow.emits call
  | .subscribes => flow.subscribes
  | .takes => flow.takes
  | .reads => flow.reads key
  | .passes => flow.passes

/-- All calls have returned and the collector waits for the next key. -/
def CaughtUp (flow : ElementFlow ElementKey Value) : Prop :=
  flow.inFlight = [] ∧ flow.subscribed = true ∧
    flow.container.updateFlow.pending = [] ∧ flow.taken = false ∧
    flow.read = none

/-! ## What is still to come -/

section Convergence

variable {key : ElementKey} {flow : ElementFlow ElementKey Value}

theorem getLast?_distinctUntilChanged [DecidableEq Value]
    (collected : List (Option Value)) (value : Option Value) :
    (distinctUntilChanged collected value).getLast? = some value := by
  unfold distinctUntilChanged
  split
  case isTrue same =>
    exact same
  case isFalse changed =>
    exact List.getLast?_concat

/-- The collector is going to read the value again. -/
def Awaits (flow : ElementFlow ElementKey Value) : Prop :=
  flow.inFlight ≠ [] ∨ flow.container.updateFlow.pending ≠ [] ∨
    flow.taken = true

/-- The last value that the collector has read or passed on. -/
def known (flow : ElementFlow ElementKey Value) : Option (Option Value) :=
  match flow.read with
  | none => flow.collected.getLast?
  | some value => some value

/-- A call has been made. -/
def Called (flow : ElementFlow ElementKey Value) : Prop :=
  flow.inFlight ≠ [] ∨ flow.container.updateFlow.cache ≠ []

/-- The collector knows the value that is stored unless it is going to read
it again. -/
def Converges (key : ElementKey) (flow : ElementFlow ElementKey Value) :
    Prop :=
  flow.subscribed = true → flow.Called →
    flow.Awaits ∨ flow.known = some (flow.container.getOrNull key)

theorem converges_stores [DecidableEq ElementKey] (stored : ElementKey)
    (value : Option Value) : (flow.stores stored value).Converges key := by
  intro _ _
  left
  left
  exact List.append_ne_nil_of_right_ne_nil _ (List.cons_ne_nil stored [])

theorem Converges.emits (converges : flow.Converges key) (call : Nat) :
    (flow.emits call).Converges key := by
  unfold ElementFlow.emits
  split
  next missing =>
    exact converges
  next emitted found =>
    intro _ _
    left
    right
    left
    exact SharedFlow.pending_emit_ne_nil _ emitted (by decide)

theorem Converges.subscribes (converges : flow.Converges key) :
    flow.subscribes.Converges key := by
  unfold ElementFlow.subscribes
  split
  case isTrue before =>
    exact converges
  case isFalse new =>
    intro _ called
    left
    rcases called with inFlight | emitted
    · exact Or.inl inFlight
    · right
      left
      exact SharedFlow.pending_subscribe_ne_nil (by decide) emitted

theorem Converges.takes (converges : flow.Converges key) :
    flow.takes.Converges key := by
  unfold ElementFlow.takes
  split
  case isTrue ready =>
    split
    next waiting =>
      exact converges
    next taken later collected =>
      intro _ _
      exact Or.inl (Or.inr (Or.inr rfl))
  case isFalse busy =>
    exact converges

theorem Converges.reads (converges : flow.Converges key) :
    (flow.reads key).Converges key := by
  unfold ElementFlow.reads
  split
  case isTrue taken =>
    intro _ _
    exact Or.inr rfl
  case isFalse waiting =>
    exact converges

theorem Converges.passes [DecidableEq Value]
    (converges : flow.Converges key) : flow.passes.Converges key := by
  unfold ElementFlow.passes
  split
  next unread =>
    exact converges
  next value found =>
    intro subscribed called
    rcases converges subscribed called with awaits | knows
    · exact Or.inl awaits
    · right
      rw [known, found] at knows
      rw [known]
      dsimp only
      rw [getLast?_distinctUntilChanged]
      exact knows

theorem Converges.step [DecidableEq ElementKey] [DecidableEq Value]
    (converges : flow.Converges key) (event : ElementEvent ElementKey Value) :
    (flow.step key event).Converges key := by
  cases event with
  | put stored value =>
      exact converges_stores stored (some value)
  | remove stored =>
      exact converges_stores stored none
  | emits call =>
      exact converges.emits call
  | subscribes =>
      exact converges.subscribes
  | takes =>
      exact converges.takes
  | reads =>
      exact converges.reads
  | passes =>
      exact converges.passes

theorem called_stores [DecidableEq ElementKey] (stored : ElementKey)
    (value : Option Value) : (flow.stores stored value).Called := by
  left
  exact List.append_ne_nil_of_right_ne_nil _ (List.cons_ne_nil stored [])

theorem Called.step [DecidableEq ElementKey] [DecidableEq Value]
    (called : flow.Called) (event : ElementEvent ElementKey Value) :
    (flow.step key event).Called := by
  cases event with
  | put stored value =>
      exact called_stores stored (some value)
  | remove stored =>
      exact called_stores stored none
  | emits call =>
      rw [ElementFlow.step, ElementFlow.emits]
      split
      next missing =>
        exact called
      next emitted found =>
        right
        exact SharedFlow.cache_emit_ne_nil _ emitted (by decide)
  | subscribes =>
      rw [ElementFlow.step, ElementFlow.subscribes]
      split
      · exact called
      · exact called
  | takes =>
      rw [ElementFlow.step, ElementFlow.takes]
      split
      case isTrue ready =>
        split
        next waiting =>
          exact called
        next taken later collected =>
          have cache := flow.container.updateFlow.cache_collect
          rw [collected] at cache
          dsimp only at cache
          unfold Called
          dsimp only
          rw [cache]
          exact called
      case isFalse busy =>
        exact called
  | reads =>
      rw [ElementFlow.step, ElementFlow.reads]
      split
      · exact called
      · exact called
  | passes =>
      rw [ElementFlow.step, ElementFlow.passes]
      split
      · exact called
      · exact called

end Convergence

section Moments

variable [DecidableEq ElementKey] [DecidableEq Value]
variable {key : ElementKey} {flow : ElementFlow ElementKey Value}

/-- The value is stored after the first events of a run. -/
def StoredAt (key : ElementKey)
    (events : List (ElementEvent ElementKey Value)) (value : Option Value)
    (moment : Nat) : Prop :=
  moment ≤ events.length ∧
    (run (step key) created (events.take moment)).container.getOrNull key =
      value

/-- The collected values were stored at these moments, and the one that was
read but not passed on at a later one. -/
structure CollectedAt (key : ElementKey)
    (events : List (ElementEvent ElementKey Value))
    (flow : ElementFlow ElementKey Value) (moments : List Nat) : Prop where
  stored : List.Forall₂ (StoredAt key events) flow.collected moments
  ordered : moments.Pairwise fun earlier later => earlier ≤ later
  read :
    ∀ value, flow.read = some value →
      ∃ moment, StoredAt key events value moment ∧
        ∀ earlier ∈ moments, earlier ≤ moment

variable {events : List (ElementEvent ElementKey Value)}
  {moments : List Nat}

theorem StoredAt.concat {value : Option Value} {moment : Nat}
    (stored : StoredAt key events value moment)
    (event : ElementEvent ElementKey Value) :
    StoredAt key (events ++ [event]) value moment := by
  constructor
  · rw [List.length_append]
    exact Nat.le_add_right_of_le stored.1
  · rw [List.take_append_of_le_length stored.1]
    exact stored.2

/-- A longer run tells the same of its beginning. -/
theorem CollectedAt.concat (collected : CollectedAt key events flow moments)
    (event : ElementEvent ElementKey Value) :
    CollectedAt key (events ++ [event]) flow moments := by
  constructor
  · exact collected.stored.imp fun _ _ stored => stored.concat event
  · exact collected.ordered
  · intro value found
    obtain ⟨moment, stored, last⟩ := collected.read value found
    exact ⟨moment, stored.concat event, last⟩

theorem CollectedAt.bounded (collected : CollectedAt key events flow moments) :
    ∀ moment ∈ moments, moment ≤ events.length := by
  have stored := collected.stored
  generalize flow.collected = values at stored
  clear collected
  induction stored with
  | nil =>
      rintro moment ⟨⟩
  | @cons value first values moments head tail inductionHypothesis =>
      rw [List.forall_mem_cons]
      exact ⟨head.1, inductionHypothesis⟩

/-- Only reading and passing on change what the collector knows. -/
theorem step_frame {event : ElementEvent ElementKey Value}
    (noRead : event ≠ .reads) (noPass : event ≠ .passes) :
    (flow.step key event).read = flow.read ∧
      (flow.step key event).collected = flow.collected := by
  cases event with
  | put stored value =>
      exact ⟨rfl, rfl⟩
  | remove stored =>
      exact ⟨rfl, rfl⟩
  | emits call =>
      rw [step, emits]
      split
      · exact ⟨rfl, rfl⟩
      · exact ⟨rfl, rfl⟩
  | subscribes =>
      rw [step, subscribes]
      split
      · exact ⟨rfl, rfl⟩
      · exact ⟨rfl, rfl⟩
  | takes =>
      rw [step, takes]
      split
      · split
        · exact ⟨rfl, rfl⟩
        · exact ⟨rfl, rfl⟩
      · exact ⟨rfl, rfl⟩
  | reads =>
      exact absurd rfl noRead
  | passes =>
      exact absurd rfl noPass

/-- A value that is read is stored at this moment. -/
theorem CollectedAt.reads
    (collected :
      CollectedAt key events (run (step key) created events) moments) :
    CollectedAt key (events ++ [.reads])
      ((run (step key) created events).reads key) moments := by
  have longer := collected.concat .reads
  unfold ElementFlow.reads
  split
  case isTrue taken =>
    constructor
    · exact longer.stored
    · exact longer.ordered
    · rintro value ⟨⟩
      refine ⟨events.length, ?_, collected.bounded⟩
      constructor
      · rw [List.length_append]
        exact Nat.le_add_right _ _
      · rw [List.take_left]
  case isFalse waiting =>
    exact longer

theorem CollectedAt.passes (collected : CollectedAt key events flow moments) :
    ∃ later, CollectedAt key events flow.passes later := by
  unfold ElementFlow.passes
  split
  next unread =>
    exact ⟨moments, collected⟩
  next value found =>
    obtain ⟨moment, stored, last⟩ := collected.read value found
    unfold distinctUntilChanged
    split
    case isTrue same =>
      refine ⟨moments, collected.stored, collected.ordered, ?_⟩
      rintro other ⟨⟩
    case isFalse changed =>
      refine ⟨moments ++ [moment], ?_, ?_, ?_⟩
      · exact
          List.rel_append collected.stored
            (List.Forall₂.cons stored List.Forall₂.nil)
      · rw [List.pairwise_append]
        refine ⟨collected.ordered, List.pairwise_singleton _ _, ?_⟩
        intro earlier member later isMoment
        obtain rfl := List.mem_singleton.mp isMoment
        exact last earlier member
      · rintro other ⟨⟩

/-- The collected values were stored one after another. -/
theorem exists_collectedAt (key : ElementKey)
    (events : List (ElementEvent ElementKey Value)) :
    ∃ moments,
      CollectedAt key events (run (step key) created events) moments := by
  induction events using List.reverseRecOn with
  | nil =>
      refine ⟨[], List.Forall₂.nil, List.Pairwise.nil, ?_⟩
      rintro value ⟨⟩
  | append_singleton events event inductionHypothesis =>
      obtain ⟨moments, collected⟩ := inductionHypothesis
      rw [run_append, run_cons, run_nil]
      by_cases reads : event = .reads
      · subst reads
        exact ⟨moments, collected.reads⟩
      · by_cases passes : event = .passes
        · subst passes
          exact (collected.concat .passes).passes
        · obtain ⟨read, kept⟩ := step_frame reads passes
          have longer := collected.concat event
          refine ⟨moments, ?_, longer.ordered, ?_⟩
          · rw [kept]
            exact longer.stored
          · rw [read]
            exact longer.read

end Moments

theorem isChain_distinctUntilChanged [DecidableEq Value]
    {collected : List (Option Value)}
    (chain : collected.IsChain fun first second => first ≠ second)
    (value : Option Value) :
    (distinctUntilChanged collected value).IsChain
      fun first second => first ≠ second := by
  unfold distinctUntilChanged
  split
  case isTrue same =>
    exact chain
  case isFalse changed =>
    apply chain.append (List.isChain_singleton value)
    intro last isLast next isNext
    obtain rfl : value = next := Option.some.inj isNext
    intro same
    rw [same] at isLast
    exact changed isLast

theorem isChain_collected [DecidableEq ElementKey] [DecidableEq Value]
    (key : ElementKey) (events : List (ElementEvent ElementKey Value)) :
    (run (step key) created events).collected.IsChain
      fun first second => first ≠ second := by
  have kept :
      ∀ (flow : ElementFlow ElementKey Value) event,
        (flow.collected.IsChain fun first second => first ≠ second) →
          (flow.step key event).collected.IsChain
            fun first second => first ≠ second := by
    intro flow event chain
    by_cases reads : event = .reads
    · subst reads
      rw [step, ElementFlow.reads]
      split
      · exact chain
      · exact chain
    · by_cases passes : event = .passes
      · subst passes
        rw [step, ElementFlow.passes]
        split
        · exact chain
        · exact isChain_distinctUntilChanged chain _
      · obtain ⟨_, same⟩ := step_frame reads passes
        rw [same]
        exact chain
  exact run_preserves kept List.IsChain.nil events

theorem converges_run [DecidableEq ElementKey] [DecidableEq Value]
    (key : ElementKey) (events : List (ElementEvent ElementKey Value)) :
    (run (step key) created events).Converges key := by
  have kept :
      ∀ (flow : ElementFlow ElementKey Value) event, flow.Converges key →
        (flow.step key event).Converges key :=
    fun _ event converges => converges.step event
  have initial : (created : ElementFlow ElementKey Value).Converges key := by
    rintro ⟨⟩
  exact run_preserves kept initial events

theorem called_of_mem [DecidableEq ElementKey] [DecidableEq Value]
    (key : ElementKey) {events : List (ElementEvent ElementKey Value)}
    {call : ElementEvent ElementKey Value} (member : call ∈ events)
    (isCall : call.isCall = true) :
    (run (step key) created events).Called := by
  have established :
      ∀ flow : ElementFlow ElementKey Value, True →
        (flow.step key call).Called := by
    intro flow _
    cases call with
    | put stored value =>
        exact called_stores stored (some value)
    | remove stored =>
        exact called_stores stored none
    | _ =>
        exact absurd isCall Bool.false_ne_true
  have kept :
      ∀ (flow : ElementFlow ElementKey Value) event, flow.Called → True →
        (flow.step key event).Called :=
    fun _ event called _ => called.step event
  have always :
      ∀ (_ : ElementFlow ElementKey Value)
        (_ : ElementEvent ElementKey Value), True → True → True :=
    fun _ _ _ _ => trivial
  exact
    run_of_mem always kept established trivial (fun _ _ => trivial) member

/-- A collector of an element sees no value twice in a row, sees values in
the order in which they were stored, and has seen the stored one last when it
has caught up with the calls. -/
theorem element_flow_converges [DecidableEq ElementKey] [DecidableEq Value]
    (key : ElementKey) (events : List (ElementEvent ElementKey Value)) :
    let reached := run (step key) created events
    (reached.collected.IsChain fun first second => first ≠ second) ∧
      (∃ moments,
        List.Forall₂ (StoredAt key events) reached.collected moments ∧
          moments.Pairwise fun earlier later => earlier ≤ later) ∧
      ((∃ event ∈ events, event.isCall = true) → reached.CaughtUp →
        reached.collected.getLast? =
          some (reached.container.getOrNull key)) := by
  intro reached
  obtain ⟨moments, collected⟩ := exists_collectedAt key events
  refine
    ⟨isChain_collected key events, ⟨moments, collected.stored,
      collected.ordered⟩, ?_⟩
  rintro ⟨event, member, isCall⟩
    ⟨returned, subscribed, waiting, idle, passed⟩
  have called : reached.Called := called_of_mem key member isCall
  have converges : reached.Converges key := converges_run key events
  rcases converges subscribed called with awaits | knows
  · rcases awaits with inFlight | pending | taken
    · exact absurd returned inFlight
    · exact absurd waiting pending
    · rw [idle] at taken
      exact absurd taken Bool.false_ne_true
  · rw [known, passed] at knows
    exact knows

end ElementFlow

end JellyfinTv.Playback
