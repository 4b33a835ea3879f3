import Mathlib.Data.List.Induction
import Mathlib.Data.List.Nodup
import JellyfinTv.Library.Runs
import JellyfinTv.Startup.UserLogin

/-!
# One flow at a time

As long as no flow is started beside another one, and the server is not
exchanged while a secret is waited for or polled, there is one loop, the code
that is shown is the one of the secret, and every request reaches the server
that issued its secret.  Each call that is not so can be followed by answers
that break one of these.
-/

namespace JellyfinTv.Startup.QuickConnect

open JellyfinTv.Auth JellyfinTv.Library

variable {Secret Code : Type}
variable {servers : QuickConnectServers Secret Code}
variable {flow : QuickConnect Secret Code}

/-- A code that is shown is the one of the stored secret. -/
def Shows (servers : QuickConnectServers Secret Code)
    (secret : Option Secret) (state : QuickConnectState Code) : Prop :=
  ∀ code, state = .pending code →
    ∃ issued, secret = some issued ∧ code = servers.code issued

/-- One loop is live, the code that is shown belongs to the stored secret,
polls and sign-ins are sent to the server that issued their secret, and no
secret signs in twice. -/
structure OneFlow (servers : QuickConnectServers Secret Code)
    (flow : QuickConnect Secret Code) : Prop where
  oneLoop : flow.loops.length ≤ 1
  codeShown :
    Shows servers flow.viewModel.quickConnectSecret
      flow.viewModel.quickConnectState
  polled :
    ∀ poll ∈ flow.polls, ∃ address number,
      poll = (some address, servers.secret address number)
  signedIn :
    ∀ signIn ∈ flow.signIns, ∃ number,
      signIn.2 = servers.secret signIn.1 number
  once : (flow.signIns.map Prod.snd).Nodup

/-- A request for a secret is unanswered, or a loop with a secret goes on. -/
def Follows (flow : QuickConnect Secret Code) : Prop :=
  flow.calls ≠ [] ∨
    flow.viewModel.quickConnectSecret ≠ none ∧
      ∃ loop ∈ flow.loops, loop.2 ≠ .signingIn

/-- A flow is started when no call is unanswered and no loop is live, and a
server that is selected meanwhile has the address of the client. -/
def Orderly (flow : QuickConnect Secret Code) : LoginEvent → Prop
  | .initiateQuickconnect =>
      flow.viewModel.quickConnectState = .unknown →
        flow.viewModel.server ≠ none → flow.calls = [] ∧ flow.loops = []
  | .setServer storedServers id =>
      ∀ server,
        UserLoginViewModel.storedServer storedServers id = some server →
          flow.Follows →
            flow.viewModel.quickConnectApi = some server.address
  | _ => True

/-- The selected server has the address of the client. -/
def Selected (flow : QuickConnect Secret Code) (address : String) : Prop :=
  flow.viewModel.quickConnectApi = some address ∧
    ∀ server, flow.viewModel.server = some server →
      server.address = address

/-- The secret was issued by the server of the client and has not signed
in. -/
structure Held (servers : QuickConnectServers Secret Code)
    (flow : QuickConnect Secret Code) (secret : Secret) (address : String) :
    Prop where
  issued :
    ∃ number < flow.issued, secret = servers.secret address number
  selected : flow.Selected address
  unused : secret ∉ flow.signIns.map Prod.snd

/-- The requests so far. -/
structure Recorded (servers : QuickConnectServers Secret Code)
    (flow : QuickConnect Secret Code) : Prop where
  polled :
    ∀ poll ∈ flow.polls, ∃ address number,
      poll = (some address, servers.secret address number)
  signedIn :
    ∀ signIn ∈ flow.signIns, ∃ number < flow.issued,
      signIn.2 = servers.secret signIn.1 number
  once : (flow.signIns.map Prod.snd).Nodup

/-- At most one call or loop is in flight.  A call waits without a secret for
the answer of the selected server, and a loop that goes on holds the stored
secret. -/
structure Sound (servers : QuickConnectServers Secret Code)
    (flow : QuickConnect Secret Code) : Prop where
  atMostOne : flow.calls.length + flow.loops.length ≤ 1
  requesting :
    ∀ call ∈ flow.calls,
      call.1 < flow.called ∧ flow.viewModel.quickConnectSecret = none ∧
        flow.Selected call.2
  delaying :
    ∀ loop ∈ flow.loops, loop.2 = .delaying →
      ∀ secret, flow.viewModel.quickConnectSecret = some secret →
        ∃ address, flow.Held servers secret address
  polling :
    ∀ loop ∈ flow.loops, ∀ server secret, loop.2 = .polling server secret →
      flow.viewModel.quickConnectSecret = some secret ∧
        flow.Held servers secret server.address
  codeShown :
    Shows servers flow.viewModel.quickConnectSecret
      flow.viewModel.quickConnectState
  recorded : flow.Recorded servers

theorem Sound.oneFlow (sound : flow.Sound servers) :
    flow.OneFlow servers where
  oneLoop := by
    have atMostOne := sound.atMostOne
    omega
  codeShown := sound.codeShown
  polled := sound.recorded.polled
  signedIn := by
    intro signIn member
    obtain ⟨number, _, same⟩ := sound.recorded.signedIn signIn member
    exact ⟨number, same⟩
  once := sound.recorded.once

theorem sound_created :
    (created : QuickConnect Secret Code).Sound servers := by
  have recorded : (created : QuickConnect Secret Code).Recorded servers := by
    constructor
    all_goals simp [created]
  constructor
  case recorded =>
    exact recorded
  all_goals simp [created, UserLoginViewModel.created, Shows]

theorem Sound.of_call (sound : flow.Sound servers) {call : Nat × String}
    (member : call ∈ flow.calls) :
    flow.calls = [call] ∧ flow.loops = [] := by
  have atMostOne := sound.atMostOne
  have only := eq_singleton_of_mem member (by omega)
  rw [only, List.length_singleton] at atMostOne
  exact ⟨only, List.eq_nil_of_length_eq_zero (by omega)⟩

theorem Sound.of_loop (sound : flow.Sound servers)
    {loop : Nat × PollingLoop Secret} (member : loop ∈ flow.loops) :
    flow.calls = [] ∧ flow.loops = [loop] := by
  have atMostOne := sound.atMostOne
  have only := eq_singleton_of_mem member (by omega)
  rw [only, List.length_singleton] at atMostOne
  exact ⟨List.eq_nil_of_length_eq_zero (by omega), only⟩

/-- Nothing is in flight any more. -/
theorem Recorded.sound_of_nil (recorded : flow.Recorded servers)
    (noCalls : flow.calls = []) (noLoops : flow.loops = [])
    (codeShown :
      Shows servers flow.viewModel.quickConnectSecret
        flow.viewModel.quickConnectState) :
    flow.Sound servers := by
  constructor
  case codeShown =>
    exact codeShown
  case recorded =>
    exact recorded
  all_goals simp [noCalls, noLoops]

/-- One loop is in flight. -/
theorem Recorded.sound_of_singleton (loop : Nat × PollingLoop Secret)
    (recorded : flow.Recorded servers) (noCalls : flow.calls = [])
    (only : flow.loops = [loop])
    (delaying :
      loop.2 = .delaying →
        ∀ secret, flow.viewModel.quickConnectSecret = some secret →
          ∃ address, flow.Held servers secret address)
    (polling :
      ∀ server secret, loop.2 = .polling server secret →
        flow.viewModel.quickConnectSecret = some secret ∧
          flow.Held servers secret server.address)
    (codeShown :
      Shows servers flow.viewModel.quickConnectSecret
        flow.viewModel.quickConnectState) :
    flow.Sound servers := by
  constructor
  case atMostOne =>
    simp [noCalls, only]
  case requesting =>
    simp [noCalls]
  case delaying =>
    simpa only [only, List.forall_mem_singleton] using delaying
  case polling =>
    simpa only [only, List.forall_mem_singleton] using polling
  case codeShown =>
    exact codeShown
  case recorded =>
    exact recorded

theorem Sound.initiateQuickconnect (sound : flow.Sound servers)
    (orderly : flow.Orderly .initiateQuickconnect) :
    flow.initiateQuickconnect.Sound servers := by
  unfold QuickConnect.initiateQuickconnect
  split
  next server unknown selected =>
    have given : flow.viewModel.server ≠ none := by
      rw [selected]
      exact Option.some_ne_none server
    obtain ⟨noCalls, noLoops⟩ := orderly unknown given
    constructor
    case atMostOne =>
      simp [noCalls, noLoops]
    case requesting =>
      intro call member
      rw [noCalls, List.nil_append, List.mem_singleton] at member
      subst member
      refine ⟨Nat.lt_succ_self _, rfl, rfl, ?_⟩
      intro other found
      rw [selected] at found
      cases found
      rfl
    case codeShown =>
      intro code shown
      cases shown
    case recorded =>
      exact
        ⟨sound.recorded.polled, sound.recorded.signedIn,
          sound.recorded.once⟩
    all_goals simp [noLoops]
  next =>
    exact sound

/-- A secret that is issued now has not signed in. -/
theorem Recorded.fresh (recorded : flow.Recorded servers)
    (address : String) :
    servers.secret address flow.issued ∉ flow.signIns.map Prod.snd := by
  intro used
  obtain ⟨signIn, member, same⟩ := List.mem_map.mp used
  obtain ⟨number, before, issued⟩ := recorded.signedIn signIn member
  rw [issued] at same
  have equal := (servers.distinct same).2
  omega

theorem Sound.initiateSucceeds (sound : flow.Sound servers) (call : Nat) :
    (flow.initiateSucceeds servers call).Sound servers := by
  unfold QuickConnect.initiateSucceeds
  split
  next =>
    exact sound
  next address found =>
    have member := mem_of_lookup found
    obtain ⟨only, noLoops⟩ := sound.of_call member
    obtain ⟨_, _, selected⟩ := sound.requesting _ member
    have recorded := sound.recorded
    apply Recorded.sound_of_singleton (call, .delaying)
    · refine ⟨recorded.polled, ?_, recorded.once⟩
      intro signIn member
      obtain ⟨number, before, same⟩ := recorded.signedIn signIn member
      exact ⟨number, Nat.lt_succ_of_lt before, same⟩
    · simp [launchLoop, only]
    · simp [launchLoop, noLoops]
    · rintro _ secret stored
      cases stored
      exact
        ⟨address, ⟨flow.issued, Nat.lt_succ_self _, rfl⟩, selected,
          recorded.fresh address⟩
    · rintro server secret ⟨⟩
    · intro code shown
      cases shown
      exact ⟨_, rfl, rfl⟩

theorem Sound.initiateFails (sound : flow.Sound servers) (call : Nat) :
    (flow.initiateFails call).Sound servers := by
  unfold QuickConnect.initiateFails
  split
  next =>
    exact sound
  next address found =>
    have member := mem_of_lookup found
    obtain ⟨only, noLoops⟩ := sound.of_call member
    obtain ⟨_, missing, _⟩ := sound.requesting _ member
    have recorded := sound.recorded
    apply Recorded.sound_of_singleton (call, .delaying)
    · exact ⟨recorded.polled, recorded.signedIn, recorded.once⟩
    · simp [launchLoop, only]
    · simp [launchLoop, noLoops]
    · intro _ secret stored
      have absent : flow.viewModel.quickConnectSecret = some secret :=
        stored
      rw [missing] at absent
      cases absent
    · rintro server secret ⟨⟩
    · intro code shown
      cases shown

theorem follows_of_loop {loop : Nat × PollingLoop Secret}
    (member : loop ∈ flow.loops) (goesOn : loop.2 ≠ .signingIn)
    {secret : Secret}
    (stored : flow.viewModel.quickConnectSecret = some secret) :
    flow.Follows := by
  refine Or.inr ⟨?_, loop, member, goesOn⟩
  rw [stored]
  exact Option.some_ne_none secret

/-- The loops and the secret are kept, a request may be given up, and another
server is only selected where the flow that follows allows it. -/
theorem Sound.frame (sound : flow.Sound servers)
    {calls : List (Nat × String)} (fewer : calls.Sublist flow.calls)
    {server : Option Server} {loginState : Option LoginState}
    {quickConnectState : QuickConnectState Code}
    (selected :
      flow.Follows → ∀ address, flow.Selected address →
        ∀ found, server = some found → found.address = address)
    (codeShown :
      Shows servers flow.viewModel.quickConnectSecret quickConnectState) :
    { flow with
      calls := calls
      viewModel :=
        { flow.viewModel with
          loginState := loginState
          server := server
          quickConnectState := quickConnectState } }.Sound servers where
  atMostOne := by
    have shorter := fewer.length_le
    have atMostOne := sound.atMostOne
    dsimp only
    omega
  requesting := by
    intro call member
    have waiting := fewer.subset member
    obtain ⟨numbered, missing, client⟩ := sound.requesting call waiting
    have follows : flow.Follows := Or.inl (List.ne_nil_of_mem waiting)
    exact
      ⟨numbered, missing, client.1, selected follows call.2 client⟩
  delaying := by
    intro loop member phase secret stored
    have kept : flow.viewModel.quickConnectSecret = some secret := stored
    obtain ⟨address, held⟩ := sound.delaying loop member phase secret kept
    have follows : flow.Follows :=
      follows_of_loop member (by rw [phase]; simp) kept
    exact
      ⟨address, held.issued,
        ⟨held.selected.1, selected follows address held.selected⟩,
        held.unused⟩
  polling := by
    intro loop member first secret phase
    obtain ⟨stored, held⟩ := sound.polling loop member first secret phase
    have follows : flow.Follows :=
      follows_of_loop member (by rw [phase]; simp) stored
    exact
      ⟨stored, held.issued,
        ⟨held.selected.1, selected follows first.address held.selected⟩,
        held.unused⟩
  codeShown := codeShown
  recorded :=
    ⟨sound.recorded.polled, sound.recorded.signedIn, sound.recorded.once⟩

theorem Sound.initiateCancelled (sound : flow.Sound servers) (call : Nat) :
    { flow with calls := without call flow.calls }.Sound servers :=
  sound.frame (without_sublist call flow.calls) (fun _ _ client => client.2)
    sound.codeShown

theorem Sound.clearLoginState (sound : flow.Sound servers) :
    { flow with viewModel := flow.viewModel.clearLoginState }.Sound
      servers := by
  apply sound.frame (List.Sublist.refl _) (fun _ _ client => client.2)
  intro code shown
  cases shown

theorem Sound.setServer (sound : flow.Sound servers)
    {storedServers : List Server} {id : Option UUID}
    (orderly : flow.Orderly (.setServer storedServers id)) :
    { flow with
      viewModel := flow.viewModel.setServer storedServers id }.Sound
        servers := by
  apply sound.frame (List.Sublist.refl _) _ sound.codeShown
  intro follows address client server found
  have api := orderly server found follows
  rw [client.1] at api
  exact (Option.some.inj api).symm

/-! ## Loops -/

theorem Sound.delayEnds (sound : flow.Sound servers) (loop : Nat) :
    (flow.delayEnds loop).Sound servers := by
  have recorded := sound.recorded
  unfold QuickConnect.delayEnds
  split
  next found =>
    have member := mem_of_lookup found
    obtain ⟨noCalls, only⟩ := sound.of_loop member
    split
    next server secret selected stored =>
      obtain ⟨address, held⟩ := sound.delaying _ member rfl secret stored
      obtain ⟨number, before, issued⟩ := held.issued
      have same : server.address = address :=
        held.selected.2 server selected
      apply Recorded.sound_of_singleton (loop, .polling server secret)
      · refine ⟨?_, recorded.signedIn, recorded.once⟩
        intro poll member
        rcases List.mem_append.mp member with earlier | now
        · exact recorded.polled poll earlier
        · rw [List.mem_singleton] at now
          exact ⟨address, number, by rw [now, held.selected.1, issued]⟩
      · exact noCalls
      · simp [only]
      · rintro ⟨⟩
      · rintro _ _ ⟨⟩
        refine ⟨stored, ?_, ?_, held.unused⟩
        · exact ⟨number, before, by rw [same, issued]⟩
        · rw [same]
          exact held.selected
      · exact sound.codeShown
    next =>
      apply Recorded.sound_of_nil
      · exact ⟨recorded.polled, recorded.signedIn, recorded.once⟩
      · exact noCalls
      · simp [only]
      · exact sound.codeShown
  next =>
    exact sound

theorem Sound.pollPending (sound : flow.Sound servers) (loop : Nat) :
    (flow.pollPending servers loop).Sound servers := by
  have recorded := sound.recorded
  unfold QuickConnect.pollPending
  split
  next server secret found =>
    have member := mem_of_lookup found
    obtain ⟨noCalls, only⟩ := sound.of_loop member
    obtain ⟨stored, held⟩ := sound.polling _ member server secret rfl
    apply Recorded.sound_of_singleton (loop, .delaying)
    · exact ⟨recorded.polled, recorded.signedIn, recorded.once⟩
    · exact noCalls
    · simp [only]
    · intro _ other kept
      have same : flow.viewModel.quickConnectSecret = some other := kept
      rw [stored] at same
      cases same
      exact ⟨server.address, held.issued, held.selected, held.unused⟩
    · rintro _ _ ⟨⟩
    · intro code shown
      cases shown
      exact ⟨secret, stored, rfl⟩
  next =>
    exact sound

theorem Sound.pollAuthenticated (sound : flow.Sound servers) (loop : Nat) :
    (flow.pollAuthenticated loop).Sound servers := by
  have recorded := sound.recorded
  unfold QuickConnect.pollAuthenticated
  split
  next server secret found =>
    have member := mem_of_lookup found
    obtain ⟨noCalls, only⟩ := sound.of_loop member
    obtain ⟨stored, held⟩ := sound.polling _ member server secret rfl
    apply Recorded.sound_of_singleton (loop, .signingIn)
    · refine ⟨recorded.polled, ?_, ?_⟩
      · intro signIn member
        rcases List.mem_append.mp member with earlier | now
        · exact recorded.signedIn signIn earlier
        · rw [List.mem_singleton] at now
          rw [now]
          exact held.issued
      · rw [List.map_append, List.map_singleton, List.nodup_append]
        refine ⟨recorded.once, List.nodup_singleton secret, ?_⟩
        intro earlier used now same
        rw [List.mem_singleton] at same
        rintro rfl
        rw [same] at used
        exact held.unused used
    · exact noCalls
    · simp [only]
    · rintro ⟨⟩
    · rintro _ _ ⟨⟩
    · intro code shown
      cases shown
  next =>
    exact sound

theorem Sound.pollFails (sound : flow.Sound servers) (loop : Nat) :
    (flow.pollFails loop).Sound servers := by
  have recorded := sound.recorded
  unfold QuickConnect.pollFails
  split
  next server secret found =>
    obtain ⟨noCalls, only⟩ := sound.of_loop (mem_of_lookup found)
    apply Recorded.sound_of_nil
    · exact ⟨recorded.polled, recorded.signedIn, recorded.once⟩
    · exact noCalls
    · simp [only]
    · intro code shown
      cases shown
  next =>
    exact sound

theorem Sound.signInEmits (sound : flow.Sound servers) (loop : Nat)
    (state : LoginState) : (flow.signInEmits loop state).Sound servers := by
  have recorded := sound.recorded
  unfold QuickConnect.signInEmits
  split
  next found =>
    obtain ⟨noCalls, only⟩ := sound.of_loop (mem_of_lookup found)
    apply Recorded.sound_of_singleton (loop, .signingIn)
    · exact ⟨recorded.polled, recorded.signedIn, recorded.once⟩
    · exact noCalls
    · exact only
    · rintro ⟨⟩
    · rintro _ _ ⟨⟩
    · exact sound.codeShown
  next =>
    exact sound

theorem Sound.signInEnds (sound : flow.Sound servers) (loop : Nat)
    (thrown : Bool) : (flow.signInEnds loop thrown).Sound servers := by
  have recorded := sound.recorded
  unfold QuickConnect.signInEnds
  split
  next found =>
    obtain ⟨noCalls, only⟩ := sound.of_loop (mem_of_lookup found)
    apply Recorded.sound_of_nil
    · exact ⟨recorded.polled, recorded.signedIn, recorded.once⟩
    · exact noCalls
    · simp [only]
    · cases thrown with
      | false =>
          exact sound.codeShown
      | true =>
          intro code shown
          cases shown
  next =>
    exact sound

theorem Sound.step (sound : flow.Sound servers) {event : LoginEvent}
    (orderly : flow.Orderly event) :
    (flow.step servers event).Sound servers := by
  cases event with
  | initiateQuickconnect =>
      exact sound.initiateQuickconnect orderly
  | initiateCancelled call =>
      exact sound.initiateCancelled call
  | clearLoginState =>
      exact sound.clearLoginState
  | setServer storedServers id =>
      exact sound.setServer orderly
  | initiateSucceeds call =>
      exact sound.initiateSucceeds call
  | initiateFails call =>
      exact sound.initiateFails call
  | delayEnds loop =>
      exact sound.delayEnds loop
  | pollPending loop =>
      exact sound.pollPending loop
  | pollAuthenticated loop =>
      exact sound.pollAuthenticated loop
  | pollFails loop =>
      exact sound.pollFails loop
  | signInEmits loop state =>
      exact sound.signInEmits loop state
  | signInEnds loop thrown =>
      exact sound.signInEnds loop thrown

theorem orderly_of_isAnswer {event : LoginEvent}
    (isAnswer : event.IsAnswer) : flow.Orderly event := by
  cases event <;> trivial

theorem sound_run (sound : flow.Sound servers) {events : List LoginEvent}
    (orderly : Admitted (step servers) Orderly flow events) :
    (run (step servers) flow events).Sound servers :=
  run_invariant (fun _ _ sound orderly => sound.step orderly) sound orderly

theorem sound_answered (sound : flow.Sound servers)
    {answers : List LoginEvent}
    (areAnswers : ∀ answer ∈ answers, answer.IsAnswer) :
    (run (step servers) flow answers).Sound servers := by
  apply sound_run sound
  apply admitted_of_prefixes
  intro early answer isEarly
  apply orderly_of_isAnswer
  exact
    areAnswers answer
      (isEarly.subset (List.mem_append_right early List.mem_cons_self))

/-! ## Calls that are not orderly -/

/-- Some answers break the property. -/
def Breakable (servers : QuickConnectServers Secret Code)
    (flow : QuickConnect Secret Code) : Prop :=
  ∃ answers : List LoginEvent,
    (∀ answer ∈ answers, answer.IsAnswer) ∧
      ¬(run (step servers) flow answers).OneFlow servers

theorem breakable_of_not (broken : ¬flow.OneFlow servers) :
    flow.Breakable servers :=
  ⟨[], fun _ member => absurd member List.not_mem_nil, broken⟩

theorem Breakable.of_answer {answer : LoginEvent}
    (isAnswer : answer.IsAnswer)
    (breakable : (flow.step servers answer).Breakable servers) :
    flow.Breakable servers := by
  obtain ⟨answers, areAnswers, broken⟩ := breakable
  exact
    ⟨answer :: answers, List.forall_mem_cons.mpr ⟨isAnswer, areAnswers⟩,
      broken⟩

/-- A failed call launches a loop as well. -/
theorem initiateFails_shape {call : Nat} {address : String}
    (found : flow.calls.lookup call = some address) :
    (flow.initiateFails call).calls = without call flow.calls ∧
      (flow.initiateFails call).loops =
        flow.loops ++ [(call, .delaying)] := by
  simp [initiateFails, found, launchLoop]

theorem breakable_of_two_loops (two : 2 ≤ flow.loops.length) :
    flow.Breakable servers := by
  apply breakable_of_not
  intro oneFlow
  have oneLoop := oneFlow.oneLoop
  omega

/-- A second flow that is started ends up with a second loop. -/
theorem breakable_initiate (sound : flow.Sound servers)
    (disorderly : ¬flow.Orderly .initiateQuickconnect) :
    (flow.step servers .initiateQuickconnect).Breakable servers := by
  rw [Orderly, Classical.not_imp, Classical.not_imp] at disorderly
  obtain ⟨unknown, given, busy⟩ := disorderly
  obtain ⟨server, selected⟩ := Option.ne_none_iff_exists'.mp given
  obtain ⟨started, same⟩ :
      ∃ started, started = flow.initiateQuickconnect :=
    ⟨_, rfl⟩
  have calls :
      started.calls = flow.calls ++ [(flow.called, server.address)] := by
    simp [same, initiateQuickconnect, unknown, selected]
  have loops : started.loops = flow.loops := by
    simp [same, initiateQuickconnect, unknown, selected]
  rw [step, ← same]
  have atMostOne := sound.atMostOne
  cases waiting : flow.calls with
  | nil =>
      have live : flow.loops ≠ [] := fun none => busy ⟨waiting, none⟩
      have positive := List.length_pos_iff.mpr live
      rw [waiting, List.nil_append] at calls
      have found :
          started.calls.lookup flow.called = some server.address := by
        simp [calls]
      apply Breakable.of_answer
        (show (LoginEvent.initiateFails flow.called).IsAnswer from trivial)
      apply breakable_of_two_loops
      rw [step, (initiateFails_shape found).2, loops, List.length_append,
        List.length_singleton]
      omega
  | cons call others =>
      rw [waiting, List.length_cons] at atMostOne
      obtain rfl := List.eq_nil_of_length_eq_zero (by omega : others.length = 0)
      obtain ⟨number, address⟩ := call
      obtain ⟨numbered, _⟩ :=
        sound.requesting (number, address) (by rw [waiting]; simp)
      have different : flow.called ≠ number := Nat.ne_of_gt numbered
      rw [waiting] at calls
      have first : started.calls.lookup number = some address := by
        simp [calls]
      obtain ⟨callsFailed, loopsFailed⟩ := initiateFails_shape first
      apply Breakable.of_answer
        (show (LoginEvent.initiateFails number).IsAnswer from trivial)
      rw [step]
      have second :
          (started.initiateFails number).calls.lookup flow.called =
            some server.address := by
        rw [callsFailed, calls, List.singleton_append,
          without_pair different]
        simp
      apply Breakable.of_answer
        (show (LoginEvent.initiateFails flow.called).IsAnswer from trivial)
      apply breakable_of_two_loops
      rw [step, (initiateFails_shape second).2, loopsFailed]
      simp

/-- A loop will poll with a secret and sign in to another server than the
one that issued it. -/
structure Misdirected (servers : QuickConnectServers Secret Code)
    (flow : QuickConnect Secret Code) (loop : Nat) (server : Server) :
    Prop where
  selected : flow.viewModel.server = some server
  stored :
    ∃ address number, address ≠ server.address ∧
      flow.viewModel.quickConnectSecret =
        some (servers.secret address number)
  only : flow.loops = [(loop, .delaying)]

/-- The loop polls and is answered that the user has entered the code. -/
theorem Misdirected.breakable (loop : Nat) (server : Server)
    (misdirected : flow.Misdirected servers loop server) :
    flow.Breakable servers := by
  obtain ⟨selected, ⟨address, number, other, stored⟩, only⟩ := misdirected
  have polling :
      flow.delayEnds loop =
        { flow with
          loops :=
            [(loop, .polling server (servers.secret address number))]
          polls :=
            flow.polls ++
              [(flow.viewModel.quickConnectApi,
                servers.secret address number)] } := by
    simp [delayEnds, only, selected, stored]
  have signedIn :
      ((flow.delayEnds loop).pollAuthenticated loop).signIns =
        flow.signIns ++
          [(server.address, servers.secret address number)] := by
    simp [polling, pollAuthenticated]
  apply Breakable.of_answer
    (show (LoginEvent.delayEnds loop).IsAnswer from trivial)
  apply Breakable.of_answer
    (show (LoginEvent.pollAuthenticated loop).IsAnswer from trivial)
  apply breakable_of_not
  intro oneFlow
  obtain ⟨another, same⟩ :=
    oneFlow.signedIn (server.address, servers.secret address number)
      (by rw [step, step, signedIn]; simp)
  exact other (servers.distinct same).1

/-- While a secret is waited for or polled, selecting a server with another
address leads to a sign-in there. -/
theorem breakable_setServer (sound : flow.Sound servers)
    {storedServers : List Server} {id : Option UUID}
    (disorderly : ¬flow.Orderly (.setServer storedServers id)) :
    (flow.step servers (.setServer storedServers id)).Breakable
      servers := by
  simp only [Orderly, not_forall] at disorderly
  obtain ⟨server, found, follows, other⟩ := disorderly
  obtain ⟨exchanged, same⟩ :
      ∃ exchanged,
        exchanged = flow.step servers (.setServer storedServers id) :=
    ⟨_, rfl⟩
  have selected : exchanged.viewModel.server = some server := by
    rw [same]
    exact found
  have elsewhere {address : String} (client : flow.Selected address) :
      address ≠ server.address := by
    rintro rfl
    exact other client.1
  rw [← same]
  rcases follows with busy | ⟨kept, ⟨number, phase⟩, member, goesOn⟩
  · -- The answer to the request launches the loop.
    obtain ⟨⟨number, address⟩, member⟩ :=
      List.exists_mem_of_ne_nil flow.calls busy
    obtain ⟨_, _, client⟩ := sound.requesting _ member
    obtain ⟨only, noLoops⟩ := sound.of_call member
    have lookup : exchanged.calls.lookup number = some address := by
      simp [same, step, only]
    have loops : exchanged.loops = [] := by
      simp [same, step, noLoops]
    apply Breakable.of_answer
      (show (LoginEvent.initiateSucceeds number).IsAnswer from trivial)
    apply Misdirected.breakable number server
    constructor
    · simp [step, initiateSucceeds, lookup, launchLoop, selected]
    · refine ⟨address, exchanged.issued, elsewhere client, ?_⟩
      simp [step, initiateSucceeds, lookup, launchLoop]
    · simp [step, initiateSucceeds, lookup, launchLoop, loops]
  · obtain ⟨secret, stored⟩ := Option.ne_none_iff_exists'.mp kept
    have storedStill :
        exchanged.viewModel.quickConnectSecret = some secret := by
      rw [same]
      exact stored
    obtain ⟨_, only⟩ := sound.of_loop member
    have loops : exchanged.loops = [(number, phase)] := by
      simp [same, step, only]
    cases phase with
    | signingIn =>
        exact absurd rfl goesOn
    | delaying =>
        obtain ⟨address, held⟩ := sound.delaying _ member rfl secret stored
        obtain ⟨issued, _, rfl⟩ := held.issued
        apply Misdirected.breakable number server
        exact
          ⟨selected,
            ⟨address, issued, elsewhere held.selected, storedStill⟩, loops⟩
    | polling first polled =>
        -- The running poll still signs in to the first server.
        obtain ⟨polls, held⟩ := sound.polling _ member first polled rfl
        obtain ⟨issued, _, rfl⟩ := held.issued
        rw [stored] at polls
        obtain rfl := Option.some.inj polls
        apply Breakable.of_answer
          (show (LoginEvent.pollPending number).IsAnswer from trivial)
        apply Misdirected.breakable number server
        constructor
        · simp [step, pollPending, loops, selected]
        · refine ⟨first.address, issued, elsewhere held.selected, ?_⟩
          simp [step, pollPending, loops, storedStill]
        · simp [step, pollPending, loops]

theorem breakable_of_disorderly (sound : flow.Sound servers)
    {event : LoginEvent} (disorderly : ¬flow.Orderly event) :
    (flow.step servers event).Breakable servers := by
  cases event with
  | initiateQuickconnect =>
      exact breakable_initiate sound disorderly
  | setServer storedServers id =>
      exact breakable_setServer sound disorderly
  | _ =>
      exact absurd trivial disorderly

/-- The property holds in every state of a run, whichever answers arrive
afterwards, exactly if every call of the run is orderly. -/
theorem one_flow_iff (servers : QuickConnectServers Secret Code)
    (events : List LoginEvent) :
    (∀ early, early <+: events → ∀ answers : List LoginEvent,
      (∀ answer ∈ answers, answer.IsAnswer) →
        (run (step servers) (run (step servers) created early)
          answers).OneFlow servers) ↔
      Admitted (step servers) Orderly created events := by
  constructor
  · intro safe
    -- The calls before one are orderly, so the invariant holds there.
    suffices orderly :
        ∀ early, early <+: events →
          Admitted (step servers) Orderly created early from
      orderly events List.prefix_rfl
    intro early
    induction early using List.reverseRecOn with
    | nil =>
        intro _
        trivial
    | append_singleton early event inductionHypothesis =>
        intro isEarly
        have before :=
          inductionHypothesis ((List.prefix_append early [event]).trans isEarly)
        have start : created.Sound servers := sound_created
        have sound := sound_run start before
        rw [admitted_append]
        refine ⟨before, ?_, trivial⟩
        by_contra disorderly
        obtain ⟨answers, areAnswers, broken⟩ :=
          breakable_of_disorderly sound disorderly
        have holds := safe (early ++ [event]) isEarly answers areAnswers
        rw [run_append] at holds
        exact broken holds
  · intro orderly early isEarly answers areAnswers
    have sound := sound_run sound_created (orderly.earlier isEarly)
    exact (sound_answered sound areAnswers).oneFlow

def sampleServers : QuickConnectServers (String × Nat) (String × Nat) where
  secret := Prod.mk
  code := id
  distinct := Prod.mk.inj
  ownCode := id

/-- A second call before the answer to the first one: either answer launches
a loop, and both poll with the second secret. -/
theorem second_call_launches_second_loop :
    let flow :=
      run (step sampleServers) created
        [.setServer [sampleServer.asServer ⟨1⟩] (some ⟨1⟩),
          .initiateQuickconnect, .initiateQuickconnect,
          .initiateSucceeds 0, .initiateSucceeds 1]
    flow.loops = [(0, .delaying), (1, .delaying)] ∧
      ¬flow.OneFlow sampleServers := by
  intro flow
  have loops : flow.loops = [(0, .delaying), (1, .delaying)] := by
    decide
  refine ⟨loops, ?_⟩
  intro oneFlow
  have oneLoop := oneFlow.oneLoop
  rw [loops] at oneLoop
  exact absurd oneLoop (by decide)

end JellyfinTv.Startup.QuickConnect
