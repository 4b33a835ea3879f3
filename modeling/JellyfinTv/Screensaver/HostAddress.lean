import JellyfinTv.Library.Texts

/-!
# The host of the screensaver

`MainActivity` takes the address of the server apart to find the host and
the port that the images of the screensaver come from.  Everything behind
the first colon is read as the port, and a base path is not taken off.
-/

namespace JellyfinTv.Screensaver

open JellyfinTv.Library

inductive Scheme where
  | http
  | https
  deriving DecidableEq, Repr

def Scheme.text : Scheme → Text
  | .http => "http://".toList
  | .https => "https://".toList

/-- The field of the activity, and what the work manager was started
with. -/
structure MainActivity where
  serverScreensaverHostUrlPrefix : Text
  startedWorkManagers : List (Text × Int)
  deriving DecidableEq, Repr

namespace MainActivity

def created : MainActivity where
  serverScreensaverHostUrlPrefix := "127.0.0.1:8097".toList
  startedWorkManagers := []

/-- The scheme is removed wherever it occurs if the address starts with
it. -/
def withoutScheme (scheme : Scheme) (address : Text) : Text :=
  if scheme.text.isPrefixOf address then replace scheme.text [] address
  else address

/-- The port of an address with a colon.  `toInt` throws where no number is
read, and the sum wraps. -/
def portBehind (address : Text) : Option Int :=
  (toIntOrNull (behind ':' address)).map fun port =>
    (port + 1).bmod 4294967296

/-- The address and the port that `gqCustomStartWorkManager` computes, none
for an exception. -/
def hostAndPort (address : Text) : Option (Text × Int) :=
  let address := withoutScheme .http (withoutScheme .https address)
  if ':' ∈ address then
    (portBehind address).map fun port => (before ':' address, port)
  else
    some (address, 8089)

/-- What a session does whose server has the address. -/
def gqCustomStartWorkManager (activity : MainActivity)
    (serverAddress : Option Text) : Option MainActivity :=
  match serverAddress with
  | none => some activity
  | some serverAddress =>
      (hostAndPort serverAddress).map fun (address, port) =>
        { activity with
          serverScreensaverHostUrlPrefix :=
            "http://".toList ++ address ++ ":".toList ++
              (toString port).toList
          startedWorkManagers :=
            activity.startedWorkManagers ++ [(address, port)] }

end MainActivity

/-- The text does not end a part of an address. -/
def Plain (text : Text) : Prop :=
  ∀ char ∈ text, char ≠ ':' ∧ char ≠ '/'

instance (text : Text) : Decidable (Plain text) :=
  List.decidableBAll (fun char => char ≠ ':' ∧ char ≠ '/') text

/-- A name or an IPv4 address, or an IPv6 address in brackets. -/
inductive Host where
  | named (name : Text) (nonempty : name ≠ []) (plain : Plain name)
  | bracketed (address : Text) (colon : ':' ∈ address)

def Host.text : Host → Text
  | .named name _ _ => name
  | .bracketed address _ => '[' :: address ++ [']']

/-- The decimal digits of a port. -/
structure Port where
  digits : List (Fin 10)
  nonempty : digits ≠ []

def Port.number (port : Port) : Nat :=
  decimalFrom 0 port.digits

def Port.text (port : Port) : Text :=
  port.digits.map digitChar

/-- The path is what follows the slash. -/
structure ServerAddress where
  scheme : Scheme
  host : Host
  port : Option Port
  path : Option Text

namespace ServerAddress

def portText : Option Port → Text
  | none => []
  | some port => ':' :: port.text

def pathText : Option Text → Text
  | none => []
  | some path => '/' :: path

def text (address : ServerAddress) : Text :=
  address.scheme.text ++
    (address.host.text ++
      (portText address.port ++ pathText address.path))

/-- The host, and the port behind the one of the server. -/
def derived (address : ServerAddress) : Text × Int :=
  (address.host.text,
    match address.port with
    | none => 8089
    | some port => port.number + 1)

/-- A host without brackets, no path, and a port whose successor is an
`Int`. -/
structure Simple (address : ServerAddress) : Prop where
  named : ∃ name nonempty plain, address.host = .named name nonempty plain
  noPath : address.path = none
  portBelow : ∀ port ∈ address.port, port.number < 2147483647

end ServerAddress

section WithoutScheme

open ServerAddress

/-- What may follow a host. -/
inductive FollowsHost : Text → Prop where
  | nothing : FollowsHost []
  | path (rest : Text) : FollowsHost ('/' :: rest)
  | port (value : Fin 10) (rest : Text) :
      FollowsHost (':' :: digitChar value :: rest)

theorem followsHost (port : Option Port) (path : Option Text) :
    FollowsHost (portText port ++ pathText path) := by
  cases port with
  | none =>
      cases path with
      | none =>
          exact .nothing
      | some path =>
          exact .path path
  | some port =>
      obtain ⟨value, others, digits⟩ :=
        List.exists_cons_of_ne_nil port.nonempty
      rw [portText, Port.text, digits]
      exact .port value _

theorem Scheme.exists_word (scheme : Scheme) :
    ∃ word, Plain word ∧ scheme.text = word ++ [':', '/', '/'] := by
  cases scheme with
  | http =>
      exact ⟨"http".toList, by decide, rfl⟩
  | https =>
      exact ⟨"https".toList, by decide, rfl⟩

/-- A scheme does not occur in a host and what follows it: behind its colon
there is a slash. -/
theorem Scheme.not_prefix_of_plain (scheme : Scheme) {front rest : Text}
    (plain : Plain front) (follows : FollowsHost rest) :
    ¬scheme.text <+: front ++ rest := by
  obtain ⟨word, wordPlain, shape⟩ := scheme.exists_word
  rw [shape]
  rintro ⟨more, equal⟩
  rw [List.append_assoc] at equal
  have split :
      ∃ remaining, Plain remaining ∧
        rest = remaining ++ ':' :: '/' :: '/' :: more := by
    rcases List.append_eq_append_iff.mp equal with
      ⟨others, rfl, behind⟩ | ⟨others, rfl, behind⟩
    · cases others with
      | nil =>
          refine ⟨[], ?_, behind.symm⟩
          intro char member
          cases member
      | cons char others =>
          rw [List.cons_append] at behind
          have colon : ':' = char := (List.cons.inj behind).1
          have member : char ∈ word ++ char :: others :=
            List.mem_append_right word List.mem_cons_self
          exact absurd colon.symm (plain char member).1
    · refine ⟨others, ?_, behind⟩
      intro char member
      exact wordPlain char (List.mem_append_right front member)
  obtain ⟨remaining, remainingPlain, same⟩ := split
  cases remaining with
  | nil =>
      cases follows with
      | nothing =>
          cases same
      | path others =>
          have slash := (List.cons.inj same).1
          exact absurd slash (by decide)
      | port value others =>
          have digit := (List.cons.inj (List.cons.inj same).2).1
          exact digitChar_ne (by decide) value digit
  | cons char remaining =>
      have here := remainingPlain char List.mem_cons_self
      cases follows with
      | nothing =>
          cases same
      | path others =>
          exact here.2 (List.cons.inj same).1.symm
      | port value others =>
          exact here.1 (List.cons.inj same).1.symm

/-- A host and a port are kept, and so is the slash of a path. -/
theorem replace_body (scheme : Scheme) {name : Text} (plain : Plain name)
    (port : Option Port) (path : Option Text) :
    replace scheme.text []
        (name ++ (portText port ++ pathText path)) =
      name ++
        (portText port ++
          pathText (path.map (replace scheme.text []))) := by
  have starts : ∃ others, scheme.text = 'h' :: others := by
    cases scheme <;> exact ⟨_, rfl⟩
  obtain ⟨others, shape⟩ := starts
  have other {char : Char} {rest : Text} (different : 'h' ≠ char) :
      ¬scheme.text <+: char :: rest := by
    rw [shape]
    intro begins
    exact different (List.cons_prefix_cons.mp begins).1
  rw [replace_append_of_absent, replace_append_of_absent]
  · cases path with
    | none =>
        rfl
    | some path =>
        rw [pathText, replace_cons_of_absent (other (by decide))]
        rfl
  · intro tail nonempty suffix
    obtain ⟨char, rest, rfl⟩ := List.exists_cons_of_ne_nil nonempty
    apply other
    rintro rfl
    have member := suffix.subset List.mem_cons_self
    cases port with
    | none =>
        cases member
    | some port =>
        rcases List.mem_cons.mp member with colon | digit
        · exact absurd colon (by decide)
        · obtain ⟨value, _, same⟩ := List.mem_map.mp digit
          exact digitChar_ne (by decide) value same
  · intro tail _ suffix
    apply scheme.not_prefix_of_plain _ (followsHost port path)
    intro char member
    exact plain char (suffix.subset member)

theorem withoutScheme_text (address : ServerAddress) {name : Text}
    (plain : Plain name) (host : address.host.text = name) :
    MainActivity.withoutScheme .http
        (MainActivity.withoutScheme .https address.text) =
      name ++
        (portText address.port ++
          pathText
            (address.path.map (replace address.scheme.text []))) := by
  have removed (scheme : Scheme) :
      MainActivity.withoutScheme scheme
          (scheme.text ++
            (name ++
              (portText address.port ++ pathText address.path))) =
        name ++
          (portText address.port ++
            pathText (address.path.map (replace scheme.text []))) := by
    have nonempty : scheme.text ≠ [] := by
      cases scheme <;> decide
    have begins :
        scheme.text.isPrefixOf
            (scheme.text ++
              (name ++
                (portText address.port ++ pathText address.path))) =
          true :=
      List.isPrefixOf_iff_prefix.mpr (List.prefix_append _ _)
    rw [MainActivity.withoutScheme, if_pos begins,
      replace_append_self nonempty, List.nil_append,
      replace_body scheme plain]
  rw [text, host]
  cases address.scheme with
  | http =>
      have other :
          MainActivity.withoutScheme .https
              (Scheme.http.text ++
                (name ++
                  (portText address.port ++ pathText address.path))) =
            Scheme.http.text ++
              (name ++ (portText address.port ++ pathText address.path)) :=
        rfl
      rw [other, removed .http]
  | https =>
      rw [removed .https, MainActivity.withoutScheme, if_neg]
      rw [List.isPrefixOf_iff_prefix]
      exact
        Scheme.http.not_prefix_of_plain plain (followsHost address.port _)

end WithoutScheme

namespace MainActivity

open ServerAddress

/-- No colon is left in the address, so an IPv6 address is never derived. -/
theorem notMem_of_hostAndPort {address host : Text} {port : Int}
    (computed : hostAndPort address = some (host, port)) :
    ':' ∉ host := by
  simp only [hostAndPort] at computed
  split at computed
  next member =>
    obtain ⟨number, _, same⟩ := Option.map_eq_some_iff.mp computed
    obtain ⟨rfl, rfl⟩ := Prod.mk.inj same
    exact notMem_before member
  next absent =>
    obtain ⟨rfl, rfl⟩ := Prod.mk.inj (Option.some.inj computed)
    exact absent

theorem colon_notMem {name : Text} (plain : Plain name) : ':' ∉ name :=
  fun member => (plain ':' member).1 rfl

section Stripped

variable {address : Text}

theorem hostAndPort_of_colon {front rest : Text} (absent : ':' ∉ front)
    (stripped :
      withoutScheme .http (withoutScheme .https address) =
        front ++ ':' :: rest) :
    hostAndPort address =
      (toIntOrNull rest).map fun port =>
        (front, (port + 1).bmod 4294967296) := by
  rw [hostAndPort, stripped,
    if_pos (List.mem_append_right front List.mem_cons_self),
    before_first absent, portBehind, behind_first absent, Option.map_map]
  rfl

theorem hostAndPort_of_notMem {body : Text} (absent : ':' ∉ body)
    (stripped :
      withoutScheme .http (withoutScheme .https address) = body) :
    hostAndPort address = some (body, 8089) := by
  rw [hostAndPort, stripped, if_neg absent]

end Stripped

/-- The address of a host without a path. -/
theorem hostAndPort_of_noPath (address : ServerAddress) {name : Text}
    (plain : Plain name) (host : address.host.text = name)
    (noPath : address.path = none) :
    hostAndPort address.text =
      match address.port with
      | none => some (name, 8089)
      | some port =>
          (inInt port.number).map fun number =>
            (name, (number + 1).bmod 4294967296) := by
  have absent := colon_notMem plain
  have stripped := withoutScheme_text address plain host
  rw [noPath, Option.map_none, pathText, List.append_nil] at stripped
  cases given : address.port with
  | none =>
      rw [given, portText, List.append_nil] at stripped
      exact hostAndPort_of_notMem absent stripped
  | some port =>
      rw [given, portText] at stripped
      rw [hostAndPort_of_colon absent stripped, Port.text,
        toIntOrNull_map_digitChar port.nonempty]
      rfl

/-- The host of an address with a path is not derived: the path is taken for
a part of it, or read as a part of the port. -/
theorem hostAndPort_of_path (address : ServerAddress) {name path : Text}
    (plain : Plain name) (host : address.host.text = name)
    (found : address.path = some path) (port : Int) :
    hostAndPort address.text ≠ some (name, port) := by
  have absent := colon_notMem plain
  have stripped := withoutScheme_text address plain host
  rw [found, Option.map_some, pathText] at stripped
  generalize replace address.scheme.text [] path = rest at stripped
  cases given : address.port with
  | none =>
      rw [given, portText, List.nil_append] at stripped
      have longer (others : Text) (port' : Int) :
          some (name ++ '/' :: others, port') ≠ some (name, port) := by
        intro same
        have length :=
          congrArg List.length (Prod.mk.inj (Option.some.inj same)).1
        rw [List.length_append, List.length_cons] at length
        omega
      by_cases member : ':' ∈ rest
      · obtain ⟨first, others, rfl, firstAbsent⟩ := exists_first member
        have frontAbsent : ':' ∉ name ++ '/' :: first := by
          rw [List.mem_append, List.mem_cons, not_or, not_or]
          exact ⟨absent, by decide, firstAbsent⟩
        rw [← List.cons_append, ← List.append_assoc] at stripped
        rw [hostAndPort_of_colon frontAbsent stripped, Ne,
          Option.map_eq_some_iff]
        rintro ⟨number, _, same⟩
        exact longer first _ (congrArg some same)
      · have bodyAbsent : ':' ∉ name ++ '/' :: rest := by
          rw [List.mem_append, List.mem_cons, not_or, not_or]
          exact ⟨absent, by decide, member⟩
        rw [hostAndPort_of_notMem bodyAbsent stripped]
        exact longer rest 8089
  | some given' =>
      have unread :
          toIntOrNull (given'.text ++ '/' :: rest) = none :=
        toIntOrNull_append_of_mem given'.nonempty List.mem_cons_self
          (by decide)
      rw [given, portText, List.cons_append] at stripped
      rw [hostAndPort_of_colon absent stripped, unread, Option.map_none]
      rintro ⟨⟩

/-- The successor of a port is derived unless the `Int` wraps or is not
read. -/
theorem map_inInt_eq_iff (name : Text) (number : Nat) :
    ((inInt number).map fun number =>
        (name, (number + 1).bmod 4294967296)) =
        some (name, (number : Int) + 1) ↔
      number < 2147483647 := by
  rw [inInt]
  split
  · rw [Option.map_some, Option.some.injEq, Prod.mk.injEq, Int.bmod_def]
    simp only [true_and]
    omega
  · rw [Option.map_none]
    constructor
    · rintro ⟨⟩
    · omega

/-- The host and the port are derived exactly from the addresses that have a
host without brackets, no path, and no port above 2147483646. -/
theorem hostAndPort_iff (address : ServerAddress) :
    hostAndPort address.text = some address.derived ↔ address.Simple := by
  cases host : address.host with
  | bracketed literal colon =>
      apply iff_of_false
      · intro computed
        apply notMem_of_hostAndPort computed
        rw [host, Host.text]
        exact
          List.mem_append_left [']'] (List.mem_cons_of_mem '[' colon)
      · rintro ⟨⟨name, nonempty, plain, named⟩, _, _⟩
        rw [host] at named
        cases named
  | named name nonempty plain =>
      have same : address.host.text = name := by
        rw [host]
        rfl
      cases path : address.path with
      | some path =>
          apply iff_of_false
          · rw [derived, same]
            exact hostAndPort_of_path address plain same path _
          · rintro ⟨_, noPath, _⟩
            rw [path] at noPath
            cases noPath
      | none =>
          have simple :
              address.Simple ↔
                ∀ port ∈ address.port, port.number < 2147483647 :=
            ⟨Simple.portBelow, fun below =>
              ⟨⟨name, nonempty, plain, host⟩, path, below⟩⟩
          rw [simple, hostAndPort_of_noPath address plain same path,
            derived, same]
          cases address.port with
          | none =>
              apply iff_of_true rfl
              intro port given
              cases given
          | some port =>
              simp only [Option.mem_some_iff, forall_eq']
              exact map_inInt_eq_iff name port.number

/-- The work manager is started with the host of a simple address. -/
theorem gqCustomStartWorkManager_of_simple {address : ServerAddress}
    (simple : address.Simple) (activity : MainActivity) :
    ∃ started,
      activity.gqCustomStartWorkManager (some address.text) =
          some started ∧
        started.startedWorkManagers =
          activity.startedWorkManagers ++ [address.derived] := by
  simp only [gqCustomStartWorkManager, (hostAndPort_iff address).mpr simple]
  exact ⟨_, rfl, rfl⟩

/-- A server behind a base path. -/
def basePathAddress : ServerAddress where
  scheme := .http
  host := .named "tv".toList (by decide) (by decide)
  port := some ⟨[8, 0, 9, 6], by decide⟩
  path := some "jellyfin".toList

theorem base_path_throws :
    basePathAddress.text = "http://tv:8096/jellyfin".toList ∧
      hostAndPort basePathAddress.text = none ∧
        hostAndPort basePathAddress.text ≠ some basePathAddress.derived :=
  by
  have throws : hostAndPort basePathAddress.text = none := by
    decide
  refine ⟨by decide, throws, ?_⟩
  rw [throws]
  rintro ⟨⟩

end MainActivity

end JellyfinTv.Screensaver
