import JellyfinTv.Auth.FailedWrites

/-!
# The file of the credential store

The store is read from a JSON document with a version and the servers.  A file
that is absent or no JSON object counts as empty, but the parts of the object
are taken for granted: a version that is no primitive, and missing or malformed
servers of the current version, throw.  The serialization library is a
parameter.
-/

namespace JellyfinTv.Auth

open AuthenticationStore

/-- JSON elements.  `JsonNull` is a primitive. -/
inductive JsonElement where
  | primitive (content : String) (isString : Bool)
  | array (elements : List JsonElement)
  | object (content : List (String × JsonElement))

abbrev JsonObject := List (String × JsonElement)

/-- Malformed input, which is also an `IllegalArgumentException`. -/
inductive SerializationException where
  | malformed
  deriving DecidableEq, Repr

inductive LoadException where
  | illegalArgument
  | serialization
  | nullPointer
  deriving DecidableEq, Repr

/-- The functions of the serialization library. -/
structure Json where
  decodeFromStream : List UInt8 → Except SerializationException JsonObject
  encodeToStream : JsonObject → List UInt8
  decodeFromJsonElement : JsonElement → Except SerializationException Servers
  encodeToJsonElement : Servers → JsonElement
  intOrNull : String → Option Int

/-- What opening the file for reading leads to. -/
inductive StoreFile where
  | notFound
  | unreadable
  | content (bytes : List UInt8)
  deriving DecidableEq, Repr

def JsonElement.jsonPrimitive :
    JsonElement → Except LoadException String
  | .primitive content _ => .ok content
  | .array _ | .object _ => .error .illegalArgument

namespace Json

variable (json : Json)

/-- `root["version"]?.jsonPrimitive?.intOrNull`. -/
def version (root : JsonObject) : Except LoadException (Option Int) :=
  match root.lookup "version" with
  | none => .ok none
  | some element =>
      match element.jsonPrimitive with
      | .ok content => .ok (json.intOrNull content)
      | .error exception => .error exception

/-- `json.decodeFromJsonElement(root["servers"]!!)`. -/
def decodeServers (root : JsonObject) : Except LoadException Servers :=
  match root.lookup "servers" with
  | none => .error .nullPointer
  | some element =>
      match json.decodeFromJsonElement element with
      | .ok servers => .ok servers
      | .error _ => .error .serialization

/-- The check of the version. -/
def loadRoot (root : JsonObject) : Except LoadException Servers :=
  match json.version root with
  | .error exception => .error exception
  | .ok (some 1) => .ok fun _ => none
  | .ok (some 2) => json.decodeServers root
  | .ok _ => .ok fun _ => none

def load : StoreFile → Except LoadException Servers
  | .notFound | .unreadable => .ok fun _ => none
  | .content bytes =>
      match json.decodeFromStream bytes with
      | .ok root => json.loadRoot root
      | .error _ => .ok fun _ => none

/-- The document that `write` encodes. -/
def root (servers : Servers) : JsonObject :=
  [("version", .primitive "2" false),
    ("servers", json.encodeToJsonElement servers)]

/-- The file after a write that succeeded. -/
def write (servers : Servers) : StoreFile :=
  .content (json.encodeToStream (json.root servers))

/-- Decoding inverts encoding at the servers. -/
structure Inverts (servers : Servers) : Prop where
  stream :
    json.decodeFromStream (json.encodeToStream (json.root servers)) =
      .ok (json.root servers)
  element :
    json.decodeFromJsonElement (json.encodeToJsonElement servers) =
      .ok servers
  number : json.intOrNull "2" = some 2

/-- The version is missing or a primitive, and servers of the current version
are there and well formed. -/
def WellFormedRoot (root : JsonObject) : Prop :=
  ∀ element, root.lookup "version" = some element →
    ∃ content isString,
      element = .primitive content isString ∧
        (json.intOrNull content = some 2 →
          ∃ serverElement servers,
            root.lookup "servers" = some serverElement ∧
              json.decodeFromJsonElement serverElement = .ok servers)

def Opens : StoreFile → Prop
  | .notFound | .unreadable => True
  | .content bytes =>
      ∀ root, json.decodeFromStream bytes = .ok root →
        json.WellFormedRoot root

variable {json}

theorem decodeServers_returns_iff (root : JsonObject) :
    (∃ servers, json.decodeServers root = .ok servers) ↔
      ∃ element servers,
        root.lookup "servers" = some element ∧
          json.decodeFromJsonElement element = .ok servers := by
  unfold decodeServers
  cases root.lookup "servers" with
  | none =>
      simp
  | some element =>
      cases decoded : json.decodeFromJsonElement element with
      | error exception =>
          simp [decoded]
      | ok servers =>
          simp [decoded]

/-- Only the current version looks at the servers. -/
theorem loadRoot_of_version {root : JsonObject} {number : Option Int}
    (found : json.version root = .ok number) :
    (∃ servers, json.loadRoot root = .ok servers) ↔
      (number = some 2 → ∃ servers, json.decodeServers root = .ok servers) := by
  rw [loadRoot, found]
  split
  · rename_i failed
    cases failed
  · rename_i same
    cases same
    simp
  · rename_i same
    cases same
    simp
  · rename_i other same
    cases same
    refine iff_of_true ⟨_, rfl⟩ ?_
    intro current
    exact absurd current other

theorem loadRoot_returns_iff (root : JsonObject) :
    (∃ servers, json.loadRoot root = .ok servers) ↔
      json.WellFormedRoot root := by
  cases present : root.lookup "version" with
  | none =>
      have found : json.version root = .ok none := by
        rw [version, present]
      rw [loadRoot_of_version found]
      simp [WellFormedRoot, present]
  | some element =>
      cases element with
      | primitive content isString =>
          have found :
              json.version root = .ok (json.intOrNull content) := by
            rw [version, present]
            rfl
          rw [loadRoot_of_version found, decodeServers_returns_iff,
            WellFormedRoot, present]
          constructor
          · rintro current _ ⟨⟩
            exact ⟨content, isString, rfl, current⟩
          · intro wellFormed
            obtain ⟨_, _, ⟨⟩, current⟩ := wellFormed _ rfl
            exact current
      | array elements =>
          have failed : json.loadRoot root = .error .illegalArgument := by
            rw [loadRoot, version, present]
            rfl
          simp [WellFormedRoot, present, failed]
      | object content =>
          have failed : json.loadRoot root = .error .illegalArgument := by
            rw [loadRoot, version, present]
            rfl
          simp [WellFormedRoot, present, failed]

theorem load_returns_iff (file : StoreFile) :
    (∃ servers, json.load file = .ok servers) ↔ json.Opens file := by
  cases file with
  | notFound =>
      exact iff_of_true ⟨_, rfl⟩ trivial
  | unreadable =>
      exact iff_of_true ⟨_, rfl⟩ trivial
  | content bytes =>
      cases decoded : json.decodeFromStream bytes with
      | error exception =>
          simp [load, Opens, decoded]
      | ok root =>
          simp [load, Opens, decoded, loadRoot_returns_iff]

/-- What was written is read back. -/
theorem load_write {servers : Servers} (inverts : json.Inverts servers) :
    json.load (json.write servers) = .ok servers := by
  have found : json.version (json.root servers) = .ok (some 2) := by
    rw [← inverts.number]
    rfl
  have decoded : json.decodeServers (json.root servers) = .ok servers := by
    have located :
        (json.root servers).lookup "servers" =
          some (json.encodeToJsonElement servers) :=
      rfl
    rw [decodeServers, located]
    simp only [inverts.element]
  rw [write, load]
  simp only [inverts.stream]
  rw [loadRoot, found]
  exact decoded

/-- The store opens if and only if the parts of the document that are looked
at are well formed; and what was written is read back. -/
theorem store_opens_iff {servers : Servers}
    (inverts : json.Inverts servers) (file : StoreFile) :
    ((∃ loaded, json.load file = .ok loaded) ↔ json.Opens file) ∧
      json.load (json.write servers) = .ok servers :=
  ⟨load_returns_iff file, load_write inverts⟩

end Json

/-- A store with one server. -/
def homeServers : Servers :=
  Function.update noServers.store ⟨1⟩ (some (plainServer "home"))

def homeElement : JsonElement :=
  .object
    [("00000000-0000-0000-0000-000000000001",
      .object
        [("name", .primitive "home" true),
          ("address", .primitive "" true),
          ("version", .primitive "null" false),
          ("login_disclaimer", .primitive "null" false),
          ("splashscreen_enabled", .primitive "false" false),
          ("setup_completed", .primitive "true" false),
          ("last_used", .primitive "0" false),
          ("last_refreshed", .primitive "0" false),
          ("users", .object [])])]

def homeText : String :=
  "\x7b\"version\":2,\"servers\":\x7b" ++
    "\"00000000-0000-0000-0000-000000000001\":\x7b\"name\":\"home\"," ++
    "\"address\":\"\",\"version\":null,\"login_disclaimer\":null," ++
    "\"splashscreen_enabled\":false,\"setup_completed\":true," ++
    "\"last_used\":0,\"last_refreshed\":0,\"users\":" ++
    "\x7b\x7d\x7d\x7d\x7d"

def versionText : String :=
  "\x7b\"version\":2\x7d"

/-- The library on the document of the store with one server, and on a document
with the version alone. -/
def sampleJson : Json where
  decodeFromStream bytes :=
    if bytes = homeText.toUTF8.data.toList then
      .ok
        [("version", .primitive "2" false), ("servers", homeElement)]
    else if bytes = versionText.toUTF8.data.toList then
      .ok [("version", .primitive "2" false)]
    else
      .error .malformed
  encodeToStream _ := homeText.toUTF8.data.toList
  decodeFromJsonElement
    | .object [(_, .object (("name", .primitive name true) :: _))] =>
        .ok (Function.update noServers.store ⟨1⟩ (some (plainServer name)))
    | .object [] => .ok noServers.store
    | _ => .error .malformed
  encodeToJsonElement _ := homeElement
  intOrNull content := if content = "2" then some 2 else none

theorem home_store_opens :
    ((∃ loaded, sampleJson.load (.content versionText.toUTF8.data.toList) =
        .ok loaded) ↔
      sampleJson.Opens (.content versionText.toUTF8.data.toList)) ∧
      sampleJson.load (sampleJson.write homeServers) = .ok homeServers := by
  have inverts : sampleJson.Inverts homeServers := by
    refine ⟨?_, rfl, rfl⟩
    simp [sampleJson, Json.root]
  exact Json.store_opens_iff inverts (.content versionText.toUTF8.data.toList)

/-- A document without servers crashes the app when the store is opened. -/
theorem missing_servers_throw :
    sampleJson.load (.content versionText.toUTF8.data.toList) =
      .error .nullPointer := by
  have differ :
      versionText.toUTF8.data.toList ≠ homeText.toUTF8.data.toList := by
    decide
  simp only [Json.load, sampleJson, if_neg differ]
  rfl

end JellyfinTv.Auth
