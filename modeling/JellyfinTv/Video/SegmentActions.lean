import JellyfinTv.Library.LinkedMaps
import JellyfinTv.Library.Runs
import JellyfinTv.Library.Texts

/-!
# The actions for media segments

`MediaSegmentRepository` keeps an action for each type of segment and stores
them in one text, `Intro=SKIP,Outro=ASK_TO_SKIP`.  A new repository reads the
text again and leaves out what it does not understand.  The types are those
of the SDK, with the names it gives them.
-/

namespace JellyfinTv.Video

open JellyfinTv.Library

inductive MediaSegmentAction where
  | NOTHING
  | SKIP
  | ASK_TO_SKIP
  deriving DecidableEq, Repr

namespace MediaSegmentAction

def name : MediaSegmentAction → Text
  | NOTHING => "NOTHING".toList
  | SKIP => "SKIP".toList
  | ASK_TO_SKIP => "ASK_TO_SKIP".toList

/-- `valueOf`, or `none` where it throws. -/
def valueOf (text : Text) : Option MediaSegmentAction :=
  [NOTHING, SKIP, ASK_TO_SKIP].find? fun action => action.name = text

theorem valueOf_name (action : MediaSegmentAction) :
    valueOf action.name = some action := by
  cases action <;> decide

theorem comma_notMem_name (action : MediaSegmentAction) :
    ',' ∉ action.name := by
  cases action <;> decide

end MediaSegmentAction

/-- What the repository uses of the SDK's types: their names, which are read
back to the types and have none of the separators, and the supported ones. -/
structure MediaSegmentTypes (MediaSegmentType : Type) where
  serialName : MediaSegmentType → Text
  fromName : Text → Option MediaSegmentType
  SupportedTypes : List MediaSegmentType
  fromName_serialName : ∀ type, fromName (serialName type) = some type
  comma_notMem_serialName : ∀ type, ',' ∉ serialName type
  equals_notMem_serialName : ∀ type, '=' ∉ serialName type

section Repository

variable {MediaSegmentType : Type} [DecidableEq MediaSegmentType]
  (types : MediaSegmentTypes MediaSegmentType)

abbrev MediaTypeActions (MediaSegmentType : Type) :=
  List (MediaSegmentType × MediaSegmentAction)

/-- `"${it.key.serialName}=${it.value.name}"`. -/
def entryText (entry : MediaSegmentType × MediaSegmentAction) : Text :=
  types.serialName entry.1 ++ '=' :: entry.2.name

def toMediaSegmentActionsString
    (mediaTypeActions : MediaTypeActions MediaSegmentType) : Text :=
  [','].intercalate (mediaTypeActions.map (entryText types))

/-- One part of the text, or `none` where reading it throws. -/
def readEntry (part : Text) :
    Option (MediaSegmentType × MediaSegmentAction) :=
  if '=' ∈ part then do
    let type ← types.fromName (before '=' part)
    let action ← MediaSegmentAction.valueOf (behind '=' part)
    return (type, action)
  else none

/-- The entries of the stored text that can be read. -/
def storedEntries (text : Text) : MediaTypeActions MediaSegmentType :=
  (text.splitOn ',').filterMap (readEntry types)

def restoreMediaTypeActions (text : Text) :
    MediaTypeActions MediaSegmentType :=
  putAll [] (storedEntries types text)

/-- The repository with the preference it writes. -/
structure MediaSegmentRepository (MediaSegmentType : Type) where
  mediaSegmentActions : Text
  mediaTypeActions : MediaTypeActions MediaSegmentType

namespace MediaSegmentRepository

/-- A new repository over the stored text. -/
def init (text : Text) : MediaSegmentRepository MediaSegmentType where
  mediaSegmentActions := text
  mediaTypeActions := restoreMediaTypeActions types text

def getDefaultSegmentTypeAction (type : MediaSegmentType)
    (repository : MediaSegmentRepository MediaSegmentType) :
    MediaSegmentAction :=
  if type ∉ types.SupportedTypes then .NOTHING
  else (repository.mediaTypeActions.lookup type).getD .NOTHING

def setDefaultSegmentTypeAction (type : MediaSegmentType)
    (action : MediaSegmentAction)
    (repository : MediaSegmentRepository MediaSegmentType) :
    MediaSegmentRepository MediaSegmentType :=
  if type ∉ types.SupportedTypes then repository
  else
    let mediaTypeActions := put type action repository.mediaTypeActions
    { mediaSegmentActions := toMediaSegmentActionsString types mediaTypeActions
      mediaTypeActions := mediaTypeActions }

/-- Durations are in ticks, ten million a second. -/
def SkipMinDuration : Int :=
  10000000

def AskToSkipMinDuration : Int :=
  30000000

structure MediaSegmentDto (MediaSegmentType : Type) where
  type : MediaSegmentType
  startTicks : Int
  endTicks : Int

def MediaSegmentDto.duration (segment : MediaSegmentDto MediaSegmentType) :
    Int :=
  max (segment.endTicks - segment.startTicks) 0

def getMediaSegmentAction (segment : MediaSegmentDto MediaSegmentType)
    (repository : MediaSegmentRepository MediaSegmentType) :
    MediaSegmentAction :=
  let action := repository.getDefaultSegmentTypeAction types segment.type
  if action = .SKIP ∧ segment.duration < SkipMinDuration then .NOTHING
  else if action = .ASK_TO_SKIP ∧ segment.duration < AskToSkipMinDuration then
    .NOTHING
  else action

inductive Event (MediaSegmentType : Type) where
  | set (type : MediaSegmentType) (action : MediaSegmentAction)
  | restart

def step (repository : MediaSegmentRepository MediaSegmentType) :
    Event MediaSegmentType → MediaSegmentRepository MediaSegmentType
  | .set type action =>
      repository.setDefaultSegmentTypeAction types type action
  | .restart => init types repository.mediaSegmentActions

end MediaSegmentRepository

variable {types}

omit [DecidableEq MediaSegmentType] in
theorem readEntry_entryText
    (entry : MediaSegmentType × MediaSegmentAction) :
    readEntry types (entryText types entry) = some entry := by
  have absent := types.equals_notMem_serialName entry.1
  have member : '=' ∈ entryText types entry := by
    rw [entryText]
    exact List.mem_append_right _ List.mem_cons_self
  rw [readEntry, if_pos member, entryText, before_first absent,
    behind_first absent, types.fromName_serialName,
    MediaSegmentAction.valueOf_name]
  rfl

omit [DecidableEq MediaSegmentType] in
theorem comma_notMem_entryText
    (entry : MediaSegmentType × MediaSegmentAction) :
    ',' ∉ entryText types entry := by
  rw [entryText, List.mem_append, List.mem_cons]
  rintro (name | same | action)
  · exact types.comma_notMem_serialName entry.1 name
  · exact absurd same (by decide)
  · exact entry.2.comma_notMem_name action

omit [DecidableEq MediaSegmentType] in
theorem storedEntries_toString
    {mediaTypeActions : MediaTypeActions MediaSegmentType}
    (nonempty : mediaTypeActions ≠ []) :
    storedEntries types
        (toMediaSegmentActionsString types mediaTypeActions) =
      mediaTypeActions := by
  have parts :
      (toMediaSegmentActionsString types mediaTypeActions).splitOn ',' =
        mediaTypeActions.map (entryText types) := by
    apply List.splitOn_intercalate
    · intro part member
      obtain ⟨entry, _, rfl⟩ := List.mem_map.mp member
      exact comma_notMem_entryText entry
    · simpa using nonempty
  rw [storedEntries, parts, List.filterMap_map]
  have read : readEntry types ∘ entryText types = some :=
    funext readEntry_entryText
  rw [read, List.filterMap_some]

theorem restore_toString
    {mediaTypeActions : MediaTypeActions MediaSegmentType}
    (distinct : (keys mediaTypeActions).Nodup)
    (nonempty : mediaTypeActions ≠ []) :
    restoreMediaTypeActions types
        (toMediaSegmentActionsString types mediaTypeActions) =
      mediaTypeActions := by
  rw [restoreMediaTypeActions, storedEntries_toString nonempty]
  exact putAll_of_nodup distinct

namespace MediaSegmentRepository

variable {repository : MediaSegmentRepository MediaSegmentType}

/-- The stored text leads to the actions in memory. -/
structure Restorable (types : MediaSegmentTypes MediaSegmentType)
    (repository : MediaSegmentRepository MediaSegmentType) : Prop where
  distinct : (keys repository.mediaTypeActions).Nodup
  restored :
    restoreMediaTypeActions types repository.mediaSegmentActions =
      repository.mediaTypeActions

theorem restorable_init (text : Text) :
    Restorable types (init types text) where
  distinct := nodup_keys_putAll List.nodup_nil
  restored := rfl

theorem put_ne_nil {map : MediaTypeActions MediaSegmentType}
    {type : MediaSegmentType} {action : MediaSegmentAction} :
    put type action map ≠ [] := by
  cases map with
  | nil =>
      exact List.cons_ne_nil _ _
  | cons entry rest =>
      rw [put]
      split <;> exact List.cons_ne_nil _ _

namespace Restorable

theorem restart (restorable : Restorable types repository) :
    repository.step types .restart = repository := by
  rw [step, init, restorable.restored]

theorem step (restorable : Restorable types repository)
    (event : Event MediaSegmentType) :
    Restorable types (repository.step types event) := by
  cases event with
  | restart =>
      rw [restorable.restart]
      exact restorable
  | set type action =>
      rw [MediaSegmentRepository.step, setDefaultSegmentTypeAction]
      split
      · exact restorable
      · have distinct :
            (keys (put type action repository.mediaTypeActions)).Nodup :=
          nodup_keys_put restorable.distinct
        exact ⟨distinct, restore_toString distinct put_ne_nil⟩

end Restorable

/-- What the settings are for: an action for each type. -/
def choose (types : MediaSegmentTypes MediaSegmentType)
    (actions : MediaSegmentType → MediaSegmentAction) :
    Event MediaSegmentType → MediaSegmentType → MediaSegmentAction
  | .set type action =>
      if type ∈ types.SupportedTypes then
        Function.update actions type action
      else actions
  | .restart => actions

/-- The last entry of a supported type counts. -/
def storedAction (types : MediaSegmentTypes MediaSegmentType) (text : Text)
    (type : MediaSegmentType) : MediaSegmentAction :=
  if type ∈ types.SupportedTypes then
    ((storedEntries types text).reverse.lookup type).getD .NOTHING
  else .NOTHING

theorem getDefaultSegmentTypeAction_init (text : Text)
    (type : MediaSegmentType) :
    (init types text).getDefaultSegmentTypeAction types type =
      storedAction types text type := by
  rw [getDefaultSegmentTypeAction, storedAction, init,
    restoreMediaTypeActions, lookup_putAll]
  by_cases supported : type ∈ types.SupportedTypes
  · rw [if_neg (not_not.mpr supported), if_pos supported, List.lookup_nil]
    cases (storedEntries types text).reverse.lookup type <;> rfl
  · rw [if_pos supported, if_neg supported]

theorem getDefaultSegmentTypeAction_step
    (restorable : Restorable types repository)
    (event : Event MediaSegmentType) :
    (fun type =>
        (repository.step types event).getDefaultSegmentTypeAction types
          type) =
      choose types
        (fun type => repository.getDefaultSegmentTypeAction types type)
        event := by
  cases event with
  | restart =>
      rw [restorable.restart]
      rfl
  | set type action =>
      rw [step, setDefaultSegmentTypeAction, choose]
      by_cases supported : type ∈ types.SupportedTypes
      · rw [if_neg (not_not.mpr supported), if_pos supported]
        funext other
        rw [getDefaultSegmentTypeAction, lookup_put]
        by_cases same : other = type
        · subst same
          rw [if_neg (not_not.mpr supported), if_pos rfl,
            Function.update_self, Option.getD_some]
        · rw [if_neg same, Function.update_of_ne same,
            getDefaultSegmentTypeAction]
      · rw [if_pos supported, if_neg supported]

theorem getMediaSegmentAction_bounds
    (segment : MediaSegmentDto MediaSegmentType) :
    (repository.getMediaSegmentAction types segment = .SKIP →
        segment.type ∈ types.SupportedTypes ∧
          SkipMinDuration ≤ segment.duration) ∧
      (repository.getMediaSegmentAction types segment = .ASK_TO_SKIP →
        segment.type ∈ types.SupportedTypes ∧
          AskToSkipMinDuration ≤ segment.duration) := by
  have supported :
      repository.getDefaultSegmentTypeAction types segment.type ≠ .NOTHING →
        segment.type ∈ types.SupportedTypes := by
    intro acts
    by_contra unsupported
    exact acts (if_pos unsupported)
  rw [getMediaSegmentAction]
  cases action :
      repository.getDefaultSegmentTypeAction types segment.type with
  | NOTHING =>
      simp
  | SKIP =>
      have known := supported (by rw [action]; decide)
      by_cases short : segment.duration < SkipMinDuration
      · simp [short]
      · simp [short, known, Int.not_lt.mp short]
  | ASK_TO_SKIP =>
      have known := supported (by rw [action]; decide)
      by_cases short : segment.duration < AskToSkipMinDuration
      · simp [short]
      · simp [short, known, Int.not_lt.mp short]

/-- From any stored text, damaged or not, and over every order of changes and
restarts, the actions are the ones last chosen, or else the last ones that
can be read from the text.  A restart changes nothing, unsupported types have
no action, and segments that are too short are left alone. -/
theorem segment_actions_survive_restarts (text : Text)
    (events : List (Event MediaSegmentType)) :
    (fun type =>
        (run (step types) (init types text)
          events).getDefaultSegmentTypeAction types type) =
        run (choose types) (storedAction types text) events ∧
      (run (step types) (init types text) (events ++ [.restart]) =
        run (step types) (init types text) events) ∧
        ∀ segment,
          ((run (step types) (init types text) events).getMediaSegmentAction
                types segment = .SKIP →
              segment.type ∈ types.SupportedTypes ∧
                SkipMinDuration ≤ segment.duration) ∧
            ((run (step types) (init types text)
                  events).getMediaSegmentAction types segment =
                .ASK_TO_SKIP →
              segment.type ∈ types.SupportedTypes ∧
                AskToSkipMinDuration ≤ segment.duration) := by
  have simulated :
      ∀ (repository : MediaSegmentRepository MediaSegmentType) actions event,
        (Restorable types repository ∧
            (fun type =>
              repository.getDefaultSegmentTypeAction types type) = actions) →
          True →
            Restorable types (repository.step types event) ∧
              (fun type =>
                (repository.step types event).getDefaultSegmentTypeAction
                  types type) = choose types actions event := by
    rintro repository _ event ⟨restorable, rfl⟩ _
    exact
      ⟨restorable.step event,
        getDefaultSegmentTypeAction_step restorable event⟩
  have started :
      (fun type =>
          (init types text).getDefaultSegmentTypeAction types type) =
        storedAction types text :=
    funext (getDefaultSegmentTypeAction_init text)
  have permitted :
      Admitted (step types) (fun _ _ => True) (init types text) events :=
    admitted_of_forall fun _ _ => trivial
  obtain ⟨restorable, chosen⟩ :=
    run_simulation simulated ⟨restorable_init text, started⟩ permitted
  refine ⟨chosen, ?_, fun segment => getMediaSegmentAction_bounds segment⟩
  rw [run_append]
  exact restorable.restart

end MediaSegmentRepository

end Repository

inductive MediaSegmentType where
  | UNKNOWN
  | COMMERCIAL
  | PREVIEW
  | RECAP
  | OUTRO
  | INTRO
  deriving DecidableEq, Repr

namespace MediaSegmentType

def serialName : MediaSegmentType → Text
  | UNKNOWN => "Unknown".toList
  | COMMERCIAL => "Commercial".toList
  | PREVIEW => "Preview".toList
  | RECAP => "Recap".toList
  | OUTRO => "Outro".toList
  | INTRO => "Intro".toList

def entries : List MediaSegmentType :=
  [UNKNOWN, COMMERCIAL, PREVIEW, RECAP, OUTRO, INTRO]

def types : MediaSegmentTypes MediaSegmentType where
  serialName := serialName
  fromName text := entries.find? fun type => type.serialName = text
  SupportedTypes := [INTRO, OUTRO, PREVIEW, RECAP, COMMERCIAL]
  fromName_serialName type := by
    cases type <;> decide
  comma_notMem_serialName type := by
    cases type <;> decide
  equals_notMem_serialName type := by
    cases type <;> decide

/-- The default value of the preference. -/
def defaultValue : Text :=
  toMediaSegmentActionsString types
    [(INTRO, .ASK_TO_SKIP), (OUTRO, .ASK_TO_SKIP)]

example :
    storedEntries types "Intro=SKIP,Outro,Recap=skip,Unknown=SKIP,=".toList =
      [(INTRO, .SKIP), (UNKNOWN, .SKIP)] := by
  decide

end MediaSegmentType

end JellyfinTv.Video
