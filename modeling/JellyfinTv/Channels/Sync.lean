import JellyfinTv.Channels.Worker

/-!
# The home screen follows the server

After a run of the worker, the channels have the items of the answers and the
programs to watch next are those of the server.  The app never loses track of
a channel, so that nothing is left of it once the integration is disabled.
-/

namespace JellyfinTv.Channels.HomeScreen

open JellyfinTv.Library

variable {UUID Image Date : Type} {screen : HomeScreen}

/-- Every channel has a name in the preferences, different names have
different channels, programs have a channel, and rows are numbered. -/
structure Tracked (screen : HomeScreen) : Prop where
  named :
    ∀ channel ∈ screen.channels,
      ∃ name, screen.channelStore.lookup name = some channel.id
  injective :
    ∀ first second id,
      screen.channelStore.lookup first = some id →
        screen.channelStore.lookup second = some id → first = second
  earlier :
    ∀ name id, screen.channelStore.lookup name = some id → id < screen.nextRow
  placed :
    ∀ program ∈ screen.previewPrograms,
      ∃ channel ∈ screen.channels, channel.id = program.channelId
  rows : (screen.watchNextPrograms.map WatchNextRow.id).Nodup
  numbered : ∀ row ∈ screen.watchNextPrograms, row.id < screen.nextRow

theorem tracked_created : Tracked created where
  named := by
    intro channel member
    cases member
  injective := by
    intro first second id found
    cases found
  earlier := by
    intro name id found
    cases found
  placed := by
    intro program member
    cases member
  rows := List.nodup_nil
  numbered := by
    intro row member
    cases member

theorem Tracked.updateChannel (tracked : screen.Tracked) (id : Nat)
    (displayName : Text) : (screen.updateChannel id displayName).Tracked := by
  have ids :
      ∀ channel : Channel,
        (if channel.id = id then ⟨id, displayName⟩ else channel : Channel).id =
          channel.id := by
    intro channel
    split
    · rename_i same
      exact same.symm
    · rfl
  refine
    { named := ?_
      injective := tracked.injective
      earlier := tracked.earlier
      placed := ?_
      rows := tracked.rows
      numbered := tracked.numbered }
  · intro channel member
    obtain ⟨old, stored, rfl⟩ := List.mem_map.mp member
    rw [ids]
    exact tracked.named old stored
  · intro program member
    obtain ⟨channel, stored, same⟩ := tracked.placed program member
    exact ⟨_, List.mem_map_of_mem stored, (ids channel).trans same⟩

/-- A channel is updated if it is there; else one is inserted, or the name is
forgotten. -/
theorem getChannelUri_cases (screen : HomeScreen)
    (definition : ChannelDefinition) (accepted : Bool) :
    (∃ channel ∈ screen.channels,
      screen.channelStore.lookup definition.name = some channel.id ∧
        screen.getChannelUri definition accepted =
          (some channel.id,
            screen.updateChannel channel.id definition.displayName)) ∨
    (∀ channel ∈ screen.channels,
        screen.channelStore.lookup definition.name ≠ some channel.id) ∧
      screen.getChannelUri definition accepted =
        if accepted then
          (some screen.nextRow, screen.insertChannel definition)
        else
          (none, screen.forgetChannel definition.name) := by
  unfold getChannelUri
  dsimp only
  split
  · rename_i id stored
    left
    obtain ⟨found, there⟩ := Option.filter_eq_some_iff.mp stored
    obtain ⟨channel, member, same⟩ := List.any_eq_true.mp there
    rw [decide_eq_true_iff] at same
    subst same
    exact ⟨channel, member, found, rfl⟩
  · rename_i missing
    right
    refine ⟨?_, rfl⟩
    intro channel member found
    have absent := Option.filter_eq_none_iff.mp missing channel.id found
    refine absent (List.any_eq_true.mpr ⟨channel, member, ?_⟩)
    exact decide_eq_true rfl

theorem Tracked.insertChannel (tracked : screen.Tracked)
    {definition : ChannelDefinition}
    (gone :
      ∀ channel ∈ screen.channels,
        screen.channelStore.lookup definition.name ≠ some channel.id) :
    (screen.insertChannel definition).Tracked := by
  have found (name : Text) :
      (screen.insertChannel definition).channelStore.lookup name =
        if name = definition.name then some screen.nextRow
        else screen.channelStore.lookup name :=
    lookup_put name
  refine
    { named := ?_
      injective := ?_
      earlier := ?_
      placed := ?_
      rows := tracked.rows
      numbered := ?_ }
  · intro channel member
    rcases List.mem_append.mp member with old | new
    · obtain ⟨name, stored⟩ := tracked.named channel old
      refine ⟨name, ?_⟩
      rw [found, if_neg, stored]
      rintro rfl
      exact gone channel old stored
    · rw [List.mem_singleton.mp new]
      exact ⟨definition.name, (found _).trans (if_pos rfl)⟩
  · intro first second id firstFound secondFound
    rw [found] at firstFound secondFound
    split at firstFound
    · rename_i firstNew
      cases firstFound
      split at secondFound
      · rename_i secondNew
        rw [firstNew, secondNew]
      · exact absurd (tracked.earlier second _ secondFound) (by omega)
    · split at secondFound
      · cases secondFound
        exact absurd (tracked.earlier first _ firstFound) (by omega)
      · exact tracked.injective first second id firstFound secondFound
  · intro name id stored
    rw [found] at stored
    change id < screen.nextRow + 1
    split at stored
    · cases stored
      omega
    · have := tracked.earlier name id stored
      omega
  · intro program member
    obtain ⟨channel, stored, same⟩ := tracked.placed program member
    exact ⟨channel, List.mem_append_left _ stored, same⟩
  · intro row member
    change row.id < screen.nextRow + 1
    have := tracked.numbered row member
    omega

theorem Tracked.forgetChannel (tracked : screen.Tracked)
    {definition : ChannelDefinition}
    (gone :
      ∀ channel ∈ screen.channels,
        screen.channelStore.lookup definition.name ≠ some channel.id) :
    (screen.forgetChannel definition.name).Tracked := by
  have found (name : Text) :
      (screen.forgetChannel definition.name).channelStore.lookup name =
        if name = definition.name then none
        else screen.channelStore.lookup name :=
    lookup_filter_ne name
  refine
    { named := ?_
      injective := ?_
      earlier := ?_
      placed := tracked.placed
      rows := tracked.rows
      numbered := tracked.numbered }
  · intro channel member
    obtain ⟨name, stored⟩ := tracked.named channel member
    refine ⟨name, ?_⟩
    rw [found, if_neg, stored]
    rintro rfl
    exact gone channel member stored
  · intro first second id firstFound secondFound
    rw [found] at firstFound secondFound
    split at firstFound
    · cases firstFound
    · split at secondFound
      · cases secondFound
      · exact tracked.injective first second id firstFound secondFound
  · intro name id stored
    rw [found] at stored
    split at stored
    · cases stored
    · exact tracked.earlier name id stored

theorem Tracked.getChannelUri (tracked : screen.Tracked)
    (definition : ChannelDefinition) (accepted : Bool) :
    (screen.getChannelUri definition accepted).2.Tracked := by
  rcases screen.getChannelUri_cases definition accepted with
    ⟨channel, -, -, same⟩ | ⟨gone, same⟩
  · rw [same]
    exact tracked.updateChannel channel.id definition.displayName
  · rw [same]
    split
    · exact tracked.insertChannel gone
    · exact tracked.forgetChannel gone

theorem Tracked.getChannelUris (accepted : Text → Bool)
    (definitions : List ChannelDefinition) (tracked : screen.Tracked) :
    (HomeScreen.getChannelUris accepted definitions screen).2.Tracked := by
  induction definitions generalizing screen with
  | nil =>
      exact tracked
  | cons definition rest inductionHypothesis =>
      exact
        inductionHypothesis
          (tracked.getChannelUri definition (accepted definition.name))

/-- What is known once the app has asked for a channel. -/
structure Asked (definition : ChannelDefinition) (accepted : Bool)
    (screen : HomeScreen) (uri : Option Nat) (after : HomeScreen) : Prop where
  stored : after.channelStore.lookup definition.name = uri
  others :
    ∀ name, name ≠ definition.name →
      after.channelStore.lookup name = screen.channelStore.lookup name
  there :
    ∀ id, uri = some id → ∃ channel ∈ after.channels, channel.id = id
  kept :
    ∀ id, (∃ channel ∈ screen.channels, channel.id = id) →
      ∃ channel ∈ after.channels, channel.id = id
  inserted : accepted = true → uri.isSome
  rest :
    after.previewPrograms = screen.previewPrograms ∧
      after.watchNextPrograms = screen.watchNextPrograms

theorem asked_updateChannel {definition : ChannelDefinition} {accepted : Bool}
    {channel : Channel} (member : channel ∈ screen.channels)
    (stored : screen.channelStore.lookup definition.name = some channel.id) :
    Asked definition accepted screen (some channel.id)
      (screen.updateChannel channel.id definition.displayName) := by
  have kept :
      ∀ id, (∃ old ∈ screen.channels, old.id = id) →
        ∃ new ∈
          (screen.updateChannel channel.id definition.displayName).channels,
          new.id = id := by
    rintro id ⟨old, there, rfl⟩
    refine ⟨_, List.mem_map_of_mem there, ?_⟩
    split
    · rename_i same
      exact same.symm
    · rfl
  refine ⟨stored, fun _ _ => rfl, ?_, kept, fun _ => rfl, rfl, rfl⟩
  rintro id ⟨⟩
  exact kept channel.id ⟨channel, member, rfl⟩

theorem asked_insertChannel (definition : ChannelDefinition)
    (accepted : Bool) :
    Asked definition accepted screen (some screen.nextRow)
      (screen.insertChannel definition) := by
  refine ⟨?_, ?_, ?_, ?_, fun _ => rfl, rfl, rfl⟩
  · exact (lookup_put _).trans (if_pos rfl)
  · intro name different
    exact (lookup_put _).trans (if_neg different)
  · rintro id ⟨⟩
    exact ⟨_, List.mem_append_right _ List.mem_cons_self, rfl⟩
  · rintro id ⟨channel, member, same⟩
    exact ⟨channel, List.mem_append_left _ member, same⟩

theorem asked_forgetChannel (definition : ChannelDefinition) :
    Asked definition false screen none
      (screen.forgetChannel definition.name) := by
  refine ⟨?_, ?_, ?_, fun _ => id, ?_, rfl, rfl⟩
  · exact (lookup_filter_ne _).trans (if_pos rfl)
  · intro name different
    exact (lookup_filter_ne _).trans (if_neg different)
  · rintro id ⟨⟩
  · rintro ⟨⟩

theorem asked_getChannelUri (screen : HomeScreen)
    (definition : ChannelDefinition) (accepted : Bool) :
    Asked definition accepted screen
      (screen.getChannelUri definition accepted).1
      (screen.getChannelUri definition accepted).2 := by
  rcases screen.getChannelUri_cases definition accepted with
    ⟨channel, member, stored, same⟩ | ⟨-, same⟩
  · rw [same]
    exact asked_updateChannel member stored
  · rw [same]
    cases accepted with
    | true =>
        exact asked_insertChannel definition true
    | false =>
        exact asked_forgetChannel definition

/-- The uris are the ones in the preferences, and they lead to channels. -/
structure Resolved (definitions : List ChannelDefinition)
    (accepted : Text → Bool) (screen : HomeScreen)
    (uris : List (Text × Option Nat)) (after : HomeScreen) : Prop where
  stored :
    ∀ definition ∈ definitions,
      uris.lookup definition.name =
        some (after.channelStore.lookup definition.name)
  others :
    ∀ name, (∀ definition ∈ definitions, name ≠ definition.name) →
      after.channelStore.lookup name = screen.channelStore.lookup name
  there :
    ∀ definition ∈ definitions, ∀ id,
      after.channelStore.lookup definition.name = some id →
        ∃ channel ∈ after.channels, channel.id = id
  kept :
    ∀ id, (∃ channel ∈ screen.channels, channel.id = id) →
      ∃ channel ∈ after.channels, channel.id = id
  inserted :
    ∀ definition ∈ definitions, accepted definition.name = true →
      (after.channelStore.lookup definition.name).isSome
  rest :
    after.previewPrograms = screen.previewPrograms ∧
      after.watchNextPrograms = screen.watchNextPrograms

theorem Resolved.cons {accepted : Text → Bool}
    {definition : ChannelDefinition} {definitions : List ChannelDefinition}
    {uri : Option Nat} {uris : List (Text × Option Nat)}
    {middle after : HomeScreen}
    (first : Asked definition (accepted definition.name) screen uri middle)
    (last : Resolved definitions accepted middle uris after)
    (new : ∀ other ∈ definitions, definition.name ≠ other.name) :
    Resolved (definition :: definitions) accepted screen
      ((definition.name, uri) :: uris) after := by
  have stored :
      after.channelStore.lookup definition.name = uri :=
    (last.others definition.name new).trans first.stored
  refine
    { stored := ?_
      others := ?_
      there := ?_
      kept := fun id there => last.kept id (first.kept id there)
      inserted := ?_
      rest :=
        ⟨last.rest.1.trans first.rest.1, last.rest.2.trans first.rest.2⟩ }
  · refine List.forall_mem_cons.mpr ⟨?_, fun other member => ?_⟩
    · rw [lookup_cons_ite, if_pos rfl, stored]
    · rw [lookup_cons_ite, if_neg (new other member).symm]
      exact last.stored other member
  · intro name different
    obtain ⟨here, elsewhere⟩ := List.forall_mem_cons.mp different
    exact (last.others name elsewhere).trans (first.others name here)
  · refine List.forall_mem_cons.mpr ⟨fun id found => ?_, last.there⟩
    exact last.kept id (first.there id (stored.symm.trans found))
  · refine List.forall_mem_cons.mpr ⟨fun taken => ?_, last.inserted⟩
    rw [stored]
    exact first.inserted taken

theorem resolved_getChannelUris (accepted : Text → Bool)
    {definitions : List ChannelDefinition}
    (distinct : (definitions.map ChannelDefinition.name).Nodup) :
    Resolved definitions accepted screen
      (getChannelUris accepted definitions screen).1
      (getChannelUris accepted definitions screen).2 := by
  induction definitions generalizing screen with
  | nil =>
      exact
        { stored := List.forall_mem_nil _
          others := fun _ _ => rfl
          there := List.forall_mem_nil _
          kept := fun _ => id
          inserted := List.forall_mem_nil _
          rest := ⟨rfl, rfl⟩ }
  | cons definition rest inductionHypothesis =>
      rw [List.map_cons, List.nodup_cons] at distinct
      obtain ⟨new, later⟩ := distinct
      have different :
          ∀ other ∈ rest, definition.name ≠ other.name := by
        intro other member same
        exact new (same ▸ List.mem_map_of_mem member)
      exact
        Resolved.cons
          (asked_getChannelUri screen definition (accepted definition.name))
          (inductionHypothesis later) different

section Previews

variable {environment : Environment UUID Image Date}
  {uris : List (Text × Option Nat)}

theorem filter_channelPrograms (id : Nat)
    (row : Text × List (BaseItemDto UUID Image Date)) :
    (channelPrograms environment uris row).filter
        (fun program => program.channelId = id) =
      if (uris.lookup row.1).join = some id then
        row.2.map fun item => createPreviewProgram environment item id
      else
        [] := by
  unfold channelPrograms
  split
  · rename_i missing
    rw [missing]
    rfl
  · rename_i channel found
    rw [found]
    by_cases same : channel = id
    · subst same
      rw [if_pos rfl, List.filter_eq_self]
      intro program member
      obtain ⟨item, -, rfl⟩ := List.mem_map.mp member
      exact decide_eq_true rfl
    · rw [if_neg (fun equal => same (Option.some_inj.mp equal)),
        List.filter_eq_nil_iff]
      intro program member
      obtain ⟨item, -, rfl⟩ := List.mem_map.mp member
      rw [decide_eq_true_iff]
      exact same

theorem filter_flatMap_of_others {id : Nat}
    {rows : List (Text × List (BaseItemDto UUID Image Date))}
    (others : ∀ row ∈ rows, (uris.lookup row.1).join ≠ some id) :
    (rows.flatMap (channelPrograms environment uris)).filter
        (fun program => program.channelId = id) = [] := by
  induction rows with
  | nil =>
      rfl
  | cons row rest inductionHypothesis =>
      obtain ⟨here, later⟩ := List.forall_mem_cons.mp others
      rw [List.flatMap_cons, List.filter_append, filter_channelPrograms,
        if_neg here, inductionHypothesis later, List.append_nil]

/-- A channel has the items of its name, in order. -/
theorem filter_flatMap_channelPrograms {id : Nat} {name : Text}
    {items : List (BaseItemDto UUID Image Date)}
    {rows : List (Text × List (BaseItemDto UUID Image Date))}
    (distinct : (rows.map Prod.fst).Nodup) (member : (name, items) ∈ rows)
    (found : (uris.lookup name).join = some id)
    (only :
      ∀ row ∈ rows, (uris.lookup row.1).join = some id → row.1 = name) :
    (rows.flatMap (channelPrograms environment uris)).filter
        (fun program => program.channelId = id) =
      items.map fun item => createPreviewProgram environment item id := by
  induction rows with
  | nil =>
      cases member
  | cons row rest inductionHypothesis =>
      rw [List.map_cons, List.nodup_cons] at distinct
      obtain ⟨new, later⟩ := distinct
      obtain ⟨here, elsewhere⟩ := List.forall_mem_cons.mp only
      rw [List.flatMap_cons, List.filter_append, filter_channelPrograms]
      rcases List.mem_cons.mp member with rfl | behind
      · have others :
            ∀ row ∈ rest, (uris.lookup row.1).join ≠ some id := by
          intro other inside same
          have there : other.1 ∈ rest.map Prod.fst :=
            List.mem_map_of_mem inside
          rw [elsewhere other inside same] at there
          exact new there
        rw [if_pos found, filter_flatMap_of_others others, List.append_nil]
      · have different : (uris.lookup row.1).join ≠ some id := by
          intro same
          rw [here same] at new
          exact new (List.mem_map_of_mem behind)
        rw [if_neg different, List.nil_append]
        exact inductionHypothesis later behind elsewhere

end Previews

/-! ## The programs to watch next -/

section WatchNext

variable {environment : Environment UUID Image Date}
  {nextUpItems : List (BaseItemDto UUID Image Date)}

/-- Deleting rows by their numbers deletes the stale ones. -/
theorem watchNextPrograms_deletePrograms
    (distinct : (screen.watchNextPrograms.map WatchNextRow.id).Nodup) :
    (screen.deletePrograms environment nextUpItems).watchNextPrograms =
      screen.watchNextPrograms.filter fun row =>
        !isStale environment nextUpItems row := by
  refine List.filter_congr fun row member => ?_
  rw [Bool.eq_iff_iff, decide_eq_true_iff, Bool.not_eq_true', List.mem_map]
  constructor
  · intro absent
    by_contra stale
    rw [Bool.not_eq_false] at stale
    exact absent ⟨row, List.mem_filter.mpr ⟨member, stale⟩, rfl⟩
  · rintro fresh ⟨other, inside, same⟩
    obtain ⟨there, stale⟩ := List.mem_filter.mp inside
    have equal := List.inj_on_of_nodup_map distinct there member same
    rw [equal, fresh] at stale
    exact Bool.false_ne_true stale

/-- A row is still right if it was not removed, is about an item of the
answers, and was not begun. -/
structure StillRight (environment : Environment UUID Image Date)
    (nextUpItems : List (BaseItemDto UUID Image Date)) (row : WatchNextRow) :
    Prop where
  browsable : row.isBrowsable = true
  listed :
    ∃ next ∈ nextUpItems,
      row.program.internalProviderId = environment.idText next.id
  unbegun : row.program.watchNextType ≠ .WATCH_NEXT_TYPE_CONTINUE

instance (environment : Environment UUID Image Date)
    (nextUpItems : List (BaseItemDto UUID Image Date)) (row : WatchNextRow) :
    Decidable (StillRight environment nextUpItems row) :=
  decidable_of_iff
    (row.isBrowsable = true ∧
      (∃ next ∈ nextUpItems,
        row.program.internalProviderId = environment.idText next.id) ∧
      row.program.watchNextType ≠ .WATCH_NEXT_TYPE_CONTINUE)
    ⟨fun ⟨browsable, listed, unbegun⟩ => ⟨browsable, listed, unbegun⟩,
      fun ⟨browsable, listed, unbegun⟩ => ⟨browsable, listed, unbegun⟩⟩

theorem not_isStale_iff {row : WatchNextRow} :
    isStale environment nextUpItems row = false ↔
      StillRight environment nextUpItems row := by
  constructor
  · intro fresh
    simp only [isStale, Bool.or_eq_false_iff, Bool.not_eq_false',
      List.any_eq_true, decide_eq_true_eq, decide_eq_false_iff_not] at fresh
    exact ⟨fresh.1.1, fresh.1.2, fresh.2⟩
  · rintro ⟨browsable, listed, unbegun⟩
    simp only [isStale, Bool.or_eq_false_iff, Bool.not_eq_false',
      List.any_eq_true, decide_eq_true_eq, decide_eq_false_iff_not]
    exact ⟨⟨browsable, listed⟩, unbegun⟩

/-- The programs to watch next are those of the items, each one browsable.
The rows that are still right stay in front, in their order. -/
structure Follows (environment : Environment UUID Image Date)
    (nextUpItems : List (BaseItemDto UUID Image Date))
    (screen after : HomeScreen) : Prop where
  kept :
    (screen.watchNextPrograms.filter fun row =>
      StillRight environment nextUpItems row) <+: after.watchNextPrograms
  items :
    ∀ text,
      (∃ row ∈ after.watchNextPrograms,
          row.program.internalProviderId = text) ↔
        ∃ next ∈ nextUpItems, environment.idText next.id = text
  browsable : ∀ row ∈ after.watchNextPrograms, row.isBrowsable = true
  added :
    ∀ row ∈ after.watchNextPrograms,
      row ∈ screen.watchNextPrograms ∨
        ∃ next ∈ nextUpItems,
          row.program = getBaseItemAsWatchNextProgram environment next ∧
            Announces environment next row.program

/-- Only the programs to watch next matter. -/
theorem Follows.of_rows {first second after : HomeScreen}
    (follows : Follows environment nextUpItems first after)
    (same : first.watchNextPrograms = second.watchNextPrograms) :
    Follows environment nextUpItems second after where
  kept := by
    rw [← same]
    exact follows.kept
  items := follows.items
  browsable := follows.browsable
  added := by
    rw [← same]
    exact follows.added

theorem mem_programsToAdd {rows : List WatchNextRow}
    {next : BaseItemDto UUID Image Date} :
    next ∈ programsToAdd environment nextUpItems rows ↔
      next ∈ nextUpItems ∧
        ∀ row ∈ rows,
          row.program.internalProviderId ≠ environment.idText next.id := by
  rw [programsToAdd, List.mem_filter, Bool.not_eq_true', List.any_eq_false]
  simp only [decide_eq_true_eq]

section Inserted

variable (screen : HomeScreen) (programs : List WatchNextProgram)

/-- The rows that are there stay in front. -/
theorem prefix_insertWatchNext :
    screen.watchNextPrograms <+:
      (screen.insertWatchNext programs).watchNextPrograms :=
  List.prefix_append _ _

theorem map_program_insertWatchNext :
    (screen.insertWatchNext programs).watchNextPrograms.map
        WatchNextRow.program =
      screen.watchNextPrograms.map WatchNextRow.program ++ programs := by
  rw [insertWatchNext, List.map_append]
  refine congrArg _ (List.ext_getElem ?_ ?_)
  · rw [List.length_map, List.length_mapIdx]
  · intro position inside _
    rw [List.getElem_map, List.getElem_mapIdx]

/-- The new rows are numbered one after another. -/
theorem map_id_insertWatchNext :
    (screen.insertWatchNext programs).watchNextPrograms.map
        WatchNextRow.id =
      screen.watchNextPrograms.map WatchNextRow.id ++
        List.range' screen.nextRow programs.length := by
  rw [insertWatchNext, List.map_append]
  refine congrArg _ (List.ext_getElem ?_ ?_)
  · rw [List.length_map, List.length_mapIdx, List.length_range']
  · intro position inside _
    rw [List.getElem_map, List.getElem_mapIdx, List.getElem_range',
      Nat.one_mul]

variable {screen programs}

theorem mem_insertWatchNext {row : WatchNextRow}
    (member : row ∈ (screen.insertWatchNext programs).watchNextPrograms) :
    row ∈ screen.watchNextPrograms ∨
      row.isBrowsable = true ∧ row.program ∈ programs := by
  rcases List.mem_append.mp member with old | new
  · exact .inl old
  · obtain ⟨position, inside, rfl⟩ := List.mem_mapIdx.mp new
    exact .inr ⟨rfl, List.getElem_mem inside⟩

end Inserted

/-- The items of the rows. -/
def providerIds (rows : List WatchNextRow) : List Text :=
  rows.map fun row => row.program.internalProviderId

theorem mem_providerIds {rows : List WatchNextRow} {text : Text} :
    text ∈ providerIds rows ↔
      ∃ row ∈ rows, row.program.internalProviderId = text :=
  List.mem_map

/-- The items of the rows that are kept, followed by those that are added. -/
theorem providerIds_updateWatchNext :
    let rows :=
      (screen.deletePrograms environment nextUpItems).watchNextPrograms
    providerIds
        (screen.updateWatchNext environment nextUpItems).watchNextPrograms =
      providerIds rows ++
        (programsToAdd environment nextUpItems rows).map fun next =>
          environment.idText next.id := by
  intro rows
  have programs :=
    map_program_insertWatchNext
      (screen.deletePrograms environment nextUpItems)
      ((programsToAdd environment nextUpItems rows).map
        (getBaseItemAsWatchNextProgram environment))
  have ids := congrArg (List.map WatchNextProgram.internalProviderId) programs
  rw [List.map_append, List.map_map, List.map_map, List.map_map] at ids
  exact ids

/-- The programs to watch next follow the answers. -/
theorem follows_updateWatchNext
    (distinct : (screen.watchNextPrograms.map WatchNextRow.id).Nodup) :
    Follows environment nextUpItems screen
      (screen.updateWatchNext environment nextUpItems) := by
  have rows :
      (screen.deletePrograms environment nextUpItems).watchNextPrograms =
        screen.watchNextPrograms.filter fun row =>
          !isStale environment nextUpItems row :=
    watchNextPrograms_deletePrograms distinct
  have fresh {row : WatchNextRow} :
      row ∈ (screen.deletePrograms environment nextUpItems).watchNextPrograms ↔
        row ∈ screen.watchNextPrograms ∧
          isStale environment nextUpItems row = false := by
    rw [rows, List.mem_filter, Bool.not_eq_true']
  refine
    { kept := ?_
      items := ?_
      browsable := ?_
      added := ?_ }
  · have same :
        (screen.watchNextPrograms.filter fun row =>
            StillRight environment nextUpItems row) =
          screen.watchNextPrograms.filter fun row =>
            !isStale environment nextUpItems row := by
      refine List.filter_congr fun row _ => ?_
      rw [Bool.eq_iff_iff, decide_eq_true_iff, Bool.not_eq_true',
        not_isStale_iff]
    rw [same, ← rows]
    exact prefix_insertWatchNext _ _
  · intro text
    rw [← mem_providerIds, providerIds_updateWatchNext, List.mem_append,
      mem_providerIds, List.mem_map]
    constructor
    · rintro (⟨row, kept, rfl⟩ | ⟨next, added, rfl⟩)
      · obtain ⟨next, inside, same⟩ :=
          (not_isStale_iff.mp (fresh.mp kept).2).listed
        exact ⟨next, inside, same.symm⟩
      · exact ⟨next, (mem_programsToAdd.mp added).1, rfl⟩
    · rintro ⟨next, inside, rfl⟩
      by_cases missing :
          next ∈ programsToAdd environment nextUpItems
            (screen.deletePrograms environment nextUpItems).watchNextPrograms
      · exact .inr ⟨next, missing, rfl⟩
      · refine .inl (Classical.byContradiction fun unlisted => ?_)
        refine missing (mem_programsToAdd.mpr ⟨inside, fun row kept same => ?_⟩)
        exact unlisted ⟨row, kept, same⟩
  · intro row member
    rcases mem_insertWatchNext member with old | ⟨browsable, -⟩
    · exact (not_isStale_iff.mp (fresh.mp old).2).browsable
    · exact browsable
  · intro row member
    rcases mem_insertWatchNext member with old | ⟨-, new⟩
    · exact .inl (fresh.mp old).1
    · obtain ⟨next, added, same⟩ := List.mem_map.mp new
      refine .inr ⟨next, (mem_programsToAdd.mp added).1, same.symm, ?_⟩
      rw [← same]
      exact announces_getBaseItemAsWatchNextProgram

/-- No item is listed twice if the answers list none twice. -/
theorem nodup_updateWatchNext
    (distinct : (screen.watchNextPrograms.map WatchNextRow.id).Nodup)
    (once : (providerIds screen.watchNextPrograms).Nodup)
    (answered :
      (nextUpItems.map fun next => environment.idText next.id).Nodup) :
    (providerIds
      (screen.updateWatchNext environment nextUpItems).watchNextPrograms).Nodup
    := by
  rw [providerIds_updateWatchNext]
  refine List.Nodup.append ?_ ?_ ?_
  · rw [watchNextPrograms_deletePrograms distinct]
    exact once.sublist (List.filter_sublist.map _)
  · exact answered.sublist (List.filter_sublist.map _)
  · intro text kept added
    obtain ⟨next, member, rfl⟩ := List.mem_map.mp added
    obtain ⟨row, inside, same⟩ := mem_providerIds.mp kept
    exact (mem_programsToAdd.mp member).2 row inside same

end WatchNext

theorem Tracked.deleteWatchNext (tracked : screen.Tracked) (ids : List Nat) :
    (screen.deleteWatchNext ids).Tracked where
  named := tracked.named
  injective := tracked.injective
  earlier := tracked.earlier
  placed := tracked.placed
  rows := tracked.rows.sublist (List.filter_sublist.map _)
  numbered := fun row member =>
    tracked.numbered row (List.mem_of_mem_filter member)

theorem Tracked.insertWatchNext (tracked : screen.Tracked)
    (programs : List WatchNextProgram) :
    (screen.insertWatchNext programs).Tracked := by
  refine
    { named := tracked.named
      injective := tracked.injective
      earlier := fun name id stored =>
        Nat.lt_add_right _ (tracked.earlier name id stored)
      placed := tracked.placed
      rows := ?_
      numbered := ?_ }
  · rw [map_id_insertWatchNext]
    refine tracked.rows.append List.nodup_range' ?_
    intro id old new
    obtain ⟨row, member, rfl⟩ := List.mem_map.mp old
    have := tracked.numbered row member
    have := (List.mem_range'_1.mp new).1
    omega
  · intro row member
    change row.id < screen.nextRow + programs.length
    rcases List.mem_append.mp member with old | new
    · exact Nat.lt_add_right _ (tracked.numbered row old)
    · obtain ⟨position, inside, rfl⟩ := List.mem_mapIdx.mp new
      exact Nat.add_lt_add_left inside _

theorem Tracked.deleteChannels (tracked : screen.Tracked) (ids : List Nat) :
    (screen.deleteChannels ids).Tracked := by
  refine
    { named := fun channel member =>
        tracked.named channel (List.mem_of_mem_filter member)
      injective := tracked.injective
      earlier := tracked.earlier
      placed := ?_
      rows := tracked.rows
      numbered := tracked.numbered }
  intro program member
  obtain ⟨inside, kept⟩ := List.mem_filter.mp member
  obtain ⟨channel, there, same⟩ := tracked.placed program inside
  refine ⟨channel, List.mem_filter.mpr ⟨there, ?_⟩, same⟩
  rw [same]
  exact kept

theorem Tracked.hideProgram (tracked : screen.Tracked) (id : Nat) :
    (screen.hideProgram id).Tracked := by
  have ids :
      (screen.hideProgram id).watchNextPrograms.map WatchNextRow.id =
        screen.watchNextPrograms.map WatchNextRow.id := by
    rw [HomeScreen.hideProgram, List.map_map]
    refine List.map_congr_left fun row _ => ?_
    change (if row.id = id then _ else row : WatchNextRow).id = row.id
    split <;> rfl
  refine
    { named := tracked.named
      injective := tracked.injective
      earlier := tracked.earlier
      placed := tracked.placed
      rows := ids ▸ tracked.rows
      numbered := ?_ }
  intro row member
  have inside := ids ▸ List.mem_map_of_mem (f := WatchNextRow.id) member
  obtain ⟨old, there, same⟩ := List.mem_map.mp inside
  rw [← same]
  exact tracked.numbered old there

/-- The programs of the channels do not matter for those to watch next. -/
theorem Tracked.follows_updateWatchNext {middle : HomeScreen}
    (tracked : middle.Tracked)
    (same : middle.watchNextPrograms = screen.watchNextPrograms)
    (programs : List PreviewProgram)
    {environment : Environment UUID Image Date}
    {nextUpItems : List (BaseItemDto UUID Image Date)} :
    Follows environment nextUpItems screen
      (HomeScreen.updateWatchNext { middle with previewPrograms := programs }
        environment nextUpItems) := by
  have follows :
      Follows environment nextUpItems
        { middle with previewPrograms := programs } _ :=
    HomeScreen.follows_updateWatchNext tracked.rows
  exact follows.of_rows same

/-- Once the programs are deleted, any programs of channels may be added. -/
theorem Tracked.previewPrograms (tracked : screen.Tracked)
    {programs : List PreviewProgram}
    (placed :
      ∀ program ∈ programs,
        ∃ channel ∈ screen.channels, channel.id = program.channelId) :
    { screen with previewPrograms := programs }.Tracked where
  named := tracked.named
  injective := tracked.injective
  earlier := tracked.earlier
  placed := placed
  rows := tracked.rows
  numbered := tracked.numbered

/-- Disabling the integration removes everything. -/
theorem Tracked.clearChannels (tracked : screen.Tracked) :
    screen.clearChannels =
      { screen with
        channels := []
        previewPrograms := []
        watchNextPrograms := []
        channelStore := [] } := by
  have gone :
      (screen.channels.filter fun channel =>
        channel.id ∉ screen.channelStore.map Prod.snd) = [] := by
    rw [List.filter_eq_nil_iff]
    intro channel member
    obtain ⟨name, stored⟩ := tracked.named channel member
    rw [decide_eq_true_iff, not_not]
    obtain ⟨before, after, entries, -⟩ := List.lookup_eq_some_iff.mp stored
    rw [entries, List.map_append, List.map_cons]
    exact List.mem_append_right _ List.mem_cons_self
  rw [HomeScreen.clearChannels, HomeScreen.deleteChannels]
  dsimp only
  rw [gone]
  rfl

/-! ## Runs of the worker -/

variable {work : Work UUID Image Date} {answers : Answers UUID Image Date}

/-- A channel has a uri if the home screen takes it, and it is there and has
the programs of the items, in order. -/
structure HasItems (work : Work UUID Image Date) (after : HomeScreen)
    (name : Text) (items : List (BaseItemDto UUID Image Date)) : Prop where
  inserted :
    work.accepted name = true → (after.channelStore.lookup name).isSome
  there :
    ∀ id, after.channelStore.lookup name = some id →
      ∃ channel ∈ after.channels, channel.id = id
  programs :
    ∀ id, after.channelStore.lookup name = some id →
      (after.previewPrograms.filter fun program => program.channelId = id) =
          items.map (fun item =>
            createPreviewProgram work.environment item id) ∧
        ∀ item ∈ items,
          Presents work.environment id item
            (createPreviewProgram work.environment item id)

/-- What a run of the worker makes of the answers. -/
structure InSync (work : Work UUID Image Date)
    (answers : Answers UUID Image Date) (screen after : HomeScreen) :
    Prop where
  nextUp : HasItems work after "next_up".toList answers.nextUpItems
  latestMedia : HasItems work after "latest_media".toList answers.latestMedia
  latestMovies : HasItems work after "latest_movies".toList answers.latestMovies
  latestEpisodes :
    HasItems work after "latest_episodes".toList answers.latestEpisodes
  myMedia :
    HasItems work after "my_media".toList
      (answers.userViews.filter work.isSupported)
  owned :
    ∀ program ∈ after.previewPrograms,
      ∃ name ∈
        ["next_up".toList, "latest_media".toList, "latest_movies".toList,
          "latest_episodes".toList, "my_media".toList],
        after.channelStore.lookup name = some program.channelId
  watchNext :
    Follows work.environment (answers.resumeItems ++ answers.nextUpItems)
      screen after

theorem nodup_channelDefinitions (titles : Text → Text) :
    ((channelDefinitions titles).map ChannelDefinition.name).Nodup := by
  simp only [channelDefinitions, List.map_cons, List.map_nil]
  decide

theorem nodup_channelItems :
    ((channelItems work answers).map Prod.fst).Nodup := by
  simp only [channelItems, List.map_cons, List.map_nil]
  decide

/-- Items are added to the channels that are asked for. -/
theorem name_mem_channelDefinitions (titles : Text → Text) :
    ∀ row ∈ channelItems work answers,
      ∃ definition ∈ channelDefinitions titles, definition.name = row.1 := by
  simp [channelItems, channelDefinitions]

theorem mem_channelPrograms {environment : Environment UUID Image Date}
    {uris : List (Text × Option Nat)}
    {row : Text × List (BaseItemDto UUID Image Date)}
    {program : PreviewProgram}
    (member : program ∈ channelPrograms environment uris row) :
    (uris.lookup row.1).join = some program.channelId := by
  unfold channelPrograms at member
  split at member
  · cases member
  · rename_i channel found
    obtain ⟨item, -, rfl⟩ := List.mem_map.mp member
    exact found

/-- The programs for the answers, once the uris of the channels are known. -/
def fill (middle : HomeScreen) (work : Work UUID Image Date)
    (answers : Answers UUID Image Date) (uris : List (Text × Option Nat)) :
    HomeScreen :=
  HomeScreen.updateWatchNext
    { middle with
      previewPrograms :=
        (channelItems work answers).flatMap
          (channelPrograms work.environment uris) }
    work.environment (answers.resumeItems ++ answers.nextUpItems)

section Filled

variable {uris : List (Text × Option Nat)} {middle : HomeScreen}
  (resolved :
    Resolved (channelDefinitions work.titles) work.accepted
      { screen with previewPrograms := [] } uris middle)

include resolved

/-- The uri of a channel is the one in the preferences. -/
theorem Resolved.lookup {row : Text × List (BaseItemDto UUID Image Date)}
    (member : row ∈ channelItems work answers) :
    (uris.lookup row.1).join = middle.channelStore.lookup row.1 := by
  obtain ⟨definition, inside, same⟩ :=
    name_mem_channelDefinitions work.titles row member
  rw [← same, resolved.stored definition inside, Option.join_some]

/-- Each program of a run is in a channel that is there. -/
theorem Resolved.placed {program : PreviewProgram}
    (member :
      program ∈ (channelItems work answers).flatMap
        (channelPrograms work.environment uris)) :
    ∃ channel ∈ middle.channels, channel.id = program.channelId := by
  obtain ⟨row, listed, inside⟩ := List.mem_flatMap.mp member
  obtain ⟨definition, asked, same⟩ :=
    name_mem_channelDefinitions work.titles row listed
  refine resolved.there definition asked program.channelId ?_
  rw [same, ← resolved.lookup listed]
  exact mem_channelPrograms inside

theorem Resolved.tracked_fill (tracked : middle.Tracked) :
    (middle.fill work answers uris).Tracked :=
  ((tracked.previewPrograms fun _ => resolved.placed).deleteWatchNext
    _).insertWatchNext _

theorem Resolved.hasItems_fill (tracked : middle.Tracked) {name : Text}
    {items : List (BaseItemDto UUID Image Date)}
    (member : (name, items) ∈ channelItems work answers) :
    HasItems work (middle.fill work answers uris) name items := by
  obtain ⟨definition, asked, rfl⟩ :=
    name_mem_channelDefinitions work.titles _ member
  refine ⟨resolved.inserted definition asked, resolved.there definition asked,
    fun id stored => ⟨?_, fun _ _ => presents_createPreviewProgram id⟩⟩
  change middle.channelStore.lookup definition.name = some id at stored
  refine filter_flatMap_channelPrograms nodup_channelItems member ?_ ?_
  · rw [← stored]
    exact resolved.lookup member
  · intro other inside found
    rw [resolved.lookup inside] at found
    exact tracked.injective other.1 definition.name id found stored

theorem Resolved.inSync_fill (tracked : middle.Tracked) :
    InSync work answers screen (middle.fill work answers uris) := by
  have rows : middle.watchNextPrograms = screen.watchNextPrograms :=
    resolved.rest.2
  refine
    { nextUp := resolved.hasItems_fill tracked (by simp [channelItems])
      latestMedia := resolved.hasItems_fill tracked (by simp [channelItems])
      latestMovies := resolved.hasItems_fill tracked (by simp [channelItems])
      latestEpisodes := resolved.hasItems_fill tracked (by simp [channelItems])
      myMedia := resolved.hasItems_fill tracked (by simp [channelItems])
      owned := ?_
      watchNext := tracked.follows_updateWatchNext rows _ }
  intro program member
  obtain ⟨row, listed, inside⟩ := List.mem_flatMap.mp member
  have found := mem_channelPrograms inside
  rw [resolved.lookup listed] at found
  exact ⟨row.1, List.mem_map_of_mem listed, found⟩

end Filled

/-- A run looks for the channels first and fills them then. -/
theorem update_eq_fill (screen : HomeScreen) (work : Work UUID Image Date)
    (answers : Answers UUID Image Date) :
    ∃ uris middle,
      getChannelUris work.accepted (channelDefinitions work.titles)
          { screen with previewPrograms := [] } = (uris, middle) ∧
        Resolved (channelDefinitions work.titles) work.accepted
          { screen with previewPrograms := [] } uris middle ∧
        screen.update work answers = middle.fill work answers uris := by
  unfold update
  have resolved :
      let outcome :=
        getChannelUris work.accepted (channelDefinitions work.titles)
          { screen with previewPrograms := [] }
      Resolved (channelDefinitions work.titles) work.accepted
        { screen with previewPrograms := [] } outcome.1 outcome.2 :=
    resolved_getChannelUris work.accepted (nodup_channelDefinitions work.titles)
  generalize
    getChannelUris work.accepted (channelDefinitions work.titles)
      { screen with previewPrograms := [] } = outcome at resolved ⊢
  obtain ⟨uris, middle⟩ := outcome
  refine ⟨uris, middle, rfl, resolved, ?_⟩
  have empty : middle.previewPrograms = [] := resolved.rest.1
  dsimp only
  rw [empty]
  rfl

theorem Tracked.filled (tracked : screen.Tracked)
    (work : Work UUID Image Date) (answers : Answers UUID Image Date) :
    ∃ uris middle,
      middle.Tracked ∧
        Resolved (channelDefinitions work.titles) work.accepted
          { screen with previewPrograms := [] } uris middle ∧
        screen.update work answers = middle.fill work answers uris := by
  obtain ⟨uris, middle, outcome, resolved, updated⟩ :=
    screen.update_eq_fill work answers
  have emptied : { screen with previewPrograms := [] }.Tracked :=
    tracked.previewPrograms (List.forall_mem_nil _)
  have known :=
    emptied.getChannelUris work.accepted (channelDefinitions work.titles)
  rw [outcome] at known
  exact ⟨uris, middle, known, resolved, updated⟩

theorem Tracked.update (tracked : screen.Tracked) :
    (screen.update work answers).Tracked := by
  obtain ⟨uris, middle, known, resolved, updated⟩ :=
    tracked.filled work answers
  rw [updated]
  exact resolved.tracked_fill known

theorem Tracked.inSync_update (tracked : screen.Tracked) :
    InSync work answers screen (screen.update work answers) := by
  obtain ⟨uris, middle, known, resolved, updated⟩ :=
    tracked.filled work answers
  rw [updated]
  exact resolved.inSync_fill known

theorem Tracked.doWork (tracked : screen.Tracked)
    (work : Work UUID Image Date) : (screen.doWork work).2.Tracked := by
  unfold HomeScreen.doWork
  split
  · exact tracked
  · split
    · dsimp only
      rw [tracked.clearChannels]
      exact
        { named := List.forall_mem_nil _
          injective := fun _ _ _ found => by cases found
          earlier := fun _ _ found => by cases found
          placed := List.forall_mem_nil _
          rows := List.nodup_nil
          numbered := List.forall_mem_nil _ }
    · split
      · exact tracked
      · split
        · exact tracked
        · exact tracked.update

theorem Tracked.step (tracked : screen.Tracked)
    (event : Event UUID Image Date) : (screen.step event).Tracked := by
  cases event with
  | doWork work =>
      exact tracked.doWork work
  | hideProgram id =>
      exact tracked.hideProgram id
  | dropProgram id =>
      exact tracked.deleteWatchNext [id]
  | dropChannel id =>
      exact tracked.deleteChannels [id]

theorem tracked_run (history : List (Event UUID Image Date)) :
    (run step created history).Tracked :=
  run_invariant
    (fun _ event tracked _ => tracked.step event) tracked_created
    (admitted_of_forall fun _ _ => trivial)

/-- The answers of a run list no item twice to watch next. -/
def ListsOnce : Event UUID Image Date → Prop
  | .doWork work =>
      ∀ answers, work.answers = some answers →
        ((answers.resumeItems ++ answers.nextUpItems).map fun item =>
          work.environment.idText item.id).Nodup
  | _ => True

theorem nodup_step {event : Event UUID Image Date} (tracked : screen.Tracked)
    (once : (providerIds screen.watchNextPrograms).Nodup)
    (listed : ListsOnce event) :
    (providerIds (screen.step event).watchNextPrograms).Nodup := by
  cases event with
  | doWork work =>
      change (providerIds (screen.doWork work).2.watchNextPrograms).Nodup
      unfold doWork
      split
      · exact once
      · split
        · exact List.nodup_nil
        · split
          · exact once
          · split
            · exact once
            · rename_i answers answered
              obtain ⟨uris, middle, known, resolved, updated⟩ :=
                tracked.filled work answers
              dsimp only
              rw [updated]
              apply nodup_updateWatchNext known.rows
              · exact resolved.rest.2 ▸ once
              · exact listed answers answered
  | hideProgram id =>
      have same :
          providerIds (screen.hideProgram id).watchNextPrograms =
            providerIds screen.watchNextPrograms := by
        rw [providerIds, hideProgram, List.map_map]
        refine List.map_congr_left fun row _ => ?_
        dsimp only [Function.comp_apply]
        split <;> rfl
      exact same ▸ once
  | dropProgram id =>
      exact once.sublist (List.filter_sublist.map _)
  | dropChannel id =>
      exact once

theorem nodup_run {history : List (Event UUID Image Date)}
    (listed : ∀ event ∈ history, ListsOnce event) :
    (providerIds (run step created history).watchNextPrograms).Nodup := by
  have preserved :
      ∀ (screen : HomeScreen) (event : Event UUID Image Date),
        screen.Tracked ∧ (providerIds screen.watchNextPrograms).Nodup →
          ListsOnce event →
            (screen.step event).Tracked ∧
              (providerIds (screen.step event).watchNextPrograms).Nodup := by
    rintro screen event ⟨tracked, once⟩ here
    exact ⟨tracked.step event, nodup_step tracked once here⟩
  exact
    (run_invariant preserved ⟨tracked_created, List.nodup_nil⟩
      (admitted_of_forall listed)).2

/-- Whatever happened to the home screen before, a run of the worker brings
it in line with the server.  Nothing is left if the integration is disabled,
and nothing changes if the run is to be tried again. -/
theorem home_screen_in_sync (history : List (Event UUID Image Date))
    (work : Work UUID Image Date) :
    let before := run step created history
    let outcome := before.doWork work
    (work.isAvailable = true → work.tvProviderEnabled = false →
      outcome.1 = .success ∧
        outcome.2 =
          { before with
            channels := []
            previewPrograms := []
            watchNextPrograms := []
            channelStore := [] }) ∧
    (outcome.1 = .retry → outcome.2 = before) ∧
    (∀ answers,
      work.isAvailable = true → work.tvProviderEnabled = true →
        work.isUsable = true → work.answers = some answers →
        outcome.1 = .success ∧ InSync work answers before outcome.2) ∧
    ((∀ event ∈ history, ListsOnce event) →
      (providerIds before.watchNextPrograms).Nodup) := by
  intro before outcome
  have tracked : before.Tracked := tracked_run history
  refine ⟨?_, ?_, ?_, nodup_run⟩
  · intro available disabled
    have cleared : outcome = (.success, before.clearChannels) := by
      simp [outcome, doWork, available, disabled]
    rw [cleared]
    exact ⟨rfl, tracked.clearChannels⟩
  · intro again
    simp only [outcome, doWork] at again ⊢
    split_ifs at again ⊢ with unavailable disabled unusable
    · rfl
    · split at again
      · rfl
      · cases again
  · intro answers available enabled usable answered
    have updated : outcome = (.success, before.update work answers) := by
      simp [outcome, doWork, available, enabled, usable, answered]
    rw [updated]
    exact ⟨rfl, tracked.inSync_update⟩

end JellyfinTv.Channels.HomeScreen
