import SpringTemplate.Job.Folding

/-!
# The loop over the configuration rows

The loop stores every configuration row through the position its trigger has.
Since the positions are those of the triggers, a trigger ends with exactly the
rows of its own id.  Together with the loop over the joined rows this is the
result of `getGroupsAndTriggers`, whatever rows its two tasks have read.
-/

namespace SpringTemplate.Job

namespace JobTriggerDto

/-- Store those of the configuration rows that are rows of the trigger. -/
def configured (rows : List JobTriggerConfiguration)
    (trigger : JobTriggerDto) : JobTriggerDto :=
  trigger.putConfigurations
    (rows.filter (fun row => row.id.triggerId = trigger.triggerId))

end JobTriggerDto

def JobTriggerConfiguration.pair (row : JobTriggerConfiguration) :
    String × Configuration :=
  (row.id.parameterName, row.configuration)

/-- What the last of the rows of a trigger with a parameter name holds. -/
def lastConfiguration (rows : List JobTriggerConfiguration)
    (triggerId parameterName : String) : Option Configuration :=
  ((rows.filter (fun row => row.id.triggerId = triggerId ∧
    row.id.parameterName = parameterName)).getLast?).map
    (fun row => { value := row.value, bytes := row.bytes })

namespace JobTriggerDto

variable (rows : List JobTriggerConfiguration) (trigger : JobTriggerDto)

theorem putConfigurations_concat (row : JobTriggerConfiguration) :
    trigger.putConfigurations (rows ++ [row]) =
      (trigger.putConfigurations rows).putConfiguration row := by
  simp [putConfigurations]

theorem putConfigurations_eq :
    trigger.putConfigurations rows =
      { trigger with
        configurations :=
          trigger.configurations.putAll
            (rows.map JobTriggerConfiguration.pair) } := by
  induction rows using List.reverseRecOn with
  | nil => rfl
  | append_singleton rows row induction =>
      rw [putConfigurations_concat, induction, List.map_append]
      simp [putConfiguration, JobTriggerConfiguration.pair]

theorem putConfigurations_get? (parameterName : String) :
    (trigger.putConfigurations rows).configurations.get? parameterName =
      (((rows.filter (fun row =>
        row.id.parameterName = parameterName)).getLast?).map
        (fun row => { value := row.value, bytes := row.bytes })).or
        (trigger.configurations.get? parameterName) := by
  rw [putConfigurations_eq, OrderedMap.get?_putAll, List.filter_map,
    List.getLast?_map, Option.map_map]
  rfl

/-- Stored in a trigger without configurations, rows of one trigger leave
their last ones. -/
theorem putConfigurations_attached {triggerId : String}
    (bare : trigger.configurations = .empty)
    (ofTrigger : ∀ row ∈ rows, row.id.triggerId = triggerId)
    (parameterName : String) :
    (trigger.putConfigurations rows).configurations.get? parameterName =
      lastConfiguration rows triggerId parameterName := by
  have sameRows : rows.filter (fun row =>
      row.id.parameterName = parameterName) =
      rows.filter (fun row => row.id.triggerId = triggerId ∧
        row.id.parameterName = parameterName) := by
    apply List.filter_congr
    intro row member
    simp [ofTrigger row member]
  rw [putConfigurations_get?, sameRows, lastConfiguration, bare]
  simp

theorem configured_get? (parameterName : String) :
    (trigger.configured rows).configurations.get? parameterName =
      (lastConfiguration rows trigger.triggerId parameterName).or
        (trigger.configurations.get? parameterName) := by
  rw [configured, putConfigurations_get?, List.filter_filter,
    lastConfiguration]
  simp only [← Bool.decide_and, and_comm]

@[simp] theorem putConfigurations_properties :
    (trigger.putConfigurations rows).properties = trigger.properties := by
  rw [putConfigurations_eq]

@[simp] theorem configured_properties :
    (trigger.configured rows).properties = trigger.properties :=
  putConfigurations_properties _ trigger

theorem configured_concat (row : JobTriggerConfiguration) :
    trigger.configured (rows ++ [row]) =
      if row.id.triggerId = trigger.triggerId then
        (trigger.configured rows).putConfiguration row
      else trigger.configured rows := by
  by_cases same : row.id.triggerId = trigger.triggerId
  · simp [configured, putConfigurations_concat, List.filter_append, same]
  · simp [configured, List.filter_append, same]

end JobTriggerDto

/-- A group whose triggers have their configuration rows. -/
def GroupTriggers.configured (rows : List JobTriggerConfiguration)
    (entry : GroupTriggers) : GroupTriggers :=
  { entry with
    triggers := entry.triggers.map (JobTriggerDto.configured rows) }

namespace JobServiceImpl

variable {indexes : OrderedMap String (Nat × Nat)}
  {groups : List GroupTriggers} {rows : List JobTriggerConfiguration}

/-! ## One configuration row -/

theorem configured_concat_of_absent {row : JobTriggerConfiguration}
    (absent : ∀ place, triggerAt groups place ≠ some row.id.triggerId) :
    groups.map (GroupTriggers.configured (rows ++ [row])) =
      groups.map (GroupTriggers.configured rows) := by
  apply List.map_congr_left
  intro entry member
  obtain ⟨position, inside⟩ := List.mem_iff_getElem?.mp member
  have same : ∀ trigger ∈ entry.triggers,
      trigger.configured (rows ++ [row]) = trigger.configured rows := by
    intro trigger found
    obtain ⟨index, here⟩ := List.mem_iff_getElem?.mp found
    rw [JobTriggerDto.configured_concat, if_neg]
    intro equal
    apply absent (position, index)
    simp only [triggerAt, inside, Option.bind_some, here, Option.map_some,
      equal]
  rw [GroupTriggers.configured, GroupTriggers.configured,
    List.map_congr_left same]

/-- A row is stored in the trigger its position leads to, and in no other. -/
theorem configured_concat_of_located {row : JobTriggerConfiguration}
    {position index : Nat} {entry : GroupTriggers} {trigger : JobTriggerDto}
    (locates : indexes.Locates (triggerAt groups))
    (inside : groups[position]? = some entry)
    (here : entry.triggers[index]? = some trigger)
    (same : trigger.triggerId = row.id.triggerId) :
    (groups.map (GroupTriggers.configured rows)).set position
        { entry.configured rows with
          triggers := (entry.configured rows).triggers.set index
            ((trigger.configured rows).putConfiguration row) } =
      groups.map (GroupTriggers.configured (rows ++ [row])) := by
  have located : triggerAt groups (position, index) =
      some row.id.triggerId := by
    simp only [triggerAt, inside, Option.bind_some, here, Option.map_some,
      same]
  have elsewhere : ∀ place, triggerAt groups place =
      some row.id.triggerId → place = (position, index) := by
    intro place found
    exact locates.position_unique found located
  have replaced : (entry.configured rows).triggers.set index
      ((trigger.configured rows).putConfiguration row) =
        entry.triggers.map (JobTriggerDto.configured (rows ++ [row])) := by
    have stored := JobTriggerDto.configured_concat rows trigger row
    rw [if_pos same.symm] at stored
    rw [← stored, GroupTriggers.configured]
    apply set_map_eq_map _ _ here
    intro other found occurs different
    rw [JobTriggerDto.configured_concat, if_neg]
    intro equal
    apply different
    have place := elsewhere (position, other) (by
      simp only [triggerAt, inside, Option.bind_some, occurs,
        Option.map_some, equal])
    exact congrArg Prod.snd place
  rw [replaced]
  apply set_map_eq_map _ (GroupTriggers.configured (rows ++ [row])) inside
  intro other found occurs different
  rw [GroupTriggers.configured, GroupTriggers.configured]
  congr 1
  apply List.map_congr_left
  intro stored member
  obtain ⟨there, at_⟩ := List.mem_iff_getElem?.mp member
  rw [JobTriggerDto.configured_concat, if_neg]
  intro equal
  apply different
  have place := elsewhere (other, there) (by
    simp only [triggerAt, occurs, Option.bind_some, at_, Option.map_some,
      equal])
  exact congrArg Prod.fst place

theorem mergeConfiguration_configured
    (locates : indexes.Locates (triggerAt groups))
    (row : JobTriggerConfiguration) :
    mergeConfiguration indexes (groups.map (GroupTriggers.configured rows))
        row =
      .ok (groups.map (GroupTriggers.configured (rows ++ [row]))) := by
  cases found : indexes.get? row.id.triggerId with
  | none =>
      rw [configured_concat_of_absent (locates.absent found)]
      simp only [mergeConfiguration, found]
  | some place =>
      obtain ⟨position, index⟩ := place
      have located := (locates _ _).mp found
      obtain ⟨entry, inside, rest⟩ := Option.bind_eq_some_iff.mp located
      obtain ⟨trigger, here, same⟩ := Option.map_eq_some_iff.mp rest
      have entryAt : (groups.map (GroupTriggers.configured rows))[position]? =
          some (entry.configured rows) := by
        rw [List.getElem?_map, inside]
        rfl
      have triggerHere : (entry.configured rows).triggers[index]? =
          some (trigger.configured rows) := by
        rw [GroupTriggers.configured, List.getElem?_map, here]
        rfl
      simp only [mergeConfiguration, found, entryAt, triggerHere]
      rw [configured_concat_of_located locates inside here same]

/-- The loop over the configuration rows. -/
theorem mergeConfigurations_configured
    (locates : indexes.Locates (triggerAt groups))
    (rows : List JobTriggerConfiguration) :
    rows.foldlM (mergeConfiguration indexes) groups =
      .ok (groups.map (GroupTriggers.configured rows)) := by
  induction rows using List.reverseRecOn with
  | nil =>
      have same : GroupTriggers.configured [] = id := by
        ext1 entry
        have unchanged : JobTriggerDto.configured [] = id := rfl
        simp [GroupTriggers.configured, unchanged]
      rw [same, List.map_id]
      rfl
  | append_singleton rows row induction =>
      rw [List.foldlM_append, induction]
      exact (List.foldlM_cons ..).trans
        (congrArg (· >>= _) (mergeConfiguration_configured locates row))

/-! ## The result -/

section Result

variable {joinedRows : List JobRow}

theorem getGroupsAndTriggers_eq (joined : JoinedRows joinedRows)
    (configurations : List JobTriggerConfiguration) :
    getGroupsAndTriggers joinedRows configurations (some true) =
      .ok ((groupedRows joinedRows).map
        (GroupTriggers.configured configurations)) := by
  obtain ⟨folding, run, folded⟩ := foldRows_folded joined
  have merged := mergeConfigurations_configured folded.triggerIndexes
    configurations
  rw [getGroupsAndTriggers, run, ← folded.groups]
  cases empty : folding.groups with
  | nil =>
      apply (congrArg (· >>= _) rfl).trans
      simp [empty, bind, Except.bind, pure, Except.pure]
  | cons first rest =>
      rw [empty] at merged
      simpa [empty, bind, Except.bind] using merged

theorem getGroupsAndTriggers_plain (joined : JoinedRows joinedRows)
    (configurations : List JobTriggerConfiguration)
    {includeConfigs : Option Bool} (excluded : includeConfigs ≠ some true) :
    getGroupsAndTriggers joinedRows configurations includeConfigs =
      .ok (groupedRows joinedRows) := by
  obtain ⟨folding, run, folded⟩ := foldRows_folded joined
  rw [getGroupsAndTriggers, run, ← folded.groups]
  simp [excluded, bind, Except.bind, pure, Except.pure]

/-- With or without configurations, the groups are those of the rows. -/
theorem getGroupsAndTriggers_groups (joined : JoinedRows joinedRows)
    (configurations : List JobTriggerConfiguration)
    (includeConfigs : Option Bool) :
    ∃ groups, getGroupsAndTriggers joinedRows configurations includeConfigs =
        .ok groups ∧
      groups.map GroupTriggers.group =
        (groupedRows joinedRows).map GroupTriggers.group := by
  by_cases included : includeConfigs = some true
  · rw [included, getGroupsAndTriggers_eq joined]
    refine ⟨_, rfl, ?_⟩
    rw [List.map_map]
    rfl
  · exact ⟨_, getGroupsAndTriggers_plain joined configurations included, rfl⟩

theorem groupedRows_groups :
    (groupedRows joinedRows).map GroupTriggers.group =
      (firstBy JobRow.groupId joinedRows).map
        (fun row => .copy row.group) := by
  rw [groupedRows, grouped, List.map_map, List.map_map]
  rfl

theorem mem_groupedRows {entry : GroupTriggers} :
    entry ∈ groupedRows joinedRows ↔
      ∃ first ∈ firstBy JobRow.groupId joinedRows,
        entry = groupOf (first, (firstBy JobRow.triggerId joinedRows).filter
          (fun row => row.groupId = first.groupId)) := by
  simp only [groupedRows, grouped, List.mem_map]
  constructor
  · intro found
    obtain ⟨_, ⟨first, member, same⟩, equal⟩ := found
    exact ⟨first, member, by rw [← equal, ← same]⟩
  · intro found
    obtain ⟨first, member, equal⟩ := found
    exact ⟨_, ⟨first, member, rfl⟩, equal.symm⟩

theorem configured_triggerId (configurations : List JobTriggerConfiguration)
    (trigger : JobTriggerDto) :
    (trigger.configured configurations).triggerId = trigger.triggerId :=
  congrArg JobTrigger.triggerId
    (trigger.configured_properties configurations)

/-- The returned triggers are those of the rows that come first. -/
theorem returned_iff {configurations : List JobTriggerConfiguration}
    {returned : JobTriggerDto} :
    (∃ entry ∈ (groupedRows joinedRows).map
      (GroupTriggers.configured configurations),
      returned ∈ entry.triggers) ↔
      ∃ row ∈ firstBy JobRow.triggerId joinedRows,
        returned = (groupedTrigger row).configured configurations := by
  have perm := grouped_flatMap_perm JobRow.groupId JobRow.triggerId
    joinedRows
  simp only [← perm.mem_iff, List.mem_flatMap, groupedRows, List.mem_map]
  constructor
  · intro occurs
    obtain ⟨_, ⟨_, ⟨item, member, rfl⟩, rfl⟩, found⟩ := occurs
    obtain ⟨_, plain, rfl⟩ := List.mem_map.mp found
    obtain ⟨row, inside, rfl⟩ := List.mem_map.mp plain
    exact ⟨row, ⟨item, member, inside⟩, rfl⟩
  · intro occurs
    obtain ⟨row, ⟨item, member, inside⟩, same⟩ := occurs
    refine ⟨_, ⟨_, ⟨item, member, rfl⟩, rfl⟩, ?_⟩
    rw [same]
    exact List.mem_map_of_mem (List.mem_map_of_mem inside)

end Result

end JobServiceImpl

open JobServiceImpl

/-- The groups of joined rows, with the configurations of their triggers. -/
structure Assembled (rows : List JobRow)
    (configurations : List JobTriggerConfiguration)
    (groups : List GroupTriggers) : Prop where
  order : groups.map GroupTriggers.group =
    (firstBy JobRow.groupId rows).map (fun row =>
      { groupId := row.group.groupId, properties := some row.group })
  nonempty : ∀ entry ∈ groups, entry.triggers ≠ []
  triggers : ∀ entry ∈ groups,
    entry.triggers.map (fun trigger =>
      (trigger.properties, trigger.type, trigger.group)) =
      ((firstBy JobRow.triggerId rows).filter
        (fun row => row.groupId = entry.group.groupId)).map
        (fun row => (row.trigger, row.type,
          { groupId := row.group.groupId, properties := none }))
  once : ((groups.flatMap GroupTriggers.triggers).map
    JobTriggerDto.triggerId).Perm
      ((firstBy JobRow.triggerId rows).map JobRow.triggerId)
  attached : ∀ entry ∈ groups, ∀ trigger ∈ entry.triggers,
    ∀ parameterName, trigger.configurations.get? parameterName =
      lastConfiguration configurations trigger.triggerId parameterName

/-- Whatever rows the two tasks have read, the call returns the groups of the
joined rows, each trigger with the configuration rows of its id. -/
theorem getGroupsAndTriggers_assembled {rows : List JobRow}
    (joined : JoinedRows rows)
    (configurations : List JobTriggerConfiguration) :
    ∃ groups,
      getGroupsAndTriggers rows configurations (some true) = .ok groups ∧
        Assembled rows configurations groups := by
  refine ⟨_, getGroupsAndTriggers_eq joined configurations, ?_, ?_, ?_, ?_,
    ?_⟩
  · rw [List.map_map]
    exact groupedRows_groups
  · intro entry member
    obtain ⟨plain, inside, rfl⟩ := List.mem_map.mp member
    obtain ⟨item, occurs, rfl⟩ := List.mem_map.mp inside
    simpa [GroupTriggers.configured, groupOf] using
      grouped_ne_nil joined occurs
  · intro entry member
    obtain ⟨plain, inside, rfl⟩ := List.mem_map.mp member
    obtain ⟨first, _, rfl⟩ := mem_groupedRows.mp inside
    simp only [GroupTriggers.configured, groupOf, List.map_map]
    apply List.map_congr_left
    intro row _
    simp [JobTriggerDto.configured, JobTriggerDto.putConfigurations_eq,
      groupedTrigger, JobGroupDto.ofId]
  · have perm := groupedRows_triggers rows
    simpa [List.flatMap_map, GroupTriggers.configured, List.map_flatMap,
      configured_triggerId, Function.comp_def] using perm
  · intro entry member trigger found parameterName
    obtain ⟨plain, inside, rfl⟩ := List.mem_map.mp member
    obtain ⟨first, _, rfl⟩ := mem_groupedRows.mp inside
    obtain ⟨unconfigured, occurs, rfl⟩ := List.mem_map.mp found
    obtain ⟨row, _, rfl⟩ := List.mem_map.mp occurs
    rw [JobTriggerDto.configured_get?, configured_triggerId]
    simp [groupedTrigger]

/-- A row of a trigger in a group. -/
def JobRow.sample (triggerId groupId : String) : JobRow :=
  { trigger :=
      { triggerId := triggerId
        groupId := groupId
        typeId := "type"
        name := "trigger"
        description := none
        cronExpression := "0 * * * * *"
        zoneOffsetSeconds := none
        instanceId := none
        isRunOnStartup := no
        isActive := yes
        isSaveResult := no
        lastRunTime := none
        lastRunData := none }
    type :=
      { typeId := "type"
        name := "type"
        classname := "Job"
        description := none
        isSingleRun := none
        isRunning := none
        isSaveResult := no
        lastRunTime := none
        lastRunData := none
        lastRunTriggerId := none }
    group :=
      { groupId := groupId
        name := "group"
        description := none
        isActive := yes
        zoneOffsetSeconds := 0 } }

/-- Rows of two groups that alternate, and a configuration row of a trigger
that is not returned. -/
theorem getGroupsAndTriggers_alternating :
    ∃ groups,
      getGroupsAndTriggers
          [.sample "t1" "g1", .sample "t2" "g2", .sample "t3" "g1"]
          [⟨⟨"t3", "type", "p"⟩, some "3", none⟩,
            ⟨⟨"t4", "type", "p"⟩, some "4", none⟩] (some true) =
        .ok groups ∧
      groups.map (fun entry => entry.triggers.map (fun trigger =>
          (trigger.triggerId, trigger.configurations.get? "p"))) =
        [[("t1", none), ("t3", some ⟨some "3", none⟩)], [("t2", none)]] ∧
      Assembled [.sample "t1" "g1", .sample "t2" "g2", .sample "t3" "g1"]
        [⟨⟨"t3", "type", "p"⟩, some "3", none⟩,
          ⟨⟨"t4", "type", "p"⟩, some "4", none⟩] groups := by
  have joined : JoinedRows
      [.sample "t1" "g1", .sample "t2" "g2", .sample "t3" "g1"] := by
    decide
  obtain ⟨groups, returned, assembled⟩ := getGroupsAndTriggers_assembled
    joined
    [⟨⟨"t3", "type", "p"⟩, some "3", none⟩,
      ⟨⟨"t4", "type", "p"⟩, some "4", none⟩]
  refine ⟨groups, returned, ?_, assembled⟩
  cases returned
  decide

end SpringTemplate.Job
