import SpringTemplate.Library.RowOrder
import SpringTemplate.Job.Groups
import SpringTemplate.Job.RunResults
import SpringTemplate.Job.TriggerMap

/-!
# Reads and reported run results

The scheduler reports run results while triggers are read.  A report writes
columns that no query asks about and no key refers to, so it selects nothing
else: a read returns what it returned before, with the reported columns as
the last writers have left them.
-/

namespace SpringTemplate.Job

open JobServiceImpl

variable (calls later : List ResultCall)

/-! ## Reports keep the keys -/

@[simp] theorem JobType.afterCalls_typeId (type : JobType) :
    (type.afterCalls calls).typeId = type.typeId := rfl

@[simp] theorem JobTrigger.afterCalls_triggerId (trigger : JobTrigger) :
    (trigger.afterCalls calls).triggerId = trigger.triggerId := rfl

@[simp] theorem JobTrigger.afterCalls_groupId (trigger : JobTrigger) :
    (trigger.afterCalls calls).groupId = trigger.groupId := rfl

@[simp] theorem JobTrigger.afterCalls_typeId (trigger : JobTrigger) :
    (trigger.afterCalls calls).typeId = trigger.typeId := rfl

theorem JobTables.afterCalls_typeIds (tables : JobTables) :
    (tables.afterCalls calls).types.map JobType.typeId =
      tables.types.map JobType.typeId := by
  simp [JobTables.afterCalls, Function.comp_def]

theorem JobTables.afterCalls_triggerIds (tables : JobTables) :
    (tables.afterCalls calls).triggers.map JobTrigger.triggerId =
      tables.triggers.map JobTrigger.triggerId := by
  simp [JobTables.afterCalls, Function.comp_def]

theorem JobTables.forall_afterCalls_triggers {tables : JobTables}
    {holds : JobTrigger → Prop}
    (unchanged : ∀ trigger, holds trigger → holds (trigger.afterCalls calls))
    (before : ∀ trigger ∈ tables.triggers, holds trigger) :
    ∀ trigger ∈ (tables.afterCalls calls).triggers, holds trigger := by
  intro trigger member
  obtain ⟨earlier, found, rfl⟩ := List.mem_map.mp member
  exact unchanged earlier (before earlier found)

/-- A database after reports: its declared keys still hold. -/
def JobDatabase.afterCalls (db : JobDatabase) : JobDatabase where
  toJobTables := db.toJobTables.afterCalls calls
  groups_nodup := db.groups_nodup
  types_nodup := by
    rw [JobTables.afterCalls_typeIds]
    exact db.types_nodup
  parameters_nodup := db.parameters_nodup
  triggers_nodup := by
    rw [JobTables.afterCalls_triggerIds]
    exact db.triggers_nodup
  configurations_nodup := db.configurations_nodup
  parameter_type := by
    rw [JobTables.afterCalls_typeIds]
    exact db.parameter_type
  trigger_group := JobTables.forall_afterCalls_triggers calls
    (fun _ holds => holds) db.trigger_group
  trigger_type := by
    rw [JobTables.afterCalls_typeIds]
    exact JobTables.forall_afterCalls_triggers calls (fun _ holds => holds)
      db.trigger_type
  configuration_trigger := by
    rw [JobTables.afterCalls_triggerIds]
    exact db.configuration_trigger
  configuration_parameter := db.configuration_parameter

@[simp] theorem JobDatabase.afterCalls_tables (db : JobDatabase) :
    (db.afterCalls calls).toJobTables = db.toJobTables.afterCalls calls :=
  rfl

/-! ## Reports select nothing else -/

def JobRow.afterCalls (row : JobRow) : JobRow :=
  { trigger := row.trigger.afterCalls calls
    type := row.type.afterCalls calls
    group := row.group }

theorem JobTables.joined_afterCalls (tables : JobTables) :
    (tables.afterCalls calls).joined =
      tables.joined.map (JobRow.afterCalls calls) := by
  simp only [JobTables.joined, JobTables.afterCalls, List.flatMap_map,
    List.map_flatMap, List.filter_map, List.map_map, Function.comp_def,
    JobType.afterCalls_typeId, JobTrigger.afterCalls_typeId,
    JobTrigger.afterCalls_groupId, JobRow.afterCalls]
  rfl

section Selected

variable (db : JobDatabase) (instanceId : Option String)
  (isActive : Option Bool) (groupIds : Option (List (Option String)))
  (triggerId : Option String)

theorem selects_afterCalls (row : JobRow) :
    Selects instanceId isActive groupIds (row.afterCalls calls) ↔
      Selects instanceId isActive groupIds row :=
  ⟨fun selects => ⟨selects.active, selects.instance_, selects.group⟩,
    fun selects => ⟨selects.active, selects.instance_, selects.group⟩⟩

theorem triggerRows_afterCalls :
    (db.afterCalls calls).triggerRows instanceId isActive groupIds =
      (db.triggerRows instanceId isActive groupIds).map
        (JobRow.afterCalls calls) := by
  rw [JobDatabase.triggerRows, JobDatabase.triggerRows,
    JobDatabase.afterCalls_tables, JobTables.joined_afterCalls, List.filter_map]
  simp only [Function.comp_def, selects_afterCalls]

theorem triggerRowsById_afterCalls :
    (db.afterCalls calls).triggerRowsById triggerId =
      (db.triggerRowsById triggerId).map (JobRow.afterCalls calls) := by
  rw [JobTables.triggerRowsById, JobTables.triggerRowsById,
    JobDatabase.afterCalls_tables, JobTables.joined_afterCalls, List.filter_map]
  rfl

theorem paired_afterCalls (ids : List (Option String)) :
    (db.afterCalls calls).paired.filter
        (fun pair => some pair.1.triggerId ∈ ids) =
      (db.paired.filter (fun pair => some pair.1.triggerId ∈ ids)).map
        (Prod.map (JobTrigger.afterCalls calls) id) := by
  have paired : (db.afterCalls calls).paired =
      db.paired.map (Prod.map (JobTrigger.afterCalls calls) id) := by
    simp only [JobDatabase.afterCalls_tables, JobTables.paired,
      JobTables.afterCalls, List.flatMap_map, List.map_flatMap, List.map_map,
      JobTrigger.afterCalls_groupId]
    rfl
  rw [paired, List.filter_map]
  rfl

theorem configurationRows_afterCalls :
    (db.afterCalls calls).configurationRows instanceId isActive groupIds =
      db.configurationRows instanceId isActive groupIds := by
  apply List.filter_congr
  intro row _
  rw [decide_eq_decide, JobDatabase.afterCalls_tables, Configures, Configures,
    JobTables.joined_afterCalls]
  simp only [List.mem_map, exists_exists_and_eq_and, selects_afterCalls]
  rfl

theorem configurationRowsById_afterCalls :
    (db.afterCalls calls).configurationRowsById triggerId =
      db.configurationRowsById triggerId := rfl

end Selected

/-! ## Answers after reports -/

def JobTriggerDto.afterCalls (trigger : JobTriggerDto) : JobTriggerDto :=
  { trigger with
    properties := trigger.properties.afterCalls calls
    type := trigger.type.afterCalls calls }

def GroupTriggers.afterCalls (entry : GroupTriggers) : GroupTriggers :=
  { entry with
    triggers := entry.triggers.map (JobTriggerDto.afterCalls calls) }

def MappedTrigger.afterCalls (entry : MappedTrigger) : MappedTrigger :=
  { entry with properties := entry.properties.afterCalls calls }

theorem JobTriggerDto.putConfigurations_afterCalls (trigger : JobTriggerDto)
    (rows : List JobTriggerConfiguration) :
    (trigger.afterCalls calls).putConfigurations rows =
      (trigger.putConfigurations rows).afterCalls calls := by
  induction rows generalizing trigger with
  | nil => rfl
  | cons row rows induction => exact induction (trigger.putConfiguration row)

theorem JobTriggerDto.configured_afterCalls (trigger : JobTriggerDto)
    (rows : List JobTriggerConfiguration) :
    (trigger.afterCalls calls).configured rows =
      (trigger.configured rows).afterCalls calls :=
  trigger.putConfigurations_afterCalls calls _

theorem GroupTriggers.configured_afterCalls (entry : GroupTriggers)
    (rows : List JobTriggerConfiguration) :
    (entry.afterCalls calls).configured rows =
      (entry.configured rows).afterCalls calls := by
  simp only [GroupTriggers.configured, GroupTriggers.afterCalls,
    List.map_map, Function.comp_def, JobTriggerDto.configured_afterCalls]

theorem groupedRows_afterCalls (rows : List JobRow) :
    groupedRows (rows.map (JobRow.afterCalls calls)) =
      (groupedRows rows).map (GroupTriggers.afterCalls calls) := by
  have changed : ∀ entry : JobRow × List JobRow,
      groupOf (entry.1.afterCalls calls,
          entry.2.map (JobRow.afterCalls calls)) =
        (groupOf entry).afterCalls calls := by
    intro entry
    simp only [groupOf, GroupTriggers.afterCalls, List.map_map]
    rfl
  rw [groupedRows, grouped_map, List.map_map, groupedRows, List.map_map]
  simp only [Function.comp_def, changed]
  rfl

theorem JoinedRows.afterCalls {rows : List JobRow} (joined : JoinedRows rows) :
    JoinedRows (rows.map (JobRow.afterCalls calls)) := by
  intro row member other otherMember same
  obtain ⟨earlier, found, rfl⟩ := List.mem_map.mp member
  obtain ⟨otherEarlier, otherFound, rfl⟩ := List.mem_map.mp otherMember
  exact joined earlier found otherEarlier otherFound same

theorem getGroupsAndTriggers_afterCalls {rows : List JobRow}
    (joined : JoinedRows rows)
    (configurations : List JobTriggerConfiguration)
    (includeConfigs : Option Bool) :
    getGroupsAndTriggers (rows.map (JobRow.afterCalls calls)) configurations
        includeConfigs =
      (getGroupsAndTriggers rows configurations includeConfigs).map
        (List.map (GroupTriggers.afterCalls calls)) := by
  have changed := joined.afterCalls calls
  by_cases included : includeConfigs = some true
  · rw [included, getGroupsAndTriggers_eq joined,
      getGroupsAndTriggers_eq changed, groupedRows_afterCalls, Except.map,
      List.map_map, List.map_map]
    simp only [Function.comp_def, GroupTriggers.configured_afterCalls]
  · rw [getGroupsAndTriggers_plain joined _ included,
      getGroupsAndTriggers_plain changed _ included, groupedRows_afterCalls]
    rfl

theorem getTrigger_afterCalls (rows : List JobRow)
    (configurations : List JobTriggerConfiguration)
    (includeConfigs : Option Bool) :
    getTrigger (rows.map (JobRow.afterCalls calls)) configurations
        includeConfigs =
      (getTrigger rows configurations includeConfigs).map
        (Option.map (JobTriggerDto.afterCalls calls)) := by
  rcases rows with _ | ⟨row, _ | ⟨second, rest⟩⟩
  · rfl
  · have single := (singleTrigger row).putConfigurations_afterCalls calls
      configurations
    simp only [getTrigger, List.map_cons, List.map_nil]
    split
    · simp only [Except.map, Option.map_some, ← single]
      rfl
    · rfl
  · rfl

theorem mapTriggers_afterCalls (rows : List (JobTrigger × JobGroup)) :
    mapTriggers (rows.map (Prod.map (JobTrigger.afterCalls calls) id)) =
      (mapTriggers rows).mapValues (MappedTrigger.afterCalls calls) := by
  rw [mapTriggers_eq, mapTriggers_eq, OrderedMap.mapValues_putAll,
    List.map_map, List.map_map]
  rfl

/-! ## Calls after reports -/

section Reads

variable {calls later} (db : JobDatabase) {instanceId : Option String}
  {isActive : Option Bool} {groupIds : Option (List (Option String))}
  {triggerId : Option String} {includeConfigs : Option Bool}

theorem groupsCall_afterCalls
    {result : Except JobException (List GroupTriggers)} :
    GroupsCall (db.afterCalls calls).toJobTables
        (db.afterCalls later).toJobTables instanceId isActive groupIds
        includeConfigs result ↔
      ∃ earlier, GroupsCall db.toJobTables db.toJobTables instanceId isActive
          groupIds includeConfigs earlier ∧
        result = earlier.map (List.map (GroupTriggers.afterCalls calls)) := by
  have joined : ∀ {rows : List JobRow},
      rows.Perm (db.triggerRows instanceId isActive groupIds) →
      JoinedRows rows := by
    intro rows perm
    exact db.joinedRows
      (List.Subset.trans perm.subset List.filter_sublist.subset)
  simp only [GroupsCall, reads_triggers, reads_configurations,
    triggerRows_afterCalls, configurationRows_afterCalls]
  constructor
  · rintro ⟨rows, configurations, rowsPerm, perm, rfl⟩
    obtain ⟨order, orderPerm, rfl⟩ := exists_map_of_perm rowsPerm
    refine ⟨_, ⟨order, configurations, orderPerm, perm, rfl⟩, ?_⟩
    exact getGroupsAndTriggers_afterCalls calls (joined orderPerm) _ _
  · rintro ⟨_, ⟨rows, configurations, rowsPerm, perm, rfl⟩, rfl⟩
    refine ⟨rows.map (JobRow.afterCalls calls), configurations,
      rowsPerm.map _, perm, ?_⟩
    exact (getGroupsAndTriggers_afterCalls calls (joined rowsPerm) _ _).symm

theorem triggerCall_afterCalls
    {result : Except JobException (Option JobTriggerDto)} :
    TriggerCall (db.afterCalls calls).toJobTables
        (db.afterCalls later).toJobTables triggerId includeConfigs result ↔
      ∃ earlier, TriggerCall db.toJobTables db.toJobTables triggerId
          includeConfigs earlier ∧
        result =
          earlier.map (Option.map (JobTriggerDto.afterCalls calls)) := by
  simp only [TriggerCall, reads_triggerById, reads_configurationById,
    triggerRowsById_afterCalls, configurationRowsById_afterCalls]
  constructor
  · rintro ⟨rows, configurations, rowsPerm, perm, rfl⟩
    obtain ⟨order, orderPerm, rfl⟩ := exists_map_of_perm rowsPerm
    refine ⟨_, ⟨order, configurations, orderPerm, perm, rfl⟩, ?_⟩
    exact getTrigger_afterCalls calls order _ _
  · rintro ⟨_, ⟨rows, configurations, rowsPerm, perm, rfl⟩, rfl⟩
    refine ⟨rows.map (JobRow.afterCalls calls), configurations,
      rowsPerm.map _, perm, ?_⟩
    exact (getTrigger_afterCalls calls rows _ _).symm

theorem groupListCall_afterCalls {listed : List JobGroupDto} :
    GroupListCall (db.afterCalls calls).toJobTables instanceId isActive
        listed ↔
      GroupListCall db.toJobTables instanceId isActive listed := by
  rw [JobDatabase.groupListCall_iff, JobDatabase.groupListCall_iff,
    triggerRows_afterCalls, List.map_map]
  rfl

theorem triggerMapCall_afterCalls {triggerIds : Option (List (Option String))}
    {mapped : OrderedMap String MappedTrigger} :
    TriggerMapCall (db.afterCalls calls).toJobTables triggerIds mapped ↔
      ∃ earlier, TriggerMapCall db.toJobTables triggerIds earlier ∧
        mapped = earlier.mapValues (MappedTrigger.afterCalls calls) := by
  rcases triggerIds with _ | _ | ⟨first, rest⟩
  · simp only [TriggerMapCall, exists_eq_left]
    rfl
  · simp only [TriggerMapCall, exists_eq_left]
    rfl
  · simp only [TriggerMapCall, reads_triggerMap, paired_afterCalls]
    constructor
    · rintro ⟨rows, perm, rfl⟩
      obtain ⟨order, orderPerm, rfl⟩ := exists_map_of_perm perm
      exact ⟨_, ⟨order, orderPerm, rfl⟩, mapTriggers_afterCalls calls order⟩
    · rintro ⟨_, ⟨order, orderPerm, rfl⟩, rfl⟩
      exact ⟨_, orderPerm.map _, (mapTriggers_afterCalls calls order).symm⟩

/-- Whatever order the rows come in, a key has the same entry. -/
theorem triggerMapCalls_get? {triggerIds : Option (List (Option String))}
    {mapped earlier : OrderedMap String MappedTrigger}
    (call : TriggerMapCall (db.afterCalls calls).toJobTables triggerIds mapped)
    (earlierCall : TriggerMapCall db.toJobTables triggerIds earlier)
    (key : String) :
    mapped.get? key =
      (earlier.get? key).map (MappedTrigger.afterCalls calls) := by
  apply Option.ext
  intro entry
  have after : mapped.get? key = some entry ↔ _ :=
    (db.afterCalls calls).triggerMap_get? call
  rw [after, Option.map_eq_some_iff]
  simp only [db.triggerMap_get? earlierCall]
  rw [JobDatabase.afterCalls_tables, JobTables.joined_afterCalls]
  constructor
  · rintro ⟨asked, row, member, equal⟩
    obtain ⟨found, joined, rfl⟩ := List.mem_map.mp member
    refine ⟨(mappedEntry found.pair).2, ⟨asked, found, joined, ?_⟩, ?_⟩
    · have sameKey : key = found.pair.1.triggerId := congrArg Prod.fst equal
      rw [sameKey]
      rfl
    · exact (congrArg Prod.snd equal).symm
  · rintro ⟨before, ⟨asked, row, joined, equal⟩, rfl⟩
    refine ⟨asked, row.afterCalls calls, List.mem_map_of_mem joined, ?_⟩
    have sameKey : key = row.pair.1.triggerId := congrArg Prod.fst equal
    have sameEntry : before = (mappedEntry row.pair).2 :=
      congrArg Prod.snd equal
    rw [sameKey, sameEntry]
    rfl

end Reads

/-- Reports run to their end and leave the tables of the last writers. -/
theorem runCalls_database (db : JobDatabase) :
    runCalls calls db.toJobTables =
      some (db.afterCalls calls).toJobTables := by
  rw [JobDatabase.afterCalls_tables]
  induction calls using List.reverseRecOn with
  | nil => exact congrArg some (JobTables.afterCalls_nil _).symm
  | append_singleton calls call induction =>
      have last := run_eq (db.toJobTables.afterCalls calls) call
      rw [JobTables.afterCalls_concat] at last
      rw [runCalls, List.foldlM_append, ← runCalls, induction]
      simp [last]

/-- While only the scheduler writes, a read is a read of one moment.  Whatever
has been reported when its trigger task runs, and whatever when its
configuration task runs, a call returns what it returned before the reports,
with the reported columns of that first moment. -/
theorem reads_after_reports (db : JobDatabase) :
    ∃ tables laterTables, runCalls calls db.toJobTables = some tables ∧
      runCalls later db.toJobTables = some laterTables ∧
      (∀ instanceId isActive groupIds includeConfigs result,
        GroupsCall tables laterTables instanceId isActive groupIds
            includeConfigs result ↔
          ∃ earlier, GroupsCall db.toJobTables db.toJobTables instanceId
              isActive groupIds includeConfigs earlier ∧
            result =
              earlier.map (List.map (GroupTriggers.afterCalls calls))) ∧
      (∀ triggerId includeConfigs result,
        TriggerCall tables laterTables triggerId includeConfigs result ↔
          ∃ earlier, TriggerCall db.toJobTables db.toJobTables triggerId
              includeConfigs earlier ∧
            result =
              earlier.map (Option.map (JobTriggerDto.afterCalls calls))) ∧
      (∀ instanceId isActive listed,
        GroupListCall tables instanceId isActive listed ↔
          GroupListCall db.toJobTables instanceId isActive listed) ∧
      (∀ triggerIds mapped,
        TriggerMapCall tables triggerIds mapped ↔
          ∃ earlier, TriggerMapCall db.toJobTables triggerIds earlier ∧
            mapped = earlier.mapValues (MappedTrigger.afterCalls calls)) ∧
      ∀ triggerIds mapped earlier,
        TriggerMapCall tables triggerIds mapped →
        TriggerMapCall db.toJobTables triggerIds earlier →
        ∀ key, mapped.get? key =
          (earlier.get? key).map (MappedTrigger.afterCalls calls) := by
  refine ⟨_, _, runCalls_database calls db, runCalls_database later db,
    ?_, ?_, ?_, ?_, ?_⟩
  · intro instanceId isActive groupIds includeConfigs result
    exact groupsCall_afterCalls db
  · intro triggerId includeConfigs result
    exact triggerCall_afterCalls db
  · intro instanceId isActive listed
    exact groupListCall_afterCalls db
  · intro triggerIds mapped
    exact triggerMapCall_afterCalls db
  · intro triggerIds mapped earlier call earlierCall
    exact triggerMapCalls_get? db call earlierCall

end SpringTemplate.Job
