import SpringTemplate.Job.Calls

/-!
# Two transactions in one call

The trigger task and the configuration task of a call run in transactions of
their own, so another transaction can commit between them.  What the call
returns is then put together from two states: its triggers are those of one
state, their configurations those of the other.  It is the answer of a single
state when the configuration task finds, for the returned triggers, the rows
of the state the triggers come from.
-/

namespace SpringTemplate.Job

open JobServiceImpl

/-- A returned trigger without its configurations. -/
def JobTriggerDto.plain (trigger : JobTriggerDto) : JobTriggerDto :=
  { trigger with configurations := .empty }

def GroupTriggers.plain (entry : GroupTriggers) : GroupTriggers :=
  { entry with triggers := entry.triggers.map JobTriggerDto.plain }

section Arguments

variable (triggerState configurationState : JobDatabase)
  (instanceId : Option String) (isActive : Option Bool)
  (groupIds : Option (List (Option String))) (triggerId : Option String)

/-- For every trigger asked for on the trigger task's state, the configuration
query selects on the other state the configuration rows the trigger has on the
trigger task's state. -/
def SameConfigurations : Prop :=
  ∀ trigger ∈ triggerState.triggers,
    Requested triggerState.toJobTables instanceId isActive groupIds trigger →
    ∀ row : JobTriggerConfiguration, row.id.triggerId = trigger.triggerId →
      (row ∈ configurationState.configurationRows instanceId isActive
          groupIds ↔
        row ∈ triggerState.configurations)

/-- The same for the one trigger `getTrigger` asks for. -/
def SameConfigurationsById : Prop :=
  ∀ trigger ∈ triggerState.triggers, some trigger.triggerId = triggerId →
    ∀ row : JobTriggerConfiguration, row.id.triggerId = trigger.triggerId →
      (row ∈ configurationState.configurations ↔
        row ∈ triggerState.configurations)

/-- The groups are those of the trigger task's state, with the configurations
that the configuration task has read on its own state. -/
def MergedGroups (groups : List GroupTriggers) : Prop :=
  GroupsCall triggerState.toJobTables triggerState.toJobTables instanceId
      isActive groupIds none (.ok (groups.map GroupTriggers.plain)) ∧
    ∃ read, Reads configurationState.toJobTables
        (configurationStatement instanceId isActive groupIds)
        (read.map JobTriggerConfiguration.objects) ∧
      ∀ entry ∈ groups, ∀ trigger ∈ entry.triggers, ∀ parameterName,
        trigger.configurations.get? parameterName =
          lastConfiguration read trigger.triggerId parameterName

/-- The same for the trigger, if any, that `getTrigger` returns. -/
def MergedTrigger (found : Option JobTriggerDto) : Prop :=
  TriggerCall triggerState.toJobTables triggerState.toJobTables triggerId
      none (.ok (found.map JobTriggerDto.plain)) ∧
    ∃ read, Reads configurationState.toJobTables
        (configurationByIdStatement triggerId)
        (read.map JobTriggerConfiguration.objects) ∧
      ∀ trigger ∈ found, ∀ parameterName,
        trigger.configurations.get? parameterName =
          lastConfiguration read trigger.triggerId parameterName

end Arguments

/-! ## Merged answers -/

namespace JobTriggerDto

theorem putConfigurations_plain (trigger : JobTriggerDto)
    (rows : List JobTriggerConfiguration) :
    (trigger.putConfigurations rows).plain = trigger.plain := by
  rw [putConfigurations_eq]
  rfl

end JobTriggerDto

theorem groupedRows_plain (rows : List JobRow)
    (configurations : List JobTriggerConfiguration) :
    ((groupedRows rows).map (GroupTriggers.configured configurations)).map
      GroupTriggers.plain = groupedRows rows := by
  have unconfigured : ∀ row : JobRow,
      ((groupedTrigger row).configured configurations).plain =
        groupedTrigger row :=
    fun row => JobTriggerDto.putConfigurations_plain _ _
  rw [List.map_map]
  apply (List.map_congr_left _).trans (List.map_id _)
  intro entry member
  obtain ⟨first, _, rfl⟩ := mem_groupedRows.mp member
  simp [GroupTriggers.configured, GroupTriggers.plain, groupOf,
    Function.comp_def, unconfigured]

section Merged

variable {triggerState configurationState : JobDatabase}
  {instanceId : Option String} {isActive : Option Bool}
  {groupIds : Option (List (Option String))} {triggerId : Option String}

theorem groupsCall_merged
    {result : Except JobException (List GroupTriggers)}
    (call : GroupsCall triggerState.toJobTables
      configurationState.toJobTables instanceId isActive groupIds
      (some true) result) :
    ∃ groups, result = .ok groups ∧
      MergedGroups triggerState configurationState instanceId isActive
        groupIds groups := by
  obtain ⟨rows, read, perm, readPerm, same⟩ :=
    (triggerState.groupsCall_iff configurationState).mp call
  refine ⟨_, same, ?_, read, reads_configurations.mpr readPerm, ?_⟩
  · have joined : JoinedRows rows := triggerState.joinedRows
      (List.Subset.trans perm.subset List.filter_sublist.subset)
    rw [groupedRows_plain]
    refine ⟨rows, [], reads_triggers.mpr perm, ?_, ?_⟩
    · intro included
      contradiction
    · exact (getGroupsAndTriggers_plain joined [] (by simp)).symm
  · intro entry inside trigger found parameterName
    obtain ⟨row, _, rfl⟩ := returned_iff.mp ⟨entry, inside, found⟩
    rw [JobTriggerDto.configured_get?, configured_triggerId]
    simp [groupedTrigger]

theorem triggerCall_merged
    {result : Except JobException (Option JobTriggerDto)}
    (call : TriggerCall triggerState.toJobTables
      configurationState.toJobTables triggerId (some true) result) :
    ∃ found, result = .ok found ∧
      MergedTrigger triggerState configurationState triggerId found := by
  obtain ⟨rows, read, perm, readPerm, same⟩ :=
    (triggerState.triggerCall_iff configurationState).mp call
  have readRows := reads_configurationById.mpr readPerm
  have readTrigger := reads_triggerById.mpr perm
  rcases triggerState.triggerRowsById_cases triggerId with
    none_ | ⟨row, single, _, sameId⟩
  · rw [none_] at perm
    have empty := perm.eq_nil
    subst empty
    refine ⟨none, same, ?_, read, readRows, by simp⟩
    exact ⟨[], [], readTrigger, by simp, rfl⟩
  · rw [single] at perm
    have one := List.perm_singleton.mp perm
    subst one
    refine ⟨_, same, ?_, read, readRows, ?_⟩
    · rw [Option.map_some, JobTriggerDto.putConfigurations_plain]
      exact ⟨[row], [], readTrigger, by simp, rfl⟩
    · intro trigger found parameterName
      obtain rfl := Option.some.inj found
      rw [← sameId] at readPerm
      have sameTrigger : ((singleTrigger row).putConfigurations
          read).triggerId = row.triggerId :=
        congrArg JobTrigger.triggerId
          (JobTriggerDto.putConfigurations_properties read _)
      rw [sameTrigger]
      apply JobTriggerDto.putConfigurations_attached read _ rfl
      intro row member
      exact JobTables.configurationRowsById_triggerId
        (readPerm.mem_iff.mp member)

/-! ## Answers of a single state -/

theorem JobDatabase.configurations_perm (db : JobDatabase)
    {keep : JobTriggerConfiguration → Bool}
    {read : List JobTriggerConfiguration} (nodup : read.Nodup)
    (same : ∀ row, row ∈ read ↔ row ∈ db.configurations ∧ keep row) :
    read.Perm (db.configurations.filter keep) := by
  have stored := (db.configurations_nodup.of_map).filter keep
  rw [List.perm_ext_iff_of_nodup nodup stored]
  intro row
  rw [same, List.mem_filter]

/-- Configuration rows of triggers that are not returned do not matter. -/
theorem groupedRows_configured_filter {rows : List JobRow}
    {read : List JobTriggerConfiguration}
    {keep : JobTriggerConfiguration → Bool}
    (kept : ∀ row ∈ rows, ∀ configuration ∈ read,
      configuration.id.triggerId = row.triggerId → keep configuration) :
    (groupedRows rows).map (GroupTriggers.configured (read.filter keep)) =
      (groupedRows rows).map (GroupTriggers.configured read) := by
  apply List.map_congr_left
  intro entry member
  obtain ⟨first, _, rfl⟩ := mem_groupedRows.mp member
  rw [GroupTriggers.configured, GroupTriggers.configured]
  congr 1
  apply List.map_congr_left
  intro trigger found
  obtain ⟨row, inside, rfl⟩ := List.mem_map.mp found
  have occurs := mem_of_mem_firstBy (List.mem_filter.mp inside).1
  rw [JobTriggerDto.configured, JobTriggerDto.configured, List.filter_filter]
  congr 1
  apply List.filter_congr
  intro configuration readHere
  by_cases same : configuration.id.triggerId = (groupedTrigger row).triggerId
  · simp [same, kept row occurs configuration readHere same]
  · simp [same]

theorem groupsCall_single
    (same : SameConfigurations triggerState configurationState instanceId
      isActive groupIds)
    {result : Except JobException (List GroupTriggers)}
    (call : GroupsCall triggerState.toJobTables
      configurationState.toJobTables instanceId isActive groupIds
      (some true) result) :
    GroupsCall triggerState.toJobTables triggerState.toJobTables instanceId
      isActive groupIds (some true) result := by
  obtain ⟨rows, read, perm, readPerm, equal⟩ :=
    (triggerState.groupsCall_iff configurationState).mp call
  have nodup : read.Nodup := readPerm.nodup_iff.mpr
    (configurationState.configurations_nodup.of_map.filter _)
  apply (triggerState.groupsCall_iff triggerState).mpr
  refine ⟨rows, read.filter (fun row =>
    Configures triggerState.toJobTables instanceId isActive groupIds row),
    perm, ?_, ?_⟩
  · apply triggerState.configurations_perm (nodup.filter _)
    intro row
    rw [List.mem_filter, readPerm.mem_iff]
    apply and_congr_left
    intro configures
    obtain ⟨trigger, member, requested, sameId⟩ :=
      (triggerState.configures_iff _ _ _ row).mp
        (of_decide_eq_true configures)
    exact same trigger member requested row sameId.symm
  · rw [equal, groupedRows_configured_filter]
    intro row member configuration _ sameId
    obtain ⟨joined, selects⟩ := List.mem_filter.mp (perm.mem_iff.mp member)
    exact decide_eq_true ⟨row, joined, of_decide_eq_true selects,
      sameId.symm⟩

theorem triggerCall_single
    (same : SameConfigurationsById triggerState configurationState triggerId)
    {result : Except JobException (Option JobTriggerDto)}
    (call : TriggerCall triggerState.toJobTables
      configurationState.toJobTables triggerId (some true) result) :
    TriggerCall triggerState.toJobTables triggerState.toJobTables triggerId
      (some true) result := by
  obtain ⟨rows, read, perm, readPerm, equal⟩ :=
    (triggerState.triggerCall_iff configurationState).mp call
  have nodup : read.Nodup := readPerm.nodup_iff.mpr
    (configurationState.configurations_nodup.of_map.filter _)
  apply (triggerState.triggerCall_iff triggerState).mpr
  rcases triggerState.triggerRowsById_cases triggerId with
    none_ | ⟨row, single, stored, sameId⟩
  · refine ⟨rows, _, perm, List.Perm.refl _, ?_⟩
    rw [none_] at perm
    rw [equal, perm.eq_nil]
    rfl
  · refine ⟨rows, read, perm, ?_, equal⟩
    apply triggerState.configurations_perm nodup
    intro configuration
    rw [readPerm.mem_iff, JobTables.configurationRowsById, List.mem_filter]
    apply and_congr_left
    intro asked
    have ofTrigger := of_decide_eq_true asked
    rw [← sameId] at ofTrigger
    exact same row.trigger stored sameId configuration
      (Option.some.inj ofTrigger)

end Merged

/-- Both calls merge two single reads, and answer like a call on the trigger
task's state when the configurations of the returned triggers are the same. -/
theorem calls_merged (triggerState configurationState : JobDatabase) :
    (∀ instanceId isActive groupIds result,
      GroupsCall triggerState.toJobTables configurationState.toJobTables
          instanceId isActive groupIds (some true) result →
        (∃ groups, result = .ok groups ∧
          MergedGroups triggerState configurationState instanceId isActive
            groupIds groups) ∧
        (SameConfigurations triggerState configurationState instanceId
            isActive groupIds →
          GroupsCall triggerState.toJobTables triggerState.toJobTables
            instanceId isActive groupIds (some true) result)) ∧
    ∀ triggerId result,
      TriggerCall triggerState.toJobTables configurationState.toJobTables
          triggerId (some true) result →
        (∃ found, result = .ok found ∧
          MergedTrigger triggerState configurationState triggerId found) ∧
        (SameConfigurationsById triggerState configurationState triggerId →
          TriggerCall triggerState.toJobTables triggerState.toJobTables
            triggerId (some true) result) :=
  ⟨fun _ _ _ _ call => ⟨groupsCall_merged call,
      fun same => groupsCall_single same call⟩,
    fun _ _ call => ⟨triggerCall_merged call,
      fun same => triggerCall_single same call⟩⟩

/-! ## A transaction in between -/

def namedDatabase (name value : String) : JobDatabase :=
  .sample name value none

/-- The name of a returned trigger and its configuration. -/
def JobTriggerDto.answer (trigger : JobTriggerDto) :
    String × Option Configuration :=
  (trigger.properties.name, trigger.configurations.get? "p")

section Named

variable {name value otherName otherValue : String}

theorem namedDatabase_trigger
    {result : Except JobException (Option JobTriggerDto)} :
    TriggerCall (namedDatabase name value).toJobTables
        (namedDatabase otherName otherValue).toJobTables (some "t")
        (some true) result →
      ∃ returned, result = .ok (some returned) ∧
        returned.answer = (name, some ⟨some otherValue, none⟩) := by
  intro call
  obtain ⟨rows, read, perm, readPerm, same⟩ :=
    ((namedDatabase name value).triggerCall_iff
      (namedDatabase otherName otherValue)).mp call
  have one := List.perm_singleton.mp perm
  have other := List.perm_singleton.mp readPerm
  subst one
  subst other
  exact ⟨_, same, rfl⟩

theorem namedDatabase_groups
    {result : Except JobException (List GroupTriggers)} :
    GroupsCall (namedDatabase name value).toJobTables
        (namedDatabase otherName otherValue).toJobTables none none none
        (some true) result →
      ∃ groups, result = .ok groups ∧
        (groups.flatMap GroupTriggers.triggers).map JobTriggerDto.answer =
          [(name, some ⟨some otherValue, none⟩)] := by
  intro call
  obtain ⟨rows, read, perm, readPerm, same⟩ :=
    ((namedDatabase name value).groupsCall_iff
      (namedDatabase otherName otherValue)).mp call
  have one := List.perm_singleton.mp perm
  have other := List.perm_singleton.mp readPerm
  subst one
  subst other
  exact ⟨_, same, rfl⟩

theorem namedDatabase_calls :
    (∃ result, TriggerCall (namedDatabase name value).toJobTables
      (namedDatabase otherName otherValue).toJobTables (some "t")
      (some true) result) ∧
    ∃ result, GroupsCall (namedDatabase name value).toJobTables
      (namedDatabase otherName otherValue).toJobTables none none none
      (some true) result :=
  ⟨⟨_, ((namedDatabase name value).triggerCall_iff _).mpr
      ⟨_, _, List.Perm.refl _, List.Perm.refl _, rfl⟩⟩,
    ⟨_, ((namedDatabase name value).groupsCall_iff _).mpr
      ⟨_, _, List.Perm.refl _, List.Perm.refl _, rfl⟩⟩⟩

end Named

/-- A transaction renames the trigger and changes its configuration.  A call
whose tasks run on the two sides of it returns what no single state has. -/
theorem renamedBetween_not_single :
    (∃ result, TriggerCall (namedDatabase "a" "1").toJobTables
        (namedDatabase "b" "2").toJobTables (some "t") (some true) result ∧
      ∀ state ∈ [namedDatabase "a" "1", namedDatabase "b" "2"],
        ¬ TriggerCall state.toJobTables state.toJobTables (some "t")
          (some true) result) ∧
    ∃ result, GroupsCall (namedDatabase "a" "1").toJobTables
        (namedDatabase "b" "2").toJobTables none none none (some true)
        result ∧
      ∀ state ∈ [namedDatabase "a" "1", namedDatabase "b" "2"],
        ¬ GroupsCall state.toJobTables state.toJobTables none none none
          (some true) result := by
  obtain ⟨⟨found, call⟩, ⟨result, groupsCall⟩⟩ :=
    @namedDatabase_calls "a" "1" "b" "2"
  constructor
  · refine ⟨found, call, ?_⟩
    obtain ⟨returned, rfl, answer⟩ := namedDatabase_trigger call
    have different : ∀ name value, TriggerCall
        (namedDatabase name value).toJobTables
        (namedDatabase name value).toJobTables (some "t") (some true)
        (.ok (some returned)) → name = "a" ∧ value = "2" := by
      intro name value single
      obtain ⟨_, same, other⟩ := namedDatabase_trigger single
      rw [← Option.some.inj (Except.ok.inj same), answer] at other
      simpa [eq_comm] using other
    simp only [List.mem_cons, List.not_mem_nil, or_false, forall_eq_or_imp,
      forall_eq]
    constructor
    · intro single
      exact absurd (different _ _ single).2 (by decide)
    · intro single
      exact absurd (different _ _ single).1 (by decide)
  · refine ⟨result, groupsCall, ?_⟩
    obtain ⟨groups, rfl, answer⟩ := namedDatabase_groups groupsCall
    have different : ∀ name value, GroupsCall
        (namedDatabase name value).toJobTables
        (namedDatabase name value).toJobTables none none none (some true)
        (.ok groups) → name = "a" ∧ value = "2" := by
      intro name value single
      obtain ⟨_, same, other⟩ := namedDatabase_groups single
      rw [← Except.ok.inj same, answer] at other
      simpa [eq_comm] using other
    simp only [List.mem_cons, List.not_mem_nil, or_false, forall_eq_or_imp,
      forall_eq]
    constructor
    · intro single
      exact absurd (different _ _ single).2 (by decide)
    · intro single
      exact absurd (different _ _ single).1 (by decide)

/-- A transaction that renames the trigger alone is not noticed. -/
theorem renamedAlone_single :
    ∃ result, TriggerCall (namedDatabase "a" "1").toJobTables
        (namedDatabase "b" "1").toJobTables (some "t") (some true) result ∧
      TriggerCall (namedDatabase "a" "1").toJobTables
        (namedDatabase "a" "1").toJobTables (some "t") (some true)
        result := by
  obtain ⟨result, call⟩ := (@namedDatabase_calls "a" "1" "b" "1").1
  have merged := (calls_merged (namedDatabase "a" "1")
    (namedDatabase "b" "1")).2 _ _ call
  refine ⟨result, call, merged.2 ?_⟩
  intro trigger _ _ row _
  exact Iff.rfl

end SpringTemplate.Job
