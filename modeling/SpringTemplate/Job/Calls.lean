import Mathlib.Data.List.Perm.Basic
import SpringTemplate.Job.Merging

/-!
# The calls

A call runs two tasks, each of them a transaction of its own.  A task reads
the rows of its statement at the database state it runs on, in whatever order
the database returns them, and the call merges what the two tasks have read.
-/

namespace SpringTemplate.Job

open Hql

open JobServiceImpl

def JobTriggerConfiguration.objects (row : JobTriggerConfiguration) :
    List JobObject :=
  [.configuration row]

/-- The rows of a statement, in any order. -/
def Reads (tables : JobTables) (statement : Statement Value)
    (rows : List (List JobObject)) : Prop :=
  ∃ selected, jobSchema.select tables statement = some selected ∧
    rows.Perm selected

section Calls

variable (triggerState configurationState : JobTables)

/-- What `getGroupsAndTriggers` returns when its trigger task runs on one
state and its configuration task, if there is one, on another. -/
def GroupsCall (instanceId : Option String) (isActive : Option Bool)
    (groupIds : Option (List (Option String))) (includeConfigs : Option Bool)
    (result : Except JobException (List GroupTriggers)) : Prop :=
  ∃ rows configurations,
    Reads triggerState
        (JobServiceImpl.triggerStatement instanceId isActive groupIds)
        (rows.map JobRow.objects) ∧
      (includeConfigs = some true →
        Reads configurationState
          (JobServiceImpl.configurationStatement instanceId isActive groupIds)
          (configurations.map JobTriggerConfiguration.objects)) ∧
      result = JobServiceImpl.getGroupsAndTriggers rows configurations
        includeConfigs

/-- What `getTrigger` returns, likewise. -/
def TriggerCall (triggerId : Option String) (includeConfigs : Option Bool)
    (result : Except JobException (Option JobTriggerDto)) : Prop :=
  ∃ rows configurations,
    Reads triggerState (JobServiceImpl.triggerByIdStatement triggerId)
        (rows.map JobRow.objects) ∧
      (includeConfigs = some true →
        Reads configurationState
          (JobServiceImpl.configurationByIdStatement triggerId)
          (configurations.map JobTriggerConfiguration.objects)) ∧
      result = JobServiceImpl.getTrigger rows configurations includeConfigs

end Calls

/-! ## The statements of `getTrigger` -/

section ById

variable (triggerId : Option String)

def triggerByIdCondition : Condition :=
  .equal (.path ["a", "triggerId"]) (.parameter 1)

def configurationByIdCondition : Condition :=
  .equal (.path ["id", "triggerId"]) (.parameter 1)

theorem triggerByIdStatement_text :
    (JobServiceImpl.triggerByIdStatement triggerId).text =
      "select a, b, c " ++ "from JobTrigger a " ++ "join a.type b " ++
        "join a.group c " ++ "where a.triggerId=?1 " := rfl

theorem triggerByIdStatement_bindings :
    (JobServiceImpl.triggerByIdStatement triggerId).bindings =
      [(1, textOrNull triggerId)] := rfl

theorem configurationByIdStatement_text :
    (JobServiceImpl.configurationByIdStatement triggerId).text =
      "from JobTriggerConfiguration " ++ "where id.triggerId=?1 " := rfl

theorem configurationByIdStatement_bindings :
    (JobServiceImpl.configurationByIdStatement triggerId).bindings =
      [(1, textOrNull triggerId)] := rfl

theorem parse_triggerByIdStatement :
    parseQuery (JobServiceImpl.triggerByIdStatement triggerId).text =
      some (triggerQuery triggerByIdCondition) := by
  have condition : Hql.tokens "where a.triggerId=?1 " =
      [.keyword .where, .name ["a", "triggerId"], .symbol '=', .symbol '?',
        .number 1] := by
    rw [Hql.tokens, (String.toList_ofList : "where a.triggerId=?1 ".toList = _)]
    rfl
  rw [triggerByIdStatement_text, parseQuery,
    (endsBlank_group.append _).tokens_append, tokens_triggerHead, condition]
  rfl

theorem parse_configurationByIdStatement :
    parseQuery (JobServiceImpl.configurationByIdStatement triggerId).text =
      some (configurationQuery configurationByIdCondition) := by
  have tokens : Hql.tokens
      ("from JobTriggerConfiguration " ++ "where id.triggerId=?1 ") =
      [.keyword .from, .name ["JobTriggerConfiguration"], .keyword .where,
        .name ["id", "triggerId"], .symbol '=', .symbol '?', .number 1] := by
    rw [Hql.tokens]
    simp only [String.toList_append,
      (String.toList_ofList : "from JobTriggerConfiguration ".toList = _),
      (String.toList_ofList : "where id.triggerId=?1 ".toList = _)]
    rfl
  rw [configurationByIdStatement_text, parseQuery, tokens]
  rfl

variable (tables : JobTables)

def JobTables.triggerRowsById : List JobRow :=
  tables.joined.filter (fun row => some row.triggerId = triggerId)

def JobTables.configurationRowsById : List JobTriggerConfiguration :=
  tables.configurations.filter (fun row =>
    some row.id.triggerId = triggerId)

theorem JobTables.configurationRowsById_triggerId {tables : JobTables}
    {id : String} {row : JobTriggerConfiguration}
    (member : row ∈ tables.configurationRowsById (some id)) :
    row.id.triggerId = id :=
  Option.some.inj (of_decide_eq_true (List.mem_filter.mp member).2)

theorem equal_textOrNull (text : String) (other : Option String) :
    Truth.equal (some (Value.text text)) (other.map .text) = .yes ↔
      some text = other := by
  rw [Truth.equal_eq_yes]
  cases other <;> simp [eq_comm]

theorem triggerByIdStatement_rows :
    jobSchema.select tables (JobServiceImpl.triggerByIdStatement triggerId) =
      some ((tables.triggerRowsById triggerId).map JobRow.objects) := by
  have condition : ∀ row : JobRow,
      jobSchema.truth tables [(1, textOrNull triggerId)] triggerByIdCondition
        row.scope = .yes ↔ some row.triggerId = triggerId :=
    fun row => equal_textOrNull row.triggerId triggerId
  have bound : Bound triggerByIdCondition.placeholders
      [(1, textOrNull triggerId)] := by
    simp [Bound, triggerByIdCondition, Condition.placeholders,
      Operand.placeholders]
  simp only [Schema.select, parse_triggerByIdStatement, Option.bind_eq_bind,
    Option.bind_some, triggerQuery, Query.placeholders, Option.map_some,
    Option.getD_some, bound, if_true, Schema.queryRows, scopes_triggerSource,
    Schema.Holds, Option.mem_some_iff, forall_eq', List.filter_map,
    List.map_map, Function.comp_def, triggerByIdStatement_bindings,
    condition]
  rfl

theorem configurationByIdStatement_rows :
    jobSchema.select tables
        (JobServiceImpl.configurationByIdStatement triggerId) =
      some ((tables.configurationRowsById triggerId).map
        JobTriggerConfiguration.objects) := by
  have condition : ∀ row : JobTriggerConfiguration,
      jobSchema.truth tables [(1, textOrNull triggerId)]
        configurationByIdCondition [("", .configuration row)] = .yes ↔
        some row.id.triggerId = triggerId :=
    fun row => equal_textOrNull row.id.triggerId triggerId
  have bound : Bound configurationByIdCondition.placeholders
      [(1, textOrNull triggerId)] := by
    simp [Bound, configurationByIdCondition, Condition.placeholders,
      Operand.placeholders]
  simp only [Schema.select, parse_configurationByIdStatement,
    Option.bind_eq_bind, Option.bind_some, configurationQuery,
    Query.placeholders, Option.map_some, Option.getD_some, bound, if_true,
    Schema.queryRows, scopes_configurationSource, Schema.Holds,
    Option.mem_some_iff, forall_eq', List.filter_map, List.map_map,
    Function.comp_def, configurationByIdStatement_bindings, condition]
  rfl

end ById

/-! ## What the tasks read -/

theorem JobRow.objects_injective : Function.Injective JobRow.objects := by
  intro row other same
  cases row
  cases other
  simpa [JobRow.objects] using same

theorem JobTriggerConfiguration.objects_injective :
    Function.Injective JobTriggerConfiguration.objects := by
  intro row other same
  simpa [JobTriggerConfiguration.objects] using same

section Reads

variable {db : JobDatabase} {instanceId : Option String}
  {isActive : Option Bool} {groupIds : Option (List (Option String))}
  {triggerId : Option String} {rows : List JobRow}
  {configurations : List JobTriggerConfiguration}

theorem reads_triggers :
    Reads db.toJobTables
        (JobServiceImpl.triggerStatement instanceId isActive groupIds)
        (rows.map JobRow.objects) ↔
      rows.Perm (db.triggerRows instanceId isActive groupIds) := by
  rw [Reads, triggerStatement_rows]
  simp only [Option.some.injEq, exists_eq_left',
    List.map_perm_map_iff JobRow.objects_injective]
  rfl

theorem reads_configurations :
    Reads db.toJobTables
        (JobServiceImpl.configurationStatement instanceId isActive groupIds)
        (configurations.map JobTriggerConfiguration.objects) ↔
      configurations.Perm
        (db.configurationRows instanceId isActive groupIds) := by
  have injective := JobTriggerConfiguration.objects_injective
  rw [Reads, configurationStatement_rows]
  simp only [Option.some.injEq, exists_eq_left']
  exact List.map_perm_map_iff injective

theorem reads_triggerById :
    Reads db.toJobTables (JobServiceImpl.triggerByIdStatement triggerId)
        (rows.map JobRow.objects) ↔
      rows.Perm (db.triggerRowsById triggerId) := by
  rw [Reads, triggerByIdStatement_rows]
  simp only [Option.some.injEq, exists_eq_left',
    List.map_perm_map_iff JobRow.objects_injective]

theorem reads_configurationById :
    Reads db.toJobTables
        (JobServiceImpl.configurationByIdStatement triggerId)
        (configurations.map JobTriggerConfiguration.objects) ↔
      configurations.Perm (db.configurationRowsById triggerId) := by
  rw [Reads, configurationByIdStatement_rows]
  simp only [Option.some.injEq, exists_eq_left',
    List.map_perm_map_iff JobTriggerConfiguration.objects_injective]

end Reads

/-! ## What the calls return -/

namespace JobDatabase

variable (db other : JobDatabase)

theorem triggerRowsById_of_member {trigger : JobTrigger}
    (member : trigger ∈ db.triggers) :
    ∃ row, db.triggerRowsById (some trigger.triggerId) = [row] ∧
      row.trigger = trigger := by
  have chosen : (db.triggerRowsById (some trigger.triggerId)).map
      JobRow.trigger = [trigger] := by
    rw [← KeyedTable.filter_key_of_member db.triggers_nodup member]
    apply db.joined_triggers
    intro row _
    simp only [Option.some.injEq, JobRow.triggerId]
  obtain ⟨row, single, same⟩ := List.map_eq_singleton_iff.mp chosen
  exact ⟨row, single, same⟩

/-- The query for one trigger has no row or the row of the trigger. -/
theorem triggerRowsById_cases (triggerId : Option String) :
    db.triggerRowsById triggerId = [] ∨
      ∃ row, db.triggerRowsById triggerId = [row] ∧
        row.trigger ∈ db.triggers ∧ some row.triggerId = triggerId := by
  cases rows : db.triggerRowsById triggerId with
  | nil => exact .inl rfl
  | cons first rest =>
      have member : first ∈ db.triggerRowsById triggerId := by
        rw [rows]
        exact List.mem_cons_self
      obtain ⟨joined, asked⟩ := List.mem_filter.mp member
      have same := of_decide_eq_true asked
      have stored := (JobTables.mem_joined.mp joined).1
      obtain ⟨row, single, sameTrigger⟩ := db.triggerRowsById_of_member stored
      have again : db.triggerRowsById triggerId = [row] := by
        rw [← same]
        exact single
      refine .inr ⟨row, rows.symm.trans again, ?_, ?_⟩
      · rw [sameTrigger]
        exact stored
      · rw [JobRow.triggerId, sameTrigger]
        exact same

/-- The rows of the trigger query have one row for each trigger. -/
theorem triggerRows_nodup (instanceId : Option String)
    (isActive : Option Bool) (groupIds : Option (List (Option String))) :
    ((db.triggerRows instanceId isActive groupIds).map
      JobRow.triggerId).Nodup := by
  have chosen := congrArg (List.map JobTrigger.triggerId)
    (db.triggerRows_triggers instanceId isActive groupIds)
  rw [List.map_map] at chosen
  have same : (db.triggerRows instanceId isActive groupIds).map
      JobRow.triggerId = _ := chosen
  rw [same]
  exact List.Nodup.sublist (List.filter_sublist.map _) db.triggers_nodup

/-- The call returns a trigger or null, whatever order the rows come in. -/
theorem triggerCall_returns (triggerId : Option String)
    (includeConfigs : Option Bool) :
    ∃ returned, TriggerCall db.toJobTables other.toJobTables triggerId
      includeConfigs (.ok returned) := by
  have rows := reads_triggerById.mpr (.refl (db.triggerRowsById triggerId))
  have configurations := fun _ : includeConfigs = some true =>
    reads_configurationById.mpr (.refl
      (other.configurationRowsById triggerId))
  rcases db.triggerRowsById_cases triggerId with none | ⟨row, single, _⟩
  · exact ⟨_, _, _, rows, configurations, by rw [none]; rfl⟩
  · by_cases included : includeConfigs = some true
    · exact ⟨_, _, _, rows, configurations, by
        rw [single, getTrigger, if_pos included]⟩
    · exact ⟨_, _, _, rows, configurations, by
        rw [single, getTrigger, if_neg included]⟩

theorem triggerCall_iff {triggerId : Option String}
    {result : Except JobException (Option JobTriggerDto)} :
    TriggerCall db.toJobTables other.toJobTables triggerId (some true)
        result ↔
      ∃ rows configurations, rows.Perm (db.triggerRowsById triggerId) ∧
        configurations.Perm (other.configurationRowsById triggerId) ∧
        result = getTrigger rows configurations (some true) := by
  simp only [TriggerCall, reads_triggerById, reads_configurationById,
    forall_const]

/-- The call for a trigger that the trigger task finds. -/
theorem triggerCall_of_member {trigger : JobTrigger}
    (member : trigger ∈ db.triggers)
    {result : Except JobException (Option JobTriggerDto)} :
    TriggerCall db.toJobTables other.toJobTables (some trigger.triggerId)
        (some true) result ↔
      ∃ row configurations, db.triggerRowsById (some trigger.triggerId) =
          [row] ∧ row.trigger = trigger ∧
        configurations.Perm
          (other.configurationRowsById (some trigger.triggerId)) ∧
        result = .ok (some
          ((singleTrigger row).putConfigurations configurations)) := by
  obtain ⟨row, single, same⟩ := db.triggerRowsById_of_member member
  rw [triggerCall_iff]
  constructor
  · intro ⟨rows, configurations, rowsPerm, perm, equal⟩
    rw [single] at rowsPerm
    have one := List.perm_singleton.mp rowsPerm
    exact ⟨row, configurations, single, same, perm, by rw [equal, one]; rfl⟩
  · intro ⟨found, configurations, singleton, _, perm, equal⟩
    refine ⟨[found], configurations, ?_, perm, by rw [equal]; rfl⟩
    rw [singleton]

/-- The call returns groups, whatever order the rows come in. -/
theorem groupsCall_returns (instanceId : Option String)
    (isActive : Option Bool) (groupIds : Option (List (Option String)))
    (includeConfigs : Option Bool) :
    ∃ groups, GroupsCall db.toJobTables other.toJobTables instanceId isActive
      groupIds includeConfigs (.ok groups) := by
  have joined : JoinedRows (db.triggerRows instanceId isActive groupIds) :=
    db.joinedRows List.filter_sublist.subset
  obtain ⟨groups, run, _⟩ := getGroupsAndTriggers_groups joined
    (other.configurationRows instanceId isActive groupIds) includeConfigs
  exact ⟨groups, _, _, reads_triggers.mpr (.refl _),
    fun _ => reads_configurations.mpr (.refl _), run.symm⟩

theorem groupsCall_iff {instanceId : Option String} {isActive : Option Bool}
    {groupIds : Option (List (Option String))}
    {result : Except JobException (List GroupTriggers)} :
    GroupsCall db.toJobTables other.toJobTables instanceId isActive groupIds
        (some true) result ↔
      ∃ rows configurations,
        rows.Perm (db.triggerRows instanceId isActive groupIds) ∧
        configurations.Perm
          (other.configurationRows instanceId isActive groupIds) ∧
        result = .ok ((groupedRows rows).map
          (GroupTriggers.configured configurations)) := by
  simp only [GroupsCall, reads_triggers, reads_configurations, forall_const]
  apply exists_congr
  intro rows
  apply exists_congr
  intro configurations
  apply and_congr_right
  intro perm
  have joined : JoinedRows rows :=
    db.joinedRows (List.Subset.trans perm.subset List.filter_sublist.subset)
  rw [getGroupsAndTriggers_eq joined]

/-- One trigger with a name and a configuration of its type, and perhaps one
of another type under the same parameter name. -/
def sample (name own : String) (foreign : Option String) : JobDatabase :=
  { groups := [(JobRow.sample "t" "g").group]
    types := [(JobRow.sample "t" "g").type,
      { (JobRow.sample "t" "g").type with typeId := "other" }]
    parameters := [⟨⟨"type", "p"⟩, none⟩, ⟨⟨"other", "p"⟩, none⟩]
    triggers := [{ (JobRow.sample "t" "g").trigger with name := name }]
    configurations := ⟨⟨"t", "type", "p"⟩, some own, none⟩ ::
      foreign.toList.map (fun value =>
        ⟨⟨"t", "other", "p"⟩, some value, none⟩)
    groups_nodup := by decide
    types_nodup := by decide
    parameters_nodup := by decide
    triggers_nodup := by simp
    configurations_nodup := by cases foreign <;> simp
    parameter_type := by decide
    trigger_group := by simp [JobRow.sample]
    trigger_type := by simp [JobRow.sample]
    configuration_trigger := by cases foreign <;> simp [JobRow.sample]
    configuration_parameter := by
      cases foreign <;> simp [JobTriggerConfigurationId.parameter] }

end JobDatabase

end SpringTemplate.Job
