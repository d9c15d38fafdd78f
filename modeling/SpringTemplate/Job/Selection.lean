import SpringTemplate.Library.KeyedTable
import SpringTemplate.Job.TriggerRows

/-!
# The selection of `getGroupsAndTriggers`

On a database whose keys hold, every trigger has one joined row.  `Requested`
says which triggers the arguments ask for, in terms of the tables alone.  The
trigger query selects these triggers, each once, and the configuration query
the configuration rows of these triggers.
-/

namespace SpringTemplate.Job

open Hql

/-- The trigger is asked for: both active flags match, it has no instance or
the given one, and its group is among the given ones. -/
structure Requested (tables : JobTables) (instanceId : Option String)
    (isActive : Option Bool) (groupIds : Option (List (Option String)))
    (trigger : JobTrigger) : Prop where
  active : isActive = none ∨
    trigger.isActive = (if isActive = some true then 'Y' else 'N') ∧
    ∃ group ∈ tables.groups, group.groupId = trigger.groupId ∧
      group.isActive = if isActive = some true then 'Y' else 'N'
  instance_ : trigger.instanceId = none ∨
    ∃ given ∈ instanceId, JavaText.trim given ≠ "" ∧
      trigger.instanceId = some (JavaText.trim given)
  group : groupIds = none ∨ groupIds = some [] ∨
    some trigger.groupId ∈ groupIds.getD []

instance (tables : JobTables) (instanceId : Option String)
    (isActive : Option Bool) (groupIds : Option (List (Option String)))
    (trigger : JobTrigger) :
    Decidable (Requested tables instanceId isActive groupIds trigger) :=
  decidable_of_iff
    ((isActive = none ∨
      trigger.isActive = (if isActive = some true then 'Y' else 'N') ∧
      ∃ group ∈ tables.groups, group.groupId = trigger.groupId ∧
        group.isActive = if isActive = some true then 'Y' else 'N') ∧ _ ∧ _)
    ⟨fun ⟨active, instance_, group⟩ => ⟨active, instance_, group⟩,
      fun requested =>
        ⟨requested.active, requested.instance_, requested.group⟩⟩

theorem trimmedInstance_iff {instanceId stored : Option String} :
    trimmedInstance instanceId ≠ "" ∧
        stored = some (trimmedInstance instanceId) ↔
      ∃ given ∈ instanceId, JavaText.trim given ≠ "" ∧
        stored = some (JavaText.trim given) := by
  cases instanceId with
  | none => simp [trimmedInstance]
  | some given => simp [trimmedInstance]

/-! ## The joined row of a trigger -/

theorem JobTables.mem_joined {tables : JobTables} {row : JobRow} :
    row ∈ tables.joined ↔ row.trigger ∈ tables.triggers ∧
      (row.type ∈ tables.types ∧ row.type.typeId = row.trigger.typeId) ∧
      row.group ∈ tables.groups ∧
      row.group.groupId = row.trigger.groupId := by
  obtain ⟨trigger, type, group⟩ := row
  simp only [JobTables.joined, List.mem_flatMap, List.mem_filter,
    decide_eq_true_eq, List.mem_map, JobRow.mk.injEq]
  constructor
  · rintro ⟨_, member, _, type, _, group, rfl, rfl, rfl⟩
    exact ⟨member, type, group⟩
  · rintro ⟨member, type, group⟩
    exact ⟨_, member, _, type, _, group, rfl, rfl, rfl⟩

namespace JobDatabase

variable (db : JobDatabase)

/-- A trigger has exactly one joined row. -/
theorem joined_of_trigger {trigger : JobTrigger}
    (member : trigger ∈ db.triggers) :
    ∃ row ∈ db.joined, row.trigger = trigger ∧
      (db.types.filter (fun type => type.typeId = trigger.typeId)).flatMap
        (fun type =>
          (db.groups.filter
            (fun group => group.groupId = trigger.groupId)).map
            (fun group => (⟨trigger, type, group⟩ : JobRow))) = [row] := by
  obtain ⟨type, typeMember, typeKey, types⟩ := KeyedTable.exists_filter_key
    db.types_nodup (db.trigger_type trigger member)
  obtain ⟨group, groupMember, groupKey, groups⟩ :=
    KeyedTable.exists_filter_key db.groups_nodup
      (db.trigger_group trigger member)
  refine ⟨⟨trigger, type, group⟩, ?_, rfl, ?_⟩
  · exact JobTables.mem_joined.mpr
      ⟨member, ⟨typeMember, typeKey⟩, groupMember, groupKey⟩
  · rw [types, groups]
    rfl

variable {db} {instanceId : Option String} {isActive : Option Bool}
  {groupIds : Option (List (Option String))}

/-- A joined row is selected if and only if its trigger is asked for. -/
theorem selects_iff_requested {row : JobRow} (joined : row ∈ db.joined) :
    Selects instanceId isActive groupIds row ↔
      Requested db.toJobTables instanceId isActive groupIds row.trigger := by
  obtain ⟨_, _, groupMember, groupKey⟩ := JobTables.mem_joined.mp joined
  constructor
  · intro selects
    refine ⟨?_, selects.instance_.imp id trimmedInstance_iff.mp, ?_⟩
    · rcases selects.active with unrestricted | ⟨trigger, group⟩
      · exact .inl unrestricted
      · exact .inr ⟨trigger, _, groupMember, groupKey, group⟩
    · rw [← groupKey]
      exact selects.group
  · intro requested
    refine ⟨?_, requested.instance_.imp id trimmedInstance_iff.mpr, ?_⟩
    · rcases requested.active with
        unrestricted | ⟨trigger, group, member, key, flag⟩
      · exact .inl unrestricted
      · have same : group = row.group := KeyedTable.eq_of_key_eq
          db.groups_nodup member groupMember (key.trans groupKey.symm)
        exact .inr ⟨trigger, same ▸ flag⟩
    · rw [groupKey]
      exact requested.group

variable (db instanceId isActive groupIds)

/-- The rows of the trigger query. -/
def triggerRows : List JobRow :=
  db.joined.filter (fun row => Selects instanceId isActive groupIds row)

/-- The rows of the configuration query. -/
def configurationRows : List JobTriggerConfiguration :=
  db.configurations.filter (fun configuration =>
    Configures db.toJobTables instanceId isActive groupIds configuration)

/-- Joined rows chosen by their triggers are the chosen triggers. -/
theorem joined_triggers {keep : JobRow → Bool} {asked : JobTrigger → Bool}
    (agrees : ∀ row ∈ db.joined, keep row = asked row.trigger) :
    (db.joined.filter keep).map JobRow.trigger = db.triggers.filter asked := by
  apply KeyedTable.map_filter_flatMap
  intro trigger member
  obtain ⟨row, joined, same, single⟩ := db.joined_of_trigger member
  refine ⟨row, single, same, ?_⟩
  rw [agrees row joined, same]

theorem triggerRows_triggers :
    (db.triggerRows instanceId isActive groupIds).map JobRow.trigger =
      db.triggers.filter (fun trigger =>
        Requested db.toJobTables instanceId isActive groupIds trigger) := by
  apply db.joined_triggers
  intro row joined
  rw [decide_eq_decide, selects_iff_requested joined]

theorem configures_iff (configuration : JobTriggerConfiguration) :
    Configures db.toJobTables instanceId isActive groupIds configuration ↔
      ∃ trigger ∈ db.triggers,
        Requested db.toJobTables instanceId isActive groupIds trigger ∧
          trigger.triggerId = configuration.id.triggerId := by
  constructor
  · rintro ⟨row, joined, selects, key⟩
    exact ⟨row.trigger, (JobTables.mem_joined.mp joined).1,
      (selects_iff_requested joined).mp selects, key⟩
  · rintro ⟨trigger, member, requested, key⟩
    obtain ⟨row, joined, rfl, _⟩ := db.joined_of_trigger member
    exact ⟨row, joined, (selects_iff_requested joined).mpr requested, key⟩

end JobDatabase

/-! ## The two queries -/

/-- What the conditions of both statements are about, and the values that
belong there. -/
def intendedBindings (instanceId : Option String) (isActive : Option Bool)
    (groupIds : Option (List (Option String))) :
    List (Path × Parameter Value) :=
  (match isActive with
    | none => []
    | some flag =>
        [(["a", "isActive"],
            .single (some (.flag (if flag then 'Y' else 'N')))),
          (["c", "isActive"],
            .single (some (.flag (if flag then 'Y' else 'N'))))]) ++
  (match instanceId with
    | none => []
    | some given =>
        if JavaText.trim given = "" then []
        else
          [(["a", "instance", "instanceId"],
            .single (some (.text (JavaText.trim given))))]) ++
  (match groupIds with
    | some (groupId :: rest) =>
        [(["c", "groupId"],
          .collection ((groupId :: rest).map (Option.map .text)))]
    | _ => [])

/-- The statement parses, its placeholders are exactly the bound positions,
and each condition is compared with the value that belongs there. -/
def WellBound (statement : Statement Value)
    (intended : List (Path × Parameter Value)) : Prop :=
  ∃ query, parseQuery statement.text = some query ∧
    Bound query.placeholders statement.bindings ∧
    query.compared.map (fun comparison =>
      (comparison.1, statement.bindings.lookup comparison.2)) =
      intended.map (fun pair => (pair.1, some pair.2))

theorem intendedBindings_eq (instanceId : Option String)
    (isActive : Option Bool) (groupIds : Option (List (Option String))) :
    intendedBindings instanceId isActive groupIds =
      (match isActive with
        | none => []
        | some flag =>
            [(["a", "isActive"],
                .single (some (.flag (yesOrNo (some flag))))),
              (["c", "isActive"],
                .single (some (.flag (yesOrNo (some flag)))))]) ++
      (if trimmedInstance instanceId = "" then []
      else
        [(["a", "instance", "instanceId"],
          .single (some (.text (trimmedInstance instanceId))))]) ++
      (match groupIds with
        | some (groupId :: rest) =>
            [(["c", "groupId"],
              .collection ((groupId :: rest).map (Option.map .text)))]
        | _ => []) := by
  rcases instanceId with _ | given <;> rcases isActive with _ | _ | _ <;> rfl

theorem condition_compared (instanceId : Option String)
    (isActive : Option Bool) (groupIds : Option (List (Option String))) :
    (Sections.of instanceId isActive groupIds).condition.compared.map
      (fun comparison => (comparison.1,
        (sectionBindings instanceId isActive groupIds).lookup
          comparison.2)) =
      (intendedBindings instanceId isActive groupIds).map
        (fun pair => (pair.1, some pair.2)) := by
  rw [intendedBindings_eq]
  unfold Sections.of sectionBindings sectionParameters
  cases isActive <;> by_cases named : trimmedInstance instanceId = "" <;>
    rcases groupIds with _ | _ | ⟨groupId, rest⟩ <;>
    simp [named, positioned, Sections.condition, Sections.groupCondition,
      Sections.instanceCondition, Condition.compared, List.lookup_cons]

theorem triggerStatement_wellBound (instanceId : Option String)
    (isActive : Option Bool) (groupIds : Option (List (Option String))) :
    WellBound (JobServiceImpl.triggerStatement instanceId isActive groupIds)
      (intendedBindings instanceId isActive groupIds) := by
  refine ⟨_, parse_triggerStatement instanceId isActive groupIds, ?_, ?_⟩
  · rw [triggerStatement_eq]
    exact condition_bound instanceId isActive groupIds
  · rw [triggerStatement_eq]
    exact condition_compared instanceId isActive groupIds

theorem configurationStatement_wellBound (instanceId : Option String)
    (isActive : Option Bool) (groupIds : Option (List (Option String))) :
    WellBound
      (JobServiceImpl.configurationStatement instanceId isActive groupIds)
      (intendedBindings instanceId isActive groupIds) := by
  refine ⟨_, parse_configurationStatement instanceId isActive groupIds,
    ?_, ?_⟩
  · rw [configurationStatement_eq]
    exact condition_bound instanceId isActive groupIds
  · rw [configurationStatement_eq]
    exact condition_compared instanceId isActive groupIds

/-- Both assembled statements bind every placeholder to its value; the trigger
query selects exactly the triggers asked for, each once and with its type and
group; and the configuration query selects exactly the configuration rows of
these triggers. -/
theorem getGroupsAndTriggers_queries (db : JobDatabase)
    (instanceId : Option String) (isActive : Option Bool)
    (groupIds : Option (List (Option String))) :
    WellBound (JobServiceImpl.triggerStatement instanceId isActive groupIds)
        (intendedBindings instanceId isActive groupIds) ∧
      WellBound
        (JobServiceImpl.configurationStatement instanceId isActive groupIds)
        (intendedBindings instanceId isActive groupIds) ∧
      (∃ rows : List JobRow,
        jobSchema.select db.toJobTables
          (JobServiceImpl.triggerStatement instanceId isActive groupIds) =
          some (rows.map JobRow.objects) ∧
        rows.map JobRow.trigger = db.triggers.filter (fun trigger =>
          Requested db.toJobTables instanceId isActive groupIds trigger) ∧
        ∀ row ∈ rows,
          (row.type ∈ db.types ∧ row.type.typeId = row.trigger.typeId) ∧
            row.group ∈ db.groups ∧
            row.group.groupId = row.trigger.groupId) ∧
      jobSchema.select db.toJobTables
        (JobServiceImpl.configurationStatement instanceId isActive
          groupIds) =
        some ((db.configurations.filter (fun configuration =>
          ∃ trigger ∈ db.triggers,
            Requested db.toJobTables instanceId isActive groupIds trigger ∧
              trigger.triggerId = configuration.id.triggerId)).map
          (fun configuration => [.configuration configuration])) := by
  refine ⟨triggerStatement_wellBound instanceId isActive groupIds,
    configurationStatement_wellBound instanceId isActive groupIds,
    ⟨db.triggerRows instanceId isActive groupIds,
      triggerStatement_rows db.toJobTables instanceId isActive groupIds,
      db.triggerRows_triggers instanceId isActive groupIds, ?_⟩, ?_⟩
  · intro row member
    have joined := List.mem_of_mem_filter member
    exact (JobTables.mem_joined.mp joined).2
  · simp only [configurationStatement_rows, db.configures_iff]

end SpringTemplate.Job
