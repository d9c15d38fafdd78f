import SpringTemplate.Job.QueryText

/-!
# What the two statements select

A row of the trigger query is a trigger with its type and its group.
`Selects` says which rows the arguments of `getGroupsAndTriggers` ask for.
The conditions of both assembled statements are true of exactly these rows,
so the two statements speak of the same triggers.
-/

namespace SpringTemplate.Job

open Hql

structure JobRow where
  trigger : JobTrigger
  type : JobType
  group : JobGroup
  deriving DecidableEq, Repr

namespace JobRow

def objects (row : JobRow) : List JobObject :=
  [.trigger row.trigger, .type row.type, .group row.group]

def scope (row : JobRow) : Scope JobObject :=
  [("a", .trigger row.trigger), ("b", .type row.type),
    ("c", .group row.group)]

end JobRow

/-- The rows of the inner joins with type and group. -/
def JobTables.joined (tables : JobTables) : List JobRow :=
  tables.triggers.flatMap (fun trigger =>
    (tables.types.filter (fun type => type.typeId = trigger.typeId)).flatMap
      (fun type =>
        (tables.groups.filter
          (fun group => group.groupId = trigger.groupId)).map
          (fun group => ⟨trigger, type, group⟩)))

section Selection

variable (instanceId : Option String) (isActive : Option Bool)
  (groupIds : Option (List (Option String)))

/-- The row is asked for: both active flags match, the trigger has no
instance or the given one, and its group is among the given ones. -/
structure Selects (row : JobRow) : Prop where
  active : isActive = none ∨ row.trigger.isActive = yesOrNo isActive ∧
    row.group.isActive = yesOrNo isActive
  instance_ : row.trigger.instanceId = none ∨
    trimmedInstance instanceId ≠ "" ∧
      row.trigger.instanceId = some (trimmedInstance instanceId)
  group : groupIds = none ∨ groupIds = some [] ∨
    some row.group.groupId ∈ groupIds.getD []

instance decidableAmong (groupId : String) :
    Decidable (some groupId ∈ groupIds.getD []) :=
  inferInstance

instance (row : JobRow) :
    Decidable (Selects instanceId isActive groupIds row) :=
  decidable_of_iff (_ ∧ _ ∧ _)
    ⟨fun ⟨active, instance_, group⟩ => ⟨active, instance_, group⟩,
      fun selects => ⟨selects.active, selects.instance_, selects.group⟩⟩

/-- What is bound in both statements. -/
abbrev sectionBindings : Bindings Value :=
  positioned (sectionParameters instanceId isActive groupIds)

/-! ## The bound values -/

theorem lookup_active (present : isActive.isSome) :
    (sectionBindings instanceId isActive groupIds).lookup 1 =
      some (.single (some (.flag (yesOrNo isActive)))) := by
  cases isActive with
  | none => simp at present
  | some active => rfl

theorem lookup_instance (named : trimmedInstance instanceId ≠ "") :
    (sectionBindings instanceId isActive groupIds).lookup
        (Sections.of instanceId isActive groupIds).instancePosition =
      some (.single (some (.text (trimmedInstance instanceId)))) := by
  cases isActive <;>
    simp [Sections.of, sectionParameters, positioned, named,
      List.lookup_cons]

theorem lookup_group {groupId : Option String} {rest : List (Option String)} :
    (sectionBindings instanceId isActive (some (groupId :: rest))).lookup
        (Sections.of instanceId isActive
          (some (groupId :: rest))).groupPosition =
      some (.collection ((groupId :: rest).map (Option.map .text))) := by
  cases isActive <;> by_cases named : trimmedInstance instanceId = "" <;>
    simp [Sections.of, sectionParameters, positioned, named,
      List.lookup_cons]

end Selection

/-! ## The truth of the conditions -/

section Truth

variable {instanceId : Option String} {isActive : Option Bool}
  {groupIds : Option (List (Option String))} {tables : JobTables}
  {row : JobRow} {outer : Scope JobObject}

theorem read_trigger (path : Path) :
    jobSchema.read (row.scope ++ outer) ("a" :: path) =
      row.trigger.value path := rfl

theorem read_group (path : Path) :
    jobSchema.read (row.scope ++ outer) ("c" :: path) =
      row.group.value path := rfl

/-- Whatever else is in scope, the condition is about the trigger. -/
theorem instanceCondition_yes_of {scope : Scope JobObject}
    {trigger : JobTrigger}
    (read : ∀ path, jobSchema.read scope ("a" :: path) = trigger.value path) :
    jobSchema.truth tables (sectionBindings instanceId isActive groupIds)
        (Sections.of instanceId isActive groupIds).instanceCondition scope =
          .yes ↔
      trigger.instanceId = none ∨ trimmedInstance instanceId ≠ "" ∧
        trigger.instanceId = some (trimmedInstance instanceId) := by
  unfold Sections.instanceCondition
  by_cases named : trimmedInstance instanceId = ""
  · have unnamed : (Sections.of instanceId isActive groupIds).named =
        false := by
      simp [Sections.of, named]
    simp [unnamed, named, Schema.truth, Schema.operand, read,
      JobTrigger.value_instanceId]
  · have isNamed : (Sections.of instanceId isActive groupIds).named = true := by
      simp [Sections.of, named]
    simp only [isNamed, if_true, Schema.truth, Schema.operand, read,
      lookup_instance instanceId isActive groupIds named,
      JobTrigger.value_instanceId, Truth.either_eq_yes, Truth.isNull_eq_yes,
      Truth.equal_eq_yes]
    cases held : trigger.instanceId <;> simp [named, eq_comm]

theorem instanceCondition_yes :
    jobSchema.truth tables (sectionBindings instanceId isActive groupIds)
        (Sections.of instanceId isActive groupIds).instanceCondition
        (row.scope ++ outer) = .yes ↔
      row.trigger.instanceId = none ∨ trimmedInstance instanceId ≠ "" ∧
        row.trigger.instanceId = some (trimmedInstance instanceId) :=
  instanceCondition_yes_of read_trigger

theorem text_mem_map (text : String) (texts : List (Option String)) :
    some (Value.text text) ∈ texts.map (Option.map .text) ↔
      some text ∈ texts := by
  simp [List.mem_map, Option.map_eq_some_iff]

theorem groupCondition_yes :
    jobSchema.truth tables (sectionBindings instanceId isActive groupIds)
        (Sections.of instanceId isActive groupIds).groupCondition
        (row.scope ++ outer) = .yes ↔
      (row.trigger.instanceId = none ∨ trimmedInstance instanceId ≠ "" ∧
        row.trigger.instanceId = some (trimmedInstance instanceId)) ∧
      (groupIds = none ∨ groupIds = some [] ∨
        some row.group.groupId ∈ groupIds.getD []) := by
  unfold Sections.groupCondition
  rcases groupIds with _ | _ | ⟨groupId, rest⟩
  · simpa [Sections.of] using instanceCondition_yes
  · simpa [Sections.of] using instanceCondition_yes
  · have grouped : (Sections.of instanceId isActive
        (some (groupId :: rest))).grouped = true := rfl
    have member := text_mem_map row.group.groupId (groupId :: rest)
    simp only [grouped, if_true, Schema.truth, Truth.both_eq_yes,
      instanceCondition_yes, lookup_group, Schema.operand, read_group,
      JobGroup.value_groupId, Truth.member_eq_yes, member]
    simp

theorem condition_yes :
    jobSchema.truth tables (sectionBindings instanceId isActive groupIds)
        (Sections.of instanceId isActive groupIds).condition
        (row.scope ++ outer) = .yes ↔
      Selects instanceId isActive groupIds row := by
  have always : ∀ bindings scope,
      Truth.equal (jobSchema.operand bindings scope (.number 1))
        (jobSchema.operand bindings scope (.number 1)) = .yes :=
    fun _ _ => rfl
  unfold Sections.condition
  cases isActive with
  | none =>
      have inactive : (Sections.of instanceId none groupIds).active = false :=
        rfl
      simp only [inactive, Bool.false_eq_true, if_false, Schema.truth,
        Truth.both_eq_yes, always, groupCondition_yes, true_and]
      constructor
      · rintro ⟨instance_, group⟩
        exact ⟨.inl rfl, instance_, group⟩
      · intro selects
        exact ⟨selects.instance_, selects.group⟩
  | some flag =>
      have active : (Sections.of instanceId (some flag) groupIds).active =
          true := rfl
      simp only [active, if_true, Schema.truth, Truth.both_eq_yes, always,
        groupCondition_yes, true_and]
      simp only [Schema.operand, read_trigger, read_group,
        lookup_active instanceId (some flag) groupIds rfl,
        JobTrigger.value_isActive, JobGroup.value_isActive,
        Truth.equal_eq_yes, Option.some.injEq, exists_eq_left',
        Value.flag.injEq]
      constructor
      · rintro ⟨trigger, group, rest⟩
        exact ⟨.inr ⟨trigger.symm, group.symm⟩, rest.1, rest.2⟩
      · rintro ⟨flags, instance_, group⟩
        obtain ⟨trigger, groupFlag⟩ := flags.resolve_left (by simp)
        exact ⟨trigger.symm, groupFlag.symm, instance_, group⟩

end Truth

/-! ## The rows -/

section Rows

variable (tables : JobTables) (instanceId : Option String)
  (isActive : Option Bool) (groupIds : Option (List (Option String)))

theorem scopes_triggerSource :
    jobSchema.scopes tables triggerSource =
      tables.joined.map JobRow.scope := by
  simp [Schema.scopes, triggerSource, Schema.join, jobSchema, JobTables.rows,
    JobTables.related, JobTables.joined, JobRow.scope, List.flatMap_map,
    List.map_flatMap, List.flatMap_assoc, Function.comp_def]

theorem scopes_configurationSource :
    jobSchema.scopes tables configurationSource =
      tables.configurations.map (fun row => [("", .configuration row)]) := by
  simp [Schema.scopes, configurationSource, jobSchema, JobTables.rows]

theorem condition_bound :
    Bound (Sections.of instanceId isActive groupIds).condition.placeholders
      (sectionBindings instanceId isActive groupIds) := by
  unfold Sections.of sectionBindings sectionParameters
  cases isActive <;> by_cases named : trimmedInstance instanceId = "" <;>
    rcases groupIds with _ | _ | ⟨groupId, rest⟩ <;>
    simp [named, Bound, positioned, Sections.condition,
      Sections.groupCondition, Sections.instanceCondition,
      Condition.placeholders, Operand.placeholders]

theorem filter_truth (rows : List JobRow) (outer : Scope JobObject) :
    (rows.map JobRow.scope).filter (fun scope =>
      jobSchema.truth tables (sectionBindings instanceId isActive groupIds)
        (Sections.of instanceId isActive groupIds).condition
        (scope ++ outer) = .yes) =
      (rows.filter (fun row => Selects instanceId isActive groupIds row)).map
        JobRow.scope := by
  rw [List.filter_map]
  congr 1
  apply List.filter_congr
  intro row _
  simp only [Function.comp_apply, condition_yes]

/-- The rows of the trigger query are the joined rows that are asked for. -/
theorem triggerStatement_rows :
    jobSchema.select tables
        (JobServiceImpl.triggerStatement instanceId isActive groupIds) =
      some ((tables.joined.filter
        (fun row => Selects instanceId isActive groupIds row)).map
        JobRow.objects) := by
  have bindings : (JobServiceImpl.triggerStatement instanceId isActive
      groupIds).bindings = sectionBindings instanceId isActive groupIds := by
    rw [triggerStatement_eq]
  have filtered := filter_truth tables instanceId isActive groupIds
    tables.joined []
  simp only [List.append_nil] at filtered
  simp only [Schema.select, parse_triggerStatement, bindings, triggerQuery,
    Query.placeholders, Option.map_some, Option.getD_some, condition_bound,
    if_true, Option.bind_eq_bind, Option.bind_some, Schema.queryRows,
    scopes_triggerSource, Schema.Holds, Option.mem_some_iff, forall_eq',
    filtered, List.map_map]
  rfl

/-- The configuration belongs to a trigger that is asked for. -/
def Configures (configuration : JobTriggerConfiguration) : Prop :=
  ∃ row ∈ tables.joined, Selects instanceId isActive groupIds row ∧
    row.trigger.triggerId = configuration.id.triggerId

instance (configuration : JobTriggerConfiguration) :
    Decidable (Configures tables instanceId isActive groupIds configuration) :=
  inferInstanceAs (Decidable (∃ row ∈ tables.joined, _ ∧ _))

theorem within_yes (configuration : JobTriggerConfiguration) :
    jobSchema.truth tables (sectionBindings instanceId isActive groupIds)
        (.within (.path ["id", "triggerId"]) (.path ["a", "triggerId"])
          triggerSource (Sections.of instanceId isActive groupIds).condition)
        [("", .configuration configuration)] = .yes ↔
      Configures tables instanceId isActive groupIds configuration := by
  have outer : jobSchema.read [("", .configuration configuration)]
      ["id", "triggerId"] = some (.text configuration.id.triggerId) := rfl
  simp only [Schema.truth, Schema.operand, scopes_triggerSource,
    filter_truth, List.map_map, Function.comp_def, read_trigger,
    JobTrigger.value_triggerId, outer, Truth.member_eq_yes, List.mem_map,
    List.mem_filter, decide_eq_true_eq, Option.some.injEq, Value.text.injEq]
  constructor
  · rintro ⟨_, row, ⟨member, selects⟩, same⟩
    exact ⟨row, member, selects, same⟩
  · rintro ⟨row, member, selects, same⟩
    exact ⟨by simp, row, ⟨member, selects⟩, same⟩

/-- The rows of the configuration query are the configurations of triggers
that are asked for. -/
theorem configurationStatement_rows :
    jobSchema.select tables
        (JobServiceImpl.configurationStatement instanceId isActive groupIds) =
      some ((tables.configurations.filter (fun configuration =>
        Configures tables instanceId isActive groupIds configuration)).map
        (fun configuration => [.configuration configuration])) := by
  have bindings : (JobServiceImpl.configurationStatement instanceId isActive
      groupIds).bindings = sectionBindings instanceId isActive groupIds := by
    rw [configurationStatement_eq]
  have bound := condition_bound instanceId isActive groupIds
  simp only [Schema.select, parse_configurationStatement, bindings,
    configurationQuery, Query.placeholders, Option.map_some,
    Option.getD_some, Condition.placeholders, Operand.placeholders,
    List.nil_append, bound, if_true, Option.bind_eq_bind, Option.bind_some,
    Schema.queryRows, scopes_configurationSource, Schema.Holds,
    Option.mem_some_iff, forall_eq', List.filter_map, List.map_map]
  congr 2
  apply List.filter_congr
  intro configuration _
  simp only [Function.comp_apply, within_yes]

end Rows

end SpringTemplate.Job
