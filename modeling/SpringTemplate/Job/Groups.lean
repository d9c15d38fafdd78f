import SpringTemplate.Job.PairedRows

/-!
# Groups with and without their triggers

`getGroups` lists the group of every selected row; `getGroupsAndTriggers`
keeps each group once.  The two agree if and only if no two different
triggers that are asked for share a group.
-/

namespace SpringTemplate.Job

open Hql

open JobServiceImpl

/-! ## The statement -/

namespace Sections

variable (sections : Sections)

/-- The section on the active flags, with the label this statement uses. -/
def groupActiveText : String :=
  if sections.active then
    "and a.isActive=?" ++ toString 1 ++
      " and b.isActive=?" ++ toString 1 ++ " "
  else ""

def groupActiveTokens : List Token :=
  if sections.active then
    [.keyword .and, .name ["a", "isActive"], .symbol '=', .symbol '?',
      .number 1, .keyword .and, .name ["b", "isActive"], .symbol '=',
      .symbol '?', .number 1]
  else []

def pairCondition : Condition :=
  .both (.equal (.number 1) (.number 1))
    (if sections.active then
      .both (.equal (.path ["a", "isActive"]) (.parameter 1))
        (.both (.equal (.path ["b", "isActive"]) (.parameter 1))
          sections.instanceCondition)
    else sections.instanceCondition)

end Sections

def groupHead : List Token :=
  [.keyword .select, .name ["b"], .keyword .from, .name ["JobTrigger"],
    .name ["a"], .keyword .join, .name ["a", "group"], .name ["b"]]

def groupQuery (condition : Condition) : Query :=
  { select := [["b"]]
    source := pairSource
    condition := some condition }

section Statement

variable (instanceId : Option String) (isActive : Option Bool)

theorem groupStatement_eq :
    groupStatement instanceId isActive =
      { text :=
          "select b " ++ "from JobTrigger a " ++ "join a.group b " ++
            ("where 1=1 " ++
              (Sections.of instanceId isActive none).groupActiveText ++
              (Sections.of instanceId isActive none).instanceText)
        bindings := positioned (sectionParameters instanceId isActive none) } := by
  unfold groupStatement Sections.of sectionParameters
    Sections.groupActiveText Sections.instanceText
  cases isActive <;> by_cases named : trimmedInstance instanceId = "" <;>
    simp [named, Id.run, pure, -String.reduceAppend, String.append_assoc]

theorem tokens_groupActiveText (sections : Sections) :
    Hql.tokens sections.groupActiveText = sections.groupActiveTokens := by
  unfold Sections.groupActiveText Sections.groupActiveTokens
  split
  · rw [Hql.tokens]
    simp only [String.toList_append,
      (String.toList_ofList : "and a.isActive=?".toList = _),
      (String.toList_ofList : " and b.isActive=?".toList = _),
      (String.toList_ofList : " ".toList = _)]
    rfl
  · exact tokens_empty

theorem endsBlank_groupActiveText (sections : Sections) :
    EndsBlank ("where 1=1 " ++ sections.groupActiveText) := by
  unfold Sections.groupActiveText
  split
  · apply EndsBlank.append
    apply EndsBlank.append
    exact ⟨[], String.toList_ofList⟩
  · rw [String.append_empty]
    exact endsBlank_start

theorem tokens_groupHead :
    Hql.tokens ("select b " ++ "from JobTrigger a " ++ "join a.group b ") =
      groupHead := by
  rw [Hql.tokens]
  simp only [String.toList_append,
    (String.toList_ofList : "select b ".toList = _),
    (String.toList_ofList : "from JobTrigger a ".toList = _),
    (String.toList_ofList : "join a.group b ".toList = _)]
  rfl

theorem queryOf_group (sections : Sections) :
    queryOf (groupHead ++
      ([.keyword .where, .number 1, .symbol '=', .number 1] ++
        sections.groupActiveTokens ++ sections.instanceTokens)) =
      some (groupQuery sections.pairCondition) := by
  obtain ⟨active, named, grouped⟩ := sections
  cases active <;> cases named <;> rfl

theorem parse_groupStatement :
    parseQuery (groupStatement instanceId isActive).text =
      some (groupQuery (Sections.of instanceId isActive none).pairCondition) := by
  rw [groupStatement_eq, parseQuery, (endsBlank_pairs.append _).tokens_append,
    tokens_groupHead, (endsBlank_groupActiveText _).tokens_append,
    endsBlank_start.tokens_append, tokens_start, tokens_groupActiveText,
    tokens_instanceText, queryOf_group]

end Statement

/-! ## The rows -/

/-- The trigger and its group are asked for. -/
def SelectsPair (instanceId : Option String) (isActive : Option Bool)
    (pair : JobTrigger × JobGroup) : Prop :=
  (isActive = none ∨ pair.1.isActive = yesOrNo isActive ∧
    pair.2.isActive = yesOrNo isActive) ∧
  (pair.1.instanceId = none ∨ trimmedInstance instanceId ≠ "" ∧
    pair.1.instanceId = some (trimmedInstance instanceId))

instance (instanceId : Option String) (isActive : Option Bool)
    (pair : JobTrigger × JobGroup) :
    Decidable (SelectsPair instanceId isActive pair) :=
  inferInstanceAs (Decidable (_ ∧ _))

theorem selectsPair_iff {instanceId : Option String} {isActive : Option Bool}
    {row : JobRow} :
    SelectsPair instanceId isActive row.pair ↔
      Selects instanceId isActive none row := by
  constructor
  · intro ⟨active, instance_⟩
    exact ⟨active, instance_, .inl rfl⟩
  · intro selects
    exact ⟨selects.active, selects.instance_⟩

section Rows

variable {tables : JobTables} {instanceId : Option String}
  {isActive : Option Bool}

theorem pairCondition_yes {pair : JobTrigger × JobGroup} :
    jobSchema.truth tables (sectionBindings instanceId isActive none)
        (Sections.of instanceId isActive none).pairCondition
        (pairScope pair) = .yes ↔
      SelectsPair instanceId isActive pair := by
  have always : ∀ bindings scope,
      Truth.equal (jobSchema.operand bindings scope (.number 1))
        (jobSchema.operand bindings scope (.number 1)) = .yes :=
    fun _ _ => rfl
  have instance_ := @instanceCondition_yes_of instanceId isActive none tables
    (pairScope pair) pair.1 (read_pair_trigger pair)
  unfold Sections.pairCondition SelectsPair
  cases isActive with
  | none =>
      have inactive : (Sections.of instanceId none none).active = false := rfl
      simp only [inactive, Bool.false_eq_true, if_false, Schema.truth,
        Truth.both_eq_yes, always, instance_, true_and, true_or]
  | some flag =>
      have active : (Sections.of instanceId (some flag) none).active = true :=
        rfl
      simp only [active, if_true, Schema.truth, Truth.both_eq_yes, always,
        instance_, true_and]
      simp only [Schema.operand, read_pair_trigger, read_pair_group,
        lookup_active instanceId (some flag) none rfl,
        JobTrigger.value_isActive, JobGroup.value_isActive,
        Truth.equal_eq_yes, Option.some.injEq, exists_eq_left',
        Value.flag.injEq, reduceCtorEq, false_or,
        and_assoc]
      constructor
      · rintro ⟨trigger, group, rest⟩
        exact ⟨trigger.symm, group.symm, rest⟩
      · rintro ⟨trigger, group, rest⟩
        exact ⟨trigger.symm, group.symm, rest⟩

theorem pairCondition_bound :
    Bound (Sections.of instanceId isActive none).pairCondition.placeholders
      (sectionBindings instanceId isActive none) := by
  unfold Sections.of sectionBindings sectionParameters
  cases isActive <;> by_cases named : trimmedInstance instanceId = "" <;>
    simp [named, Bound, positioned, Sections.pairCondition,
      Sections.instanceCondition, Condition.placeholders,
      Operand.placeholders]

/-- The rows of the query are the groups of the selected rows, one for each
row. -/
theorem groupStatement_rows (tables : JobTables) (instanceId : Option String)
    (isActive : Option Bool) :
    jobSchema.select tables (groupStatement instanceId isActive) =
      some ((tables.paired.filter
        (fun pair => SelectsPair instanceId isActive pair)).map
        (fun pair => [.group pair.2])) := by
  have bindings : (groupStatement instanceId isActive).bindings =
      sectionBindings instanceId isActive none := by
    rw [groupStatement_eq]
  simp only [Schema.select, parse_groupStatement, bindings, groupQuery,
    Query.placeholders, Option.map_some, Option.getD_some,
    pairCondition_bound, if_true, Option.bind_eq_bind, Option.bind_some,
    Schema.queryRows, scopes_pairSource, Schema.Holds, Option.mem_some_iff,
    forall_eq', List.filter_map, List.map_map, Function.comp_def,
    pairCondition_yes]
  rfl

end Rows

/-! ## The calls -/

/-- What `getGroups` returns on a state, in whatever order the database
returns the rows. -/
def GroupListCall (tables : JobTables) (instanceId : Option String)
    (isActive : Option Bool) (listed : List JobGroupDto) : Prop :=
  ∃ groups : List JobGroup,
    Reads tables (groupStatement instanceId isActive)
        (groups.map (fun group => [.group group])) ∧
      listed = getGroups groups

/-- Every group is listed once, and the groups are those of
`getGroupsAndTriggers`. -/
def GroupsAgree (tables : JobTables) (instanceId : Option String)
    (isActive : Option Bool) : Prop :=
  ∀ listed, GroupListCall tables instanceId isActive listed →
    (listed.map JobGroupDto.groupId).Nodup ∧
    ∀ includeConfigs groups,
      GroupsCall tables tables instanceId isActive none includeConfigs
          (.ok groups) →
        listed.Perm (groups.map GroupTriggers.group)

/-- No two different triggers that are asked for share a group. -/
def GroupsApart (tables : JobTables) (instanceId : Option String)
    (isActive : Option Bool) : Prop :=
  ∀ one ∈ tables.triggers, ∀ other ∈ tables.triggers,
    Requested tables instanceId isActive none one →
    Requested tables instanceId isActive none other →
    one.groupId = other.groupId → one = other

instance (tables : JobTables) (instanceId : Option String)
    (isActive : Option Bool) :
    Decidable (GroupsApart tables instanceId isActive) :=
  inferInstanceAs (Decidable (∀ one ∈ tables.triggers, ∀ other ∈ _, _ → _))

namespace JobDatabase

variable (db : JobDatabase) {instanceId : Option String}
  {isActive : Option Bool}

theorem groupListCall_iff {listed : List JobGroupDto} :
    GroupListCall db.toJobTables instanceId isActive listed ↔
      ∃ groups, groups.Perm
          ((db.triggerRows instanceId isActive none).map JobRow.group) ∧
        listed = getGroups groups := by
  have pairs : db.paired.filter
      (fun pair => SelectsPair instanceId isActive pair) =
        (db.triggerRows instanceId isActive none).map JobRow.pair := by
    apply db.paired_filter
    intro row _
    rw [decide_eq_decide, selectsPair_iff]
  have injective : Function.Injective
      (fun group : JobGroup => [JobObject.group group]) := by
    intro group other same
    simpa using same
  have rows : (db.paired.filter
      (fun pair => SelectsPair instanceId isActive pair)).map
        (fun pair => [JobObject.group pair.2]) =
      ((db.triggerRows instanceId isActive none).map JobRow.group).map
        (fun group => [.group group]) := by
    rw [pairs, List.map_map, List.map_map]
    rfl
  simp only [GroupListCall, Reads, groupStatement_rows, rows,
    Option.some.injEq, exists_eq_left', List.map_perm_map_iff injective]

theorem triggerRows_groupIds :
    ((db.triggerRows instanceId isActive none).map JobRow.group).map
        JobGroup.groupId =
      (db.triggers.filter (fun trigger =>
        Requested db.toJobTables instanceId isActive none trigger)).map
        JobTrigger.groupId := by
  rw [← db.triggerRows_triggers, List.map_map, List.map_map]
  apply List.map_congr_left
  intro row member
  have joined := List.mem_of_mem_filter member
  exact (JobTables.mem_joined.mp joined).2.2.2

theorem groupIds_nodup_iff :
    (((db.triggerRows instanceId isActive none).map JobRow.group).map
        JobGroup.groupId).Nodup ↔
      GroupsApart db.toJobTables instanceId isActive := by
  have stored : (db.triggers.filter (fun trigger =>
      Requested db.toJobTables instanceId isActive none trigger)).Nodup :=
    db.triggers_nodup.of_map.filter _
  rw [triggerRows_groupIds, List.nodup_map_iff_inj_on stored]
  simp only [List.mem_filter, decide_eq_true_eq, GroupsApart]
  constructor
  · intro apart one oneMember other otherMember oneAsked otherAsked same
    exact apart one ⟨oneMember, oneAsked⟩ other ⟨otherMember, otherAsked⟩ same
  · intro apart one oneIn other otherIn same
    exact apart one oneIn.1 other otherIn.1 oneIn.2 otherIn.2 same

end JobDatabase

/-- Both calls return a result; when the results agree. -/
theorem getGroups_agree_iff (db : JobDatabase) (instanceId : Option String)
    (isActive : Option Bool) :
    (∃ listed, GroupListCall db.toJobTables instanceId isActive listed) ∧
    (∀ includeConfigs, ∃ groups, GroupsCall db.toJobTables db.toJobTables
      instanceId isActive none includeConfigs (.ok groups)) ∧
    (GroupsAgree db.toJobTables instanceId isActive ↔
      GroupsApart db.toJobTables instanceId isActive) := by
  refine ⟨⟨_, db.groupListCall_iff.mpr ⟨_, .refl _, rfl⟩⟩,
    db.groupsCall_returns db instanceId isActive none, ?_⟩
  have copies : ∀ groups : List JobGroup,
      (getGroups groups).map JobGroupDto.groupId =
        groups.map JobGroup.groupId := by
    intro groups
    rw [getGroups, List.map_map]
    rfl
  rw [← db.groupIds_nodup_iff]
  constructor
  · intro agree
    have listed := (agree _ (db.groupListCall_iff.mpr
      ⟨_, List.Perm.refl _, rfl⟩)).1
    rwa [copies] at listed
  · intro nodup listed call
    obtain ⟨groups, perm, rfl⟩ := db.groupListCall_iff.mp call
    refine ⟨?_, ?_⟩
    · rw [copies]
      exact (perm.map JobGroup.groupId).nodup_iff.mpr nodup
    · intro includeConfigs returned ⟨rows, configurations, read, _, result⟩
      have order := reads_triggers.mp read
      have joined : JoinedRows rows := db.joinedRows
        (List.Subset.trans order.subset List.filter_sublist.subset)
      obtain ⟨same, run, kept⟩ := getGroupsAndTriggers_groups joined
        configurations includeConfigs
      rw [run] at result
      cases result
      have apart : (rows.map JobRow.groupId).Nodup := by
        have ids := ((order.map JobRow.group).map JobGroup.groupId).nodup_iff
        rw [List.map_map] at ids
        exact ids.mpr nodup
      rw [kept, groupedRows_groups, firstBy_eq_self apart]
      have again := (perm.trans (order.map JobRow.group).symm).map
        JobGroupDto.copy
      rwa [List.map_map] at again

/-! ## Two triggers of one group -/

def sharedGroup : JobDatabase :=
  { groups := [(JobRow.sample "u" "g").group]
    types := [(JobRow.sample "t" "g").type]
    parameters := []
    triggers := [(JobRow.sample "t" "g").trigger,
      (JobRow.sample "u" "g").trigger]
    configurations := []
    groups_nodup := by decide
    types_nodup := by decide
    parameters_nodup := by decide
    triggers_nodup := by decide
    configurations_nodup := by decide
    parameter_type := by decide
    trigger_group := by decide
    trigger_type := by decide
    configuration_trigger := by decide
    configuration_parameter := by decide }

/-- The group is listed twice, and returned once with its triggers. -/
theorem sharedGroup_listed_twice :
    ∃ group groups,
      GroupListCall sharedGroup.toJobTables none none [group, group] ∧
      GroupsCall sharedGroup.toJobTables sharedGroup.toJobTables none none
        none none (.ok groups) ∧
      groups.map GroupTriggers.group = [group] ∧
      ¬ GroupsAgree sharedGroup.toJobTables none none := by
  have selected : (sharedGroup.triggerRows none none none).map JobRow.group =
      [(JobRow.sample "t" "g").group, (JobRow.sample "t" "g").group] := by
    decide
  have listed : GroupListCall sharedGroup.toJobTables none none
      (getGroups [(JobRow.sample "t" "g").group,
        (JobRow.sample "t" "g").group]) := by
    apply sharedGroup.groupListCall_iff.mpr
    exact ⟨_, by rw [selected], rfl⟩
  have joined : JoinedRows (sharedGroup.triggerRows none none none) :=
    sharedGroup.joinedRows List.filter_sublist.subset
  obtain ⟨groups, run, same⟩ := getGroupsAndTriggers_groups joined [] none
  have single : (groupedRows (sharedGroup.triggerRows none none none)).map
      GroupTriggers.group = [.copy (JobRow.sample "t" "g").group] := by
    rw [groupedRows_groups]
    decide
  refine ⟨_, groups, listed, ⟨_, [], reads_triggers.mpr (List.Perm.refl _),
    by simp, run.symm⟩, same.trans single, ?_⟩
  intro agree
  have once := (agree _ listed).1
  exact absurd once (by decide)

end SpringTemplate.Job
