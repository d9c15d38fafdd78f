import SpringTemplate.Library.RowOrder
import SpringTemplate.Job.Snapshots

/-!
# A call for some groups

The collection of group ids narrows both statements of `getGroupsAndTriggers`
down, and the groups are then put together from what is left.  The answer is
the same as if all groups had been asked for and the other ones thrown away.
-/

namespace SpringTemplate.Job

open JobServiceImpl

/-- The group is among the given ones, if any are given. -/
def Chosen (groupIds : Option (List (Option String))) (groupId : String) :
    Prop :=
  groupIds = none ∨ groupIds = some [] ∨ some groupId ∈ groupIds.getD []

instance (groupIds : Option (List (Option String))) (groupId : String) :
    Decidable (Chosen groupIds groupId) :=
  inferInstanceAs (Decidable (_ ∨ _ ∨ _))

/-- The groups of an answer that are among the given ones. -/
def chosenGroups (groupIds : Option (List (Option String)))
    (groups : List GroupTriggers) : List GroupTriggers :=
  groups.filter (fun entry => Chosen groupIds entry.group.groupId)

variable {instanceId : Option String} {isActive : Option Bool}
  {groupIds : Option (List (Option String))}

/-! ## The two queries -/

theorem selects_chosen {row : JobRow} :
    Selects instanceId isActive groupIds row ↔
      Chosen groupIds row.groupId ∧ Selects instanceId isActive none row :=
  ⟨fun selects => ⟨selects.group,
      ⟨selects.active, selects.instance_, .inl rfl⟩⟩,
    fun ⟨chosen, selects⟩ => ⟨selects.active, selects.instance_, chosen⟩⟩

namespace JobDatabase

variable (db : JobDatabase)

theorem triggerRows_chosen :
    db.triggerRows instanceId isActive groupIds =
      (db.triggerRows instanceId isActive none).filter
        (fun row => Chosen groupIds row.groupId) := by
  rw [triggerRows, triggerRows, List.filter_filter]
  apply List.filter_congr
  intro row _
  rw [← Bool.decide_and, decide_eq_decide, selects_chosen]

theorem configurationRows_chosen :
    db.configurationRows instanceId isActive groupIds =
      (db.configurationRows instanceId isActive none).filter
        (fun row =>
          Configures db.toJobTables instanceId isActive groupIds row) := by
  rw [configurationRows, configurationRows, List.filter_filter]
  apply List.filter_congr
  intro configuration _
  rw [← Bool.decide_and, decide_eq_decide]
  refine ⟨fun configures => ⟨configures, ?_⟩, And.left⟩
  obtain ⟨row, joined, selects, same⟩ := configures
  exact ⟨row, joined, (selects_chosen.mp selects).2, same⟩

end JobDatabase

/-! ## The answers -/

theorem groupedRows_chosen {rows : List JobRow} (joined : JoinedRows rows) :
    groupedRows (rows.filter (fun row => Chosen groupIds row.groupId)) =
      chosenGroups groupIds (groupedRows rows) := by
  have chosen : grouped JobRow.groupId JobRow.triggerId
      (rows.filter (fun row => Chosen groupIds row.groupId)) =
        (grouped JobRow.groupId JobRow.triggerId rows).filter
          (fun entry => Chosen groupIds entry.1.groupId) :=
    grouped_filter (fun groupId => Chosen groupIds groupId) joined
  rw [groupedRows, chosen, chosenGroups, groupedRows, List.filter_map]
  rfl

theorem chosenGroups_configured (groups : List GroupTriggers)
    (configurations : List JobTriggerConfiguration) :
    chosenGroups groupIds
        (groups.map (GroupTriggers.configured configurations)) =
      (chosenGroups groupIds groups).map
        (GroupTriggers.configured configurations) := by
  rw [chosenGroups, List.filter_map]
  rfl

section Answers

variable {db : JobDatabase} {includeConfigs : Option Bool}
  {rows : List JobRow} {configurations : List JobTriggerConfiguration}

/-- The answer from the chosen rows, with chosen or with all configuration
rows, is the chosen part of the answer from all rows. -/
theorem getGroupsAndTriggers_chosen (joined : JoinedRows rows)
    (read : ∀ row ∈ rows,
      row ∈ db.triggerRows instanceId isActive none) :
    getGroupsAndTriggers
        (rows.filter (fun row => Chosen groupIds row.groupId))
        (configurations.filter (fun row =>
          Configures db.toJobTables instanceId isActive groupIds row))
        includeConfigs =
      (getGroupsAndTriggers rows configurations includeConfigs).map
        (chosenGroups groupIds) := by
  have chosenJoined : JoinedRows
      (rows.filter (fun row => Chosen groupIds row.groupId)) :=
    joined.mono List.filter_sublist.subset
  by_cases included : includeConfigs = some true
  · rw [included, getGroupsAndTriggers_eq joined,
      getGroupsAndTriggers_eq chosenJoined, Except.map,
      chosenGroups_configured, ← groupedRows_chosen joined,
      groupedRows_configured_filter]
    intro row member configuration _ same
    obtain ⟨inside, chosen⟩ := List.mem_filter.mp member
    obtain ⟨fromJoin, selects⟩ := List.mem_filter.mp (read row inside)
    exact decide_eq_true ⟨row, fromJoin, selects_chosen.mpr
      ⟨of_decide_eq_true chosen, of_decide_eq_true selects⟩, same.symm⟩
  · rw [getGroupsAndTriggers_plain joined _ included,
      getGroupsAndTriggers_plain chosenJoined _ included,
      groupedRows_chosen joined]
    rfl

end Answers

/-- A call for some groups returns, in some order of the rows, the chosen
groups of a call for all groups, with their triggers and configurations; and
the other way round. -/
theorem groupsCall_chosen (db : JobDatabase) (instanceId : Option String)
    (isActive : Option Bool) (groupIds : Option (List (Option String)))
    (includeConfigs : Option Bool)
    (result : Except JobException (List GroupTriggers)) :
    GroupsCall db.toJobTables db.toJobTables instanceId isActive groupIds
        includeConfigs result ↔
      ∃ all, GroupsCall db.toJobTables db.toJobTables instanceId isActive none
          includeConfigs all ∧
        result = all.map (chosenGroups groupIds) := by
  have joined : ∀ {rows : List JobRow},
      rows.Perm (db.triggerRows instanceId isActive none) →
      JoinedRows rows := by
    intro rows perm
    exact db.joinedRows
      (List.Subset.trans perm.subset List.filter_sublist.subset)
  have chosenRows : ∀ {rows : List JobRow}, JoinedRows rows → JoinedRows
      (rows.filter (fun row => Chosen groupIds row.groupId)) :=
    fun joinedHere => joinedHere.mono List.filter_sublist.subset
  simp only [GroupsCall, reads_triggers, reads_configurations]
  constructor
  · rintro ⟨rows, configurations, rowsPerm, perm, rfl⟩
    rw [db.triggerRows_chosen] at rowsPerm
    obtain ⟨order, orderPerm, rfl⟩ := exists_filter_of_perm rowsPerm
    have read : ∀ row ∈ order,
        row ∈ db.triggerRows instanceId isActive none :=
      fun _ member => orderPerm.mem_iff.mp member
    by_cases included : includeConfigs = some true
    · have chosenPerm := perm included
      rw [db.configurationRows_chosen] at chosenPerm
      obtain ⟨all, allPerm, rfl⟩ := exists_filter_of_perm chosenPerm
      exact ⟨_, ⟨order, all, orderPerm, fun _ => allPerm, rfl⟩,
        getGroupsAndTriggers_chosen (joined orderPerm) read⟩
    · refine ⟨_, ⟨order, configurations, orderPerm,
        fun same => absurd same included, rfl⟩, ?_⟩
      rw [← getGroupsAndTriggers_chosen (joined orderPerm) read,
        getGroupsAndTriggers_plain (chosenRows (joined orderPerm)) _ included,
        getGroupsAndTriggers_plain (chosenRows (joined orderPerm)) _ included]
  · rintro ⟨_, ⟨rows, configurations, rowsPerm, perm, rfl⟩, rfl⟩
    refine ⟨_, _, ?_, ?_,
      (getGroupsAndTriggers_chosen (joined rowsPerm)
        (fun _ member => rowsPerm.mem_iff.mp member)).symm⟩
    · rw [db.triggerRows_chosen]
      exact rowsPerm.filter _
    · intro included
      rw [db.configurationRows_chosen]
      exact (perm included).filter _

end SpringTemplate.Job
