import SpringTemplate.Job.Calls

/-!
# Triggers with their groups

`getGroups` and `getTriggerMap` join a trigger with its group alone.  On a
database whose keys hold, these rows are the rows of the larger join without
their type, so each trigger has one of them.
-/

namespace SpringTemplate.Job

open Hql

def pairSource : Source :=
  { entity := "JobTrigger"
    label := "a"
    joins := [⟨["a", "group"], "b"⟩] }

def pairScope (pair : JobTrigger × JobGroup) : Scope JobObject :=
  [("a", .trigger pair.1), ("b", .group pair.2)]

def pairObjects (pair : JobTrigger × JobGroup) : List JobObject :=
  [.trigger pair.1, .group pair.2]

/-- The rows of the inner join with the group. -/
def JobTables.paired (tables : JobTables) : List (JobTrigger × JobGroup) :=
  tables.triggers.flatMap (fun trigger =>
    (tables.groups.filter
      (fun group => group.groupId = trigger.groupId)).map
      (fun group => (trigger, group)))

def JobRow.pair (row : JobRow) : JobTrigger × JobGroup :=
  (row.trigger, row.group)

theorem scopes_pairSource (tables : JobTables) :
    jobSchema.scopes tables pairSource = tables.paired.map pairScope := by
  simp [Schema.scopes, pairSource, Schema.join, jobSchema, JobTables.rows,
    JobTables.related, JobTables.paired, pairScope, List.flatMap_map,
    List.map_flatMap, Function.comp_def]

theorem pairObjects_injective : Function.Injective pairObjects := by
  intro pair other same
  cases pair
  cases other
  simpa [pairObjects] using same

theorem read_pair_trigger (pair : JobTrigger × JobGroup) (path : Path) :
    jobSchema.read (pairScope pair) ("a" :: path) = pair.1.value path := rfl

theorem read_pair_group (pair : JobTrigger × JobGroup) (path : Path) :
    jobSchema.read (pairScope pair) ("b" :: path) = pair.2.value path := rfl

/-- Without its type a joined row is the row of trigger and group. -/
theorem JobDatabase.joined_pairs (db : JobDatabase) :
    db.joined.map JobRow.pair = db.paired := by
  rw [JobTables.joined, JobTables.paired, List.map_flatMap]
  apply List.flatMap_congr
  intro trigger member
  obtain ⟨type, _, _, types⟩ := KeyedTable.exists_filter_key db.types_nodup
    (db.trigger_type trigger member)
  rw [types, List.flatMap_singleton, List.map_map]
  rfl

/-- The rows chosen by trigger and group, with or without their type. -/
theorem JobDatabase.paired_filter (db : JobDatabase)
    {keep : JobTrigger × JobGroup → Bool} {asked : JobRow → Bool}
    (agrees : ∀ row ∈ db.joined, keep row.pair = asked row) :
    db.paired.filter keep = (db.joined.filter asked).map JobRow.pair := by
  rw [← db.joined_pairs, List.filter_map]
  congr 1
  apply List.filter_congr
  intro row member
  exact agrees row member

theorem endsBlank_pairs : EndsBlank "join a.group b " :=
  ⟨"join a.group b".toList, by
    simp only [(String.toList_ofList : "join a.group b ".toList = _),
      (String.toList_ofList : "join a.group b".toList = _)]
    rfl⟩

end SpringTemplate.Job
