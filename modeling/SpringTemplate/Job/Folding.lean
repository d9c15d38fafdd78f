import SpringTemplate.Library.Grouping
import SpringTemplate.Job.Selection
import SpringTemplate.Job.Service

/-!
# The loop over the joined rows

While the loop of `getGroupsAndTriggers` runs, the groups are the rows read so
far, grouped, and the two index maps locate every group and every trigger in
them.  One row leaves the groups alone, adds a trigger to a group or opens a
group, and each case keeps this.
-/

namespace SpringTemplate.Job

namespace JobRow

def triggerId (row : JobRow) : String :=
  row.trigger.triggerId

def groupId (row : JobRow) : String :=
  row.group.groupId

end JobRow

/-- Rows of one trigger are rows of one group. -/
def JoinedRows (rows : List JobRow) : Prop :=
  ∀ row ∈ rows, ∀ other ∈ rows, row.triggerId = other.triggerId →
    row.groupId = other.groupId

instance (rows : List JobRow) : Decidable (JoinedRows rows) :=
  inferInstanceAs (Decidable (∀ row ∈ rows, ∀ other ∈ rows, _ → _))

theorem JoinedRows.mono {rows more : List JobRow} (joined : JoinedRows more)
    (subset : rows ⊆ more) : JoinedRows rows :=
  fun row member other otherMember =>
    joined row (subset member) other (subset otherMember)

/-- What the trigger query returns on a database, in any order, is joined. -/
theorem JobDatabase.joinedRows (db : JobDatabase) {rows : List JobRow}
    (fromJoin : rows ⊆ db.joined) : JoinedRows rows := by
  intro row member other otherMember same
  obtain ⟨trigger, _, _, group⟩ := JobTables.mem_joined.mp (fromJoin member)
  obtain ⟨otherTrigger, _, _, otherGroup⟩ :=
    JobTables.mem_joined.mp (fromJoin otherMember)
  have equal := KeyedTable.eq_of_key_eq db.triggers_nodup trigger
    otherTrigger same
  rw [JobRow.groupId, group, equal, ← otherGroup]
  rfl

namespace JobServiceImpl

/-- The id of the group at a position. -/
def groupAt (groups : List GroupTriggers) (position : Nat) : Option String :=
  groups[position]?.map (fun entry => entry.group.groupId)

/-- The id of the trigger at a group position and a trigger position. -/
def triggerAt (groups : List GroupTriggers) (place : Nat × Nat) :
    Option String :=
  groups[place.1]?.bind (fun entry =>
    entry.triggers[place.2]?.map JobTriggerDto.triggerId)

def groupOf (entry : JobRow × List JobRow) : GroupTriggers :=
  { group := .copy entry.1.group
    triggers := entry.2.map groupedTrigger }

/-- The groups of the rows, as the loop builds them. -/
def groupedRows (rows : List JobRow) : List GroupTriggers :=
  (grouped JobRow.groupId JobRow.triggerId rows).map groupOf

/-- The loop has read `rows`. -/
structure Folded (rows : List JobRow) (folding : Folding) : Prop where
  groups : folding.groups = groupedRows rows
  groupIndexes : folding.groupIndexes.Locates (groupAt folding.groups)
  triggerIndexes : folding.triggerIndexes.Locates (triggerAt folding.groups)

/-! ## What occurs -/

section Occurs

variable {rows : List JobRow} {groups : List GroupTriggers}

theorem exists_groupAt (groupId : String) :
    (∃ position, groupAt (groupedRows rows) position = some groupId) ↔
      groupId ∈ rows.map JobRow.groupId := by
  rw [← mem_map_firstBy, ← grouped_keys JobRow.groupId JobRow.triggerId,
    List.mem_iff_getElem?]
  simp only [groupAt, groupedRows, List.getElem?_map, Option.map_map]
  rfl

theorem exists_triggerAt (triggerId : String) :
    (∃ place, triggerAt groups place = some triggerId) ↔
      triggerId ∈ (groups.flatMap GroupTriggers.triggers).map
        JobTriggerDto.triggerId := by
  simp only [triggerAt, List.mem_map, List.mem_flatMap,
    Option.bind_eq_some_iff, Option.map_eq_some_iff]
  constructor
  · intro ⟨place, entry, inside, trigger, found, same⟩
    exact ⟨trigger, ⟨entry, List.mem_of_getElem? inside,
      List.mem_of_getElem? found⟩, same⟩
  · intro ⟨trigger, ⟨entry, member, found⟩, same⟩
    obtain ⟨position, inside⟩ := List.mem_iff_getElem?.mp member
    obtain ⟨index, here⟩ := List.mem_iff_getElem?.mp found
    exact ⟨(position, index), entry, inside, trigger, here, same⟩

variable (rows) in
/-- The triggers of all groups are those of the rows, each once. -/
theorem groupedRows_triggers :
    (((groupedRows rows).flatMap GroupTriggers.triggers).map
      JobTriggerDto.triggerId).Perm
      ((firstBy JobRow.triggerId rows).map JobRow.triggerId) := by
  have perm := grouped_flatMap_perm JobRow.groupId JobRow.triggerId rows
  have mapped := perm.map JobRow.triggerId
  rw [List.map_flatMap] at mapped ⊢
  rw [groupedRows, List.flatMap_map]
  have same : ∀ entry : JobRow × List JobRow,
      (groupOf entry).triggers.map JobTriggerDto.triggerId =
        entry.2.map JobRow.triggerId := by
    intro entry
    rw [groupOf, List.map_map]
    rfl
  simpa only [same] using mapped

namespace Folded

variable {folding : Folding}

theorem group_known (folded : Folded rows folding) {groupId : String} :
    groupId ∈ rows.map JobRow.groupId ↔
      ∃ position, folding.groupIndexes.get? groupId = some position := by
  rw [← exists_groupAt, ← folded.groups]
  simp only [folded.groupIndexes groupId]

theorem trigger_known (folded : Folded rows folding) {triggerId : String} :
    triggerId ∈ rows.map JobRow.triggerId ↔
      ∃ place, folding.triggerIndexes.get? triggerId = some place := by
  rw [← mem_map_firstBy, ← (groupedRows_triggers rows).mem_iff, ← folded.groups,
    ← exists_triggerAt]
  simp only [folded.triggerIndexes triggerId]

theorem group_new (folded : Folded rows folding) {groupId : String}
    (new : groupId ∉ rows.map JobRow.groupId) :
    folding.groupIndexes.get? groupId = none := by
  rw [Option.eq_none_iff_forall_ne_some]
  intro position found
  exact new (folded.group_known.mpr ⟨position, found⟩)

theorem trigger_new (folded : Folded rows folding) {triggerId : String}
    (new : triggerId ∉ rows.map JobRow.triggerId) :
    folding.triggerIndexes.get? triggerId = none := by
  rw [Option.eq_none_iff_forall_ne_some]
  intro place found
  exact new (folded.trigger_known.mpr ⟨place, found⟩)

end Folded

end Occurs

/-! ## One row -/

section FoldRow

variable {folding : Folding} {row : JobRow} {position : Nat}
  {entry : GroupTriggers}

theorem foldRow_seen {place : Nat × Nat}
    (known : folding.groupIndexes.get? row.groupId = some position)
    (inside : folding.groups[position]? = some entry)
    (seen : folding.triggerIndexes.get? row.triggerId = some place) :
    foldRow folding row = .ok folding := by
  have group : folding.groupIndexes.get? (JobGroupDto.copy row.group).groupId =
      some position := known
  have trigger : folding.triggerIndexes.get? (groupedTrigger row).triggerId =
      some place := seen
  simp only [foldRow, group, inside, trigger]

def Folding.withTrigger (folding : Folding) (row : JobRow) (position : Nat)
    (entry : GroupTriggers) : Folding :=
  { folding with
    triggerIndexes := folding.triggerIndexes.put row.triggerId
      (position, entry.triggers.length)
    groups := folding.groups.set position
      { entry with triggers := entry.triggers ++ [groupedTrigger row] } }

theorem foldRow_newTrigger
    (known : folding.groupIndexes.get? row.groupId = some position)
    (inside : folding.groups[position]? = some entry)
    (new : folding.triggerIndexes.get? row.triggerId = none) :
    foldRow folding row = .ok (folding.withTrigger row position entry) := by
  have group : folding.groupIndexes.get? (JobGroupDto.copy row.group).groupId =
      some position := known
  have trigger : folding.triggerIndexes.get? (groupedTrigger row).triggerId =
      none := new
  simp only [foldRow, group, inside, trigger]
  rfl

def Folding.withGroup (folding : Folding) (row : JobRow) : Folding :=
  { groupIndexes := folding.groupIndexes.put row.groupId
      folding.groups.length
    triggerIndexes := folding.triggerIndexes.put row.triggerId
      (folding.groups.length, 0)
    groups := folding.groups ++ [groupOf (row, [row])] }

theorem foldRow_newGroup
    (unknown : folding.groupIndexes.get? row.groupId = none)
    (new : folding.triggerIndexes.get? row.triggerId = none) :
    foldRow folding row = .ok (folding.withGroup row) := by
  have group : folding.groupIndexes.get? (JobGroupDto.copy row.group).groupId =
      none := unknown
  have trigger : folding.triggerIndexes.get? (groupedTrigger row).triggerId =
      none := new
  simp only [foldRow, group, trigger, List.getElem?_concat_length,
    List.set_append_right _ _ (Nat.le_refl _), Nat.sub_self,
    List.set_cons_zero, List.length_nil]
  rfl

end FoldRow

/-! ## The positions after a change -/

section Changes

variable {groups : List GroupTriggers} {entry : GroupTriggers}
  {position : Nat}

theorem groupAt_set (inside : groups[position]? = some entry)
    (triggers : List JobTriggerDto) :
    groupAt (groups.set position { entry with triggers := triggers }) =
      groupAt groups := by
  ext1 other
  obtain ⟨bound, value⟩ := List.getElem?_eq_some_iff.mp inside
  simp only [groupAt, List.getElem?_set]
  by_cases same : position = other
  · subst same
    simp [bound, value]
  · rw [if_neg same]

theorem triggerAt_concat (inside : groups[position]? = some entry)
    (trigger : JobTriggerDto) :
    triggerAt (groups.set position
        { entry with triggers := entry.triggers ++ [trigger] }) =
      Function.update (triggerAt groups) (position, entry.triggers.length)
        (some trigger.triggerId) := by
  ext1 ⟨other, index⟩
  obtain ⟨bound, value⟩ := List.getElem?_eq_some_iff.mp inside
  simp only [triggerAt, List.getElem?_set, Function.update_apply,
    Prod.mk.injEq]
  by_cases same : position = other
  · subst same
    rcases Nat.lt_trichotomy index entry.triggers.length with
      before | rfl | after
    · simp [bound, value, before, Nat.ne_of_lt before,
        List.getElem?_append_left]
    · simp [bound]
    · have outside := Nat.ne_of_gt after
      have length : (entry.triggers ++ [trigger]).length ≤ index := by
        rw [List.length_append]
        exact after
      simp [bound, value, outside, List.getElem?_eq_none length,
        List.getElem?_eq_none (Nat.le_of_lt after)]
  · simp [same, Ne.symm same]

theorem triggerAt_end (inside : groups[position]? = some entry) :
    triggerAt groups (position, entry.triggers.length) = none := by
  simp [triggerAt, inside]

theorem groupAt_end : groupAt groups groups.length = none := by
  simp [groupAt]

theorem groupAt_append :
    groupAt (groups ++ [entry]) =
      Function.update (groupAt groups) groups.length
        (some entry.group.groupId) := by
  ext1 other
  simp only [groupAt, Function.update_apply]
  rcases Nat.lt_trichotomy other groups.length with before | rfl | after
  · simp [List.getElem?_append_left, before, Nat.ne_of_lt before]
  · simp
  · have length : (groups ++ [entry]).length ≤ other := by
      rw [List.length_append]
      exact after
    rw [List.getElem?_eq_none length, if_neg (Nat.ne_of_gt after),
      List.getElem?_eq_none (Nat.le_of_lt after)]

theorem triggerAt_outside (index : Nat) :
    triggerAt groups (groups.length, index) = none := by
  simp [triggerAt]

theorem triggerAt_append {trigger : JobTriggerDto}
    (single : entry.triggers = [trigger]) :
    triggerAt (groups ++ [entry]) =
      Function.update (triggerAt groups) (groups.length, 0)
        (some trigger.triggerId) := by
  ext1 ⟨other, index⟩
  simp only [triggerAt, Function.update_apply, Prod.mk.injEq]
  rcases Nat.lt_trichotomy other groups.length with before | rfl | after
  · simp [List.getElem?_append_left, before, Nat.ne_of_lt before]
  · cases index with
    | zero => simp [single]
    | succ index => simp [single]
  · have length : (groups ++ [entry]).length ≤ other := by
      rw [List.length_append]
      exact after
    rw [List.getElem?_eq_none length, if_neg (fun same =>
      Nat.ne_of_gt after same.1), List.getElem?_eq_none (Nat.le_of_lt after)]

end Changes

/-! ## The invariant -/

namespace Folded

variable {rows : List JobRow} {row : JobRow} {folding : Folding}
  {position : Nat} {entry : GroupTriggers}

theorem start : Folded [] Folding.start := by
  refine ⟨rfl, ?_, ?_⟩
  · intro groupId position
    simp [Folding.start, groupAt]
  · intro triggerId place
    simp [Folding.start, triggerAt]

theorem seen (folded : Folded rows folding)
    (group : row.groupId ∈ rows.map JobRow.groupId)
    (trigger : row.triggerId ∈ rows.map JobRow.triggerId) :
    Folded (rows ++ [row]) folding := by
  refine ⟨?_, folded.groupIndexes, folded.triggerIndexes⟩
  rw [groupedRows, grouped_concat_of_seen trigger group, folded.groups,
    groupedRows]

theorem withTrigger (folded : Folded rows folding)
    (group : row.groupId ∈ rows.map JobRow.groupId)
    (trigger : row.triggerId ∉ rows.map JobRow.triggerId)
    (inside : folding.groups[position]? = some entry)
    (same : entry.group.groupId = row.groupId) :
    Folded (rows ++ [row]) (folding.withTrigger row position entry) := by
  have here : groupAt folding.groups position = some row.groupId := by
    rw [groupAt, inside, Option.map_some, same]
  refine ⟨?_, ?_, ?_⟩
  · have groups := folded.groups
    rw [groupedRows] at groups
    have found := inside
    rw [groups, List.getElem?_map, Option.map_eq_some_iff] at found
    obtain ⟨item, at_, rfl⟩ := found
    have key : item.1.groupId = row.groupId := same
    rw [groupedRows, grouped_concat_of_new trigger group, List.map_map,
      Folding.withTrigger, groups]
    have replaced := set_map_eq_map groupOf
      (groupOf ∘ fun entry : JobRow × List JobRow =>
        if entry.1.groupId = row.groupId then (entry.1, entry.2 ++ [row])
        else entry) at_
    rw [← replaced]
    · simp [groupOf, key]
    · intro other found occurs different
      have distinct : found.1.groupId ≠ row.groupId := by
        intro equal
        apply different
        apply folded.groupIndexes.position_unique _ here
        rw [groupAt, groups, List.getElem?_map, occurs, ← equal]
        rfl
      simp [distinct]
  · simp only [Folding.withTrigger, groupAt_set inside]
    exact folded.groupIndexes
  · simp only [Folding.withTrigger, triggerAt_concat inside]
    exact folded.triggerIndexes.put (triggerAt_end inside)
      (folded.trigger_new trigger)

theorem withGroup (folded : Folded rows folding)
    (group : row.groupId ∉ rows.map JobRow.groupId)
    (trigger : row.triggerId ∉ rows.map JobRow.triggerId) :
    Folded (rows ++ [row]) (folding.withGroup row) := by
  refine ⟨?_, ?_, ?_⟩
  · rw [groupedRows, grouped_concat_of_new_key trigger group, List.map_append,
      Folding.withGroup, folded.groups]
    rfl
  · simp only [Folding.withGroup, groupAt_append]
    exact folded.groupIndexes.put groupAt_end (folded.group_new group)
  · have single : (groupOf (row, [row])).triggers = [groupedTrigger row] := rfl
    simp only [Folding.withGroup, triggerAt_append single]
    exact folded.triggerIndexes.put (triggerAt_outside 0)
      (folded.trigger_new trigger)

/-- One more row. -/
theorem foldRow (folded : Folded rows folding)
    (joined : JoinedRows (rows ++ [row])) :
    ∃ next, JobServiceImpl.foldRow folding row = .ok next ∧
      Folded (rows ++ [row]) next := by
  by_cases group : row.groupId ∈ rows.map JobRow.groupId
  · obtain ⟨position, known⟩ := folded.group_known.mp group
    have here := (folded.groupIndexes _ _).mp known
    obtain ⟨entry, inside, same⟩ := Option.map_eq_some_iff.mp here
    by_cases trigger : row.triggerId ∈ rows.map JobRow.triggerId
    · obtain ⟨place, found⟩ := folded.trigger_known.mp trigger
      exact ⟨folding, foldRow_seen known inside found,
        folded.seen group trigger⟩
    · have new := folded.trigger_new trigger
      exact ⟨_, foldRow_newTrigger known inside new,
        folded.withTrigger group trigger inside same⟩
  · have trigger : row.triggerId ∉ rows.map JobRow.triggerId := by
      intro found
      obtain ⟨other, member, same⟩ := List.mem_map.mp found
      apply group
      rw [← joined other (List.mem_append_left _ member) row (by simp) same]
      exact List.mem_map_of_mem member
    have unknown := folded.group_new group
    have new := folded.trigger_new trigger
    exact ⟨_, foldRow_newGroup unknown new,
      folded.withGroup group trigger⟩

end Folded

/-- The loop over joined rows ends with the grouped rows. -/
theorem foldRows_folded {rows : List JobRow} (joined : JoinedRows rows) :
    ∃ folding, foldRows rows = .ok folding ∧ Folded rows folding := by
  induction rows using List.reverseRecOn with
  | nil => exact ⟨_, rfl, Folded.start⟩
  | append_singleton rows row induction =>
      obtain ⟨folding, run, folded⟩ :=
        induction (joined.mono (List.subset_append_left _ _))
      obtain ⟨next, step, kept⟩ := folded.foldRow joined
      refine ⟨next, ?_, kept⟩
      rw [foldRows, List.foldlM_append, ← foldRows, run]
      exact (List.foldlM_cons ..).trans (congrArg (· >>= _) step)

end JobServiceImpl

end SpringTemplate.Job
