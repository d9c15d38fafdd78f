import SpringTemplate.Library.RowOrder
import SpringTemplate.Job.PairedRows

/-!
# Three ways to read a trigger

A trigger is read by `getGroupsAndTriggers` among the groups, by `getTrigger`
alone, and by `getTriggerMap` among a collection of ids.  On one state the
three return the same trigger with the same group, and the first two the same
configurations when their queries list its rows in the same order.
-/

namespace SpringTemplate.Job

open Hql

open JobServiceImpl

/-! ## The statement -/

def mapCondition : Condition :=
  .member (.path ["a", "triggerId"]) 1

def mapQuery : Query :=
  { select := [["a"], ["b"]]
    source := pairSource
    condition := some mapCondition }

section Statement

variable (ids : List (Option String))

theorem triggerMapStatement_text :
    (triggerMapStatement ids).text =
      "select a, b " ++ "from JobTrigger a " ++ "join a.group b " ++
        "where a.triggerId in (?1)" := rfl

theorem triggerMapStatement_bindings :
    (triggerMapStatement ids).bindings =
      [(1, .collection (ids.map (Option.map .text)))] := rfl

theorem parse_triggerMapStatement :
    parseQuery (triggerMapStatement ids).text = some mapQuery := by
  have tokens : Hql.tokens ("select a, b " ++ "from JobTrigger a " ++
      "join a.group b " ++ "where a.triggerId in (?1)") =
      [.keyword .select, .name ["a"], .symbol ',', .name ["b"],
        .keyword .from, .name ["JobTrigger"], .name ["a"], .keyword .join,
        .name ["a", "group"], .name ["b"], .keyword .where,
        .name ["a", "triggerId"], .keyword .in, .symbol '(', .symbol '?',
        .number 1, .symbol ')'] := by
    rw [Hql.tokens]
    simp only [String.toList_append,
      (String.toList_ofList : "select a, b ".toList = _),
      (String.toList_ofList : "from JobTrigger a ".toList = _),
      (String.toList_ofList : "join a.group b ".toList = _),
      (String.toList_ofList : "where a.triggerId in (?1)".toList = _)]
    rfl
  rw [triggerMapStatement_text, parseQuery, tokens]
  rfl

/-- The rows are those of the triggers with an id among the given ones. -/
theorem triggerMapStatement_rows (tables : JobTables) :
    jobSchema.select tables (triggerMapStatement ids) =
      some ((tables.paired.filter
        (fun pair => some pair.1.triggerId ∈ ids)).map pairObjects) := by
  have condition : ∀ pair : JobTrigger × JobGroup,
      jobSchema.truth tables
          [(1, .collection (ids.map (Option.map .text)))] mapCondition
          (pairScope pair) = .yes ↔ some pair.1.triggerId ∈ ids := by
    intro pair
    have member := text_mem_map pair.1.triggerId ids
    simp only [mapCondition, Schema.truth, Schema.operand, read_pair_trigger,
      JobTrigger.value_triggerId, List.lookup_cons, beq_self_eq_true,
      Truth.member_eq_yes, member]
    simp
  have bound : Bound mapCondition.placeholders
      [(1, Parameter.collection (ids.map (Option.map Value.text)))] := by
    simp [Bound, mapCondition, Condition.placeholders, Operand.placeholders]
  simp only [Schema.select, parse_triggerMapStatement, Option.bind_eq_bind,
    Option.bind_some, mapQuery, Query.placeholders, Option.map_some,
    Option.getD_some, bound, if_true, Schema.queryRows, scopes_pairSource,
    Schema.Holds, Option.mem_some_iff, forall_eq', List.filter_map,
    List.map_map, Function.comp_def, triggerMapStatement_bindings, condition]
  rfl

theorem reads_triggerMap {tables : JobTables}
    {rows : List (JobTrigger × JobGroup)} :
    Reads tables (triggerMapStatement ids) (rows.map pairObjects) ↔
      rows.Perm (tables.paired.filter
        (fun pair => some pair.1.triggerId ∈ ids)) := by
  simp only [Reads, triggerMapStatement_rows, Option.some.injEq,
    exists_eq_left', List.map_perm_map_iff pairObjects_injective]

end Statement

/-! ## The calls -/

/-- What `getTriggerMap` returns on a state.  The ids are put into a set
first. -/
def TriggerMapCall (tables : JobTables)
    (triggerIds : Option (List (Option String)))
    (result : OrderedMap String MappedTrigger) : Prop :=
  match triggerIds with
  | some (first :: rest) =>
      ∃ rows, Reads tables (triggerMapStatement (firstBy id (first :: rest)))
          (rows.map pairObjects) ∧
        result = mapTriggers rows
  | _ => result = .empty

/-- What the two tasks of `getGroupsAndTriggers` have read on a state, in
whatever order the database returns the rows. -/
structure GroupsRead (tables : JobTables) (instanceId : Option String)
    (isActive : Option Bool) (groupIds : Option (List (Option String)))
    (rows : List JobRow) (configurations : List JobTriggerConfiguration) :
    Prop where
  triggers : Reads tables (triggerStatement instanceId isActive groupIds)
    (rows.map JobRow.objects)
  configurations : Reads tables
    (configurationStatement instanceId isActive groupIds)
    (configurations.map JobTriggerConfiguration.objects)

/-- The same for `getTrigger`. -/
structure TriggerRead (tables : JobTables) (triggerId : Option String)
    (rows : List JobRow) (configurations : List JobTriggerConfiguration) :
    Prop where
  triggers : Reads tables (triggerByIdStatement triggerId)
    (rows.map JobRow.objects)
  configurations : Reads tables (configurationByIdStatement triggerId)
    (configurations.map JobTriggerConfiguration.objects)

/-- The same columns, type, group id and configurations. -/
structure SameTrigger (grouped single : JobTriggerDto) : Prop where
  properties : single.properties = grouped.properties
  type : single.type = grouped.type
  groupId : single.group.groupId = grouped.group.groupId
  configurations : single.configurations = grouped.configurations

def mappedEntry (pair : JobTrigger × JobGroup) : String × MappedTrigger :=
  (pair.1.triggerId, { properties := pair.1, group := .copy pair.2 })

theorem mapTriggers_eq (rows : List (JobTrigger × JobGroup)) :
    mapTriggers rows = OrderedMap.empty.putAll (rows.map mappedEntry) := by
  rw [OrderedMap.putAll, List.foldl_map]
  rfl

namespace JobDatabase

variable (db : JobDatabase)

theorem mem_paired {pair : JobTrigger × JobGroup} :
    pair ∈ db.paired ↔ ∃ row ∈ db.joined, row.pair = pair := by
  rw [← db.joined_pairs, List.mem_map]

theorem paired_nodup (keep : JobTrigger × JobGroup → Bool) :
    ((db.paired.filter keep).map (fun pair => pair.1.triggerId)).Nodup := by
  have stored : (db.paired.map (fun pair => pair.1.triggerId)).Nodup := by
    have all : (db.joined.filter (fun _ => true)).map JobRow.trigger =
        db.triggers.filter (fun _ => true) :=
      db.joined_triggers (fun _ _ => rfl)
    rw [List.filter_true, List.filter_true] at all
    rw [← db.joined_pairs, List.map_map]
    have ids := db.triggers_nodup
    rw [← all, List.map_map] at ids
    exact ids
  exact List.Nodup.sublist (List.filter_sublist.map _) stored

/-- The entries of the map are the rows with an id among the given ones. -/
theorem triggerMap_get? {triggerIds : Option (List (Option String))}
    {mapped : OrderedMap String MappedTrigger}
    (call : TriggerMapCall db.toJobTables triggerIds mapped) {key : String}
    {entry : MappedTrigger} :
    mapped.get? key = some entry ↔
      some key ∈ triggerIds.getD [] ∧
        ∃ row ∈ db.joined, (key, entry) = mappedEntry row.pair := by
  rcases triggerIds with _ | _ | ⟨first, rest⟩
  · cases call
    simp
  · cases call
    simp
  · obtain ⟨rows, read, rfl⟩ := call
    rw [reads_triggerMap] at read
    have nodup : ((rows.map mappedEntry).map Prod.fst).Nodup := by
      rw [List.map_map]
      exact (read.map (fun pair => pair.1.triggerId)).nodup_iff.mpr
        (db.paired_nodup _)
    have asked : ∀ text, text ∈ firstBy id (first :: rest) ↔
        text ∈ first :: rest := by
      intro text
      have same := mem_map_firstBy id (first :: rest) text
      rwa [List.map_id, List.map_id] at same
    rw [mapTriggers_eq, OrderedMap.get?_putAll_iff_mem nodup, List.mem_map]
    constructor
    · rintro ⟨pair, member, equal⟩
      obtain ⟨inside, wanted⟩ := List.mem_filter.mp (read.mem_iff.mp member)
      obtain ⟨row, joined, rfl⟩ := db.mem_paired.mp inside
      refine ⟨?_, row, joined, equal.symm⟩
      have sameKey : row.pair.1.triggerId = key := congrArg Prod.fst equal
      rw [← sameKey]
      exact (asked _).mp (of_decide_eq_true wanted)
    · rintro ⟨wanted, row, joined, equal⟩
      refine ⟨row.pair, read.mem_iff.mpr (List.mem_filter.mpr
        ⟨db.mem_paired.mpr ⟨row, joined, rfl⟩, ?_⟩), equal.symm⟩
      have sameKey : key = row.pair.1.triggerId := congrArg Prod.fst equal
      rw [← sameKey]
      exact decide_eq_true ((asked _).mpr wanted)

/-- `getTrigger` finds the joined row with the id, if there is one. -/
theorem triggerCall_found {triggerId : Option String}
    {includeConfigs : Option Bool}
    {result : Except JobException (Option JobTriggerDto)}
    (call : TriggerCall db.toJobTables db.toJobTables triggerId
      includeConfigs result) :
    ∃ found, result = .ok found ∧
      (found = none ∧ (∀ row ∈ db.joined, some row.triggerId ≠ triggerId) ∨
        ∃ row ∈ db.joined, some row.triggerId = triggerId ∧
          ∃ returned, found = some returned ∧
            returned.properties = row.trigger ∧
            returned.group = .copy row.group) := by
  obtain ⟨rows, configurations, read, _, rfl⟩ := call
  have perm := reads_triggerById.mp read
  rcases db.triggerRowsById_cases triggerId with
    none_ | ⟨row, single, _, sameId⟩
  · rw [none_] at perm
    rw [perm.eq_nil]
    refine ⟨none, rfl, .inl ⟨rfl, ?_⟩⟩
    intro row joined same
    have member : row ∈ db.triggerRowsById triggerId :=
      List.mem_filter.mpr ⟨joined, decide_eq_true same⟩
    rw [none_] at member
    simp at member
  · have member : row ∈ db.triggerRowsById triggerId := by
      rw [single]
      exact List.mem_singleton_self row
    rw [single] at perm
    rw [List.perm_singleton.mp perm]
    have joined := List.mem_of_mem_filter member
    by_cases included : includeConfigs = some true
    · refine ⟨_, if_pos included, .inr ⟨row, joined, sameId, _, rfl, ?_, ?_⟩⟩
      · rw [JobTriggerDto.putConfigurations_properties]
        rfl
      · rw [JobTriggerDto.putConfigurations_eq]
        rfl
    · exact ⟨_, if_neg included, .inr ⟨row, joined, sameId, _, rfl, rfl,
        rfl⟩⟩

theorem triggerRowsById_of_joined {row : JobRow} (joined : row ∈ db.joined) :
    db.triggerRowsById (some row.triggerId) = [row] := by
  have stored := (JobTables.mem_joined.mp joined).1
  obtain ⟨found, single, _⟩ := db.triggerRowsById_of_member stored
  have only : db.triggerRowsById (some row.triggerId) = [found] := single
  have member : row ∈ db.triggerRowsById (some row.triggerId) :=
    List.mem_filter.mpr ⟨joined, decide_eq_true rfl⟩
  rw [only] at member
  rw [only, List.mem_singleton.mp member]

/-- There is one joined row for an id. -/
theorem joined_unique {row other : JobRow} (joined : row ∈ db.joined)
    (otherJoined : other ∈ db.joined)
    (same : row.triggerId = other.triggerId) : row = other := by
  have alone := db.triggerRowsById_of_joined joined
  rw [same, db.triggerRowsById_of_joined otherJoined] at alone
  exact (List.singleton_inj.mp alone).symm

section MapAndSingle

variable {triggerIds : Option (List (Option String))}
  {mapped : OrderedMap String MappedTrigger} {includeConfigs : Option Bool}

/-- The keys of the map are the given ids that `getTrigger` finds. -/
theorem mappedKey_iff {triggerId : Option String}
    {found : Option JobTriggerDto}
    (call : TriggerMapCall db.toJobTables triggerIds mapped)
    (single : TriggerCall db.toJobTables db.toJobTables triggerId
      includeConfigs (.ok found)) :
    (∃ key ∈ mapped.keys, some key = triggerId) ↔
      triggerId ∈ triggerIds.getD [] ∧ found ≠ none := by
  obtain ⟨_, equal, outcome⟩ := db.triggerCall_found single
  cases equal
  constructor
  · intro mappedKey
    obtain ⟨key, member, rfl⟩ := mappedKey
    obtain ⟨entry, stored⟩ := (mapped.mem_keys_iff key).mp member
    obtain ⟨asked, row, joined, same⟩ := (db.triggerMap_get? call).mp stored
    refine ⟨asked, ?_⟩
    rcases outcome with ⟨_, absent⟩ | ⟨_, _, _, returned, some_, _⟩
    · have sameKey : key = row.triggerId := congrArg Prod.fst same
      exact absurd (congrArg some sameKey.symm) (absent row joined)
    · rw [some_]
      exact Option.some_ne_none returned
  · intro asked
    rcases outcome with ⟨nothing, _⟩ | ⟨row, joined, sameId, _⟩
    · exact absurd nothing asked.2
    · refine ⟨row.triggerId, (mapped.mem_keys_iff _).mpr
        ⟨(mappedEntry row.pair).2, ?_⟩, sameId⟩
      apply (db.triggerMap_get? call).mpr
      exact ⟨sameId ▸ asked.1, row, joined, rfl⟩

theorem mapped_agrees {key : String} {entry : MappedTrigger}
    {returned : JobTriggerDto}
    (call : TriggerMapCall db.toJobTables triggerIds mapped)
    (single : TriggerCall db.toJobTables db.toJobTables (some key)
      includeConfigs (.ok (some returned)))
    (stored : mapped.get? key = some entry) :
    entry.properties.triggerId = key ∧
      entry.properties = returned.properties ∧
      entry.group = returned.group := by
  obtain ⟨_, row, joined, same⟩ := (db.triggerMap_get? call).mp stored
  obtain ⟨_, equal, outcome⟩ := db.triggerCall_found single
  cases equal
  rcases outcome with ⟨nothing, _⟩ |
    ⟨other, otherJoined, sameId, _, isReturned, properties, group⟩
  · cases nothing
  · cases isReturned
    have sameKey : key = row.triggerId := congrArg Prod.fst same
    have sameRow : other = row := by
      apply db.joined_unique otherJoined joined
      rw [Option.some.inj sameId, sameKey]
    subst sameRow
    have sameEntry : entry = (mappedEntry other.pair).2 :=
      congrArg Prod.snd same
    subst sameEntry
    exact ⟨sameKey.symm, properties.symm, group.symm⟩

end MapAndSingle

end JobDatabase

theorem sameTrigger_of_row (row : JobRow)
    (read : List JobTriggerConfiguration) :
    SameTrigger ((groupedTrigger row).configured read)
      ((singleTrigger row).putConfigurations
        (read.filter (fun configuration =>
          configuration.id.triggerId = row.triggerId))) where
  properties := by
    rw [JobTriggerDto.putConfigurations_properties,
      JobTriggerDto.configured_properties]
    rfl
  type := by
    rw [JobTriggerDto.putConfigurations_eq, JobTriggerDto.configured,
      JobTriggerDto.putConfigurations_eq]
    rfl
  groupId := by
    rw [JobTriggerDto.putConfigurations_eq, JobTriggerDto.configured,
      JobTriggerDto.putConfigurations_eq]
    rfl
  configurations := by
    rw [JobTriggerDto.putConfigurations_eq, JobTriggerDto.configured,
      JobTriggerDto.putConfigurations_eq]
    rfl

namespace JobDatabase

variable (db : JobDatabase)

/-- The configuration rows of a trigger that is asked for are all among those
of `getGroupsAndTriggers`. -/
theorem configurationRows_ofTrigger {instanceId : Option String}
    {isActive : Option Bool} {groupIds : Option (List (Option String))}
    {row : JobRow}
    (member : row ∈ db.triggerRows instanceId isActive groupIds) :
    (db.configurationRows instanceId isActive groupIds).filter
        (fun configuration => configuration.id.triggerId = row.triggerId) =
      db.configurationRowsById (some row.triggerId) := by
  obtain ⟨joined, selects⟩ := List.mem_filter.mp member
  rw [configurationRows, JobTables.configurationRowsById, List.filter_filter]
  apply List.filter_congr
  intro configuration _
  by_cases same : configuration.id.triggerId = row.triggerId
  · have configures : Configures db.toJobTables instanceId isActive groupIds
        configuration := ⟨row, joined, of_decide_eq_true selects, same.symm⟩
    simp [same, configures]
  · simp [same]

theorem groupsRead_exists (instanceId : Option String)
    (isActive : Option Bool) (groupIds : Option (List (Option String))) :
    ∃ rows configurations, GroupsRead db.toJobTables instanceId isActive
      groupIds rows configurations :=
  ⟨_, _, reads_triggers.mpr (.refl _), reads_configurations.mpr (.refl _)⟩

/-- The queries of `getTrigger` may list the configurations in the order in
which they have come before. -/
theorem triggerRead_exists {instanceId : Option String}
    {isActive : Option Bool} {groupIds : Option (List (Option String))}
    {row : JobRow} (member : row ∈ db.triggerRows instanceId isActive groupIds)
    {configurations : List JobTriggerConfiguration}
    (read : configurations.Perm
      (db.configurationRows instanceId isActive groupIds)) :
    TriggerRead db.toJobTables (some row.triggerId)
      (db.triggerRowsById (some row.triggerId))
      (configurations.filter (fun configuration =>
        configuration.id.triggerId = row.triggerId)) where
  triggers := reads_triggerById.mpr (.refl _)
  configurations := by
    rw [reads_configurationById, ← db.configurationRows_ofTrigger member]
    exact read.filter _

/-- Configuration rows of a trigger that come in the same relative order are
the same list. -/
theorem singleConfigurations_eq {instanceId : Option String}
    {isActive : Option Bool} {groupIds : Option (List (Option String))}
    {row : JobRow} (member : row ∈ db.triggerRows instanceId isActive groupIds)
    {configurations singleConfigurations : List JobTriggerConfiguration}
    (read : configurations.Perm
      (db.configurationRows instanceId isActive groupIds))
    (singleRead : singleConfigurations.Perm
      (db.configurationRowsById (some row.triggerId)))
    (order : SameOrder configurations singleConfigurations) :
    configurations.filter (fun configuration =>
      configuration.id.triggerId = row.triggerId) = singleConfigurations := by
  apply (order.mono List.filter_sublist (.refl _)).eq_of_perm
  have perm := read.filter (fun configuration =>
    configuration.id.triggerId = row.triggerId)
  rw [db.configurationRows_ofTrigger member] at perm
  exact perm.trans singleRead.symm

theorem triggerMapCall_returns (triggerIds : Option (List (Option String))) :
    ∃ mapped, TriggerMapCall db.toJobTables triggerIds mapped := by
  rcases triggerIds with _ | _ | ⟨first, rest⟩
  · exact ⟨_, rfl⟩
  · exact ⟨_, rfl⟩
  · exact ⟨_, _, (reads_triggerMap _).mpr (.refl _), rfl⟩

end JobDatabase

/-- The three ways to read a trigger agree on every state.  Each call returns
a result, whatever order the rows come in. -/
theorem trigger_reads_agree (db : JobDatabase) :
    (∀ instanceId isActive groupIds,
      (∃ rows configurations, GroupsRead db.toJobTables instanceId isActive
        groupIds rows configurations) ∧
      ∀ rows configurations,
        GroupsRead db.toJobTables instanceId isActive groupIds rows
          configurations →
        ∃ groups,
          getGroupsAndTriggers rows configurations (some true) =
            .ok groups ∧
          ∀ entry ∈ groups, ∀ trigger ∈ entry.triggers,
            (∃ single singleConfigurations,
              TriggerRead db.toJobTables (some trigger.triggerId) single
                singleConfigurations ∧
              SameOrder configurations singleConfigurations) ∧
            ∀ single singleConfigurations,
              TriggerRead db.toJobTables (some trigger.triggerId) single
                singleConfigurations →
              SameOrder configurations singleConfigurations →
              ∃ returned,
                getTrigger single singleConfigurations (some true) =
                  .ok (some returned) ∧
                SameTrigger trigger returned) ∧
    ∀ triggerIds,
      (∃ mapped, TriggerMapCall db.toJobTables triggerIds mapped) ∧
      ∀ mapped, TriggerMapCall db.toJobTables triggerIds mapped →
        (triggerIds.getD [] = [] → mapped = .empty) ∧
        ∀ triggerId includeConfigs,
          (∃ found, TriggerCall db.toJobTables db.toJobTables triggerId
            includeConfigs (.ok found)) ∧
          ∀ result, TriggerCall db.toJobTables db.toJobTables triggerId
              includeConfigs result →
            ∃ found, result = .ok found ∧
              ((∃ key ∈ mapped.keys, some key = triggerId) ↔
                triggerId ∈ triggerIds.getD [] ∧ found ≠ none) ∧
              ∀ key entry returned, some key = triggerId →
                mapped.get? key = some entry → found = some returned →
                entry.properties.triggerId = key ∧
                  entry.properties = returned.properties ∧
                  entry.group = returned.group := by
  constructor
  · intro instanceId isActive groupIds
    refine ⟨db.groupsRead_exists instanceId isActive groupIds, ?_⟩
    intro rows configurations read
    have perm := reads_triggers.mp read.triggers
    have ordered := reads_configurations.mp read.configurations
    have joined : JoinedRows rows := db.joinedRows
      (List.Subset.trans perm.subset List.filter_sublist.subset)
    refine ⟨_, getGroupsAndTriggers_eq joined configurations, ?_⟩
    intro entry inside trigger member
    obtain ⟨row, first, rfl⟩ := returned_iff.mp ⟨entry, inside, member⟩
    have sameId : ((groupedTrigger row).configured
        configurations).triggerId = row.triggerId :=
      configured_triggerId configurations (groupedTrigger row)
    have selected := perm.mem_iff.mp (mem_of_mem_firstBy first)
    rw [sameId]
    refine ⟨⟨_, _, db.triggerRead_exists selected ordered, ?_⟩, ?_⟩
    · have different : configurations.Nodup := ordered.nodup_iff.mpr
        (db.configurations_nodup.of_map.filter _)
      exact (SameOrder.refl different).mono (.refl _) List.filter_sublist
    · intro single singleConfigurations singleRead order
      have alone := reads_triggerById.mp singleRead.triggers
      rw [db.triggerRowsById_of_joined (List.mem_of_mem_filter selected)]
        at alone
      refine ⟨_, by rw [List.perm_singleton.mp alone]; rfl, ?_⟩
      rw [← db.singleConfigurations_eq selected ordered
        (reads_configurationById.mp singleRead.configurations) order]
      exact sameTrigger_of_row row configurations
  · intro triggerIds
    refine ⟨db.triggerMapCall_returns triggerIds, ?_⟩
    intro mapped call
    refine ⟨?_, ?_⟩
    · intro none_
      rcases triggerIds with _ | _ | ⟨first, rest⟩
      · exact call
      · exact call
      · simp at none_
    · intro triggerId includeConfigs
      refine ⟨db.triggerCall_returns db triggerId includeConfigs, ?_⟩
      intro result single
      obtain ⟨found, rfl, _⟩ := db.triggerCall_found single
      refine ⟨found, rfl, db.mappedKey_iff call single, ?_⟩
      intro key entry returned sameKey stored isReturned
      subst sameKey
      subst isReturned
      exact db.mapped_agrees call single stored

/-- Two configurations of a trigger under one parameter name, which both
queries list in the reverse order of the table. -/
theorem trigger_reads_agree_reversed :
    ∃ groups returned mapped,
      getGroupsAndTriggers [.sample "t" "g"]
          [⟨⟨"t", "other", "p"⟩, some "2", none⟩,
            ⟨⟨"t", "type", "p"⟩, some "1", none⟩] (some true) =
        .ok groups ∧
      (∃ entry ∈ groups, ∃ trigger ∈ entry.triggers,
        SameTrigger trigger returned) ∧
      TriggerCall (JobDatabase.sample "trigger" "1" (some "2")).toJobTables
        (JobDatabase.sample "trigger" "1" (some "2")).toJobTables (some "t")
        (some true) (.ok (some returned)) ∧
      returned.configurations.get? "p" = some ⟨some "1", none⟩ ∧
      TriggerMapCall
        (JobDatabase.sample "trigger" "1" (some "2")).toJobTables
        (some [some "t", none, some "u", some "t"]) mapped ∧
      mapped.keys = ["t"] := by
  have agree := trigger_reads_agree
    (JobDatabase.sample "trigger" "1" (some "2"))
  have read : GroupsRead
      (JobDatabase.sample "trigger" "1" (some "2")).toJobTables none none none
      [.sample "t" "g"] [⟨⟨"t", "other", "p"⟩, some "2", none⟩,
        ⟨⟨"t", "type", "p"⟩, some "1", none⟩] :=
    ⟨reads_triggers.mpr (by decide), reads_configurations.mpr (by decide)⟩
  obtain ⟨groups, run, found⟩ := (agree.1 none none none).2 _ _ read
  have shape : ∃ entry ∈ groups, ∃ trigger ∈ entry.triggers,
      trigger.triggerId = "t" ∧
        trigger.configurations.get? "p" = some ⟨some "1", none⟩ := by
    cases run
    exact ⟨_, List.mem_cons_self, _, List.mem_cons_self, rfl, by decide⟩
  obtain ⟨entry, inside, trigger, member, sameId, value⟩ := shape
  obtain ⟨⟨single, configurations, singleRead, order⟩, same⟩ :=
    found entry inside trigger member
  obtain ⟨returned, returns, sameTrigger⟩ :=
    same single configurations singleRead order
  rw [sameId] at singleRead
  refine ⟨groups, returned, mapTriggers [(JobRow.sample "t" "g").pair], run,
    ⟨entry, inside, trigger, member, sameTrigger⟩,
    ⟨single, configurations, singleRead.triggers,
      fun _ => singleRead.configurations, returns.symm⟩, ?_,
    ⟨_, (reads_triggerMap _).mpr (by decide), rfl⟩, by decide⟩
  rw [sameTrigger.configurations]
  exact value

end SpringTemplate.Job
