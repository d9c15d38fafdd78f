import SpringTemplate.Library.OrderedMap
import SpringTemplate.Job.TriggerRows

/-!
# What the job service makes of query results

`getGroupsAndTriggers` folds the joined rows into groups with their triggers
and keeps, for every group id and trigger id, the position it has put it at.
The configuration rows, read by another task, are then stored through these
positions.  `getTrigger` does the same for one trigger.

A copy of an entity made by `copyProperties` is the entity's row.
-/

namespace SpringTemplate.Job

inductive JobException where
  | indexOutOfBounds
  | nonUniqueResult
  deriving DecidableEq, Repr

/-- `JobTriggerDto.Configuration`. -/
structure Configuration where
  value : Option String
  bytes : Option (List UInt8)
  deriving DecidableEq, Repr

/-- A group without its triggers; one made from an id alone has nothing
else. -/
structure JobGroupDto where
  groupId : String
  properties : Option JobGroup
  deriving DecidableEq, Repr

structure JobTriggerDto where
  properties : JobTrigger
  type : JobType
  group : JobGroupDto
  configurations : OrderedMap String Configuration

/-- A trigger as `getTriggerMap` fills it, without type and
configurations. -/
structure MappedTrigger where
  properties : JobTrigger
  group : JobGroupDto
  deriving DecidableEq, Repr

/-- A group with its triggers. -/
structure GroupTriggers where
  group : JobGroupDto
  triggers : List JobTriggerDto

def JobGroupDto.ofId (groupId : String) : JobGroupDto :=
  { groupId := groupId
    properties := none }

def JobGroupDto.copy (group : JobGroup) : JobGroupDto :=
  { groupId := group.groupId
    properties := some group }

def JobTriggerConfiguration.configuration (row : JobTriggerConfiguration) :
    Configuration :=
  { value := row.value
    bytes := row.bytes }

namespace JobTriggerDto

def triggerId (trigger : JobTriggerDto) : String :=
  trigger.properties.triggerId

/-- Store the value of a configuration row under its parameter name. -/
def putConfiguration (trigger : JobTriggerDto)
    (row : JobTriggerConfiguration) : JobTriggerDto :=
  { trigger with
    configurations := trigger.configurations.put row.id.parameterName
      row.configuration }

/-- Store configuration rows in turn. -/
def putConfigurations (trigger : JobTriggerDto)
    (rows : List JobTriggerConfiguration) : JobTriggerDto :=
  rows.foldl putConfiguration trigger

end JobTriggerDto

namespace JobServiceImpl

/-- The maps and the list the loop of `getGroupsAndTriggers` builds. -/
structure Folding where
  groupIndexes : OrderedMap String Nat
  triggerIndexes : OrderedMap String (Nat × Nat)
  groups : List GroupTriggers

def Folding.start : Folding :=
  { groupIndexes := .empty
    triggerIndexes := .empty
    groups := [] }

/-- The trigger of a row as `getGroupsAndTriggers` returns it. -/
def groupedTrigger (row : JobRow) : JobTriggerDto :=
  { properties := row.trigger
    type := row.type
    group := .ofId row.group.groupId
    configurations := .empty }

/-- One turn of the loop over the joined rows. -/
def foldRow (folding : Folding) (row : JobRow) :
    Except JobException Folding :=
  let trigger := groupedTrigger row
  let group := JobGroupDto.copy row.group
  let (folding, groupIndex) :=
    match folding.groupIndexes.get? group.groupId with
    | some groupIndex => (folding, groupIndex)
    | none =>
        ({ folding with
            groups := folding.groups ++ [GroupTriggers.mk group []]
            groupIndexes :=
              folding.groupIndexes.put group.groupId folding.groups.length },
          folding.groups.length)
  match folding.groups[groupIndex]? with
  | none => .error .indexOutOfBounds
  | some entry =>
      match folding.triggerIndexes.get? trigger.triggerId with
      | some _ => .ok folding
      | none =>
          .ok { folding with
            triggerIndexes := folding.triggerIndexes.put trigger.triggerId
              (groupIndex, entry.triggers.length)
            groups := folding.groups.set groupIndex
              { entry with triggers := entry.triggers ++ [trigger] } }

def foldRows (rows : List JobRow) : Except JobException Folding :=
  rows.foldlM foldRow Folding.start

/-- One turn of the loop over the configuration rows. -/
def mergeConfiguration (indexes : OrderedMap String (Nat × Nat))
    (groups : List GroupTriggers) (row : JobTriggerConfiguration) :
    Except JobException (List GroupTriggers) :=
  match indexes.get? row.id.triggerId with
  | none => .ok groups
  | some (groupIndex, triggerIndex) =>
      match groups[groupIndex]? with
      | none => .error .indexOutOfBounds
      | some entry =>
          match entry.triggers[triggerIndex]? with
          | none => .error .indexOutOfBounds
          | some trigger =>
              .ok (groups.set groupIndex
                { entry with
                  triggers := entry.triggers.set triggerIndex
                    (trigger.putConfiguration row) })

/-- `getGroupsAndTriggers`, given what its two tasks have read. -/
def getGroupsAndTriggers (rows : List JobRow)
    (configurations : List JobTriggerConfiguration)
    (includeConfigs : Option Bool) :
    Except JobException (List GroupTriggers) := do
  let folding ← foldRows rows
  if ¬ folding.groups.isEmpty ∧ includeConfigs = some true then
    configurations.foldlM (mergeConfiguration folding.triggerIndexes)
      folding.groups
  else pure folding.groups

/-- The trigger of a row as `getTrigger` returns it. -/
def singleTrigger (row : JobRow) : JobTriggerDto :=
  { properties := row.trigger
    type := row.type
    group := .copy row.group
    configurations := .empty }

/-- `getTrigger`, given what its two tasks have read. -/
def getTrigger (rows : List JobRow)
    (configurations : List JobTriggerConfiguration)
    (includeConfigs : Option Bool) :
    Except JobException (Option JobTriggerDto) :=
  match rows with
  | [] => .ok none
  | [row] =>
      if includeConfigs = some true then
        .ok (some ((singleTrigger row).putConfigurations configurations))
      else .ok (some (singleTrigger row))
  | _ => .error .nonUniqueResult

/-- `getGroups`, given the groups its query has read. -/
def getGroups (groups : List JobGroup) : List JobGroupDto :=
  groups.map .copy

/-- The loop of `getTriggerMap` over the rows. -/
def mapTriggers (rows : List (JobTrigger × JobGroup)) :
    OrderedMap String MappedTrigger :=
  rows.foldl (fun triggers (eTrigger, eGroup) =>
    triggers.put eTrigger.triggerId
      { properties := eTrigger, group := .copy eGroup }) .empty

end JobServiceImpl

end SpringTemplate.Job
