import SpringTemplate.Library.HqlMeaning

/-!
# The job tables

The rows of the job entities, with the columns the entities declare.  A
reference to another entity is the value of its foreign key column.
`JobDatabase` adds what the entities declare about keys: ids are unique, and a
foreign key that is not null refers to a row.

`jobSchema` gives HQL statements their rows, associations and attributes.
-/

namespace SpringTemplate.Job

open Hql (Path Value)

/-- `AppConstants.Boolean`. -/
def yes : Char := 'Y'

def no : Char := 'N'

structure JobGroup where
  groupId : String
  name : String
  description : Option String
  isActive : Char
  zoneOffsetSeconds : Int
  deriving DecidableEq, Repr

structure JobType where
  typeId : String
  name : String
  classname : String
  description : Option String
  isSingleRun : Option Char
  isRunning : Option Char
  isSaveResult : Char
  lastRunTime : Option Int
  lastRunData : Option String
  lastRunTriggerId : Option String
  deriving DecidableEq, Repr

structure JobTypeParameterId where
  typeId : String
  parameterName : String
  deriving DecidableEq, Repr

structure JobTypeParameter where
  id : JobTypeParameterId
  description : Option String
  deriving DecidableEq, Repr

structure JobTrigger where
  triggerId : String
  groupId : String
  typeId : String
  name : String
  description : Option String
  cronExpression : String
  zoneOffsetSeconds : Option Int
  instanceId : Option String
  isRunOnStartup : Char
  isActive : Char
  isSaveResult : Char
  lastRunTime : Option Int
  lastRunData : Option String
  deriving DecidableEq, Repr

structure JobTriggerConfigurationId where
  triggerId : String
  typeId : String
  parameterName : String
  deriving DecidableEq, Repr

structure JobTriggerConfiguration where
  id : JobTriggerConfigurationId
  value : Option String
  bytes : Option (List UInt8)
  deriving DecidableEq, Repr

structure JobTables where
  groups : List JobGroup
  types : List JobType
  parameters : List JobTypeParameter
  triggers : List JobTrigger
  configurations : List JobTriggerConfiguration
  deriving DecidableEq, Repr

/-- The parameter of a job type that a configuration row is a value of. -/
def JobTriggerConfigurationId.parameter (id : JobTriggerConfigurationId) :
    JobTypeParameterId :=
  { typeId := id.typeId
    parameterName := id.parameterName }

/-- Job tables whose declared keys hold. -/
structure JobDatabase extends JobTables where
  groups_nodup : (groups.map JobGroup.groupId).Nodup
  types_nodup : (types.map JobType.typeId).Nodup
  parameters_nodup : (parameters.map JobTypeParameter.id).Nodup
  triggers_nodup : (triggers.map JobTrigger.triggerId).Nodup
  configurations_nodup :
    (configurations.map JobTriggerConfiguration.id).Nodup
  parameter_type : ∀ parameter ∈ parameters,
    parameter.id.typeId ∈ types.map JobType.typeId
  trigger_group : ∀ trigger ∈ triggers,
    trigger.groupId ∈ groups.map JobGroup.groupId
  trigger_type : ∀ trigger ∈ triggers,
    trigger.typeId ∈ types.map JobType.typeId
  configuration_trigger : ∀ configuration ∈ configurations,
    configuration.id.triggerId ∈ triggers.map JobTrigger.triggerId
  configuration_parameter : ∀ configuration ∈ configurations,
    configuration.id.parameter ∈ parameters.map JobTypeParameter.id

/-! ## The schema -/

inductive JobObject where
  | group (group : JobGroup)
  | type (type : JobType)
  | trigger (trigger : JobTrigger)
  | configuration (configuration : JobTriggerConfiguration)
  deriving DecidableEq, Repr

def JobGroup.value (group : JobGroup) : Path → Option Value
  | ["groupId"] => some (.text group.groupId)
  | ["name"] => some (.text group.name)
  | ["description"] => group.description.map .text
  | ["isActive"] => some (.flag group.isActive)
  | ["zoneOffsetSeconds"] => some (.number group.zoneOffsetSeconds)
  | _ => none

def JobType.value (type : JobType) : Path → Option Value
  | ["typeId"] => some (.text type.typeId)
  | ["name"] => some (.text type.name)
  | ["classname"] => some (.text type.classname)
  | ["description"] => type.description.map .text
  | ["isSingleRun"] => type.isSingleRun.map .flag
  | ["isRunning"] => type.isRunning.map .flag
  | ["isSaveResult"] => some (.flag type.isSaveResult)
  | ["lastRunTime"] => type.lastRunTime.map .number
  | ["lastRunData"] => type.lastRunData.map .text
  | ["lastRunTriggerId"] => type.lastRunTriggerId.map .text
  | _ => none

def JobTrigger.value (trigger : JobTrigger) : Path → Option Value
  | ["triggerId"] => some (.text trigger.triggerId)
  | ["group", "groupId"] => some (.text trigger.groupId)
  | ["type", "typeId"] => some (.text trigger.typeId)
  | ["instance", "instanceId"] => trigger.instanceId.map .text
  | ["name"] => some (.text trigger.name)
  | ["description"] => trigger.description.map .text
  | ["cronExpression"] => some (.text trigger.cronExpression)
  | ["zoneOffsetSeconds"] => trigger.zoneOffsetSeconds.map .number
  | ["isRunOnStartup"] => some (.flag trigger.isRunOnStartup)
  | ["isActive"] => some (.flag trigger.isActive)
  | ["isSaveResult"] => some (.flag trigger.isSaveResult)
  | ["lastRunTime"] => trigger.lastRunTime.map .number
  | ["lastRunData"] => trigger.lastRunData.map .text
  | _ => none

/-! The attributes that conditions of the job service name. -/

section Attributes

variable (group : JobGroup) (trigger : JobTrigger)

theorem JobGroup.value_groupId :
    group.value ["groupId"] = some (.text group.groupId) := rfl

theorem JobGroup.value_isActive :
    group.value ["isActive"] = some (.flag group.isActive) := rfl

theorem JobTrigger.value_triggerId :
    trigger.value ["triggerId"] = some (.text trigger.triggerId) := rfl

theorem JobTrigger.value_instanceId :
    trigger.value ["instance", "instanceId"] =
      trigger.instanceId.map .text := rfl

theorem JobTrigger.value_isActive :
    trigger.value ["isActive"] = some (.flag trigger.isActive) := rfl

end Attributes

/-- The attributes a condition can name; `bytes` cannot be compared. -/
def JobTriggerConfiguration.attribute
    (configuration : JobTriggerConfiguration) : Path → Option Value
  | ["id", "triggerId"] => some (.text configuration.id.triggerId)
  | ["id", "typeId"] => some (.text configuration.id.typeId)
  | ["id", "parameterName"] => some (.text configuration.id.parameterName)
  | ["value"] => configuration.value.map .text
  | _ => none

def JobObject.value : JobObject → Path → Option Value
  | .group row => row.value
  | .type row => row.value
  | .trigger row => row.value
  | .configuration row => row.attribute

def JobTables.rows (tables : JobTables) : String → List JobObject
  | "JobGroup" => tables.groups.map .group
  | "JobType" => tables.types.map .type
  | "JobTrigger" => tables.triggers.map .trigger
  | "JobTriggerConfiguration" => tables.configurations.map .configuration
  | _ => []

def JobTables.related (tables : JobTables) :
    JobObject → Path → List JobObject
  | .trigger trigger, ["type"] =>
      (tables.types.filter
        (fun type => type.typeId = trigger.typeId)).map .type
  | .trigger trigger, ["group"] =>
      (tables.groups.filter
        (fun group => group.groupId = trigger.groupId)).map .group
  | _, _ => []

def jobSchema : Hql.Schema JobTables JobObject Value :=
  { rows := JobTables.rows
    related := JobTables.related
    value := JobObject.value
    number := fun value => .number value }

end SpringTemplate.Job
