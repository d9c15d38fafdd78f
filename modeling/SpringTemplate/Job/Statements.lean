import SpringTemplate.Library.JavaText
import SpringTemplate.Job.Database

/-!
# The statements of the job service

`JobServiceImpl` assembles its HQL piece by piece and numbers a placeholder by
the length the parameter list has reached.  The builders below do the same,
one for each statement of the service.
-/

namespace SpringTemplate.Job

open Hql (Parameter Statement Value positioned)

/-- `Boolean.TRUE.equals(flag) ? YES : NO`. -/
def yesOrNo (flag : Option Bool) : Char :=
  if flag = some true then yes else no

/-- The trimmed instance id; empty when there is none. -/
def trimmedInstance (instanceId : Option String) : String :=
  match instanceId with
  | some instanceId => JavaText.trim instanceId
  | none => ""

def textOrNull (text : Option String) : Parameter Value :=
  .single (text.map .text)

namespace JobServiceImpl

/-- The query of `getGroups`. -/
def groupStatement (instanceId : Option String) (isActive : Option Bool) :
    Statement Value := Id.run do
  let mut parameters : List (Parameter Value) := []
  let mut hql :=
    "select b " ++
    "from JobTrigger a " ++
    "join a.group b " ++
    "where 1=1 "
  if isActive.isSome then
    let active := yesOrNo isActive
    parameters := parameters ++ [.single (some (.flag active))]
    hql := hql ++ "and a.isActive=?" ++ toString parameters.length ++
      " and b.isActive=?" ++ toString parameters.length ++ " "
  hql := hql ++ "and (a.instance.instanceId is null "
  let iid := trimmedInstance instanceId
  if iid ≠ "" then
    parameters := parameters ++ [.single (some (.text iid))]
    hql := hql ++ "or a.instance.instanceId=?" ++ toString parameters.length
  hql := hql ++ ") "
  return { text := hql, bindings := positioned parameters }

/-- The trigger query of `getGroupsAndTriggers`. -/
def triggerStatement (instanceId : Option String) (isActive : Option Bool)
    (groupIds : Option (List (Option String))) : Statement Value := Id.run do
  let mut parameters : List (Parameter Value) := []
  let mut hql :=
    "select a, b, c " ++
    "from JobTrigger a " ++
    "join a.type b " ++
    "join a.group c " ++
    "where 1=1 "
  if isActive.isSome then
    let active := yesOrNo isActive
    parameters := parameters ++ [.single (some (.flag active))]
    hql := hql ++ "and a.isActive=?" ++ toString parameters.length ++
      " and c.isActive=?" ++ toString parameters.length ++ " "
  hql := hql ++ "and (a.instance.instanceId is null "
  let iid := trimmedInstance instanceId
  if iid ≠ "" then
    parameters := parameters ++ [.single (some (.text iid))]
    hql := hql ++ "or a.instance.instanceId=?" ++ toString parameters.length
  hql := hql ++ ") "
  if let some (groupId :: rest) := groupIds then
    parameters := parameters ++
      [.collection ((groupId :: rest).map (Option.map .text))]
    hql := hql ++ "and c.groupId in (?" ++ toString parameters.length ++ ") "
  return { text := hql, bindings := positioned parameters }

/-- The configuration query of `getGroupsAndTriggers`. -/
def configurationStatement (instanceId : Option String)
    (isActive : Option Bool) (groupIds : Option (List (Option String))) :
    Statement Value := Id.run do
  let mut parameters : List (Parameter Value) := []
  let mut hql :=
    "from JobTriggerConfiguration " ++
    "where id.triggerId IN (" ++
      "select a.triggerId " ++
      "from JobTrigger a " ++
      "join a.type b " ++
      "join a.group c " ++
      "where 1=1 "
  if isActive.isSome then
    let active := yesOrNo isActive
    parameters := parameters ++ [.single (some (.flag active))]
    hql := hql ++ "and a.isActive=?" ++ toString parameters.length ++
      " and c.isActive=?" ++ toString parameters.length ++ " "
  hql := hql ++ "and (a.instance.instanceId is null "
  let iid := trimmedInstance instanceId
  if iid ≠ "" then
    parameters := parameters ++ [.single (some (.text iid))]
    hql := hql ++ "or a.instance.instanceId=?" ++ toString parameters.length
  hql := hql ++ ") "
  if let some (groupId :: rest) := groupIds then
    parameters := parameters ++
      [.collection ((groupId :: rest).map (Option.map .text))]
    hql := hql ++ "and c.groupId in (?" ++ toString parameters.length ++ ") "
  hql := hql ++ ")"
  return { text := hql, bindings := positioned parameters }

/-- The trigger query of `getTrigger`. -/
def triggerByIdStatement (triggerId : Option String) : Statement Value :=
  { text :=
      "select a, b, c " ++
      "from JobTrigger a " ++
      "join a.type b " ++
      "join a.group c " ++
      "where a.triggerId=?1 "
    bindings := [(1, textOrNull triggerId)] }

/-- The configuration query of `getTrigger`. -/
def configurationByIdStatement (triggerId : Option String) :
    Statement Value :=
  { text :=
      "from JobTriggerConfiguration " ++
      "where id.triggerId=?1 "
    bindings := [(1, textOrNull triggerId)] }

/-- The query of `getTriggerMap` for a collection of ids. -/
def triggerMapStatement (ids : List (Option String)) : Statement Value :=
  { text :=
      "select a, b " ++
      "from JobTrigger a " ++
      "join a.group b " ++
      "where a.triggerId in (?1)"
    bindings := [(1, .collection (ids.map (Option.map .text)))] }

def setTypeIsRunningStatement (typeId : Option String)
    (isRunning : Option Bool) : Statement Value :=
  { text := "update JobType set isRunning = ?1 WHERE typeId = ?2"
    bindings :=
      [(1, .single (some (.flag (yesOrNo isRunning)))),
        (2, textOrNull typeId)] }

def resetAllTypeRunningStatement : Statement Value :=
  { text := "update JobType set isRunning = ?1"
    bindings := [(1, .single (some (.flag no)))] }

def saveTypeResultStatement (typeId : Option String)
    (isRunning : Option Bool) (lastRunTime : Option Int)
    (lastRunTriggerId lastRunData : Option String) : Statement Value :=
  { text :=
      "update JobType set " ++
      "isRunning = ?1," ++
      "lastRunTime = ?2," ++
      "lastRunTriggerId = ?3 " ++
      (if lastRunData.isSome then ", lastRunData = ?4 " else "") ++
      "where typeId = " ++ (if lastRunData.isSome then "?5" else "?4")
    bindings :=
      [(1, .single (some (.flag (yesOrNo isRunning)))),
        (2, .single (lastRunTime.map .number)),
        (3, textOrNull lastRunTriggerId)] ++
      (if lastRunData.isSome then
        [(4, textOrNull lastRunData), (5, textOrNull typeId)]
      else [(4, textOrNull typeId)]) }

def saveTriggerResultStatement (triggerId : Option String)
    (lastRunTime : Option Int) (lastRunData : Option String) :
    Statement Value :=
  { text :=
      "update JobTrigger set " ++
      "lastRunTime = ?1 " ++
      (if lastRunData.isSome then ", lastRunData = ?2 " else "") ++
      "where triggerId = " ++ (if lastRunData.isSome then "?3" else "?2")
    bindings :=
      [(1, .single (lastRunTime.map .number))] ++
      (if lastRunData.isSome then
        [(2, textOrNull lastRunData), (3, textOrNull triggerId)]
      else [(2, textOrNull triggerId)]) }

end JobServiceImpl

end SpringTemplate.Job
