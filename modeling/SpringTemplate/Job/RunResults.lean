import SpringTemplate.Library.LastWins
import SpringTemplate.Job.Calls

/-!
# Run results

The scheduler reports what its jobs do through four update statements.  Each
statement is parsed and executed on the tables.  After any sequence of calls,
every column a statement writes holds what the last call that writes it for
the row has written, and everything else is as it was.
-/

namespace SpringTemplate.Job

open Hql JobServiceImpl

/-! ## Executing an update -/

/-- Assign a column of a type; the columns that can be null. -/
def JobType.assign (type : JobType) (path : Path) (value : Option Value) :
    JobType :=
  match path with
  | ["description"] => { type with description := value.bind Value.toText }
  | ["isSingleRun"] => { type with isSingleRun := value.bind Value.toFlag }
  | ["isRunning"] => { type with isRunning := value.bind Value.toFlag }
  | ["lastRunTime"] => { type with lastRunTime := value.bind Value.toNumber }
  | ["lastRunData"] => { type with lastRunData := value.bind Value.toText }
  | ["lastRunTriggerId"] =>
      { type with lastRunTriggerId := value.bind Value.toText }
  | _ => type

def JobTrigger.assign (trigger : JobTrigger) (path : Path)
    (value : Option Value) : JobTrigger :=
  match path with
  | ["description"] =>
      { trigger with description := value.bind Value.toText }
  | ["zoneOffsetSeconds"] =>
      { trigger with zoneOffsetSeconds := value.bind Value.toNumber }
  | ["lastRunTime"] =>
      { trigger with lastRunTime := value.bind Value.toNumber }
  | ["lastRunData"] =>
      { trigger with lastRunData := value.bind Value.toText }
  | _ => trigger

/-- The tables after an update statement, unless it cannot run. -/
def JobTables.execute (tables : JobTables) (statement : Statement Value) :
    Option JobTables := do
  let update ← parseUpdate statement.text
  if Bound update.placeholders statement.bindings then
    match update.entity with
    | "JobType" =>
        some { tables with
          types := tables.types.map (jobSchema.updated .type JobType.assign
            tables statement.bindings update) }
    | "JobTrigger" =>
        some { tables with
          triggers := tables.triggers.map (jobSchema.updated .trigger
            JobTrigger.assign tables statement.bindings update) }
    | _ => none
  else none

/-- A call of the scheduler. -/
inductive ResultCall where
  | setTypeIsRunning (typeId : Option String) (isRunning : Option Bool)
  | resetAllTypeRunning
  | saveTypeResult (typeId : Option String) (isRunning : Option Bool)
      (lastRunTime : Option Int) (lastRunTriggerId lastRunData : Option String)
  | saveTriggerResult (triggerId : Option String) (lastRunTime : Option Int)
      (lastRunData : Option String)
  deriving DecidableEq, Repr

namespace ResultCall

def statement : ResultCall → Statement Value
  | .setTypeIsRunning typeId isRunning =>
      setTypeIsRunningStatement typeId isRunning
  | .resetAllTypeRunning => resetAllTypeRunningStatement
  | .saveTypeResult typeId isRunning lastRunTime lastRunTriggerId
      lastRunData =>
      saveTypeResultStatement typeId isRunning lastRunTime lastRunTriggerId
        lastRunData
  | .saveTriggerResult triggerId lastRunTime lastRunData =>
      saveTriggerResultStatement triggerId lastRunTime lastRunData

def run (tables : JobTables) (call : ResultCall) : Option JobTables :=
  tables.execute call.statement

end ResultCall

/-- The tables after calls one after another. -/
def runCalls (calls : List ResultCall) (tables : JobTables) :
    Option JobTables :=
  calls.foldlM ResultCall.run tables

/-! ## What a call writes -/

namespace ResultCall

/-- The running flag a call gives a type. -/
def isRunning (id : String) : ResultCall → Option Char
  | .setTypeIsRunning typeId isRunning =>
      if typeId = some id then
        some (if isRunning = some true then 'Y' else 'N')
      else none
  | .resetAllTypeRunning => some 'N'
  | .saveTypeResult typeId isRunning _ _ _ =>
      if typeId = some id then
        some (if isRunning = some true then 'Y' else 'N')
      else none
  | .saveTriggerResult _ _ _ => none

def typeRunTime (id : String) : ResultCall → Option (Option Int)
  | .saveTypeResult typeId _ lastRunTime _ _ =>
      if typeId = some id then some lastRunTime else none
  | _ => none

def typeRunTriggerId (id : String) : ResultCall → Option (Option String)
  | .saveTypeResult typeId _ _ lastRunTriggerId _ =>
      if typeId = some id then some lastRunTriggerId else none
  | _ => none

def typeRunData (id : String) : ResultCall → Option String
  | .saveTypeResult typeId _ _ _ lastRunData =>
      if typeId = some id then lastRunData else none
  | _ => none

def triggerRunTime (id : String) : ResultCall → Option (Option Int)
  | .saveTriggerResult triggerId lastRunTime _ =>
      if triggerId = some id then some lastRunTime else none
  | _ => none

def triggerRunData (id : String) : ResultCall → Option String
  | .saveTriggerResult triggerId _ lastRunData =>
      if triggerId = some id then lastRunData else none
  | _ => none

end ResultCall

/-- A type after calls: the last writer of each column. -/
def JobType.afterCalls (calls : List ResultCall) (type : JobType) : JobType :=
  { type with
    isRunning :=
      (lastOf (ResultCall.isRunning type.typeId) calls).or type.isRunning
    lastRunTime :=
      (lastOf (ResultCall.typeRunTime type.typeId) calls).getD
        type.lastRunTime
    lastRunTriggerId :=
      (lastOf (ResultCall.typeRunTriggerId type.typeId) calls).getD
        type.lastRunTriggerId
    lastRunData :=
      (lastOf (ResultCall.typeRunData type.typeId) calls).or
        type.lastRunData }

def JobTrigger.afterCalls (calls : List ResultCall) (trigger : JobTrigger) :
    JobTrigger :=
  { trigger with
    lastRunTime :=
      (lastOf (ResultCall.triggerRunTime trigger.triggerId) calls).getD
        trigger.lastRunTime
    lastRunData :=
      (lastOf (ResultCall.triggerRunData trigger.triggerId) calls).or
        trigger.lastRunData }

def JobTables.afterCalls (calls : List ResultCall) (tables : JobTables) :
    JobTables :=
  { tables with
    types := tables.types.map (JobType.afterCalls calls)
    triggers := tables.triggers.map (JobTrigger.afterCalls calls) }

/-! ## The texts -/

section Texts

variable (typeId triggerId : Option String) (isRunning : Option Bool)
  (lastRunTime : Option Int) (lastRunTriggerId lastRunData : Option String)

def typeCondition (position : Nat) : Condition :=
  .equal (.path ["typeId"]) (.parameter position)

theorem parse_setTypeIsRunning :
    parseUpdate (setTypeIsRunningStatement typeId isRunning).text =
      some ⟨"JobType", [(["isRunning"], .parameter 1)],
        some (typeCondition 2)⟩ := by
  have tokens : Hql.tokens
      "update JobType set isRunning = ?1 WHERE typeId = ?2" =
      [.keyword .update, .name ["JobType"], .keyword .set,
        .name ["isRunning"], .symbol '=', .symbol '?', .number 1,
        .keyword .where, .name ["typeId"], .symbol '=', .symbol '?',
        .number 2] := by
    rw [Hql.tokens, (String.toList_ofList :
      "update JobType set isRunning = ?1 WHERE typeId = ?2".toList = _)]
    rfl
  have text : (setTypeIsRunningStatement typeId isRunning).text =
      "update JobType set isRunning = ?1 WHERE typeId = ?2" := rfl
  rw [text, parseUpdate, tokens]
  rfl

theorem parse_resetAllTypeRunning :
    parseUpdate resetAllTypeRunningStatement.text =
      some ⟨"JobType", [(["isRunning"], .parameter 1)], none⟩ := by
  have tokens : Hql.tokens "update JobType set isRunning = ?1" =
      [.keyword .update, .name ["JobType"], .keyword .set,
        .name ["isRunning"], .symbol '=', .symbol '?', .number 1] := by
    rw [Hql.tokens, (String.toList_ofList :
      "update JobType set isRunning = ?1".toList = _)]
    rfl
  have text : resetAllTypeRunningStatement.text =
      "update JobType set isRunning = ?1" := rfl
  rw [text, parseUpdate, tokens]
  rfl

def typeAssignments : List (Path × Operand) :=
  [(["isRunning"], .parameter 1), (["lastRunTime"], .parameter 2),
    (["lastRunTriggerId"], .parameter 3)]

def typeTokens : List Token :=
  [.keyword .update, .name ["JobType"], .keyword .set,
    .name ["isRunning"], .symbol '=', .symbol '?', .number 1, .symbol ',',
    .name ["lastRunTime"], .symbol '=', .symbol '?', .number 2, .symbol ',',
    .name ["lastRunTriggerId"], .symbol '=', .symbol '?', .number 3]

set_option maxRecDepth 1000 in
theorem parse_saveTypeResult_none :
    parseUpdate (saveTypeResultStatement typeId isRunning lastRunTime
        lastRunTriggerId none).text =
      some ⟨"JobType", typeAssignments, some (typeCondition 4)⟩ := by
  have text : (saveTypeResultStatement typeId isRunning lastRunTime
      lastRunTriggerId none).text =
      "update JobType set " ++ "isRunning = ?1," ++ "lastRunTime = ?2," ++
        "lastRunTriggerId = ?3 " ++ "" ++ "where typeId = " ++ "?4" := rfl
  have tokens : Hql.tokens ("update JobType set " ++ "isRunning = ?1," ++
      "lastRunTime = ?2," ++ "lastRunTriggerId = ?3 " ++ "" ++
      "where typeId = " ++ "?4") =
      typeTokens ++ [.keyword .where, .name ["typeId"], .symbol '=',
        .symbol '?', .number 4] := by
    rw [Hql.tokens]
    simp only [String.toList_append,
      (String.toList_ofList : "update JobType set ".toList = _),
      (String.toList_ofList : "isRunning = ?1,".toList = _),
      (String.toList_ofList : "lastRunTime = ?2,".toList = _),
      (String.toList_ofList : "lastRunTriggerId = ?3 ".toList = _),
      (String.toList_ofList : "".toList = _),
      (String.toList_ofList : "where typeId = ".toList = _),
      (String.toList_ofList : "?4".toList = _)]
    rfl
  rw [text, parseUpdate, tokens]
  rfl

set_option maxRecDepth 1000 in
theorem parse_saveTypeResult_some (data : String) :
    parseUpdate (saveTypeResultStatement typeId isRunning lastRunTime
        lastRunTriggerId (some data)).text =
      some ⟨"JobType", typeAssignments ++ [(["lastRunData"], .parameter 4)],
        some (typeCondition 5)⟩ := by
  have text : (saveTypeResultStatement typeId isRunning lastRunTime
      lastRunTriggerId (some data)).text =
      "update JobType set " ++ "isRunning = ?1," ++ "lastRunTime = ?2," ++
        "lastRunTriggerId = ?3 " ++ ", lastRunData = ?4 " ++
        "where typeId = " ++ "?5" := rfl
  have tokens : Hql.tokens ("update JobType set " ++ "isRunning = ?1," ++
      "lastRunTime = ?2," ++ "lastRunTriggerId = ?3 " ++
      ", lastRunData = ?4 " ++ "where typeId = " ++ "?5") =
      typeTokens ++ [.symbol ',', .name ["lastRunData"], .symbol '=',
        .symbol '?', .number 4, .keyword .where, .name ["typeId"],
        .symbol '=', .symbol '?', .number 5] := by
    rw [Hql.tokens]
    simp only [String.toList_append,
      (String.toList_ofList : "update JobType set ".toList = _),
      (String.toList_ofList : "isRunning = ?1,".toList = _),
      (String.toList_ofList : "lastRunTime = ?2,".toList = _),
      (String.toList_ofList : "lastRunTriggerId = ?3 ".toList = _),
      (String.toList_ofList : ", lastRunData = ?4 ".toList = _),
      (String.toList_ofList : "where typeId = ".toList = _),
      (String.toList_ofList : "?5".toList = _)]
    rfl
  rw [text, parseUpdate, tokens]
  rfl

def triggerCondition (position : Nat) : Condition :=
  .equal (.path ["triggerId"]) (.parameter position)

theorem parse_saveTriggerResult_none :
    parseUpdate (saveTriggerResultStatement triggerId lastRunTime none).text =
      some ⟨"JobTrigger", [(["lastRunTime"], .parameter 1)],
        some (triggerCondition 2)⟩ := by
  have text : (saveTriggerResultStatement triggerId lastRunTime none).text =
      "update JobTrigger set " ++ "lastRunTime = ?1 " ++ "" ++
        "where triggerId = " ++ "?2" := rfl
  have tokens : Hql.tokens ("update JobTrigger set " ++
      "lastRunTime = ?1 " ++ "" ++ "where triggerId = " ++ "?2") =
      [.keyword .update, .name ["JobTrigger"], .keyword .set,
        .name ["lastRunTime"], .symbol '=', .symbol '?', .number 1,
        .keyword .where, .name ["triggerId"], .symbol '=', .symbol '?',
        .number 2] := by
    rw [Hql.tokens]
    simp only [String.toList_append,
      (String.toList_ofList : "update JobTrigger set ".toList = _),
      (String.toList_ofList : "lastRunTime = ?1 ".toList = _),
      (String.toList_ofList : "".toList = _),
      (String.toList_ofList : "where triggerId = ".toList = _),
      (String.toList_ofList : "?2".toList = _)]
    rfl
  rw [text, parseUpdate, tokens]
  rfl

set_option maxRecDepth 1000 in
theorem parse_saveTriggerResult_some (data : String) :
    parseUpdate (saveTriggerResultStatement triggerId lastRunTime
        (some data)).text =
      some ⟨"JobTrigger", [(["lastRunTime"], .parameter 1),
        (["lastRunData"], .parameter 2)], some (triggerCondition 3)⟩ := by
  have text : (saveTriggerResultStatement triggerId lastRunTime
      (some data)).text =
      "update JobTrigger set " ++ "lastRunTime = ?1 " ++
        ", lastRunData = ?2 " ++ "where triggerId = " ++ "?3" := rfl
  have tokens : Hql.tokens ("update JobTrigger set " ++
      "lastRunTime = ?1 " ++ ", lastRunData = ?2 " ++
      "where triggerId = " ++ "?3") =
      [.keyword .update, .name ["JobTrigger"], .keyword .set,
        .name ["lastRunTime"], .symbol '=', .symbol '?', .number 1,
        .symbol ',', .name ["lastRunData"], .symbol '=', .symbol '?',
        .number 2, .keyword .where, .name ["triggerId"], .symbol '=',
        .symbol '?', .number 3] := by
    rw [Hql.tokens]
    simp only [String.toList_append,
      (String.toList_ofList : "update JobTrigger set ".toList = _),
      (String.toList_ofList : "lastRunTime = ?1 ".toList = _),
      (String.toList_ofList : ", lastRunData = ?2 ".toList = _),
      (String.toList_ofList : "where triggerId = ".toList = _),
      (String.toList_ofList : "?3".toList = _)]
    rfl
  rw [text, parseUpdate, tokens]
  rfl

end Texts

/-! ## One call -/

section Execute

variable (tables : JobTables) {statement : Statement Value}
  {assignments : List (Path × Operand)} {position : Nat} {id : Option String}

theorem holds_equal (object : JobObject) {bindings : Bindings Value}
    {path : Path} {key : String}
    (read : jobSchema.read [("", object)] path = some (.text key))
    (lookup : bindings.lookup position = some (textOrNull id)) :
    jobSchema.Holds tables bindings
        (some (.equal (.path path) (.parameter position)))
        [("", object)] ↔
      id = some key := by
  have operand : jobSchema.operand bindings [("", object)]
      (.parameter position) = id.map .text := by
    rw [Schema.operand, lookup]
    rfl
  simp only [Schema.Holds, Option.mem_some_iff, forall_eq', Schema.truth,
    operand]
  rw [Schema.operand, read]
  exact (equal_textOrNull key id).trans eq_comm

/-- An update of the type with an id. -/
theorem execute_typeById {changed : JobType → JobType}
    (parsed : parseUpdate statement.text =
      some ⟨"JobType", assignments, some (typeCondition position)⟩)
    (bound : Bound (Update.mk "JobType" assignments
      (some (typeCondition position))).placeholders statement.bindings)
    (lookup : statement.bindings.lookup position = some (textOrNull id))
    (assigned : ∀ type : JobType, assignments.foldl
      (fun changed assignment => JobType.assign changed assignment.1
        (jobSchema.operand statement.bindings [("", .type type)]
          assignment.2)) type = changed type) :
    tables.execute statement = some { tables with
      types := tables.types.map (fun type =>
        if id = some type.typeId then changed type else type) } := by
  have updated := jobSchema.updated_eq JobType.assign
    ⟨"JobType", assignments, some (typeCondition position)⟩
    (fun type : JobType => holds_equal tables (.type type) rfl lookup)
    assigned
  rw [JobTables.execute, parsed]
  simp only [Option.bind_eq_bind, Option.bind_some, bound, if_true]
  rw [updated]

/-- An update of the trigger with an id. -/
theorem execute_triggerById {changed : JobTrigger → JobTrigger}
    (parsed : parseUpdate statement.text =
      some ⟨"JobTrigger", assignments, some (triggerCondition position)⟩)
    (bound : Bound (Update.mk "JobTrigger" assignments
      (some (triggerCondition position))).placeholders statement.bindings)
    (lookup : statement.bindings.lookup position = some (textOrNull id))
    (assigned : ∀ trigger : JobTrigger, assignments.foldl
      (fun changed assignment => JobTrigger.assign changed assignment.1
        (jobSchema.operand statement.bindings [("", .trigger trigger)]
          assignment.2)) trigger = changed trigger) :
    tables.execute statement = some { tables with
      triggers := tables.triggers.map (fun trigger =>
        if id = some trigger.triggerId then changed trigger
        else trigger) } := by
  have updated := jobSchema.updated_eq JobTrigger.assign
    ⟨"JobTrigger", assignments, some (triggerCondition position)⟩
    (fun trigger : JobTrigger => holds_equal tables (.trigger trigger) rfl
      lookup) assigned
  rw [JobTables.execute, parsed]
  simp only [Option.bind_eq_bind, Option.bind_some, bound, if_true]
  rw [updated]

end Execute

/-- A call that changes types only. -/
theorem afterCalls_types (tables : JobTables) {call : ResultCall}
    {changed : JobType → JobType}
    (triggers : ∀ trigger, JobTrigger.afterCalls [call] trigger = trigger)
    (types : ∀ type, JobType.afterCalls [call] type = changed type) :
    tables.afterCalls [call] =
      { tables with types := tables.types.map changed } := by
  have unchanged : JobTrigger.afterCalls [call] = id := funext triggers
  have same : JobType.afterCalls [call] = changed := funext types
  rw [JobTables.afterCalls, unchanged, same, List.map_id]

/-- A call that changes triggers only. -/
theorem afterCalls_triggers (tables : JobTables) {call : ResultCall}
    {changed : JobTrigger → JobTrigger}
    (types : ∀ type, JobType.afterCalls [call] type = type)
    (triggers : ∀ trigger, JobTrigger.afterCalls [call] trigger =
      changed trigger) :
    tables.afterCalls [call] =
      { tables with triggers := tables.triggers.map changed } := by
  have unchanged : JobType.afterCalls [call] = id := funext types
  have same : JobTrigger.afterCalls [call] = changed := funext triggers
  rw [JobTables.afterCalls, unchanged, same, List.map_id]

section Run

variable (tables : JobTables) (typeId triggerId : Option String)
  (isRunning : Option Bool) (lastRunTime : Option Int)
  (lastRunTriggerId lastRunData : Option String)

theorem run_setTypeIsRunning :
    ResultCall.run tables (.setTypeIsRunning typeId isRunning) =
      some (tables.afterCalls [.setTypeIsRunning typeId isRunning]) := by
  refine (execute_typeById tables (parse_setTypeIsRunning typeId isRunning)
    (.of_positions rfl (by decide)) rfl (fun type => rfl)).trans ?_
  rw [afterCalls_types tables (fun trigger => rfl)]
  intro type
  simp only [JobType.afterCalls, lastOf_singleton, ResultCall.isRunning,
    ResultCall.typeRunTime, ResultCall.typeRunTriggerId,
    ResultCall.typeRunData]
  by_cases same : typeId = some type.typeId
  · rw [if_pos same, if_pos same]
    rfl
  · rw [if_neg same, if_neg same]
    rfl

theorem run_resetAllTypeRunning :
    ResultCall.run tables .resetAllTypeRunning =
      some (tables.afterCalls [.resetAllTypeRunning]) := by
  have every : ∀ type : JobType, jobSchema.Holds tables
      resetAllTypeRunningStatement.bindings none [("", .type type)] ↔
        True := by
    intro type
    simp [Schema.Holds]
  have updated := jobSchema.updated_eq JobType.assign
    ⟨"JobType", [(["isRunning"], .parameter 1)], none⟩ every
    (fun type => rfl)
  have bound : Bound (Update.mk "JobType" [(["isRunning"], .parameter 1)]
      none).placeholders resetAllTypeRunningStatement.bindings :=
    .of_positions rfl (by decide)
  rw [ResultCall.run, ResultCall.statement, JobTables.execute,
    parse_resetAllTypeRunning]
  simp only [Option.bind_eq_bind, Option.bind_some, bound, if_true]
  rw [updated, afterCalls_types tables (fun trigger => rfl)]
  intro type
  rfl

/-- The three columns every save writes. -/
def JobType.saved (type : JobType) : JobType :=
  { type with
    isRunning := some (yesOrNo isRunning)
    lastRunTime := lastRunTime
    lastRunTriggerId := lastRunTriggerId }

theorem afterCalls_saveTypeResult (type : JobType) :
    JobType.afterCalls [.saveTypeResult typeId isRunning lastRunTime
        lastRunTriggerId lastRunData] type =
      if typeId = some type.typeId then
        { type.saved isRunning lastRunTime lastRunTriggerId with
          lastRunData := lastRunData.or type.lastRunData }
      else type := by
  simp only [JobType.afterCalls, lastOf_singleton, ResultCall.isRunning,
    ResultCall.typeRunTime, ResultCall.typeRunTriggerId,
    ResultCall.typeRunData]
  by_cases same : typeId = some type.typeId
  · simp only [if_pos same]
    rfl
  · simp only [if_neg same]
    rfl

theorem run_saveTypeResult :
    ResultCall.run tables (.saveTypeResult typeId isRunning lastRunTime
        lastRunTriggerId lastRunData) =
      some (tables.afterCalls [.saveTypeResult typeId isRunning lastRunTime
        lastRunTriggerId lastRunData]) := by
  rw [afterCalls_types tables (fun trigger => rfl)
    (afterCalls_saveTypeResult typeId isRunning lastRunTime lastRunTriggerId
      lastRunData)]
  cases lastRunData with
  | none =>
      apply execute_typeById tables
        (parse_saveTypeResult_none typeId isRunning lastRunTime
          lastRunTriggerId)
        (.of_positions rfl (by decide)) rfl
      intro type
      cases lastRunTime <;> cases lastRunTriggerId <;> rfl
  | some data =>
      apply execute_typeById tables
        (parse_saveTypeResult_some typeId isRunning lastRunTime
          lastRunTriggerId data)
        (.of_positions rfl (by decide)) rfl
      intro type
      cases lastRunTime <;> cases lastRunTriggerId <;> rfl

theorem afterCalls_saveTriggerResult (trigger : JobTrigger) :
    JobTrigger.afterCalls [.saveTriggerResult triggerId lastRunTime
        lastRunData] trigger =
      if triggerId = some trigger.triggerId then
        { trigger with
          lastRunTime := lastRunTime
          lastRunData := lastRunData.or trigger.lastRunData }
      else trigger := by
  simp only [JobTrigger.afterCalls, lastOf_singleton,
    ResultCall.triggerRunTime, ResultCall.triggerRunData]
  by_cases same : triggerId = some trigger.triggerId
  · simp only [if_pos same]
    rfl
  · simp only [if_neg same]
    rfl

theorem run_saveTriggerResult :
    ResultCall.run tables
        (.saveTriggerResult triggerId lastRunTime lastRunData) =
      some (tables.afterCalls
        [.saveTriggerResult triggerId lastRunTime lastRunData]) := by
  rw [afterCalls_triggers tables (fun type => rfl)
    (afterCalls_saveTriggerResult triggerId lastRunTime lastRunData)]
  cases lastRunData with
  | none =>
      apply execute_triggerById tables
        (parse_saveTriggerResult_none triggerId lastRunTime)
        (.of_positions rfl (by decide)) rfl
      intro trigger
      cases lastRunTime <;> rfl
  | some data =>
      apply execute_triggerById tables
        (parse_saveTriggerResult_some triggerId lastRunTime data)
        (.of_positions rfl (by decide)) rfl
      intro trigger
      cases lastRunTime <;> rfl

/-- What one call does. -/
theorem run_eq (call : ResultCall) :
    ResultCall.run tables call = some (tables.afterCalls [call]) := by
  cases call with
  | setTypeIsRunning typeId isRunning =>
      exact run_setTypeIsRunning tables typeId isRunning
  | resetAllTypeRunning => exact run_resetAllTypeRunning tables
  | saveTypeResult typeId isRunning lastRunTime lastRunTriggerId
      lastRunData =>
      exact run_saveTypeResult tables typeId isRunning lastRunTime
        lastRunTriggerId lastRunData
  | saveTriggerResult triggerId lastRunTime lastRunData =>
      exact run_saveTriggerResult tables triggerId lastRunTime lastRunData

end Run

/-! ## All calls -/

theorem JobType.afterCalls_concat (calls : List ResultCall)
    (call : ResultCall) (type : JobType) :
    (type.afterCalls calls).afterCalls [call] =
      type.afterCalls (calls ++ [call]) := by
  simp only [JobType.afterCalls, lastOf_singleton, lastOf_concat,
    Option.or_assoc]
  congr 1
  · cases ResultCall.typeRunTime type.typeId call <;> rfl
  · cases ResultCall.typeRunTriggerId type.typeId call <;> rfl

theorem JobTrigger.afterCalls_concat (calls : List ResultCall)
    (call : ResultCall) (trigger : JobTrigger) :
    (trigger.afterCalls calls).afterCalls [call] =
      trigger.afterCalls (calls ++ [call]) := by
  simp only [JobTrigger.afterCalls, lastOf_singleton, lastOf_concat,
    Option.or_assoc]
  congr 1
  cases ResultCall.triggerRunTime trigger.triggerId call <;> rfl

theorem JobTables.afterCalls_nil (tables : JobTables) :
    tables.afterCalls [] = tables := by
  have types : JobType.afterCalls [] = id := rfl
  have triggers : JobTrigger.afterCalls [] = id := rfl
  rw [JobTables.afterCalls, types, triggers, List.map_id, List.map_id]

theorem JobTables.afterCalls_concat (tables : JobTables)
    (calls : List ResultCall) (call : ResultCall) :
    (tables.afterCalls calls).afterCalls [call] =
      tables.afterCalls (calls ++ [call]) := by
  simp only [JobTables.afterCalls, List.map_map, Function.comp_def,
    JobType.afterCalls_concat, JobTrigger.afterCalls_concat]

/-- Any sequence of calls leaves the tables of the last writers. -/
theorem runCalls_afterCalls (calls : List ResultCall) (tables : JobTables) :
    runCalls calls tables = some (tables.afterCalls calls) := by
  induction calls using List.reverseRecOn with
  | nil =>
      rw [tables.afterCalls_nil]
      rfl
  | append_singleton calls call induction =>
      rw [runCalls, List.foldlM_append, ← runCalls, induction,
        ← tables.afterCalls_concat, ← run_eq]
      simp

/-- All types are reset, one of two is set to running, and it reports the end
of its run, but another trigger of it has started. -/
theorem runCalls_running :
    ∃ tables,
      runCalls
          [.resetAllTypeRunning, .setTypeIsRunning (some "type") (some true),
            .saveTypeResult (some "type") (some false) (some 5) (some "t")
              none,
            .setTypeIsRunning (some "type") (some true)]
          (JobDatabase.sample "trigger" "1" none).toJobTables =
        some tables ∧
      tables.types.map (fun type =>
          (type.typeId, type.isRunning, type.lastRunTime)) =
        [("type", some 'Y', some 5), ("other", some 'N', none)] :=
  ⟨_, runCalls_afterCalls _ _, by decide⟩

end SpringTemplate.Job
