import SpringTemplate.Job.Reports

/-!
# Reports of several threads

Jobs run on threads of their own and report side by side.  As long as no two
threads report on one row, the order in which their statements reach the
database makes no difference.
-/

namespace SpringTemplate.Job

/-- A row that reports write to. -/
inductive ReportedRow where
  | type (typeId : String)
  | trigger (triggerId : String)
  deriving DecidableEq, Repr

/-- The call writes to the row, if there is such a row. -/
def ResultCall.concerns (row : ReportedRow) (call : ResultCall) : Bool :=
  match row, call with
  | .type id, .setTypeIsRunning typeId _ => typeId = some id
  | .type _, .resetAllTypeRunning => true
  | .type id, .saveTypeResult typeId _ _ _ _ => typeId = some id
  | .trigger id, .saveTriggerResult triggerId _ _ => triggerId = some id
  | _, _ => false

/-- No two threads report on one row. -/
def ReportApart {ι : Type} (threads : ι → List ResultCall) : Prop :=
  ∀ row i, ∀ call ∈ threads i, call.concerns row = true →
    ∀ j, ∀ other ∈ threads j, other.concerns row = true → j = i

/-! ## Calls that concern a row -/

theorem ResultCall.type_unwritten {id : String} {call : ResultCall}
    (other : call.concerns (.type id) = false) :
    call.isRunning id = none ∧ call.typeRunTime id = none ∧
      call.typeRunTriggerId id = none ∧ call.typeRunData id = none := by
  cases call with
  | resetAllTypeRunning => cases other
  | saveTriggerResult => exact ⟨rfl, rfl, rfl, rfl⟩
  | setTypeIsRunning typeId isRunning =>
      have different : typeId ≠ some id := of_decide_eq_false other
      exact ⟨if_neg different, rfl, rfl, rfl⟩
  | saveTypeResult typeId =>
      have different : typeId ≠ some id := of_decide_eq_false other
      exact ⟨if_neg different, if_neg different, if_neg different,
        if_neg different⟩

theorem ResultCall.trigger_unwritten {id : String} {call : ResultCall}
    (other : call.concerns (.trigger id) = false) :
    call.triggerRunTime id = none ∧ call.triggerRunData id = none := by
  cases call with
  | saveTriggerResult triggerId =>
      have different : triggerId ≠ some id := of_decide_eq_false other
      exact ⟨if_neg different, if_neg different⟩
  | _ => exact ⟨rfl, rfl⟩

section Rows

variable {calls others : List ResultCall}

/-- A row depends on the calls that concern it, in their order. -/
theorem JobType.afterCalls_congr {type : JobType}
    (same : calls.filter (ResultCall.concerns (.type type.typeId)) =
      others.filter (ResultCall.concerns (.type type.typeId))) :
    type.afterCalls calls = type.afterCalls others := by
  have unwritten := @ResultCall.type_unwritten type.typeId
  rw [JobType.afterCalls, JobType.afterCalls,
    lastOf_congr (fun _ other => (unwritten other).1) same,
    lastOf_congr (fun _ other => (unwritten other).2.1) same,
    lastOf_congr (fun _ other => (unwritten other).2.2.1) same,
    lastOf_congr (fun _ other => (unwritten other).2.2.2) same]

theorem JobTrigger.afterCalls_congr {trigger : JobTrigger}
    (same : calls.filter (ResultCall.concerns (.trigger trigger.triggerId)) =
      others.filter (ResultCall.concerns (.trigger trigger.triggerId))) :
    trigger.afterCalls calls = trigger.afterCalls others := by
  have unwritten := @ResultCall.trigger_unwritten trigger.triggerId
  rw [JobTrigger.afterCalls, JobTrigger.afterCalls,
    lastOf_congr (fun _ other => (unwritten other).1) same,
    lastOf_congr (fun _ other => (unwritten other).2) same]

theorem JobTables.afterCalls_congr (tables : JobTables)
    (same : ∀ row, calls.filter (ResultCall.concerns row) =
      others.filter (ResultCall.concerns row)) :
    tables.afterCalls calls = tables.afterCalls others := by
  have types : JobType.afterCalls calls = JobType.afterCalls others :=
    funext fun _ => JobType.afterCalls_congr (same _)
  have triggers : JobTrigger.afterCalls calls =
      JobTrigger.afterCalls others :=
    funext fun _ => JobTrigger.afterCalls_congr (same _)
  rw [JobTables.afterCalls, types, triggers, JobTables.afterCalls]

end Rows

/-- Threads that report on rows of their own may be interleaved in any way:
the tables are the same in the end. -/
theorem runCalls_interleaved {ι : Type} [DecidableEq ι]
    {threads : ι → List ResultCall} (apart : ReportApart threads)
    {run other : List (ι × ResultCall)} (interleaves : Interleaves threads run)
    (otherInterleaves : Interleaves threads other) (db : JobDatabase) :
    runCalls (run.map Prod.snd) db.toJobTables =
      runCalls (other.map Prod.snd) db.toJobTables := by
  have same : ∀ row,
      (run.map Prod.snd).filter (ResultCall.concerns row) =
        (other.map Prod.snd).filter (ResultCall.concerns row) :=
    fun row => interleaves.filter_eq otherInterleaves (apart row)
  rw [runCalls_database, runCalls_database, JobDatabase.afterCalls_tables,
    JobDatabase.afterCalls_tables, db.toJobTables.afterCalls_congr same]

/-- One thread saves a result of a type, the other one of a trigger. -/
def twoThreads : Bool → List ResultCall
  | false => [.setTypeIsRunning (some "type") (some true),
      .saveTypeResult (some "type") (some false) (some 1) (some "t") none]
  | true => [.saveTriggerResult (some "t") (some 2) (some "data")]

theorem twoThreads_apart : ReportApart twoThreads := by
  intro row i call member concerns j other otherMember otherConcerns
  cases i <;> cases j <;> simp [twoThreads] at member otherMember
  · rfl
  · subst otherMember
    rcases member with rfl | rfl <;> cases row <;>
      simp [ResultCall.concerns] at concerns otherConcerns
  · subst member
    rcases otherMember with rfl | rfl <;> cases row <;>
      simp [ResultCall.concerns] at concerns otherConcerns
  · rfl

theorem twoThreads_interleaved :
    runCalls ((twoThreads false).take 1 ++ twoThreads true ++
        (twoThreads false).drop 1)
        (JobDatabase.sample "a" "b" none).toJobTables =
      runCalls (twoThreads false ++ twoThreads true)
        (JobDatabase.sample "a" "b" none).toJobTables := by
  have between : Interleaves twoThreads
      [(false, .setTypeIsRunning (some "type") (some true)),
        (true, .saveTriggerResult (some "t") (some 2) (some "data")),
        (false, .saveTypeResult (some "type") (some false) (some 1)
          (some "t") none)] := by
    rintro (_ | _) <;> rfl
  have after : Interleaves twoThreads
      [(false, .setTypeIsRunning (some "type") (some true)),
        (false, .saveTypeResult (some "type") (some false) (some 1)
          (some "t") none),
        (true, .saveTriggerResult (some "t") (some 2) (some "data"))] := by
    rintro (_ | _) <;> rfl
  exact runCalls_interleaved twoThreads_apart between after _

end SpringTemplate.Job
