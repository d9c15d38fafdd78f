import SpringTemplate.Library.LastWins
import SpringTemplate.Repo.EntityMap

/-!
# What the controllers with hard deletion keep

The requests of a run are handled one after another, and any of their calls
may fail.  What is stored under an id is then what the last request has saved
or deleted there, and a handler that reads the id answers it.
-/

namespace SpringTemplate.Repo

open Program

variable {Entity Id : Type} {idOf : Entity → Option Id}
  {repo : CrudRepository Entity Id}

/-- A request that has been answered, with the id that the generator offered
to it and the calls that it has made. -/
structure HardDelStep (repo : CrudRepository Entity Id) where
  offered : Id
  request : HardDelRequest Entity Id
  calls : List (Event (fun _ : RepoCall Entity Id => repo.Outcome))
  answer : Except RepoException (HardDelAnswer Entity Id)

abbrev RepoTrace (repo : CrudRepository Entity Id) :=
  Trace repo.Table (fun _ : RepoCall Entity Id => repo.Outcome)

/-- Requests lead from one table to another, one after another. -/
inductive HardDelRun (repo : CrudRepository Entity Id)
    (handler : HardDelHandler Entity Id) :
    repo.Table → List (HardDelStep repo) → repo.Table → Prop where
  | nil (table : repo.Table) : HardDelRun repo handler table [] table
  | cons {table last : repo.Table} {trace : RepoTrace repo} {offered : Id}
      {request : HardDelRequest Entity Id}
      {answer : Except RepoException (HardDelAnswer Entity Id)}
      {rest : List (HardDelStep repo)} :
      (repo.answers offered).Ends (fun _ _ => True) (Environment.start table)
        (handler request) answer trace →
      HardDelRun repo handler trace.state rest last →
      HardDelRun repo handler table
        (⟨offered, request, trace.events, answer⟩ :: rest) last

theorem HardDelRun.split {handler : HardDelHandler Entity Id}
    {table last : repo.Table} {earlier later : List (HardDelStep repo)}
    (run : HardDelRun repo handler table (earlier ++ later) last) :
    ∃ middle, HardDelRun repo handler table earlier middle ∧
      HardDelRun repo handler middle later last := by
  induction earlier generalizing table with
  | nil => exact ⟨table, .nil table, run⟩
  | cons step earlier induction =>
      cases run with
      | cons ends follows =>
          obtain ⟨middle, before, after⟩ := induction follows
          exact ⟨middle, .cons ends before, after⟩

/-! ## One request -/

def RepoCall.isSave : RepoCall Entity Id → Bool
  | .save _ => true
  | _ => false

/-- The request has called `save`. -/
def HardDelStep.saves (step : HardDelStep repo) : Bool :=
  step.calls.any (fun event => event.op.isSave)

variable [DecidableEq Id]

/-- What an answered request does to the entities that are stored. -/
def HardDelStep.Leaves (idOf : Entity → Option Id) (step : HardDelStep repo)
    (before after : Id → Option Entity) : Prop :=
  match step.request, step.answer with
  | .byId id, .ok (.entity found) => after = before ∧ found = before id
  | .create _, .ok (.entity (some saved)) =>
      ∃ id, idOf saved = some id ∧
        after = Function.update before id (some saved)
  | .update id _, .ok (.entity (some entity)) =>
      (before id).isSome = true ∧
        after = if step.saves then Function.update before id (some entity)
          else before
  | .delete id, .ok _ => after = Function.update before id none
  | _, _ => after = before

section Request

variable (offered : Id) (table : repo.Table)

/-- The outcome of a request, as a condition on how its program ends. -/
abbrev Leaving (idOf : Entity → Option Id) (offered : Id)
    (request : HardDelRequest Entity Id) (table : repo.Table)
    (answer : Except RepoException (HardDelAnswer Entity Id))
    (trace : RepoTrace repo) : Prop :=
  HardDelStep.Leaves idOf ⟨offered, request, trace.events, answer⟩
    (repo.stored table) (repo.stored trace.state)

theorem byId_leaves (documented : repo.Documented idOf) (id : Id) :
    (HardDelController.byId id : RepoProgram Entity Id _).wp
      ((repo.answers offered).rules (fun _ _ => True))
      (Leaving idOf offered (.byId id) table) (Environment.start table) := by
  rw [HardDelController.byId, wp_bind, wp_perform]
  intro outcome _
  have kept := documented.findById_keeps offered table id outcome
  cases answered : (repo.answers offered table (.findById id) outcome).2 with
  | error exception =>
      rw [Environment.start_state, answered]
      exact kept
  | ok found =>
      rw [Environment.start_state, answered]
      exact ⟨kept, documented.findById answered⟩

theorem create_leaves (documented : repo.Documented idOf)
    (data : Entity) :
    (HardDelController.create data : RepoProgram Entity Id _).wp
      ((repo.answers offered).rules (fun _ _ => True))
      (Leaving idOf offered (.create data) table)
      (Environment.start table) := by
  rw [HardDelController.create, wp_bind, wp_perform]
  intro outcome _
  cases answered : (repo.answers offered table (.save data) outcome).2 with
  | error exception =>
      rw [Environment.start_state, answered]
      exact documented.error_keeps answered
  | ok saved =>
      rw [Environment.start_state, answered]
      exact documented.save answered

theorem delete_leaves (documented : repo.Documented idOf) (id : Id) :
    (HardDelController.delete id : RepoProgram Entity Id _).wp
      ((repo.answers offered).rules (fun _ _ => True))
      (Leaving idOf offered (.delete id) table)
      (Environment.start table) := by
  rw [HardDelController.delete, wp_bind, wp_perform]
  intro outcome _
  cases answered :
      (repo.answers offered table (.deleteById id) outcome).2 with
  | error exception =>
      rw [Environment.start_state, answered]
      exact documented.error_keeps answered
  | ok _ =>
      rw [Environment.start_state, answered]
      exact documented.deleteById answered

/-- An entity with an id in use is saved under this id. -/
theorem save_leaves (documented : repo.Documented idOf) {id : Id}
    {data entity : Entity} (sameId : idOf entity = some id)
    {trace : RepoTrace repo}
    (kept : repo.stored trace.state = repo.stored table)
    (used : (repo.stored table id).isSome = true) :
    (do
      let saved ← perform (RepoCall.save entity)
      pure (.entity (some saved)) :
        RepoProgram Entity Id (HardDelAnswer Entity Id)).wp
      ((repo.answers offered).rules (fun _ _ => True))
      (Leaving idOf offered (.update id data) table) trace := by
  rw [wp_bind, wp_perform]
  intro outcome _
  cases answered :
      (repo.answers offered trace.state (.save entity) outcome).2 with
  | error exception => exact (documented.error_keeps answered).trans kept
  | ok saved =>
      obtain ⟨key, savedId, after⟩ := documented.save answered
      have inUse : (repo.stored trace.state id).isSome = true := by
        rwa [kept]
      rw [documented.save_used answered sameId inUse] at savedId
      rw [← Option.some.inj savedId, kept] at after
      let step : HardDelStep repo :=
        ⟨offered, .update id data, trace.events ++ [⟨.save entity, outcome⟩],
          .ok (.entity (some saved))⟩
      have called : step.saves = true := by
        rw [HardDelStep.saves, List.any_append]
        exact Bool.or_true _
      exact ⟨used, after.trans (if_pos called).symm⟩

theorem update_leaves (documented : repo.Documented idOf)
    (info : EntityMerge idOf) (id : Id) (data : Entity) :
    (HardDelController.update info id data).wp
      ((repo.answers offered).rules (fun _ _ => True))
      (Leaving idOf offered (.update id data) table)
      (Environment.start table) := by
  rw [HardDelController.update, wp_bind, wp_perform]
  intro outcome _
  have kept := documented.findById_keeps offered table id outcome
  cases answered : (repo.answers offered table (.findById id) outcome).2 with
  | error exception =>
      rw [Environment.start_state, answered]
      exact kept
  | ok found =>
      rw [Environment.start_state, answered, andThen_ok]
      have stored := documented.findById answered
      cases found with
      | none => exact kept
      | some before =>
          have sameId : idOf (info.merge data before).2 = some id :=
            (info.merge_id data before).trans
              (documented.stored_id stored.symm)
          have used : (repo.stored table id).isSome = true := by
            rw [← stored]
            rfl
          dsimp only
          split
          · exact save_leaves offered table documented sameId kept used
          · exact ⟨used, kept⟩

theorem handle_leaves (documented : repo.Documented idOf)
    (info : EntityMerge idOf) (request : HardDelRequest Entity Id) :
    (HardDelController.handle info request).wp
      ((repo.answers offered).rules (fun _ _ => True))
      (Leaving idOf offered request table) (Environment.start table) := by
  cases request with
  | byId id => exact byId_leaves offered table documented id
  | create data => exact create_leaves offered table documented data
  | update id data => exact update_leaves offered table documented info id data
  | delete id => exact delete_leaves offered table documented id

end Request

/-! ## Runs -/

/-- What a step has saved or deleted under an id. -/
def HardDelStep.written (idOf : Entity → Option Id) (id : Id)
    (step : HardDelStep repo) : Option (Option Entity) :=
  match step.request, step.answer with
  | .create _, .ok (.entity (some saved)) =>
      if idOf saved = some id then some (some saved) else none
  | .update updated _, .ok (.entity (some entity)) =>
      if updated = id ∧ step.saves = true then some (some entity) else none
  | .delete deleted, .ok _ => if deleted = id then some none else none
  | _, _ => none

theorem HardDelStep.Leaves.written {step : HardDelStep repo}
    {before after : Id → Option Entity} (leaves : step.Leaves idOf before after)
    (id : Id) : after id = (step.written idOf id).getD (before id) := by
  obtain ⟨offered, request, calls, answer⟩ := step
  cases request with
  | byId other =>
      rcases answer with exception | found | answered
      · exact congrFun leaves id
      · exact congrFun leaves.1 id
      · exact congrFun leaves id
  | create data =>
      rcases answer with exception | (_ | saved) | answered
      · exact congrFun leaves id
      · exact congrFun leaves id
      · obtain ⟨key, savedId, rfl⟩ := leaves
        simp only [HardDelStep.written, savedId, Option.some.injEq,
          Function.update_apply, eq_comm (a := id)]
        split <;> rfl
      · exact congrFun leaves id
  | update updated data =>
      rcases answer with exception | (_ | entity) | answered
      · exact congrFun leaves id
      · exact congrFun leaves id
      · rw [leaves.2, HardDelStep.written]
        generalize HardDelStep.saves _ = saves
        cases saves with
        | false => simp
        | true =>
            simp only [if_true, and_true, Function.update_apply,
              eq_comm (a := id)]
            split <;> rfl
      · exact congrFun leaves id
  | delete deleted =>
      rcases answer with exception | answered
      · exact congrFun leaves id
      · rw [leaves]
        simp only [HardDelStep.written, Function.update_apply,
          eq_comm (a := id)]
        split <;> rfl

theorem handled_leaves (documented : repo.Documented idOf)
    {info : EntityMerge idOf} {offered : Id} {table : repo.Table}
    {request : HardDelRequest Entity Id} {trace : RepoTrace repo}
    {answer : Except RepoException (HardDelAnswer Entity Id)}
    (ends : (repo.answers offered).Ends (fun _ _ => True)
      (Environment.start table) (HardDelController.handle info request) answer
      trace) :
    HardDelStep.Leaves idOf ⟨offered, request, trace.events, answer⟩
      (repo.stored table) (repo.stored trace.state) :=
  Environment.wp_sound (handle_leaves offered table documented info request)
    ends

theorem HardDelRun.stored (documented : repo.Documented idOf)
    {info : EntityMerge idOf} {table last : repo.Table}
    {steps : List (HardDelStep repo)}
    (run : HardDelRun repo (HardDelController.handle info) table steps last)
    (id : Id) :
    repo.stored last id =
      (lastOf (HardDelStep.written idOf id) steps).getD
        (repo.stored table id) := by
  induction run with
  | nil table => rfl
  | @cons table last trace offered request answer rest ends _ induction =>
      have written := (handled_leaves documented ends).written id
      rw [induction, written, lastOf_cons]
      cases lastOf (HardDelStep.written idOf id) rest <;> rfl

/-- After any run, what is stored under an id is what the last request that
has saved or deleted there has left.  Within the run, a search by the id has
answered what was stored then, and only what was stored has been updated. -/
theorem hardDel_rows (documented : repo.Documented idOf)
    {info : EntityMerge idOf} {table last : repo.Table}
    {steps : List (HardDelStep repo)}
    (run : HardDelRun repo (HardDelController.handle info) table steps last) :
    (∀ id, repo.stored last id =
      (lastOf (HardDelStep.written idOf id) steps).getD
        (repo.stored table id)) ∧
      (∀ earlier offered id calls found later,
        steps = earlier ++
            ⟨offered, .byId id, calls, .ok (.entity found)⟩ :: later →
          found = (lastOf (HardDelStep.written idOf id) earlier).getD
            (repo.stored table id)) ∧
      ∀ earlier offered id data calls entity later,
        steps = earlier ++
            ⟨offered, .update id data, calls, .ok (.entity (some entity))⟩ ::
              later →
          ((lastOf (HardDelStep.written idOf id) earlier).getD
            (repo.stored table id)).isSome = true := by
  refine ⟨run.stored documented, ?_, ?_⟩
  · intro earlier offered id calls found later split
    rw [split] at run
    obtain ⟨middle, before, after⟩ := run.split
    rw [← before.stored documented id]
    cases after with
    | cons ends _ => exact (handled_leaves documented ends).2
  · intro earlier offered id data calls entity later split
    rw [split] at run
    obtain ⟨middle, before, after⟩ := run.split
    rw [← before.stored documented id]
    cases after with
    | cons ends _ => exact (handled_leaves documented ends).1

/-! ## Runs of both controllers -/

/-- The run in which every call has the same outcome. -/
def HardDelHandler.answerAll (handler : HardDelHandler Entity Id)
    (repo : CrudRepository Entity Id) (outcome : repo.Outcome) :
    repo.Table → List (Id × HardDelRequest Entity Id) →
      List (HardDelStep repo) × repo.Table
  | table, [] => ([], table)
  | table, (offered, request) :: rest =>
      let (trace, answer) := (repo.answers offered).replay
        (fun _ _ => outcome) (Environment.start table) (handler request)
      let (steps, last) := handler.answerAll repo outcome trace.state rest
      (⟨offered, request, trace.events, answer⟩ :: steps, last)

omit [DecidableEq Id] in
theorem answerAll_run (handler : HardDelHandler Entity Id)
    (outcome : repo.Outcome) (table : repo.Table)
    (requests : List (Id × HardDelRequest Entity Id)) :
    HardDelRun repo handler table
      (handler.answerAll repo outcome table requests).1
      (handler.answerAll repo outcome table requests).2 := by
  induction requests generalizing table with
  | nil => exact .nil table
  | cons first rest induction =>
      exact .cons ((repo.answers first.1).replay_ends (fun _ _ => True)
        (fun _ _ => outcome) (fun _ _ => trivial) (Environment.start table)
        (handler first.2)) (induction _)

def embeddedEntity (name : String) (isActive : Char) : EmbeddedHardDel :=
  { id := some { type := some 1, code := some "a" }
    name := some name
    description := none
    isActive := some isActive }

def autoGenEntity (id : Option String) (name : String) :
    AutoGenStrIdHardDel Unit Unit :=
  { id := id
    name := some name
    description := none
    isActive := some 'Y'
    date := some ()
    condition := some () }

/-- Everything but the id is taken from the data. -/
def embeddedMerge : EntityMerge EmbeddedHardDel.id where
  merge := fun data entity => (true, { data with id := entity.id })
  merge_id := fun _ _ => rfl

def autoGenMerge :
    EntityMerge (AutoGenStrIdHardDel.id : AutoGenStrIdHardDel Unit Unit → _)
    where
  merge := fun data entity => (true, { data with id := entity.id })
  merge_id := fun _ _ => rfl

/-- Created, deleted and created anew. -/
def embeddedRequests :
    List (EmbededId × HardDelRequest EmbeddedHardDel EmbededId) :=
  [({ type := none, code := none }, .create (embeddedEntity "A" 'Y')),
    ({ type := none, code := none },
      .delete { type := some 1, code := some "a" }),
    ({ type := none, code := none }, .create (embeddedEntity "B" 'N'))]

/-- The first of two new entities is updated, the other one deleted. -/
def autoGenRequests :
    List (String × HardDelRequest (AutoGenStrIdHardDel Unit Unit) String) :=
  [("u", .create (autoGenEntity none "A")),
    ("v", .create (autoGenEntity none "C")),
    ("w", .update "u" (autoGenEntity none "B")),
    ("w", .delete "v")]

theorem hardDel_rows_created :
    (∃ steps last, HardDelRun embeddedClass.repository
        (EmbeddedHardDelController.handle embeddedMerge)
        embeddedClass.noEntities steps last ∧
      embeddedClass.repository.stored last
          { type := some 1, code := some "a" } =
        some (embeddedEntity "B" 'N')) ∧
    ∃ steps last, HardDelRun (autoGenClass Unit Unit).repository
        (AutoGenStrIdHardDelController.handle autoGenMerge)
        (autoGenClass Unit Unit).noEntities steps last ∧
      (autoGenClass Unit Unit).repository.stored last "u" =
          some (autoGenEntity (some "u") "B") ∧
        (autoGenClass Unit Unit).repository.stored last "v" = none := by
  have embedded := answerAll_run
    (EmbeddedHardDelController.handle embeddedMerge) none
    embeddedClass.noEntities embeddedRequests
  have autoGen := answerAll_run
    (AutoGenStrIdHardDelController.handle autoGenMerge) none
    (autoGenClass Unit Unit).noEntities autoGenRequests
  refine ⟨⟨_, _, embedded, ?_⟩, _, _, autoGen, ?_, ?_⟩
  · exact ((hardDel_rows embeddedClass.documented embedded).1 _).trans rfl
  · exact ((hardDel_rows (autoGenClass Unit Unit).documented autoGen).1
      _).trans rfl
  · exact ((hardDel_rows (autoGenClass Unit Unit).documented autoGen).1
      _).trans rfl

end SpringTemplate.Repo
