import SpringTemplate.Library.Environment
import SpringTemplate.Repo.SoftDelete

/-!
# The controllers with hard deletion

`AutoGenStrIdHardDelController` and `EmbeddedHardDelController` answer
requests in the same way, each for its entity class: one has ids that a
generator makes, the other ids that the client sends.  A request is a program
that calls the repository.  The repository is the framework's: it is a
parameter here, with what is documented of its methods as hypotheses.
-/

namespace SpringTemplate.Repo

open Program

/-- The methods of the repository that the handlers call. -/
inductive RepoCall (Entity Id : Type) where
  | findById (id : Id)
  | save (entity : Entity)
  | deleteById (id : Id)

abbrev RepoCall.Answer {Entity Id : Type} : RepoCall Entity Id → Type
  | .findById _ => Option Entity
  | .save _ => Entity
  | .deleteById _ => Unit

abbrev RepoProgram (Entity Id α : Type) :=
  Program (RepoCall Entity Id) RepoCall.Answer RepoException α

/-- A repository over the tables of a database.  What it answers depends on
the table, on the id that a generator offers, and on an outcome, which stands
for faults and the like.  `stored` is what a table has under an id. -/
structure CrudRepository (Entity Id : Type) where
  Table : Type
  Outcome : Type
  answers : Id → Environment (RepoCall Entity Id) RepoCall.Answer
    RepoException Table (fun _ => Outcome)
  stored : Table → Id → Option Entity

/-- What is documented of the methods. -/
structure CrudRepository.Documented {Entity Id : Type} [DecidableEq Id]
    (repo : CrudRepository Entity Id) (idOf : Entity → Option Id) :
    Prop where
  /-- What is stored under an id has this id. -/
  stored_id : ∀ {table : repo.Table} {id : Id} {entity : Entity},
    repo.stored table id = some entity → idOf entity = some id
  findById : ∀ {offered : Id} {table : repo.Table} {id : Id}
    {outcome : repo.Outcome} {found : Option Entity},
    (repo.answers offered table (.findById id) outcome).2 = .ok found →
      found = repo.stored table id
  findById_keeps : ∀ (offered : Id) (table : repo.Table) (id : Id)
    (outcome : repo.Outcome),
    repo.stored (repo.answers offered table (.findById id) outcome).1 =
      repo.stored table
  /-- The entity that is answered is stored under its id, and nothing else
  changes. -/
  save : ∀ {offered : Id} {table : repo.Table} {entity saved : Entity}
    {outcome : repo.Outcome},
    (repo.answers offered table (.save entity) outcome).2 = .ok saved →
      ∃ id, idOf saved = some id ∧
        repo.stored (repo.answers offered table (.save entity) outcome).1 =
          Function.update (repo.stored table) id (some saved)
  /-- An entity whose id is in use keeps it. -/
  save_used : ∀ {offered : Id} {table : repo.Table} {entity saved : Entity}
    {outcome : repo.Outcome} {id : Id},
    (repo.answers offered table (.save entity) outcome).2 = .ok saved →
      idOf entity = some id → (repo.stored table id).isSome = true →
        idOf saved = some id
  deleteById : ∀ {offered : Id} {table : repo.Table} {id : Id}
    {outcome : repo.Outcome},
    (repo.answers offered table (.deleteById id) outcome).2 = .ok () →
      repo.stored (repo.answers offered table (.deleteById id) outcome).1 =
        Function.update (repo.stored table) id none
  /-- A call that fails is rolled back. -/
  error_keeps : ∀ {offered : Id} {table : repo.Table}
    {call : RepoCall Entity Id} {outcome : repo.Outcome}
    {exception : RepoException},
    (repo.answers offered table call outcome).2 = .error exception →
      repo.stored (repo.answers offered table call outcome).1 =
        repo.stored table

/-- What the controllers use of the entity library: whether a merge has
changed the second entity, and that entity afterwards. -/
structure EntityMerge {Entity Id : Type} (idOf : Entity → Option Id) where
  merge : Entity → Entity → Bool × Entity
  merge_id : ∀ data entity, idOf (merge data entity).2 = idOf entity

inductive HardDelRequest (Entity Id : Type) where
  | byId (id : Id)
  | create (data : Entity)
  | update (id : Id) (data : Entity)
  | delete (id : Id)

inductive HardDelAnswer (Entity Id : Type) where
  | entity (entity : Option Entity)
  | id (id : Id)

abbrev HardDelHandler (Entity Id : Type) :=
  HardDelRequest Entity Id → RepoProgram Entity Id (HardDelAnswer Entity Id)

/-! ## What both controllers do -/

namespace HardDelController

variable {Entity Id : Type} {idOf : Entity → Option Id}

def byId (id : Id) : RepoProgram Entity Id (HardDelAnswer Entity Id) := do
  let entity ← perform (RepoCall.findById id)
  pure (.entity entity)

def create (data : Entity) :
    RepoProgram Entity Id (HardDelAnswer Entity Id) := do
  let entity ← perform (RepoCall.save data)
  pure (.entity (some entity))

def update (info : EntityMerge idOf) (id : Id) (data : Entity) :
    RepoProgram Entity Id (HardDelAnswer Entity Id) := do
  let found ← perform (RepoCall.findById id)
  match (found : Option Entity) with
  | none => .done (.error (.illegalArgument "Entity is not found"))
  | some before =>
      let (changed, entity) := info.merge data before
      if changed then
        let saved ← perform (RepoCall.save entity)
        pure (.entity (some saved))
      else pure (.entity (some entity))

def delete (id : Id) : RepoProgram Entity Id (HardDelAnswer Entity Id) := do
  perform (RepoCall.deleteById id)
  pure (.id id)

def handle (info : EntityMerge idOf) : HardDelHandler Entity Id
  | .byId id => byId id
  | .create data => create data
  | .update id data => update info id data
  | .delete id => delete id

end HardDelController

/-! ## Ids that the client sends -/

structure EmbededId where
  type : Option Int
  code : Option String
  deriving DecidableEq, Repr

structure EmbeddedHardDel where
  id : Option EmbededId
  name : Option String
  description : Option String
  isActive : Option Char
  deriving DecidableEq, Repr

namespace EmbeddedHardDelController

variable (info : EntityMerge EmbeddedHardDel.id)

def byId (id : EmbededId) :
    RepoProgram EmbeddedHardDel EmbededId
      (HardDelAnswer EmbeddedHardDel EmbededId) :=
  HardDelController.byId id

def create (data : EmbeddedHardDel) :
    RepoProgram EmbeddedHardDel EmbededId
      (HardDelAnswer EmbeddedHardDel EmbededId) :=
  HardDelController.create data

def update := HardDelController.update info

def delete (id : EmbededId) :
    RepoProgram EmbeddedHardDel EmbededId
      (HardDelAnswer EmbeddedHardDel EmbededId) :=
  HardDelController.delete id

def handle := HardDelController.handle info

end EmbeddedHardDelController

/-! ## Ids that a generator makes -/

/-- The library's types of dates and conditions are parameters. -/
structure AutoGenStrIdHardDel (DateTime Condition : Type) where
  id : Option String
  name : Option String
  description : Option String
  isActive : Option Char
  date : Option DateTime
  condition : Option Condition
  deriving DecidableEq

namespace AutoGenStrIdHardDelController

variable {DateTime Condition : Type}
  (info : EntityMerge
    (AutoGenStrIdHardDel.id : AutoGenStrIdHardDel DateTime Condition → _))

def byId (id : String) :
    RepoProgram (AutoGenStrIdHardDel DateTime Condition) String
      (HardDelAnswer (AutoGenStrIdHardDel DateTime Condition) String) :=
  HardDelController.byId id

def create (data : AutoGenStrIdHardDel DateTime Condition) :
    RepoProgram (AutoGenStrIdHardDel DateTime Condition) String
      (HardDelAnswer (AutoGenStrIdHardDel DateTime Condition) String) :=
  HardDelController.create data

def update := HardDelController.update info

def delete (id : String) :
    RepoProgram (AutoGenStrIdHardDel DateTime Condition) String
      (HardDelAnswer (AutoGenStrIdHardDel DateTime Condition) String) :=
  HardDelController.delete id

def handle := HardDelController.handle info

end AutoGenStrIdHardDelController

end SpringTemplate.Repo
