import SpringTemplate.Library.HqlMeaning
import SpringTemplate.Library.KeyedTable

/-!
# The repository with soft deletion

A row whose `deletedOn` is set counts as deleted.  `SoftDeleteRepository`
overrides `findById` with a query of its own; `save` and `deleteById` are
those of the framework and are parameters here, with what is documented of
them as a hypothesis.  The controller answers requests with these and with the
merge of the entity library.
-/

namespace SpringTemplate.Repo

open Hql (Path Value)

/-- An entity as a request brings it, with whatever fields it has. -/
structure ManualGenStrIdSoftDel where
  id : Option String
  name : Option String
  description : Option String
  isActive : Option Char
  deletedOn : Option Int
  deriving DecidableEq, Repr

/-- A row of `manual_gen_str_id_soft_del`, with the columns that are not
nullable. -/
structure SoftDelRow where
  id : String
  name : String
  description : Option String
  isActive : Char
  deletedOn : Option Int
  deriving DecidableEq, Repr

def SoftDelRow.entity (row : SoftDelRow) : ManualGenStrIdSoftDel :=
  { id := some row.id
    name := some row.name
    description := row.description
    isActive := some row.isActive
    deletedOn := row.deletedOn }

structure SoftDelTable where
  rows : List SoftDelRow
  nodup : (rows.map SoftDelRow.id).Nodup

def SoftDelRow.value (row : SoftDelRow) : Path → Option Value
  | ["id"] => some (.text row.id)
  | ["name"] => some (.text row.name)
  | ["description"] => row.description.map .text
  | ["isActive"] => some (.flag row.isActive)
  | ["deletedOn"] => row.deletedOn.map .number
  | _ => none

def SoftDelTable.objects (table : SoftDelTable) : String → List SoftDelRow
  | "ManualGenStrIdSoftDel" => table.rows
  | _ => []

def softDelSchema : Hql.Schema SoftDelTable SoftDelRow Value :=
  { rows := SoftDelTable.objects
    related := fun _ _ _ => []
    value := SoftDelRow.value
    number := fun value => .number value }

/-- What the framework throws when it cannot save or delete. -/
structure DataAccessException where
  message : String
  deriving DecidableEq, Repr

inductive RepoException where
  | incorrectResultSize
  | illegalArgument (message : String)
  | dataAccess (exception : DataAccessException)
  deriving DecidableEq, Repr

/-- `SoftDeleteRepository`, with its query methods over `#{#entityName}`. -/
def SoftDeleteRepository.findByIdText (entityName : String) : String :=
  "select e from " ++ entityName ++ " e where e.deletedOn is null"

namespace ManualGenStrIdSoftDelRepo

/-- The statement of `findById` has no placeholder for the id. -/
def findById (table : SoftDelTable) (_id : String) :
    Except RepoException (Option SoftDelRow) :=
  match softDelSchema.select table
      { text := SoftDeleteRepository.findByIdText "ManualGenStrIdSoftDel"
        bindings := [] } with
  | some [] => .ok none
  | some [[row]] => .ok (some row)
  | _ => .error .incorrectResultSize

end ManualGenStrIdSoftDelRepo

/-- The methods that `ManualGenStrIdSoftDelRepo` inherits from the framework,
with the table that they leave. -/
structure CrudMethods where
  save : SoftDelTable → ManualGenStrIdSoftDel →
    Except DataAccessException (ManualGenStrIdSoftDel × SoftDelTable)
  deleteById : SoftDelTable → String →
    Except DataAccessException SoftDelTable

/-- What is documented of these methods. -/
structure CrudMethods.Documented (crud : CrudMethods) : Prop where
  /-- The entity is saved under its own id. -/
  save_own : ∀ {table after : SoftDelTable}
    {entity saved : ManualGenStrIdSoftDel},
    crud.save table entity = .ok (saved, after) →
      saved.id = entity.id ∧ ∃ row ∈ after.rows, row.entity = saved
  save_others : ∀ {table after : SoftDelTable}
    {entity saved : ManualGenStrIdSoftDel},
    crud.save table entity = .ok (saved, after) →
      ∀ row : SoftDelRow, entity.id ≠ some row.id →
        (row ∈ after.rows ↔ row ∈ table.rows)
  deleteById_rows : ∀ {table after : SoftDelTable} {id : String},
    crud.deleteById table id = .ok after →
      ∀ row : SoftDelRow, row ∈ after.rows ↔ row ∈ table.rows ∧ row.id ≠ id

/-- What the controller uses of the entity library: whether a merge has
changed the second entity, and that entity afterwards. -/
structure EntityInfo where
  merge : ManualGenStrIdSoftDel → ManualGenStrIdSoftDel →
    Bool × ManualGenStrIdSoftDel
  merge_id : ∀ data entity, (merge data entity).2.id = entity.id

inductive Request where
  | byId (id : String)
  | create (data : ManualGenStrIdSoftDel)
  | update (id : String) (data : ManualGenStrIdSoftDel)
  | delete (id : String)
  deriving DecidableEq, Repr

inductive Answer where
  | entity (entity : Option ManualGenStrIdSoftDel)
  | id (id : String)
  deriving DecidableEq, Repr

/-- What a request answers and the table it leaves. -/
structure Outcome where
  answer : Except RepoException Answer
  table : SoftDelTable

namespace ManualGenStrIdSoftDelController

open ManualGenStrIdSoftDelRepo

variable (crud : CrudMethods) (info : EntityInfo)

def byId (table : SoftDelTable) (id : String) : Outcome :=
  { answer := (findById table id).map
      (fun row => .entity (row.map SoftDelRow.entity))
    table := table }

/-- Save an entity and answer it. -/
def answerSaved (table : SoftDelTable) (entity : ManualGenStrIdSoftDel) :
    Outcome :=
  match crud.save table entity with
  | .error exception => ⟨.error (.dataAccess exception), table⟩
  | .ok (saved, after) => ⟨.ok (.entity (some saved)), after⟩

def create (table : SoftDelTable) (data : ManualGenStrIdSoftDel) : Outcome :=
  answerSaved crud table data

def update (table : SoftDelTable) (id : String)
    (data : ManualGenStrIdSoftDel) : Outcome :=
  match findById table id with
  | .error exception => ⟨.error exception, table⟩
  | .ok none => ⟨.error (.illegalArgument "Entity is not found"), table⟩
  | .ok (some row) =>
      let (changed, entity) := info.merge data row.entity
      if changed then answerSaved crud table entity
      else ⟨.ok (.entity (some entity)), table⟩

def delete (table : SoftDelTable) (id : String) : Outcome :=
  match crud.deleteById table id with
  | .error exception => ⟨.error (.dataAccess exception), table⟩
  | .ok after => ⟨.ok (.id id), after⟩

def handle (table : SoftDelTable) : Request → Outcome
  | .byId id => byId table id
  | .create data => create crud table data
  | .update id data => update crud info table id data
  | .delete id => delete crud table id

/-- The requests of a run, each with the table it meets. -/
def steps (table : SoftDelTable) :
    List Request → List (SoftDelTable × Request)
  | [] => []
  | request :: rest =>
      (table, request) :: steps (handle crud info table request).table rest

end ManualGenStrIdSoftDelController

end SpringTemplate.Repo
