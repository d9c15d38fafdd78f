import SpringTemplate.Library.Hql

/-!
# A fragment of HQL: meaning

Statements range over the objects of a schema, which says what the rows of an
entity are, where an association leads and what an attribute holds.  A null
attribute has no value.  Conditions are three-valued: a comparison with null
is unknown, and a row is selected or updated only where the condition is
true.  A statement runs when its placeholders are exactly the positions that
are bound.

The lemmas about `Truth` reduce "is true" to propositions, which is all that
`where` asks for.
-/

namespace Hql

inductive Truth where
  | no
  | unknown
  | yes
  deriving DecidableEq, Repr

namespace Truth

def both : Truth → Truth → Truth
  | .yes, .yes => .yes
  | .no, _ => .no
  | _, .no => .no
  | _, _ => .unknown

def either : Truth → Truth → Truth
  | .no, .no => .no
  | .yes, _ => .yes
  | _, .yes => .yes
  | _, _ => .unknown

@[simp] theorem both_eq_yes (left right : Truth) :
    both left right = .yes ↔ left = .yes ∧ right = .yes := by
  cases left <;> cases right <;> decide

@[simp] theorem either_eq_yes (left right : Truth) :
    either left right = .yes ↔ left = .yes ∨ right = .yes := by
  cases left <;> cases right <;> decide

variable {Val : Type}

def isNull : Option Val → Truth
  | none => .yes
  | some _ => .no

@[simp] theorem isNull_eq_yes (value : Option Val) :
    isNull value = .yes ↔ value = none := by
  cases value <;> simp [isNull]

variable [DecidableEq Val]

def equal : Option Val → Option Val → Truth
  | some left, some right => if left = right then .yes else .no
  | _, _ => .unknown

/-- Membership is the disjunction of the comparisons. -/
def member (value : Option Val) (values : List (Option Val)) : Truth :=
  values.foldr (fun other rest => either (equal value other) rest) .no

@[simp] theorem equal_eq_yes (left right : Option Val) :
    equal left right = .yes ↔ ∃ value, left = some value ∧
      right = some value := by
  cases left with
  | none => simp [equal]
  | some left =>
      cases right with
      | none => simp [equal]
      | some right =>
          simp only [equal, Option.some.injEq, exists_eq_left']
          constructor
          · intro holds
            by_contra different
            simp [Ne.symm different] at holds
          · rintro rfl
            simp

@[simp] theorem member_eq_yes (value : Option Val)
    (values : List (Option Val)) :
    member value values = .yes ↔ value ≠ none ∧ value ∈ values := by
  induction values with
  | nil => simp [member]
  | cons other rest induction =>
      simp only [member, List.foldr_cons, either_eq_yes, equal_eq_yes]
        at induction ⊢
      rw [induction, List.mem_cons]
      constructor
      · rintro (⟨found, rfl, rfl⟩ | ⟨present, later⟩)
        · exact ⟨by simp, .inl rfl⟩
        · exact ⟨present, .inr later⟩
      · rintro ⟨present, rfl | later⟩
        · obtain ⟨found, rfl⟩ := Option.ne_none_iff_exists'.mp present
          exact .inl ⟨found, rfl, rfl⟩
        · exact .inr ⟨present, later⟩

end Truth

/-- The value of an attribute. -/
inductive Value where
  | text (held : String)
  | flag (held : Char)
  | number (held : Int)
  deriving DecidableEq, Repr

namespace Value

def toText : Value → Option String
  | .text held => some held
  | _ => none

def toFlag : Value → Option Char
  | .flag held => some held
  | _ => none

def toNumber : Value → Option Int
  | .number held => some held
  | _ => none

end Value

/-- What is bound to a placeholder: a value or a collection of values. -/
inductive Parameter (Val : Type) where
  | single (value : Option Val)
  | collection (values : List (Option Val))
  deriving DecidableEq

abbrev Bindings (Val : Type) := List (Nat × Parameter Val)

/-- `setParameter(i + 1, parameters.get(i))` for every index. -/
def positioned {Val : Type} (parameters : List (Parameter Val)) :
    Bindings Val :=
  (parameters.zipIdx 1).map Prod.swap

structure Statement (Val : Type) where
  text : String
  bindings : Bindings Val

/-- Exactly the placeholders are bound, each of them once. -/
def Bound {Val : Type} (placeholders : List Nat) (bindings : Bindings Val) :
    Prop :=
  (bindings.map Prod.fst).Nodup ∧
    (∀ position ∈ placeholders, position ∈ bindings.map Prod.fst) ∧
    ∀ position ∈ bindings.map Prod.fst, position ∈ placeholders

instance {Val : Type} (placeholders : List Nat) (bindings : Bindings Val) :
    Decidable (Bound placeholders bindings) :=
  inferInstanceAs (Decidable (_ ∧ _ ∧ _))

/-- Placeholders that are numbered as they are bound. -/
theorem Bound.of_positions {Val : Type} {placeholders : List Nat}
    {bindings : Bindings Val} (same : bindings.map Prod.fst = placeholders)
    (nodup : placeholders.Nodup) : Bound placeholders bindings := by
  rw [Bound, same]
  exact ⟨nodup, fun _ member => member, fun _ member => member⟩

/-- The objects in scope, by label. -/
abbrev Scope (Obj : Type) := List (String × Obj)

structure Schema (Db Obj Val : Type) where
  rows : Db → String → List Obj
  related : Db → Obj → Path → List Obj
  value : Obj → Path → Option Val
  number : Nat → Val

namespace Schema

variable {Db Obj Val : Type} (schema : Schema Db Obj Val)

/-- A path starts at a label, or at the entity without label. -/
def read (scope : Scope Obj) : Path → Option Val
  | [] => none
  | first :: rest =>
      match scope.lookup first with
      | some object => schema.value object rest
      | none =>
          match scope.lookup "" with
          | some object => schema.value object (first :: rest)
          | none => none

def operand (bindings : Bindings Val) (scope : Scope Obj) :
    Operand → Option Val
  | .path path => schema.read scope path
  | .parameter position =>
      match bindings.lookup position with
      | some (.single value) => value
      | _ => none
  | .number value => some (schema.number value)

/-- The scopes an inner join extends a scope to. -/
def join (db : Db) (scope : Scope Obj) (join : Join) : List (Scope Obj) :=
  match join.association with
  | [] => []
  | owner :: association =>
      match scope.lookup owner with
      | some object =>
          (schema.related db object association).map
            (fun related => scope ++ [(join.label, related)])
      | none => []

def scopes (db : Db) (source : Source) : List (Scope Obj) :=
  source.joins.foldl
    (fun scopes join => scopes.flatMap (fun scope => schema.join db scope join))
    ((schema.rows db source.entity).map (fun object => [(source.label, object)]))

variable [DecidableEq Val]

def truth (db : Db) (bindings : Bindings Val) :
    Condition → Scope Obj → Truth
  | .equal left right, scope =>
      Truth.equal (schema.operand bindings scope left)
        (schema.operand bindings scope right)
  | .isNull operand, scope =>
      Truth.isNull (schema.operand bindings scope operand)
  | .member operand position, scope =>
      match bindings.lookup position with
      | some (.collection values) =>
          Truth.member (schema.operand bindings scope operand) values
      | _ => .unknown
  | .within operand selected source condition, scope =>
      let inner := (schema.scopes db source).filter (fun inner =>
        truth db bindings condition (inner ++ scope) = .yes)
      Truth.member (schema.operand bindings scope operand)
        (inner.map (fun inner =>
          schema.operand bindings (inner ++ scope) selected))
  | .both left right, scope =>
      Truth.both (truth db bindings left scope)
        (truth db bindings right scope)
  | .either left right, scope =>
      Truth.either (truth db bindings left scope)
        (truth db bindings right scope)

/-- The condition of a statement is true, or there is none. -/
def Holds (db : Db) (bindings : Bindings Val) (condition : Option Condition)
    (scope : Scope Obj) : Prop :=
  ∀ stated ∈ condition, schema.truth db bindings stated scope = .yes

instance (db : Db) (bindings : Bindings Val) (condition : Option Condition)
    (scope : Scope Obj) :
    Decidable (schema.Holds db bindings condition scope) :=
  match condition with
  | none => .isTrue (by simp [Holds])
  | some condition =>
      decidable_of_iff
        (schema.truth db bindings condition scope = .yes) (by simp [Holds])

/-- The selected objects of a scope; all of them without a `select`. -/
def selected (select : List Path) (scope : Scope Obj) : List Obj :=
  if select.isEmpty then scope.map Prod.snd
  else select.filterMap (fun path =>
    match path with
    | [label] => scope.lookup label
    | _ => none)

def queryRows (db : Db) (bindings : Bindings Val) (query : Query) :
    List (List Obj) :=
  ((schema.scopes db query.source).filter
    (fun scope => schema.Holds db bindings query.condition scope)).map
    (selected query.select)

/-- The rows of a select statement, unless it cannot run. -/
def select (db : Db) (statement : Statement Val) :
    Option (List (List Obj)) := do
  let query ← parseQuery statement.text
  if Bound query.placeholders statement.bindings then
    some (schema.queryRows db statement.bindings query)
  else none

/-- A row after an update: every assignment is computed from the row as it
was. -/
def updated {Row : Type} (object : Row → Obj)
    (assign : Row → Path → Option Val → Row) (db : Db)
    (bindings : Bindings Val) (update : Update) (row : Row) : Row :=
  let scope := [("", object row)]
  if schema.Holds db bindings update.condition scope then
    update.assignments.foldl (fun changed assignment =>
      assign changed assignment.1
        (schema.operand bindings scope assignment.2)) row
  else row

theorem updated_eq {Row : Type} {object : Row → Obj}
    (assign : Row → Path → Option Val → Row) {db : Db}
    {bindings : Bindings Val} (update : Update) {changed : Row → Row}
    {concerned : Row → Prop} [DecidablePred concerned]
    (holds : ∀ row, schema.Holds db bindings update.condition
      [("", object row)] ↔ concerned row)
    (assigned : ∀ row, update.assignments.foldl (fun changed assignment =>
      assign changed assignment.1 (schema.operand bindings
        [("", object row)] assignment.2)) row = changed row) :
    schema.updated object assign db bindings update =
      fun row => if concerned row then changed row else row := by
  ext1 row
  simp only [updated, holds, assigned]

end Schema

end Hql
