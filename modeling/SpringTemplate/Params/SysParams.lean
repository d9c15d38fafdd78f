import Mathlib.Data.List.Count
import SpringTemplate.Library.HqlMeaning
import SpringTemplate.Library.RowOrder

/-!
# Reloading system parameters

The handler of the system parameters asks its reloader for the parameters of
some system codes, or for all of them.  The reloader assembles its query
accordingly and copies what it reads.
-/

namespace SpringTemplate.Params

open Hql

structure SysParamId where
  sysCode : String
  paramCode : String
  deriving DecidableEq, Repr

structure SysParam where
  id : SysParamId
  description : Option String
  value : Option String
  bytes : Option (List UInt8)
  deriving DecidableEq, Repr

structure SysParamDto where
  sysCode : String
  paramCode : String
  description : Option String
  value : Option String
  bytes : Option (List UInt8)
  deriving DecidableEq, Repr

structure SysParamTable where
  rows : List SysParam
  nodup : (rows.map SysParam.id).Nodup

/-- The attributes a condition can name; `bytes` cannot be compared. -/
def SysParam.attribute (row : SysParam) : Path → Option Value
  | ["id", "sysCode"] => some (.text row.id.sysCode)
  | ["id", "paramCode"] => some (.text row.id.paramCode)
  | ["description"] => row.description.map .text
  | ["value"] => row.value.map .text
  | _ => none

def SysParamTable.objects (table : SysParamTable) : String → List SysParam
  | "SysParam" => table.rows
  | _ => []

def sysParamSchema : Schema SysParamTable SysParam Value :=
  { rows := SysParamTable.objects
    related := fun _ _ _ => []
    value := SysParam.attribute
    number := fun value => .number value }

namespace SysParamReloader

variable (sysCodes : Option (List (Option String)))

def notEmpty : Bool :=
  match sysCodes with
  | none => false
  | some codes => !codes.isEmpty

def statement : Statement Value :=
  { text := "from SysParam " ++
      (if notEmpty sysCodes then "where id.sysCode in (?1)" else "")
    bindings :=
      if notEmpty sysCodes then
        [(1, .collection ((sysCodes.getD []).map (Option.map .text)))]
      else [] }

/-- The copy of an entity; the constructor takes the parts of its id. -/
def dto (entity : SysParam) : SysParamDto :=
  { sysCode := entity.id.sysCode
    paramCode := entity.id.paramCode
    description := entity.description
    value := entity.value
    bytes := entity.bytes }

/-- The loop takes the entities from the front until there are none. -/
def copyAll : List SysParam → List SysParamDto
  | [] => []
  | entity :: entities => dto entity :: copyAll entities

/-- What a reload returns, in whatever order the database returns the
rows. -/
def Reload (table : SysParamTable) (dtos : List SysParamDto) : Prop :=
  ∃ entities selected,
    sysParamSchema.select table (statement sysCodes) = some selected ∧
      (entities.map (fun entity => [entity])).Perm selected ∧
      dtos = copyAll entities

/-- The code is among the given ones, if any are given. -/
def Asked (sysCode : String) : Prop :=
  sysCodes = none ∨ sysCodes = some [] ∨ some sysCode ∈ sysCodes.getD []

instance (sysCode : String) : Decidable (Asked sysCodes sysCode) :=
  inferInstanceAs (Decidable (_ ∨ _ ∨ _))

/-! ## The query -/

def codeCondition : Condition :=
  .member (.path ["id", "sysCode"]) 1

def reloadQuery (condition : Option Condition) : Query :=
  { select := []
    source := ⟨"SysParam", "", []⟩
    condition := condition }

theorem parse_all :
    parseQuery ("from SysParam " ++ "") = some (reloadQuery none) := by
  have tokens : Hql.tokens ("from SysParam " ++ "") =
      [.keyword .from, .name ["SysParam"]] := by
    rw [Hql.tokens, String.toList_append,
      (String.toList_ofList : "from SysParam ".toList = _),
      (String.toList_ofList : "".toList = _)]
    rfl
  rw [parseQuery, tokens]
  rfl

theorem parse_coded :
    parseQuery ("from SysParam " ++ "where id.sysCode in (?1)") =
      some (reloadQuery (some codeCondition)) := by
  have tokens : Hql.tokens ("from SysParam " ++ "where id.sysCode in (?1)") =
      [.keyword .from, .name ["SysParam"], .keyword .where,
        .name ["id", "sysCode"], .keyword .in, .symbol '(', .symbol '?',
        .number 1, .symbol ')'] := by
    rw [Hql.tokens, String.toList_append,
      (String.toList_ofList : "from SysParam ".toList = _),
      (String.toList_ofList : "where id.sysCode in (?1)".toList = _)]
    rfl
  rw [parseQuery, tokens]
  rfl

theorem reloadScopes (table : SysParamTable) :
    sysParamSchema.scopes table ⟨"SysParam", "", []⟩ =
      table.rows.map (fun row => [("", row)]) := rfl

theorem text_mem (code : String) (codes : List (Option String)) :
    some (Value.text code) ∈ codes.map (Option.map .text) ↔
      some code ∈ codes := by
  simp [List.mem_map, Option.map_eq_some_iff]

theorem select_all (table : SysParamTable) :
    sysParamSchema.select table ⟨"from SysParam " ++ "", []⟩ =
      some (table.rows.map (fun row => [row])) := by
  simp only [Schema.select, parse_all, Option.bind_eq_bind,
    Option.bind_some, Schema.queryRows, reloadScopes, reloadQuery,
    Schema.Holds, Option.mem_def, reduceCtorEq, IsEmpty.forall_iff,
    implies_true, decide_true, List.filter_true, List.map_map]
  rfl

/-- With codes given, the condition holds of the rows that carry one. -/
theorem select_coded (table : SysParamTable) (codes : List (Option String)) :
    sysParamSchema.select table
        ⟨"from SysParam " ++ "where id.sysCode in (?1)",
          [(1, .collection (codes.map (Option.map .text)))]⟩ =
      some ((table.rows.filter
        (fun row => some row.id.sysCode ∈ codes)).map
          (fun row => [row])) := by
  have condition : ∀ row : SysParam,
      sysParamSchema.Holds table
          [(1, .collection (codes.map (Option.map Value.text)))]
          (some codeCondition) [("", row)] ↔
        some row.id.sysCode ∈ codes := by
    intro row
    have operand : sysParamSchema.operand
        [(1, .collection (codes.map (Option.map Value.text)))] [("", row)]
        (.path ["id", "sysCode"]) = some (.text row.id.sysCode) := rfl
    simp only [Schema.Holds, Option.mem_some_iff, forall_eq', codeCondition,
      Schema.truth, operand, List.lookup_cons, beq_self_eq_true,
      Truth.member_eq_yes, text_mem]
    simp
  simp only [Schema.select, parse_coded, Option.bind_eq_bind,
    Option.bind_some, Schema.queryRows, reloadScopes,
    reloadQuery, List.filter_map, Function.comp_def, condition,
    List.map_map]
  rfl

theorem statement_rows (table : SysParamTable) :
    sysParamSchema.select table (statement sysCodes) =
      some ((table.rows.filter
        (fun row => Asked sysCodes row.id.sysCode)).map
          (fun row => [row])) := by
  rcases sysCodes with _ | _ | ⟨code, codes⟩
  · have all := select_all table
    simpa [statement, notEmpty, Asked] using all
  · have all := select_all table
    simpa [statement, notEmpty, Asked] using all
  · have coded := select_coded table (code :: codes)
    simpa [statement, notEmpty, Asked] using coded

/-! ## The answers -/

theorem copyAll_eq (entities : List SysParam) :
    copyAll entities = entities.map dto := by
  induction entities with
  | nil => rfl
  | cons entity entities induction => rw [copyAll, induction, List.map_cons]

/-- The copy keeps every field, so it tells the entities apart. -/
theorem dto_injective : Function.Injective dto := by
  rintro ⟨⟨sysCode, paramCode⟩, description, value, bytes⟩
    ⟨⟨otherSys, otherParam⟩, otherDescription, otherValue, otherBytes⟩ same
  simpa [dto, and_assoc] using same

theorem singletons_perm {entities rows : List SysParam}
    (perm : (entities.map (fun entity => [entity])).Perm
      (rows.map (fun row => [row]))) : entities.Perm rows := by
  have injective : Function.Injective (fun row : SysParam => [row]) := by
    intro row other same
    simpa using same
  exact (List.map_perm_map_iff injective).mp perm

theorem reload_iff (table : SysParamTable) (dtos : List SysParamDto) :
    Reload sysCodes table dtos ↔
      ∃ entities : List SysParam,
        entities.Perm (table.rows.filter
          (fun row => Asked sysCodes row.id.sysCode)) ∧
        dtos = entities.map dto := by
  simp only [Reload, statement_rows, Option.some.injEq, copyAll_eq]
  constructor
  · rintro ⟨entities, _, rfl, perm, rfl⟩
    exact ⟨entities, singletons_perm perm, rfl⟩
  · rintro ⟨entities, perm, rfl⟩
    exact ⟨entities, _, rfl, perm.map _, rfl⟩

theorem filter_asked_none (table : SysParamTable) :
    table.rows.filter (fun row => Asked none row.id.sysCode) = table.rows := by
  simp [Asked]

theorem dtoKeys_nodup {table : SysParamTable} {entities : List SysParam}
    (perm : entities.Perm (table.rows.filter
      (fun row => Asked sysCodes row.id.sysCode))) :
    ((entities.map dto).map
      (fun param => (param.sysCode, param.paramCode))).Nodup := by
  have ids : (entities.map SysParam.id).Nodup :=
    (perm.map SysParam.id).nodup_iff.mpr
      (table.nodup.sublist (List.filter_sublist.map SysParam.id))
  have keys : (entities.map dto).map
        (fun param => (param.sysCode, param.paramCode)) =
      (entities.map SysParam.id).map
        (fun id => (id.sysCode, id.paramCode)) := by
    simp [List.map_map, Function.comp_def, dto]
  have injective : Function.Injective
      (fun id : SysParamId => (id.sysCode, id.paramCode)) := by
    rintro ⟨sysCode, paramCode⟩ ⟨otherSys, otherParam⟩ same
    simpa using same
  rw [keys]
  exact ids.map injective

theorem dto_count {table : SysParamTable} {entities : List SysParam}
    (perm : entities.Perm (table.rows.filter
      (fun row => Asked sysCodes row.id.sysCode))) {row : SysParam}
    (member : row ∈ table.rows) :
    (entities.map dto).count (dto row) =
      if Asked sysCodes row.id.sysCode then 1 else 0 := by
  have rowsNodup : table.rows.Nodup := table.nodup.of_map
  rw [List.count_map_of_injective entities dto dto_injective, perm.count_eq]
  by_cases asked : Asked sysCodes row.id.sysCode
  · rw [if_pos asked, List.count_filter (by simpa using asked),
      List.count_eq_one_of_mem rowsNodup member]
  · rw [if_neg asked, List.count_eq_zero]
    intro found
    exact asked (of_decide_eq_true (List.mem_filter.mp found).2)

/-- A reload of some codes returns, in some order of the rows, what a reload
of all codes returns for them.  It returns each parameter asked for once, with
all its fields, no other parameter, and no two under one key. -/
theorem sysParams_reloaded (table : SysParamTable) :
    (∃ dtos, Reload sysCodes table dtos) ∧
    ∀ dtos,
      (Reload sysCodes table dtos ↔
        ∃ all, Reload none table all ∧
          dtos = all.filter (fun param => Asked sysCodes param.sysCode)) ∧
      (Reload sysCodes table dtos →
        (dtos.map (fun param => (param.sysCode, param.paramCode))).Nodup ∧
        (∀ row ∈ table.rows,
          dtos.count
              { sysCode := row.id.sysCode
                paramCode := row.id.paramCode
                description := row.description
                value := row.value
                bytes := row.bytes } =
            if Asked sysCodes row.id.sysCode then 1 else 0) ∧
        ∀ param ∈ dtos, ∃ row ∈ table.rows,
          Asked sysCodes row.id.sysCode ∧
            param.sysCode = row.id.sysCode ∧
            param.paramCode = row.id.paramCode ∧
            param.description = row.description ∧
            param.value = row.value ∧ param.bytes = row.bytes) := by
  have chosen : ∀ entities : List SysParam,
      (entities.map dto).filter
          (fun param => Asked sysCodes param.sysCode) =
        (entities.filter
          (fun row => Asked sysCodes row.id.sysCode)).map dto := by
    intro entities
    rw [List.filter_map]
    rfl
  simp only [reload_iff, filter_asked_none]
  refine ⟨⟨_, _, .refl _, rfl⟩, ?_⟩
  intro dtos
  refine ⟨⟨?_, ?_⟩, ?_⟩
  · rintro ⟨entities, perm, rfl⟩
    obtain ⟨order, orderPerm, rfl⟩ := exists_filter_of_perm perm
    exact ⟨_, ⟨order, orderPerm, rfl⟩, (chosen order).symm⟩
  · rintro ⟨_, ⟨order, orderPerm, rfl⟩, rfl⟩
    exact ⟨_, orderPerm.filter _, chosen order⟩
  · rintro ⟨entities, perm, rfl⟩
    refine ⟨dtoKeys_nodup sysCodes perm, ?_, ?_⟩
    · intro row member
      exact dto_count sysCodes perm member
    · intro param member
      obtain ⟨row, found, rfl⟩ := List.mem_map.mp member
      obtain ⟨stored, asked⟩ := List.mem_filter.mp (perm.mem_iff.mp found)
      exact ⟨row, stored, of_decide_eq_true asked, rfl, rfl, rfl, rfl, rfl⟩

def twoCodes : SysParamTable where
  rows :=
    [{ id := ⟨"MAIL", "HOST"⟩, description := some "d", value := some "v",
       bytes := none },
     { id := ⟨"FILE", "DATA"⟩, description := none, value := none,
       bytes := some [1, 2] }]
  nodup := by decide

/-- A reload of one stored code, an unknown one and null. -/
theorem sysParams_reloaded_coded :
    Reload (some [some "FILE", none, some "X"]) twoCodes
        [{ sysCode := "FILE", paramCode := "DATA", description := none,
           value := none, bytes := some [1, 2] }] ∧
      ∀ dtos, Reload (some [some "FILE", none, some "X"]) twoCodes dtos →
        dtos.count
            { sysCode := "MAIL", paramCode := "HOST", description := some "d",
              value := some "v", bytes := none } = 0 := by
  obtain ⟨_, reloads⟩ :=
    sysParams_reloaded (some [some "FILE", none, some "X"]) twoCodes
  have all := (reload_iff none twoCodes _).mpr ⟨_, .refl _, rfl⟩
  refine ⟨(reloads _).1.mpr ⟨_, all, by decide⟩, ?_⟩
  intro dtos reload
  exact ((reloads dtos).2 reload).2.1 _ List.mem_cons_self

end SysParamReloader

end SpringTemplate.Params
