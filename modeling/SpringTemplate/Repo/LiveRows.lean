import SpringTemplate.Repo.SoftDelete

/-!
# What the overridden `findById` finds

The query of `findById` selects the live rows, whatever id is asked for.  So
the method finds the row asked for only when no other row is live, and an
update goes to the single live row.  Both are decided by the table a request
meets, and so for every request of a run.
-/

namespace SpringTemplate.Repo

open Hql

open ManualGenStrIdSoftDelRepo ManualGenStrIdSoftDelController

namespace SoftDelTable

variable (table : SoftDelTable)

def live : List SoftDelRow :=
  table.rows.filter (fun row => row.deletedOn = none)

/-- The live row with an id. -/
def liveRow (id : String) : Option SoftDelRow :=
  table.live.find? (fun row => row.id = id)

variable {table} {id : String}

theorem live_nodup : (table.live.map SoftDelRow.id).Nodup :=
  List.Nodup.sublist (List.filter_sublist.map _) table.nodup

theorem liveRow_of_mem {row : SoftDelRow} (member : row ∈ table.live) :
    table.liveRow row.id = some row := by
  rw [liveRow, ← List.head?_filter,
    KeyedTable.filter_key_of_member live_nodup member]
  rfl

theorem liveRow_eq_none_iff :
    table.liveRow id = none ↔ ∀ row ∈ table.live, row.id ≠ id := by
  simp [liveRow]

end SoftDelTable

/-! ## The query -/

def liveQuery : Query :=
  { select := [["e"]]
    source := ⟨"ManualGenStrIdSoftDel", "e", []⟩
    condition := some (.isNull (.path ["e", "deletedOn"])) }

theorem parse_findByIdText :
    parseQuery (SoftDeleteRepository.findByIdText "ManualGenStrIdSoftDel") =
      some liveQuery := by
  have text : SoftDeleteRepository.findByIdText "ManualGenStrIdSoftDel" =
      "select e from " ++ "ManualGenStrIdSoftDel" ++
        " e where e.deletedOn is null" := rfl
  have tokens : Hql.tokens ("select e from " ++ "ManualGenStrIdSoftDel" ++
      " e where e.deletedOn is null") =
      [.keyword .select, .name ["e"], .keyword .from,
        .name ["ManualGenStrIdSoftDel"], .name ["e"], .keyword .where,
        .name ["e", "deletedOn"], .keyword .is, .keyword .null] := by
    rw [Hql.tokens]
    simp only [String.toList_append,
      (String.toList_ofList : "select e from ".toList = _),
      (String.toList_ofList : "ManualGenStrIdSoftDel".toList = _),
      (String.toList_ofList : " e where e.deletedOn is null".toList = _)]
    rfl
  rw [text, parseQuery, tokens]
  rfl

theorem select_live (table : SoftDelTable) :
    softDelSchema.select table
        { text := SoftDeleteRepository.findByIdText "ManualGenStrIdSoftDel"
          bindings := [] } =
      some (table.live.map (fun row => [row])) := by
  have scopes : softDelSchema.scopes table liveQuery.source =
      table.rows.map (fun row => [("e", row)]) := rfl
  have condition : ∀ row : SoftDelRow,
      softDelSchema.Holds table [] liveQuery.condition [("e", row)] ↔
        row.deletedOn = none := by
    intro row
    have operand : softDelSchema.operand [] [("e", row)]
        (.path ["e", "deletedOn"]) = row.deletedOn.map .number := rfl
    simp [Schema.Holds, liveQuery, Schema.truth, operand]
  have bound : Bound liveQuery.placeholders ([] : Bindings Value) := by
    decide
  simp only [Schema.select, parse_findByIdText, Option.bind_eq_bind,
    Option.bind_some, bound, if_true, Schema.queryRows, scopes,
    List.filter_map, Function.comp_def, condition, List.map_map]
  rfl

theorem findById_eq (table : SoftDelTable) (id : String) :
    findById table id =
      match table.live with
      | [] => .ok none
      | [row] => .ok (some row)
      | _ => .error .incorrectResultSize := by
  rw [findById, select_live]
  rcases table.live with _ | ⟨row, _ | ⟨other, rest⟩⟩ <;> rfl

/-! ## Saving -/

section Saving

variable {crud : CrudMethods} {table : SoftDelTable}
  {entity : ManualGenStrIdSoftDel}

/-- Saving an entity leaves the rows with other ids alone. -/
theorem answerSaved_others (documented : crud.Documented) {id : String}
    (same : entity.id = some id) {row : SoftDelRow}
    (different : row.id ≠ id) :
    row ∈ (answerSaved crud table entity).table.rows ↔ row ∈ table.rows := by
  rw [answerSaved]
  cases stored : crud.save table entity with
  | error exception => rfl
  | ok result =>
      obtain ⟨saved, after⟩ := result
      apply documented.save_others stored
      rw [same]
      exact fun equal => different (Option.some.inj equal).symm

theorem answerSaved_answer {message : String} :
    (answerSaved crud table entity).answer ≠
      .error (.illegalArgument message) := by
  rw [answerSaved]
  cases crud.save table entity <;> simp

end Saving

/-! ## Requests that are answered right -/

/-- `byId` answers the live row with the id; `update` changes no other row,
and reports a missing row when no row with the id is live. -/
def Right (crud : CrudMethods) (info : EntityInfo) (table : SoftDelTable)
    (request : Request) : Prop :=
  match request with
  | .byId id =>
      (handle crud info table request).answer =
        .ok (.entity ((table.liveRow id).map SoftDelRow.entity))
  | .update id _ =>
      (∀ row : SoftDelRow, row.id ≠ id →
        (row ∈ (handle crud info table request).table.rows ↔
          row ∈ table.rows)) ∧
      (table.liveRow id = none →
        (handle crud info table request).answer =
            .error (.illegalArgument "Entity is not found") ∧
          (handle crud info table request).table = table)
  | _ => True

/-- No other row is live; an update may also meet others when its own row is
live. -/
def Aimed (table : SoftDelTable) : Request → Prop
  | .byId id => ∀ row ∈ table.live, row.id = id
  | .update id _ => table.live = [] ∨ ∃ row ∈ table.live, row.id = id
  | _ => True

instance (table : SoftDelTable) (request : Request) :
    Decidable (Aimed table request) :=
  match request with
  | .byId id => inferInstanceAs (Decidable (∀ row ∈ table.live, row.id = id))
  | .update id _ =>
      inferInstanceAs (Decidable (_ ∨ ∃ row ∈ table.live, row.id = id))
  | .create _ => .isTrue trivial
  | .delete _ => .isTrue trivial

section Requests

variable {crud : CrudMethods} {info : EntityInfo} {table : SoftDelTable}
  {id : String} {data : ManualGenStrIdSoftDel} {row other : SoftDelRow}
  {rest : List SoftDelRow}

theorem ids_ne_of_live (shape : table.live = row :: other :: rest) :
    row.id ≠ other.id := by
  have nodup := table.live_nodup
  rw [shape] at nodup
  intro same
  simp [same] at nodup

theorem byId_right_iff :
    Right crud info table (.byId id) ↔ Aimed table (.byId id) := by
  simp only [Right, Aimed, handle, byId, findById_eq]
  rcases shape : table.live with _ | ⟨row, _ | ⟨other, rest⟩⟩
  · have missing : table.liveRow id = none := by
      rw [SoftDelTable.liveRow, shape]
      rfl
    simp [missing, Except.map]
  · by_cases same : row.id = id
    · have found : table.liveRow id = some row := by
        rw [← same]
        exact SoftDelTable.liveRow_of_mem (shape ▸ List.mem_cons_self)
      simp [found, same, Except.map]
    · have missing : table.liveRow id = none := by
        rw [SoftDelTable.liveRow_eq_none_iff, shape]
        simpa using same
      simp [missing, same, Except.map]
  · constructor
    · intro right
      simp [Except.map] at right
    · intro aimed
      have first := aimed row (by simp)
      have second := aimed other (by simp)
      exact absurd (first.trans second.symm) (ids_ne_of_live shape)

/-- An update that meets one live row merges into that row. -/
theorem update_single (shape : table.live = [row]) :
    handle crud info table (.update id data) =
      if (info.merge data row.entity).1 then
        answerSaved crud table (info.merge data row.entity).2
      else
        ⟨.ok (.entity (some (info.merge data row.entity).2)), table⟩ := by
  simp only [handle, update, findById_eq, shape]

theorem update_single_others (documented : crud.Documented)
    (shape : table.live = [row]) (different : other.id ≠ row.id) :
    other ∈ (handle crud info table (.update id data)).table.rows ↔
      other ∈ table.rows := by
  rw [update_single shape]
  split
  · exact answerSaved_others documented (info.merge_id data row.entity)
      different
  · rfl

theorem update_single_answer (shape : table.live = [row])
    {message : String} :
    (handle crud info table (.update id data)).answer ≠
      .error (.illegalArgument message) := by
  rw [update_single shape]
  split
  · exact answerSaved_answer
  · simp

theorem update_none (shape : table.live = []) :
    handle crud info table (.update id data) =
      ⟨.error (.illegalArgument "Entity is not found"), table⟩ := by
  simp only [handle, update, findById_eq, shape]

theorem update_several (shape : table.live = row :: other :: rest) :
    handle crud info table (.update id data) =
      ⟨.error .incorrectResultSize, table⟩ := by
  simp only [handle, update, findById_eq, shape]

theorem update_right_iff (documented : crud.Documented) :
    Right crud info table (.update id data) ↔
      Aimed table (.update id data) := by
  constructor
  · intro ⟨_, reports⟩
    rcases shape : table.live with _ | ⟨row, _ | ⟨other, rest⟩⟩
    · exact .inl shape
    · by_contra unaimed
      have missing := SoftDelTable.liveRow_eq_none_iff.mpr
        (fun row member same => unaimed (.inr ⟨row, member, same⟩))
      exact update_single_answer shape (reports missing).1
    · by_contra unaimed
      have missing := SoftDelTable.liveRow_eq_none_iff.mpr
        (fun row member same => unaimed (.inr ⟨row, member, same⟩))
      have answer := (reports missing).1
      rw [update_several shape] at answer
      simp at answer
  · intro aimed
    rcases shape : table.live with _ | ⟨row, _ | ⟨other, rest⟩⟩
    · simp [Right, update_none shape]
    · obtain ⟨found, member, same⟩ := aimed.resolve_left (by simp [shape])
      have live := SoftDelTable.liveRow_of_mem member
      rw [same] at live
      rw [shape, List.mem_singleton] at member
      subst member
      refine ⟨?_, by simp [live]⟩
      intro row different
      rw [← same] at different
      exact update_single_others documented shape different
    · obtain ⟨found, member, same⟩ := aimed.resolve_left (by simp [shape])
      have live := SoftDelTable.liveRow_of_mem member
      rw [same] at live
      simp [Right, update_several shape, live]

/-- A request is answered right if and only if it is aimed. -/
theorem right_iff_aimed (documented : crud.Documented) {request : Request} :
    Right crud info table request ↔ Aimed table request := by
  cases request with
  | byId id => exact byId_right_iff
  | create data => exact Iff.rfl
  | update id data => exact update_right_iff documented
  | delete id => exact Iff.rfl

end Requests

/-- In a run every request is answered right if and only if every request is
aimed at the table it meets. -/
theorem steps_right_iff {crud : CrudMethods} (documented : crud.Documented)
    (info : EntityInfo) (table : SoftDelTable) (requests : List Request) :
    (∀ step ∈ steps crud info table requests,
        Right crud info step.1 step.2) ↔
      ∀ step ∈ steps crud info table requests, Aimed step.1 step.2 := by
  constructor
  · intro right step member
    exact (right_iff_aimed documented).mp (right step member)
  · intro aimed step member
    exact (right_iff_aimed documented).mpr (aimed step member)

/-! ## A repository -/

/-- The row of an entity, unless a column would be null that must not be. -/
def ManualGenStrIdSoftDel.row (entity : ManualGenStrIdSoftDel) :
    Option SoftDelRow := do
  let id ← entity.id
  let name ← entity.name
  let isActive ← entity.isActive
  some
    { id := id
      name := name
      description := entity.description
      isActive := isActive
      deletedOn := entity.deletedOn }

theorem id_of_row {entity : ManualGenStrIdSoftDel} {row : SoftDelRow}
    (stored : entity.row = some row) : entity.id = some row.id := by
  obtain ⟨id, name, description, isActive, deletedOn⟩ := entity
  cases id <;> cases name <;> cases isActive <;>
    simp [ManualGenStrIdSoftDel.row] at stored
  rw [← stored]

def SoftDelTable.save (table : SoftDelTable)
    (entity : ManualGenStrIdSoftDel) :
    Except DataAccessException (ManualGenStrIdSoftDel × SoftDelTable) :=
  match entity.row with
  | none => .error ⟨"not-null property references a null value"⟩
  | some row =>
      .ok (row.entity,
        { rows := KeyedTable.save SoftDelRow.id row table.rows
          nodup := KeyedTable.save_nodup table.nodup row })

theorem SoftDelTable.save_ok {table after : SoftDelTable}
    {entity saved : ManualGenStrIdSoftDel}
    (answered : table.save entity = .ok (saved, after)) :
    ∃ row, entity.row = some row ∧ saved = row.entity ∧
      after.rows = KeyedTable.save SoftDelRow.id row table.rows := by
  rw [SoftDelTable.save] at answered
  split at answered
  · cases answered
  · rename_i row stored
    cases answered
    exact ⟨row, stored, rfl, rfl⟩

/-- A repository that has its rows in a list. -/
def CrudMethods.listed : CrudMethods where
  save := SoftDelTable.save
  deleteById := fun table id =>
    .ok
      { rows := table.rows.filter (fun row => row.id ≠ id)
        nodup := List.Nodup.sublist (List.filter_sublist.map _) table.nodup }

theorem CrudMethods.listed_documented : listed.Documented where
  save_own := by
    intro table after entity saved answered
    obtain ⟨row, stored, rfl, rows⟩ := SoftDelTable.save_ok answered
    refine ⟨(id_of_row stored).symm, row, ?_, rfl⟩
    rw [rows]
    exact KeyedTable.mem_save_self row table.rows
  save_others := by
    intro table after entity saved answered row different
    obtain ⟨written, stored, _, rows⟩ := SoftDelTable.save_ok answered
    rw [id_of_row stored] at different
    rw [rows]
    exact KeyedTable.mem_save_of_ne
      (fun same => different (congrArg some same.symm))
  deleteById_rows := by
    intro table after id answered row
    cases answered
    simp

/-- A table with one live row. -/
def SoftDelTable.single (id : String) : SoftDelTable :=
  { rows := [⟨id, "name", none, 'Y', none⟩]
    nodup := List.nodup_singleton _ }

/-- A merge that takes every field but the id. -/
def EntityInfo.copying : EntityInfo :=
  { merge := fun data entity => (true, { data with id := entity.id })
    merge_id := fun _ _ => rfl }

/-- A second row is created as deleted, and the live row is read and
updated. -/
theorem steps_single_right :
    (∀ step ∈ steps .listed .copying (.single "a")
        [.create ⟨some "b", some "other", none, some 'Y', some 1⟩,
          .byId "a",
          .update "a" ⟨none, some "new", none, some 'N', none⟩],
      Right .listed .copying step.1 step.2) ∧
    (handle .listed .copying (.single "a")
        (.update "a" ⟨none, some "new", none, some 'N', none⟩)).table.rows =
      [⟨"a", "new", none, 'N', none⟩] := by
  refine ⟨(steps_right_iff CrudMethods.listed_documented _ _ _).mpr ?_, ?_⟩
  · decide
  · have single : (SoftDelTable.single "a").live =
        [⟨"a", "name", none, 'Y', none⟩] := rfl
    rw [update_single single]
    rfl

theorem steps_single_not_right :
    (¬ ∀ step ∈ steps .listed .copying (.single "a") [.byId "b"],
      Right .listed .copying step.1 step.2) ∧
    ¬ ∀ step ∈ steps .listed .copying (.single "a")
        [.update "b" ⟨none, some "other", none, some 'Y', none⟩],
      Right .listed .copying step.1 step.2 := by
  simp only [right_iff_aimed CrudMethods.listed_documented]
  decide

end SpringTemplate.Repo
