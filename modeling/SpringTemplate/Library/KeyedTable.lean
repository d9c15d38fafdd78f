import Mathlib.Data.List.Nodup

/-!
# Tables with a unique key

A table is a list of rows whose keys are pairwise different.  A key that
occurs selects exactly one row.
-/

namespace KeyedTable

variable {Row Key : Type} {key : Row → Key} {rows : List Row}

theorem eq_of_key_eq (nodup : (rows.map key).Nodup) {row other : Row}
    (member : row ∈ rows) (otherMember : other ∈ rows)
    (same : key row = key other) : row = other :=
  List.inj_on_of_nodup_map nodup member otherMember same

variable [DecidableEq Key]

theorem filter_key_of_absent {wanted : Key} (absent : wanted ∉ rows.map key) :
    rows.filter (fun row => key row = wanted) = [] := by
  rw [List.filter_eq_nil_iff]
  intro row member same
  apply absent
  rw [← of_decide_eq_true same]
  exact List.mem_map_of_mem member

theorem filter_key_of_member (nodup : (rows.map key).Nodup) {row : Row}
    (member : row ∈ rows) :
    rows.filter (fun other => key other = key row) = [row] := by
  induction rows with
  | nil => simp at member
  | cons first rest induction =>
      rw [List.map_cons, List.nodup_cons] at nodup
      rcases List.mem_cons.mp member with rfl | later
      · rw [List.filter_cons_of_pos (by simp),
          filter_key_of_absent nodup.1]
      · have different : key first ≠ key row := by
          intro same
          apply nodup.1
          rw [same]
          exact List.mem_map_of_mem later
        rw [List.filter_cons_of_neg (by simpa using different),
          induction nodup.2 later]

theorem exists_filter_key (nodup : (rows.map key).Nodup) {wanted : Key}
    (present : wanted ∈ rows.map key) :
    ∃ row ∈ rows, key row = wanted ∧
      rows.filter (fun other => key other = wanted) = [row] := by
  obtain ⟨row, member, rfl⟩ := List.mem_map.mp present
  exact ⟨row, member, rfl, filter_key_of_member nodup member⟩

/-! ## Changes -/

/-- Replace the row with the key of `row`, or append `row`. -/
def save (key : Row → Key) (row : Row) (rows : List Row) : List Row :=
  if key row ∈ rows.map key then
    rows.map (fun other => if key other = key row then row else other)
  else rows ++ [row]

theorem save_keys (row : Row) (rows : List Row) :
    (save key row rows).map key =
      if key row ∈ rows.map key then rows.map key
      else rows.map key ++ [key row] := by
  rw [save]
  split
  · rw [List.map_map]
    apply List.map_congr_left
    intro other _
    by_cases same : key other = key row
    · simp [same]
    · simp [same]
  · rw [List.map_append, List.map_singleton]

theorem save_nodup (nodup : (rows.map key).Nodup) (row : Row) :
    ((save key row rows).map key).Nodup := by
  rw [save_keys]
  split
  · exact nodup
  · rename_i absent
    apply List.nodup_append.mpr
    refine ⟨nodup, List.nodup_singleton _, ?_⟩
    intro stored member other single same
    rw [List.mem_singleton.mp single] at same
    exact absent (same ▸ member)

theorem mem_save_self (row : Row) (rows : List Row) :
    row ∈ save key row rows := by
  rw [save]
  split
  · rename_i present
    obtain ⟨other, member, same⟩ := List.mem_map.mp present
    exact List.mem_map.mpr ⟨other, member, if_pos same⟩
  · exact List.mem_append_right _ (List.mem_singleton_self row)

/-- Saving a row touches no row with another key. -/
theorem mem_save_of_ne {row other : Row} (different : key other ≠ key row) :
    other ∈ save key row rows ↔ other ∈ rows := by
  rw [save]
  split
  · rw [List.mem_map]
    constructor
    · intro ⟨stored, member, same⟩
      split at same
      · rw [← same] at different
        contradiction
      · exact same ▸ member
    · intro member
      exact ⟨other, member, if_neg different⟩
  · rw [List.mem_append, List.mem_singleton]
    constructor
    · intro found
      rcases found with old | new
      · exact old
      · rw [new] at different
        contradiction
    · exact .inl

/-! ## Joins -/

/-- A join that gives each item one row, filtered, has the rows of the items
that are asked for. -/
theorem map_filter_flatMap {Item : Type} {items : List Item}
    {expand : Item → List Row} {back : Row → Item} {keep : Row → Bool}
    {asked : Item → Bool}
    (single : ∀ item ∈ items, ∃ row, expand item = [row] ∧
      back row = item ∧ keep row = asked item) :
    ((items.flatMap expand).filter keep).map back = items.filter asked := by
  induction items with
  | nil => rfl
  | cons item items induction =>
      obtain ⟨row, expanded, same, agrees⟩ := single item (by simp)
      have rest := induction
        (fun other member => single other (List.mem_cons_of_mem _ member))
      rw [List.flatMap_cons, expanded, List.singleton_append]
      cases wanted : asked item with
      | false =>
          rw [List.filter_cons_of_neg (by simp [agrees, wanted]),
            List.filter_cons_of_neg (by simp [wanted]), rest]
      | true =>
          rw [List.filter_cons_of_pos (agrees.trans wanted),
            List.filter_cons_of_pos wanted, List.map_cons, same, rest]

end KeyedTable
