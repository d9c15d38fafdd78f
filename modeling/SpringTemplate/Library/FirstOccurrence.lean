import Mathlib.Data.List.Nodup
import Mathlib.Data.List.Induction
import SpringTemplate.Library.OrderedMap

/-!
# First occurrences by key

`firstBy key items` keeps, of the items sharing a key, the one that comes
first, and leaves the kept items in their order.  The definition consumes the
list from the left, so every statement is proved by appending one item.
-/

variable {α κ : Type} [DecidableEq κ]

def keepFirst (key : α → κ) (kept : List α) (item : α) : List α :=
  if key item ∈ kept.map key then kept else kept ++ [item]

/-- The items whose key no earlier item has. -/
def firstBy (key : α → κ) (items : List α) : List α :=
  items.foldl (keepFirst key) []

@[simp] theorem firstBy_nil (key : α → κ) : firstBy key [] = [] := rfl

theorem firstBy_concat (key : α → κ) (items : List α) (item : α) :
    firstBy key (items ++ [item]) =
      if key item ∈ (firstBy key items).map key then firstBy key items
      else firstBy key items ++ [item] := by
  simp [firstBy, keepFirst]

theorem mem_map_firstBy (key : α → κ) (items : List α) (k : κ) :
    k ∈ (firstBy key items).map key ↔ k ∈ items.map key := by
  induction items using List.reverseRecOn with
  | nil => simp
  | append_singleton items item induction =>
      rw [firstBy_concat, List.map_append, List.mem_append, ← induction]
      split
      · rename_i seen
        constructor
        · exact .inl
        · rintro (old | new)
          · exact old
          · rw [List.map_singleton, List.mem_singleton] at new
            exact new ▸ seen
      · simp

theorem firstBy_concat_of_seen {key : α → κ} {items : List α} {item : α}
    (seen : key item ∈ items.map key) :
    firstBy key (items ++ [item]) = firstBy key items := by
  rw [firstBy_concat, if_pos ((mem_map_firstBy key items _).mpr seen)]

theorem firstBy_concat_of_new {key : α → κ} {items : List α} {item : α}
    (new : key item ∉ items.map key) :
    firstBy key (items ++ [item]) = firstBy key items ++ [item] := by
  rw [firstBy_concat,
    if_neg (fun seen => new ((mem_map_firstBy key items _).mp seen))]

theorem nodup_map_firstBy (key : α → κ) (items : List α) :
    ((firstBy key items).map key).Nodup := by
  induction items using List.reverseRecOn with
  | nil => simp
  | append_singleton items item induction =>
      rw [firstBy_concat]
      split
      · exact induction
      · rename_i new
        rw [List.map_append, List.map_singleton, List.nodup_append]
        refine ⟨induction, List.nodup_singleton _, ?_⟩
        intro old member other single
        rw [List.mem_singleton.mp single]
        intro equality
        exact new (equality ▸ member)

theorem mem_of_mem_firstBy {key : α → κ} {items : List α} {item : α}
    (member : item ∈ firstBy key items) : item ∈ items := by
  induction items using List.reverseRecOn with
  | nil => simp at member
  | append_singleton items last induction =>
      rw [firstBy_concat] at member
      split at member
      · exact List.mem_append_left _ (induction member)
      · rcases List.mem_append.mp member with old | new
        · exact List.mem_append_left _ (induction old)
        · exact List.mem_append_right _ new

/-- Items with pairwise different keys are all kept. -/
theorem firstBy_eq_self {key : α → κ} {items : List α}
    (nodup : (items.map key).Nodup) : firstBy key items = items := by
  induction items using List.reverseRecOn with
  | nil => rfl
  | append_singleton items item induction =>
      rw [List.map_append, List.map_singleton] at nodup
      have new : key item ∉ items.map key := by
        intro seen
        exact (List.nodup_append.mp nodup).2.2 _ seen _
          (List.mem_singleton_self _) rfl
      rw [firstBy_concat_of_new new,
        induction (List.nodup_append.mp nodup).1]

theorem firstBy_map_injective {ι : Type} [DecidableEq ι] {name : ι → κ}
    (injective : Function.Injective name) (items : List ι) :
    firstBy id (items.map name) = (firstBy id items).map name := by
  induction items using List.reverseRecOn with
  | nil => rfl
  | append_singleton items item induction =>
      rw [List.map_append, List.map_singleton]
      by_cases seen : item ∈ items
      · have mapped : id (name item) ∈ (items.map name).map id := by
          rw [List.map_id]
          exact List.mem_map_of_mem seen
        rw [firstBy_concat_of_seen mapped, induction,
          firstBy_concat_of_seen (by simpa using seen)]
      · have mapped : id (name item) ∉ (items.map name).map id := by
          rw [List.map_id]
          intro member
          exact seen (List.mem_map_of_injective injective |>.mp member)
        rw [firstBy_concat_of_new mapped, induction,
          firstBy_concat_of_new (by simpa using seen), List.map_append,
          List.map_singleton]

/-! ## The keys of a map filled in turn -/

theorem OrderedMap.keys_putAll_empty {ν : Type} (pairs : List (κ × ν)) :
    (OrderedMap.empty.putAll pairs).keys = firstBy id (pairs.map Prod.fst) := by
  induction pairs using List.reverseRecOn with
  | nil => rfl
  | append_singleton pairs pair induction =>
      rw [OrderedMap.putAll_concat, OrderedMap.keys_put, induction,
        List.map_append, List.map_singleton, firstBy_concat, List.map_id]
      rfl

/-- A map filled with the values of a function holds them. -/
theorem OrderedMap.get?_putAll_graph {ν : Type} {value : κ → ν}
    {keys : List κ} {key : κ} (member : key ∈ keys) :
    (OrderedMap.empty.putAll (keys.map (fun each => (each, value each)))).get?
      key = some (value key) := by
  induction keys using List.reverseRecOn with
  | nil => simp at member
  | append_singleton keys last induction =>
      rw [List.map_append, List.map_singleton, OrderedMap.putAll_concat,
        OrderedMap.get?_put]
      split
      · rename_i same
        rw [same]
      · rename_i other
        rcases List.mem_append.mp member with earlier | new
        · exact induction earlier
        · exact absurd (List.mem_singleton.mp new) other
