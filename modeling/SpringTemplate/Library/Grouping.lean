import SpringTemplate.Library.FirstOccurrence

/-!
# Grouping by two keys

`grouped key subkey items` has one entry for each key, in the order of first
occurrence, with the first item of every subkey that belongs to it.  The
three lemmas about one more item are the cases a loop that builds the groups
in place has to tell apart.
-/

variable {α κ ι : Type} [DecidableEq κ] [DecidableEq ι]

def grouped (key : α → κ) (subkey : α → ι) (items : List α) :
    List (α × List α) :=
  (firstBy key items).map (fun first =>
    (first,
      (firstBy subkey items).filter (fun item => key item = key first)))

section Grouped

variable {key : α → κ} {subkey : α → ι} {items : List α} {item : α}

variable (key subkey items) in
theorem grouped_keys :
    (grouped key subkey items).map (fun entry => key entry.1) =
      (firstBy key items).map key := by
  simp [grouped, Function.comp_def]

theorem grouped_concat_of_seen (seen : subkey item ∈ items.map subkey)
    (keySeen : key item ∈ items.map key) :
    grouped key subkey (items ++ [item]) = grouped key subkey items := by
  simp only [grouped, firstBy_concat_of_seen seen,
    firstBy_concat_of_seen keySeen]

theorem grouped_concat_of_new (new : subkey item ∉ items.map subkey)
    (keySeen : key item ∈ items.map key) :
    grouped key subkey (items ++ [item]) =
      (grouped key subkey items).map (fun entry =>
        if key entry.1 = key item then (entry.1, entry.2 ++ [item])
        else entry) := by
  simp only [grouped, firstBy_concat_of_new new,
    firstBy_concat_of_seen keySeen, List.map_map]
  apply List.map_congr_left
  intro first _
  by_cases same : key first = key item
  · simp [List.filter_append, same]
  · simp [List.filter_append, same, Ne.symm same]

theorem grouped_concat_of_new_key (new : subkey item ∉ items.map subkey)
    (keyNew : key item ∉ items.map key) :
    grouped key subkey (items ++ [item]) =
      grouped key subkey items ++ [(item, [item])] := by
  have empty : (firstBy subkey items).filter
      (fun other => key other = key item) = [] := by
    rw [List.filter_eq_nil_iff]
    intro other member same
    apply keyNew
    rw [← of_decide_eq_true same]
    exact List.mem_map_of_mem (mem_of_mem_firstBy member)
  simp only [grouped, firstBy_concat_of_new new,
    firstBy_concat_of_new keyNew, List.map_append, List.map_cons,
    List.map_nil, List.filter_append, empty]
  congr 1
  · apply List.map_congr_left
    intro first member
    have different : key item ≠ key first := by
      intro same
      apply keyNew
      rw [same]
      exact List.mem_map_of_mem (mem_of_mem_firstBy member)
    simp [different]
  · simp

/-- Every group has an item: its first one, when subkeys decide keys. -/
theorem grouped_ne_nil
    (decides : ∀ one ∈ items, ∀ other ∈ items, subkey one = subkey other →
      key one = key other) {entry : α × List α}
    (member : entry ∈ grouped key subkey items) : entry.2 ≠ [] := by
  obtain ⟨first, firstMember, rfl⟩ := List.mem_map.mp member
  have occurs := mem_of_mem_firstBy firstMember
  have kept := (mem_map_firstBy subkey items _).mpr
    (List.mem_map_of_mem occurs)
  obtain ⟨other, otherMember, same⟩ := List.mem_map.mp kept
  apply List.ne_nil_of_mem
  exact List.mem_filter.mpr ⟨otherMember, decide_eq_true
    (decides other (mem_of_mem_firstBy otherMember) first occurs same)⟩

variable (key subkey items) in
/-- Every item that is first of its subkey is in one group, once. -/
theorem grouped_flatMap_perm :
    ((grouped key subkey items).flatMap Prod.snd).Perm
      (firstBy subkey items) := by
  have firsts := (nodup_map_firstBy subkey items).of_map
  rw [List.perm_ext_iff_of_nodup _ firsts]
  · intro item
    simp only [grouped, List.mem_flatMap, List.mem_map]
    constructor
    · intro found
      obtain ⟨_, ⟨_, _, same⟩, member⟩ := found
      subst same
      exact (List.mem_filter.mp member).1
    · intro member
      have occurs := (mem_map_firstBy key items (key item)).mpr
        (List.mem_map_of_mem (mem_of_mem_firstBy member))
      obtain ⟨first, firstMember, same⟩ := List.mem_map.mp occurs
      refine ⟨_, ⟨first, firstMember, rfl⟩, ?_⟩
      exact List.mem_filter.mpr ⟨member, decide_eq_true same.symm⟩
  · rw [List.nodup_flatMap]
    constructor
    · intro entry member
      obtain ⟨first, _, rfl⟩ := List.mem_map.mp member
      exact firsts.filter _
    · rw [grouped, List.pairwise_map]
      have keys := nodup_map_firstBy key items
      rw [List.Nodup, List.pairwise_map] at keys
      apply keys.imp
      intro one other different item inOne inOther
      apply different
      rw [← of_decide_eq_true (List.mem_filter.mp inOne).2,
        ← of_decide_eq_true (List.mem_filter.mp inOther).2]

end Grouped

/-- Replacing the item at one position is a map, when the map changes no other
item. -/
theorem set_map_eq_map {β : Type} {items : List α} (before after : α → β)
    {position : Nat} {item : α} (found : items[position]? = some item)
    (others : ∀ other found, items[other]? = some found →
      other ≠ position → before found = after found) :
    (items.map before).set position (after item) = items.map after := by
  apply List.ext_getElem?
  intro other
  rw [List.getElem?_set, List.getElem?_map, List.length_map]
  obtain ⟨inside, _⟩ := List.getElem?_eq_some_iff.mp found
  by_cases same : position = other
  · subst same
    rw [if_pos rfl, if_pos inside, List.getElem?_map, found]
    rfl
  · rw [if_neg same, List.getElem?_map]
    cases occurs : items[other]? with
    | none => rfl
    | some value =>
        simp [others other value occurs (Ne.symm same)]
