import Mathlib.Data.List.Perm.Basic
import SpringTemplate.Library.Grouping

/-!
# Rows that are changed or left out

A query returns its rows in some order.  An order of changed rows comes from
an order of the rows, and an order of some of the rows extends to one of all
of them.  Grouping then takes the change or the choice along.  Two queries
that list the same rows in the same relative order list them alike.
-/

variable {α β κ ι : Type}

/-! ## Orders -/

/-- An order of the mapped rows is the image of an order of the rows. -/
theorem exists_map_of_perm {change : α → β} {items : List α} {rows : List β}
    (perm : rows.Perm (items.map change)) :
    ∃ order : List α, order.Perm items ∧ rows = order.map change := by
  have composed : Relation.Comp (· = List.map change ·) List.Perm rows
      items := by
    rw [List.eq_map_comp_perm]
    exact perm
  obtain ⟨order, image, ordered⟩ := composed
  exact ⟨order, ordered, image⟩

/-- An order of the chosen rows is what is chosen of an order of all rows. -/
theorem exists_filter_of_perm {keep : α → Bool} {items rows : List α}
    (perm : rows.Perm (items.filter keep)) :
    ∃ order : List α, order.Perm items ∧ rows = order.filter keep := by
  have kept : rows.filter keep = rows := by
    rw [List.filter_eq_self]
    intro row member
    exact (List.mem_filter.mp (perm.mem_iff.mp member)).2
  refine ⟨rows ++ items.filter (fun item => !keep item), ?_, ?_⟩
  · exact (perm.append_right _).trans (List.filter_append_perm keep items)
  · rw [List.filter_append, kept, List.filter_filter]
    simp

/-- No two rows come in one order here and in the other order there. -/
def SameOrder (here there : List α) : Prop :=
  ∀ first second, [first, second].Sublist here →
    [second, first].Sublist there → first = second

theorem SameOrder.mono {here there fewer others : List α}
    (same : SameOrder here there) (inHere : fewer.Sublist here)
    (inThere : others.Sublist there) : SameOrder fewer others :=
  fun first second earlier later =>
    same first second (earlier.trans inHere) (later.trans inThere)

/-- Different rows have one order. -/
theorem SameOrder.refl {rows : List α} (nodup : rows.Nodup) :
    SameOrder rows rows := by
  induction rows with
  | nil =>
      intro first second earlier _
      cases earlier
  | cons row rows induction =>
      obtain ⟨new, nodup⟩ := List.nodup_cons.mp nodup
      intro first second earlier later
      cases earlier with
      | cons _ earlier =>
          cases later with
          | cons _ later => exact induction nodup first second earlier later
          | cons_cons _ _ =>
              exact absurd (earlier.subset (by simp)) new
      | cons_cons _ earlier =>
          cases later with
          | cons _ later => exact absurd (later.subset (by simp)) new
          | cons_cons _ _ => rfl

theorem SameOrder.eq_of_perm {here there : List α}
    (same : SameOrder here there) (perm : here.Perm there) :
    here = there := by
  induction here generalizing there with
  | nil => exact perm.nil_eq
  | cons first rest induction =>
      cases there with
      | nil => exact absurd perm.eq_nil (List.cons_ne_nil _ _)
      | cons head others =>
          have heads : first = head := by
            -- Else each list has its own head before the other's.
            by_contra different
            have inRest := List.mem_of_ne_of_mem (Ne.symm different)
              (perm.mem_iff.mpr List.mem_cons_self)
            have inOthers := List.mem_of_ne_of_mem different
              (perm.mem_iff.mp List.mem_cons_self)
            exact different (same first head
              ((List.singleton_sublist.mpr inRest).cons_cons first)
              ((List.singleton_sublist.mpr inOthers).cons_cons head))
          subst heads
          rw [induction (same.mono (List.sublist_cons_self _ _)
            (List.sublist_cons_self _ _)) perm.cons_inv]

/-! ## First occurrences and groups -/

variable [DecidableEq κ] [DecidableEq ι] {key : α → κ} {subkey : α → ι}

theorem firstBy_map (change : β → α) (items : List β) :
    firstBy key (items.map change) =
      (firstBy (fun item => key (change item)) items).map change := by
  induction items using List.reverseRecOn with
  | nil => rfl
  | append_singleton items item induction =>
      rw [List.map_append, List.map_singleton, firstBy_concat, firstBy_concat,
        induction, List.map_map]
      simp only [Function.comp_def]
      split
      · rfl
      · rw [List.map_append, List.map_singleton]

/-- Items that share a key are kept together or left out together. -/
theorem firstBy_filter {keep : α → Bool} {items : List α}
    (together : ∀ one ∈ items, ∀ other ∈ items, key one = key other →
      keep one = keep other) :
    firstBy key (items.filter keep) = (firstBy key items).filter keep := by
  induction items using List.reverseRecOn with
  | nil => rfl
  | append_singleton items item induction =>
      have earlier := induction (fun one oneMember other otherMember =>
        together one (List.mem_append_left _ oneMember) other
          (List.mem_append_left _ otherMember))
      have last : item ∈ items ++ [item] :=
        List.mem_append_right _ (List.mem_singleton_self item)
      cases kept : keep item with
      | false =>
          rw [List.filter_append, List.filter_cons_of_neg (by simp [kept]),
            List.filter_nil, List.append_nil, earlier, firstBy_concat]
          split
          · rfl
          · rw [List.filter_append, List.filter_cons_of_neg (by simp [kept]),
              List.filter_nil, List.append_nil]
      | true =>
          rw [List.filter_append, List.filter_cons_of_pos kept,
            List.filter_nil]
          by_cases seen : key item ∈ items.map key
          · obtain ⟨other, member, same⟩ := List.mem_map.mp seen
            have otherKept : keep other = true := by
              rw [together other (List.mem_append_left _ member) item last
                same, kept]
            have stillSeen : key item ∈ (items.filter keep).map key := by
              rw [← same]
              exact List.mem_map_of_mem
                (List.mem_filter.mpr ⟨member, otherKept⟩)
            rw [firstBy_concat_of_seen stillSeen, firstBy_concat_of_seen seen,
              earlier]
          · have stillNew : key item ∉ (items.filter keep).map key :=
              fun member => seen
                ((List.filter_sublist.map key).subset member)
            rw [firstBy_concat_of_new stillNew, firstBy_concat_of_new seen,
              earlier, List.filter_append, List.filter_cons_of_pos kept,
              List.filter_nil]

theorem grouped_map (change : β → α) (items : List β) :
    grouped key subkey (items.map change) =
      (grouped (fun item => key (change item))
        (fun item => subkey (change item)) items).map
        (fun entry => (change entry.1, entry.2.map change)) := by
  simp only [grouped, firstBy_map, List.map_map, List.filter_map,
    Function.comp_def]

/-- Groups that are chosen by their keys, where a subkey decides the key. -/
theorem grouped_filter (keep : κ → Bool) {items : List α}
    (decides : ∀ one ∈ items, ∀ other ∈ items, subkey one = subkey other →
      key one = key other) :
    grouped key subkey (items.filter (fun item => keep (key item))) =
      (grouped key subkey items).filter (fun entry => keep (key entry.1)) := by
  have keys : firstBy key (items.filter (fun item => keep (key item))) =
      (firstBy key items).filter (fun item => keep (key item)) :=
    firstBy_filter (fun _ _ _ _ same => congrArg keep same)
  have subkeys : firstBy subkey (items.filter (fun item => keep (key item))) =
      (firstBy subkey items).filter (fun item => keep (key item)) :=
    firstBy_filter (fun one oneMember other otherMember same =>
      congrArg keep (decides one oneMember other otherMember same))
  rw [grouped, keys, subkeys, grouped, List.filter_map]
  apply List.map_congr_left
  intro first member
  have kept := (List.mem_filter.mp member).2
  simp only [Prod.mk.injEq, true_and, List.filter_filter]
  apply List.filter_congr
  intro item _
  by_cases same : key item = key first
  · simp [same, kept]
  · simp [same]
