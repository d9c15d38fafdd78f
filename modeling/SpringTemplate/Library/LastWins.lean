import Mathlib.Data.List.Induction

/-!
# The last one wins

Items are taken in some order and the last one that qualifies decides.  Over
all orders of the items, the outcome is fixed exactly when all qualifying
items agree.
-/

variable {α β : Type}

theorem getLast?_filter_moved (qualifies : α → Bool) (before after : List α)
    {item : α} (qualified : qualifies item = true) :
    ((before ++ after ++ [item]).filter qualifies).getLast? = some item := by
  rw [List.filter_append, List.filter_cons_of_pos qualified]
  simp

/-- The last qualifying item of every order has the same outcome if and only
if it is the outcome of every qualifying item. -/
theorem getLast?_filter_perm_iff {qualifies : α → Bool} {outcome : α → β}
    {items : List α} {expected : Option β} :
    (∀ order : List α, order.Perm items →
      ((order.filter qualifies).getLast?).map outcome = expected) ↔
    (∀ item ∈ items, qualifies item = true →
      expected = some (outcome item)) ∧
    ((∀ item ∈ items, qualifies item = false) → expected = none) := by
  constructor
  · intro fixed
    constructor
    · intro item member qualified
      obtain ⟨before, after, split⟩ := List.append_of_mem member
      have moved : (before ++ after ++ [item]).Perm items := by
        rw [split]
        exact List.perm_middle.trans (List.perm_append_singleton ..).symm
          |>.symm
      rw [← fixed _ moved, getLast?_filter_moved _ _ _ qualified]
      rfl
    · intro unqualified
      have none_ : items.filter qualifies = [] := by
        rw [List.filter_eq_nil_iff]
        intro item member
        simp [unqualified item member]
      rw [← fixed items (List.Perm.refl _), none_]
      rfl
  · intro ⟨agree, otherwise⟩ order perm
    cases last : (order.filter qualifies).getLast? with
    | none =>
        have none_ := List.getLast?_eq_none_iff.mp last
        rw [List.filter_eq_nil_iff] at none_
        rw [otherwise (fun item member => by
          simpa using none_ item (perm.mem_iff.mpr member))]
        rfl
    | some item =>
        have found := List.mem_filter.mp (List.mem_of_getLast? last)
        rw [agree item (perm.mem_iff.mp found.1) found.2]
        rfl

/-- What the last of the items that write something writes. -/
def lastOf (written : α → Option β) (items : List α) : Option β :=
  (items.filterMap written).getLast?

@[simp] theorem lastOf_nil (written : α → Option β) :
    lastOf written [] = none := rfl

theorem lastOf_concat (written : α → Option β) (items : List α) (item : α) :
    lastOf written (items ++ [item]) =
      (written item).or (lastOf written items) := by
  rw [lastOf, List.filterMap_append, List.getLast?_append]
  cases result : written item <;> simp [result, lastOf]

@[simp] theorem lastOf_singleton (written : α → Option β) (item : α) :
    lastOf written [item] = written item := by
  have single := lastOf_concat written [] item
  rwa [List.nil_append, lastOf_nil, Option.or_none] at single

theorem lastOf_cons (written : α → Option β) (item : α) (items : List α) :
    lastOf written (item :: items) =
      (lastOf written items).or (written item) := by
  rw [lastOf, List.filterMap_cons, lastOf]
  cases written item with
  | none => simp
  | some value => rw [List.getLast?_cons, Option.or_some]

/-- Items that write nothing do not count. -/
theorem lastOf_filter {written : α → Option β} {keep : α → Bool}
    (unwritten : ∀ item, keep item = false → written item = none)
    (items : List α) :
    lastOf written (items.filter keep) = lastOf written items := by
  rw [lastOf, List.filterMap_filter, lastOf]
  congr 2
  funext item
  cases kept : keep item with
  | true => simp
  | false => simp [unwritten item kept]

theorem lastOf_congr {written : α → Option β} {keep : α → Bool}
    {items others : List α}
    (unwritten : ∀ item, keep item = false → written item = none)
    (same : items.filter keep = others.filter keep) :
    lastOf written items = lastOf written others := by
  rw [← lastOf_filter unwritten items, same, lastOf_filter unwritten]

/-! ## Interleavings -/

section Interleavings

variable {ι : Type} [DecidableEq ι]

/-- The items of every thread occur in the order of the thread. -/
def Interleaves (threads : ι → List α) (run : List (ι × α)) : Prop :=
  ∀ i, (run.filter (fun item => item.1 = i)).map Prod.snd = threads i

variable {threads : ι → List α} {run other : List (ι × α)}
  {keep : α → Bool}

theorem Interleaves.mem (interleaves : Interleaves threads run)
    {item : ι × α} (member : item ∈ run) : item.2 ∈ threads item.1 := by
  rw [← interleaves item.1]
  exact List.mem_map_of_mem
    (List.mem_filter.mpr ⟨member, decide_eq_true rfl⟩)

/-- Items of interest that belong to one thread come in its order. -/
theorem Interleaves.filter_of_single (interleaves : Interleaves threads run)
    {i : ι} (single : ∀ j, ∀ item ∈ threads j, keep item = true → j = i) :
    (run.map Prod.snd).filter keep = (threads i).filter keep := by
  rw [← interleaves i, List.filter_map, List.filter_map, List.filter_filter]
  congr 1
  apply List.filter_congr
  intro item member
  cases kept : keep item.2 with
  | false => simp [kept]
  | true => simp [kept, single item.1 item.2 (interleaves.mem member) kept]

/-- Where no two threads have items of interest, these come in one order. -/
theorem Interleaves.filter_eq (interleaves : Interleaves threads run)
    (otherInterleaves : Interleaves threads other)
    (single : ∀ i, ∀ item ∈ threads i, keep item = true →
      ∀ j, ∀ later ∈ threads j, keep later = true → j = i) :
    (run.map Prod.snd).filter keep = (other.map Prod.snd).filter keep := by
  by_cases some_ : ∃ i, ∃ item ∈ threads i, keep item = true
  · obtain ⟨i, item, member, kept⟩ := some_
    rw [interleaves.filter_of_single (single i item member kept),
      otherInterleaves.filter_of_single (single i item member kept)]
  · have unkept : ∀ {items : List (ι × α)}, Interleaves threads items →
        (items.map Prod.snd).filter keep = [] := by
      intro items inOrder
      rw [List.filter_eq_nil_iff]
      intro item member kept
      obtain ⟨pair, found, rfl⟩ := List.mem_map.mp member
      exact some_ ⟨pair.1, pair.2, inOrder.mem found, kept⟩
    rw [unkept interleaves, unkept otherInterleaves]

end Interleavings
