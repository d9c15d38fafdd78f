import Mathlib.Data.List.Nodup
import Mathlib.Data.List.Induction
import Mathlib.Logic.Function.Basic

/-!
# Insertion-ordered finite maps

A map is the list of its live entries, oldest key first, and carries the
proof that no key occurs twice.  Storing under a key that is present replaces
the value where the key stands; storing under a new key appends.  Iteration
order is therefore the order in which the keys were first stored.  A map whose
iteration order is unspecified is read through `get?` alone.
-/

structure OrderedMap (κ ν : Type) where
  entries : List (κ × ν)
  nodup : (entries.map Prod.fst).Nodup

namespace OrderedMap

variable {κ ν : Type}

section Entries

variable [DecidableEq κ]

/-- Replace the value stored under `key`, or append a new entry. -/
def putEntry (key : κ) (value : ν) : List (κ × ν) → List (κ × ν)
  | [] => [(key, value)]
  | entry :: rest =>
      if entry.1 = key then (key, value) :: rest
      else entry :: putEntry key value rest

theorem putEntry_keys (key : κ) (value : ν) (entries : List (κ × ν)) :
    (putEntry key value entries).map Prod.fst =
      if key ∈ entries.map Prod.fst then entries.map Prod.fst
      else entries.map Prod.fst ++ [key] := by
  induction entries with
  | nil => simp [putEntry]
  | cons entry rest induction =>
      by_cases same : entry.1 = key
      · simp [putEntry, same]
      · have different : key ≠ entry.1 := Ne.symm same
        simp only [putEntry, same, if_false, List.map_cons, induction,
          List.mem_cons, different, false_or]
        split <;> rfl

theorem putEntry_nodup {entries : List (κ × ν)}
    (nodup : (entries.map Prod.fst).Nodup) (key : κ) (value : ν) :
    ((putEntry key value entries).map Prod.fst).Nodup := by
  rw [putEntry_keys]
  split
  · exact nodup
  · rename_i absent
    exact List.nodup_append.mpr ⟨nodup, List.nodup_singleton key, by
      intro stored member other single
      rw [List.mem_singleton.mp single]
      intro equality
      exact absent (equality ▸ member)⟩

end Entries

def empty : OrderedMap κ ν :=
  { entries := []
    nodup := List.nodup_nil }

def keys (map : OrderedMap κ ν) : List κ :=
  map.entries.map Prod.fst

@[simp] theorem keys_empty : (empty : OrderedMap κ ν).keys = [] := rfl

variable [DecidableEq κ]

def put (map : OrderedMap κ ν) (key : κ) (value : ν) : OrderedMap κ ν :=
  { entries := putEntry key value map.entries
    nodup := putEntry_nodup map.nodup key value }

def get? (map : OrderedMap κ ν) (key : κ) : Option ν :=
  (map.entries.find? (fun entry => entry.1 = key)).map Prod.snd

/-- Store every pair in turn, so a later pair wins over an earlier one with
the same key. -/
def putAll (map : OrderedMap κ ν) (pairs : List (κ × ν)) : OrderedMap κ ν :=
  pairs.foldl (fun stored pair => stored.put pair.1 pair.2) map

@[simp] theorem get?_empty (key : κ) :
    (empty : OrderedMap κ ν).get? key = none := rfl

private theorem find?_putEntry (key : κ) (value : ν)
    (entries : List (κ × ν)) (other : κ) :
    ((putEntry key value entries).find?
        (fun entry => entry.1 = other)).map Prod.snd =
      if other = key then some value
      else (entries.find? (fun entry => entry.1 = other)).map Prod.snd := by
  induction entries with
  | nil =>
      by_cases same : other = key
      · simp [putEntry, same]
      · simp [putEntry, same, Ne.symm same]
  | cons entry rest induction =>
      by_cases replaced : entry.1 = key
      · by_cases same : other = key
        · simp [putEntry, replaced, same]
        · simp [putEntry, replaced, same, Ne.symm same]
      · by_cases found : entry.1 = other
        · have different : other ≠ key := by
            intro equality
            exact replaced (found.trans equality)
          simp [putEntry, found, different]
        · simpa [putEntry, replaced, found] using induction

@[simp] theorem get?_put (map : OrderedMap κ ν) (key : κ) (value : ν)
    (other : κ) :
    (map.put key value).get? other =
      if other = key then some value else map.get? other :=
  find?_putEntry key value map.entries other

@[simp] theorem keys_put (map : OrderedMap κ ν) (key : κ) (value : ν) :
    (map.put key value).keys =
      if key ∈ map.keys then map.keys else map.keys ++ [key] :=
  putEntry_keys key value map.entries

theorem get?_eq_none_iff (map : OrderedMap κ ν) (key : κ) :
    map.get? key = none ↔ key ∉ map.keys := by
  simp only [get?, keys, Option.map_eq_none_iff, List.find?_eq_none,
    decide_eq_true_eq, List.mem_map, not_exists, not_and]

theorem mem_keys_iff (map : OrderedMap κ ν) (key : κ) :
    key ∈ map.keys ↔ ∃ value, map.get? key = some value := by
  rw [← Option.ne_none_iff_exists']
  simp [get?_eq_none_iff]

@[simp] theorem putAll_nil (map : OrderedMap κ ν) : map.putAll [] = map := rfl

@[simp] theorem putAll_cons (map : OrderedMap κ ν) (pair : κ × ν)
    (pairs : List (κ × ν)) :
    map.putAll (pair :: pairs) = (map.put pair.1 pair.2).putAll pairs := rfl

@[simp] theorem putAll_concat (map : OrderedMap κ ν) (pairs : List (κ × ν))
    (pair : κ × ν) :
    map.putAll (pairs ++ [pair]) = (map.putAll pairs).put pair.1 pair.2 := by
  simp [putAll]

/-- After a run of stores a key holds the value of the last pair stored under
it, or what it held before. -/
theorem get?_putAll (map : OrderedMap κ ν) (pairs : List (κ × ν)) (key : κ) :
    (map.putAll pairs).get? key =
      (((pairs.filter (fun pair => pair.1 = key)).getLast?).map Prod.snd).or
        (map.get? key) := by
  induction pairs using List.reverseRecOn with
  | nil => simp
  | append_singleton pairs pair induction =>
      rw [putAll_concat, get?_put, List.filter_append]
      by_cases same : key = pair.1
      · subst same
        simp
      · simp [same, Ne.symm same, induction]

/-- Stores under pairwise different keys all remain. -/
theorem get?_putAll_iff_mem {pairs : List (κ × ν)}
    (nodup : (pairs.map Prod.fst).Nodup) {key : κ} {value : ν} :
    (empty.putAll pairs).get? key = some value ↔ (key, value) ∈ pairs := by
  induction pairs using List.reverseRecOn with
  | nil => simp
  | append_singleton pairs pair induction =>
      rw [List.map_append, List.map_singleton, List.nodup_append] at nodup
      obtain ⟨earlier, _, apart⟩ := nodup
      rw [putAll_concat, get?_put, List.mem_append, List.mem_singleton,
        ← induction earlier]
      by_cases same : key = pair.1
      · subst same
        have absent : (empty.putAll pairs).get? pair.1 ≠ some value := by
          intro found
          have member := List.mem_map_of_mem (f := Prod.fst)
            ((induction earlier).mp found)
          exact apart _ member _ (List.mem_singleton_self _) rfl
        simp [absent, Prod.ext_iff, eq_comm]
      · simp [same, Prod.ext_iff]

/-! ## Changed values -/

section MapValues

variable {μ : Type} (change : ν → μ)

omit [DecidableEq κ] in
theorem mapEntries_keys (entries : List (κ × ν)) :
    (entries.map (Prod.map id change)).map Prod.fst =
      entries.map Prod.fst := by
  rw [List.map_map]
  rfl

/-- The same keys in the same order, with changed values. -/
def mapValues (map : OrderedMap κ ν) : OrderedMap κ μ :=
  { entries := map.entries.map (Prod.map id change)
    nodup := by
      rw [mapEntries_keys]
      exact map.nodup }

theorem mapValues_putEntry (key : κ) (value : ν) (entries : List (κ × ν)) :
    (putEntry key value entries).map (Prod.map id change) =
      putEntry key (change value) (entries.map (Prod.map id change)) := by
  induction entries with
  | nil => rfl
  | cons entry rest induction =>
      by_cases same : entry.1 = key
      · simp [putEntry, same]
      · simp [putEntry, same, induction]

theorem mapValues_put (map : OrderedMap κ ν) (key : κ) (value : ν) :
    (map.put key value).mapValues change =
      (map.mapValues change).put key (change value) := by
  simp only [put, mapValues, mapValues_putEntry]

theorem mapValues_putAll (map : OrderedMap κ ν) (pairs : List (κ × ν)) :
    (map.putAll pairs).mapValues change =
      (map.mapValues change).putAll (pairs.map (Prod.map id change)) := by
  induction pairs using List.reverseRecOn with
  | nil => rfl
  | append_singleton pairs pair induction =>
      rw [putAll_concat, mapValues_put, induction, List.map_append,
        List.map_singleton, putAll_concat]
      rfl

end MapValues

/-! ## Positions by key -/

variable {π : Type}

/-- `index` says of every key where it is, when `keyAt` gives the key at a
position. -/
def Locates (index : OrderedMap κ π) (keyAt : π → Option κ) : Prop :=
  ∀ key position, index.get? key = some position ↔ keyAt position = some key

namespace Locates

variable {index : OrderedMap κ π} {keyAt : π → Option κ} {key : κ}

theorem absent (locates : index.Locates keyAt) (unknown : index.get? key = none)
    (position : π) : keyAt position ≠ some key := by
  intro found
  rw [(locates key position).mpr found] at unknown
  contradiction

theorem position_unique (locates : index.Locates keyAt) {one other : π}
    (atOne : keyAt one = some key) (atOther : keyAt other = some key) :
    one = other := by
  have found := (locates key one).mpr atOne
  rw [(locates key other).mpr atOther] at found
  exact (Option.some.inj found).symm

/-- A new key put at a vacant position. -/
theorem put [DecidableEq π] (locates : index.Locates keyAt) {position : π}
    (vacant : keyAt position = none) (unknown : index.get? key = none) :
    (index.put key position).Locates
      (Function.update keyAt position (some key)) := by
  intro other place
  rw [get?_put, Function.update_apply]
  by_cases same : other = key
  · subst same
    by_cases here : place = position
    · simp [here]
    · simp only [if_true, if_neg here, Option.some.injEq]
      constructor
      · intro there
        exact absurd there.symm here
      · intro found
        exact absurd found (locates.absent unknown place)
  · by_cases here : place = position
    · subst here
      simp [same, locates other place, vacant, Ne.symm same]
    · simp [same, here, locates other place]

end Locates

end OrderedMap
