import Mathlib.Data.List.DropRight
import SpringTemplate.Library.JavaText

/-!
# Java's `split`

`String.split` drops the empty strings at the end.  For a list of items, each
of them trimmed and the blank ones left out, that makes no difference, nor
does it matter whether the whole text is trimmed before it is split.
-/

namespace JavaText

def splitChars (separator : Char) (chars : List Char) : List (List Char) :=
  if separator ∈ chars then
    (chars.splitOn separator).rdropWhile List.isEmpty
  else [chars]

/-- `String.split` at a single character. -/
def split (text : String) (separator : Char) : List String :=
  (splitChars separator text.toList).map String.ofList

def startsWith (text start : String) : Bool :=
  start.toList.isPrefixOf text.toList

/-- `String.substring`, from an index to the end. -/
def substring (text : String) (index : Nat) : String :=
  String.ofList (text.toList.drop index)

example : split ",a,,b,," ',' = ["", "a", "", "b"] := by decide

example : split ",," ',' = [] := by decide

/-! ## Trimming -/

theorem trimChars_eq (chars : List Char) :
    trimChars chars = (chars.dropWhile isTrimmed).rdropWhile isTrimmed := rfl

theorem trimChars_cons {char : Char} (white : isTrimmed char = true)
    (chars : List Char) : trimChars (char :: chars) = trimChars chars := by
  rw [trimChars_eq, trimChars_eq, List.dropWhile_cons_of_pos white]

theorem trimChars_concat {char : Char} (white : isTrimmed char = true)
    (chars : List Char) : trimChars (chars ++ [char]) = trimChars chars := by
  rw [trimChars_eq, trimChars_eq, List.dropWhile_append]
  split
  · rename_i empty
    rw [List.isEmpty_iff.mp empty, List.dropWhile_cons_of_pos white,
      List.dropWhile_nil]
  · exact List.rdropWhile_concat_pos _ _ _ white

theorem trimChars_pad_left {pad : List Char}
    (white : ∀ char ∈ pad, isTrimmed char = true) (chars : List Char) :
    trimChars (pad ++ chars) = trimChars chars := by
  induction pad with
  | nil => rfl
  | cons char pad induction =>
      rw [List.cons_append, trimChars_cons (white char List.mem_cons_self)]
      exact induction (fun other member =>
        white other (List.mem_cons_of_mem _ member))

theorem trimChars_pad_right {pad : List Char}
    (white : ∀ char ∈ pad, isTrimmed char = true) (chars : List Char) :
    trimChars (chars ++ pad) = trimChars chars := by
  induction pad using List.reverseRecOn with
  | nil => rw [List.append_nil]
  | append_singleton pad char induction =>
      rw [← List.append_assoc, trimChars_concat (white char (by simp))]
      exact induction (fun other member =>
        white other (List.mem_append_left _ member))

/-- Nothing is trimmed off a text whose ends are not white. -/
theorem trimChars_eq_self {chars : List Char}
    (first : ∀ char, chars.head? = some char → isTrimmed char = false)
    (last : ∀ char, chars.getLast? = some char → isTrimmed char = false) :
    trimChars chars = chars := by
  have front : chars.dropWhile isTrimmed = chars := by
    cases chars with
    | nil => rfl
    | cons char rest =>
        exact List.dropWhile_cons_of_neg (by simp [first char rfl])
  rw [trimChars_eq, front, List.rdropWhile_eq_self_iff]
  intro nonempty
  simp [last _ (List.getLast?_eq_getLast_of_ne_nil nonempty)]

theorem trimChars_eq_nil_iff {chars : List Char} :
    trimChars chars = [] ↔ ∀ char ∈ chars, isTrimmed char = true := by
  constructor
  · intro blank
    rw [trimChars_eq, List.rdropWhile_eq_nil_iff] at blank
    have dropped : chars.dropWhile isTrimmed = [] := by
      by_contra remains
      have solid := List.head_dropWhile_not isTrimmed remains
      rw [blank _ (List.head_mem remains)] at solid
      cases solid
    exact List.dropWhile_eq_nil_iff.mp dropped
  · intro white
    exact trimChars_pad_right white []

/-! ## Items -/

/-- The items of a list, trimmed and without the blank ones. -/
def trimmedItems (items : List (List Char)) : List (List Char) :=
  (items.map trimChars).filter (fun item => item ≠ [])

theorem trimmedItems_append (front back : List (List Char)) :
    trimmedItems (front ++ back) = trimmedItems front ++ trimmedItems back := by
  rw [trimmedItems, List.map_append, List.filter_append]
  rfl

theorem trimmedItems_rdropWhile (items : List (List Char)) :
    trimmedItems (items.rdropWhile List.isEmpty) = trimmedItems items := by
  induction items using List.reverseRecOn with
  | nil => rw [List.rdropWhile_nil]
  | append_singleton items item induction =>
      rw [List.rdropWhile_concat]
      split
      · rename_i empty
        have blank : trimmedItems [item] = [] := by
          rw [List.isEmpty_iff.mp empty]
          rfl
        rw [induction, trimmedItems_append, blank, List.append_nil]
      · rfl

theorem trimmedItems_splitChars (separator : Char) (chars : List Char) :
    trimmedItems (splitChars separator chars) =
      trimmedItems (chars.splitOn separator) := by
  rw [splitChars]
  split
  · exact trimmedItems_rdropWhile _
  · rename_i absent
    rw [List.splitOn_eq_singleton absent]

/-- One more character, not a separator, lengthens the last item. -/
theorem splitOn_concat {separator char : Char} (other : char ≠ separator)
    (chars : List Char) :
    ∃ items item, chars.splitOn separator = items ++ [item] ∧
      (chars ++ [char]).splitOn separator = items ++ [item ++ [char]] := by
  induction chars with
  | nil =>
      refine ⟨[], [], List.splitOn_nil separator, ?_⟩
      exact List.splitOn_eq_singleton (by simp [other.symm])
  | cons first rest induction =>
      obtain ⟨items, item, before, after⟩ := induction
      rw [List.cons_append, List.splitOn_cons_eq_if_modifyHead,
        List.splitOn_cons_eq_if_modifyHead, before, after]
      by_cases separates : first == separator
      · exact ⟨[] :: items, item, by simp [separates], by simp [separates]⟩
      · cases items with
        | nil => exact ⟨[], first :: item, by simp [separates],
            by simp [separates]⟩
        | cons head tail => exact ⟨(first :: head) :: tail, item,
            by simp [separates], by simp [separates]⟩

theorem trimmedItems_splitOn_cons {separator char : Char}
    (other : char ≠ separator) (white : isTrimmed char = true)
    (chars : List Char) :
    trimmedItems ((char :: chars).splitOn separator) =
      trimmedItems (chars.splitOn separator) := by
  rw [List.splitOn_cons_eq_if_modifyHead, if_neg (by simpa using other)]
  cases items : chars.splitOn separator with
  | nil => rfl
  | cons item rest =>
      simp only [trimmedItems, List.modifyHead_cons, List.map_cons,
        trimChars_cons white]

theorem trimmedItems_splitOn_concat {separator char : Char}
    (other : char ≠ separator) (white : isTrimmed char = true)
    (chars : List Char) :
    trimmedItems ((chars ++ [char]).splitOn separator) =
      trimmedItems (chars.splitOn separator) := by
  obtain ⟨items, item, before, after⟩ := splitOn_concat other chars
  have last : trimmedItems [item ++ [char]] = trimmedItems [item] := by
    simp only [trimmedItems, List.map_cons, trimChars_concat white,
      List.map_nil]
  rw [before, after, trimmedItems_append, trimmedItems_append, last]

/-- Trimming the whole text first changes no item. -/
theorem trimmedItems_splitOn_trimChars {separator : Char}
    (solid : isTrimmed separator = false) (chars : List Char) :
    trimmedItems ((trimChars chars).splitOn separator) =
      trimmedItems (chars.splitOn separator) := by
  have other : ∀ char, isTrimmed char = true → char ≠ separator := by
    intro char white same
    rw [same, solid] at white
    cases white
  have back : ∀ chars : List Char,
      trimmedItems ((chars.rdropWhile isTrimmed).splitOn separator) =
        trimmedItems (chars.splitOn separator) := by
    intro chars
    induction chars using List.reverseRecOn with
    | nil => rw [List.rdropWhile_nil]
    | append_singleton chars char induction =>
        rw [List.rdropWhile_concat]
        split
        · rename_i white
          rw [induction,
            trimmedItems_splitOn_concat (other char white) white]
        · rfl
  rw [trimChars_eq, back]
  induction chars with
  | nil => rfl
  | cons char chars induction =>
      rw [List.dropWhile_cons]
      split
      · rename_i white
        rw [induction, trimmedItems_splitOn_cons (other char white) white]
      · rfl

end JavaText
