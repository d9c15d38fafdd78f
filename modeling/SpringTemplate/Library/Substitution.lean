import Mathlib.Data.List.Basic
import SpringTemplate.Library.JavaText

/-!
# Marks in a text

A family of marks that can be told apart wherever they stand: they share an
opening character that occurs nowhere else in them, and no two of them begin
the same text.  A template is cut into marks and other characters in one pass,
so `substitute` puts all texts in at once.  `replaceEach` replaces one mark
after another in the text as it has become.

The two agree unless a text that was put in earlier completes a mark whose
turn is still to come, which shows in the number of its occurrences.
-/

structure Marks where
  opening : Char
  body : Nat → List Char
  opening_not_mem : ∀ i, opening ∉ body i
  unique : ∀ {i j : Nat} {chars : List Char}, body i <+: chars →
    body j <+: chars → i = j

inductive Piece where
  | literal (char : Char)
  | mark (index : Nat)
  deriving DecidableEq, Repr

/-- How often `target` occurs in a text, overlaps included. -/
def occurrences (target : List Char) : List Char → Nat
  | [] => 0
  | char :: rest =>
      (if target.isPrefixOf (char :: rest) then 1 else 0) +
        occurrences target rest

namespace Marks

variable (marks : Marks)

def mark (i : Nat) : List Char :=
  marks.opening :: marks.body i

/-- The pieces of a template with the marks below `count`, in one pass from
the left.  `skip` counts the characters of a found mark still to be dropped. -/
def pieces (count : Nat) : Nat → List Char → List Piece
  | _, [] => []
  | skip + 1, _ :: rest => pieces count skip rest
  | 0, char :: rest =>
      match (List.range count).find?
        (fun i => (marks.mark i).isPrefixOf (char :: rest)) with
      | some i => .mark i :: pieces count (marks.body i).length rest
      | none => .literal char :: pieces count 0 rest

end Marks

def Piece.text (texts : Nat → List Char) : Piece → List Char
  | .literal char => [char]
  | .mark i => texts i

def render (texts : Nat → List Char) (pieces : List Piece) : List Char :=
  pieces.flatMap (Piece.text texts)

namespace Marks

variable (marks : Marks)

/-- Every mark below `count` is replaced by its text, all at once. -/
def substitute (count : Nat) (texts : Nat → List Char)
    (template : List Char) : List Char :=
  render texts (marks.pieces count 0 template)

/-- The marks below `count` are replaced one after another. -/
def replaceEach (count : Nat) (texts : Nat → List Char)
    (template : List Char) : List Char :=
  (List.range count).foldl (fun text i =>
    JavaText.replaceChars (marks.mark i) (texts i) 0 text) template

/-- The texts below `i`; every other mark stands for itself. -/
def upTo (texts : Nat → List Char) (i : Nat) : Nat → List Char :=
  fun j => if j < i then texts j else marks.mark j

/-- When the turn of a mark comes, it occurs as often as in the template. -/
def Undisturbed (count : Nat) (texts : Nat → List Char)
    (template : List Char) : Prop :=
  ∀ i < count, occurrences (marks.mark i)
      (marks.substitute count (marks.upTo texts i) template) =
    occurrences (marks.mark i) template

end Marks

/-! ## Occurrences -/

section Occurrences

variable {target replacement : List Char}

theorem occurrences_le_append (target block rest : List Char) :
    occurrences target rest ≤ occurrences target (block ++ rest) := by
  induction block with
  | nil => exact Nat.le_refl _
  | cons char block induction =>
      rw [List.cons_append, occurrences]
      omega

/-- A block without an occurrence is copied. -/
theorem replaceChars_append {block rest : List Char}
    (same : occurrences target (block ++ rest) = occurrences target rest) :
    JavaText.replaceChars target replacement 0 (block ++ rest) =
      block ++ JavaText.replaceChars target replacement 0 rest := by
  induction block with
  | nil => rfl
  | cons char block induction =>
      have bound := occurrences_le_append target block rest
      rw [List.cons_append, occurrences] at same
      split at same
      · omega
      · rename_i absent
        rw [List.cons_append, JavaText.replaceChars, if_neg absent,
          induction (by omega), List.cons_append]

theorem replaceChars_skip (block rest : List Char) :
    JavaText.replaceChars target replacement block.length (block ++ rest) =
      JavaText.replaceChars target replacement 0 rest := by
  induction block with
  | nil => rfl
  | cons char block induction =>
      rw [List.cons_append, List.length_cons, JavaText.replaceChars]
      exact induction

end Occurrences

namespace Marks

variable {marks : Marks} {i j : Nat}

theorem occurrences_of_closed {block rest : List Char}
    (closed : marks.opening ∉ block) :
    occurrences (marks.mark i) (block ++ rest) =
      occurrences (marks.mark i) rest := by
  induction block with
  | nil => rfl
  | cons char block induction =>
      rw [List.mem_cons, not_or] at closed
      have absent : ¬ (marks.mark i).isPrefixOf
          (char :: (block ++ rest)) = true := by
        simp [mark, closed.1]
      rw [List.cons_append, occurrences, if_neg absent, induction closed.2,
        Nat.zero_add]

theorem occurrences_mark (rest : List Char) :
    occurrences (marks.mark i) (marks.mark i ++ rest) =
      occurrences (marks.mark i) rest + 1 := by
  have found : (marks.mark i).isPrefixOf
      (marks.opening :: (marks.body i ++ rest)) = true := by
    simp [mark]
  have closed := marks.opening_not_mem i
  have whole : marks.mark i ++ rest =
      marks.opening :: (marks.body i ++ rest) := rfl
  rw [whole, occurrences, if_pos found, occurrences_of_closed closed,
    Nat.add_comm]

theorem replaceChars_mark (replacement rest : List Char) :
    JavaText.replaceChars (marks.mark i) replacement 0
        (marks.mark i ++ rest) =
      replacement ++
        JavaText.replaceChars (marks.mark i) replacement 0 rest := by
  have found : (marks.mark i).isPrefixOf
      (marks.opening :: (marks.body i ++ rest)) = true := by
    simp [mark]
  have whole : marks.mark i ++ rest =
      marks.opening :: (marks.body i ++ rest) := rfl
  have length : (marks.mark i).length - 1 = (marks.body i).length := by
    simp [mark]
  rw [whole, JavaText.replaceChars, if_pos found, length, replaceChars_skip]

/-! ## Pieces -/

section Pieces

variable {count : Nat} {texts : Nat → List Char} {pieces : List Piece}

@[simp] theorem render_nil : render texts [] = [] := rfl

@[simp] theorem render_cons (piece : Piece) (pieces : List Piece) :
    render texts (piece :: pieces) = piece.text texts ++ render texts pieces :=
  rfl

/-- A mark found at the front of a text is a piece of it. -/
theorem find?_mark {chars : List Char}
    (found : (List.range count).find?
      (fun i => (marks.mark i).isPrefixOf chars) = some i) :
    i < count ∧ ∃ rest, chars = marks.mark i ++ rest := by
  have member := List.mem_of_find?_eq_some found
  have begins := List.find?_some found
  obtain ⟨rest, same⟩ := List.isPrefixOf_iff_prefix.mp begins
  exact ⟨List.mem_range.mp member, rest, same.symm⟩

/-- At most one mark stands at the front of a text. -/
theorem mark_unique {chars : List Char} (one : marks.mark i <+: chars)
    (other : marks.mark j <+: chars) : i = j := by
  cases chars with
  | nil => simp [mark] at one
  | cons char rest =>
      rw [mark, List.cons_prefix_cons] at one other
      exact marks.unique one.2 other.2

theorem occurrences_other_mark (different : i ≠ j) (rest : List Char) :
    occurrences (marks.mark i) (marks.mark j ++ rest) =
      occurrences (marks.mark i) rest := by
  have absent : ¬ (marks.mark i).isPrefixOf
      (marks.opening :: (marks.body j ++ rest)) = true := by
    intro begins
    apply different
    have one := List.isPrefixOf_iff_prefix.mp begins
    exact mark_unique one (List.prefix_append (marks.mark j) rest)
  have whole : marks.mark j ++ rest =
      marks.opening :: (marks.body j ++ rest) := rfl
  rw [whole, occurrences, if_neg absent, Nat.zero_add,
    occurrences_of_closed (marks.opening_not_mem j)]

theorem render_mark_pieces (count skip : Nat) (chars : List Char) :
    render marks.mark (marks.pieces count skip chars) = chars.drop skip := by
  induction chars generalizing skip with
  | nil => simp [Marks.pieces]
  | cons char rest induction =>
      cases skip with
      | succ skip => exact induction skip
      | zero =>
          rw [Marks.pieces]
          split
          · rename_i i found
            obtain ⟨_, after, same⟩ := find?_mark found
            rw [render_cons, induction, Piece.text, List.drop_zero, same]
            have tail : rest = marks.body i ++ after :=
              (List.cons.inj same).2
            rw [tail, List.drop_left]
          · rw [render_cons, induction]
            rfl

theorem index_lt_of_mem_pieces {skip : Nat} {chars : List Char}
    (member : Piece.mark i ∈ marks.pieces count skip chars) : i < count := by
  induction chars generalizing skip with
  | nil => simp [Marks.pieces] at member
  | cons char rest induction =>
      cases skip with
      | succ skip => exact induction member
      | zero =>
          rw [Marks.pieces] at member
          split at member
          · rename_i j found
            rcases List.mem_cons.mp member with same | later
            · cases same
              exact (find?_mark found).1
            · exact induction later
          · rcases List.mem_cons.mp member with same | later
            · cases same
            · exact induction later

/-- The pieces miss no mark. -/
theorem occurrences_pieces (inside : i < count) (skip : Nat)
    (chars : List Char) :
    occurrences (marks.mark i) (chars.drop skip) =
      (marks.pieces count skip chars).count (.mark i) := by
  induction chars generalizing skip with
  | nil => simp [Marks.pieces, occurrences]
  | cons char rest induction =>
      cases skip with
      | succ skip => exact induction skip
      | zero =>
          rw [Marks.pieces]
          split
          · rename_i j found
            obtain ⟨_, after, same⟩ := find?_mark found
            have tail : rest = marks.body j ++ after :=
              (List.cons.inj same).2
            have later := induction (marks.body j).length
            have dropped : rest.drop (marks.body j).length = after := by
              rw [tail, List.drop_left]
            rw [dropped] at later
            rw [List.drop_zero, same, List.count_cons, ← later]
            by_cases equal : j = i
            · subst equal
              rw [occurrences_mark]
              simp
            · rw [occurrences_other_mark (Ne.symm equal)]
              simp [equal]
          · rename_i absent
            rw [List.find?_eq_none] at absent
            have none := absent i (List.mem_range.mpr inside)
            rw [List.drop_zero, occurrences, if_neg none, Nat.zero_add]
            have later := induction 0
            rw [List.drop_zero] at later
            simpa using later

/-- One replacement, where a mark occurs only as a piece, does just that. -/
theorem replaceChars_render (itself : texts i = marks.mark i)
    (replacement : List Char) :
    pieces.count (.mark i) ≤
        occurrences (marks.mark i) (render texts pieces) ∧
      (occurrences (marks.mark i) (render texts pieces) =
          pieces.count (.mark i) →
        JavaText.replaceChars (marks.mark i) replacement 0
            (render texts pieces) =
          render (Function.update texts i replacement) pieces) := by
  induction pieces with
  | nil => simp [occurrences, JavaText.replaceChars]
  | cons piece pieces induction =>
      obtain ⟨bound, replaced⟩ := induction
      by_cases own : piece = .mark i
      · subst own
        have text : Piece.text texts (.mark i) = marks.mark i := itself
        rw [render_cons, render_cons, text, occurrences_mark,
          replaceChars_mark, List.count_cons_self]
        refine ⟨Nat.succ_le_succ bound, ?_⟩
        intro same
        rw [replaced (Nat.succ.inj same)]
        simp [Piece.text]
      · have unchanged : piece.text (Function.update texts i replacement) =
            piece.text texts := by
          cases piece with
          | literal char => rfl
          | mark j =>
              have different : j ≠ i := by
                rintro rfl
                exact own rfl
              exact Function.update_of_ne different _ _
        have more := occurrences_le_append (marks.mark i)
          (piece.text texts) (render texts pieces)
        rw [render_cons, render_cons, unchanged, List.count_cons_of_ne own]
        refine ⟨Nat.le_trans bound more, ?_⟩
        intro same
        have rest : occurrences (marks.mark i) (render texts pieces) =
            pieces.count (.mark i) := by
          omega
        rw [replaceChars_append (same.trans rest.symm), replaced rest]

/-- Texts that agree on the marks of a template render it alike. -/
theorem render_congr {other : Nat → List Char}
    (agree : ∀ j, .mark j ∈ pieces → texts j = other j) :
    render texts pieces = render other pieces := by
  apply List.flatMap_congr
  intro piece member
  cases piece with
  | literal char => rfl
  | mark j => exact agree j member

end Pieces

theorem upTo_succ (texts : Nat → List Char) (i : Nat) :
    Function.update (marks.upTo texts i) i (texts i) =
      marks.upTo texts (i + 1) := by
  ext1 j
  by_cases same : j = i
  · subst same
    simp [upTo]
  · have bound : j < i + 1 ↔ j < i := by omega
    simp [upTo, same, bound]

/-- Replacing undisturbed marks one after another substitutes them. -/
theorem replaceEach_of_undisturbed {count : Nat} {texts : Nat → List Char}
    {template : List Char}
    (undisturbed : marks.Undisturbed count texts template) :
    marks.replaceEach count texts template =
      marks.substitute count texts template := by
  have passes : ∀ n ≤ count, (List.range n).foldl (fun text i =>
      JavaText.replaceChars (marks.mark i) (texts i) 0 text) template =
        marks.substitute count (marks.upTo texts n) template := by
    intro n bound
    induction n with
    | zero =>
        have start : render marks.mark (marks.pieces count 0 template) =
            template := render_mark_pieces count 0 template
        exact start.symm
    | succ n induction =>
        have inside : n < count := bound
        rw [List.range_succ, List.foldl_concat, induction (by omega),
          substitute, substitute, ← upTo_succ]
        apply (replaceChars_render _ _).2
        · have whole : occurrences (marks.mark n) template = _ :=
            occurrences_pieces inside 0 template
          exact (undisturbed n inside).trans whole
        · simp [upTo]
  rw [replaceEach, passes count (Nat.le_refl count)]
  apply render_congr
  intro j member
  simp [upTo, index_lt_of_mem_pieces member]

end Marks
