import SpringTemplate.Message.Texts
import SpringTemplate.Message.TextMapper

/-!
# Placeholders in a word

The placeholders are marks in the sense of the library: an opening brace, the
digits of a number and a closing brace.  `getText` replaces one after another,
so an argument that contains a later placeholder is scanned again.
-/

namespace SpringTemplate.Message

open MessageServiceImpl

/-! ## The marks -/

theorem digit_ne_brace {char : Char} (digit : char.isDigit = true) :
    char ≠ '\x7b' ∧ char ≠ '\x7d' := by
  constructor
  · rintro rfl
    simp at digit
  · rintro rfl
    simp at digit

theorem isDigit_of_mem {i : Nat} {char : Char}
    (member : char ∈ Nat.toDigits 10 i) : char.isDigit = true :=
  Nat.isDigit_of_mem_toDigits (by omega) (by omega) member

/-- Digits up to a closing brace are determined by the text they begin. -/
theorem digits_unique {one other rest more : List Char}
    (oneDigits : ∀ char ∈ one, char.isDigit = true)
    (otherDigits : ∀ char ∈ other, char.isDigit = true)
    (same : one ++ '\x7d' :: rest = other ++ '\x7d' :: more) :
    one = other := by
  induction one generalizing other with
  | nil =>
      cases other with
      | nil => rfl
      | cons char other =>
          have equal := (List.cons.inj same).1
          have digit := otherDigits char List.mem_cons_self
          exact absurd equal.symm (digit_ne_brace digit).2
  | cons char one induction =>
      have digit := oneDigits char List.mem_cons_self
      cases other with
      | nil => exact absurd (List.cons.inj same).1 (digit_ne_brace digit).2
      | cons first other =>
          obtain ⟨equal, tails⟩ := List.cons.inj same
          rw [equal, induction
            (fun char member => oneDigits char (List.mem_cons_of_mem _ member))
            (fun char member =>
              otherDigits char (List.mem_cons_of_mem _ member)) tails]

def braces : Marks where
  opening := '\x7b'
  body := fun i => Nat.toDigits 10 i ++ ['\x7d']
  opening_not_mem := by
    intro i member
    rcases List.mem_append.mp member with digits | last
    · exact (digit_ne_brace (isDigit_of_mem digits)).1 rfl
    · simp at last
  unique := by
    intro i j chars one other
    obtain ⟨rest, same⟩ := one
    obtain ⟨more, equal⟩ := other
    rw [← equal, List.append_assoc, List.append_assoc] at same
    have digits := digits_unique (fun _ => isDigit_of_mem)
      (fun _ => isDigit_of_mem) same
    rw [← Nat.ofDigitChars_ten_toDigits (n := i), digits,
      Nat.ofDigitChars_ten_toDigits]

theorem placeholder_toList (i : Nat) :
    (placeholder i).toList = braces.mark i := by
  rw [placeholder, String.toList_append, String.toList_append,
    Nat.toString_eq_repr, Nat.toList_repr]
  rfl

/-! ## One after another and all at once -/

/-- The characters of the text at an index; none beyond the end. -/
def charsAt (texts : List String) (i : Nat) : List Char :=
  (texts.getD i "").toList

/-- The texts replace the placeholders one after another. -/
def successively (texts : List String) (template : String) : String :=
  String.ofList
    (braces.replaceEach texts.length (charsAt texts) template.toList)

/-- The texts replace the placeholders all at once, so that no text that was
put in is looked at again. -/
def simultaneously (texts : List String) (template : String) : String :=
  String.ofList
    (braces.substitute texts.length (charsAt texts) template.toList)

/-- No text that was put in earlier brings in a placeholder: when its turn
comes, each occurs as often as in the template. -/
def Undisturbed (texts : List String) (template : String) : Prop :=
  braces.Undisturbed texts.length (charsAt texts) template.toList

theorem simultaneously_of_undisturbed {texts : List String}
    {template : String} (undisturbed : Undisturbed texts template) :
    successively texts template = simultaneously texts template := by
  rw [successively, simultaneously,
    Marks.replaceEach_of_undisturbed undisturbed]

theorem replaceArgs_concat (i : Nat) (args : List (Option String))
    (arg : Option String) (text : String) :
    replaceArgs i (args ++ [arg]) text =
      JavaText.replace (replaceArgs i args text) (placeholder (i + args.length))
        (orNull arg) := by
  induction args generalizing i text with
  | nil => rfl
  | cons first args induction =>
      have next : i + (first :: args).length = i + 1 + args.length := by
        rw [List.length_cons]
        omega
      rw [List.cons_append, replaceArgs, induction, next, replaceArgs]

theorem successively_nil (template : String) :
    successively [] template = template :=
  String.ofList_toList

/-- A further text replaces the next placeholder in the text so far. -/
theorem successively_concat (texts : List String) (text template : String) :
    successively (texts ++ [text]) template =
      JavaText.replace (successively texts template)
        (placeholder texts.length) text := by
  have last : charsAt (texts ++ [text]) texts.length = text.toList := by
    simp [charsAt]
  have earlier : (List.range texts.length).foldl (fun chars i =>
      JavaText.replaceChars (braces.mark i)
        (charsAt (texts ++ [text]) i) 0 chars) template.toList =
      (List.range texts.length).foldl (fun chars i =>
        JavaText.replaceChars (braces.mark i) (charsAt texts i) 0 chars)
        template.toList := by
    apply List.foldl_ext
    intro chars i member
    have inside : i < texts.length := List.mem_range.mp member
    simp [charsAt, List.getD, List.getElem?_append_left inside]
  rw [successively, List.length_append, List.length_singleton,
    Marks.replaceEach, List.range_succ, List.foldl_concat, earlier, last,
    JavaText.replace, placeholder_toList, successively,
    String.toList_ofList, Marks.replaceEach]

theorem replaceArgs_successively (args : List (Option String))
    (text : String) :
    replaceArgs 0 args text = successively (args.map orNull) text := by
  induction args using List.reverseRecOn with
  | nil => exact (successively_nil text).symm
  | append_singleton args arg induction =>
      rw [replaceArgs_concat, induction, List.map_append,
        List.map_singleton, successively_concat, List.length_map,
        Nat.zero_add]

theorem successively_empty (texts : List String) :
    successively texts "" = "" := by
  induction texts using List.reverseRecOn with
  | nil => exact successively_nil ""
  | append_singleton texts text induction =>
      rw [successively_concat, induction]
      rfl

/-! ## The text of a code -/

section Texts

variable {Node : Type} (dataMapper : DataMapper Node) (charset : Charset)
  (redis : Redis) (requested : Option String)

/-- What `getText` answers when each command is answered: the texts of the
arguments replace the placeholders of the template one after another. -/
theorem getText_answers (code : Option String) (checkArgs : Bool)
    (args : Option (List (Option String))) :
    Answers answered redis
      ((implemented dataMapper).getText charset requested code checkArgs args)
      (.ok (successively
        (argumentTexts charset redis requested checkArgs args)
        (templateOf charset redis requested code))) := by
  have flag : (implemented dataMapper).isMessageImplemented = true := rfl
  have gets : ∀ key, answered (.get key) = .answered := fun _ => rfl
  cases code with
  | none =>
      rw [templateOf, successively_empty, getText, if_pos flag]
      exact .done _
  | some text =>
      cases args with
      | none =>
          rw [argumentTexts, Option.getD_none, List.map_nil, successively_nil,
            getText,
            if_pos flag]
          cases checkArgs with
          | true =>
              rw [if_pos rfl]
              exact getWord_answers gets
          | false => exact Environment.Yields.bind (getWord_answers gets) (.done _)
      | some args =>
          cases checkArgs with
          | true =>
              have checked := @getText_checked_answers Node dataMapper charset
                redis requested answered text args _ rfl
              rw [batchWords_stored, List.map_cons] at checked
              dsimp only at checked
              rw [replaceArgs_successively, List.map_map] at checked
              exact checked
          | false =>
              have plain := @getText_unchecked_answers Node dataMapper charset
                redis requested answered text args gets
              rw [replaceArgs_successively] at plain
              exact plain

end Texts

/-- The placeholders are replaced one after another, and that is the
simultaneous substitution whenever the texts leave the later placeholders as
they are. -/
theorem getText_successively {Node : Type} (dataMapper : DataMapper Node)
    (charset : Charset) (redis : Redis) (requested code : Option String)
    (checkArgs : Bool) (args : Option (List (Option String))) :
    Answers answered redis
      ((implemented dataMapper).getText charset requested code checkArgs args)
      (.ok (successively
        (argumentTexts charset redis requested checkArgs args)
        (templateOf charset redis requested code))) ∧
    (Undisturbed (argumentTexts charset redis requested checkArgs args)
        (templateOf charset redis requested code) →
      Answers answered redis
        ((implemented dataMapper).getText charset requested code checkArgs
          args)
        (.ok (simultaneously
          (argumentTexts charset redis requested checkArgs args)
          (templateOf charset redis requested code)))) := by
  have answers := getText_answers dataMapper charset redis requested code
    checkArgs args
  refine ⟨answers, ?_⟩
  intro undisturbed
  rw [← simultaneously_of_undisturbed undisturbed]
  exact answers

/-! ## An argument that brings in a placeholder -/

/-- Each byte is the character of its number. -/
def latin1 : Charset where
  decode := fun bytes =>
    String.ofList (bytes.toList.map (fun byte => Char.ofNat byte.toNat))

def noWords : Redis := fun _ => none

/-- The code is its own template; the first argument is scanned again. -/
theorem getText_rescans :
    Answers answered noWords
      ((implemented textMapper).getText latin1 none
        (some "\x7b0\x7d \x7b1\x7d") false
        (some [some "\x7b1\x7d", some "x"])) (.ok "x x") ∧
    simultaneously
        (argumentTexts latin1 noWords none false
          (some [some "\x7b1\x7d", some "x"]))
        (templateOf latin1 noWords none (some "\x7b0\x7d \x7b1\x7d")) =
      "\x7b1\x7d x" ∧
    ¬ Answers answered noWords
      ((implemented textMapper).getText latin1 none
        (some "\x7b0\x7d \x7b1\x7d") false
        (some [some "\x7b1\x7d", some "x"])) (.ok "\x7b1\x7d x") := by
  have answers : Answers answered noWords
      ((implemented textMapper).getText latin1 none
        (some "\x7b0\x7d \x7b1\x7d") false
        (some [some "\x7b1\x7d", some "x"]))
      (.ok (successively ["\x7b1\x7d", "x"] "\x7b0\x7d \x7b1\x7d")) :=
    getText_answers _ _ _ _ _ false _
  have rescanned : successively ["\x7b1\x7d", "x"]
      "\x7b0\x7d \x7b1\x7d" = "x x" := by
    decide
  have whole : simultaneously ["\x7b1\x7d", "x"]
      "\x7b0\x7d \x7b1\x7d" = "\x7b1\x7d x" := by
    decide
  rw [rescanned] at answers
  refine ⟨answers, whole, ?_⟩
  intro other
  have same := Environment.Yields.unique answers other
  simp at same

end SpringTemplate.Message
