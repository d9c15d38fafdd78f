import SpringTemplate.Library.Substitution
import SpringTemplate.Message.Served
import SpringTemplate.Message.Words

/-!
# What `getText` answers

Once messages are implemented, the word of a code is what the Redis holds for
it in the language of the request, or the code itself.  `getText` replaces the
placeholders of this template one after another, each in the text as it has
become.
-/

namespace SpringTemplate.Message

open Environment

variable {Node : Type} {dataMapper : DataMapper Node} {charset : Charset}
  {redis : Redis} {requested code : Option String}

/-- The result of a call that reads the Redis only. -/
abbrev Answers {α : Type} (outcome : (call : Call) → Outcome call)
    (redis : Redis) (program : ServiceProgram α)
    (result : Except MessageException α) : Prop :=
  (environment noFiles).Yields (fun _ => outcome) redis program result

/-- A stored value as a word, or the code it was asked for. -/
def orCode (charset : Charset) (code : Option String) (value : Option Bytes) :
    Option String :=
  (value.map charset.decode).or code

section Words

variable (charset redis requested)

/-- The keys of the words of some codes in the language of the request. -/
def wordKeys (codes : List (Option String)) : List String :=
  codes.map (MessageServiceImpl.getKeyCode
    (MessageServiceImpl.getRequestLanguage requested))

/-- The word of a code in the language of the request. -/
def wordOf (code : Option String) : Option String :=
  orCode charset code (redis (MessageServiceImpl.getKeyCode
    (MessageServiceImpl.getRequestLanguage requested) code))

/-- The text a code stands for before its placeholders are replaced. -/
def templateOf : Option String → String
  | none => ""
  | some text => (wordOf charset redis requested (some text)).getD text

/-- The text that replaces the placeholder of an argument. -/
def argumentText (checkArgs : Bool) (arg : Option String) : String :=
  orNull (if checkArgs then wordOf charset redis requested arg else arg)

def argumentTexts (checkArgs : Bool) (args : Option (List (Option String))) :
    List String :=
  (args.getD []).map (argumentText charset redis requested checkArgs)

end Words

/-! ## The loops -/

section Loops

open MessageServiceImpl

theorem listWords_append (front back : List (Option String))
    (values : List (Option Bytes)) (same : values.length = back.length) :
    listWords charset (front ++ back) front.length values =
      .ok (List.zipWith (orCode charset) back values) := by
  induction values generalizing front back with
  | nil =>
      rw [List.length_eq_zero_iff.mp same.symm]
      rfl
  | cons value values induction =>
      cases back with
      | nil => simp at same
      | cons code back =>
          have later := induction (front ++ [code]) back
            (Nat.succ.inj same)
          rw [List.append_assoc, List.singleton_append, List.length_append,
            List.length_singleton] at later
          have here : codeAt (front ++ code :: back) front.length =
              .ok code := by
            simp [codeAt]
          cases value with
          | none =>
              simp [listWords, here, later, orCode, bind, Except.bind]
          | some bytes =>
              simp [listWords, later, orCode, bind, Except.bind]

theorem listWords_eq {codes : List (Option String)}
    {values : List (Option Bytes)} (same : values.length = codes.length) :
    listWords charset codes 0 values =
      .ok (List.zipWith (orCode charset) codes values) :=
  listWords_append [] codes values same

theorem replaceWords_append (front back words : List (Option String))
    (text : String) (same : words.length = back.length) :
    replaceWords (front ++ back) front.length words text =
      .ok (replaceArgs front.length
        (List.zipWith Option.or words back) text) := by
  induction words generalizing front back text with
  | nil =>
      rw [List.length_eq_zero_iff.mp same.symm]
      rfl
  | cons word words induction =>
      cases back with
      | nil => simp at same
      | cons code back =>
          have later := induction (front ++ [code]) back
          rw [List.append_assoc, List.singleton_append, List.length_append,
            List.length_singleton] at later
          have here : codeAt (front ++ code :: back) front.length =
              .ok code := by
            simp [codeAt]
          cases word with
          | none =>
              simp [replaceWords, here, later _ (Nat.succ.inj same),
                replaceArgs, bind, Except.bind]
          | some word =>
              simp [replaceWords, later _ (Nat.succ.inj same), replaceArgs,
                bind, Except.bind]

theorem replaceWords_eq {codes words : List (Option String)} (text : String)
    (same : words.length = codes.length) :
    replaceWords codes 0 words text =
      .ok (replaceArgs 0 (List.zipWith Option.or words codes) text) :=
  replaceWords_append [] codes words text same

end Loops

/-! ## The calls -/

/-- What `getList` makes of the answer of its command. -/
def batchWords (charset : Charset) (codes : List (Option String)) :
    Option (List (Option Bytes)) → List (Option String)
  | none => []
  | some values =>
      if values.length = codes.length then
        List.zipWith (orCode charset) codes values
      else []

/-- A word for each code, read with one command. -/
theorem batchWords_stored (codes : List (Option String)) :
    batchWords charset codes (some ((wordKeys requested codes).map redis)) =
      codes.map (wordOf charset redis requested) := by
  have same : ((wordKeys requested codes).map redis).length =
      codes.length := by
    simp [wordKeys]
  rw [batchWords, if_pos same, wordKeys, List.map_map,
    List.zipWith_map_right, List.zipWith_self]
  rfl

section Calls

open MessageServiceImpl

variable {outcome : (call : Call) → Outcome call} {text : String}
  {args codes : List (Option String)} {answer : Option (List (Option Bytes))}

theorem getWord_answers (gets : ∀ key, outcome (.get key) = .answered) :
    Answers outcome redis (getWord charset requested code)
      (.ok (templateOf charset redis requested code)) := by
  cases code with
  | none => exact .done _
  | some text =>
      have read : Answers outcome redis
          (send (.get (getKeyCode (getRequestLanguage requested)
            (some text)))) (.ok (redis (getKeyCode
              (getRequestLanguage requested) (some text)))) := by
        apply Yields.perform
        intro _
        rw [gets]
        rfl
      apply Yields.bind read
      rw [templateOf, wordOf]
      cases redis (getKeyCode (getRequestLanguage requested) (some text)) with
      | none => exact .done _
      | some bytes => exact .done _

theorem getList_answers
    (answers : environment noFiles redis
      (.multiGet (wordKeys requested (code :: codes)))
      (outcome (.multiGet (wordKeys requested (code :: codes)))) =
        (redis, .ok answer)) :
    Answers outcome redis
      ((implemented dataMapper).getList charset requested
        (some (code :: codes)))
      (.ok (batchWords charset (code :: codes) answer)) := by
  have flag : (implemented dataMapper).isMessageImplemented = true := rfl
  simp only [getList, flag, if_true]
  apply Yields.bind (Yields.perform (fun _ => answers))
  cases answer with
  | none => exact .done _
  | some values =>
      dsimp only [batchWords]
      split
      · rename_i same
        rw [listWords_eq same]
        exact .done _
      · exact .done _

/-- Words the list already holds are kept as they are. -/
theorem zipWith_or_batch (args : List (Option String))
    (values : List (Option Bytes)) :
    List.zipWith Option.or (List.zipWith (orCode charset) args values) args =
      List.zipWith (orCode charset) args values := by
  induction args generalizing values with
  | nil => rfl
  | cons arg args induction =>
      cases values with
      | nil => rfl
      | cons value values =>
          simp [induction, orCode, Option.or_assoc]

theorem getText_checked_answers
    (answers : environment noFiles redis
      (.multiGet (wordKeys requested (some text :: args)))
      (outcome (.multiGet (wordKeys requested (some text :: args)))) =
        (redis, .ok answer)) :
    Answers outcome redis
      ((implemented dataMapper).getText charset requested (some text) true
        (some args))
      (match batchWords charset (some text :: args) answer with
        | [] => .error .indexOutOfBounds
        | word :: words =>
            .ok (replaceArgs 0 words (word.getD text))) := by
  have flag : (implemented dataMapper).isMessageImplemented = true := rfl
  rw [getText, if_pos flag]
  simp only [if_true]
  apply Yields.bind (getList_answers answers)
  cases answer with
  | none => exact .done _
  | some values =>
      cases values with
      | nil => exact .done _
      | cons value values =>
          by_cases same : values.length = args.length
          · have length : (List.zipWith (orCode charset) args values).length =
                args.length := by
              simp [same]
            simp only [batchWords, List.length_cons, same, if_true,
              List.zipWith_cons_cons, length]
            rw [replaceWords_eq _ length, zipWith_or_batch]
            exact .done _
          · have different : ¬ (value :: values).length =
                (some text :: args).length := by
              simpa using same
            simp only [batchWords, different, if_false]
            exact .done _

theorem getText_unchecked_answers
    (gets : ∀ key, outcome (.get key) = .answered) :
    Answers outcome redis
      ((implemented dataMapper).getText charset requested (some text) false
        (some args))
      (.ok (replaceArgs 0 args
        (templateOf charset redis requested (some text)))) := by
  have flag : (implemented dataMapper).isMessageImplemented = true := rfl
  rw [getText, if_pos flag]
  simp only [Bool.false_eq_true, if_false]
  exact Yields.bind (getWord_answers gets) (.done _)

end Calls

end SpringTemplate.Message
