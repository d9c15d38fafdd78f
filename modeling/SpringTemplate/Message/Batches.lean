import SpringTemplate.Library.FirstOccurrence
import SpringTemplate.Message.Placeholders

/-!
# Batches of words

`getList` asks for all words with one command and answers with an empty list
when the answer does not fit the codes.  `getMap` falls back to the codes then;
`getText` takes its first word off the list all the same.
-/

namespace SpringTemplate.Message

open MessageServiceImpl

variable {Node : Type} {charset : Charset} {redis : Redis}
  {requested : Option String}

/-! ## Answers that do not fit -/

/-- `multiGet` gives this answer, whatever the Redis holds. -/
def multiGetAnswers (answer : Option (List (Option Bytes))) :
    (call : Call) → Outcome call
  | .multiGet _ => some (.ok answer)
  | call => answered call

/-- The words of a batch, or the codes when its answer does not fit them. -/
def wordsOrCodes (charset : Charset) (codes : List (Option String)) :
    Option (List (Option Bytes)) → List (Option String)
  | none => codes
  | some values =>
      if values.length = codes.length then
        List.zipWith (orCode charset) codes values
      else codes

/-- The text of a code whose words come in a batch. -/
def textOrCode (charset : Charset) (redis : Redis)
    (requested code : Option String) (args : Option (List (Option String)))
    (answer : Option (List (Option Bytes))) : String :=
  match code, args with
  | none, _ => ""
  | some text, none => templateOf charset redis requested (some text)
  | some text, some args =>
      let words := wordsOrCodes charset (some text :: args) answer
      successively (words.tail.map orNull) (words.head?.join.getD text)

/-- The answer has an entry for the code and for each argument. -/
def Fits (args : List (Option String)) :
    Option (List (Option Bytes)) → Prop
  | none => False
  | some values => values.length = args.length + 1

theorem batchWords_of_unfit {text : String} {args : List (Option String)}
    {answer : Option (List (Option Bytes))} (unfit : ¬ Fits args answer) :
    batchWords charset (some text :: args) answer = [] := by
  cases answer with
  | none => rfl
  | some values => exact if_neg unfit

section Answer

variable {dataMapper : DataMapper Node} {text : String}
  {args : List (Option String)} {answer : Option (List (Option Bytes))}

/-- The first word is taken off an empty list. -/
theorem getText_throws (unfit : ¬ Fits args answer) :
    Answers (multiGetAnswers answer) redis
      ((implemented dataMapper).getText charset requested (some text) true
        (some args)) (.error .indexOutOfBounds) := by
  have checked := @getText_checked_answers Node dataMapper charset redis
    requested (multiGetAnswers answer) text args answer rfl
  rw [batchWords_of_unfit unfit] at checked
  exact checked

theorem getText_of_fit (fits : Fits args answer) :
    Answers (multiGetAnswers answer) redis
      ((implemented dataMapper).getText charset requested (some text) true
        (some args))
      (.ok (textOrCode charset redis requested (some text) (some args)
        answer)) := by
  have checked := @getText_checked_answers Node dataMapper charset redis
    requested (multiGetAnswers answer) text args answer rfl
  cases answer with
  | none => exact fits.elim
  | some values =>
      have same : values.length = (some text :: args).length := fits
      cases values with
      | nil => simp at same
      | cons value values =>
          rw [batchWords, if_pos same, List.zipWith_cons_cons] at checked
          rw [textOrCode, wordsOrCodes, if_pos same, List.zipWith_cons_cons,
            List.tail_cons, ← replaceArgs_successively]
          exact checked

end Answer

/-- With the arguments translated, `getText` answers a text exactly when
`multiGet` has an entry for each code or is not asked, and then the right one. -/
theorem getText_answers_iff (dataMapper : DataMapper Node)
    (charset : Charset) (redis : Redis) (requested code : Option String)
    (args : Option (List (Option String)))
    (answer : Option (List (Option Bytes))) :
    ((∃ text, Answers (multiGetAnswers answer) redis
        ((implemented dataMapper).getText charset requested code true args)
        (.ok text)) ↔
      code = none ∨ args = none ∨ Fits (args.getD []) answer) ∧
    (Answers (multiGetAnswers answer) redis
        ((implemented dataMapper).getText charset requested code true args)
        (.ok (textOrCode charset redis requested code args answer)) ↔
      code = none ∨ args = none ∨ Fits (args.getD []) answer) := by
  have flag : (implemented dataMapper).isMessageImplemented = true := rfl
  have gets : ∀ key, multiGetAnswers answer (.get key) = .answered :=
    fun _ => rfl
  have right : code = none ∨ args = none ∨ Fits (args.getD []) answer →
      Answers (multiGetAnswers answer) redis
        ((implemented dataMapper).getText charset requested code true args)
        (.ok (textOrCode charset redis requested code args answer)) := by
    intro condition
    cases code with
    | none =>
        rw [getText, if_pos flag]
        exact .done _
    | some text =>
        cases args with
        | none =>
            rw [getText, if_pos flag]
            simp only [if_true]
            exact getWord_answers gets
        | some args =>
            rcases condition with noCode | noArgs | fits
            · cases noCode
            · cases noArgs
            · exact getText_of_fit fits
  have needed : (∃ text, Answers (multiGetAnswers answer) redis
        ((implemented dataMapper).getText charset requested code true args)
        (.ok text)) →
      code = none ∨ args = none ∨ Fits (args.getD []) answer := by
    intro answered
    obtain ⟨text, answers⟩ := answered
    cases code with
    | none => exact .inl rfl
    | some code =>
        cases args with
        | none => exact .inr (.inl rfl)
        | some args =>
            apply Or.inr
            apply Or.inr
            by_contra unfit
            have same := Environment.Yields.unique answers
              (getText_throws unfit)
            cases same
  exact ⟨⟨needed, fun condition => ⟨_, right condition⟩⟩,
    ⟨fun answers => needed ⟨_, answers⟩, right⟩⟩

theorem getText_throws_on_null :
    Answers (multiGetAnswers none) noWords
      ((implemented textMapper).getText latin1 none (some "a") true
        (some [])) (.error .indexOutOfBounds) ∧
    ¬ ∃ text, Answers (multiGetAnswers none) noWords
      ((implemented textMapper).getText latin1 none (some "a") true
        (some [])) (.ok text) := by
  have throws : Answers (multiGetAnswers none) noWords
      ((implemented textMapper).getText latin1 none (some "a") true
        (some [])) (.error .indexOutOfBounds) :=
    getText_throws (fun fits => fits)
  refine ⟨throws, ?_⟩
  intro answered
  obtain ⟨text, answers⟩ := answered
  have same := Environment.Yields.unique answers throws
  cases same

/-! ## One command or many -/

section Agreement

variable {service : MessageServiceImpl Node}

/-- The text of a code alone. -/
def textOfCode (service : MessageServiceImpl Node) (charset : Charset)
    (redis : Redis) (requested : Option String) (code : String) : String :=
  if service.isMessageImplemented then
    templateOf charset redis requested (some code)
  else code

theorem wordOf_some (code : String) :
    wordOf charset redis requested (some code) =
      some (templateOf charset redis requested (some code)) := by
  rw [templateOf, wordOf, orCode]
  cases redis (getKeyCode (getRequestLanguage requested) (some code)) with
  | none => rfl
  | some bytes => rfl

/-- Only its flag and its mapper tell a service apart. -/
theorem eq_implemented (flag : service.isMessageImplemented = true) :
    service = implemented service.dataMapper := by
  cases service
  cases flag
  rfl

theorem getTextOfCode_answers (code : String) :
    Answers answered redis
      (service.getTextOfCode charset requested (some code))
      (.ok (textOfCode service charset redis requested code)) := by
  rw [getTextOfCode, textOfCode]
  split
  · rename_i flag
    have answers := getText_answers service.dataMapper charset redis
      requested (some code) false (some [])
    rw [← eq_implemented flag] at answers
    rw [argumentTexts, Option.getD_some, List.map_nil, successively_nil]
      at answers
    exact answers
  · rename_i flag
    rw [getText, if_neg flag]
    exact .done _

theorem getList_texts (codes : List String) :
    Answers answered redis
      (service.getList charset requested (some (codes.map some)))
      (.ok (codes.map (fun code =>
        some (textOfCode service charset redis requested code)))) := by
  by_cases flag : service.isMessageImplemented = true
  · simp only [textOfCode, flag, if_true]
    cases codes with
    | nil =>
        rw [List.map_nil, getList, if_pos flag]
        exact .done _
    | cons code codes =>
        have answers := @getList_answers Node service.dataMapper charset
          redis requested (some code) answered (codes.map some) _ rfl
        rw [batchWords_stored, ← eq_implemented flag, ← List.map_cons,
          List.map_map] at answers
        have words : (wordOf charset redis requested ∘ some) =
            fun code => some (templateOf charset redis requested
              (some code)) :=
          funext wordOf_some
        rw [words] at answers
        exact answers
  · simp only [textOfCode, flag]
    unfold getList
    rw [if_neg flag]
    exact .done _

theorem getMap_texts (codes : List String) :
    Answers answered redis
      (service.getMap charset requested (some (codes.map some)))
      (.ok (OrderedMap.empty.putAll ((codes.map some).map (fun code =>
        (code, code.map (textOfCode service charset redis requested)))))) := by
  rw [getMap]
  apply Environment.Yields.bind (getList_texts codes)
  rw [if_pos (by simp), List.zip_map', List.map_map]
  exact .done _

theorem argumentTexts_translated (args : List String) :
    argumentTexts charset redis requested true (some (args.map some)) =
      argumentTexts charset redis requested false
        (some (args.map (fun arg =>
          some (templateOf charset redis requested (some arg))))) := by
  rw [argumentTexts, argumentTexts, Option.getD_some, Option.getD_some,
    List.map_map, List.map_map]
  apply List.map_congr_left
  intro arg _
  simp [argumentText, wordOf_some]

/-- Translating the arguments is the same as giving their texts. -/
theorem getText_translated (code : String) (args : List String) :
    ∃ text,
      Answers answered redis
        (service.getText charset requested (some code) true
          (some (args.map some))) (.ok text) ∧
      Answers answered redis
        (service.getText charset requested (some code) false
          (some (args.map (fun arg =>
            some (textOfCode service charset redis requested arg)))))
        (.ok text) := by
  by_cases flag : service.isMessageImplemented = true
  · have translated := getText_answers service.dataMapper charset redis
      requested (some code) true (some (args.map some))
    have texts := getText_answers service.dataMapper charset redis
      requested (some code) false (some (args.map (fun arg =>
        some (templateOf charset redis requested (some arg)))))
    rw [← argumentTexts_translated] at texts
    rw [← eq_implemented flag] at translated texts
    simp only [textOfCode, flag, if_true]
    exact ⟨_, translated, texts⟩
  · rw [getText, getText, if_neg flag, if_neg flag]
    exact ⟨code, .done _, .done _⟩

/-- The batch, the map and the single lookup agree on every code. -/
theorem lookups_agree (service : MessageServiceImpl Node) (charset : Charset)
    (redis : Redis) (requested : Option String) :
    ∃ texts : String → String,
      (∀ code, Answers answered redis
        (service.getTextOfCode charset requested (some code))
        (.ok (texts code))) ∧
      (∀ codes : List String, Answers answered redis
        (service.getList charset requested (some (codes.map some)))
        (.ok (codes.map (fun code => some (texts code))))) ∧
      (∀ codes : List String, ∃ map : OrderedMap (Option String) (Option String),
        Answers answered redis
          (service.getMap charset requested (some (codes.map some)))
          (.ok map) ∧
        map.keys = (firstBy id codes).map some ∧
        ∀ code ∈ codes, map.get? (some code) = some (some (texts code))) ∧
      ∀ (code : String) (args : List String), ∃ text,
        Answers answered redis
          (service.getText charset requested (some code) true
            (some (args.map some))) (.ok text) ∧
        Answers answered redis
          (service.getText charset requested (some code) false
            (some (args.map (fun arg => some (texts arg))))) (.ok text) := by
  refine ⟨textOfCode service charset redis requested,
    getTextOfCode_answers, getList_texts, ?_, getText_translated⟩
  intro codes
  refine ⟨_, getMap_texts codes, ?_, ?_⟩
  · rw [OrderedMap.keys_putAll_empty, List.map_map,
      ← firstBy_map_injective (fun _ _ => Option.some.inj)]
    exact congrArg (firstBy id) (List.map_id (codes.map some))
  · intro code member
    exact OrderedMap.get?_putAll_graph (List.mem_map_of_mem member)

end Agreement

end SpringTemplate.Message
