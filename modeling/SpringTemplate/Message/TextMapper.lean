import SpringTemplate.Message.Service

/-!
# A JSON mapper for string literals

A concrete mapper that writes a document as a JSON string literal and a set
of keys as a JSON array of string literals, and reads exactly what it writes.
It shows that `DataMapper.Lawful` can be met.
-/

namespace SpringTemplate.Message

namespace TextMapper

def quoteMark : Char := Char.ofNat 34

def escapeMark : Char := Char.ofNat 92

def openMark : Char := Char.ofNat 91

def closeMark : Char := Char.ofNat 93

def comma : Char := Char.ofNat 44

/-- The characters of a literal after its opening quote. -/
def literal : List Char → List Char
  | [] => [quoteMark]
  | char :: rest =>
      if char = quoteMark ∨ char = escapeMark then
        escapeMark :: char :: literal rest
      else char :: literal rest

/-- Read a literal after its opening quote, with what follows it.  `escaped`
says that the last character was the escape mark. -/
def readLiteral : Bool → List Char → Option (List Char × List Char)
  | _, [] => none
  | true, char :: rest =>
      (readLiteral false rest).map (fun read => (char :: read.1, read.2))
  | false, char :: rest =>
      if char = quoteMark then some ([], rest)
      else if char = escapeMark then readLiteral true rest
      else
        (readLiteral false rest).map (fun read => (char :: read.1, read.2))

theorem readLiteral_literal (chars rest : List Char) :
    readLiteral false (literal chars ++ rest) = some (chars, rest) := by
  induction chars with
  | nil => simp [literal, readLiteral]
  | cons char chars induction =>
      have marks : escapeMark ≠ quoteMark := by decide
      by_cases special : char = quoteMark ∨ char = escapeMark
      · simp [literal, readLiteral, special, marks, induction]
      · have plain := not_or.mp special
        simp [literal, readLiteral, plain.1, plain.2, induction]

/-- The elements of an array after its opening bracket. -/
def elements : List (List Char) → List Char
  | [] => [closeMark]
  | [last] => quoteMark :: (literal last ++ [closeMark])
  | first :: rest => quoteMark :: (literal first ++ comma :: elements rest)

/-- Read at most `fuel` elements and the closing bracket. -/
def readElements : Nat → List Char → Option (List (List Char))
  | 0, _ => none
  | fuel + 1, mark :: chars =>
      if mark = closeMark then
        if chars = [] then some [] else none
      else if mark = quoteMark then
        match readLiteral false chars with
        | some (first, next :: rest) =>
            if next = comma then
              (readElements fuel rest).map (fun read => first :: read)
            else if next = closeMark ∧ rest = [] then some [first]
            else none
        | _ => none
      else none
  | _ + 1, [] => none

theorem readElements_elements (items : List (List Char)) {fuel : Nat}
    (enough : items.length < fuel) :
    readElements fuel (elements items) = some items := by
  have closing : quoteMark ≠ closeMark := by decide
  have separating : closeMark ≠ comma := by decide
  induction items generalizing fuel with
  | nil =>
      obtain ⟨fuel, rfl⟩ := Nat.exists_eq_succ_of_ne_zero
        (Nat.ne_of_gt enough)
      simp [elements, readElements]
  | cons first rest induction =>
      obtain ⟨fuel, rfl⟩ := Nat.exists_eq_succ_of_ne_zero
        (Nat.ne_of_gt (Nat.lt_of_le_of_lt (Nat.zero_le _) enough))
      cases rest with
      | nil =>
          simp [elements, readElements, closing, readLiteral_literal,
            separating]
      | cons second rest =>
          have shorter : (second :: rest).length < fuel := by
            simp only [List.length_cons] at enough ⊢
            omega
          simp [elements, readElements, closing, readLiteral_literal,
            induction shorter]

def readText (bytes : Bytes) : Except MessageException (List Char) :=
  match String.fromUTF8? bytes with
  | some text => .ok text.toList
  | none => .error .json

theorem fromUTF8_toUTF8 (text : String) :
    String.fromUTF8? text.toUTF8 = some text := by
  simp [String.fromUTF8?, String.toUTF8, text.isValidUTF8, String.fromUTF8]

theorem readText_toUTF8 (chars : List Char) :
    readText (String.ofList chars).toUTF8 = .ok chars := by
  rw [readText, fromUTF8_toUTF8]
  simp

end TextMapper

open TextMapper in
def textMapper : DataMapper String where
  readKeys bytes := do
    match ← readText bytes with
    | mark :: chars =>
        if mark = openMark then
          match readElements (chars.length + 1) chars with
          | some keys => .ok (keys.map String.ofList)
          | none => .error .json
        else .error .json
    | [] => .error .json
  writeKeys keys :=
    (String.ofList (openMark :: elements (keys.map String.toList))).toUTF8
  readNode bytes := do
    match ← readText bytes with
    | mark :: chars =>
        if mark = quoteMark then
          match readLiteral false chars with
          | some (text, []) => .ok (String.ofList text)
          | _ => .error .json
        else .error .json
    | [] => .error .json
  writeNode text :=
    (String.ofList (quoteMark :: literal text.toList)).toUTF8

namespace TextMapper

theorem length_le_elements (items : List (List Char)) :
    items.length ≤ (elements items).length := by
  induction items with
  | nil => simp [elements]
  | cons first rest induction =>
      cases rest with
      | nil => simp [elements]
      | cons second rest =>
          simp only [elements, List.length_cons, List.length_append]
            at induction ⊢
          omega

theorem readKeys_writeKeys (keys : List String) :
    textMapper.readKeys (textMapper.writeKeys keys) = .ok keys := by
  have enough : (keys.map String.toList).length <
      (elements (keys.map String.toList)).length + 1 :=
    Nat.lt_succ_of_le (length_le_elements _)
  simp only [textMapper, readText_toUTF8, bind, Except.bind, if_true,
    readElements_elements _ enough, List.map_map]
  congr 1
  induction keys with
  | nil => rfl
  | cons key keys induction => simp

theorem indexedKeys_writeKeys (keys : List String) :
    (MessageServiceImpl.mk textMapper false).indexedKeys
        (some (textMapper.writeKeys keys)) =
      .ok (keys.insert Keys.resourceKeys) := by
  simp [MessageServiceImpl.indexedKeys, readKeys_writeKeys, bind,
    Except.bind, pure, Except.pure]

theorem readNode_writeNode (text : String) :
    textMapper.readNode (textMapper.writeNode text) = .ok text := by
  have read := readLiteral_literal text.toList []
  rw [List.append_nil] at read
  simp only [textMapper, readText_toUTF8, bind, Except.bind, if_true, read,
    String.ofList_toList]

end TextMapper

theorem textMapper_lawful : textMapper.Lawful where
  readKeys_writeKeys keys :=
    ⟨keys, TextMapper.readKeys_writeKeys keys, fun _ => Iff.rfl⟩
  readNode_writeNode := TextMapper.readNode_writeNode

end SpringTemplate.Message
