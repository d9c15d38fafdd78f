import Mathlib.Data.List.Basic

/-!
# A fragment of HQL: syntax

Select and update statements with inner joins, `and`, `or`, `=`, `is null`,
`in` over a collection parameter and `in` over a subquery.  Parameters are
numbered placeholders.  Keywords are recognised in any case; names and paths
are kept as written.

The parser works on the tokens of the text.  Every recursion consumes a
token, so the number of tokens is fuel enough.
-/

namespace Hql

/-- The components of a dotted name. -/
abbrev Path := List String

inductive Operand where
  | path (path : Path)
  | parameter (position : Nat)
  | number (value : Nat)
  deriving DecidableEq, Repr

/-- An inner join along an association of an earlier label. -/
structure Join where
  association : Path
  label : String
  deriving DecidableEq, Repr

/-- The entity a statement ranges over.  Without an alias in the text, the
label is empty and paths start at the entity itself. -/
structure Source where
  entity : String
  label : String
  joins : List Join
  deriving DecidableEq, Repr

inductive Condition where
  | equal (left right : Operand)
  | isNull (operand : Operand)
  | member (operand : Operand) (position : Nat)
  | within (operand selected : Operand) (source : Source)
      (condition : Condition)
  | both (left right : Condition)
  | either (left right : Condition)
  deriving DecidableEq, Repr

structure Query where
  select : List Path
  source : Source
  condition : Option Condition
  deriving DecidableEq, Repr

structure Update where
  entity : String
  assignments : List (Path × Operand)
  condition : Option Condition
  deriving DecidableEq, Repr

/-! ## Tokens -/

inductive Keyword where
  | select
  | from
  | join
  | where
  | and
  | or
  | in
  | is
  | null
  | update
  | set
  deriving DecidableEq, Repr

inductive Token where
  | keyword (keyword : Keyword)
  | name (path : Path)
  | number (value : Nat)
  | symbol (char : Char)
  deriving DecidableEq, Repr

def keywordOf : List Char → Option Keyword
  | ['s', 'e', 'l', 'e', 'c', 't'] => some .select
  | ['f', 'r', 'o', 'm'] => some .from
  | ['j', 'o', 'i', 'n'] => some .join
  | ['w', 'h', 'e', 'r', 'e'] => some .where
  | ['a', 'n', 'd'] => some .and
  | ['o', 'r'] => some .or
  | ['i', 'n'] => some .in
  | ['i', 's'] => some .is
  | ['n', 'u', 'l', 'l'] => some .null
  | ['u', 'p', 'd', 'a', 't', 'e'] => some .update
  | ['s', 'e', 't'] => some .set
  | _ => none

/-- The components of a dotted word, when `part` has been read already. -/
def componentsFrom : List Char → List Char → Path
  | part, [] => [String.ofList part]
  | part, char :: rest =>
      if char = '.' then String.ofList part :: componentsFrom [] rest
      else componentsFrom (part ++ [char]) rest

def isWordChar (char : Char) : Bool :=
  char.isAlphanum || char = '.' || char = '_'

/-- A run of word characters: a number, a keyword or a name. -/
def wordTokens (chars : List Char) : List Token :=
  if chars.isEmpty then []
  else if chars.all Char.isDigit then
    [.number (chars.foldl (fun value char =>
      10 * value + (char.toNat - 48)) 0)]
  else
    match keywordOf (chars.map Char.toLower) with
    | some keyword => [.keyword keyword]
    | none => [.name (componentsFrom [] chars)]

/-- The tokens of a text, when `word` has been read already. -/
def tokensFrom : List Char → List Char → List Token
  | word, [] => wordTokens word
  | word, char :: rest =>
      if isWordChar char then tokensFrom (word ++ [char]) rest
      else if char = ' ' then wordTokens word ++ tokensFrom [] rest
      else wordTokens word ++ .symbol char :: tokensFrom [] rest

def tokens (text : String) : List Token :=
  tokensFrom [] text.toList

/-! ## Parsing -/

abbrev Parser (α : Type) := List Token → Option (α × List Token)

def keyword (expected : Keyword) : Parser Unit
  | .keyword found :: rest =>
      if found = expected then some ((), rest) else none
  | _ => none

def symbol (expected : Char) : Parser Unit
  | .symbol found :: rest =>
      if found = expected then some ((), rest) else none
  | _ => none

def path : Parser Path
  | .name path :: rest => some (path, rest)
  | _ => none

def name : Parser String
  | .name [name] :: rest => some (name, rest)
  | _ => none

def operand : Parser Operand
  | .symbol '?' :: .number position :: rest =>
      some (.parameter position, rest)
  | .number value :: rest => some (.number value, rest)
  | tokens => do
      let (path, tokens) ← path tokens
      some (.path path, tokens)

def joins : Nat → Parser (List Join)
  | 0, _ => none
  | fuel + 1, tokens =>
      match keyword .join tokens with
      | none => some ([], tokens)
      | some (_, tokens) => do
          let (association, tokens) ← path tokens
          let (label, tokens) ← name tokens
          let (rest, tokens) ← joins fuel tokens
          some (⟨association, label⟩ :: rest, tokens)

def source (fuel : Nat) : Parser Source
  | tokens => do
      let (_, tokens) ← keyword .from tokens
      let (entity, tokens) ← name tokens
      let (label, tokens) := (name tokens).getD ("", tokens)
      let (joins, tokens) ← joins fuel tokens
      some (⟨entity, label, joins⟩, tokens)

mutual

def disjunction : Nat → Parser Condition
  | 0, _ => none
  | fuel + 1, tokens => do
      let (left, tokens) ← conjunction fuel tokens
      match keyword .or tokens with
      | none => some (left, tokens)
      | some (_, tokens) => do
          let (right, tokens) ← disjunction fuel tokens
          some (.either left right, tokens)

def conjunction : Nat → Parser Condition
  | 0, _ => none
  | fuel + 1, tokens => do
      let (left, tokens) ← atom fuel tokens
      match keyword .and tokens with
      | none => some (left, tokens)
      | some (_, tokens) => do
          let (right, tokens) ← conjunction fuel tokens
          some (.both left right, tokens)

def atom : Nat → Parser Condition
  | 0, _ => none
  | fuel + 1, .symbol '(' :: tokens => do
      let (inner, tokens) ← disjunction fuel tokens
      let (_, tokens) ← symbol ')' tokens
      some (inner, tokens)
  | fuel + 1, tokens => do
      let (left, tokens) ← operand tokens
      match tokens with
      | .symbol '=' :: tokens => do
          let (right, tokens) ← operand tokens
          some (.equal left right, tokens)
      | tokens =>
          match keyword .is tokens with
          | some (_, tokens) => do
              let (_, tokens) ← keyword .null tokens
              some (.isNull left, tokens)
          | none => do
              let (_, tokens) ← keyword .in tokens
              let (_, tokens) ← symbol '(' tokens
              match tokens with
              | .symbol '?' :: .number position :: .symbol ')' :: tokens =>
                  some (.member left position, tokens)
              | tokens => do
                  let (_, tokens) ← keyword .select tokens
                  let (selected, tokens) ← operand tokens
                  let (source, tokens) ← source fuel tokens
                  let (_, tokens) ← keyword .where tokens
                  let (condition, tokens) ← disjunction fuel tokens
                  let (_, tokens) ← symbol ')' tokens
                  some (.within left selected source condition, tokens)

end

/-- An optional `where`, which ends the statement. -/
def condition (fuel : Nat) (tokens : List Token) :
    Option (Option Condition) :=
  match tokens with
  | [] => some none
  | tokens => do
      let (_, tokens) ← keyword .where tokens
      match disjunction fuel tokens with
      | some (condition, []) => some (some condition)
      | _ => none

def paths : Nat → Parser (List Path)
  | 0, _ => none
  | fuel + 1, tokens => do
      let (first, tokens) ← path tokens
      match symbol ',' tokens with
      | none => some ([first], tokens)
      | some (_, tokens) => do
          let (rest, tokens) ← paths fuel tokens
          some (first :: rest, tokens)

def assignments : Nat → Parser (List (Path × Operand))
  | 0, _ => none
  | fuel + 1, tokens => do
      let (target, tokens) ← path tokens
      let (_, tokens) ← symbol '=' tokens
      let (value, tokens) ← operand tokens
      match symbol ',' tokens with
      | none => some ([(target, value)], tokens)
      | some (_, tokens) => do
          let (rest, tokens) ← assignments fuel tokens
          some ((target, value) :: rest, tokens)

def queryOf (tokens : List Token) : Option Query := do
  let fuel := tokens.length
  let (select, tokens) ←
    match keyword .select tokens with
    | none => some ([], tokens)
    | some (_, tokens) => paths fuel tokens
  let (source, tokens) ← source fuel tokens
  let condition ← condition fuel tokens
  some ⟨select, source, condition⟩

def updateOf (tokens : List Token) : Option Update := do
  let fuel := tokens.length
  let (_, tokens) ← keyword .update tokens
  let (entity, tokens) ← name tokens
  let (_, tokens) ← keyword .set tokens
  let (assignments, tokens) ← assignments fuel tokens
  let condition ← condition fuel tokens
  some ⟨entity, assignments, condition⟩

def parseQuery (text : String) : Option Query :=
  queryOf (tokens text)

def parseUpdate (text : String) : Option Update :=
  updateOf (tokens text)

theorem tokens_ofList (chars : List Char) :
    tokens (String.ofList chars) = tokensFrom [] chars := by
  rw [tokens, String.toList_ofList]

theorem tokensFrom_blank (word left right : List Char) :
    tokensFrom word (left ++ ' ' :: right) =
      tokensFrom word left ++ tokensFrom [] right := by
  induction left generalizing word with
  | nil => rfl
  | cons char left induction =>
      simp only [List.cons_append, tokensFrom]
      split
      · exact induction _
      · split
        · rw [induction, List.append_assoc]
        · rw [induction, List.append_assoc, List.cons_append]

def EndsBlank (text : String) : Prop :=
  ∃ chars, text.toList = chars ++ [' ']

theorem EndsBlank.append {right : String} (blank : EndsBlank right)
    (left : String) : EndsBlank (left ++ right) := by
  obtain ⟨chars, last⟩ := blank
  exact ⟨left.toList ++ chars, by rw [String.toList_append, last,
    List.append_assoc]⟩

/-- A text that ends with a blank shares no token with what follows it. -/
theorem EndsBlank.tokens_append {left : String} (blank : EndsBlank left)
    (right : String) : tokens (left ++ right) = tokens left ++ tokens right := by
  obtain ⟨chars, last⟩ := blank
  have flushed := tokensFrom_blank [] chars []
  have passed := tokensFrom_blank [] chars right.toList
  simp only [tokensFrom, wordTokens, List.isEmpty_nil, if_true,
    List.append_nil] at flushed
  rw [tokens, tokens, String.toList_append, last, List.append_assoc,
    List.singleton_append, passed, flushed]
  rfl

/-! ## Placeholders -/

def Operand.placeholders : Operand → List Nat
  | .parameter position => [position]
  | _ => []

/-- The placeholders of a condition, in the order of the text. -/
def Condition.placeholders : Condition → List Nat
  | .equal left right => left.placeholders ++ right.placeholders
  | .isNull operand => operand.placeholders
  | .member operand position => operand.placeholders ++ [position]
  | .within operand selected _ condition =>
      operand.placeholders ++ selected.placeholders ++ condition.placeholders
  | .both left right => left.placeholders ++ right.placeholders
  | .either left right => left.placeholders ++ right.placeholders

/-- The paths a condition compares with a placeholder, each with the
position of the placeholder. -/
def Condition.compared : Condition → List (Path × Nat)
  | .equal (.path path) (.parameter position) => [(path, position)]
  | .equal _ _ => []
  | .isNull _ => []
  | .member (.path path) position => [(path, position)]
  | .member _ _ => []
  | .within _ _ _ condition => condition.compared
  | .both left right => left.compared ++ right.compared
  | .either left right => left.compared ++ right.compared

def Query.placeholders (query : Query) : List Nat :=
  (query.condition.map Condition.placeholders).getD []

def Query.compared (query : Query) : List (Path × Nat) :=
  (query.condition.map Condition.compared).getD []

def Update.placeholders (update : Update) : List Nat :=
  update.assignments.flatMap (fun assignment => assignment.2.placeholders) ++
    (update.condition.map Condition.placeholders).getD []

end Hql
