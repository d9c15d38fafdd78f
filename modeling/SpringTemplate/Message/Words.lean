import SpringTemplate.Message.Service

/-!
# The words of the message service

`getText`, `getMap` and `getList` answer with the words stored for the codes
in the language of the request, and with the codes themselves where no word is
stored.  `getList` reads all words with one command, `getWord` one word.  A
null reference is `none`; appended to a string it reads `null`.

What `new String(bytes)` makes of bytes depends on the default charset of the
platform, which is a parameter.
-/

namespace SpringTemplate.Message

/-- The default charset of the platform. -/
structure Charset where
  decode : Bytes → String

/-- What appending a reference to a string appends. -/
def orNull (text : Option String) : String :=
  text.getD "null"

/-- The text that stands for argument `i` in a word. -/
def placeholder (i : Nat) : String :=
  "\x7b" ++ toString i ++ "\x7d"

namespace MessageServiceImpl

variable {Node : Type} (service : MessageServiceImpl Node) (charset : Charset)

def getKeyCode (language : String) (code : Option String) : String :=
  Keys.servicePrefix ++ "-language-" ++ language ++ "-" ++ orNull code

def getWord (requested code : Option String) : ServiceProgram String :=
  match code with
  | some text => do
      let language := getRequestLanguage requested
      let value ← send (.get (getKeyCode language code))
      match value with
      | some bytes => pure (charset.decode bytes)
      | none => pure text
  | none => pure ""

/-- `lcodes.get(i)`. -/
def codeAt (lcodes : List (Option String)) (i : Nat) :
    Except MessageException (Option String) :=
  match lcodes[i]? with
  | some code => .ok code
  | none => .error .indexOutOfBounds

/-- The loop of `getList` over the values, from the index `i` on. -/
def listWords (lcodes : List (Option String)) :
    Nat → List (Option Bytes) → Except MessageException (List (Option String))
  | _, [] => .ok []
  | i, value :: lvalues => do
      let word ← match value with
        | some bytes => .ok (some (charset.decode bytes))
        | none => codeAt lcodes i
      let list ← listWords lcodes (i + 1) lvalues
      .ok (word :: list)

def getList (requested : Option String)
    (codes : Option (List (Option String))) :
    ServiceProgram (List (Option String)) :=
  if service.isMessageImplemented then
    match codes with
    | none => pure []
    | some [] => pure []
    | some lcodes => do
        let language := getRequestLanguage requested
        let lkeys := lcodes.map (getKeyCode language)
        let lvalues ← send (.multiGet lkeys)
        match lvalues with
        | none => pure []
        | some lvalues =>
            if lvalues.length = lcodes.length then
              ofExcept (listWords charset lcodes 0 lvalues)
            else pure []
  else pure (codes.getD [])

def getMap (requested : Option String)
    (codes : Option (List (Option String))) :
    ServiceProgram (OrderedMap (Option String) (Option String)) :=
  match codes with
  | none => pure .empty
  | some codes => do
      let words ← service.getList charset requested (some codes)
      if codes.length = words.length then
        pure (OrderedMap.empty.putAll (codes.zip words))
      else pure (OrderedMap.empty.putAll (codes.zip codes))

/-- The loop of `getText` over the words of the arguments. -/
def replaceWords (codes : List (Option String)) :
    Nat → List (Option String) → String → Except MessageException String
  | _, [], text => .ok text
  | i, word :: words, text => do
      let word ← match word with
        | some word => .ok (some word)
        | none => codeAt codes i
      replaceWords codes (i + 1) words
        (JavaText.replace text (placeholder i) (orNull word))

/-- The loop of `getText` over the arguments themselves. -/
def replaceArgs : Nat → List (Option String) → String → String
  | _, [], text => text
  | i, arg :: args, text =>
      replaceArgs (i + 1) args
        (JavaText.replace text (placeholder i) (orNull arg))

def getText (requested code : Option String) (checkArgs : Bool)
    (args : Option (List (Option String))) : ServiceProgram String :=
  if service.isMessageImplemented then
    match code with
    | none => pure ""
    | some text =>
        if checkArgs then
          match args with
          | some args => do
              let words ← service.getList charset requested (some (code :: args))
              match words with
              | [] => ofExcept (.error .indexOutOfBounds)
              | word :: words =>
                  let text := word.getD text
                  if args.length = words.length then
                    ofExcept (replaceWords args 0 words text)
                  else pure text
          | none => getWord charset requested code
        else do
          let text ← getWord charset requested code
          match args with
          | some args => pure (replaceArgs 0 args text)
          | none => pure text
  else pure (code.getD "")

/-- `getText(code)`: no argument is given. -/
def getTextOfCode (requested code : Option String) : ServiceProgram String :=
  service.getText charset requested code false (some [])

end MessageServiceImpl

end SpringTemplate.Message
