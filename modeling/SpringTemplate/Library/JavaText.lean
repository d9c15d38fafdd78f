import Mathlib.Data.List.Basic

/-!
# Java's string operations

The operations of `java.lang.String` whose behaviour differs from the Lean
functions of the same purpose.  They are computed on lists of characters.
-/

namespace JavaText

/-- The characters `String.trim` removes: everything up to the space. -/
def isTrimmed (char : Char) : Bool :=
  char.toNat ≤ 32

def trimChars (chars : List Char) : List Char :=
  ((chars.dropWhile isTrimmed).reverse.dropWhile isTrimmed).reverse

/-- `String.trim`. -/
def trim (text : String) : String :=
  String.ofList (trimChars text.toList)

/-- Replace every occurrence of `target`, found from the left and not
overlapping.  `skip` counts the characters of a found occurrence that are
still to be dropped. -/
def replaceChars (target replacement : List Char) :
    Nat → List Char → List Char
  | _, [] => []
  | skip + 1, _ :: rest => replaceChars target replacement skip rest
  | 0, char :: rest =>
      if target.isPrefixOf (char :: rest) then
        replacement ++
          replaceChars target replacement (target.length - 1) rest
      else char :: replaceChars target replacement 0 rest

/-- `String.replace` for a target that is not empty. -/
def replace (text target replacement : String) : String :=
  String.ofList
    (replaceChars target.toList replacement.toList 0 text.toList)

example : trim " \t a b " = "a b" := by decide

example : replace "id.json.json" ".json" "" = "id" := by decide

end JavaText
