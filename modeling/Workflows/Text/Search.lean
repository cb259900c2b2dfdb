/-
Searching, cutting and replacing in a text. A text is read as its list of characters; every
function here is a recursion on that list.
-/
import Workflows.Text.Classes

namespace Workflows.Text

/-! ## Blanks at the ends -/

/-- Without the characters of a class at its end. -/
def trimEndWith (isCut : Char → Bool) (cs : List Char) : List Char :=
  (cs.reverse.dropWhile isCut).reverse

/-- Without the characters of a class at both ends. -/
def trimWith (isCut : Char → Bool) (cs : List Char) : List Char :=
  trimEndWith isCut (cs.dropWhile isCut)

/-- Without the blanks at both ends. -/
def trimChars (cs : List Char) : List Char := trimWith isBlank cs

/-- A text without the blanks at both ends. -/
def trim (text : String) : String := String.ofList (trimChars text.toList)

/-! ## Occurrences -/

/-- A pattern occurs somewhere. -/
def occurs (pattern : List Char) : List Char → Bool
  | [] => pattern.isEmpty
  | c :: cs => pattern.isPrefixOf (c :: cs) || occurs pattern cs

/-- A text holds another one. -/
def holds (text pattern : String) : Bool := occurs pattern.toList text.toList

/-- A text begins with another one. -/
def beginsWith (text pattern : String) : Bool := pattern.toList.isPrefixOf text.toList

/-- What stands before and after the first occurrence of a pattern. -/
def splitFirst? (pattern : List Char) : List Char → Option (List Char × List Char)
  | [] => if pattern.isEmpty then some ([], []) else none
  | c :: cs =>
    match pattern.isPrefixOf? (c :: cs) with
    | some after => some ([], after)
    | none => (splitFirst? pattern cs).map fun (before, after) => (c :: before, after)

/-! ## Replacement -/

/-- Edits a text from left to right. At each place `edit` may take a number of characters, at
least one, and give what is written for them; the first `skip` characters belong to an edit that is
already written. -/
def editText (edit : List Char → Option (Nat × List Char)) : Nat → List Char → List Char
  | _, [] => []
  | skip + 1, _ :: cs => editText edit skip cs
  | 0, c :: cs =>
    match edit (c :: cs) with
    | some (width, written) => written ++ editText edit (width - 1) cs
    | none => c :: editText edit 0 cs

/-- Replaces every occurrence of a pattern, which is not empty, from left to right. -/
def replaceAll (pattern replacement : List Char) : List Char → List Char :=
  editText (fun cs => if pattern.isPrefixOf cs then some (pattern.length, replacement) else none) 0

/-! ## Pieces -/

/-- The piece after the last separator, or the whole if there is none. -/
def lastPiece (separator : Char) (cs : List Char) : List Char :=
  (cs.reverse.takeWhile (· != separator)).reverse

/-- Texts written one after another with a separator between them. -/
def joinWith (separator : String) : List String → String
  | [] => ""
  | [text] => text
  | text :: texts => text ++ separator ++ joinWith separator texts

end Workflows.Text
