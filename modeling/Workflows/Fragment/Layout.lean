/-
The layout of a fragment. The margin that all its lines share is removed, the blanks at its ends are
cut, and what remains is set four columns in, as the body of a function whose head is line 1; an
empty fragment is the statement that does nothing.
-/
import Workflows.Text.Search

namespace Workflows.Fragment

open Workflows.Text

/-! ## The common margin -/

/-- What a margin is made of. -/
def isMargin (c : Char) : Bool := c = ' ' || c = '\t'

/-- The longest beginning that two texts share. -/
def commonStart : List Char → List Char → List Char
  | a :: as, b :: bs => if a = b then a :: commonStart as bs else []
  | _, _ => []

/-- The margin that all lines share, apart from lines without text. -/
def commonMargin (lines : List (List Char)) : List Char :=
  match (lines.filter (!·.isEmpty)).map (·.takeWhile isMargin) with
  | [] => []
  | margin :: margins => margins.foldl commonStart margin

/-- The text without the common margin of its lines; lines of margin only are emptied. -/
def dedent (cs : List Char) : List Char :=
  let lines := (cs.splitOn '\n').map fun line => if line.all isMargin then [] else line
  let width := (commonMargin lines).length
  List.intercalate ['\n'] (lines.map (·.drop width))

/-! ## Setting in -/

/-- A character that ends a line. -/
def isLineBreak (c : Char) : Bool :=
  let code := c.toNat
  (10 ≤ code && code ≤ 13) || (0x1C ≤ code && code ≤ 0x1E) || code == 0x85 || code == 0x2028 ||
    code == 0x2029

/-- The lines of a text, each with its end. -/
def linesWithEnds : List Char → List (List Char)
  | [] => []
  | '\r' :: '\n' :: cs => ['\r', '\n'] :: linesWithEnds cs
  | c :: cs =>
    if isLineBreak c then [c] :: linesWithEnds cs
    else
      match linesWithEnds cs with
      | [] => [[c]]
      | line :: lines => (c :: line) :: lines

/-- Every line that is not blank, four columns in. -/
def setIn (cs : List Char) : List Char :=
  (linesWithEnds cs).flatMap fun line =>
    if line.all isBlank then line else List.replicate 4 ' ' ++ line

/-- Line feeds for carriage returns, whether a line feed follows them or not. -/
def unifyBreaks : List Char → List Char
  | [] => []
  | '\r' :: '\n' :: cs => '\n' :: unifyBreaks cs
  | c :: cs => (if c = '\r' then '\n' else c) :: unifyBreaks cs

/-- The lines of the function body that a fragment is; the last one ends in a line feed. -/
def bodyText (source : String) : List Char :=
  let text := trimChars (dedent source.toList)
  unifyBreaks (setIn (if text.isEmpty then "pass".toList else text) ++ ['\n'])

end Workflows.Fragment
