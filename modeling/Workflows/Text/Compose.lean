/-
The composed form of a text: two spellings of the same characters, such as a letter with a mark
behind it and the one letter that has the mark, become equal. Every character is taken apart, marks
are put in order, and what can be one character is put together again. Characters are code points.
-/
import Workflows.Text.Classes
import Workflows.Text.ComposeTables

namespace Workflows.Text

/-! ## Hangul -/

/-- The letters of a syllable of Hangul, of which there are 19, 21 and 27 in the three places; the
last one may be left out. -/
def syllableLetters? (code : Nat) : Option (List Nat) :=
  if 0xAC00 ≤ code ∧ code < 0xAC00 + 19 * 21 * 28 then
    let place := code - 0xAC00
    let last := if place % 28 = 0 then [] else [0x11A7 + place % 28]
    some ((0x1100 + place / (21 * 28)) :: (0x1161 + place / 28 % 21) :: last)
  else none

/-- The syllable of two letters, or of a syllable without a last letter and that letter. -/
def syllable? (a b : Nat) : Option Nat :=
  if 0x1100 ≤ a ∧ a < 0x1100 + 19 ∧ 0x1161 ≤ b ∧ b < 0x1161 + 21 then
    some (0xAC00 + ((a - 0x1100) * 21 + (b - 0x1161)) * 28)
  else if 0xAC00 ≤ a ∧ a < 0xAC00 + 19 * 21 * 28 ∧ (a - 0xAC00) % 28 = 0 ∧
      0x11A7 < b ∧ b < 0x11A7 + 28 then
    some (a + (b - 0x11A7))
  else none

/-! ## Taking apart -/

/-- What always stands for an ideograph. -/
def ideograph? (code : Nat) : Option Nat :=
  (ideographs.find? fun (first, others) => first ≤ code && code < first + others.length).bind
    fun (first, others) => others[code - first]?

/-- The parts of a character, taken apart at most so many times. -/
def partsWithin : Nat → Nat → List Nat
  | 0, code => [code]
  | depth + 1, code =>
    if code < 0xC0 then [code]
    else
      match syllableLetters? code with
      | some letters => letters
      | none =>
        match composites.find? (·.2.2 == code) with
        | some (a, b, _) => partsWithin depth a ++ [b]
        | none =>
          match decomposed.find? (·.1 == code) with
          | some (_, parts) => parts
          | none => [(ideograph? code).getD code]

/-- The parts of a character; none has parts of parts of parts of parts. -/
def partsOf (code : Nat) : List Nat := partsWithin 4 code

/-! ## Order -/

/-- The class by which a mark is ordered; zero for all other characters. -/
def orderClass (code : Nat) : Nat :=
  if code < 0x300 then 0
  else ((orderClasses.find? fun (first, last, _) => first ≤ code && code ≤ last).map
    (·.2.2)).getD 0

/-- Marks in order. Those of one class keep theirs. -/
def sortMarks (marks : List Nat) : List Nat :=
  marks.mergeSort fun a b => orderClass a ≤ orderClass b

/-- A text with its marks in order; `marks` are those since the last other character. -/
def orderedFrom (marks : List Nat) : List Nat → List Nat
  | [] => sortMarks marks
  | code :: rest =>
    if orderClass code = 0 then sortMarks marks ++ code :: orderedFrom [] rest
    else orderedFrom (marks ++ [code]) rest

/-! ## Putting together -/

/-- The one character that two make. -/
def compose? (a b : Nat) : Option Nat :=
  match syllable? a b with
  | some code => some code
  | none => (composites.find? fun (first, second, _) => first == a && second == b).map (·.2.2)

/-- Puts together what follows a character that is no mark. `marks` are those that have been kept
behind it, the last one first; a mark of the same class as one of them stays where it is. -/
def composedFrom (base : Nat) (marks : List Nat) : List Nat → List Nat
  | [] => base :: marks.reverse
  | code :: rest =>
    let isFree := marks.all fun mark => orderClass mark < orderClass code
    match if isFree then compose? base code else none with
    | some one => composedFrom one marks rest
    | none =>
      if orderClass code = 0 then base :: marks.reverse ++ composedFrom code [] rest
      else composedFrom base (code :: marks) rest

/-- Puts together what can be; marks at the beginning stay. -/
def composedCodes : List Nat → List Nat
  | [] => []
  | code :: rest =>
    if orderClass code = 0 then composedFrom code [] rest else code :: composedCodes rest

/-- The composed form of a text. -/
def composed (cs : List Char) : List Char :=
  (composedCodes (orderedFrom [] (cs.flatMap fun c => partsOf c.toNat))).map Char.ofNat

end Workflows.Text
