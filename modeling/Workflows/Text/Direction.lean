/-
The directions in which characters run, and the rule that keeps a mixed label readable: it begins
with a letter, keeps to the direction of that letter, and ends with a letter or digit.
-/
import Workflows.Text.Classes
import Workflows.Text.DirectionTables

namespace Workflows.Text

/-- The direction of a character. -/
inductive Direction
  | leftToRight | rightToLeft | arabicNumber | plainNumber | followingMark | neutral
deriving DecidableEq, Repr

/-- The direction of a character. -/
def directionOf (c : Char) : Direction :=
  let code := c.toNat
  if code < 128 then
    if c.isAlpha then .leftToRight else if c.isDigit then .plainNumber else .neutral
  else if inRanges rightToLeft code then .rightToLeft
  else if inRanges arabicNumbers code then .arabicNumber
  else if inRanges plainNumbers code then .plainNumber
  else if inRanges followingMarks code then .followingMark
  else if inRanges neutrals code then .neutral
  else .leftToRight

/-- What is wrong with the directions in a label; places count from one. -/
inductive DirectionError
  | start
  | inRightToLeft (place : Nat)
  | inLeftToRight (place : Nat)
  | mixedNumbers
  | ending
deriving DecidableEq, Repr

/-- A character is of a script that runs from right to left, or an Arabic number. -/
def Direction.isTurned (d : Direction) : Bool := d == .rightToLeft || d == .arabicNumber

/-- A label has characters that run from right to left. -/
def isTurned (label : List Char) : Bool := label.any fun c => (directionOf c).isTurned

/-- The last direction apart from marks is one of some. -/
def endsIn (allowed : List Direction) (directions : List Direction) : Bool :=
  match directions.reverse.dropWhile (· == .followingMark) with
  | last :: _ => allowed.contains last
  | [] => false

/-- The first thing that is wrong from a place on in a label that runs from right to left; `number`
is the kind of number that it has had. -/
def rightToLeftError? (number : Option Direction) (place : Nat) :
    List Direction → Option DirectionError
  | [] => none
  | d :: rest =>
    if d = .leftToRight then some (.inRightToLeft place)
    else if d = .arabicNumber ∨ d = .plainNumber then
      if (number.getD d) = d then rightToLeftError? (some d) (place + 1) rest
      else some .mixedNumbers
    else rightToLeftError? number (place + 1) rest

/-- What is wrong with the directions in a label. -/
def directionError? (label : List Char) : Option DirectionError :=
  let directions := label.map directionOf
  match directions with
  | .rightToLeft :: _ =>
    (rightToLeftError? none 1 directions).or
      (if endsIn [.rightToLeft, .plainNumber, .arabicNumber] directions then none
       else some .ending)
  | .leftToRight :: _ =>
    match directions.findIdx? Direction.isTurned with
    | some place => some (.inLeftToRight (place + 1))
    | none => if endsIn [.leftToRight, .plainNumber] directions then none else some .ending
  | _ => some .start

end Workflows.Text
