/-
The spelling of a label in letters, digits and hyphens. First come the ASCII characters of the
label, then, behind a hyphen, numbers that say where the others belong: each number counts the
places and code points that are passed over, in digits of base 36 whose last one is known by its
size.
-/
import Workflows.Text.Classes

namespace Workflows.Host.Punycode

/-! ## Digits -/

/-- The digit of a number below 36. -/
def digit (n : Nat) : Char := if n < 26 then Char.ofNat (97 + n) else Char.ofNat (22 + n)

/-- The number of a digit, which may be a letter of either case. -/
def digitValue? (c : Char) : Option Nat :=
  if c.isLower then some (c.toNat - 97)
  else if c.isUpper then some (c.toNat - 65)
  else if c.isDigit then some (c.toNat - 22)
  else none

/-- A digit at a place, which goes up in steps of 36, is the last one of its number if it is below
this. -/
def threshold (place bias : Nat) : Nat :=
  if place ≤ bias then 1 else if bias + 26 ≤ place then 26 else place - bias

theorem threshold_pos (place bias : Nat) : 0 < threshold place bias := by
  unfold threshold
  split
  · omega
  · split <;> omega

theorem threshold_le (place bias : Nat) : threshold place bias ≤ 26 := by
  unfold threshold
  split
  · omega
  · split <;> omega

/-- The digits of a number. -/
def writeNumber (n place bias : Nat) : List Char :=
  if h : n < threshold place bias then [digit n]
  else
    let t := threshold place bias
    digit (t + (n - t) % (36 - t)) :: writeNumber ((n - t) / (36 - t)) (place + 36) bias
termination_by n
decreasing_by
  have hp := threshold_pos place bias
  have hl := threshold_le place bias
  exact Nat.lt_of_le_of_lt (Nat.div_le_self _ _) (by omega)

/-! ## Bias -/

/-- Divides a number by 35 until it is small, and counts by 36. -/
def reduced (n count : Nat) : Nat × Nat :=
  if 455 < n then reduced (n / 35) (count + 36) else (n, count)
termination_by n
decreasing_by exact Nat.div_lt_self (by omega) (by omega)

/-- The bias after a number has been written, when the label has so many characters. -/
def nextBias (number size : Nat) (isFirst : Bool) : Nat :=
  let n := if isFirst then number / 700 else number / 2
  let (n, count) := reduced (n + n / size) 0
  count + 36 * n / (n + 38)

/-! ## Writing -/

/-- What is known while a label is written: the number in the making, the bias, how many characters
are written, and the digits so far. -/
structure Writing where
  number : Nat
  bias : Nat
  written : Nat
  isFirst : Bool
  digits : List Char
deriving DecidableEq, Repr

/-- Passes a character of the label while those with the code point `next` are written. -/
def Writing.pass (w : Writing) (next : Nat) (c : Char) : Writing :=
  if c.toNat < next then { w with number := w.number + 1 }
  else if c.toNat = next then
    { number := 0, bias := nextBias w.number (w.written + 1) w.isFirst, written := w.written + 1
      isFirst := false, digits := w.digits ++ writeNumber w.number 36 w.bias }
  else w

/-- Writes the characters of each code point, in increasing order; those below `least` are written
already. -/
def Writing.passAll (w : Writing) (label : List Char) (least : Nat) : List Nat → Writing
  | [] => w
  | next :: rest =>
    let w := { w with number := w.number + (next - least) * (w.written + 1) }
    let w := label.foldl (·.pass next ·) w
    Writing.passAll { w with number := w.number + 1 } label (next + 1) rest

/-- The spelling of a label. -/
def encode (label : List Char) : List Char :=
  let plain := label.filter (·.toNat < 128)
  let codes := ((label.filter (128 ≤ ·.toNat)).map Char.toNat).mergeSort.eraseDups
  let w := Writing.passAll ⟨0, 72, plain.length, true, []⟩ label 128 codes
  plain ++ (if plain.isEmpty then [] else ['-']) ++ w.digits

/-! ## Reading -/

/-- What is known while a label is read: its code points so far, the code point and the place of the
last one, the bias, and the number in the making with the weight and place of its next digit. -/
structure Reading where
  codes : List Nat
  code : Nat
  place : Nat
  bias : Nat
  isFirst : Bool
  number : Nat
  weight : Nat
  digitPlace : Nat
deriving DecidableEq, Repr

/-- A number has been read: a character is inserted. -/
def Reading.insert? (r : Reading) (number : Nat) : Option Reading :=
  let size := r.codes.length + 1
  let place := r.place + number
  let code := r.code + place / size
  if 0x10FFFF < code then none
  else
    some { codes := r.codes.take (place % size) ++ code :: r.codes.drop (place % size), code
           place := place % size + 1, bias := nextBias number size r.isFirst, isFirst := false
           number := 0, weight := 1, digitPlace := 36 }

/-- Reads a digit. -/
def Reading.step? (r : Reading) (c : Char) : Option Reading :=
  (digitValue? c).bind fun value =>
    let t := threshold r.digitPlace r.bias
    let number := r.number + value * r.weight
    if value < t then r.insert? number
    else some { r with number, weight := r.weight * (36 - t), digitPlace := r.digitPlace + 36 }

/-- The label of a spelling; none if a digit is none, a number breaks off, or a code point is no
character. -/
def decode? (spelling : List Char) : Option (List Char) :=
  let digits := (spelling.reverse.takeWhile (· != '-')).reverse
  let plain := ((spelling.reverse.dropWhile (· != '-')).drop 1).reverse
  let start : Reading := ⟨plain.map Char.toNat, 128, 0, 72, true, 0, 1, 36⟩
  match digits.foldlM Reading.step? start with
  | none => none
  | some r =>
    if r.digitPlace = 36 ∧ r.codes.all fun code => Nat.isValidChar code then
      some (r.codes.map Char.ofNat)
    else none

end Workflows.Host.Punycode
