/-
Columns of the table of workflows: what a value becomes in a column of text, and which key a value
is when rows are looked up by it.
-/
import Workflows.Value.Coerce

namespace Workflows.Column

open Workflows.Text

/-- The integers that a column can hold: those of sixty-four bits. -/
def holdsInt (n : Int) : Bool := -0x8000000000000000 ≤ n && n < 0x8000000000000000

/-! ## Texts -/

/-- The integer nearest to a quotient; half a unit is rounded up. -/
def roundHalfUp (num den : Nat) : Nat := (2 * num + den) / (2 * den)

/-- The fifteen digits nearest to a finite number other than zero, where half a unit is rounded up,
and the exponent of the first one. -/
def roundedDigits (x : Binary64) : List Char × Int :=
  let e := Binary64.floorLog10 x.numerator x.denominator
  let shift := 14 - e
  let factor := roundHalfUp (x.numerator * Nat.pow 10 shift.toNat) (x.denominator * Nat.pow 10 (-shift).toNat)
  let digits := Nat.toDigits 10 factor
  (digits.take 15, e + (digits.length - 15 : Nat))

/-- Digits without the zeros at their end, but at least one digit. -/
def withoutZeros (digits : List Char) : List Char :=
  match (digits.reverse.dropWhile (· == '0')).reverse with
  | [] => ['0']
  | kept => kept

/-- The text of a finite number other than zero and without its sign: fifteen digits at most, with
a point, and with an exponent below a ten thousandth and from `10 ^ 15` on. -/
def realText (x : Binary64) : List Char :=
  let (digits, e) := roundedDigits x
  if -4 ≤ e ∧ e < 15 then
    let shifted := List.replicate (-e).toNat '0' ++ digits
    let whole := e.toNat + 1
    shifted.take whole ++ '.' :: withoutZeros (shifted.drop whole)
  else
    digits.take 1 ++ '.' :: withoutZeros (digits.drop 1) ++ 'e' :: Binary64.exponentText e

/-- A number in a column of text; a NaN is nothing, and a zero has no sign. -/
def floatText (x : Binary64) : Option String :=
  if x.isNaN then none
  else if x.isInfinite then some (if x.negative then "-Inf" else "Inf")
  else if x.isZero then some "0.0"
  else some (String.ofList (if x.negative then '-' :: realText x else realText x))

/-- A value in a column of text; none if the column stays empty. -/
def text : Value → Except Fault (Option String)
  | .null => .ok none
  | .text s => .ok (some s)
  | .bool b => .ok (some (if b then "1" else "0"))
  | .int n => if holdsInt n then .ok (some (toString n)) else .error .columnTooNarrow
  | .float x => .ok (floatText x)
  | .list _ | .object _ | .table _ => .error .noColumn

/-- A value in a column of text that must not be empty. -/
def filledText (v : Value) : Except Fault String :=
  (text v).bind fun s =>
    match s with
    | some s => .ok s
    | none => .error .emptyColumn

/-! ## Keys -/

/-- The whole number that a number is, if it is one. -/
def wholeOf (x : Binary64) : Option Int :=
  if x.isFinite && x.denominator ∣ x.numerator then some x.truncate else none

/-- The number that a text writes in plain digits, with blanks of ASCII around it. -/
def plainNumber? (s : String) : Option Binary64 :=
  let (negative, cs) := Numeral.takeSign (trimWith isPlainBlank s.toList)
  Numeral.unsignedDecimal? negative cs

/-- The key that a value is, if any: a whole number, or a text that writes one. -/
def key? : Value → Except Fault (Option Int)
  | .null => .ok none
  | .bool b => .ok (some (if b then 1 else 0))
  | .int n => if holdsInt n then .ok (some n) else .error .columnTooNarrow
  | .float x => .ok (wholeOf x)
  | .text s => .ok ((plainNumber? s).bind wholeOf)
  | .list _ | .object _ | .table _ => .error .noColumn

end Workflows.Column
