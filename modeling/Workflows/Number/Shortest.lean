/-
The shortest decimal text of a double-precision number: the fewest digits that read back as the
number, and of those the nearest to it. It is positional from `10 ^ (-4)` up to `10 ^ 16` and has an
exponent of at least two digits elsewhere.
-/
import Workflows.Number.Binary64

namespace Workflows.Binary64

/-! ## Digits -/

/-- A quotient is at least a power of ten. -/
def atLeastPowerOfTen (num den : Nat) (e : Int) : Bool :=
  den * Nat.pow 10 e.toNat ≤ num * Nat.pow 10 (-e).toNat

/-- The exponent of the greatest power of ten that is not above a positive quotient. -/
def floorLog10 (num den : Nat) : Int :=
  if den ≤ num then (Nat.toDigits 10 (num / den)).length - 1
  else
    let guess : Int := -((Nat.toDigits 10 (den / num)).length : Int)
    if atLeastPowerOfTen num den (guess + 1) then guess + 1 else guess

/-- The multiples of `10 ^ exponent` next below and next above a quotient, as the lower factor and
what remains above it. -/
def gridPoint (num den : Nat) (exponent : Int) : Nat × Nat × Nat :=
  let n := num * Nat.pow 10 (-exponent).toNat
  let d := den * Nat.pow 10 exponent.toNat
  (n / d, n % d, d)

/-- The factor of `10 ^ exponent` that reads back as a number, if one of the number's two
neighbours on that grid does; the nearer one, and of two equally near ones the even one. -/
def factorAt? (x : Binary64) (exponent : Int) : Option Nat :=
  let (low, rest, den) := gridPoint x.numerator x.denominator exponent
  let reads (factor : Nat) : Bool := ofDecimal x.negative factor exponent == x
  let nearer := if 2 * rest < den then low else if den < 2 * rest then low + 1
    else if low % 2 = 0 then low else low + 1
  let other := if nearer = low then low + 1 else low
  if reads nearer then some nearer else if reads other then some other else none

/-- The first of the grids from coarse to fine on which the number has a point that reads back. -/
def findFactor (x : Binary64) (top : Int) : Nat → Nat × Int
  | 0 => (0, top)
  | tries + 1 =>
    let exponent := top - (16 - tries : Nat)
    match factorAt? x exponent with
    | some factor => (factor, exponent)
    | none => findFactor x top tries

/-- The digits of a finite number other than zero, and the exponent of the first one. -/
def shortestDigits (x : Binary64) : List Char × Int :=
  let (factor, exponent) := findFactor x (floorLog10 x.numerator x.denominator) 17
  let digits := Nat.toDigits 10 factor
  ((digits.reverse.dropWhile (· == '0')).reverse, exponent + digits.length - 1)

/-! ## Text -/

/-- The exponent with its sign and at least two digits. -/
def exponentText (e : Int) : List Char :=
  let digits := Nat.toDigits 10 e.natAbs
  (if e < 0 then '-' else '+') :: (if digits.length < 2 then '0' :: digits else digits)

/-- Digits with the point set after the first digit, whose exponent is given. -/
def layoutDigits (digits : List Char) (e : Int) : List Char :=
  if 0 ≤ e ∧ e < 16 then
    let whole := e.toNat + 1
    if digits.length ≤ whole then
      digits ++ List.replicate (whole - digits.length) '0' ++ ['.', '0']
    else digits.take whole ++ '.' :: digits.drop whole
  else if -4 ≤ e ∧ e < 0 then
    '0' :: '.' :: List.replicate ((-e).toNat - 1) '0' ++ digits
  else
    let point := if digits.length ≤ 1 then digits else digits.take 1 ++ '.' :: digits.drop 1
    point ++ 'e' :: exponentText e

/-- The text of a finite number without its sign. -/
def magnitudeText (x : Binary64) : List Char :=
  if x.isZero then ['0', '.', '0']
  else layoutDigits x.shortestDigits.1 x.shortestDigits.2

/-- The shortest text of a number; `inf`, `-inf` and `nan` for those that are not finite. -/
def text (x : Binary64) : String :=
  if x.isNaN then "nan"
  else if x.isInfinite then (if x.negative then "-inf" else "inf")
  else String.ofList (if x.negative then '-' :: x.magnitudeText else x.magnitudeText)

end Workflows.Binary64
