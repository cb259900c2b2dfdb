/-
Double-precision numbers as data: a sign, a biased exponent and a fraction. Every operation is
exact arithmetic on fractions of naturals followed by one rounding, `ofRatio`, to the nearest
number with ties to the even mantissa. So what a number is and which number a quotient rounds to
are both plain statements about naturals.
-/
namespace Workflows

/-- A double-precision number; its fraction has fifty-two bits. The exponent 2047 marks the
infinities, whose fraction is 0, and the NaNs; the exponent 0 marks the zeros and the numbers below
`2 ^ (-1022)`. -/
structure Binary64 where
  negative : Bool
  exponent : Fin 2048
  fraction : Fin 0x10000000000000
deriving DecidableEq, Repr

namespace Binary64

/-! ## Parts of a number -/

def isNaN (x : Binary64) : Bool := x.exponent.val == 2047 && x.fraction.val != 0

def isInfinite (x : Binary64) : Bool := x.exponent.val == 2047 && x.fraction.val == 0

def isFinite (x : Binary64) : Bool := x.exponent.val != 2047

/-- Either zero. -/
def isZero (x : Binary64) : Bool := x.exponent.val == 0 && x.fraction.val == 0

/-- The whole number `m` of a finite number `m * 2 ^ q`. -/
def mantissa (x : Binary64) : Nat :=
  if x.exponent.val = 0 then x.fraction.val else 0x10000000000000 + x.fraction.val

/-- The power `q` of a finite number `m * 2 ^ q`. -/
def power (x : Binary64) : Int :=
  if x.exponent.val = 0 then -1074 else (x.exponent.val : Int) - 1075

/-- The numerator of the magnitude of a finite number. -/
def numerator (x : Binary64) : Nat := x.mantissa * Nat.pow 2 x.power.toNat

/-- The denominator of the magnitude of a finite number. -/
def denominator (x : Binary64) : Nat := Nat.pow 2 (-x.power).toNat

/-- The numerator with the sign. -/
def signedNumerator (x : Binary64) : Int := if x.negative then -x.numerator else x.numerator

/-- The lowest eleven bits of a number. -/
def exponentField (n : Nat) : Fin 2048 := ⟨n % 2048, Nat.mod_lt n (by decide)⟩

/-- The lowest fifty-two bits of a number. -/
def fractionField (n : Nat) : Fin 0x10000000000000 :=
  ⟨n % 0x10000000000000, Nat.mod_lt n (by decide)⟩

/-! ## Single numbers -/

def zero (negative : Bool) : Binary64 := ⟨negative, 0, 0⟩

def infinity (negative : Bool) : Binary64 := ⟨negative, 2047, 0⟩

def nan : Binary64 := ⟨false, 2047, fractionField 0x8000000000000⟩

instance : Inhabited Binary64 := ⟨zero false⟩

/-! ## Rounding -/

/-- The whole number nearest to a quotient; of two equally near ones the even one. -/
def roundHalfEven (num den : Nat) : Nat :=
  let low := num / den
  let twice := 2 * (num % den)
  if twice < den then low
  else if den < twice then low + 1
  else if low % 2 = 0 then low else low + 1

/-- The number `m * 2 ^ q` with `m` at most `2 ^ 53`, and at least `2 ^ 52` unless `q` is the least
power; an infinity if it is too large. -/
def pack (negative : Bool) (m : Nat) (q : Int) : Binary64 :=
  let (m, q) := if m = 0x20000000000000 then (0x10000000000000, q + 1) else (m, q)
  if m < 0x10000000000000 then ⟨negative, 0, fractionField m⟩
  else if q + 1075 < 2047 then
    ⟨negative, exponentField (q + 1075).toNat, fractionField (m - 0x10000000000000)⟩
  else infinity negative

/-- A quotient is at least a power of two. -/
def atLeastPower (num den : Nat) (e : Int) : Bool :=
  den * Nat.pow 2 e.toNat ≤ num * Nat.pow 2 (-e).toNat

/-- The exponent of the greatest power of two that is not above a positive quotient. -/
def floorLog2 (num den : Nat) : Int :=
  let guess : Int := (Nat.log2 num : Int) - Nat.log2 den
  if atLeastPower num den guess then guess else guess - 1

/-- The number nearest to a quotient of naturals, with a given sign. -/
def ofRatio (negative : Bool) (num den : Nat) : Binary64 :=
  if num = 0 then zero negative
  else
    let q := max (floorLog2 num den - 52) (-1074)
    pack negative (roundHalfEven (num * Nat.pow 2 (-q).toNat) (den * Nat.pow 2 q.toNat)) q

/-- The number nearest to a quotient whose numerator carries the sign; `zeroSign` is the sign of a
zero. -/
def ofSigned (zeroSign : Bool) (num : Int) (den : Nat) : Binary64 :=
  if num = 0 then zero zeroSign else ofRatio (num < 0) num.natAbs den

/-- The number nearest to an integer; none if that is an infinity. -/
def ofInt? (n : Int) : Option Binary64 :=
  let x := ofSigned false n 1
  if x.isFinite then some x else none

/-- The number nearest to `digits * 10 ^ exponent`. Far from all finite numbers the power is not
worked out. -/
def ofDecimal (negative : Bool) (digits : Nat) (exponent : Int) : Binary64 :=
  if digits = 0 then zero negative
  else
    let size : Int := (Nat.toDigits 10 digits).length + exponent
    if 310 < size then infinity negative
    else if size < -330 then zero negative
    else ofRatio negative (digits * Nat.pow 10 exponent.toNat) (Nat.pow 10 (-exponent).toNat)

/-! ## Order -/

/-- A value on the extended line by which numbers that are not NaN compare: finite numbers by their
quotient, infinities outside all of them. -/
def compareFinite (x y : Binary64) : Ordering :=
  compare (x.signedNumerator * y.denominator) (y.signedNumerator * x.denominator)

/-- The order of two numbers; none if one is a NaN. -/
def order? (x y : Binary64) : Option Ordering :=
  if x.isNaN || y.isNaN then none
  else if x.isFinite && y.isFinite then some (compareFinite x y)
  else if x.isInfinite && y.isInfinite then
    some (if x.negative = y.negative then .eq else if x.negative then .lt else .gt)
  else if x.isInfinite then some (if x.negative then .lt else .gt)
  else some (if y.negative then .gt else .lt)

/-- The order of a number and an integer, exactly; none if the number is a NaN. -/
def orderInt? (x : Binary64) (n : Int) : Option Ordering :=
  if x.isNaN then none
  else if x.isInfinite then some (if x.negative then .lt else .gt)
  else some (compare x.signedNumerator (n * x.denominator))

/-- Less than; false if one is a NaN. -/
def less (x y : Binary64) : Bool := order? x y == some .lt

/-- Equal as numbers: the zeros are equal and a NaN equals nothing. -/
def same (x y : Binary64) : Bool := order? x y == some .eq

/-! ## Arithmetic -/

def neg (x : Binary64) : Binary64 := { x with negative := !x.negative }

def abs (x : Binary64) : Binary64 := { x with negative := false }

def add (x y : Binary64) : Binary64 :=
  if x.isNaN || y.isNaN then nan
  else if x.isInfinite then (if y.isInfinite && x.negative != y.negative then nan else x)
  else if y.isInfinite then y
  else
    ofSigned (x.negative && y.negative)
      (x.signedNumerator * y.denominator + y.signedNumerator * x.denominator)
      (x.denominator * y.denominator)

def sub (x y : Binary64) : Binary64 := add x (neg y)

def mul (x y : Binary64) : Binary64 :=
  let negative := x.negative != y.negative
  if x.isNaN || y.isNaN then nan
  else if x.isInfinite || y.isInfinite then
    (if x.isZero || y.isZero then nan else infinity negative)
  else ofRatio negative (x.numerator * y.numerator) (x.denominator * y.denominator)

/-- The quotient; the divisor is not zero. -/
def div (x y : Binary64) : Binary64 :=
  let negative := x.negative != y.negative
  if x.isNaN || y.isNaN then nan
  else if x.isInfinite then (if y.isInfinite then nan else infinity negative)
  else if y.isInfinite then zero negative
  else ofRatio negative (x.numerator * y.denominator) (x.denominator * y.numerator)

/-- The integer part of a finite number, toward zero. -/
def truncate (x : Binary64) : Int :=
  Int.tdiv x.signedNumerator x.denominator

/-- The greatest integer not above a finite number. -/
def floorInt (x : Binary64) : Int := Int.fdiv x.signedNumerator x.denominator

/-- The integer nearest to a finite number; of two equally near ones the even one. -/
def roundToInt (x : Binary64) : Int :=
  let n := roundHalfEven x.numerator x.denominator
  if x.negative then -n else n

/-- The remainder that takes the sign of the divisor, which is not zero. -/
def floorMod (x y : Binary64) : Binary64 :=
  if x.isNaN || y.isNaN || x.isInfinite then nan
  else if y.isInfinite then
    if x.isZero then zero y.negative
    else if x.negative = y.negative then x else y
  else
    let den := x.denominator * y.denominator
    let r := Int.fmod (x.signedNumerator * y.denominator) (y.signedNumerator * x.denominator)
    ofSigned y.negative r den

end Binary64

end Workflows
