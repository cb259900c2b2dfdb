/-
Powers, floor quotients and rounding to a number of decimal places for double-precision numbers.
-/
import Workflows.Number.Binary64

namespace Workflows.Binary64

/-! ## Bits -/

/-- The interchange form: sign, exponent and fraction from the highest bit down. -/
def bits (x : Binary64) : UInt64 :=
  UInt64.ofNat
    ((if x.negative then 0x8000000000000000 else 0) + x.exponent.val * 0x10000000000000 +
      x.fraction.val)

/-- The number of an interchange form. -/
def ofBits (word : UInt64) : Binary64 :=
  let n := word.toNat
  ⟨n / 0x8000000000000000 == 1, exponentField (n / 0x10000000000000), fractionField n⟩

/-! ## Powers -/

/-- A number raised to a number, rounded. -/
def pow (x y : Binary64) : Binary64 :=
  ofBits (Float.pow (Float.ofBits x.bits) (Float.ofBits y.bits)).toBits

/-! ## Floor quotients -/

/-- The remainder that takes the sign of the dividend; the divisor is not zero. -/
def truncMod (x y : Binary64) : Binary64 :=
  if x.isNaN || y.isNaN || x.isInfinite then nan
  else if y.isInfinite then x
  else
    ofSigned x.negative
      (Int.tmod (x.signedNumerator * y.denominator) (y.signedNumerator * x.denominator))
      (x.denominator * y.denominator)

/-- The number one. -/
def one : Binary64 := ofRatio false 1 1

/-- The greatest whole number not above a number, as a number. -/
def floor (x : Binary64) : Binary64 :=
  if x.isFinite then ofSigned x.negative x.floorInt 1 else x

/-- The whole number of times that a divisor, which is not zero, goes into a number, toward the
lower neighbour. The quotient is taken of what the remainder leaves, so it is whole up to rounding,
and then moved to the whole number nearest to it. -/
def floorDiv (x y : Binary64) : Binary64 :=
  let rest := truncMod x y
  let quotient := (x.sub rest).div y
  let quotient := if !rest.isZero && y.negative != rest.negative then quotient.sub one else quotient
  if quotient.isZero then zero (x.div y).negative
  else
    let low := quotient.floor
    if (ofRatio false 1 2).less (quotient.sub low) then low.add one else low

/-! ## Decimal places -/

/-- A finite number rounded to a multiple of `10 ^ (-places)`; of two equally near ones the factor
is even. Beyond the places that a number can have it stays as it is, and far left of its digits it
is zero. -/
def roundTo (x : Binary64) (places : Int) : Binary64 :=
  if !x.isFinite || 323 < places then x
  else if places < -308 then zero x.negative
  else
    ofDecimal x.negative
      (roundHalfEven (x.numerator * Nat.pow 10 places.toNat)
        (x.denominator * Nat.pow 10 (-places).toNat))
      (-places)

end Workflows.Binary64
