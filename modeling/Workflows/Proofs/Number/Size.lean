/-
The size of finite numbers: their magnitudes are below `2 ^ 1024`, so that the whole part of one has no more
digits than the text of an integer may have.
-/
import Mathlib.Tactic
import Workflows.Number.Binary64
import Workflows.Number.Numeral

namespace Workflows.Binary64

/-- A number is finite if it is no NaN and no infinity. -/
theorem isFinite_of_not {x : Binary64} (hnan : x.isNaN = false) (hinfinite : x.isInfinite = false) :
    x.isFinite = true := by
  simp only [isNaN, isInfinite, isFinite] at *
  cases h : x.exponent.val == 2047 with
  | false => rw [bne, h]; rfl
  | true =>
    rw [h, Bool.true_and] at hnan hinfinite
    rw [bne, hinfinite] at hnan
    cases hnan

/-- What is not finite is an infinity, or a NaN. -/
theorem infinity_or_nan {x : Binary64} (hfinite : ¬ x.isFinite = true) (h : x.isNaN = false ∨ x = nan) :
    x = infinity false ∨ x = infinity true ∨ x = nan := by
  rcases h with hnan | hnan
  · obtain ⟨negative, exponent, fraction⟩ := x
    have hexponent : exponent = 2047 := by
      refine Fin.ext ?_
      simpa [isFinite] using hfinite
    have hfraction : fraction = 0 := by
      refine Fin.ext ?_
      simpa [isNaN, hexponent] using hnan
    rw [hexponent, hfraction]
    cases negative with
    | false => exact .inl rfl
    | true => exact .inr (.inl rfl)
  · exact .inr (.inr hnan)

theorem mantissa_lt (x : Binary64) : x.mantissa < 2 ^ 53 := by
  have := x.fraction.isLt
  unfold mantissa
  split_ifs <;> omega

theorem power_le {x : Binary64} (h : x.isFinite = true) : x.power ≤ 971 := by
  have hne : x.exponent.val ≠ 2047 := by simpa [isFinite] using h
  have := x.exponent.isLt
  unfold power
  split_ifs <;> omega

/-- The exponent of a power of two above all finite numbers. -/
def topPower : Nat := 1024

theorem numerator_lt {x : Binary64} (h : x.isFinite = true) : x.numerator < 2 ^ topPower := by
  have hpower : 53 + x.power.toNat ≤ topPower := by
    have := power_le h
    rw [topPower]
    omega
  calc x.numerator < 2 ^ 53 * 2 ^ x.power.toNat := Nat.mul_lt_mul_of_pos_right x.mantissa_lt (Nat.two_pow_pos _)
    _ = 2 ^ (53 + x.power.toNat) := (Nat.pow_add 2 53 _).symm
    _ ≤ 2 ^ topPower := Nat.pow_le_pow_right (by decide) hpower

theorem natAbs_signedNumerator (x : Binary64) : x.signedNumerator.natAbs = x.numerator := by
  unfold signedNumerator
  split <;> simp

/-- The whole part of a finite number is no integer with too many digits. -/
theorem length_truncate_le {x : Binary64} (h : x.isFinite = true) :
    (Nat.toDigits 10 x.truncate.natAbs).length ≤ Numeral.maxDigits := by
  have hle : x.truncate.natAbs ≤ x.numerator := by
    rw [truncate, Int.natAbs_tdiv, natAbs_signedNumerator]
    exact Nat.div_le_self _ _
  have hlt : x.truncate.natAbs < 10 ^ topPower :=
    (hle.trans_lt (numerator_lt h)).trans_le (Nat.pow_le_pow_left (by decide) topPower)
  exact (Nat.toDigits_length 10 _ topPower (by decide) hlt).trans (by decide)

end Workflows.Binary64
