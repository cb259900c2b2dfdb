/-
Numbers that are finite and numbers that are not: which of them come out of products and quotients, and that all but
the NaNs are in order.
-/
import Workflows.Proofs.Json.Reader
import Workflows.Proofs.Number.Size

namespace Workflows.Binary64

variable {x y : Binary64}

theorem isNaN_of_finite (h : x.isFinite = true) : x.isNaN = false := by
  simp only [isFinite, bne_iff_ne] at h
  simp [isNaN, h]

theorem isInfinite_of_finite (h : x.isFinite = true) : x.isInfinite = false := by
  simp only [isFinite, bne_iff_ne] at h
  simp [isInfinite, h]

theorem isNaN_of_infinite (h : x.isInfinite = true) : x.isNaN = false := by
  simp only [isInfinite, Bool.and_eq_true, beq_iff_eq] at h
  simp [isNaN, h.2]

theorem isZero_of_infinite (h : x.isInfinite = true) : x.isZero = false := by
  simp only [isInfinite, Bool.and_eq_true, beq_iff_eq] at h
  simp [isZero, h.1]

theorem isNaN_div (hx : x.isFinite = true) (hy : y.isFinite = true) : (x.div y).isNaN = false := by
  simp only [div, isNaN_of_finite hx, isNaN_of_finite hy, isInfinite_of_finite hx, isInfinite_of_finite hy,
    Bool.or_self, Bool.false_eq_true, if_false]
  exact isNaN_ofRatio _ _ _

/-- A finite number is no infinity and no NaN. -/
theorem isFinite_iff : x.isFinite = true ↔ ¬ x.isInfinite = true ∧ ¬ x.isNaN = true := by
  constructor
  · intro h
    rw [isInfinite_of_finite h, isNaN_of_finite h]
    exact ⟨Bool.false_ne_true, Bool.false_ne_true⟩
  · exact fun h => isFinite_of_not (Bool.eq_false_iff.2 h.2) (Bool.eq_false_iff.2 h.1)

/-- An infinity times a finite number that is not zero is an infinity. -/
theorem isInfinite_mul (hx : x.isInfinite = true) (hy : y.isFinite = true) (hzero : y.isZero = false) :
    (x.mul y).isInfinite = true := by
  simp only [mul, isNaN_of_infinite hx, isNaN_of_finite hy, hx, isZero_of_infinite hx, hzero, Bool.or_self,
    Bool.true_or, Bool.false_eq_true, if_false, if_true]
  rfl

theorem isNaN_mul_of_isNaN (hx : x.isNaN = true) : (x.mul y).isNaN = true := by
  simp only [mul, hx, Bool.true_or, if_true]
  rfl

/-- Numbers that are no NaN are in some order. -/
theorem exists_order (hx : x.isNaN = false) (hy : y.isNaN = false) : ∃ o, x.order? y = some o := by
  unfold order?
  rw [hx, hy, Bool.or_self, if_neg Bool.false_ne_true]
  split_ifs <;> exact ⟨_, rfl⟩

end Workflows.Binary64
