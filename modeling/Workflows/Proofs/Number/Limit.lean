/-
Which integers are too large for a floating-point number: those from the middle between the greatest finite number,
which is odd in its last place, and the power of two above it.
-/
import Mathlib.Tactic
import Workflows.Number.Binary64

namespace Workflows.Binary64

/-- The exponent of the power of two that is half of the last place of the greatest finite numbers. -/
def halfPower : Nat := 970

/-- Half of the last place of the greatest finite numbers. -/
def halfPlace : Nat := 2 ^ halfPower

theorem two_pow_le {e k : Nat} (h : e ≤ k + halfPower) : 2 ^ e ≤ 2 ^ k * halfPlace := by
  rw [halfPlace, ← Nat.pow_add]
  exact Nat.pow_le_pow_right two_pos h

theorem le_two_pow {e k : Nat} (h : k + halfPower ≤ e) : 2 ^ k * halfPlace ≤ 2 ^ e := by
  rw [halfPlace, ← Nat.pow_add]
  exact Nat.pow_le_pow_right two_pos h

theorem halfPlace_pos : 0 < halfPlace := Nat.two_pow_pos halfPower

/-- The least size of the integers that are rounded to an infinity, `2 ^ 1024 - 2 ^ 970`. -/
def intLimit : Nat := (2 ^ 54 - 1) * halfPlace

theorem floorLog2_one {num : Nat} (h : num ≠ 0) : floorLog2 num 1 = Nat.log2 num := by
  have hone : Nat.log2 1 = 0 := by decide
  have hle : atLeastPower num 1 (Nat.log2 num : Int) = true := by
    simpa [atLeastPower] using Nat.log2_self_le h
  unfold floorLog2
  rw [hone, Nat.cast_zero, sub_zero]
  exact if_pos hle

/-- A number that is packed is finite unless its power is too large for it. -/
theorem isFinite_pack (negative : Bool) {m : Nat} {q : Int} (hm : 2 ^ 52 ≤ m) (hq : -1074 ≤ q) :
    (pack negative m q).isFinite = true ↔ q < 971 ∨ q = 971 ∧ m ≠ 2 ^ 53 := by
  have hinfinite : (infinity negative).isFinite = false := rfl
  unfold pack
  by_cases htop : m = 0x20000000000000
  · simp only [if_pos htop]
    rw [if_neg (by decide)]
    split
    · simp only [isFinite, exponentField, bne_iff_ne]
      omega
    · rw [hinfinite]
      simp only [Bool.false_eq_true, false_iff]
      omega
  · simp only [if_neg htop]
    rw [if_neg (by omega)]
    split
    · simp only [isFinite, exponentField, bne_iff_ne]
      omega
    · rw [hinfinite]
      simp only [Bool.false_eq_true, false_iff]
      omega

/-- A quotient that is at most half a unit below a power of two is rounded to it, as the number below is odd. -/
theorem roundHalfEven_eq_top {unit : Nat} (hunit : 0 < unit) {num : Nat} (hnum : num < 2 ^ 53 * (2 * unit)) :
    roundHalfEven num (2 * unit) = 2 ^ 53 ↔ (2 ^ 54 - 1) * unit ≤ num := by
  have hdiv := Nat.div_add_mod num (2 * unit)
  have hmod := Nat.mod_lt num (by omega : 0 < 2 * unit)
  have hlow : num / (2 * unit) < 2 ^ 53 := (Nat.div_lt_iff_lt_mul (by omega)).2 hnum
  have hmul : 2 * unit * (num / (2 * unit)) = 2 * (unit * (num / (2 * unit))) := Nat.mul_assoc _ _ _
  -- only from the last whole quotient below the power can it be reached by rounding up
  have htop : num / (2 * unit) = 2 ^ 53 - 1 ∨ unit * (num / (2 * unit)) ≤ unit * (2 ^ 53 - 2) := by
    rcases Nat.lt_or_ge (num / (2 * unit)) (2 ^ 53 - 1) with h | h
    · exact .inr (Nat.mul_le_mul_left _ (by omega))
    · exact .inl (by omega)
  unfold roundHalfEven
  dsimp only
  rcases htop with htop | htop
  · rw [htop] at hdiv ⊢
    split
    · omega
    · split
      · omega
      · rw [if_neg (by decide)]
        omega
  · have hne : num / (2 * unit) ≠ 2 ^ 53 - 1 := fun h => by
      rw [h] at htop
      omega
    split
    · omega
    · split
      · omega
      · split <;> omega

theorem div_le_roundHalfEven (num den : Nat) : num / den ≤ roundHalfEven num den := by
  unfold roundHalfEven
  dsimp only
  split_ifs <;> omega

/-- A positive integer is packed of its leading binary places. -/
theorem ofRatio_one (negative : Bool) {num : Nat} (h : num ≠ 0) :
    ∃ m, ofRatio negative num 1 = pack negative m ((Nat.log2 num : Int) - 52) ∧ 2 ^ 52 ≤ m ∧
      (52 ≤ Nat.log2 num → m = roundHalfEven num (2 ^ (Nat.log2 num - 52))) := by
  have hlow := Nat.log2_self_le h
  have hq : max ((Nat.log2 num : Int) - 52) (-1074) = (Nat.log2 num : Int) - 52 := by omega
  have hup : (-((Nat.log2 num : Int) - 52)).toNat = 52 - Nat.log2 num := by omega
  have hdown : ((Nat.log2 num : Int) - 52).toNat = Nat.log2 num - 52 := by omega
  have hpack : ofRatio negative num 1 =
      pack negative (roundHalfEven (num * Nat.pow 2 (52 - Nat.log2 num)) (1 * Nat.pow 2 (Nat.log2 num - 52)))
        ((Nat.log2 num : Int) - 52) := by
    unfold ofRatio
    simp only [if_neg h, floorLog2_one h, hq, hup, hdown]
  refine ⟨_, hpack, ?_, fun hlong => ?_⟩
  · refine le_trans ?_ (div_le_roundHalfEven _ _)
    rw [one_mul]
    refine (Nat.le_div_iff_mul_le (Nat.pow_pos two_pos)).2 ?_
    calc 2 ^ 52 * 2 ^ (Nat.log2 num - 52) = 2 ^ Nat.log2 num * 2 ^ (52 - Nat.log2 num) := by
          rw [← Nat.pow_add, ← Nat.pow_add]
          congr 1
          omega
      _ ≤ num * 2 ^ (52 - Nat.log2 num) := Nat.mul_le_mul_right _ hlow
  · rw [Nat.sub_eq_zero_of_le hlong, one_mul]
    exact congrArg (roundHalfEven · _) (Nat.mul_one num)

theorem isFinite_ofRatio_one (negative : Bool) {num : Nat} (h : num ≠ 0) :
    (ofRatio negative num 1).isFinite = true ↔ num < intLimit := by
  obtain ⟨m, hpack, hm, hround⟩ := ofRatio_one negative h
  have hlow := Nat.log2_self_le h
  have hhigh : num < 2 ^ (Nat.log2 num + 1) := Nat.lt_log2_self
  rw [hpack, isFinite_pack negative hm (by omega), intLimit]
  have hplace := halfPlace_pos
  have hpower : halfPower = 970 := rfl
  -- below the last binade all are finite, above it none, and within it the rounding of the mantissa decides
  rcases Nat.lt_trichotomy (Nat.log2 num) 1023 with hless | hequal | hmore
  · have hbelow := hhigh.trans_le (two_pow_le (k := 53) (by omega))
    omega
  · have hbelow := hhigh.trans_le (two_pow_le (k := 54) (by omega))
    have hunit : 2 ^ (Nat.log2 num - 52) = 2 ^ 1 * halfPlace :=
      le_antisymm (two_pow_le (by omega)) (le_two_pow (by omega))
    have htop := roundHalfEven_eq_top hplace (show num < 2 ^ 53 * (2 * halfPlace) by omega)
    rw [hround (by omega), hunit, Nat.pow_one]
    omega
  · have habove := (le_two_pow (k := 54) (by omega)).trans hlow
    omega

/-- An integer is too large for a floating-point number from the middle between the greatest one and `2 ^ 1024`. -/
theorem ofInt_eq_none_iff {n : Int} : ofInt? n = none ↔ intLimit ≤ n.natAbs := by
  unfold ofInt? ofSigned
  by_cases h : n = 0
  · rw [h]
    exact iff_of_false (by decide) (not_le.2 (Nat.mul_pos (by decide) halfPlace_pos))
  · have hfinite := isFinite_ofRatio_one (n < 0) (Int.natAbs_ne_zero.2 h)
    simp only [if_neg h]
    rw [ite_eq_right_iff, hfinite]
    simp

end Workflows.Binary64
