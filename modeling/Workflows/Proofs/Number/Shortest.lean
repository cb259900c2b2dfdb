/-
The shortest digits of a number read back as the number. Seventeen of them always suffice: on the grid of the
seventeenth digit the point nearest to a number is near enough to be rounded to it.
-/
import Mathlib.Data.List.DropRight
import Workflows.Number.Shortest
import Workflows.Proofs.Number.Rounding

namespace Workflows.Binary64

/-! ## Decimal sizes -/

section

variable {n : ℕ} (hn : 0 < n)

include hn

/-- The powers of ten around a natural, by the number of its digits. -/
theorem digits_bounds : 10 ^ ((Nat.toDigits 10 n).length - 1) ≤ n ∧ n < 10 ^ (Nat.toDigits 10 n).length := by
  refine ⟨?_, (Nat.length_toDigits_le_iff (by decide) Nat.length_toDigits_pos).1 (le_refl _)⟩
  by_cases hone : (Nat.toDigits 10 n).length = 1
  · rw [hone]
    exact hn
  · have hpos : 0 < (Nat.toDigits 10 n).length := Nat.length_toDigits_pos
    by_contra hlt
    have := (Nat.length_toDigits_le_iff (k := (Nat.toDigits 10 n).length - 1) (by decide) (by omega)).2 (not_le.1 hlt)
    omega

theorem toDigits_mul_ten : Nat.toDigits 10 (10 * n) = Nat.toDigits 10 n ++ ['0'] := by
  have h := Nat.toDigits_append_toDigits (b := 10) (d := 0) (by decide) hn (by decide)
  rw [Nat.toDigits_zero, Nat.add_zero] at h
  exact h.symm

end

section

variable {num den : ℕ} (hnum : 0 < num) (hden : 0 < den)

include hnum hden

theorem floorLog10_le : (10 : ℚ) ^ floorLog10 num den ≤ (num : ℚ) / den := by
  unfold floorLog10
  split
  · next h =>
    have hwhole : 0 < num / den := Nat.div_pos h hden
    have hpow : 10 ^ ((Nat.toDigits 10 (num / den)).length - 1) ≤ num / den := (digits_bounds hwhole).1
    have hlength : 0 < (Nat.toDigits 10 (num / den)).length := Nat.length_toDigits_pos
    have hexponent : ((Nat.toDigits 10 (num / den)).length : ℤ) - 1 = ((Nat.toDigits 10 (num / den)).length - 1 : ℕ) := by
      omega
    rw [hexponent, zpow_natCast]
    calc (10 : ℚ) ^ ((Nat.toDigits 10 (num / den)).length - 1) ≤ (num / den : ℕ) := by exact_mod_cast hpow
      _ ≤ (num : ℚ) / den := Nat.cast_div_le
  · next h =>
    dsimp only
    split
    · next h => exact_mod_cast (pow_le_ratio_iff hden (by decide) _).1 (of_decide_eq_true h)
    · have hwhole : 0 < den / num := Nat.div_pos (not_le.1 h).le hnum
      have hpow := (digits_bounds hwhole).2
      generalize (Nat.toDigits 10 (den / num)).length = length at hpow
      rw [zpow_neg, zpow_natCast, inv_le_comm₀ (by positivity) (ratio_pos hnum hden), inv_div]
      rw [div_le_iff₀ (Nat.cast_pos.2 hnum)]
      have := (Nat.div_lt_iff_lt_mul hnum).1 hpow
      exact_mod_cast this.le

end

/-! ## Decimals near a number -/

/-- The magnitude of a number that is not zero is between these powers of two. -/
theorem magnitude_bounds {x : Binary64} (hfinite : x.isFinite = true) (hpos : 0 < x.magnitude) :
    (2 : ℚ) ^ (-1074 : ℤ) ≤ x.magnitude ∧ x.magnitude < 2 ^ (1024 : ℤ) := by
  obtain ⟨hsmall, hleast, hgreatest, -⟩ := mantissa_cases hfinite
  have hmantissa : 1 ≤ x.mantissa := by
    by_contra h
    rw [magnitude, Nat.lt_one_iff.1 (not_le.1 h), Nat.cast_zero, zero_mul] at hpos
    exact lt_irrefl _ hpos
  have hu : (0 : ℚ) < 2 ^ x.power := by positivity
  constructor
  · calc (2 : ℚ) ^ (-1074 : ℤ) ≤ 2 ^ x.power := zpow_le_zpow_right₀ one_le_two hleast
      _ ≤ x.mantissa * 2 ^ x.power := le_mul_of_one_le_left hu.le (by exact_mod_cast hmantissa)
  · calc x.mantissa * (2 : ℚ) ^ x.power < 2 ^ (53 : ℤ) * 2 ^ x.power :=
          mul_lt_mul_of_pos_right (by exact_mod_cast hsmall) hu
      _ = 2 ^ (53 + x.power) := (zpow_add₀ two_ne_zero _ _).symm
      _ ≤ 2 ^ (1024 : ℤ) := zpow_le_zpow_right₀ one_le_two (by omega)

theorem two_pow_le_ten_pow : (2 : ℚ) ^ (1025 : ℤ) ≤ 10 ^ (310 : ℤ) := by
  have h : ((2 : ℚ) ^ 205) ^ 5 ≤ ((10 : ℚ) ^ 62) ^ 5 := pow_le_pow_left₀ (by positivity) (by norm_num) 5
  rwa [← pow_mul, ← pow_mul, ← zpow_natCast, ← zpow_natCast] at h

theorem ten_pow_le_two_pow : (10 : ℚ) ^ (-330 : ℤ) ≤ 2 ^ (-1075 : ℤ) := by
  have h : ((2 : ℚ) ^ 215) ^ 5 ≤ ((10 : ℚ) ^ 66) ^ 5 := pow_le_pow_left₀ (by positivity) (by norm_num) 5
  rw [← pow_mul, ← pow_mul, ← zpow_natCast, ← zpow_natCast] at h
  rw [zpow_neg, zpow_neg]
  exact inv_anti₀ (by positivity) h

/-- A decimal of about the size of a finite number is far from both cuts. -/
theorem size_of_near {x : Binary64} (hfinite : x.isFinite = true) (hpos : 0 < x.magnitude) {factor : ℕ} (hfactor : 0 < factor)
    {exponent : ℤ} (hsmall : x.magnitude / 2 < factor * (10 : ℚ) ^ exponent)
    (hlarge : factor * (10 : ℚ) ^ exponent < 2 * x.magnitude) :
    (((Nat.toDigits 10 factor).length - 1 : ℕ) : ℤ) + exponent < 310 ∧ -330 < ((Nat.toDigits 10 factor).length : ℤ) + exponent := by
  obtain ⟨hleast, hgreatest⟩ := magnitude_bounds hfinite hpos
  obtain ⟨hlow, hhigh⟩ := digits_bounds hfactor
  have hten : (0 : ℚ) < 10 ^ exponent := by positivity
  constructor
  · rw [← zpow_lt_zpow_iff_right₀ (by norm_num : (1 : ℚ) < 10)]
    calc (10 : ℚ) ^ ((((Nat.toDigits 10 factor).length - 1 : ℕ) : ℤ) + exponent)
        = 10 ^ ((Nat.toDigits 10 factor).length - 1) * 10 ^ exponent := by rw [zpow_add₀ (by norm_num), zpow_natCast]
      _ ≤ factor * 10 ^ exponent := mul_le_mul_of_nonneg_right (by exact_mod_cast hlow) hten.le
      _ < 2 * 2 ^ (1024 : ℤ) := hlarge.trans (mul_lt_mul_of_pos_left hgreatest two_pos)
      _ = 2 ^ (1025 : ℤ) := (zpow_one_add₀ two_ne_zero 1024).symm
      _ ≤ 10 ^ (310 : ℤ) := two_pow_le_ten_pow
  · rw [← zpow_lt_zpow_iff_right₀ (by norm_num : (1 : ℚ) < 10)]
    calc (10 : ℚ) ^ (-330 : ℤ) ≤ 2 ^ (-1075 : ℤ) := ten_pow_le_two_pow
      _ = 2 ^ (-1074 : ℤ) / 2 := zpow_sub_one₀ two_ne_zero (-1074)
      _ ≤ x.magnitude / 2 := div_le_div_of_nonneg_right hleast two_pos.le
      _ < factor * 10 ^ exponent := hsmall
      _ ≤ 10 ^ (Nat.toDigits 10 factor).length * 10 ^ exponent :=
          mul_le_mul_of_nonneg_right (by exact_mod_cast hhigh.le) hten.le
      _ = 10 ^ (((Nat.toDigits 10 factor).length : ℤ) + exponent) := by rw [zpow_add₀ (by norm_num), zpow_natCast]

/-- A decimal that is nearer to a finite number than `2 ^ 54` goes into it is read as the number. -/
theorem ofDecimal_of_near {x : Binary64} (hfinite : x.isFinite = true) {factor : ℕ} (hfactor : 0 < factor) {exponent : ℤ}
    (h : 2 ^ 54 * |factor * (10 : ℚ) ^ exponent - x.magnitude| < x.magnitude) :
    ofDecimal x.negative factor exponent = x := by
  have hpos : 0 < x.magnitude := lt_of_le_of_lt (by positivity) h
  have hlength : 0 < (Nat.toDigits 10 factor).length := Nat.length_toDigits_pos
  have hsmall : x.magnitude / 2 < factor * (10 : ℚ) ^ exponent := by
    have := neg_abs_le (factor * (10 : ℚ) ^ exponent - x.magnitude)
    linarith
  have hlarge : factor * (10 : ℚ) ^ exponent < 2 * x.magnitude := by
    have := le_abs_self (factor * (10 : ℚ) ^ exponent - x.magnitude)
    linarith
  obtain ⟨hbelow, habove⟩ := size_of_near hfinite hpos hfactor hsmall hlarge
  have hratio : ((factor * Nat.pow 10 exponent.toNat : ℕ) : ℚ) / (Nat.pow 10 (-exponent).toNat : ℕ) =
      factor * (10 : ℚ) ^ exponent := by
    rw [Nat.cast_mul, mul_div_assoc, pow_div_pow (by decide), Nat.cast_ofNat]
  rw [ofDecimal, if_neg hfactor.ne']
  dsimp only
  rw [if_neg (by omega), if_neg (by omega)]
  refine ofRatio_of_near (Nat.mul_pos hfactor (Nat.pow_pos (by decide))) (Nat.pow_pos (by decide)) hfinite ?_
  rwa [← hratio] at h

/-! ## Grids -/

section

variable {x : Binary64} {exponent : ℤ} {factor : ℕ}

theorem reads_of_factorAt (h : factorAt? x exponent = some factor) : ofDecimal x.negative factor exponent = x := by
  have htried : ∀ nearer other : ℕ, (if ofDecimal x.negative nearer exponent == x then some nearer
      else if ofDecimal x.negative other exponent == x then some other else none) = some factor →
      ofDecimal x.negative factor exponent = x := fun nearer other h => by
    split at h
    · next hreads =>
      cases h
      exact beq_iff_eq.1 hreads
    · split at h
      · next hreads =>
        cases h
        exact beq_iff_eq.1 hreads
      · cases h
  exact htried _ _ h

/-- The nearer of the two points is the rounded quotient. -/
theorem factorAt_of_nearer (h : ofDecimal x.negative (roundHalfEven (x.numerator * Nat.pow 10 (-exponent).toNat)
    (x.denominator * Nat.pow 10 exponent.toNat)) exponent = x) : ∃ factor, factorAt? x exponent = some factor := by
  refine ⟨_, if_pos ?_⟩
  exact beq_iff_eq.2 h

/-- On a grid as fine as the seventeenth digit of a number one of its neighbours reads back. -/
theorem exists_factorAt (hfinite : x.isFinite = true) (hfine : (10 : ℚ) ^ (exponent + 16) ≤ x.magnitude) :
    ∃ factor, factorAt? x exponent = some factor := by
  have hten : (0 : ℚ) < 10 ^ exponent := by positivity
  have hfine : 10 ^ exponent * 10 ^ 16 ≤ x.magnitude := by
    rwa [zpow_add₀ (by norm_num), show (16 : ℤ) = (16 : ℕ) from rfl, zpow_natCast] at hfine
  have hscale : 0 < x.denominator * Nat.pow 10 exponent.toNat := Nat.mul_pos x.denominator_pos (Nat.pow_pos (by decide))
  have hratio : ((x.numerator * Nat.pow 10 (-exponent).toNat : ℕ) : ℚ) / (x.denominator * Nat.pow 10 exponent.toNat : ℕ) =
      x.magnitude / 10 ^ exponent := by
    rw [Nat.cast_mul, Nat.cast_mul, mul_div_mul_comm, ratio_eq_magnitude, ← inv_div ((Nat.pow 10 exponent.toNat : ℕ) : ℚ),
      pow_div_pow (by decide), Nat.cast_ofNat, ← div_eq_mul_inv]
  have hnear := roundHalfEven_near (x.numerator * Nat.pow 10 (-exponent).toNat) hscale
  -- half a unit of this grid is less than the number over `2 ^ 54`, because `2 ^ 53` is less than `10 ^ 16`
  apply factorAt_of_nearer
  generalize roundHalfEven _ _ = nearer at hnear ⊢
  rw [hratio] at hnear
  have hdistance : |nearer * (10 : ℚ) ^ exponent - x.magnitude| ≤ 10 ^ exponent / 2 := by
    calc |nearer * (10 : ℚ) ^ exponent - x.magnitude| = |(x.magnitude / 10 ^ exponent - nearer) * 10 ^ exponent| := by
          rw [abs_sub_comm, sub_mul, div_mul_cancel₀ _ hten.ne']
      _ = |x.magnitude / 10 ^ exponent - nearer| * 10 ^ exponent := by rw [abs_mul, abs_of_pos hten]
      _ ≤ 1 / 2 * 10 ^ exponent := mul_le_mul_of_nonneg_right hnear hten.le
      _ = 10 ^ exponent / 2 := by ring
  have hpos : 0 < nearer := by
    by_contra h
    rw [Nat.eq_zero_of_not_pos h, Nat.cast_zero, zero_mul, zero_sub, abs_neg] at hdistance
    have := le_abs_self x.magnitude
    linarith
  exact ofDecimal_of_near hfinite hpos (by linarith)

/-- The first of the grids down to the seventeenth digit that has a point to read has one that reads back. -/
theorem reads_findFactor {top : ℤ} (hlast : ∃ factor, factorAt? x (top - 16) = some factor) :
    ∀ tries : ℕ, tries ≤ 16 → let found := findFactor x top (tries + 1)
      ofDecimal x.negative found.1 found.2 = x
  | tries, htries => by
    unfold findFactor
    dsimp only
    split
    · next h => exact reads_of_factorAt h
    · next h =>
      cases tries with
      | zero =>
        -- the last grid is that of the seventeenth digit, on which something does read back
        obtain ⟨factor, hfactor⟩ := hlast
        rw [show top - ((16 - 0 : ℕ) : ℤ) = top - 16 from rfl, hfactor] at h
        cases h
      | succ tries => exact reads_findFactor hlast tries (by omega)

end

/-! ## Digits -/

/-- A zero at the end of the digits is one more in the exponent. -/
theorem ofDecimal_mul_ten (negative : Bool) {n : ℕ} (hn : 0 < n) (exponent : ℤ) :
    ofDecimal negative (10 * n) exponent = ofDecimal negative n (exponent + 1) := by
  have hsize : ((Nat.toDigits 10 (10 * n)).length : ℤ) + exponent = (Nat.toDigits 10 n).length + (exponent + 1) := by
    rw [toDigits_mul_ten hn, List.length_append, List.length_singleton]
    push_cast
    ring
  have hratio : ofRatio negative (10 * n * Nat.pow 10 exponent.toNat) (Nat.pow 10 (-exponent).toNat) =
      ofRatio negative (n * Nat.pow 10 (exponent + 1).toNat) (Nat.pow 10 (-(exponent + 1)).toNat) := by
    refine ofRatio_congr negative (Nat.pow_pos (by decide)) (Nat.pow_pos (by decide)) ?_
    rcases le_or_gt 0 exponent with h | h
    · rw [show (exponent + 1).toNat = exponent.toNat + 1 by omega, show (-exponent).toNat = 0 by omega,
        show (-(exponent + 1)).toNat = 0 by omega]
      simp only [Nat.pow_eq, Nat.pow_succ]
      ring
    · rw [show (-exponent).toNat = (-(exponent + 1)).toNat + 1 by omega, show exponent.toNat = 0 by omega,
        show (exponent + 1).toNat = 0 by omega]
      simp only [Nat.pow_eq, Nat.pow_succ]
      ring
  simp only [ofDecimal, if_neg hn.ne', if_neg (Nat.mul_pos (by decide : 0 < 10) hn).ne', hsize, hratio]

theorem ofDecimal_shift (negative : Bool) {n : ℕ} (hn : 0 < n) (exponent : ℤ) :
    ∀ zeros : ℕ, ofDecimal negative (10 ^ zeros * n) exponent = ofDecimal negative n (exponent + zeros)
  | 0 => by rw [pow_zero, one_mul, Nat.cast_zero, add_zero]
  | zeros + 1 => by
    rw [pow_succ', mul_assoc, ofDecimal_mul_ten negative (Nat.mul_pos (Nat.pow_pos (by decide)) hn),
      ofDecimal_shift negative hn _ zeros]
    congr 1
    push_cast
    ring

theorem digitChar_ne_zero {d : ℕ} (hpos : 0 < d) (hlt : d < 10) : d.digitChar ≠ '0' := by
  interval_cases d <;> decide

/-- The digits of a natural without the zeros at their end are those of what is left without them. -/
theorem exists_stripped : ∀ factor : ℕ, 0 < factor → ∃ n zeros : ℕ, 0 < n ∧ factor = 10 ^ zeros * n ∧
    ((Nat.toDigits 10 factor).reverse.dropWhile (· == '0')).reverse = Nat.toDigits 10 n ∧
    (Nat.toDigits 10 factor).length = (Nat.toDigits 10 n).length + zeros := by
  intro factor
  -- on the size of the factor, which loses a digit with each zero
  induction factor using Nat.strongRecOn with
  | ind factor ih =>
    intro hpos
    by_cases hlast : factor % 10 = 0
    · obtain ⟨m, rfl⟩ := Nat.dvd_of_mod_eq_zero hlast
      have hm : 0 < m := Nat.pos_of_mul_pos_left hpos
      obtain ⟨n, zeros, hn, rfl, hdigits, hlength⟩ := ih m (by omega) hm
      refine ⟨n, zeros + 1, hn, by rw [pow_succ', mul_assoc], ?_, ?_⟩
      · rw [toDigits_mul_ten hm, List.reverse_append, List.reverse_singleton, List.singleton_append,
          List.dropWhile_cons_of_pos (by decide), hdigits]
      · rw [toDigits_mul_ten hm, List.length_append, List.length_singleton, hlength, add_assoc]
    · refine ⟨factor, 0, hpos, by rw [pow_zero, one_mul], ?_, rfl⟩
      obtain ⟨front, hfront⟩ : ∃ front, Nat.toDigits 10 factor = front ++ [(factor % 10).digitChar] := by
        rw [Nat.toDigits_eq_if (by decide)]
        split
        · next hlt => exact ⟨[], by rw [Nat.mod_eq_of_lt hlt]; rfl⟩
        · exact ⟨_, rfl⟩
      have hne : ¬ ((factor % 10).digitChar == '0') = true := by
        simpa using digitChar_ne_zero (Nat.pos_of_ne_zero hlast) (Nat.mod_lt _ (by decide))
      rw [hfront, List.reverse_append, List.reverse_singleton, List.singleton_append, List.dropWhile_cons,
        if_neg hne, List.reverse_cons, List.reverse_reverse]

theorem mantissa_pos {x : Binary64} (hzero : x.isZero = false) : 0 < x.mantissa := by
  rw [isZero, Bool.and_eq_false_iff] at hzero
  simp only [beq_eq_false_iff_ne] at hzero
  unfold mantissa
  split <;> omega

/-- The shortest digits of a number, which is not zero, read back as the number. -/
theorem shortestDigits_spec {x : Binary64} (hfinite : x.isFinite = true) (hzero : x.isZero = false) :
    ∃ n : ℕ, 0 < n ∧ x.shortestDigits.1 = Nat.toDigits 10 n ∧
      ofDecimal x.negative n (x.shortestDigits.2 + 1 - (Nat.toDigits 10 n).length) = x := by
  have hnum : 0 < x.numerator := Nat.mul_pos (mantissa_pos hzero) (Nat.pow_pos two_pos)
  have hfine : (10 : ℚ) ^ (floorLog10 x.numerator x.denominator - 16 + 16) ≤ x.magnitude := by
    rw [sub_add_cancel, ← ratio_eq_magnitude]
    exact floorLog10_le hnum x.denominator_pos
  have hreads := reads_findFactor (exists_factorAt hfinite hfine) 16 (le_refl 16)
  dsimp only at hreads
  unfold shortestDigits
  generalize findFactor x (floorLog10 x.numerator x.denominator) 17 = found at hreads ⊢
  obtain ⟨factor, exponent⟩ := found
  dsimp only at hreads ⊢
  have hpos : 0 < factor := by
    by_contra h
    rw [Nat.eq_zero_of_not_pos h, ofDecimal, if_pos rfl] at hreads
    rw [← hreads] at hzero
    cases hzero
  obtain ⟨n, zeros, hn, rfl, hdigits, hlength⟩ := exists_stripped factor hpos
  refine ⟨n, hn, hdigits, ?_⟩
  rw [ofDecimal_shift x.negative hn] at hreads
  rw [hlength, show exponent + ((Nat.toDigits 10 n).length + zeros : ℕ) - 1 + 1 - (Nat.toDigits 10 n).length =
    exponent + zeros by push_cast; ring]
  exact hreads

end Workflows.Binary64
