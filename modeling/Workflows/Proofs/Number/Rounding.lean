/-
Rounding of quotients. It depends on the quotient alone, and every quotient that is nearer to a finite number
than the fifty-fourth power of two goes into the number is rounded to it: half a gap is farther than that, and
so is a quarter of one below a power of two.
-/
import Mathlib.Algebra.Order.Field.Power
import Mathlib.Data.Int.Log
import Mathlib.Data.Rat.Floor
import Mathlib.Tactic
import Workflows.Number.Binary64

namespace Workflows.Binary64

/-! ## Powers -/

/-- A power with any exponent, from powers with natural exponents. -/
theorem pow_div_pow {b : ℕ} (hb : b ≠ 0) (e : ℤ) :
    ((Nat.pow b e.toNat : ℕ) : ℚ) / (Nat.pow b (-e).toNat : ℕ) = (b : ℚ) ^ e := by
  have hb' : (b : ℚ) ≠ 0 := Nat.cast_ne_zero.2 hb
  rcases le_total 0 e with h | h
  · obtain ⟨n, rfl⟩ := Int.eq_ofNat_of_zero_le h
    simp
  · obtain ⟨n, hn⟩ := Int.eq_ofNat_of_zero_le (neg_nonneg.2 h)
    obtain rfl : e = -n := by omega
    simp

section

variable {num den : ℕ} (hnum : 0 < num) (hden : 0 < den)

include hden

/-- A quotient is at least a power of any base. -/
theorem pow_le_ratio_iff {b : ℕ} (hb : 0 < b) (e : ℤ) :
    den * Nat.pow b e.toNat ≤ num * Nat.pow b (-e).toNat ↔ (b : ℚ) ^ e ≤ (num : ℚ) / den := by
  have hpow : (0 : ℚ) < (Nat.pow b (-e).toNat : ℕ) := Nat.cast_pos.2 (Nat.pow_pos hb)
  have hden' : (0 : ℚ) < den := Nat.cast_pos.2 hden
  rw [← pow_div_pow hb.ne', div_le_div_iff₀ hpow hden', ← Nat.cast_mul, ← Nat.cast_mul, Nat.cast_le, mul_comm]

include hnum

theorem ratio_pos : (0 : ℚ) < (num : ℚ) / den := div_pos (Nat.cast_pos.2 hnum) (Nat.cast_pos.2 hden)

omit hden in
theorem log2_bounds : ((2 : ℕ) : ℚ) ^ (Nat.log2 num : ℤ) ≤ num ∧ (num : ℚ) < ((2 : ℕ) : ℚ) ^ ((Nat.log2 num : ℤ) + 1) := by
  constructor
  · exact_mod_cast Nat.log2_self_le hnum.ne'
  · exact_mod_cast Nat.lt_log2_self

/-- The exponent of the greatest power of two that is not above a quotient is its logarithm. -/
theorem floorLog2_eq : floorLog2 num den = Int.log 2 ((num : ℚ) / den) := by
  have hpos := ratio_pos hnum hden
  have hle : ∀ e : ℤ, atLeastPower num den e = true ↔ e ≤ Int.log 2 ((num : ℚ) / den) := fun e => by
    rw [atLeastPower, decide_eq_true_iff, pow_le_ratio_iff hden two_pos, Int.zpow_le_iff_le_log one_lt_two hpos]
  have hnum' := log2_bounds hnum
  have hden' := log2_bounds hden
  -- the powers next below the two naturals and those next above them bound the quotient on either side
  have hlow : (Nat.log2 num : ℤ) - Nat.log2 den - 1 ≤ Int.log 2 ((num : ℚ) / den) := by
    rw [← Int.zpow_le_iff_le_log one_lt_two hpos, sub_sub, zpow_sub₀ (by norm_num)]
    exact div_le_div₀ (Nat.cast_nonneg _) hnum'.1 (Nat.cast_pos.2 hden) hden'.2.le
  have hhigh : Int.log 2 ((num : ℚ) / den) < (Nat.log2 num : ℤ) - Nat.log2 den + 1 := by
    rw [← Int.lt_zpow_iff_log_lt one_lt_two hpos, sub_add_eq_add_sub, zpow_sub₀ (by norm_num)]
    exact div_lt_div₀ hnum'.2 hden'.1 (by positivity) (by positivity)
  unfold floorLog2
  dsimp only
  split
  · next h =>
    have := (hle _).1 h
    omega
  · next h =>
    have := mt (hle _).2 h
    omega

end

/-! ## Nearest whole numbers -/

section

variable {num den : ℕ} (hden : 0 < den)

include hden

theorem ratio_eq_low_add : (num : ℚ) / den = (num / den : ℕ) + (num % den : ℕ) / (den : ℚ) := by
  have hden' : (den : ℚ) ≠ 0 := Nat.cast_ne_zero.2 hden.ne'
  rw [div_eq_iff hden', add_mul, div_mul_cancel₀ _ hden']
  exact_mod_cast (Nat.div_add_mod' num den).symm

variable (num) in
/-- The nearest whole number is at most half a unit away. -/
theorem roundHalfEven_near : |(num : ℚ) / den - roundHalfEven num den| ≤ 1 / 2 := by
  have hden' : (0 : ℚ) < den := Nat.cast_pos.2 hden
  have hrest : (0 : ℚ) ≤ (num % den : ℕ) / (den : ℚ) := by positivity
  have hrest' : (num % den : ℕ) / (den : ℚ) < 1 := (div_lt_one hden').2 (Nat.cast_lt.2 (Nat.mod_lt num hden))
  have hbelow : 2 * (num % den) ≤ den → (num % den : ℕ) / (den : ℚ) ≤ 1 / 2 := fun h => by
    rw [div_le_div_iff₀ hden' two_pos]
    exact_mod_cast (by omega : num % den * 2 ≤ 1 * den)
  have habove : den ≤ 2 * (num % den) → 1 / 2 ≤ (num % den : ℕ) / (den : ℚ) := fun h => by
    rw [div_le_div_iff₀ two_pos hden']
    exact_mod_cast (by omega : 1 * den ≤ num % den * 2)
  rw [ratio_eq_low_add hden, abs_le]
  unfold roundHalfEven
  dsimp only
  split
  · next h =>
    have := hbelow h.le
    constructor <;> linarith
  · next h =>
    have := habove (not_lt.1 h)
    split
    · push_cast
      constructor <;> linarith
    · next h' =>
      have := hbelow (not_lt.1 h')
      split
      · constructor <;> linarith
      · push_cast
        constructor <;> linarith

/-- A whole number less than half a unit away is the nearest one. -/
theorem roundHalfEven_of_near {m : ℕ} (h : |(num : ℚ) / den - m| < 1 / 2) : roundHalfEven num den = m := by
  have hnear := abs_le.1 (roundHalfEven_near num hden)
  have h := abs_lt.1 h
  have hlow : (m : ℚ) < roundHalfEven num den + 1 := by linarith
  have hhigh : (roundHalfEven num den : ℚ) < m + 1 := by linarith
  have hlow' : m < roundHalfEven num den + 1 := by exact_mod_cast hlow
  have hhigh' : roundHalfEven num den < m + 1 := by exact_mod_cast hhigh
  omega

omit hden in
theorem roundHalfEven_mul {k : ℕ} (hk : 0 < k) : roundHalfEven (k * num) (k * den) = roundHalfEven num den := by
  have htwice : 2 * (k * num % (k * den)) = k * (2 * (num % den)) := by
    rw [Nat.mul_mod_mul_left, Nat.mul_left_comm]
  unfold roundHalfEven
  simp only [htwice, Nat.mul_div_mul_left _ _ hk, Nat.mul_lt_mul_left hk]

/-- Equal quotients are rounded alike. -/
theorem roundHalfEven_congr {num' den' : ℕ} (hden' : 0 < den') (h : num * den' = num' * den) :
    roundHalfEven num den = roundHalfEven num' den' := by
  rw [← roundHalfEven_mul hden', ← @roundHalfEven_mul num' den' den hden, Nat.mul_comm den' num, h, Nat.mul_comm den num',
    Nat.mul_comm den' den]

end

/-- Equal quotients are rounded to the same number. -/
theorem ofRatio_congr (negative : Bool) {num den num' den' : ℕ} (hden : 0 < den) (hden' : 0 < den')
    (h : num * den' = num' * den) : ofRatio negative num den = ofRatio negative num' den' := by
  by_cases hnum : num = 0
  · subst hnum
    have hnum' : num' = 0 := by
      rw [zero_mul] at h
      exact (Nat.mul_eq_zero.1 h.symm).resolve_right hden.ne'
    rw [ofRatio, ofRatio, if_pos rfl, if_pos hnum']
  · have hnum' : num' ≠ 0 := fun h0 => by
      rw [h0, zero_mul] at h
      exact (Nat.mul_eq_zero.1 h).elim hnum hden'.ne'
    have hratio : (num : ℚ) / den = (num' : ℚ) / den' := by
      rw [div_eq_div_iff (Nat.cast_ne_zero.2 hden.ne') (Nat.cast_ne_zero.2 hden'.ne')]
      exact_mod_cast h
    have hlog : floorLog2 num den = floorLog2 num' den' := by
      rw [floorLog2_eq (Nat.pos_of_ne_zero hnum) hden, floorLog2_eq (Nat.pos_of_ne_zero hnum') hden', hratio]
    rw [ofRatio, ofRatio, if_neg hnum, if_neg hnum']
    dsimp only
    rw [hlog]
    congr 1
    refine roundHalfEven_congr (Nat.mul_pos hden (Nat.pow_pos two_pos)) (Nat.mul_pos hden' (Nat.pow_pos two_pos)) ?_
    rw [Nat.mul_mul_mul_comm, h, Nat.mul_mul_mul_comm]
    rfl

/-! ## Numbers and their neighbourhoods -/

/-- The magnitude of a finite number. -/
def magnitude (x : Binary64) : ℚ := x.mantissa * 2 ^ x.power

theorem denominator_pos (x : Binary64) : 0 < x.denominator := Nat.pow_pos two_pos

theorem ratio_eq_magnitude (x : Binary64) : (x.numerator : ℚ) / x.denominator = x.magnitude := by
  rw [numerator, denominator, magnitude, Nat.cast_mul, mul_div_assoc, pow_div_pow two_ne_zero, Nat.cast_ofNat]

/-- What a finite number is made of: a full mantissa, or the least power. -/
theorem mantissa_cases {x : Binary64} (hfinite : x.isFinite = true) :
    x.mantissa < 2 ^ 53 ∧ -1074 ≤ x.power ∧ x.power ≤ 971 ∧ (2 ^ 52 ≤ x.mantissa ∨ x.power = -1074) := by
  have hne : x.exponent.val ≠ 2047 := by simpa [isFinite] using hfinite
  have := x.exponent.isLt
  have := x.fraction.isLt
  unfold mantissa power
  split_ifs <;> omega

theorem pack_of_small {negative : Bool} {m : ℕ} {q : ℤ} (h : m < 2 ^ 52) :
    pack negative m q = ⟨negative, 0, fractionField m⟩ := by
  have hfull : ¬ m = 0x20000000000000 := by omega
  unfold pack
  simp only [if_neg hfull]
  exact if_pos h

theorem pack_of_full {negative : Bool} {m : ℕ} {q : ℤ} (hlow : 2 ^ 52 ≤ m) (hhigh : m < 2 ^ 53) (hq : q ≤ 971) :
    pack negative m q = ⟨negative, exponentField (q + 1075).toNat, fractionField (m - 2 ^ 52)⟩ := by
  have hfull : ¬ m = 0x20000000000000 := by omega
  unfold pack
  simp only [if_neg hfull]
  rw [if_neg (by omega), if_pos (by omega)]
  rfl

/-- A finite number is packed of its parts. -/
theorem pack_parts {x : Binary64} (hfinite : x.isFinite = true) : pack x.negative x.mantissa x.power = x := by
  have hne : x.exponent.val ≠ 2047 := by simpa [isFinite] using hfinite
  have hbound := x.exponent.isLt
  by_cases hzero : x.exponent.val = 0
  · have hmantissa : x.mantissa = x.fraction.val := if_pos hzero
    have hfraction : fractionField x.fraction.val = x.fraction := Fin.ext (Nat.mod_eq_of_lt x.fraction.isLt)
    have hexponent : x.exponent = 0 := Fin.ext hzero
    rw [hmantissa, pack_of_small x.fraction.isLt, hfraction, ← hexponent]
  · have hmantissa : x.mantissa = 2 ^ 52 + x.fraction.val := if_neg hzero
    have hpower : x.power = x.exponent.val - 1075 := if_neg hzero
    have hfraction : fractionField (2 ^ 52 + x.fraction.val - 2 ^ 52) = x.fraction := by
      rw [Nat.add_sub_cancel_left]
      exact Fin.ext (Nat.mod_eq_of_lt x.fraction.isLt)
    have hexponent : exponentField (x.exponent.val - 1075 + 1075 : ℤ).toNat = x.exponent := by
      rw [sub_add_cancel, Int.toNat_natCast]
      exact Fin.ext (Nat.mod_eq_of_lt hbound)
    have hfull : x.mantissa < 2 ^ 53 := (mantissa_cases hfinite).1
    rw [hmantissa] at hfull ⊢
    rw [hpower, pack_of_full (Nat.le_add_right _ _) hfull (by omega), hfraction, hexponent]

/-- Below a power of two the mantissa runs over, and the power takes its place. -/
theorem pack_over {x : Binary64} (hfinite : x.isFinite = true) (hmantissa : x.mantissa = 2 ^ 52) :
    pack x.negative (2 ^ 53) (x.power - 1) = x := by
  have hpack : pack x.negative (2 ^ 53) (x.power - 1) = pack x.negative (2 ^ 52) x.power := by
    have hpower := (mantissa_cases hfinite).2.2.1
    rw [pack_of_full (le_refl _) (by norm_num) hpower]
    unfold pack
    simp only [show (2 : ℕ) ^ 53 = 0x20000000000000 from rfl, if_true, sub_add_cancel]
    rw [if_neg (by decide), if_pos (by omega)]
    rfl
  rw [hpack, ← hmantissa, pack_parts hfinite]

section

variable {num den : ℕ} (hnum : 0 < num) (hden : 0 < den)

include hnum hden

/-- A quotient is packed of the nearest multiple of the power that its size gives it. -/
theorem ofRatio_eq_pack (negative : Bool) {m : ℕ} {q : ℤ} (hq : max (Int.log 2 ((num : ℚ) / den) - 52) (-1074) = q)
    (hnear : |(num : ℚ) / den - m * 2 ^ q| < 2 ^ q / 2) : ofRatio negative num den = pack negative m q := by
  have hpow : (0 : ℚ) < 2 ^ q := by positivity
  have hscaled : ((num * Nat.pow 2 (-q).toNat : ℕ) : ℚ) / (den * Nat.pow 2 q.toNat : ℕ) = (num : ℚ) / den / 2 ^ q := by
    rw [Nat.cast_mul, Nat.cast_mul, mul_div_mul_comm, ← inv_div ((Nat.pow 2 q.toNat : ℕ) : ℚ), pow_div_pow two_ne_zero,
      Nat.cast_ofNat, ← div_eq_mul_inv]
  have hwhole : roundHalfEven (num * Nat.pow 2 (-q).toNat) (den * Nat.pow 2 q.toNat) = m := by
    have hscale : 0 < den * Nat.pow 2 q.toNat := Nat.mul_pos hden (Nat.pow_pos two_pos)
    refine roundHalfEven_of_near hscale ?_
    rw [hscaled, div_sub' hpow.ne', abs_div, abs_of_pos hpow, div_lt_iff₀ hpow, mul_comm _ (m : ℚ)]
    linarith
  rw [ofRatio, if_neg hnum.ne']
  dsimp only
  rw [floorLog2_eq hnum hden, hq, hwhole]

omit hnum hden in
theorem two_zpow_add (q : ℤ) (n : ℕ) : ((2 : ℕ) : ℚ) ^ (q + n) = 2 ^ q * 2 ^ n := by
  rw [zpow_add₀ (by norm_num), zpow_natCast, Nat.cast_ofNat]

section

variable {x : Binary64} (hfinite : x.isFinite = true)
  (h : 2 ^ 54 * |(num : ℚ) / den - x.mantissa * 2 ^ x.power| < x.mantissa * 2 ^ x.power)

include hfinite h

omit hnum hden in
/-- What is that near to a number is nearer than half a multiple of its power. -/
theorem near_of_near : |(num : ℚ) / den - x.mantissa * 2 ^ x.power| < 2 ^ x.power / 2 := by
  have hu : (0 : ℚ) < 2 ^ x.power := by positivity
  have hm : (x.mantissa : ℚ) < 2 ^ 53 := by exact_mod_cast (mantissa_cases hfinite).1
  nlinarith

/-- Just below a power of two the multiples are of half the power, and the one next above is as near. -/
theorem ofRatio_below_power (hmantissa : x.mantissa = 2 ^ 52) (hpower : x.power ≠ -1074)
    (hless : (num : ℚ) / den < x.mantissa * 2 ^ x.power) : ofRatio x.negative num den = x := by
  have hpos := ratio_pos hnum hden
  have hu : (0 : ℚ) < 2 ^ x.power := by positivity
  obtain ⟨-, hleast, -⟩ := mantissa_cases hfinite
  obtain ⟨hbelow, -⟩ := abs_lt.1 (near_of_near hfinite h)
  have hm : (x.mantissa : ℚ) = 2 ^ 52 := by exact_mod_cast hmantissa
  rw [hm] at h hless hbelow
  have hlow : x.power + 51 ≤ Int.log 2 ((num : ℚ) / den) := by
    rw [← Int.zpow_le_iff_le_log one_lt_two hpos, show (51 : ℤ) = (51 : ℕ) from rfl, two_zpow_add]
    nlinarith
  have hhigh : Int.log 2 ((num : ℚ) / den) < x.power + 52 := by
    rw [← Int.lt_zpow_iff_log_lt one_lt_two hpos, show (52 : ℤ) = (52 : ℕ) from rfl, two_zpow_add]
    linarith
  have hpower' : max (Int.log 2 ((num : ℚ) / den) - 52) (-1074) = x.power - 1 := by omega
  have hhalf : (2 : ℚ) ^ (x.power - 1) = 2 ^ x.power / 2 := by rw [zpow_sub_one₀ two_ne_zero, div_eq_mul_inv]
  have hnear : |(num : ℚ) / den - (2 ^ 53 : ℕ) * 2 ^ (x.power - 1)| < 2 ^ (x.power - 1) / 2 := by
    rw [hhalf, show ((2 ^ 53 : ℕ) : ℚ) * (2 ^ x.power / 2) = 2 ^ 52 * 2 ^ x.power by push_cast; ring]
    linarith
  rw [ofRatio_eq_pack hnum hden x.negative hpower' hnear, pack_over hfinite hmantissa]

/-- Everywhere else the quotient has the size of the number, and its multiples are those of the same power. -/
theorem ofRatio_of_size
    (hover : x.mantissa = 2 ^ 52 → x.power ≠ -1074 → x.mantissa * 2 ^ x.power ≤ (num : ℚ) / den) :
    ofRatio x.negative num den = x := by
  have hpos := ratio_pos hnum hden
  have hu : (0 : ℚ) < 2 ^ x.power := by positivity
  obtain ⟨hsmall, hleast, -, hfull⟩ := mantissa_cases hfinite
  have hnear := near_of_near hfinite h
  obtain ⟨hbelow, habove⟩ := abs_lt.1 hnear
  have hupper : Int.log 2 ((num : ℚ) / den) < x.power + 53 := by
    have hm : (x.mantissa : ℚ) + 1 ≤ 2 ^ 53 := by exact_mod_cast hsmall
    rw [← Int.lt_zpow_iff_log_lt one_lt_two hpos, show (53 : ℤ) = (53 : ℕ) from rfl, two_zpow_add]
    nlinarith
  have hlower : x.power ≠ -1074 → x.power + 52 ≤ Int.log 2 ((num : ℚ) / den) := fun hpower => by
    rw [← Int.zpow_le_iff_le_log one_lt_two hpos, show (52 : ℤ) = (52 : ℕ) from rfl, two_zpow_add]
    rcases Nat.eq_or_lt_of_le (hfull.resolve_right hpower) with heq | hlt
    · have hge := hover heq.symm hpower
      have hm : (x.mantissa : ℚ) = 2 ^ 52 := by exact_mod_cast heq.symm
      rw [hm] at hge
      linarith
    · have hm : (2 : ℚ) ^ 52 + 1 ≤ x.mantissa := by exact_mod_cast hlt
      nlinarith
  have hpower : max (Int.log 2 ((num : ℚ) / den) - 52) (-1074) = x.power := by
    by_cases hpower : x.power = -1074
    · omega
    · have := hlower hpower
      omega
  rw [ofRatio_eq_pack hnum hden x.negative hpower hnear, pack_parts hfinite]

end

/-- A quotient that is nearer to a finite number than `2 ^ 54` goes into it is rounded to it. -/
theorem ofRatio_of_near {x : Binary64} (hfinite : x.isFinite = true)
    (h : 2 ^ 54 * |(num : ℚ) / den - x.magnitude| < x.magnitude) : ofRatio x.negative num den = x := by
  by_cases hover : x.mantissa = 2 ^ 52 ∧ x.power ≠ -1074 ∧ (num : ℚ) / den < x.mantissa * 2 ^ x.power
  · exact ofRatio_below_power hnum hden hfinite h hover.1 hover.2.1 hover.2.2
  · exact ofRatio_of_size hnum hden hfinite h fun hmantissa hpower => not_lt.1 fun hless =>
      hover ⟨hmantissa, hpower, hless⟩

end

end Workflows.Binary64
