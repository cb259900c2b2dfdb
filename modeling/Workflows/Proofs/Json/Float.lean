/-
Floating-point numbers in JSON read back: the shortest digits are read as they are, wherever the layout sets
the point and whether it writes an exponent, and they are digits of the number.
-/
import Workflows.Proofs.Json.Integer
import Workflows.Proofs.Number.Size
import Workflows.Proofs.Number.Shortest

namespace Workflows.Json

/-! ## Parts of a number -/

theorem isDigit_toDigits (n : Nat) : ∀ d ∈ Nat.toDigits 10 n, d.isDigit = true := fun _ =>
  Nat.isDigit_of_mem_toDigits (by decide) (by decide)

theorem isDigit_replicate (count : Nat) : ∀ d ∈ List.replicate count '0', d.isDigit = true := fun d hd => by
  rw [List.eq_of_mem_replicate hd]
  rfl

theorem fraction_digits {ds rest : List Char} (hne : ds ≠ []) (hd : ∀ d ∈ ds, d.isDigit = true) (hr : Past rest) :
    fraction? ('.' :: (ds ++ rest)) = some (ds, rest) := by
  have htake := takeWhile_digits hd hr
  have hdrop := dropWhile_digits hd hr
  obtain ⟨d, ds, rfl⟩ := List.exists_cons_of_ne_nil hne
  rw [List.cons_append] at htake hdrop ⊢
  rw [fraction?, if_pos (hd d List.mem_cons_self), htake, hdrop]

theorem fraction_exponent (cs : List Char) : fraction? ('e' :: cs) = none := rfl

/-- An exponent reads back. -/
theorem exponentPart_text (e : Int) {rest : List Char} (hr : Past rest) :
    exponentPart? ('e' :: (Binary64.exponentText e ++ rest)) = some (e, rest) := by
  obtain ⟨ds, htext, hne, hd, hvalue⟩ : ∃ ds : List Char, Binary64.exponentText e = (if e < 0 then '-' else '+') :: ds ∧
      ds ≠ [] ∧ (∀ d ∈ ds, d.isDigit = true) ∧ Nat.ofDigitChars 10 ds 0 = e.natAbs := by
    have hdigits := isDigit_toDigits e.natAbs
    refine ⟨_, rfl, ?_⟩
    split
    · refine ⟨List.cons_ne_nil _ _, fun d hmem => ?_, ?_⟩
      · rcases List.mem_cons.1 hmem with rfl | hmem
        · rfl
        · exact hdigits d hmem
      · rw [Nat.ofDigitChars_cons]
        exact Nat.ofDigitChars_ten_toDigits
    · exact ⟨Nat.toDigits_ne_nil, hdigits, Nat.ofDigitChars_ten_toDigits⟩
  have hempty : ds.isEmpty = false := by simpa using hne
  rw [htext]
  by_cases he : e < 0
  · simp only [if_pos he, exponentPart?, true_or, if_true, List.cons_append, Numeral.takeSign, takeWhile_digits hd hr,
      dropWhile_digits hd hr, hempty, Bool.false_eq_true, if_false, hvalue]
    rw [show (-(e.natAbs : Int)) = e by omega]
  · simp only [if_neg he, exponentPart?, true_or, if_true, List.cons_append, Numeral.takeSign, takeWhile_digits hd hr,
      dropWhile_digits hd hr, hempty, Bool.false_eq_true, if_false, hvalue]
    rw [show (e.natAbs : Int) = e by omega]

section

variable (negative : Bool) (start : Nat) {whole places rest : List Char} (hw : Whole whole)
  (hp : ∀ d ∈ places, d.isDigit = true)

include hw hp

/-- Digits with a point are read as they are. -/
theorem readUnsigned_places (hne : places ≠ []) (hr : Ends rest) :
    readUnsigned negative start (whole ++ '.' :: (places ++ rest)) =
      .ok (.float (Binary64.ofDecimal negative (Nat.ofDigitChars 10 (whole ++ places) 0) (-places.length)), rest) := by
  have hwhole : whole.isEmpty = false := by rcases hw with rfl | ⟨h, -⟩ <;> simp [*]
  have hplaces : places.isEmpty = false := by simpa using hne
  simp only [readUnsigned, wholePart_whole hw (past_cons (c := '.') rfl _), hwhole, fraction_digits hne hp hr.past,
    Option.getD_some, exponentPart_of_ends hr, hplaces, Bool.false_eq_true, if_false]

/-- Digits with an exponent are read as they are, with and without a point. -/
theorem readUnsigned_exponent (e : Int) (hr : Past rest) :
    readUnsigned negative start
        (whole ++ ((if places = [] then [] else '.' :: places) ++ 'e' :: (Binary64.exponentText e ++ rest))) =
      .ok (.float (Binary64.ofDecimal negative (Nat.ofDigitChars 10 (whole ++ places) 0) (e - places.length)), rest) := by
  have hwhole : whole.isEmpty = false := by rcases hw with rfl | ⟨h, -⟩ <;> simp [*]
  by_cases hplaces : places = []
  · subst hplaces
    simp only [if_true, List.nil_append, readUnsigned, wholePart_whole hw (past_cons (c := 'e') rfl _), hwhole,
      fraction_exponent, Option.getD_none, exponentPart_text e hr, Bool.false_eq_true, if_false]
  · simp only [if_neg hplaces, List.cons_append, readUnsigned, wholePart_whole hw (past_cons (c := '.') rfl _), hwhole,
      fraction_digits hplaces hp (past_cons (c := 'e') rfl _), Option.getD_some, exponentPart_text e hr, Bool.false_eq_true,
      if_false]

end

/-! ## Layouts -/

theorem ofDigitChars_padded (n zeros : Nat) :
    Nat.ofDigitChars 10 (Nat.toDigits 10 n ++ List.replicate zeros '0') 0 = 10 ^ zeros * n := by
  rw [Nat.ofDigitChars_append, Nat.ofDigitChars_ten_toDigits, Nat.ofDigitChars_replicate_zero]

theorem whole_take {n count : Nat} (hn : 0 < n) (hcount : 0 < count) : Whole ((Nat.toDigits 10 n).take count) := by
  obtain ⟨d, ds, hcons, -⟩ := toDigits_cons n
  have h0 := head_toDigits n hn
  have hd := isDigit_toDigits n
  obtain ⟨count, rfl⟩ := Nat.exists_eq_add_of_lt hcount
  refine .inr ⟨by simp [hcons], ?_, fun d hmem => hd d (List.mem_of_mem_take hmem)⟩
  rw [hcons] at h0 ⊢
  simpa using h0

section

variable (negative : Bool) (start : Nat) {n : Nat} {e : Int} {rest : List Char}

/-- Digits that end before the point, with zeros up to it and one behind it. -/
theorem readUnsigned_whole (hn : 0 < n) (hr : Ends rest) (he : 0 ≤ e)
    (hshort : (Nat.toDigits 10 n).length ≤ e.toNat + 1) :
    readUnsigned negative start (Nat.toDigits 10 n ++ List.replicate (e.toNat + 1 - (Nat.toDigits 10 n).length) '0' ++
        ['.', '0'] ++ rest) =
      .ok (.float (Binary64.ofDecimal negative n (e + 1 - (Nat.toDigits 10 n).length)), rest) := by
  obtain ⟨zeros, hzeros⟩ := Nat.exists_eq_add_of_le hshort
  have hwhole : Whole (Nat.toDigits 10 n ++ List.replicate zeros '0') := by
    refine .inr ⟨by simp, ?_, fun d hmem => ?_⟩
    · rw [List.head?_append_of_ne_nil _ Nat.toDigits_ne_nil]
      exact head_toDigits n hn
    · exact (List.mem_append.1 hmem).elim (isDigit_toDigits n d) (isDigit_replicate zeros d)
  have hread := readUnsigned_places negative start hwhole (isDigit_replicate 1) (by simp) hr
  have hdigits : Nat.ofDigitChars 10 (Nat.toDigits 10 n ++ List.replicate zeros '0' ++ List.replicate 1 '0') 0 =
      10 ^ (zeros + 1) * n := by
    rw [List.append_assoc, ← List.replicate_add, ofDigitChars_padded]
  rw [hdigits, Binary64.ofDecimal_shift negative hn] at hread
  rw [show e.toNat + 1 - (Nat.toDigits 10 n).length = zeros by omega,
    show e + 1 - ((Nat.toDigits 10 n).length : Int) = -((List.replicate 1 '0').length : Int) + (zeros + 1 : Nat) by
      simp only [List.length_replicate]; omega, ← hread]
  simp

/-- Digits with the point among them. -/
theorem readUnsigned_split (hn : 0 < n) (hr : Ends rest) (he : 0 ≤ e)
    (hlong : e.toNat + 1 < (Nat.toDigits 10 n).length) :
    readUnsigned negative start ((Nat.toDigits 10 n).take (e.toNat + 1) ++
        '.' :: (Nat.toDigits 10 n).drop (e.toNat + 1) ++ rest) =
      .ok (.float (Binary64.ofDecimal negative n (e + 1 - (Nat.toDigits 10 n).length)), rest) := by
  have hread := readUnsigned_places negative start (whole_take hn (Nat.succ_pos e.toNat))
    (fun d hmem => isDigit_toDigits n d (List.mem_of_mem_drop (i := e.toNat + 1) hmem))
    (fun h => not_le.2 hlong (List.drop_eq_nil_iff.1 h)) hr
  rw [List.take_append_drop, Nat.ofDigitChars_ten_toDigits, List.length_drop] at hread
  rw [show e + 1 - ((Nat.toDigits 10 n).length : Int) = -((Nat.toDigits 10 n).length - (e.toNat + 1) : Nat) by omega,
    ← hread]
  simp

/-- Digits behind the point, with zeros between. -/
theorem readUnsigned_behind (hr : Ends rest) (he : e < 0) :
    readUnsigned negative start ('0' :: '.' :: List.replicate ((-e).toNat - 1) '0' ++ Nat.toDigits 10 n ++ rest) =
      .ok (.float (Binary64.ofDecimal negative n (e + 1 - (Nat.toDigits 10 n).length)), rest) := by
  have hread := readUnsigned_places negative start (.inl rfl) (fun d hmem => (List.mem_append.1 hmem).elim
    (isDigit_replicate ((-e).toNat - 1) d) (isDigit_toDigits n d)) (by simp) hr
  have hdigits : Nat.ofDigitChars 10 (['0'] ++ (List.replicate ((-e).toNat - 1) '0' ++ Nat.toDigits 10 n)) 0 = n := by
    rw [List.singleton_append, Nat.ofDigitChars_cons, Nat.ofDigitChars_append, Nat.ofDigitChars_replicate_zero]
    exact Nat.ofDigitChars_ten_toDigits
  rw [hdigits, List.length_append, List.length_replicate] at hread
  rw [show e + 1 - ((Nat.toDigits 10 n).length : Int) = -((-e).toNat - 1 + (Nat.toDigits 10 n).length : Nat) by omega,
    ← hread]
  simp

/-- Digits with an exponent, and with a point behind the first of them if there are more. -/
theorem readUnsigned_scientific (hn : 0 < n) (hr : Ends rest) :
    readUnsigned negative start ((if (Nat.toDigits 10 n).length ≤ 1 then Nat.toDigits 10 n
        else (Nat.toDigits 10 n).take 1 ++ '.' :: (Nat.toDigits 10 n).drop 1) ++ 'e' :: Binary64.exponentText e ++ rest) =
      .ok (.float (Binary64.ofDecimal negative n (e + 1 - (Nat.toDigits 10 n).length)), rest) := by
  have hlength : 0 < (Nat.toDigits 10 n).length := Nat.length_toDigits_pos
  have hread := readUnsigned_exponent negative start (whole_take hn one_pos)
    (fun d hmem => isDigit_toDigits n d (List.mem_of_mem_drop (i := 1) hmem)) e hr.past
  rw [List.take_append_drop, Nat.ofDigitChars_ten_toDigits, List.length_drop] at hread
  rw [show e + 1 - ((Nat.toDigits 10 n).length : Int) = e - ((Nat.toDigits 10 n).length - 1 : Nat) by omega, ← hread]
  by_cases hone : (Nat.toDigits 10 n).length ≤ 1
  · have htake : (Nat.toDigits 10 n).take 1 = Nat.toDigits 10 n := List.take_of_length_le hone
    have hdrop : (Nat.toDigits 10 n).drop 1 = [] := List.drop_eq_nil_of_le hone
    rw [if_pos hone, htake, hdrop, if_pos rfl]
    simp
  · have hdrop : (Nat.toDigits 10 n).drop 1 ≠ [] := fun h => hone (List.drop_eq_nil_iff.1 h)
    rw [if_neg hone, if_neg hdrop]
    simp

/-- Digits that do not begin with a zero are read from every layout as they are. -/
theorem readUnsigned_layout (hn : 0 < n) (e : Int) (hr : Ends rest) :
    readUnsigned negative start (Binary64.layoutDigits (Nat.toDigits 10 n) e ++ rest) =
      .ok (.float (Binary64.ofDecimal negative n (e + 1 - (Nat.toDigits 10 n).length)), rest) := by
  unfold Binary64.layoutDigits
  split
  · next he =>
    dsimp only
    split
    · next hshort => exact readUnsigned_whole negative start hn hr he.1 hshort
    · next hlong => exact readUnsigned_split negative start hn hr he.1 (not_le.1 hlong)
  · split
    · next he => exact readUnsigned_behind negative start hr he.2
    · exact readUnsigned_scientific negative start hn hr

end

/-! ## Numbers -/

/-- A finite number without its sign is read with it. -/
theorem readUnsigned_magnitude {x : Binary64} (hfinite : x.isFinite = true) (start : Nat) {rest : List Char} (hr : Ends rest) :
    readUnsigned x.negative start (x.magnitudeText ++ rest) = .ok (.float x, rest) := by
  unfold Binary64.magnitudeText
  split
  · next hzero =>
    have hx : Binary64.zero x.negative = x := by
      obtain ⟨negative, exponent, fraction⟩ := x
      rw [Binary64.isZero, Bool.and_eq_true, beq_iff_eq, beq_iff_eq] at hzero
      rw [Binary64.zero, Binary64.mk.injEq]
      exact ⟨rfl, Fin.ext hzero.1.symm, Fin.ext hzero.2.symm⟩
    have hread := readUnsigned_places x.negative start (.inl rfl) (isDigit_replicate 1) (by simp) hr
    rw [show Nat.ofDigitChars 10 (['0'] ++ List.replicate 1 '0') 0 = 0 from rfl, Binary64.ofDecimal, if_pos rfl, hx] at hread
    exact hread
  · next hzero =>
    obtain ⟨n, hn, hdigits, hreads⟩ := Binary64.shortestDigits_spec hfinite (Bool.eq_false_iff.2 hzero)
    rw [hdigits, readUnsigned_layout x.negative start hn _ hr, hreads]

theorem isDigit_of_readUnsigned {negative : Bool} {start : Nat} {cs : List Char} {found : Value × List Char}
    (h : readUnsigned negative start cs = .ok found) : ∃ d ds, cs = d :: ds ∧ d.isDigit = true := by
  cases cs with
  | nil => cases h
  | cons d ds =>
    refine ⟨d, ds, rfl, ?_⟩
    by_contra hd
    have hwhole : (wholePart (d :: ds)).1 = [] := by
      unfold wholePart
      split
      · next heq => cases heq; exact absurd rfl hd
      · exact List.takeWhile_cons_of_neg hd
    simp [readUnsigned, hwhole] at h

/-- The text of a finite number begins with a digit. -/
theorem magnitudeText_cons {x : Binary64} (hfinite : x.isFinite = true) :
    ∃ d ds, x.magnitudeText = d :: ds ∧ d.isDigit = true := by
  have hread := readUnsigned_magnitude hfinite 0 (show Ends [] by simp [Ends])
  rw [List.append_nil] at hread
  exact isDigit_of_readUnsigned hread

theorem writeFloat_of_finite {x : Binary64} (hfinite : x.isFinite = true) :
    writeFloat x = if x.negative then '-' :: x.magnitudeText else x.magnitudeText := by
  have hexponent : x.exponent.val ≠ 2047 := by simpa [Binary64.isFinite] using hfinite
  have hnan : x.isNaN = false := by simp [Binary64.isNaN, hexponent]
  have hinfinite : x.isInfinite = false := by simp [Binary64.isInfinite, hexponent]
  simp only [writeFloat, Binary64.text, hnan, hinfinite, Bool.false_eq_true, if_false, String.toList_ofList]

/-- A finite number reads back. -/
theorem readNumber_writeFloat {x : Binary64} (hfinite : x.isFinite = true) {rest : List Char} (hr : Ends rest) :
    readNumber (writeFloat x ++ rest) = .ok (.float x, rest) := by
  have hread := fun start => readUnsigned_magnitude hfinite start hr
  obtain ⟨d, ds, hcons, hd⟩ := magnitudeText_cons hfinite
  rw [writeFloat_of_finite hfinite]
  cases hnegative : x.negative with
  | true =>
    rw [hnegative] at hread
    exact hread _
  | false =>
    rw [hnegative] at hread
    rw [if_neg (by decide), hcons, List.cons_append]
    rw [hcons, List.cons_append] at hread
    unfold readNumber
    split
    · next cs heq =>
      cases heq
      exact absurd hd (by decide)
    · exact hread _

end Workflows.Json
