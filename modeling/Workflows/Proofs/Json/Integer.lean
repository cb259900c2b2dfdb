/-
Integers in JSON read back: their digits are taken to the last one, no sign of a fraction or an
exponent follows, and no word begins like them.
-/
import Mathlib.Tactic
import Workflows.Json.Printer
import Workflows.Json.Reader

namespace Workflows.Json

open Workflows.Text

/-! ## Digits -/

theorem bounds_of_isDigit {d : Char} (h : d.isDigit = true) : 48 ≤ d.toNat ∧ d.toNat ≤ 57 := by
  rw [Char.isDigit, Bool.and_eq_true, decide_eq_true_iff, decide_eq_true_iff, UInt32.le_iff_toNat_le] at h
  exact h

theorem isDigit_ne {d c : Char} (h : d.isDigit = true) (hc : c.isDigit = false) : d ≠ c := by
  rintro rfl
  rw [h] at hc
  cases hc

theorem word_digit {d : Char} (h : d.isDigit = true) (cs : List Char) : word? (d :: cs) = none := by
  have hd : ∀ c, c.isDigit = false → (c == d) = false := fun c hc =>
    beq_eq_false_iff_ne.2 (isDigit_ne h hc).symm
  simp [word?, words, List.isPrefixOf?, hd 'n' rfl, hd 't' rfl, hd 'f' rfl, hd 'N' rfl, hd 'I' rfl, hd '-' rfl]

theorem word_negative {d : Char} (h : d.isDigit = true) (cs : List Char) : word? ('-' :: d :: cs) = none := by
  have hd : ('I' == d) = false := beq_eq_false_iff_ne.2 (isDigit_ne h rfl).symm
  simp [word?, words, List.isPrefixOf?, hd]

/-- A character that would not go on with a number. -/
def Apart (c : Char) : Prop := c.isDigit = false ∧ c ≠ '.' ∧ c ≠ 'e' ∧ c ≠ 'E'

instance (c : Char) : Decidable (Apart c) := inferInstanceAs (Decidable (_ ∧ _))

/-- What may follow a number: nothing that would go on with it. -/
def Ends (rest : List Char) : Prop := ∀ c ∈ rest.head?, Apart c

theorem ends_cons {c : Char} (cs : List Char) (h : Apart c) : Ends (c :: cs) := by
  simpa [Ends] using h

theorem toDigits_cons (n : Nat) : ∃ d ds, Nat.toDigits 10 n = d :: ds ∧ d.isDigit = true := by
  obtain ⟨d, ds, h⟩ := List.exists_cons_of_ne_nil (Nat.toDigits_ne_nil (n := n) (b := 10))
  exact ⟨d, ds, h, Nat.isDigit_of_mem_toDigits (by decide) (by decide) (h ▸ List.mem_cons_self)⟩

theorem head_toDigits (n : Nat) (h : 0 < n) : (Nat.toDigits 10 n).head? ≠ some '0' := by
  induction n using Nat.strongRecOn with
  | ind n ih =>
    rw [Nat.toDigits_eq_if (by decide)]
    split
    · next hlt => interval_cases n <;> decide
    · next hge =>
      obtain ⟨d, ds, hd, -⟩ := toDigits_cons (n / 10)
      have := ih (n / 10) (by omega) (by omega)
      rw [hd] at this ⊢
      simpa using this

/-- No digit follows. -/
def Past (rest : List Char) : Prop := ∀ c ∈ rest.head?, c.isDigit = false

theorem past_cons {c : Char} (h : c.isDigit = false) (cs : List Char) : Past (c :: cs) := by
  simpa [Past] using h

theorem Ends.past {rest : List Char} (h : Ends rest) : Past rest := fun c hc => (h c hc).1

theorem takeWhile_digits {ds rest : List Char} (hd : ∀ d ∈ ds, d.isDigit = true) (hr : Past rest) :
    (ds ++ rest).takeWhile Char.isDigit = ds := by
  rw [List.takeWhile_append_of_pos hd]
  cases rest with
  | nil => simp
  | cons c cs => simp [hr c rfl]

theorem dropWhile_digits {ds rest : List Char} (hd : ∀ d ∈ ds, d.isDigit = true) (hr : Past rest) :
    (ds ++ rest).dropWhile Char.isDigit = rest := by
  rw [List.dropWhile_append_of_pos hd]
  cases rest with
  | nil => rfl
  | cons c cs => simp [hr c rfl]

/-- The whole part of a number: a zero alone, or digits that do not begin with one. -/
def Whole (ds : List Char) : Prop := ds = ['0'] ∨ (ds ≠ [] ∧ ds.head? ≠ some '0' ∧ ∀ d ∈ ds, d.isDigit = true)

theorem whole_toDigits (n : Nat) : Whole (Nat.toDigits 10 n) := by
  rcases Nat.eq_zero_or_pos n with rfl | hn
  · exact .inl rfl
  · exact .inr ⟨Nat.toDigits_ne_nil, head_toDigits n hn, fun d => Nat.isDigit_of_mem_toDigits (by decide) (by decide)⟩

theorem wholePart_whole {ds rest : List Char} (hd : Whole ds) (hr : Past rest) : wholePart (ds ++ rest) = (ds, rest) := by
  rcases hd with rfl | ⟨hne, h0, hd⟩
  · rfl
  · unfold wholePart
    split
    · next cs h =>
      obtain ⟨d, ds, rfl⟩ := List.exists_cons_of_ne_nil hne
      cases h
      exact absurd rfl h0
    · rw [takeWhile_digits hd hr, dropWhile_digits hd hr]

theorem fraction_of_ends {rest : List Char} (hr : Ends rest) : fraction? rest = none := by
  unfold fraction?
  split
  · exact absurd rfl (hr '.' rfl).2.1
  · rfl

theorem exponentPart_of_ends {rest : List Char} (hr : Ends rest) : exponentPart? rest = none := by
  cases rest with
  | nil => rfl
  | cons c cs =>
    obtain ⟨-, -, he, hE⟩ := hr c rfl
    simp [exponentPart?, he, hE]

theorem readUnsigned_toDigits (negative : Bool) (start n : Nat) {rest : List Char} (hr : Ends rest)
    (hn : (Nat.toDigits 10 n).length ≤ Numeral.maxDigits) :
    readUnsigned negative start (Nat.toDigits 10 n ++ rest) = .ok (.int (if negative then -n else n), rest) := by
  have hne : (Nat.toDigits 10 n).isEmpty = false := by simp
  simp only [readUnsigned, wholePart_whole (whole_toDigits n) hr.past, hne, fraction_of_ends hr, Option.getD_none,
    exponentPart_of_ends hr, List.isEmpty_nil, if_true, if_neg (Nat.not_lt.2 hn), Nat.ofDigitChars_ten_toDigits,
    Bool.false_eq_true, if_false]

/-! ## Integers -/

/-- An integer reads back, if it has not too many digits. -/
theorem readNumber_writeInt (n : Int) {rest : List Char} (hr : Ends rest)
    (hn : (Nat.toDigits 10 n.natAbs).length ≤ Numeral.maxDigits) :
    readNumber (writeInt n ++ rest) = .ok (.int n, rest) := by
  cases n with
  | ofNat n =>
    obtain ⟨d, ds, hcons, hd⟩ := toDigits_cons n
    have hread := readUnsigned_toDigits false (writeInt n ++ rest).length n hr hn
    unfold readNumber
    split
    · next cs h =>
      rw [writeInt, hcons] at h
      cases h
      exact absurd hd (by decide)
    · exact hread
  | negSucc n => exact readUnsigned_toDigits true _ (n + 1) hr hn

end Workflows.Json
