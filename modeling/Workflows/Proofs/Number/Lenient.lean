/-
Lenient integers. An integer in plain digits is read as it is, and none that is read has more digits than an
integer may be written with; the usual delay is such an integer and not negative, whatever the variables say.
-/
import Workflows.Proofs.Json.Reader
import Workflows.Settings.Basic

namespace Workflows

open Workflows.Json

theorem Json.toList_toString (n : Int) : (toString n).toList = writeInt n := by
  cases n <;> simp [toString, Int.repr, writeInt]

namespace Lenient

/-! ## Plain integers -/

/-- Digits that begin with no zero are read as the number that they write, with or without a minus sign. -/
theorem strictInteger_cons {d : Char} {ds : List Char} (hdigits : ∀ c ∈ d :: ds, c.isDigit = true) (hzero : d ≠ '0')
    (hlength : (d :: ds).length < Numeral.maxDigits) :
    strictInteger (d :: ds) = .ok (Nat.ofDigitChars 10 (d :: ds) 0 : Nat) ∧
      strictInteger ('-' :: d :: ds) = .ok (-(Nat.ofDigitChars 10 (d :: ds) 0 : Nat)) := by
  have htake : (d :: ds).takeWhile Char.isDigit = d :: ds := by
    have htake := takeWhile_digits hdigits (show Past [] by simp [Past])
    rwa [List.append_nil] at htake
  have hminus : d ≠ '-' := isDigit_ne (hdigits d List.mem_cons_self) rfl
  rw [List.length_cons] at hlength
  constructor
  · simp [strictInteger, hminus, htake, hzero]
    omega
  · simp [strictInteger, htake, hzero]
    omega

/-- An integer is read from its own text. -/
theorem strictInteger_writeInt {n : Int} (hlength : (Nat.toDigits 10 n.natAbs).length < Numeral.maxDigits) :
    strictInteger (writeInt n) = .ok n := by
  have hdigits : ∀ m d, d ∈ Nat.toDigits 10 m → d.isDigit = true := fun _ _ =>
    Nat.isDigit_of_mem_toDigits (by decide) (by decide)
  have hvalue : ∀ m, Nat.ofDigitChars 10 (Nat.toDigits 10 m) 0 = m := fun m => Nat.ofDigitChars_ten_toDigits
  cases n with
  | ofNat m =>
    rcases Nat.eq_zero_or_pos m with rfl | hm
    · rfl
    · -- a zero at the front would be refused
      obtain ⟨d, ds, hcons, -⟩ := toDigits_cons m
      have hzero : d ≠ '0' := fun hd => head_toDigits m hm (by rw [hcons, hd]; rfl)
      have hread := (strictInteger_cons (hcons ▸ hdigits m) hzero (hcons ▸ hlength)).1
      rw [← hcons, hvalue] at hread
      exact hread
  | negSucc m =>
    obtain ⟨d, ds, hcons, -⟩ := toDigits_cons (m + 1)
    have hzero : d ≠ '0' := fun hd => head_toDigits (m + 1) (Nat.succ_pos m) (by rw [hcons, hd]; rfl)
    have hread := (strictInteger_cons (hcons ▸ hdigits (m + 1)) hzero (hcons ▸ hlength)).2
    rw [← hcons, hvalue] at hread
    exact hread

theorem integer_toString {n : Int} (hlength : (Nat.toDigits 10 n.natAbs).length < Numeral.maxDigits) :
    integer? (toString n) = .ok n := by
  rw [integer?, toList_toString, strictInteger_writeInt hlength]

/-! ## Long integers -/

/-- No integer is read that has too many digits. -/
theorem writable_of_strictInteger {cs : List Char} {n : Int} (h : strictInteger cs = .ok n) :
    isWritable (.int n) = true := by
  unfold strictInteger at h
  split at h
  next negative unsigned _ =>
  dsimp only at h
  split at h
  · cases h
  · split at h
    · cases h
      decide
    · cases h
  · by_cases hlong : Numeral.maxDigits < (unsigned.takeWhile Char.isDigit).length + if negative = true then 1 else 0
    · rw [if_pos hlong] at h
      cases h
    · rw [if_neg hlong] at h
      by_cases hrest : (unsigned.takeWhile Char.isDigit).length < unsigned.length
      · rw [if_pos hrest] at h
        cases h
      · rw [if_neg hrest] at h
        cases h
        refine writable_int (fun d hd => List.mem_takeWhile_imp hd) ?_ negative
        omega

theorem writable_of_integer {text : String} {n : Int} (h : integer? text = .ok n) : isWritable (.int n) = true := by
  unfold integer? at h
  split at h
  · split at h
    · exact writable_of_strictInteger h
    · cases h
  · exact writable_of_strictInteger h

end Lenient

namespace Settings

theorem writable_boundedInt {low : Int} {high : Option Int} {text : String} {n : Int}
    (h : boundedInt low high text = .ok n) : isWritable (.int n) = true := by
  unfold boundedInt at h
  split at h
  · cases h
  · cases h
  · next m hm =>
    split at h
    · cases h
    · split at h
      · cases h
      · cases h
        exact Lenient.writable_of_integer hm

theorem low_le_of_boundedInt {low : Int} {high : Option Int} {text : String} {n : Int}
    (h : boundedInt low high text = .ok n) : low ≤ n := by
  unfold boundedInt at h
  split at h
  · cases h
  · cases h
  · split at h
    · cases h
    · split at h
      · cases h
      · next hlow =>
        cases h
        exact not_lt.1 hlow

section

variable {given : String → Option String} {settings : Settings} (h : read given = .ok settings)

include h

/-- The usual delay is five seconds, or what a text writes that is checked to be at least zero. -/
theorem usualDelay_cases : settings.usualDelay = 5 ∨ ∃ text, boundedInt 0 none text = .ok settings.usualDelay := by
  have hdelay : ∃ misfits, ((ofVariables given).run []).1.usualDelay =
      ((setting given "DEFAULT_DELAY_SECONDS" 5 (boundedInt 0 none)).run misfits).1 := ⟨_, rfl⟩
  obtain ⟨misfits, hdelay⟩ := hdelay
  have hsettings : ((ofVariables given).run []).1 = settings := by
    unfold read at h
    split at h
    next found misfits hfound =>
    split at h
    · rw [hfound]
      exact Except.ok.inj h
    · cases h
  rw [← hsettings, hdelay]
  unfold setting
  split
  · exact .inl rfl
  · next value hvalue =>
    obtain ⟨text, -, hread⟩ := Option.map_eq_some_iff.1 hvalue
    exact .inr ⟨text, hread⟩
  · exact .inl rfl

/-- The usual delay can be written. -/
theorem writable_usualDelay : isWritable (.int settings.usualDelay) = true := by
  rcases usualDelay_cases h with husual | ⟨text, hread⟩
  · rw [husual]
    decide
  · exact writable_boundedInt hread

theorem usualDelay_nonneg : 0 ≤ settings.usualDelay := by
  rcases usualDelay_cases h with husual | ⟨text, hread⟩
  · rw [husual]
    decide
  · exact low_le_of_boundedInt hread

end

end Settings

end Workflows
