/-
Texts in JSON read back: what the escapes of a text write are the units of its characters, and the
units join to the same characters again. Whether characters outside ASCII are escaped makes no
difference.
-/
import Mathlib.Tactic
import Workflows.Json.Printer
import Workflows.Json.Reader

namespace Workflows.Json

open Workflows.Text

/-! ## What the reader takes -/

section

variable (opening : Nat) (rest : List Char)

theorem readUnits_quote : readUnits opening ('"' :: rest) = .ok ([], rest) := by
  simp only [readUnits.eq_def opening ('"' :: rest), if_true]

theorem readUnits_letter {e c : Char} (he : e ≠ 'u') (h : escaped? e = some c) :
    readUnits opening ('\\' :: e :: rest) =
      (readUnits opening rest).map fun (units, left) => (c.toNat :: units, left) := by
  simp [readUnits.eq_def opening ('\\' :: e :: rest), he, h]

theorem readUnits_self {c : Char} (h1 : c ≠ '"') (h2 : c ≠ '\\') (h3 : ¬ c.toNat < 32) :
    readUnits opening (c :: rest) =
      (readUnits opening rest).map fun (units, left) => (c.toNat :: units, left) := by
  simp only [readUnits.eq_def opening (c :: rest), if_neg h1, if_neg h2, if_neg h3]

theorem hexValue_hexDigit : ∀ n < 16, hexValue? (hexDigit n) = some n := by
  decide

theorem unit_hexDigits {n : Nat} (h : n < 65536) :
    ∃ a b c d, hexDigits 4 n = [a, b, c, d] ∧ unit? a b c d = some n := by
  have hmod : ∀ m, m % 16 < 16 := fun m => Nat.mod_lt m (by decide)
  refine ⟨hexDigit (n / 16 / 16 / 16 % 16), hexDigit (n / 16 / 16 % 16), hexDigit (n / 16 % 16),
    hexDigit (n % 16), by simp [hexDigits], ?_⟩
  simp only [unit?, hexValue_hexDigit _ (hmod _), Option.bind_eq_bind, Option.bind_some, Option.pure_def,
    Option.some.injEq]
  omega

/-- A numeric escape reads as its unit, unless the text ends with it. -/
theorem readUnits_escape {unit : Nat} (h : unit < 65536) (hr : rest ≠ []) :
    readUnits opening ('\\' :: 'u' :: hexDigits 4 unit ++ rest) =
      (readUnits opening rest).map fun (units, left) => (unit :: units, left) := by
  obtain ⟨a, b, c, d, hdigits, hunit⟩ := unit_hexDigits h
  rw [hdigits]
  simp [readUnits.eq_def opening ('\\' :: 'u' :: a :: b :: c :: d :: rest), hunit, hr]

end

/-! ## Characters -/

theorem toNat_bounds (c : Char) : c.toNat < 0xD800 ∨ (0xDFFF < c.toNat ∧ c.toNat < 0x110000) :=
  c.valid

theorem units16_lt {c : Char} {unit : Nat} (h : unit ∈ units16 c.toNat) : unit < 65536 := by
  have := toNat_bounds c
  unfold units16 at h
  split at h
  · simp only [List.mem_singleton] at h
    omega
  · simp only [List.mem_cons, List.not_mem_nil, or_false] at h
    omega

/-- Units at the head of others join to a character of their own. -/
def Joins (units : List Nat) (c : Char) : Prop := ∀ more, joinUnits (units ++ more) = c :: joinUnits more

theorem joins_code (c : Char) : Joins [c.toNat] c := by
  have hb := toNat_bounds c
  have hhigh : isHighUnit c.toNat = false := by simp [isHighUnit]; omega
  have hlow : isLowUnit c.toNat = false := by simp [isLowUnit]; omega
  have hchar : charOf c.toNat = c := by simp [charOf, hhigh, hlow]
  intro more
  cases more <;> simp [joinUnits, hhigh, hchar]

theorem joins_units16 (c : Char) : Joins (units16 c.toNat) c := by
  unfold units16
  split
  · exact joins_code c
  · -- a high unit with a low one behind it joins to the code that was split
    intro more
    have hb := toNat_bounds c
    have hhigh : isHighUnit (0xD800 + (c.toNat - 0x10000) / 0x400) = true := by simp [isHighUnit]; omega
    have hlow : isLowUnit (0xDC00 + (c.toNat - 0x10000) % 0x400) = true := by simp [isLowUnit]; omega
    have hpair : pairCode (0xD800 + (c.toNat - 0x10000) / 0x400) (0xDC00 + (c.toNat - 0x10000) % 0x400) =
        c.toNat := by
      unfold pairCode
      omega
    simp [joinUnits, hhigh, hlow, hpair]

/-- What stands for a character reads as units that join to it. -/
def Stands (cs : List Char) (c : Char) : Prop :=
  ∃ units, Joins units c ∧ ∀ opening rest, rest ≠ [] →
    readUnits opening (cs ++ rest) =
      (readUnits opening rest).map fun (more, left) => (units ++ more, left)

theorem readUnits_escapes {opening : Nat} {rest : List Char} (hr : rest ≠ []) :
    ∀ units : List Nat, (∀ unit ∈ units, unit < 65536) →
      readUnits opening ((units.flatMap fun unit => '\\' :: 'u' :: hexDigits 4 unit) ++ rest) =
        (readUnits opening rest).map fun (more, left) => (units ++ more, left)
  | [], _ => by cases h : readUnits opening rest <;> simp [h, Except.map]
  | unit :: units, h => by
    have hunit := h unit List.mem_cons_self
    rw [List.flatMap_cons, List.append_assoc, readUnits_escape opening _ hunit (by simp [hr]),
      readUnits_escapes hr units fun u hu => h u (List.mem_cons_of_mem _ hu)]
    cases readUnits opening rest <;> rfl

theorem stands_numericEscape (c : Char) : Stands (numericEscape c) c :=
  ⟨units16 c.toNat, joins_units16 c, fun _ _ hr => readUnits_escapes hr _ fun _ => units16_lt⟩

theorem stands_letter {e c : Char} (he : e ≠ 'u') (h : escaped? e = some c) : Stands ['\\', e] c :=
  ⟨[c.toNat], joins_code c, fun opening rest _ => readUnits_letter opening rest he h⟩

theorem stands_self {c : Char} (h1 : c ≠ '"') (h2 : c ≠ '\\') (h3 : ¬ c.toNat < 32) : Stands [c] c :=
  ⟨[c.toNat], joins_code c, fun opening rest _ => readUnits_self opening rest h1 h2 h3⟩

/-- How a character of a text is written: by a letter behind a backslash, by its units, or as itself. -/
inductive Writes (c : Char) : List Char → Prop
  | letter {e : Char} : e ≠ 'u' → escaped? e = some c → Writes c ['\\', e]
  | units : c.toNat < 32 ∨ 127 ≤ c.toNat → Writes c (numericEscape c)
  | self : c ≠ '"' → c ≠ '\\' → ¬ c.toNat < 32 → Writes c [c]

theorem writes_writeChar (ascii : Bool) (c : Char) : Writes c (writeChar ascii c) := by
  have hletter : ∀ {e d : Char}, c = d → e ≠ 'u' → escaped? e = some d → Writes c ['\\', e] := fun h he hd =>
    h ▸ .letter he hd
  unfold writeChar
  refine iteInduction (fun h => hletter h (by decide) rfl) fun hquote => ?_
  refine iteInduction (fun h => hletter h (by decide) rfl) fun hslash => ?_
  refine iteInduction (fun h => hletter h (by decide) rfl) fun _ => ?_
  refine iteInduction (fun h => hletter h (by decide) rfl) fun _ => ?_
  refine iteInduction (fun h => hletter h (by decide) rfl) fun _ => ?_
  refine iteInduction (fun h => hletter h (by decide) rfl) fun _ => ?_
  refine iteInduction (fun h => hletter h (by decide) rfl) fun _ => ?_
  refine iteInduction (fun hlow => .units (.inl hlow)) fun hlow => ?_
  refine iteInduction (fun hhigh => .units (.inr ?_)) fun _ => .self hquote hslash hlow
  simp only [Bool.and_eq_true, decide_eq_true_eq] at hhigh
  exact hhigh.2

theorem Writes.stands {c : Char} {cs : List Char} (h : Writes c cs) : Stands cs c := by
  cases h with
  | letter he hd => exact stands_letter he hd
  | units _ => exact stands_numericEscape c
  | self hquote hslash hlow => exact stands_self hquote hslash hlow

/-! ## Texts -/

theorem readUnits_chars (ascii : Bool) (opening : Nat) (cs rest : List Char) :
    ∃ units, joinUnits units = cs ∧
      readUnits opening (cs.flatMap (writeChar ascii) ++ '"' :: rest) = .ok (units, rest) := by
  induction cs with
  | nil => exact ⟨[], rfl, readUnits_quote opening rest⟩
  | cons c cs ih =>
    obtain ⟨units, hjoin, hread⟩ := ih
    obtain ⟨us, hc, hstands⟩ := (writes_writeChar ascii c).stands
    refine ⟨us ++ units, by rw [hc, hjoin], ?_⟩
    rw [List.flatMap_cons, List.append_assoc, hstands opening _ (by simp), hread]
    rfl

/-- A text reads back from its quotes. -/
theorem readText_writeText (ascii : Bool) (opening : Nat) (s : String) (rest : List Char) :
    readText opening (s.toList.flatMap (writeChar ascii) ++ '"' :: rest) = .ok (s, rest) := by
  obtain ⟨units, hjoin, hread⟩ := readUnits_chars ascii opening s.toList rest
  simp [readText, hread, hjoin, Except.map]

end Workflows.Json
