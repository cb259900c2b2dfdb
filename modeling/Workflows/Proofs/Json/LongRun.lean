/-
Integers that stop the reader. It stops at one only behind a run of digits in the text that is longer than any integer
may be written with.
-/
import Workflows.Proofs.Json.Reader
import Workflows.Proofs.Json.Scan

namespace Workflows.Json

/-- A text has a run of as many digits, and they are too many for an integer. -/
def HasLongRun (digits : Nat) (cs : List Char) : Prop :=
  ∃ before run after, cs = before ++ (run ++ after) ∧ (∀ c ∈ run, c.isDigit = true) ∧ run.length = digits ∧
    Numeral.maxDigits < digits

variable {digits : Nat} {place : Place} {cs rest : List Char}

/-- What is in the rest of a text is in the text. -/
theorem HasLongRun.of_takes (h : HasLongRun digits rest) (htakes : Takes place cs rest) : HasLongRun digits cs := by
  obtain ⟨used, rfl, -⟩ := htakes
  obtain ⟨before, run, after, rfl, hrun⟩ := h
  exact ⟨used ++ before, run, after, (List.append_assoc _ _ _).symm, hrun⟩

theorem HasLongRun.cons {c : Char} (h : HasLongRun digits cs) : HasLongRun digits (c :: cs) := by
  obtain ⟨before, run, after, rfl, hrun⟩ := h
  exact ⟨c :: before, run, after, rfl, hrun⟩

theorem wholePart_append (cs : List Char) : (wholePart cs).1 ++ (wholePart cs).2 = cs := by
  unfold wholePart
  split
  · rfl
  · exact List.takeWhile_append_dropWhile

/-! ## Where the reader stops -/

theorem readUnits_ne_long {opening : Nat} : readUnits opening cs ≠ .error (.longInteger digits) := by
  fun_induction readUnits opening cs <;> simp_all [map_eq_error]

theorem readText_ne_long {opening : Nat} : readText opening cs ≠ .error (.longInteger digits) :=
  fun h => readUnits_ne_long (map_eq_error.1 h)

theorem hasLongRun_readUnsigned {negative : Bool} {start : Nat}
    (h : readUnsigned negative start cs = .error (.longInteger digits)) : HasLongRun digits cs := by
  have hwhole := isDigit_wholePart cs
  have happend := wholePart_append cs
  unfold readUnsigned at h
  generalize wholePart cs = parts at h hwhole happend
  obtain ⟨whole, afterWhole⟩ := parts
  dsimp only at h hwhole happend
  split at h
  · cases h
  · split at h
    · cases h
    · split at h
      · split at h
        · next hlength =>
          cases h
          exact ⟨[], whole, afterWhole, happend.symm, hwhole, rfl, hlength⟩
        · cases h
      · cases h

theorem hasLongRun_readNumber (h : readNumber cs = .error (.longInteger digits)) : HasLongRun digits cs := by
  unfold readNumber at h
  split at h
  · exact (hasLongRun_readUnsigned h).cons
  · exact hasLongRun_readUnsigned h

-- As the reader goes: on the fuel, with one theorem for each of its three functions.
mutual

theorem hasLongRun_readValue : ∀ {fuel : Nat} {cs : List Char}, readValue fuel cs = .error (.longInteger digits) →
    HasLongRun digits cs
  | 0, _, h => by cases h
  | _ + 1, [], h => by cases h
  | fuel + 1, c :: cs, h => by
    unfold readValue at h
    split at h
    · exact absurd (map_eq_error.1 h) readText_ne_long
    · split at h
      · split at h
        · cases h
        · exact ((hasLongRun_readItems (map_eq_error.1 h)).of_takes (takes_skipSpace cs)).cons
      · split at h
        · split at h
          · cases h
          · exact ((hasLongRun_readMembers (map_eq_error.1 h)).of_takes (takes_skipSpace cs)).cons
        · split at h
          · cases h
          · exact hasLongRun_readNumber h

theorem hasLongRun_readItems : ∀ {fuel : Nat} {cs : List Char}, readItems fuel cs = .error (.longInteger digits) →
    HasLongRun digits cs
  | 0, _, h => by cases h
  | fuel + 1, cs, h => by
    unfold readItems at h
    split at h
    · next e hitem =>
      cases h
      exact hasLongRun_readValue hitem
    · next item left hitem =>
      refine HasLongRun.of_takes ?_ (takes_readValue hitem)
      split at h
      · cases h
      · next after hcomma =>
        exact (hasLongRun_readItems (map_eq_error.1 h)).of_takes
          ((takes_skipSpace_cons (by decide) hcomma).trans (takes_skipSpace after))
      · cases h

theorem hasLongRun_readMembers : ∀ {fuel : Nat} {cs : List Char},
    readMembers fuel cs = .error (.longInteger digits) → HasLongRun digits cs
  | 0, _, h => by cases h
  | fuel + 1, cs, h => by
    unfold readMembers at h
    split at h
    · cases h
    · next steps cs heq =>
      obtain rfl : fuel = steps := Nat.succ.inj heq
      split at h
      · next e hkey =>
        cases h
        exact absurd hkey readText_ne_long
      · next key left hkey =>
        refine HasLongRun.of_takes ?_ (takes_readText hkey)
        split at h
        · next afterColon hcolon =>
          refine HasLongRun.of_takes ?_ ((takes_skipSpace_cons (by decide) hcolon).trans (takes_skipSpace afterColon))
          split at h
          · next e hvalue =>
            cases h
            exact hasLongRun_readValue hvalue
          · next value left hvalue =>
            refine HasLongRun.of_takes ?_ (takes_readValue hvalue)
            split at h
            · cases h
            · next after hcomma =>
              exact (hasLongRun_readMembers (map_eq_error.1 h)).of_takes
                ((takes_skipSpace_cons (by decide) hcomma).trans (takes_skipSpace after))
            · cases h
        · cases h
    · cases h

end

/-- A text that is not read because of an integer has a run of too many digits. -/
theorem hasLongRun_of_read {text : String} (h : read text = .error (.longInteger digits)) :
    HasLongRun digits text.toList := by
  have hdocument : readDocument text.toList = .error (.longInteger digits) := by
    unfold read at h
    split at h
    · cases h
    · cases h
      assumption
    · cases h
  unfold readDocument at hdocument
  split at hdocument
  · cases hdocument
  · split at hdocument
    · next e hvalue =>
      cases hdocument
      exact (hasLongRun_readValue hvalue).of_takes (takes_skipSpace _)
    · split at hdocument <;> cases hdocument

/-- Too many digits that begin with no zero stop the reader. -/
theorem read_of_digits {d : Char} {ds : List Char} (hdigits : ∀ c ∈ d :: ds, c.isDigit = true) (hzero : d ≠ '0')
    (hlength : Numeral.maxDigits < (d :: ds).length) :
    read (String.ofList (d :: ds)) = .error (.longInteger (d :: ds).length) := by
  have hd : d.isDigit = true := hdigits d List.mem_cons_self
  have hother : ∀ c, c.isDigit = false → d ≠ c := fun c hc => isDigit_ne hd hc
  have hwhole : Whole (d :: ds) := .inr ⟨List.cons_ne_nil _ _, by simpa using hzero, hdigits⟩
  have hpast : Past [] := by simp [Past]
  have hpart : wholePart (d :: ds) = (d :: ds, []) := by simpa using wholePart_whole hwhole hpast
  have hnumber : readNumber (d :: ds) = .error (.longInteger (d :: ds).length) := by
    unfold readNumber
    split
    · next heq =>
      cases heq
      exact absurd rfl (hother '-' rfl)
    · simp only [readUnsigned, hpart, List.isEmpty_cons, Bool.false_eq_true, if_false, fraction?, Option.getD_none,
        exponentPart?, List.isEmpty_nil, if_true, if_pos hlength]
  have hvalue : readValue (2 * (d :: ds).length + 2) (d :: ds) = .error (.longInteger (d :: ds).length) := by
    rw [readValue_number ⟨hother _ rfl, hother _ rfl, hother _ rfl⟩ (word_digit hd ds), hnumber]
  have hspace : isSpace d = false := by
    simp [isSpace, hother _ (show ' '.isDigit = false from rfl), hother _ (show '\t'.isDigit = false from rfl),
      hother _ (show '\n'.isDigit = false from rfl), hother _ (show '\r'.isDigit = false from rfl)]
  have hdocument : readDocument (d :: ds) = .error (.longInteger (d :: ds).length) := by
    rw [readDocument, if_neg (by simpa using hother '\uFEFF' rfl), skipSpace_cons hspace, hvalue]
  simp only [read, String.toList_ofList, hdocument]

end Workflows.Json
