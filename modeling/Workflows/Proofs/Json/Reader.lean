/-
What is read from JSON text can be written as JSON text: its integers are not too long, its numbers are no NaN
but the one that has a word, and the names of its objects are distinct.
-/
import Workflows.Proofs.Json.RoundTrip
import Workflows.Proofs.Results

namespace Workflows

/-! ## Numbers -/

namespace Binary64

theorem isNaN_pack (negative : Bool) (m : ℕ) (q : ℤ) : (pack negative m q).isNaN = false := by
  have hparts : ∀ parts : ℕ × ℤ, (if parts.1 < 0x10000000000000 then ⟨negative, 0, fractionField parts.1⟩
      else if parts.2 + 1075 < 2047 then
        ⟨negative, exponentField (parts.2 + 1075).toNat, fractionField (parts.1 - 0x10000000000000)⟩
      else infinity negative : Binary64).isNaN = false := fun parts => by
    split
    · rfl
    · split
      · have hne : ((parts.2 + 1075).toNat % 2048 == 2047) = false := by
          rw [beq_eq_false_iff_ne]
          omega
        rw [isNaN, exponentField, hne, Bool.false_and]
      · rfl
  exact hparts _

theorem isNaN_ofRatio (negative : Bool) (num den : ℕ) : (ofRatio negative num den).isNaN = false := by
  unfold ofRatio
  split
  · rfl
  · exact isNaN_pack _ _ _

theorem isNaN_ofDecimal (negative : Bool) (digits : ℕ) (exponent : ℤ) :
    (ofDecimal negative digits exponent).isNaN = false := by
  unfold ofDecimal
  dsimp only
  split
  · rfl
  · split
    · rfl
    · split
      · rfl
      · exact isNaN_ofRatio _ _ _

end Binary64

namespace Json

theorem ofDigitChars_lt : ∀ {ds : List Char}, (∀ d ∈ ds, d.isDigit = true) → Nat.ofDigitChars 10 ds 0 < 10 ^ ds.length
  | [], _ => by decide
  | d :: ds, h => by
    have hd : d.toNat - '0'.toNat < 10 := by
      have := (bounds_of_isDigit (h d List.mem_cons_self)).2
      have : '0'.toNat = 48 := rfl
      omega
    have ih := ofDigitChars_lt fun c hc => h c (List.mem_cons_of_mem _ hc)
    rw [Nat.ofDigitChars_cons, Nat.ofDigitChars_eq_ofDigitChars_zero, List.length_cons, Nat.pow_succ, Nat.mul_zero, Nat.zero_add]
    -- linear in the power of ten, which is no number here
    generalize Nat.ofDigitChars 10 ds 0 = n at *
    generalize 10 ^ ds.length = p at *
    nlinarith

theorem writable_int {ds : List Char} (hd : ∀ d ∈ ds, d.isDigit = true) (hlength : ds.length ≤ Numeral.maxDigits)
    (negative : Bool) : isWritable (.int (if negative then -(Nat.ofDigitChars 10 ds 0 : ℤ) else Nat.ofDigitChars 10 ds 0)) = true := by
  have hle : (Nat.toDigits 10 (Nat.ofDigitChars 10 ds 0)).length ≤ Numeral.maxDigits := by
    refine (Nat.length_toDigits_le_iff (by decide) (by decide)).2 ((ofDigitChars_lt hd).trans_le ?_)
    exact Nat.pow_le_pow_right (by decide) hlength
  rw [isWritable, decide_eq_true_iff]
  cases negative <;> simpa using hle

theorem writable_ofDecimal (negative : Bool) (digits : ℕ) (exponent : ℤ) :
    isWritable (.float (Binary64.ofDecimal negative digits exponent)) = true := by
  rw [isWritable, Binary64.isNaN_ofDecimal]
  rfl

theorem isDigit_wholePart (cs : List Char) : ∀ d ∈ (wholePart cs).1, d.isDigit = true := by
  unfold wholePart
  split
  · intro d hd
    rw [List.mem_singleton.1 hd]
    rfl
  · exact fun d hd => List.mem_takeWhile_imp hd

theorem writable_readUnsigned {negative : Bool} {start : ℕ} {cs rest : List Char} {v : Value}
    (h : readUnsigned negative start cs = .ok (v, rest)) : isWritable v = true := by
  have hwhole := isDigit_wholePart cs
  unfold readUnsigned at h
  generalize wholePart cs = parts at h hwhole
  obtain ⟨whole, afterWhole⟩ := parts
  dsimp only at h hwhole
  split at h
  · cases h
  · generalize (fraction? afterWhole).getD ([], afterWhole) = parts at h
    obtain ⟨places, afterPlaces⟩ := parts
    dsimp only at h
    split at h
    · cases h
      exact writable_ofDecimal _ _ _
    · split at h
      · split at h
        · cases h
        · next hlength =>
          cases h
          exact writable_int hwhole (not_lt.1 hlength) negative
      · cases h
        exact writable_ofDecimal _ _ _

theorem writable_readNumber {cs rest : List Char} {v : Value} (h : readNumber cs = .ok (v, rest)) : isWritable v = true := by
  unfold readNumber at h
  split at h <;> exact writable_readUnsigned h

theorem writable_word {cs rest : List Char} {v : Value} (h : word? cs = some (v, rest)) : isWritable v = true := by
  obtain ⟨⟨word, value⟩, hmem, hword⟩ := List.exists_of_findSome?_eq_some h
  obtain ⟨left, -, hfound⟩ := Option.map_eq_some_iff.1 hword
  cases hfound
  have hwords : ∀ m ∈ words, isWritable m.2 = true := by decide
  exact hwords _ hmem

/-! ## Values -/

theorem writable_ofPairs {pairs : List (String × Value)} (h : ∀ p ∈ pairs, isWritable p.2 = true) :
    writableMembers (Object.ofPairs pairs) = true := by
  refine writableMembers_iff.2 (List.foldlRecOn pairs _ (motive := fun members : Object =>
    members.Distinct ∧ ∀ m ∈ members, isWritable m.2 = true) ⟨List.nodup_nil, by simp⟩ ?_)
  rintro members ⟨hdistinct, hmembers⟩ ⟨key, v⟩ hmem
  refine ⟨hdistinct.put, fun m hm => ?_⟩
  rcases Object.mem_put hm with hm | rfl
  · exact hmembers m hm
  · exact h _ hmem

-- As the reader goes: on the fuel, with one theorem for each of its three functions.
mutual

/-- A value that is read is writable. -/
theorem writable_readValue : ∀ {fuel : ℕ} {cs rest : List Char} {v : Value}, readValue fuel cs = .ok (v, rest) →
    isWritable v = true
  | 0, _, _, _, h => by cases h
  | _ + 1, [], _, _, h => by cases h
  | fuel + 1, c :: cs, rest, v, h => by
    unfold readValue at h
    split at h
    · obtain ⟨⟨text, left⟩, -, hfound⟩ := map_eq_ok.1 h
      cases hfound
      rfl
    · split at h
      · split at h
        · cases h
          rfl
        · obtain ⟨⟨items, left⟩, hitems, hfound⟩ := map_eq_ok.1 h
          cases hfound
          rw [isWritable]
          exact writable_readItems hitems
      · split at h
        · split at h
          · cases h
            rfl
          · obtain ⟨⟨pairs, left⟩, hpairs, hfound⟩ := map_eq_ok.1 h
            cases hfound
            rw [isWritable]
            exact writable_ofPairs (writable_readMembers hpairs)
        · split at h
          · next found hword =>
            cases h
            exact writable_word hword
          · exact writable_readNumber h

theorem writable_readItems : ∀ {fuel : ℕ} {cs rest : List Char} {items : List Value},
    readItems fuel cs = .ok (items, rest) → writableItems items = true
  | 0, _, _, _, h => by cases h
  | fuel + 1, cs, rest, items, h => by
    unfold readItems at h
    split at h
    · cases h
    · next item left hitem =>
      have hfirst := writable_readValue hitem
      split at h
      · cases h
        rw [writableItems, hfirst]
        rfl
      · obtain ⟨⟨more, left⟩, hmore, hfound⟩ := map_eq_ok.1 h
        cases hfound
        rw [writableItems, hfirst, writable_readItems hmore]
        rfl
      · cases h

theorem writable_readMembers : ∀ {fuel : ℕ} {cs rest : List Char} {pairs : List (String × Value)},
    readMembers fuel cs = .ok (pairs, rest) → ∀ p ∈ pairs, isWritable p.2 = true
  | 0, _, _, _, h => by cases h
  | fuel + 1, cs, rest, pairs, h => by
    unfold readMembers at h
    split at h
    · cases h
    · next steps _ heq =>
      obtain rfl : fuel = steps := Nat.succ.inj heq
      split at h
      · cases h
      · split at h
        · split at h
          · cases h
          · next value left hvalue =>
            have hfirst := writable_readValue hvalue
            split at h
            · cases h
              simpa using hfirst
            · obtain ⟨⟨more, left⟩, hmore, hfound⟩ := map_eq_ok.1 h
              cases hfound
              exact List.forall_mem_cons.2 ⟨hfirst, writable_readMembers hmore⟩
            · cases h
        · cases h
    · cases h

end

/-- What a text writes is writable. -/
theorem writable_read {text : String} {v : Value} (h : read text = .ok v) : isWritable v = true := by
  obtain ⟨_, _, hvalue, _⟩ := readValue_of_read h
  exact writable_readValue hvalue

end Json

end Workflows
