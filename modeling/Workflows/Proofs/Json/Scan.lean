/-
JSON text followed from quote to quote. What the reader takes for a value has all its texts closed, and grave accents
in texts only. So a text that is cut off inside a quoted text is not read.
-/
import Mathlib.Data.List.TakeWhile
import Workflows.Proofs.Json.RoundTrip
import Workflows.Proofs.Results

namespace Workflows.Json

open Workflows.Text

/-! ## Places in a text -/

/-- The grave accent. -/
def graveAccent : Char := Char.ofNat 96

/-- A place in JSON text: outside of quoted texts, inside of one, or there behind a backslash. -/
inductive Place
  | outside | inside | behindSlash
deriving DecidableEq

/-- The place behind a character. A grave accent stands inside of quoted texts only, and has no backslash before
it. -/
def Place.step : Place → Char → Option Place
  | outside, c => if c = '"' then some inside else if c = graveAccent then none else some outside
  | inside, c => if c = '"' then some outside else if c = '\\' then some behindSlash else some inside
  | behindSlash, c => if c = graveAccent then none else some inside

/-- The place behind some characters. -/
def scan (place : Place) (cs : List Char) : Option Place := cs.foldlM Place.step place

variable {place next : Place} {cs rest : List Char}

theorem scan_cons (place : Place) (c : Char) (cs : List Char) :
    scan place (c :: cs) = (place.step c).bind (scan · cs) := rfl

theorem scan_append (place : Place) (cs rest : List Char) :
    scan place (cs ++ rest) = (scan place cs).bind (scan · rest) :=
  List.foldlM_append

theorem scan_of_scan (h : scan place cs = some next) (rest : List Char) : scan place (cs ++ rest) = scan next rest := by
  rw [scan_append, h]
  rfl

/-- A character that changes nothing outside of quoted texts. -/
def Plain (c : Char) : Prop := c ≠ '"' ∧ c ≠ graveAccent

instance (c : Char) : Decidable (Plain c) := inferInstanceAs (Decidable (_ ∧ _))

-- Goes through the characters of a text, where the instance for all characters would go through these.
instance (cs : List Char) : Decidable (∀ c ∈ cs, Plain c) := List.decidableBAll Plain cs

theorem scan_plain (h : ∀ c ∈ cs, Plain c) : scan .outside cs = some .outside := by
  induction cs with
  | nil => rfl
  | cons c cs ih =>
    obtain ⟨hc, hcs⟩ := List.forall_mem_cons.1 h
    rw [scan_cons, Place.step, if_neg hc.1, if_neg hc.2]
    exact ih hcs

/-- A grave accent is inside of a quoted text. -/
theorem inside_of_graveAccent (h : scan .outside (cs ++ graveAccent :: rest) ≠ none) :
    scan .outside cs = some .inside := by
  rw [scan_append] at h
  cases hplace : scan .outside cs with
  | none =>
    rw [hplace] at h
    exact absurd rfl h
  | some place =>
    cases place with
    | inside => rfl
    | outside | behindSlash =>
      rw [hplace] at h
      exact absurd rfl h

/-! ## What the reader takes -/

/-- What is taken from the head of a text closes all its quoted texts. -/
def Takes (place : Place) (cs rest : List Char) : Prop := ∃ used, cs = used ++ rest ∧ scan place used = some .outside

theorem Takes.trans {middle : List Char} (h : Takes place cs middle) (h' : Takes .outside middle rest) :
    Takes place cs rest := by
  obtain ⟨used, rfl, hused⟩ := h
  obtain ⟨more, rfl, hmore⟩ := h'
  exact ⟨used ++ more, (List.append_assoc _ _ _).symm, by rw [scan_of_scan hused, hmore]⟩

theorem takes_plain {used : List Char} (h : ∀ c ∈ used, Plain c) (rest : List Char) :
    Takes .outside (used ++ rest) rest := ⟨used, rfl, scan_plain h⟩

theorem Takes.step {c : Char} (hc : place.step c = some next) (h : Takes next cs rest) : Takes place (c :: cs) rest := by
  obtain ⟨used, rfl, hused⟩ := h
  exact ⟨c :: used, rfl, by rw [scan_cons, hc]; exact hused⟩

theorem Takes.plain {c : Char} (hc : Plain c) (h : Takes .outside cs rest) : Takes .outside (c :: cs) rest :=
  .step (by rw [Place.step, if_neg hc.1, if_neg hc.2]) h

theorem takes_dropWhile {p : Char → Bool} (h : ∀ c, p c = true → Plain c) (cs : List Char) :
    Takes .outside cs (cs.dropWhile p) := by
  have htaken : ∀ c ∈ cs.takeWhile p, Plain c := fun c hc => h c (List.mem_takeWhile_imp hc)
  have htakes := takes_plain htaken (cs.dropWhile p)
  rwa [List.takeWhile_append_dropWhile] at htakes

theorem takes_nothing (rest : List Char) : Takes .outside rest rest := ⟨[], rfl, rfl⟩

/-! ### Blanks and texts -/

theorem takes_skipSpace (cs : List Char) : Takes .outside cs (skipSpace cs) := by
  refine takes_dropWhile (fun c hc => ?_) cs
  constructor <;> rintro rfl <;> exact absurd hc (by decide)

theorem step_hexValue {c : Char} {n : Nat} (h : hexValue? c = some n) : Place.inside.step c = some .inside := by
  have hquote : c ≠ '"' := by
    rintro rfl
    rw [show hexValue? '"' = none by decide] at h
    cases h
  have hslash : c ≠ '\\' := by
    rintro rfl
    rw [show hexValue? '\\' = none by decide] at h
    cases h
  rw [Place.step, if_neg hquote, if_neg hslash]

theorem step_escaped {c d : Char} (h : escaped? c = some d) : Place.behindSlash.step c = some .inside := by
  refine if_neg ?_
  rintro rfl
  rw [show escaped? graveAccent = none by decide] at h
  cases h

/-- A text that is read is read to its closing quote. -/
theorem takes_readUnits {opening : Nat} {units : List Nat} (h : readUnits opening cs = .ok (units, rest)) :
    Takes .inside cs rest := by
  have hslash : Place.inside.step '\\' = some .behindSlash := by decide
  -- The reader goes on in four cases: at the closing quote, behind a unit in hexadecimal digits, behind a letter that
  -- stands for a character, and behind a character that stands for itself.
  fun_induction readUnits opening cs generalizing units rest
  case case2 =>
    cases h
    exact .step (by decide) (takes_nothing _)
  case case5 h₁ h₂ h₃ h₄ after unit hunit _ _ ih =>
    obtain ⟨⟨more, left⟩, hmore, h⟩ := map_eq_ok.1 h
    cases h
    simp only [unit?, Option.bind_eq_bind, Option.bind_eq_some_iff] at hunit
    obtain ⟨_, hex₁, _, hex₂, _, hex₃, _, hex₄, _⟩ := hunit
    exact .step hslash (.step (by decide) (.step (step_hexValue hex₁) (.step (step_hexValue hex₂)
      (.step (step_hexValue hex₃) (.step (step_hexValue hex₄) (ih hmore))))))
  case case8 e after _ c hescaped _ ih =>
    obtain ⟨⟨more, left⟩, hmore, h⟩ := map_eq_ok.1 h
    cases h
    exact .step hslash (.step (step_escaped hescaped) (ih hmore))
  case case11 c after hquote hslash' _ ih =>
    obtain ⟨⟨more, left⟩, hmore, h⟩ := map_eq_ok.1 h
    cases h
    exact .step (by rw [Place.step, if_neg hquote, if_neg hslash']) (ih hmore)
  all_goals cases h

theorem takes_readText {opening : Nat} {s : String} (h : readText opening cs = .ok (s, rest)) :
    Takes .outside ('"' :: cs) rest := by
  obtain ⟨⟨units, left⟩, hunits, h⟩ := map_eq_ok.1 h
  cases h
  exact .step (by decide) (takes_readUnits hunits)

/-! ### Numbers and words -/

theorem plain_of_isDigit {c : Char} (h : c.isDigit = true) : Plain c :=
  ⟨isDigit_ne h (by decide), isDigit_ne h (by decide)⟩

theorem takes_digits (cs : List Char) : Takes .outside cs (cs.dropWhile Char.isDigit) :=
  takes_dropWhile (fun _ => plain_of_isDigit) cs

theorem takes_wholePart (cs : List Char) : Takes .outside cs (wholePart cs).2 := by
  unfold wholePart
  split
  · exact .plain (by decide) (takes_nothing _)
  · exact takes_digits cs

theorem takes_fraction {places : List Char} (h : fraction? cs = some (places, rest)) : Takes .outside cs rest := by
  unfold fraction? at h
  split at h
  · split at h
    · cases h
      exact .plain (by decide) (takes_digits _)
    · cases h
  · cases h

theorem takes_takeSign (cs : List Char) : Takes .outside cs (Numeral.takeSign cs).2 := by
  unfold Numeral.takeSign
  split
  · exact .plain (by decide) (takes_nothing _)
  · exact .plain (by decide) (takes_nothing _)
  · exact takes_nothing _

theorem takes_exponentPart {e : Int} (h : exponentPart? cs = some (e, rest)) : Takes .outside cs rest := by
  unfold exponentPart? at h
  split at h
  · next c cs =>
    split at h
    · next hc =>
      have hplain : Plain c := by
        rcases hc with rfl | rfl <;> decide
      dsimp only at h
      split at h
      · cases h
      · cases h
        exact .plain hplain ((takes_takeSign cs).trans (takes_digits _))
    · cases h
  · cases h

theorem takes_readUnsigned {negative : Bool} {start : Nat} {v : Value}
    (h : readUnsigned negative start cs = .ok (v, rest)) : Takes .outside cs rest := by
  have hplaces : Takes .outside cs ((fraction? (wholePart cs).2).getD ([], (wholePart cs).2)).2 := by
    refine (takes_wholePart cs).trans ?_
    cases hfraction : fraction? (wholePart cs).2 with
    | none => exact takes_nothing _
    | some parts => exact takes_fraction hfraction
  refine hplaces.trans ?_
  unfold readUnsigned at h
  dsimp only at h
  split at h
  · cases h
  · split at h
    · next hexponent =>
      cases h
      exact takes_exponentPart hexponent
    · split at h
      · split at h <;> cases h
        exact takes_nothing _
      · cases h
        exact takes_nothing _

theorem takes_readNumber {v : Value} (h : readNumber cs = .ok (v, rest)) : Takes .outside cs rest := by
  unfold readNumber at h
  split at h
  · exact .plain (by decide) (takes_readUnsigned h)
  · exact takes_readUnsigned h

theorem takes_word {v : Value} (h : word? cs = some (v, rest)) : Takes .outside cs rest := by
  obtain ⟨⟨word, value⟩, hmem, hfound⟩ := List.exists_of_findSome?_eq_some h
  obtain ⟨left, hleft, hpair⟩ := Option.map_eq_some_iff.1 hfound
  cases hpair
  have hplain : ∀ pair ∈ words, ∀ c ∈ pair.1.toList, Plain c := by decide
  rw [← List.isPrefixOf?_eq_some_iff_append_eq.1 hleft]
  exact takes_plain (hplain _ hmem) rest

/-! ### Values -/

theorem takes_skipSpace_cons {c : Char} (hc : Plain c) (h : skipSpace cs = c :: rest) : Takes .outside cs rest := by
  have hskip := takes_skipSpace cs
  rw [h] at hskip
  exact hskip.trans (.plain hc (takes_nothing rest))

-- As the reader goes: on the fuel, with one theorem for each of its three functions.
mutual

theorem takes_readValue : ∀ {fuel : Nat} {cs rest : List Char} {v : Value}, readValue fuel cs = .ok (v, rest) →
    Takes .outside cs rest
  | 0, _, _, _, h => by cases h
  | _ + 1, [], _, _, h => by cases h
  | fuel + 1, c :: cs, rest, v, h => by
    unfold readValue at h
    split at h
    · next hquote =>
      obtain ⟨⟨text, left⟩, htext, hfound⟩ := map_eq_ok.1 h
      cases hfound
      rw [hquote]
      exact takes_readText htext
    · split at h
      · next hopen =>
        rw [hopen]
        refine .plain (by decide) ?_
        split at h
        · next hclose =>
          cases h
          exact takes_skipSpace_cons (by decide) hclose
        · obtain ⟨⟨items, left⟩, hitems, hfound⟩ := map_eq_ok.1 h
          cases hfound
          exact (takes_skipSpace cs).trans (takes_readItems hitems)
      · split at h
        · next hopen =>
          rw [hopen]
          refine .plain (by decide) ?_
          split at h
          · next hclose =>
            cases h
            exact takes_skipSpace_cons (by decide) hclose
          · obtain ⟨⟨pairs, left⟩, hpairs, hfound⟩ := map_eq_ok.1 h
            cases hfound
            exact (takes_skipSpace cs).trans (takes_readMembers hpairs)
        · split at h
          · next hword =>
            cases h
            exact takes_word hword
          · exact takes_readNumber h

theorem takes_readItems : ∀ {fuel : Nat} {cs rest : List Char} {items : List Value},
    readItems fuel cs = .ok (items, rest) → Takes .outside cs rest
  | 0, _, _, _, h => by cases h
  | fuel + 1, cs, rest, items, h => by
    unfold readItems at h
    split at h
    · cases h
    · next item left hitem =>
      refine (takes_readValue hitem).trans ?_
      split at h
      · next hclose =>
        cases h
        exact takes_skipSpace_cons (by decide) hclose
      · next after hcomma =>
        obtain ⟨⟨more, left⟩, hmore, hfound⟩ := map_eq_ok.1 h
        cases hfound
        exact ((takes_skipSpace_cons (by decide) hcomma).trans (takes_skipSpace after)).trans (takes_readItems hmore)
      · cases h

theorem takes_readMembers : ∀ {fuel : Nat} {cs rest : List Char} {pairs : List (String × Value)},
    readMembers fuel cs = .ok (pairs, rest) → Takes .outside cs rest
  | 0, _, _, _, h => by cases h
  | fuel + 1, cs, rest, pairs, h => by
    unfold readMembers at h
    split at h
    · cases h
    · next steps cs heq =>
      obtain rfl : fuel = steps := Nat.succ.inj heq
      split at h
      · cases h
      · next key left hkey =>
        refine (takes_readText hkey).trans ?_
        split at h
        · next afterColon hcolon =>
          refine ((takes_skipSpace_cons (by decide) hcolon).trans (takes_skipSpace afterColon)).trans ?_
          split at h
          · cases h
          · next value left hvalue =>
            refine (takes_readValue hvalue).trans ?_
            split at h
            · next hclose =>
              cases h
              exact takes_skipSpace_cons (by decide) hclose
            · next after hcomma =>
              obtain ⟨⟨more, left⟩, hmore, hfound⟩ := map_eq_ok.1 h
              cases hfound
              exact ((takes_skipSpace_cons (by decide) hcomma).trans (takes_skipSpace after)).trans
                (takes_readMembers hmore)
            · cases h
        · cases h
    · cases h

end

/-- A text that is read as a value has all its quoted texts closed. -/
theorem scan_of_read {text : String} {v : Value} (h : read text = .ok v) : scan .outside text.toList = some .outside := by
  obtain ⟨_, rest, hvalue, hend⟩ := readValue_of_read h
  have htakes := ((takes_skipSpace text.toList).trans (takes_readValue hvalue)).trans (takes_skipSpace rest)
  rw [hend] at htakes
  obtain ⟨used, hused, hscan⟩ := htakes
  rw [hused, List.append_nil, hscan]

end Workflows.Json
