/-
The canonical form of steps. Every step that is read from an entry has it, and a step that has it is
read from its own value again, at whatever place: its type, its name and its id are filled in, and no
spelling is left to be folded.
-/
import Mathlib.Data.List.DropRight
import Mathlib.Tactic
import Workflows.Proofs.Value.Object
import Workflows.Step

namespace Workflows

open Workflows.Text

/-! ## Texts -/

namespace Text

theorem dropWhile_trimEndWith {isCut : Char → Bool} {cs : List Char} (h : cs.dropWhile isCut = cs) :
    (trimEndWith isCut cs).dropWhile isCut = trimEndWith isCut cs := by
  obtain ⟨cut, hcut⟩ : trimEndWith isCut cs <+: cs := List.rdropWhile_prefix isCut cs
  cases hkept : trimEndWith isCut cs with
  | nil => rfl
  | cons c kept =>
    -- what is kept begins as the whole does, which nothing is dropped from
    rw [← hcut, hkept, List.cons_append, List.dropWhile_cons] at h
    split at h
    · have := congrArg List.length h
      have := (List.dropWhile_sublist (l := kept ++ cut) isCut).length_le
      simp only [List.length_cons] at *
      omega
    · next hc => rw [List.dropWhile_cons, if_neg hc]

theorem trimWith_trimWith (isCut : Char → Bool) (cs : List Char) :
    trimWith isCut (trimWith isCut cs) = trimWith isCut cs := by
  unfold trimWith
  rw [dropWhile_trimEndWith (List.dropWhile_idempotent isCut cs)]
  exact List.rdropWhile_idempotent isCut _

theorem trim_trim (text : String) : trim (trim text) = trim text := by
  simp only [trim, String.toList_ofList, trimChars, trimWith_trimWith]

end Text

theorem Binary64.layoutDigits_ne_nil (digits : List Char) (e : Int) : layoutDigits digits e ≠ [] := by
  unfold layoutDigits
  dsimp only
  split_ifs <;> simp

theorem Binary64.text_ne_empty (x : Binary64) : x.text ≠ "" := by
  unfold Binary64.text Binary64.magnitudeText
  have := layoutDigits_ne_nil x.shortestDigits.1 x.shortestDigits.2
  split_ifs <;> simp [*]

/-- A value that counts as true is set. -/
theorem Value.isUnset_of_isTrue {v : Value} (h : v.isTrue = true) : v.isUnset = false := by
  cases v with
  | null => cases h
  | text s => simpa [Value.isUnset, Value.isTrue] using h
  | _ => rfl

/-- A value that is set is no empty text. -/
theorem Value.display_ne_empty {v : Value} (h : v.isUnset = false) : v.display ≠ "" := by
  cases v with
  | null => cases h
  | bool b => cases b <;> simp [Value.display, Value.spelling]
  | int n => cases n <;> simp [Value.display, Value.spelling, toString, Int.repr]
  | float x => simpa [Value.display, Value.spelling] using x.text_ne_empty
  | text s => simpa [Value.isUnset, Value.display] using h
  | list items => simp [Value.display, Value.spelling]
  | object members => simp [Value.display, Value.spelling]
  | table entries => simp [Value.display, Value.spelling]

theorem Value.display_orElse_ne_empty {v : Value} {s : String} (h : s ≠ "") :
    (v.orElse (.text s)).display ≠ "" := by
  unfold Value.orElse
  split
  · next hv => exact Value.display_ne_empty (Value.isUnset_of_isTrue hv)
  · exact h

theorem Value.orElse_text {s : String} (h : s ≠ "") (other : Value) :
    (Value.text s).orElse other = .text s := by
  simp [Value.orElse, Value.isTrue, h]

/-! ## Types -/

theorem StepKind.ofText_word (kind : StepKind) : StepKind.ofText? kind.word = some kind := by
  cases kind <;> decide

theorem StepKind.trim_word (kind : StepKind) : trim kind.word = kind.word := by
  cases kind <;> decide

theorem StepKind.title_ne_empty (kind : StepKind) : kind.title ≠ "" := by
  cases kind <;> decide

namespace Step

/-! ## Parameters -/

/-- A parameter is filled in, or none of its spellings is. -/
def Folded (params : Object) (key : String) (others : List String) : Prop :=
  (Object.getOrNull params key).isTrue = true ∨ ∀ other ∈ others, (Object.getOrNull params other).isTrue = false

section

variable {params entry : Object} {key : String} {others : List String} {table : List (String × List String)}

theorem foldSpellings_cases (params : Object) (key : String) (others : List String) :
    foldSpellings params key others = params ∨
      ∃ other ∈ others, (Object.getOrNull params other).isTrue = true ∧
        foldSpellings params key others = Object.put params key (Object.getOrNull params other) := by
  unfold foldSpellings
  split
  · exact Or.inl rfl
  · split
    · next other h => exact Or.inr ⟨other, List.mem_of_find?_eq_some h, by simpa using List.find?_some h, rfl⟩
    · exact Or.inl rfl

theorem folded_foldSpellings (params : Object) (key : String) (others : List String) :
    Folded (foldSpellings params key others) key others := by
  unfold foldSpellings
  split
  · next h => exact Or.inl h
  · split
    · next other h =>
      rw [Folded, Object.getOrNull_put_self]
      exact Or.inl (by simpa using List.find?_some h)
    · next h => exact Or.inr fun other ho => by simpa using List.find?_eq_none.1 h other ho

theorem foldSpellings_of_folded (h : Folded params key others) : foldSpellings params key others = params := by
  unfold foldSpellings
  split
  · rfl
  · next hkey =>
    have hnone : others.find? (fun other => (Object.getOrNull params other).isTrue) = none := by
      rw [List.find?_eq_none]
      intro other ho
      simp [h.resolve_left hkey other ho]
    rw [hnone]

/-- Folding another parameter, which is no spelling of this one, keeps this one folded. -/
theorem Folded.foldSpellings (h : Folded params key others) {name : String} (names : List String)
    (hapart : name ≠ key ∧ name ∉ others) : Folded (foldSpellings params name names) key others := by
  rcases foldSpellings_cases params name names with he | ⟨other, -, -, he⟩
  · rw [he]
    exact h
  · have hother : ∀ o ∈ others, o ≠ name := fun o ho he => hapart.2 (he ▸ ho)
    rw [he, Folded, Object.getOrNull_put_of_ne hapart.1.symm]
    refine h.imp_right fun h o ho => ?_
    rw [Object.getOrNull_put_of_ne (hother o ho)]
    exact h o ho

/-- Folds one parameter after another. -/
def foldAll (table : List (String × List String)) (params : Object) : Object :=
  table.foldl (fun params (key, others) => Step.foldSpellings params key others) params

theorem Folded.foldAll (hapart : ∀ s ∈ table, s.1 ≠ key ∧ s.1 ∉ others) (h : Folded params key others) :
    Folded (foldAll table params) key others := by
  induction table generalizing params with
  | nil => exact h
  | cons s table ih =>
    exact ih (fun s' hs => hapart s' (List.mem_cons_of_mem _ hs))
      (h.foldSpellings s.2 (hapart s List.mem_cons_self))

theorem folded_foldAll (hapart : table.Pairwise fun s later => later.1 ≠ s.1 ∧ later.1 ∉ s.2)
    (params : Object) : ∀ s ∈ table, Folded (foldAll table params) s.1 s.2 := by
  induction table generalizing params with
  | nil => simp
  | cons s table ih =>
    obtain ⟨hs, htable⟩ := List.pairwise_cons.1 hapart
    intro s' hs'
    rcases List.mem_cons.1 hs' with rfl | hs'
    · -- folded first, and kept so by all that are folded later
      show Folded (foldAll table (foldSpellings params s'.1 s'.2)) s'.1 s'.2
      exact (folded_foldSpellings params s'.1 s'.2).foldAll hs
    · exact ih htable _ s' hs'

theorem foldAll_of_folded (h : ∀ s ∈ table, Folded params s.1 s.2) : foldAll table params = params := by
  induction table with
  | nil => rfl
  | cons s table ih =>
    have hs : Step.foldSpellings params s.1 s.2 = params := foldSpellings_of_folded (h s List.mem_cons_self)
    rw [foldAll, List.foldl_cons]
    simp only [hs]
    exact ih fun s' hs' => h s' (List.mem_cons_of_mem _ hs')

theorem foldl_adoptField_of_absent {keys : List String} (h : ∀ key ∈ keys, key ∉ entry.map (·.1)) :
    keys.foldl (adoptField entry) params = params := by
  induction keys with
  | nil => rfl
  | cons key keys ih =>
    have hkey : adoptField entry params key = params := by
      rw [adoptField, Object.get_of_absent (h key List.mem_cons_self)]
      simp
    rw [List.foldl_cons, hkey]
    exact ih fun key hk => h key (List.mem_cons_of_mem _ hk)

end

theorem normalizeParams_eq (entry params : Object) :
    normalizeParams entry params = foldAll spellings (flatFields.foldl (adoptField entry) params) := rfl

theorem folded_normalizeParams (entry params : Object) :
    ∀ s ∈ spellings, Folded (normalizeParams entry params) s.1 s.2 := by
  rw [normalizeParams_eq]
  exact folded_foldAll (by decide) _

/-! ## The canonical form -/

/-- Everything is filled in: the type is the word of a kind or names none, and no spelling of a parameter
is left to be folded. -/
structure Canonical (step : Step) : Prop where
  id : step.id ≠ ""
  type : (∃ kind : StepKind, step.type = kind.word) ∨
    (StepKind.ofText? step.type = none ∧ trim step.type = step.type)
  name : ∃ s, s ≠ "" ∧ step.name = .text s
  params : ∀ s ∈ spellings, Folded step.params s.1 s.2

/-- The word of the kind that a trimmed text names, or the text itself if it names none. -/
def canonicalType (type : String) : String := ((StepKind.ofText? type).map StepKind.word).getD type

theorem canonicalType_of_trimmed {type : String} (h : trim type = type) :
    (∃ kind : StepKind, canonicalType type = kind.word) ∨
      (StepKind.ofText? (canonicalType type) = none ∧ trim (canonicalType type) = canonicalType type) := by
  unfold canonicalType
  cases hkind : StepKind.ofText? type with
  | none => exact Or.inr ⟨hkind, h⟩
  | some kind => exact Or.inl ⟨kind, rfl⟩

theorem Canonical.canonicalType_eq {step : Step} (h : step.Canonical) :
    canonicalType (trim step.type) = step.type := by
  unfold canonicalType
  rcases h.type with ⟨kind, hkind⟩ | ⟨hnone, htrim⟩
  · rw [hkind, kind.trim_word, kind.ofText_word]
    rfl
  · rw [htrim, hnone]
    rfl

/-! ## Reading a step's own value -/

section

variable (entry params : Object) (position : Nat)

/-- The name of a step that is given none. -/
def titleOf (type : String) : String :=
  match StepKind.ofText? type with
  | some kind => kind.title
  | none => if type = "" then "Step" else type

theorem titleOf_ne_empty (type : String) : titleOf type ≠ "" := by
  unfold titleOf
  split
  · next kind _ => exact kind.title_ne_empty
  · split
    · decide
    · assumption

/-- The type that an object names, without the blanks around it. -/
def typeText : String := trim ((Object.getOrNull entry "type").orElse (.text "")).display

theorem trim_typeText : trim (typeText entry) = typeText entry := trim_trim _

variable {entry} in
/-- The type that an object names by a text. -/
theorem typeText_of_text {text : String} (h : Object.getOrNull entry "type" = .text text) :
    typeText entry = trim text := by
  rw [typeText, h]
  by_cases hempty : text = ""
  · rw [hempty]
    rfl
  · rw [Value.orElse_text hempty]
    rfl

/-- The step of an object, field by field. -/
theorem ofMembers_step : (ofMembers entry params position).1 =
    { id := ((Object.getOrNull entry "id").orElse (.text ("step_" ++ toString position))).display
      type := canonicalType (typeText entry)
      name := .text ((Object.getOrNull entry "name").orElse (.text (titleOf (typeText entry)))).display
      params := normalizeParams entry params } := by
  cases h : StepKind.ofText? (typeText entry) with
  | none =>
    unfold typeText at *
    simp only [ofMembers, canonicalType, titleOf, h]
  | some kind =>
    unfold typeText at *
    simp only [ofMembers, canonicalType, titleOf, h]

theorem canonical_ofMembers : (ofMembers entry params position).1.Canonical := by
  rw [ofMembers_step]
  refine ⟨?_, ?_, ?_, ?_⟩ <;> dsimp only
  · exact Value.display_orElse_ne_empty (by simp)
  · exact canonicalType_of_trimmed (trim_typeText entry)
  · exact ⟨_, Value.display_orElse_ne_empty (titleOf_ne_empty _), rfl⟩
  · exact folded_normalizeParams entry params

end

/-- The members of a step's value. -/
def members (step : Step) : Object :=
  [("id", .text step.id), ("type", .text step.type), ("name", step.name), ("params", .object step.params)]

theorem typeText_members (step : Step) : typeText step.members = trim step.type := typeText_of_text rfl

/-- A step in canonical form is read from its own value. -/
theorem ofMembers_members {step : Step} (h : step.Canonical) (position : Nat) :
    (ofMembers step.members step.params position).1 = step := by
  obtain ⟨s, hs, hname⟩ := h.name
  have hflat : flatFields.foldl (adoptField step.members) step.params = step.params :=
    foldl_adoptField_of_absent (by
      simp only [members, List.map_cons, List.map_nil]
      decide)
  have hparams : normalizeParams step.members step.params = step.params := by
    rw [normalizeParams_eq, hflat, foldAll_of_folded h.params]
  have hid : (Object.getOrNull step.members "id").orElse (.text ("step_" ++ toString position)) =
      .text step.id := Value.orElse_text h.id _
  have hfill : ∀ other, (Object.getOrNull step.members "name").orElse other = .text s := fun other => by
    rw [show Object.getOrNull step.members "name" = step.name from rfl, hname]
    exact Value.orElse_text hs other
  rw [ofMembers_step]
  simp only [typeText_members, h.canonicalType_eq, hid, hfill, hparams, Value.display]
  rw [← hname]

theorem ofValue_toValue {step : Step} (h : step.Canonical) (position : Nat) :
    (ofValue step.toValue position).1 = some step := by
  have hparams : Object.getOrNull step.members "params" = .object step.params := rfl
  rw [show step.toValue = .object step.members from rfl, ofValue, hparams]
  exact congrArg some (ofMembers_members h position)

/-! ## Lists of steps -/

theorem canonical_ofValue {entry : Value} {position : Nat} {step : Step}
    (h : (ofValue entry position).1 = some step) : step.Canonical := by
  unfold ofValue at h
  split at h
  · split at h
    · cases h
      exact canonical_ofMembers _ _ _
    · cases h
      exact canonical_ofMembers _ _ _
    · cases h
  · cases h

theorem canonical_ofEntries : ∀ (entries : List Value) (position : Nat),
    ∀ step ∈ (ofEntries position entries).1, step.Canonical
  | [], _ => by simp [ofEntries]
  | entry :: entries, position => by
    intro step hstep
    simp only [ofEntries, List.mem_append, Option.mem_toList] at hstep
    rcases hstep with h | h
    · exact canonical_ofValue h
    · exact canonical_ofEntries entries _ step h

theorem ofEntries_toValue : ∀ {steps : List Step}, (∀ step ∈ steps, step.Canonical) → ∀ position,
    (ofEntries position (steps.map toValue)).1 = steps
  | [], _, _ => rfl
  | step :: steps, h, position => by
    simp only [List.map_cons, ofEntries]
    rw [ofValue_toValue (h step List.mem_cons_self),
      ofEntries_toValue fun s hs => h s (List.mem_cons_of_mem _ hs)]
    rfl

theorem canonical_readEntries {entries : List Value} {steps : List Step}
    (h : (readEntries entries).1 = .ok steps) : steps ≠ [] ∧ ∀ step ∈ steps, step.Canonical := by
  unfold readEntries at h
  split at h
  · cases h
  · dsimp only at h
    split at h
    · cases h
    · next hne =>
      cases h
      exact ⟨by simpa using hne, canonical_ofEntries _ _⟩

/-- Steps in canonical form are read from their own values. -/
theorem readEntries_toValue {steps : List Step} (hne : steps ≠ []) (h : ∀ step ∈ steps, step.Canonical) :
    (readEntries (steps.map toValue)).1 = .ok steps := by
  have hempty : (steps.map toValue).isEmpty = false := by simpa using hne
  unfold readEntries
  rw [hempty]
  simp only [Bool.false_eq_true, if_false, ofEntries_toValue h]
  rw [if_neg (by simpa using hne)]

end Step

end Workflows
