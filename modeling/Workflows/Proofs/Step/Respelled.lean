/-
Entries that spell one step in several ways: its type in other letters, a parameter beside the type and not among the
parameters, and the code or the prompt under an older name. However these are combined, the step that is read has the same
id, type and name, and the same in every parameter that is read when it is run.
-/
import Mathlib.Data.List.Forall2
import Mathlib.Logic.Relation
import Workflows.Proofs.Step.Canonical
import Workflows.Proofs.Text.Search

namespace Workflows

open Workflows.Text

/-! ## Types -/

/-- The words for a kind, in small letters. -/
def StepKind.words (kind : StepKind) : List String := kind.word :: if kind = .httpRequest then ["http"] else []

/-- A character is a letter in either case. -/
def InEitherCase (c letter : Char) : Prop := c = letter ∨ c = letter.toUpper

instance (c letter : Char) : Decidable (InEitherCase c letter) := inferInstanceAs (Decidable (_ ∨ _))

/-- A text that names a kind by one of its words, in letters of either case and with blanks around it. -/
def StepKind.Names (kind : StepKind) (text : String) : Prop :=
  ∃ left core right : List Char, text.toList = left ++ (core ++ right) ∧ (∀ c ∈ left, isBlank c = true) ∧
    (∀ c ∈ right, isBlank c = true) ∧ ∃ word ∈ kind.words, List.Forall₂ InEitherCase core word.toList

/-- A character that is a small letter, or that has no case, and is no blank. -/
def IsSmall (letter : Char) : Prop :=
  ∀ c ∈ [letter, letter.toUpper], lowerChar c = [letter] ∧ c ≠ 'Σ' ∧ isBlank c = false

instance (letter : Char) : Decidable (IsSmall letter) := inferInstanceAs (Decidable (∀ c ∈ _, _))

section

variable {core word : List Char}

theorem lowerFrom_of_letters (h : List.Forall₂ InEitherCase core word)
    (hsmall : ∀ letter ∈ word, IsSmall letter) (before : List Char) : lowerFrom before core = word := by
  induction h generalizing before with
  | nil => rfl
  | @cons c letter core word hc _ ih =>
    obtain ⟨hletter, hword⟩ := List.forall_mem_cons.1 hsmall
    obtain ⟨hlower, hsigma, -⟩ := hletter c (by simpa [InEitherCase] using hc)
    rw [lowerFrom, if_neg hsigma, hlower, ih hword]
    rfl

theorem not_blank_of_letters (h : List.Forall₂ InEitherCase core word)
    (hsmall : ∀ letter ∈ word, IsSmall letter) : ∀ c ∈ core, isBlank c = false := by
  induction h with
  | nil => exact List.forall_mem_nil _
  | @cons c letter core word hc _ ih =>
    obtain ⟨hletter, hword⟩ := List.forall_mem_cons.1 hsmall
    exact List.forall_mem_cons.2 ⟨(hletter c (by simpa [InEitherCase] using hc)).2.2, ih hword⟩

end

theorem StepKind.ofText_of_names {kind : StepKind} {text : String} (h : kind.Names text) :
    StepKind.ofText? (trim text) = some kind := by
  obtain ⟨left, core, right, htext, hleft, hright, word, hword, hcore⟩ := h
  have hwords : ∀ kind : StepKind, ∀ word ∈ kind.words,
      word.toList ≠ [] ∧ (∀ letter ∈ word.toList, IsSmall letter) ∧ ofWord? word = some kind := by
    intro kind
    cases kind <;> decide +kernel
  obtain ⟨hne, hsmall, hkind⟩ := hwords kind word hword
  have hblank := not_blank_of_letters hcore hsmall
  have hcore' : core ≠ [] := fun hnil => hne (List.forall₂_nil_left_iff.1 (hnil ▸ hcore))
  have hfirst := List.head?_eq_some_head hcore'
  have hlast := List.getLast?_eq_some_getLast hcore'
  have htrim : trimChars text.toList = core := by
    rw [htext]
    exact trimChars_append hleft hright hfirst hlast
      ⟨hblank _ (List.head_mem hcore'), hblank _ (List.getLast_mem hcore')⟩
  rw [ofText?, trim_trim, trim, htrim, lower, String.toList_ofList, lowerFrom_of_letters hcore hsmall,
    String.ofList_toList, hkind]

namespace Step

/-! ## Places of parameters -/

/-- Where an entry has a parameter: among the parameters that are its own, or beside its type. -/
inductive Place
  | own | beside
deriving DecidableEq

instance (p : Place → Prop) [DecidablePred p] : Decidable (∀ place, p place) :=
  decidable_of_iff (p .own ∧ p .beside) ⟨fun h place => by cases place <;> simp [h], fun h => ⟨h .own, h .beside⟩⟩

/-- A place and the name that something has there. -/
structure Slot where
  place : Place
  name : String
deriving DecidableEq

/-- The parameters of its own that an entry has; none if they are no object. -/
def ownParams? (entry : Object) : Option Object :=
  match Object.getOrNull entry "params" with
  | .null => some []
  | .object params => some params
  | _ => none

/-- What an entry has in a slot. -/
def Slot.get? (slot : Slot) (entry : Object) : Option Value :=
  match slot.place with
  | .own => (ownParams? entry).bind fun params => Object.get? params slot.name
  | .beside => Object.get? entry slot.name

/-- Two entries that are usable alike and differ in some slots at most. What is in the parameters of their own is told by
the slots there. -/
structure SameBut (slots : List Slot) (one other : Object) : Prop where
  usable : (ownParams? one).isSome = (ownParams? other).isSome
  same : ∀ slot : Slot, slot ∉ slots → slot ≠ ⟨.beside, "params"⟩ → slot.get? one = slot.get? other

/-- An entry has a value in one slot, and nothing else under some names. -/
structure Sole (slot : Slot) (names : List String) (v : Value) (entry : Object) : Prop where
  here : slot.get? entry = some v
  nowhere : ∀ name ∈ names, ∀ place, ⟨place, name⟩ ≠ slot → Slot.get? ⟨place, name⟩ entry = none

instance (slot : Slot) (names : List String) (v : Value) (entry : Object) : Decidable (Sole slot names v entry) :=
  decidable_of_iff (slot.get? entry = some v ∧
    ∀ name ∈ names, ∀ place, ⟨place, name⟩ ≠ slot → Slot.get? ⟨place, name⟩ entry = none)
    ⟨fun h => ⟨h.1, h.2⟩, fun h => ⟨h.here, h.nowhere⟩⟩

/-- Two entries that spell a step in two ways: its kind by another text, a parameter beside the type and not among the
others, or a parameter that counts as true under another of its names. -/
inductive Respells (one other : Object) : Prop
  | type (kind : StepKind) (text text' : String) (here : Object.get? one "type" = some (.text text))
      (there : Object.get? other "type" = some (.text text')) (names : kind.Names text) (names' : kind.Names text')
      (rest : SameBut [⟨.beside, "type"⟩] one other)
  | move (name : String) (v : Value) (flat : name ∈ flatFields) (here : Sole ⟨.own, name⟩ [name] v one)
      (there : Sole ⟨.beside, name⟩ [name] v other) (rest : SameBut [⟨.own, name⟩, ⟨.beside, name⟩] one other)
  | rename (spelling : String × List String) (place : Place) (name : String) (v : Value)
      (known : spelling ∈ spellings) (among : name ∈ spelling.2) (filled : v.isTrue = true)
      (here : Sole ⟨place, spelling.1⟩ spelling.2 v one) (there : Sole ⟨place, name⟩ spelling.2 v other)
      (rest : SameBut [⟨place, spelling.1⟩, ⟨place, name⟩] one other)

/-- Items of two lists of entries, of which the other has objects spelled in other ways. -/
inductive RespellsItem : Value → Value → Prop
  | object {one other : Object} : Relation.EqvGen Respells one other → RespellsItem (.object one) (.object other)
  | same (v : Value) : RespellsItem v v

/-! ## Parameters after reading -/

section

variable (entry params : Object)

theorem get_adoptField (key name : String) : Object.get? (adoptField entry params key) name =
    if name = key then (Object.get? params name).or (Object.get? entry name) else Object.get? params name := by
  rw [adoptField, Object.has_eq_isSome]
  by_cases hname : name = key
  · rw [if_pos hname, hname]
    cases hown : Object.get? params key with
    | some v => simp [hown]
    | none => cases hbeside : Object.get? entry key <;> simp [hown, Object.get_put_self]
  · rw [if_neg hname]
    cases hown : Object.get? params key with
    | some v => simp
    | none => cases hbeside : Object.get? entry key <;> simp [Object.get_put_of_ne hname]

theorem get_foldl_adoptField (keys : List String) (name : String) :
    Object.get? (keys.foldl (adoptField entry) params) name =
      if name ∈ keys then (Object.get? params name).or (Object.get? entry name) else Object.get? params name := by
  induction keys generalizing params with
  | nil => rfl
  | cons key keys ih =>
    rw [List.foldl_cons, ih, get_adoptField]
    by_cases hkey : name = key
    · by_cases hmem : name ∈ keys <;> simp [hkey, Option.or_assoc]
    · by_cases hmem : name ∈ keys <;> simp [hkey, hmem]

/-- The value that a parameter is given of those under its names. -/
def filled (value : String → Value) (key : String) (names : List String) : Value :=
  if (value key).isTrue then value key
  else ((names.find? fun name => (value name).isTrue).map value).getD (value key)

theorem getOrNull_foldSpellings (key : String) (names : List String) (name : String) :
    Object.getOrNull (foldSpellings params key names) name =
      if name = key then filled (Object.getOrNull params) key names else Object.getOrNull params name := by
  unfold foldSpellings filled
  by_cases hkey : (Object.getOrNull params key).isTrue = true
  · rw [if_pos hkey, if_pos hkey]
    split
    · next hname => rw [hname]
    · rfl
  · rw [if_neg hkey, if_neg hkey]
    cases names.find? fun name => (Object.getOrNull params name).isTrue with
    | none =>
      dsimp only
      split
      · next hname => rw [hname]; rfl
      · rfl
    | some other =>
      dsimp only
      split
      · next hname => rw [hname]; exact Object.getOrNull_put_self
      · next hname => exact Object.getOrNull_put_of_ne hname

end

section

variable {value value' : String → Value} {key : String} {names : List String}

theorem filled_congr (h : ∀ name ∈ key :: names, value name = value' name) :
    filled value key names = filled value' key names := by
  obtain ⟨hkey, hnames⟩ := List.forall_mem_cons.1 h
  have hfind : (names.find? fun name => (value name).isTrue) = names.find? fun name => (value' name).isTrue :=
    List.find?_congr fun name hname => by rw [hnames name hname]
  unfold filled
  rw [hkey, hfind]
  cases hfound : names.find? fun name => (value' name).isTrue with
  | none => rfl
  | some name => rw [Option.map_some, Option.map_some, hnames name (List.mem_of_find?_eq_some hfound)]

/-- The only value that is there is taken, under whichever of the names it is. -/
theorem filled_of_only {name : String} (hname : name ∈ names) (htrue : (value name).isTrue = true)
    (honly : ∀ other ∈ key :: names, other ≠ name → value other = .null) : filled value key names = value name := by
  unfold filled
  by_cases hkey : key = name
  · rw [hkey, if_pos htrue]
  · have hnull : value key = .null := honly key List.mem_cons_self hkey
    have hfind : (names.find? fun name => (value name).isTrue) = some name := by
      cases hfound : names.find? fun name => (value name).isTrue with
      | none => exact absurd htrue (by simpa using List.find?_eq_none.1 hfound name hname)
      | some other =>
        have hother := List.find?_some hfound
        by_cases hsame : other = name
        · rw [hsame]
        · rw [honly other (List.mem_cons_of_mem key (List.mem_of_find?_eq_some hfound)) hsame] at hother
          cases hother
    rw [hnull, hfind]
    rfl

end

/-- What an entry has under a name: among its own parameters, or else beside its type if it may stand there. -/
def field? (entry : Object) (name : String) : Option Value :=
  (Slot.get? ⟨.own, name⟩ entry).or (if name ∈ flatFields then Slot.get? ⟨.beside, name⟩ entry else none)

/-- The value that a parameter of the step of an entry has. -/
def valueOf (entry : Object) (name : String) : Value :=
  let value := fun name => (field? entry name).getD .null
  match spellings.find? (·.1 == name) with
  | some (key, names) => filled value key names
  | none => value name

theorem getOrNull_normalizeParams {entry params : Object} (h : ownParams? entry = some params) (name : String) :
    Object.getOrNull (normalizeParams entry params) name = valueOf entry name := by
  have hflat : Object.getOrNull (flatFields.foldl (adoptField entry) params) = fun name =>
      (field? entry name).getD .null := by
    funext name
    rw [Object.getOrNull, get_foldl_adoptField, field?, Slot.get?, h]
    split <;> simp [Slot.get?]
  rw [normalizeParams_eq]
  generalize flatFields.foldl (adoptField entry) params = flat at hflat
  rw [valueOf, ← hflat]
  -- folding the code changes nothing about the prompt
  have hprompt : filled (Object.getOrNull (foldSpellings flat "code" ["code", "jsCode", "pythonCode", "functionCode"]))
      "prompt" ["prompt", "prompt_template"] =
        filled (Object.getOrNull flat) "prompt" ["prompt", "prompt_template"] :=
    filled_congr fun other hother => by
      rw [getOrNull_foldSpellings, if_neg]
      rintro rfl
      exact absurd hother (by decide)
  have hfold : foldAll spellings flat = foldSpellings
      (foldSpellings flat "code" ["code", "jsCode", "pythonCode", "functionCode"]) "prompt"
      ["prompt", "prompt_template"] := rfl
  rw [hfold, getOrNull_foldSpellings, getOrNull_foldSpellings, hprompt]
  by_cases hname : name = "prompt"
  · rw [hname]
    rfl
  · by_cases hcode : name = "code"
    · rw [hcode]
      rfl
    · have hnone : spellings.find? (·.1 == name) = none := by
        simp [spellings, Ne.symm hname, Ne.symm hcode]
      rw [if_neg hname, if_neg hcode, hnone]

/-! ## One step in several spellings -/

/-- The parameters that are read when a step is run. -/
def readFields : List String := ["code", "prompt", "url", "method", "body", "headers", "seconds", "ms"]

/-- What a run takes from a step. -/
structure View where
  id : String
  type : String
  name : Value
  values : List Value

def view (step : Step) : View := ⟨step.id, step.type, step.name, readFields.map (Object.getOrNull step.params)⟩

section

variable {one other : Object}

theorem SameBut.field_eq {slots : List Slot} (h : SameBut slots one other) {name : String}
    (hown : ⟨.own, name⟩ ∉ slots) (hbeside : name ∈ flatFields → ⟨.beside, name⟩ ∉ slots) :
    field? one name = field? other name := by
  rw [field?, field?, h.same _ hown (by simp)]
  split
  · next hflat =>
    rw [h.same _ (hbeside hflat)]
    rintro heq
    cases heq
    exact absurd hflat (by decide)
  · rfl

/-- What an entry has in one slot only it has under the name of this slot. -/
theorem Sole.field_eq {slot : Slot} {names : List String} {v : Value} {entry : Object} (h : Sole slot names v entry)
    (hname : slot.name ∈ names) (hflat : slot.name ∈ flatFields) :
    field? entry slot.name = some v ∧ ∀ name ∈ names, name ≠ slot.name → field? entry name = none := by
  obtain ⟨place, name⟩ := slot
  constructor
  · cases place with
    | own =>
      rw [field?, h.here]
      rfl
    | beside =>
      rw [field?, if_pos hflat, h.here, h.nowhere name hname .own (by simp)]
      rfl
  · intro other hother hne
    have hnone : ∀ place', Slot.get? ⟨place', other⟩ entry = none := fun place' =>
      h.nowhere other hother place' (by simp [hne])
    rw [field?, hnone, hnone]
    split <;> rfl

/-- Entries that agree in a parameter under all of its names. -/
theorem valueOf_congr (h : field? one = field? other) (name : String) : valueOf one name = valueOf other name := by
  rw [valueOf, valueOf, h]

/-- A parameter that counts as true and is there under one name only is taken from there. -/
theorem Sole.valueOf_eq {slot : Slot} {spelling : String × List String} {v : Value} {entry : Object}
    (h : Sole slot spelling.2 v entry) (hspelling : spelling ∈ spellings) (hname : slot.name ∈ spelling.2)
    (htrue : v.isTrue = true) : valueOf entry spelling.1 = v := by
  have hflat : ∀ s ∈ spellings, ∀ name ∈ s.2, name ∈ flatFields := by decide
  have hfind : ∀ s ∈ spellings, spellings.find? (·.1 == s.1) = some s ∧ s.1 ∈ s.2 := by decide
  obtain ⟨hfield, hnone⟩ := h.field_eq hname (hflat _ hspelling _ hname)
  obtain ⟨hfound, hself⟩ := hfind _ hspelling
  have hvalue : ((field? entry slot.name).getD .null) = v := by rw [hfield]; rfl
  rw [valueOf, hfound]
  refine (filled_of_only hname (by rwa [hvalue]) fun name hmem hne => ?_).trans hvalue
  have hmem : name ∈ spelling.2 := by
    rcases List.mem_cons.1 hmem with rfl | hmem
    · exact hself
    · exact hmem
  rw [hnone name hmem hne]
  rfl

theorem Respells.valueOf_eq (h : Respells one other) {name : String} (hname : name ∈ readFields) :
    valueOf one name = valueOf other name := by
  cases h with
  | type kind text text' _ _ _ _ hrest =>
    refine valueOf_congr (funext fun key => hrest.field_eq (by simp) fun hflat hslot => ?_) name
    cases List.mem_singleton.1 hslot
    exact absurd hflat (by decide)
  | move key v hflat hone hother hrest =>
    refine valueOf_congr (funext fun other => ?_) name
    by_cases hkey : other = key
    · rw [hkey, (hone.field_eq (List.mem_singleton_self key) hflat).1,
        (hother.field_eq (List.mem_singleton_self key) hflat).1]
    · exact hrest.field_eq (by simp [hkey]) fun _ => by simp [hkey]
  | rename spelling place key v hspelling hkey htrue hone hother hrest =>
    have hself : ∀ s ∈ spellings, s.1 ∈ s.2 := by decide
    by_cases hname' : name = spelling.1
    · rw [hname', hone.valueOf_eq hspelling (hself _ hspelling) htrue, hother.valueOf_eq hspelling hkey htrue]
    · -- no other parameter that is read has a name of this one
      have hlone : ∀ s ∈ spellings, ∀ name ∈ readFields, name ≠ s.1 → name ∉ s.2 := by decide
      have hapart : ∀ s ∈ spellings, ∀ s' ∈ spellings, s'.1 ≠ s.1 → ∀ n ∈ s'.1 :: s'.2, n ∉ s.2 := by decide
      have hfield : ∀ n, n ∉ spelling.2 → field? one n = field? other n := fun n hn => by
        have hne : n ≠ spelling.1 ∧ n ≠ key := ⟨fun h => hn (h ▸ hself _ hspelling), fun h => hn (h ▸ hkey)⟩
        exact hrest.field_eq (by simp [hne.1, hne.2]) fun _ => by simp [hne.1, hne.2]
      unfold valueOf
      cases hfound : spellings.find? (·.1 == name) with
      | none =>
        dsimp only
        rw [hfield name (hlone _ hspelling _ hname hname')]
      | some s' =>
        have hs' : s'.1 = name := by simpa using List.find?_some hfound
        refine filled_congr fun n hn => ?_
        rw [hfield n (hapart _ hspelling _ (List.mem_of_find?_eq_some hfound) (hs' ▸ hname') n hn)]

theorem Respells.usable (h : Respells one other) : (ownParams? one).isSome = (ownParams? other).isSome := by
  cases h with
  | type _ _ _ _ _ _ _ hrest => exact hrest.usable
  | move _ _ _ _ _ hrest => exact hrest.usable
  | rename _ _ _ _ _ _ _ _ _ hrest => exact hrest.usable

theorem SameBut.getOrNull_eq {slots : List Slot} (h : SameBut slots one other) {name : String} (hname : name ≠ "params")
    (hslots : ∀ slot ∈ slots, slot.name ≠ name) : Object.getOrNull one name = Object.getOrNull other name := by
  have hsame : Object.get? one name = Object.get? other name :=
    h.same ⟨.beside, name⟩ (fun hmem => hslots _ hmem rfl) (by simpa using hname)
  rw [Object.getOrNull, Object.getOrNull, hsame]

/-- What an entry has beside its type and its parameters stays. -/
theorem Respells.getOrNull_eq (h : Respells one other) {name : String}
    (hname : name ∉ "type" :: "params" :: flatFields) : Object.getOrNull one name = Object.getOrNull other name := by
  have hflat : ∀ s ∈ spellings, s.1 ∈ flatFields ∧ ∀ key ∈ s.2, key ∈ flatFields := by decide
  simp only [List.mem_cons, not_or] at hname
  obtain ⟨htype, hparams, hfields⟩ := hname
  cases h with
  | type _ _ _ _ _ _ _ hrest => exact hrest.getOrNull_eq hparams (by simpa using Ne.symm htype)
  | move key v hkey _ _ hrest =>
    have hne : key ≠ name := fun h => hfields (h ▸ hkey)
    exact hrest.getOrNull_eq hparams (by simpa using hne)
  | rename spelling place key v hspelling hkey _ _ _ hrest =>
    obtain ⟨hcanonical, hspelled⟩ := hflat _ hspelling
    have hne : spelling.1 ≠ name ∧ key ≠ name :=
      ⟨fun h => hfields (h ▸ hcanonical), fun h => hfields (h ▸ hspelled _ hkey)⟩
    exact hrest.getOrNull_eq hparams (by simpa using hne)

theorem ofText_typeText_of_names {kind : StepKind} {text : String} {entry : Object}
    (h : Object.get? entry "type" = some (.text text)) (hnames : kind.Names text) :
    StepKind.ofText? (typeText entry) = some kind := by
  have hnull : Object.getOrNull entry "type" = .text text := by rw [Object.getOrNull, h]; rfl
  rw [typeText_of_text hnull, StepKind.ofText_of_names hnames]

/-- The type of the step stays, and the name it has if it is given none. -/
theorem Respells.type_eq (h : Respells one other) :
    canonicalType (typeText one) = canonicalType (typeText other) ∧
      titleOf (typeText one) = titleOf (typeText other) := by
  have hsame : Object.getOrNull one "type" = Object.getOrNull other "type" →
      canonicalType (typeText one) = canonicalType (typeText other) ∧
        titleOf (typeText one) = titleOf (typeText other) := fun h => by
    rw [typeText, typeText, h]
    exact ⟨rfl, rfl⟩
  have hflat : "type" ∉ flatFields ∧ ∀ s ∈ spellings, s.1 ≠ "type" ∧ ∀ key ∈ s.2, key ≠ "type" := by decide
  cases h with
  | type kind text text' hone hother hnames hnames' _ =>
    simp only [canonicalType, titleOf, ofText_typeText_of_names hone hnames, ofText_typeText_of_names hother hnames',
      Option.map_some, Option.getD_some, and_self]
  | move key v hkey _ _ hrest =>
    have hne : key ≠ "type" := fun h => hflat.1 (h ▸ hkey)
    exact hsame (hrest.getOrNull_eq (by decide) (by simpa using hne))
  | rename spelling place key v hspelling hkey _ _ _ hrest =>
    obtain ⟨hcanonical, hspelled⟩ := hflat.2 _ hspelling
    exact hsame (hrest.getOrNull_eq (by decide) (by simpa using ⟨hcanonical, hspelled _ hkey⟩))

theorem ofValue_object (entry : Object) (position : Nat) : (ofValue (.object entry) position).1 =
    (ownParams? entry).map fun params => (ofMembers entry params position).1 := by
  unfold ownParams?
  cases h : Object.getOrNull entry "params" <;> simp only [ofValue, h, Option.map_some, Option.map_none]

/-- The step of an entry is to a run what the step of the entry in another spelling is. -/
theorem Respells.view_eq (h : Respells one other) (position : Nat) :
    (ofValue (.object one) position).1.map view = (ofValue (.object other) position).1.map view := by
  have husable := h.usable
  rw [ofValue_object, ofValue_object]
  cases hone : ownParams? one with
  | none =>
    cases hother : ownParams? other with
    | none => rfl
    | some params' => simp [hone, hother] at husable
  | some params =>
    cases hother : ownParams? other with
    | none => simp [hone, hother] at husable
    | some params' =>
      obtain ⟨htype, htitle⟩ := h.type_eq
      have hvalues : readFields.map (Object.getOrNull (normalizeParams one params)) =
          readFields.map (Object.getOrNull (normalizeParams other params')) :=
        List.map_congr_left fun name hname => by
          rw [getOrNull_normalizeParams hone, getOrNull_normalizeParams hother, h.valueOf_eq hname]
      simp only [Option.map_some, view, ofMembers_step, htype, htitle, hvalues, h.getOrNull_eq (by decide : "id" ∉ _),
        h.getOrNull_eq (by decide : "name" ∉ _)]

end

/-! ## Lists of steps -/

theorem RespellsItem.view_eq {one other : Value} (h : RespellsItem one other) (position : Nat) :
    (ofValue one position).1.map view = (ofValue other position).1.map view := by
  cases h with
  | same => rfl
  | object h =>
    induction h with
    | rel _ _ h => exact h.view_eq position
    | refl => rfl
    | symm _ _ _ ih => exact ih.symm
    | trans _ _ _ _ _ ih ih' => exact ih.trans ih'

section

variable {entries entries' : List Value}

theorem ofEntries_cons (position : Nat) (entry : Value) (entries : List Value) :
    (ofEntries position (entry :: entries)).1 =
      (ofValue entry position).1.toList ++ (ofEntries (position + 1) entries).1 := rfl

theorem views_ofEntries (h : List.Forall₂ RespellsItem entries entries') (position : Nat) :
    (ofEntries position entries).1.map view = (ofEntries position entries').1.map view := by
  induction h generalizing position with
  | nil => rfl
  | @cons entry entry' entries entries' hentry _ ih =>
    have hviews : ∀ step? : Option Step, step?.toList.map view = (step?.map view).toList := fun step? => by
      cases step? <;> rfl
    rw [ofEntries_cons, ofEntries_cons, List.map_append, List.map_append, hviews, hviews, hentry.view_eq, ih]

/-- The steps of entries in other spellings are the same to a run. -/
theorem views_readEntries (h : List.Forall₂ RespellsItem entries entries') :
    (readEntries entries).1.map (List.map view) = (readEntries entries').1.map (List.map view) := by
  have hviews : ∀ entries : List Value, (readEntries entries).1.map (List.map view) =
      if entries = [] then .error .noSteps
      else if (ofEntries 1 entries).1.map view = [] then .error .noUsableSteps
      else .ok ((ofEntries 1 entries).1.map view) := fun entries => by
    unfold readEntries
    cases entries with
    | nil => rfl
    | cons entry entries =>
      simp only [List.isEmpty_cons, Bool.false_eq_true, if_false, List.isEmpty_iff, List.map_eq_nil_iff, reduceCtorEq]
      split <;> rfl
  have hnil : entries = [] ↔ entries' = [] := by
    rw [← List.length_eq_zero_iff, ← List.length_eq_zero_iff, h.length_eq]
  simp only [hviews, views_ofEntries h, hnil]

end

end Step

end Workflows
