/-
Placeholders as they are written, and what the readers of fields find: they find a placeholder of their
form at the head of a text if and only if one is spelled there. What stands between the braces of a
placeholder holds no brace, so no other one begins inside it, and its spelling tells which one it is.
-/
import Mathlib.Data.List.TakeWhile
import Mathlib.Tactic
import Workflows.Proofs.Text.Search
import Workflows.Template

namespace Workflows.Template

open Workflows.Text

/-! ## Runs of a class -/

section

variable {p : Char → Bool} {run rest : List Char}

theorem takeWhile_run (hrun : ∀ c ∈ run, p c = true) (hrest : ∀ c ∈ rest.head?, p c = false) :
    (run ++ rest).takeWhile p = run := by
  rw [List.takeWhile_append_of_pos hrun]
  cases rest with
  | nil => simp
  | cons c rest => simp [hrest c rfl]

theorem dropWhile_run (hrun : ∀ c ∈ run, p c = true) (hrest : ∀ c ∈ rest.head?, p c = false) :
    (run ++ rest).dropWhile p = rest := by
  rw [List.dropWhile_append_of_pos hrun]
  cases rest with
  | nil => rfl
  | cons c rest => simp [hrest c rfl]

/-- A text is cut in one way behind a run of a class. -/
theorem run_append_inj {run' rest' : List Char} (hrun : ∀ c ∈ run, p c = true)
    (hrest : ∀ c ∈ rest.head?, p c = false) (hrun' : ∀ c ∈ run', p c = true)
    (hrest' : ∀ c ∈ rest'.head?, p c = false) (h : run ++ rest = run' ++ rest') :
    run = run' ∧ rest = rest' := by
  constructor
  · rw [← takeWhile_run hrun hrest, h, takeWhile_run hrun' hrest']
  · rw [← dropWhile_run hrun hrest, h, dropWhile_run hrun' hrest']

end

/-- The code points of blanks. -/
def blankCodes : List Nat :=
  List.range' 9 5 ++ List.range' 28 5 ++ [0x85, 0xA0, 0x1680] ++ List.range' 0x2000 11 ++
    [0x2028, 0x2029, 0x202F, 0x205F, 0x3000]

theorem isWord_of_isBlank {c : Char} (h : isBlank c = true) : isWord c = false := by
  have hcodes : ∀ code ∈ blankCodes, isWord (Char.ofNat code) = false := by decide +kernel
  rw [← Char.ofNat_toNat c]
  apply hcodes
  simp only [isBlank, Bool.or_eq_true, Bool.and_eq_true, decide_eq_true_eq, beq_iff_eq] at h
  simp only [blankCodes, List.mem_append, List.mem_range'_1, List.mem_cons, List.not_mem_nil, or_false]
  omega

/-! ## Placeholders -/

/-- Blanks inside a placeholder. -/
@[ext] structure Blanks where
  chars : List Char
  blank : ∀ c ∈ chars, isBlank c = true

/-- No blanks. -/
def noBlanks : Blanks := ⟨[], by simp⟩

/-- The name of a field. -/
@[ext] structure FieldName where
  chars : List Char
  ne_nil : chars ≠ []
  word : ∀ c ∈ chars, isWord c = true

/-- A quote of either kind. -/
@[ext] structure Quote where
  char : Char
  quote : char = '\'' ∨ char = '"'

/-- The forms of placeholders: a field with a point, a field in brackets and the whole context. -/
inductive Form
  | point | bracket | whole
deriving DecidableEq

/-- Placeholders. The two quotes of a field in brackets need not be the same. -/
inductive Placeholder
  | point (before : Blanks) (name : FieldName) (after : Blanks)
  | bracket (before : Blanks) (opener : Quote) (name : FieldName) (closer : Quote) (after : Blanks)
  | whole

/-- The word of a field with a point. -/
def pointWord : List Char := "$json.".toList

/-- The word of a field in brackets. -/
def bracketWord : List Char := "$json[".toList

/-- The word of the whole context. -/
def wholeWord : List Char := "context".toList

/-- A text in two braces on either side. -/
def inBraces (inner : List Char) : List Char := opening ++ (inner ++ closing)

namespace Placeholder

def form : Placeholder → Form
  | point .. => .point
  | bracket .. => .bracket
  | whole => .whole

/-- The blanks behind the opening braces. -/
def before : Placeholder → Blanks
  | point before .. | bracket before .. => before
  | whole => noBlanks

/-- What stands between those blanks and the closing braces. -/
def key : Placeholder → List Char
  | point _ name after => pointWord ++ (name.chars ++ after.chars)
  | bracket _ opener name closer after =>
    bracketWord ++ opener.char :: (name.chars ++ closer.char :: ']' :: after.chars)
  | whole => wholeWord

/-- What stands between the braces. -/
def inner (p : Placeholder) : List Char := p.before.chars ++ p.key

/-- A placeholder as it is written. -/
def spelling (p : Placeholder) : List Char := opening ++ (p.inner ++ closing)

/-- What a placeholder stands for: the text of its field, or the whole context. -/
def text (context : Context) : Placeholder → List Char
  | point _ name _ | bracket _ _ name _ _ => (fieldText context (String.ofList name.chars)).toList
  | whole => context.asInlineText.toList

end Placeholder

/-! ## Between the braces -/

theorem Quote.isWord_eq_false (quote : Quote) : isWord quote.char = false := by
  rcases quote.quote with h | h <;> rw [h] <;> decide

theorem Blanks.isWord_head (blanks : Blanks) {rest : List Char} (hrest : ∀ c ∈ rest.head?, isWord c = false) :
    ∀ c ∈ (blanks.chars ++ rest).head?, isWord c = false := by
  obtain ⟨_ | ⟨b, chars⟩, hblank⟩ := blanks
  · exact hrest
  · intro c hc
    cases hc
    exact isWord_of_isBlank (hblank b List.mem_cons_self)

/-- What stands in braces is told from what follows if it holds no closing brace. -/
theorem inBraces_append_inj {inner inner' rest rest' : List Char} (hinner : '}' ∉ inner) (hinner' : '}' ∉ inner')
    (h : inBraces inner ++ rest = inBraces inner' ++ rest') : inner = inner' ∧ rest = rest' := by
  have hstop : ∀ more : List Char, ∀ c ∈ (closing ++ more).head?, (c != '}') = false := by
    intro more c hc
    cases hc
    decide
  have hrun : ∀ {cs : List Char}, '}' ∉ cs → ∀ c ∈ cs, (c != '}') = true :=
    fun hcs c hc => bne_iff_ne.2 fun hbrace => hcs (hbrace ▸ hc)
  simp only [inBraces, List.append_assoc] at h
  obtain ⟨heq, hrest⟩ :=
    run_append_inj (hrun hinner) (hstop rest) (hrun hinner') (hstop rest') (List.append_cancel_left h)
  exact ⟨heq, List.append_cancel_left hrest⟩

namespace Placeholder

/-- The marks in placeholders. -/
def marks : List Char := ['$', '.', '[', ']', '\'', '"']

theorem mem_inner {p : Placeholder} {c : Char} (h : c ∈ p.inner) : isBlank c = true ∨ isWord c = true ∨ c ∈ marks := by
  have hpoint : ∀ c ∈ pointWord, isWord c = true ∨ c ∈ marks := by decide
  have hbracket : ∀ c ∈ bracketWord, isWord c = true ∨ c ∈ marks := by decide
  have hwhole : ∀ c ∈ wholeWord, isWord c = true ∨ c ∈ marks := by decide
  have hquote : ∀ quote : Quote, quote.char ∈ marks := fun quote => by
    rcases quote.quote with h | h <;> rw [h] <;> decide
  rcases List.mem_append.1 h with h | h
  · exact .inl (p.before.blank c h)
  · cases p with
    | point _ name after =>
      simp only [key, List.mem_append] at h
      rcases h with h | h | h
      · exact .inr (hpoint c h)
      · exact .inr (.inl (name.word c h))
      · exact .inl (after.blank c h)
    | bracket _ opener name closer after =>
      simp only [key, List.mem_append, List.mem_cons] at h
      rcases h with h | rfl | h | rfl | rfl | h
      · exact .inr (hbracket c h)
      · exact .inr (.inr (hquote opener))
      · exact .inr (.inl (name.word c h))
      · exact .inr (.inr (hquote closer))
      · exact .inr (.inr (by decide))
      · exact .inl (after.blank c h)
    | whole => exact .inr (hwhole c h)

theorem not_mem_inner (p : Placeholder) {c : Char} (h : isBlank c = false ∧ isWord c = false ∧ c ∉ marks) :
    c ∉ p.inner := fun hmem => by
  rcases mem_inner hmem with hblank | hword | hmark
  · exact absurd (h.1 ▸ hblank) (by decide)
  · exact absurd (h.2.1 ▸ hword) (by decide)
  · exact h.2.2 hmark

theorem inner_no_brace (p : Placeholder) : '{' ∉ p.inner ∧ '}' ∉ p.inner :=
  ⟨p.not_mem_inner (by decide), p.not_mem_inner (by decide)⟩

/-! ## One placeholder for a spelling -/

theorem key_head (p : Placeholder) : ∀ c ∈ p.key.head?, isBlank c = false := by
  intro c hc
  cases p <;> (cases hc; decide)

theorem key_ne_of_form_ne {p q : Placeholder} (h : p.form ≠ q.form) : p.key ≠ q.key := by
  have hpoint : pointWord = ['$', 'j', 's', 'o', 'n', '.'] := by decide
  have hbracket : bracketWord = ['$', 'j', 's', 'o', 'n', '['] := by decide
  have hwhole : wholeWord = ['c', 'o', 'n', 't', 'e', 'x', 't'] := by decide
  cases p <;> cases q <;> simp [form, key, hpoint, hbracket, hwhole] at h ⊢

theorem eq_of_inner_eq {p q : Placeholder} (h : p.inner = q.inner) : p = q := by
  obtain ⟨hbefore, hkey⟩ := run_append_inj p.before.blank p.key_head q.before.blank q.key_head h
  have hform : p.form = q.form := not_not.1 fun hform => key_ne_of_form_ne hform hkey
  cases p with
  | point before name after =>
    cases q with
    | point before' name' after' =>
      have hrest : name.chars ++ after.chars = name'.chars ++ after'.chars := List.append_cancel_left hkey
      have hend : ∀ blanks : Blanks, ∀ c ∈ blanks.chars.head?, isWord c = false :=
        fun blanks c hc => isWord_of_isBlank (blanks.blank c (List.mem_of_mem_head? hc))
      obtain ⟨hname, hafter⟩ := run_append_inj name.word (hend after) name'.word (hend after') hrest
      obtain rfl : before = before' := Blanks.ext hbefore
      obtain rfl : name = name' := FieldName.ext hname
      obtain rfl : after = after' := Blanks.ext hafter
      rfl
    | bracket => cases hform
    | whole => cases hform
  | bracket before opener name closer after =>
    cases q with
    | point => cases hform
    | bracket before' opener' name' closer' after' =>
      obtain ⟨hopener, hrest⟩ := List.cons.inj (List.append_cancel_left hkey)
      have hend : ∀ (quote : Quote) (rest : List Char), ∀ c ∈ (quote.char :: rest).head?, isWord c = false := by
        intro quote rest c hc
        cases hc
        exact quote.isWord_eq_false
      obtain ⟨hname, hrest⟩ := run_append_inj name.word (hend closer _) name'.word (hend closer' _) hrest
      obtain ⟨hcloser, hafter⟩ := List.cons.inj hrest
      obtain rfl : before = before' := Blanks.ext hbefore
      obtain rfl : opener = opener' := Quote.ext hopener
      obtain rfl : name = name' := FieldName.ext hname
      obtain rfl : closer = closer' := Quote.ext hcloser
      obtain rfl : after = after' := Blanks.ext (List.cons.inj hafter).2
      rfl
    | whole => cases hform
  | whole =>
    cases q with
    | point => cases hform
    | bracket => cases hform
    | whole => rfl

/-- The placeholder at the head of a text is the only one that is spelled there. -/
theorem spelling_append_inj {p q : Placeholder} {rest rest' : List Char}
    (h : p.spelling ++ rest = q.spelling ++ rest') : p = q ∧ rest = rest' :=
  (inBraces_append_inj p.inner_no_brace.2 q.inner_no_brace.2 h).imp_left eq_of_inner_eq

theorem opening_prefix_spelling (p : Placeholder) (rest : List Char) : opening <+: p.spelling ++ rest :=
  ⟨p.inner ++ closing ++ rest, by simp [spelling]⟩

theorem spelling_ne_nil (p : Placeholder) : p.spelling ≠ [] := by
  simp [spelling, opening]

end Placeholder

/-! ## No placeholder inside another one -/

/-- No placeholder begins in a text, whatever follows it. -/
def Unopened (cs : List Char) : Prop :=
  ∀ before after rest, cs = before ++ after → after ≠ [] → ¬ opening <+: after ++ rest

theorem Unopened.tail {c : Char} {cs : List Char} (h : Unopened (c :: cs)) : Unopened cs := by
  intro before after rest hcs
  exact h (c :: before) after rest (by rw [hcs, List.cons_append])

theorem Unopened.cons {c : Char} {cs : List Char} (h : Unopened cs) (hc : ∀ rest, ¬ opening <+: c :: cs ++ rest) :
    Unopened (c :: cs) := by
  intro before after rest hcs hne
  rcases List.cons_eq_append_iff.1 hcs with ⟨-, rfl⟩ | ⟨before', -, hcs⟩
  · exact hc rest
  · exact h before' after rest hcs hne

theorem unopened_of_not_mem {cs : List Char} (h : '{' ∉ cs) : Unopened cs := by
  rintro before after rest rfl hne ⟨more, hmore⟩
  obtain ⟨c, after, rfl⟩ := List.exists_cons_of_ne_nil hne
  obtain ⟨rfl, -⟩ := List.cons.inj hmore
  exact h (List.mem_append_right _ List.mem_cons_self)

/-- Behind the first brace no placeholder begins in a text in braces. -/
theorem exists_inBraces {inner : List Char} (hinner : '{' ∉ inner) :
    ∃ cs, inBraces inner = '{' :: cs ∧ Unopened cs := by
  refine ⟨'{' :: (inner ++ closing), rfl, ?_⟩
  have hclosing : '{' ∉ closing := by decide
  have hbody : '{' ∉ inner ++ closing := by
    rw [List.mem_append]
    rintro (h | h)
    · exact hinner h
    · exact hclosing h
  refine (unopened_of_not_mem hbody).cons ?_
  rintro rest ⟨more, hmore⟩
  -- What follows the second brace is no brace.
  cases hcs : inner ++ closing with
  | nil => simp [closing] at hcs
  | cons c cs =>
    rw [hcs] at hmore hbody
    obtain ⟨-, hmore⟩ := List.cons.inj hmore
    obtain ⟨rfl, -⟩ := List.cons.inj hmore
    exact hbody List.mem_cons_self

/-- Behind its first brace no other placeholder begins in one. -/
theorem Placeholder.spelling_eq_cons (p : Placeholder) : ∃ cs, p.spelling = '{' :: cs ∧ Unopened cs :=
  exists_inBraces p.inner_no_brace.1

/-! ## The readers -/

theorem opened?_eq_some_iff {word : String} (hword : ∀ c ∈ word.toList.head?, isBlank c = false)
    (hne : word.toList ≠ []) {cs rest : List Char} :
    opened? word cs = some rest ↔ ∃ before : Blanks, cs = opening ++ (before.chars ++ (word.toList ++ rest)) := by
  simp only [opened?, Option.bind_eq_some_iff, List.isPrefixOf?_eq_some_iff_append_eq]
  constructor
  · rintro ⟨more, rfl, hmore⟩
    refine ⟨⟨more.takeWhile isBlank, fun c hc => List.mem_takeWhile_imp hc⟩, ?_⟩
    rw [hmore, List.takeWhile_append_dropWhile]
  · rintro ⟨before, rfl⟩
    refine ⟨_, rfl, ?_⟩
    rw [dropWhile_run before.blank]
    rw [List.head?_append_of_ne_nil _ hne]
    exact hword

theorem closed?_eq_some_iff {cs rest : List Char} :
    closed? cs = some rest ↔ ∃ after : Blanks, cs = after.chars ++ (closing ++ rest) := by
  simp only [closed?, List.isPrefixOf?_eq_some_iff_append_eq]
  constructor
  · intro h
    refine ⟨⟨cs.takeWhile isBlank, fun c hc => List.mem_takeWhile_imp hc⟩, ?_⟩
    rw [h, List.takeWhile_append_dropWhile]
  · rintro ⟨after, rfl⟩
    rw [dropWhile_run after.blank]
    intro c hc
    cases hc
    decide

theorem name?_eq_some_iff {cs chars rest : List Char} :
    name? cs = some (chars, rest) ↔
      ∃ name : FieldName, name.chars = chars ∧ cs = name.chars ++ rest ∧ ∀ c ∈ rest.head?, isWord c = false := by
  unfold name?
  constructor
  · intro h
    split at h
    · cases h
    · next hne =>
      cases h
      refine ⟨⟨cs.takeWhile isWord, by simpa using hne, fun c hc => List.mem_takeWhile_imp hc⟩, rfl, ?_, ?_⟩
      · exact (List.takeWhile_append_dropWhile).symm
      · intro c hc
        have hstop := List.head?_dropWhile_not isWord cs
        rw [hc] at hstop
        exact hstop
  · rintro ⟨name, rfl, rfl, hrest⟩
    rw [takeWhile_run name.word hrest, dropWhile_run name.word hrest, if_neg (by simpa using name.ne_nil)]

theorem quote?_eq_some_iff {cs rest : List Char} :
    quote? cs = some rest ↔ ∃ quote : Quote, cs = quote.char :: rest := by
  cases cs with
  | nil => simp [quote?]
  | cons c cs =>
    simp only [quote?, Option.ite_none_right_eq_some, Option.some.injEq]
    constructor
    · rintro ⟨hquote, rfl⟩
      exact ⟨⟨c, hquote⟩, rfl⟩
    · rintro ⟨quote, h⟩
      obtain ⟨rfl, rfl⟩ := List.cons.inj h
      exact ⟨quote.quote, rfl⟩

theorem opened?_point_iff {cs rest : List Char} :
    opened? "$json." cs = some rest ↔ ∃ before : Blanks, cs = opening ++ (before.chars ++ (pointWord ++ rest)) :=
  opened?_eq_some_iff (by intro c hc; cases hc; decide) (by decide)

theorem opened?_bracket_iff {cs rest : List Char} :
    opened? "$json[" cs = some rest ↔ ∃ before : Blanks, cs = opening ++ (before.chars ++ (bracketWord ++ rest)) :=
  opened?_eq_some_iff (by intro c hc; cases hc; decide) (by decide)

theorem pointField?_eq_some_iff {cs chars rest : List Char} :
    pointField? cs = some (chars, rest) ↔ ∃ before name after, name.chars = chars ∧
      cs = (Placeholder.point before name after).spelling ++ rest := by
  simp only [pointField?, Option.bind_eq_bind, Option.bind_eq_some_iff, opened?_point_iff, closed?_eq_some_iff,
    Prod.exists, name?_eq_some_iff, Option.pure_def, Option.some.injEq, Prod.mk.injEq]
  constructor
  · rintro ⟨_, ⟨before, rfl⟩, _, _, ⟨name, rfl, rfl, -⟩, _, ⟨after, rfl⟩, rfl, rfl⟩
    refine ⟨before, name, after, rfl, ?_⟩
    simp only [Placeholder.spelling, Placeholder.inner, Placeholder.before, Placeholder.key, List.append_assoc]
  · rintro ⟨before, name, after, rfl, rfl⟩
    refine ⟨_, ⟨before, ?_⟩, _, _, ⟨name, rfl, rfl, after.isWord_head ?_⟩, _, ⟨after, rfl⟩, rfl, rfl⟩
    · simp only [Placeholder.spelling, Placeholder.inner, Placeholder.before, Placeholder.key, List.append_assoc]
    · intro c hc
      cases hc
      decide

theorem bracketField?_eq_some_iff {cs chars rest : List Char} :
    bracketField? cs = some (chars, rest) ↔ ∃ before opener name closer after, name.chars = chars ∧
      cs = (Placeholder.bracket before opener name closer after).spelling ++ rest := by
  simp only [bracketField?, Option.bind_eq_bind, Option.bind_eq_some_iff, opened?_bracket_iff, closed?_eq_some_iff,
    quote?_eq_some_iff, List.isPrefixOf?_eq_some_iff_append_eq, Prod.exists, name?_eq_some_iff, Option.pure_def,
    Option.some.injEq, Prod.mk.injEq]
  constructor
  · rintro ⟨_, ⟨before, rfl⟩, _, ⟨opener, rfl⟩, _, _, ⟨name, rfl, rfl, -⟩, _, ⟨closer, rfl⟩, _, rfl, _,
      ⟨after, rfl⟩, rfl, rfl⟩
    refine ⟨before, opener, name, closer, after, rfl, ?_⟩
    simp only [Placeholder.spelling, Placeholder.inner, Placeholder.before, Placeholder.key, List.append_assoc,
      List.cons_append, List.nil_append]
  · rintro ⟨before, opener, name, closer, after, rfl, rfl⟩
    refine ⟨_, ⟨before, ?_⟩, _, ⟨opener, rfl⟩, _, _, ⟨name, rfl, rfl, ?_⟩, _, ⟨closer, rfl⟩, _, rfl, _,
      ⟨after, rfl⟩, rfl, rfl⟩
    · simp only [Placeholder.spelling, Placeholder.inner, Placeholder.before, Placeholder.key, List.append_assoc,
        List.cons_append, List.nil_append]
    · intro c hc
      cases hc
      exact closer.isWord_eq_false

end Workflows.Template
