/-
Filling as one substitution. A template is cut in one way into placeholders and characters that are copied.
Its three passes, each over the text that the one before has left, come to one substitution of these
placeholders as long as nothing that was filled in spells a placeholder for a later pass. A field whose
text is itself a placeholder is read as one.
-/
import Workflows.Proofs.Template.Placeholder
import Workflows.Proofs.Text.Search

namespace Workflows.Template

open Workflows.Text

/-! ## Pieces -/

/-- A piece of a template: a character that is copied, or a placeholder. -/
inductive Piece
  | copied (c : Char)
  | slot (p : Placeholder)

namespace Piece

/-- A piece as it is written. -/
def source : Piece → List Char
  | copied c => [c]
  | slot p => p.spelling

/-- A piece as it is filled. -/
def text (context : Context) : Piece → List Char
  | copied c => [c]
  | slot p => p.text context

/-- A piece after the pass for the placeholders of one form. -/
def fill (form : Form) (context : Context) : Piece → List Piece
  | copied c => [copied c]
  | slot p => if p.form = form then (p.text context).map copied else [slot p]

end Piece

/-- Pieces as they are written. -/
def written (pieces : List Piece) : List Char := pieces.flatMap Piece.source

/-- Pieces after the pass for the placeholders of one form. -/
def fillAll (form : Form) (context : Context) (pieces : List Piece) : List Piece :=
  pieces.flatMap (Piece.fill form context)

/-- Copied characters spell a placeholder of a form. -/
def Spells (form : Form) (pieces : List Piece) : Prop :=
  ∃ p : Placeholder, p.form = form ∧ p.spelling.map .copied <:+: pieces

/-- A text cut into pieces, so that each placeholder that it spells is one of them. -/
structure Splits (cs : List Char) (pieces : List Piece) : Prop where
  written_eq : written pieces = cs
  complete : ∀ form, ¬ Spells form pieces

/-- What a pass fills in spells no placeholder for a later one. -/
structure Inert (context : Context) (pieces : List Piece) : Prop where
  brackets : ¬ Spells .bracket (fillAll .point context pieces)
  whole : ¬ Spells .whole (fillAll .bracket context (fillAll .point context pieces))

/-! ## What pieces spell -/

section

variable {form : Form} {context : Context} {pieces : List Piece}

theorem written_cons (piece : Piece) (pieces : List Piece) :
    written (piece :: pieces) = piece.source ++ written pieces := rfl

theorem written_append (pieces others : List Piece) :
    written (pieces ++ others) = written pieces ++ written others :=
  List.flatMap_append

theorem written_copied (cs : List Char) : written (cs.map .copied) = cs := by
  induction cs with
  | nil => rfl
  | cons c cs ih => rw [List.map_cons, written_cons, ih, Piece.source, List.singleton_append]

theorem fillAll_cons (piece : Piece) (pieces : List Piece) :
    fillAll form context (piece :: pieces) = piece.fill form context ++ fillAll form context pieces := rfl

theorem fillAll_append (pieces others : List Piece) :
    fillAll form context (pieces ++ others) = fillAll form context pieces ++ fillAll form context others :=
  List.flatMap_append

theorem Spells.cons (h : Spells form pieces) (piece : Piece) : Spells form (piece :: pieces) := by
  obtain ⟨p, hform, hspelled⟩ := h
  exact ⟨p, hform, List.infix_cons hspelled⟩

/-- Text at the head of pieces in which no placeholder begins does not reach into one of them. -/
theorem copied_prefix_of_unopened {cs : List Char} (hcs : Unopened cs) (h : cs <+: written pieces) :
    cs.map .copied <+: pieces := by
  induction pieces generalizing cs with
  | nil =>
    rw [List.prefix_nil.1 h]
    exact List.nil_prefix
  | cons piece pieces ih =>
    cases cs with
    | nil => exact List.nil_prefix
    | cons c cs =>
      cases piece with
      | copied d =>
        obtain ⟨rfl, htail⟩ := List.cons_prefix_cons.1 h
        exact List.cons_prefix_cons.2 ⟨rfl, ih hcs.tail htail⟩
      | slot p =>
        -- The text would begin with the braces of the placeholder.
        obtain ⟨rest, hrest⟩ := h
        have hopening : opening <+: c :: cs ++ rest := by
          rw [hrest]
          exact p.opening_prefix_spelling _
        exact absurd hopening (hcs [] (c :: cs) rest rfl (List.cons_ne_nil _ _))

/-- A placeholder that is spelled from a copied character on is spelled by copied characters. -/
theorem spells_of_begins {p : Placeholder} {c : Char} (h : p.spelling <+: written (.copied c :: pieces)) :
    Spells p.form (.copied c :: pieces) := by
  obtain ⟨cs, hcs, hunopened⟩ := p.spelling_eq_cons
  refine ⟨p, rfl, List.IsPrefix.isInfix ?_⟩
  rw [hcs] at h ⊢
  obtain ⟨rfl, htail⟩ := List.cons_prefix_cons.1 h
  exact List.cons_prefix_cons.2 ⟨rfl, copied_prefix_of_unopened hunopened htail⟩

/-! ## One way to cut a text -/

theorem Splits.slot (p : Placeholder) {cs : List Char} (h : Splits cs pieces) :
    Splits (p.spelling ++ cs) (.slot p :: pieces) := by
  refine ⟨by rw [written_cons, h.written_eq, Piece.source], ?_⟩
  rintro form ⟨q, hform, hspelled⟩
  obtain ⟨tail, htail, -⟩ := q.spelling_eq_cons
  rw [htail] at hspelled
  rcases List.infix_cons_iff.1 hspelled with hbegins | hspelled
  · cases (List.cons_prefix_cons.1 hbegins).1
  · exact h.complete form ⟨q, hform, by rwa [htail]⟩

theorem Splits.copied {c : Char} {cs : List Char} (hnone : ∀ p : Placeholder, ¬ p.spelling <+: c :: cs)
    (h : Splits cs pieces) : Splits (c :: cs) (.copied c :: pieces) := by
  refine ⟨by rw [written_cons, h.written_eq, Piece.source, List.singleton_append], ?_⟩
  rintro form ⟨p, hform, hspelled⟩
  rcases List.infix_cons_iff.1 hspelled with ⟨more, hmore⟩ | hspelled
  · refine hnone p ⟨written more, ?_⟩
    rw [← written_copied p.spelling, ← written_append, hmore, written_cons, h.written_eq]
    rfl
  · exact h.complete form ⟨p, hform, hspelled⟩

theorem exists_splits (cs : List Char) : ∃ pieces, Splits cs pieces := by
  induction hn : cs.length using Nat.strong_induction_on generalizing cs with
  | _ n ih =>
    cases cs with
    | nil => exact ⟨[], rfl, by rintro form ⟨p, -, h⟩; exact p.spelling_ne_nil (by simpa using h)⟩
    | cons c cs =>
      by_cases h : ∃ p : Placeholder, p.spelling <+: c :: cs
      · obtain ⟨p, rest, hrest⟩ := h
        have hlt : rest.length < n := by
          have hpos := List.length_pos_of_ne_nil p.spelling_ne_nil
          have hlength := congrArg List.length hrest
          rw [List.length_append] at hlength
          omega
        obtain ⟨pieces, hpieces⟩ := ih _ hlt rest rfl
        rw [← hrest]
        exact ⟨_, .slot p hpieces⟩
      · obtain ⟨pieces, hpieces⟩ := ih cs.length (by rw [← hn]; exact Nat.lt_succ_self _) cs rfl
        exact ⟨_, .copied (not_exists.1 h) hpieces⟩

theorem written_cons_ne_nil (piece : Piece) (pieces : List Piece) : written (piece :: pieces) ≠ [] := by
  cases piece with
  | copied c => exact List.cons_ne_nil c _
  | slot p => exact List.append_ne_nil_of_left_ne_nil p.spelling_ne_nil _

theorem eq_of_written_eq {others : List Piece} (hpieces : ∀ form, ¬ Spells form pieces)
    (hothers : ∀ form, ¬ Spells form others) (h : written pieces = written others) : pieces = others := by
  induction pieces generalizing others with
  | nil =>
    cases others with
    | nil => rfl
    | cons other others => exact absurd h.symm (written_cons_ne_nil other others)
  | cons piece pieces ih =>
    cases others with
    | nil => exact absurd h (written_cons_ne_nil piece pieces)
    | cons other others =>
      have htail : written pieces = written others → pieces = others := by
        apply ih
        · exact fun form hspells => hpieces form (hspells.cons piece)
        · exact fun form hspells => hothers form (hspells.cons other)
      -- A placeholder against a copied character would be spelled by copied characters.
      cases piece with
      | copied c =>
        cases other with
        | copied d =>
          obtain ⟨rfl, hrest⟩ := List.cons.inj h
          rw [htail hrest]
        | slot q => exact absurd (spells_of_begins ⟨written others, h.symm⟩) (hpieces q.form)
      | slot p =>
        cases other with
        | copied d => exact absurd (spells_of_begins ⟨written pieces, h⟩) (hothers p.form)
        | slot q =>
          obtain ⟨rfl, hrest⟩ := Placeholder.spelling_append_inj h
          rw [htail hrest]

/-- A text is cut in one way. -/
theorem existsUnique_splits (cs : List Char) : ∃! pieces, Splits cs pieces := by
  obtain ⟨pieces, hpieces⟩ := exists_splits cs
  refine ⟨pieces, hpieces, fun others hothers => ?_⟩
  exact eq_of_written_eq hothers.complete hpieces.complete (hothers.written_eq.trans hpieces.written_eq.symm)

/-! ## One pass -/

/-- An edit that replaces the placeholders of a form, and nothing else. -/
structure Replaces (edit : List Char → Option (Nat × List Char)) (form : Form) (context : Context) : Prop where
  hit : ∀ (p : Placeholder) (rest : List Char), p.form = form →
    edit (p.spelling ++ rest) = some (p.spelling.length, p.text context)
  only : ∀ cs result, edit cs = some result → ∃ p : Placeholder, p.form = form ∧ p.spelling <+: cs

namespace Replaces

variable {edit : List Char → Option (Nat × List Char)}

theorem editText_cons (hedit : Replaces edit form context) {c : Char} {cs : List Char}
    (hnone : ∀ p : Placeholder, p.form = form → ¬ p.spelling <+: c :: cs) :
    editText edit 0 (c :: cs) = c :: editText edit 0 cs := by
  rw [editText]
  cases h : edit (c :: cs) with
  | none => rfl
  | some result =>
    obtain ⟨p, hform, hbegins⟩ := hedit.only _ _ h
    exact absurd hbegins (hnone p hform)

/-- A text in which no placeholder of the form begins is left as it is. -/
theorem editText_past (hedit : Replaces edit form context) {cs rest : List Char}
    (hnone : ∀ before after, cs = before ++ after → after ≠ [] → ∀ p : Placeholder, p.form = form →
      ¬ p.spelling <+: after ++ rest) :
    editText edit 0 (cs ++ rest) = cs ++ editText edit 0 rest := by
  induction cs with
  | nil => rfl
  | cons c cs ih =>
    have hhead : ∀ p : Placeholder, p.form = form → ¬ p.spelling <+: c :: (cs ++ rest) :=
      hnone [] (c :: cs) rfl (List.cons_ne_nil _ _)
    rw [List.cons_append, hedit.editText_cons hhead, List.cons_append]
    rw [ih fun before after hcs => hnone (c :: before) after (congrArg (List.cons c) hcs)]

theorem editText_unopened (hedit : Replaces edit form context) {cs : List Char} (hcs : Unopened cs)
    (rest : List Char) : editText edit 0 (cs ++ rest) = cs ++ editText edit 0 rest := by
  refine hedit.editText_past fun before after h hne p _ hbegins => ?_
  have hopening : opening <+: p.spelling := by simpa using p.opening_prefix_spelling []
  exact hcs before after rest h hne (hopening.trans hbegins)

/-- A placeholder of the form is replaced by what it stands for. -/
theorem editText_hit (hedit : Replaces edit form context) {p : Placeholder} (hform : p.form = form)
    (rest : List Char) : editText edit 0 (p.spelling ++ rest) = p.text context ++ editText edit 0 rest := by
  have hhit := hedit.hit p rest hform
  obtain ⟨cs, hcs, -⟩ := p.spelling_eq_cons
  rw [hcs] at hhit ⊢
  rw [List.cons_append] at hhit ⊢
  rw [editText, hhit]
  exact congrArg _ (editText_skip edit cs rest)

/-- A text in braces that is no placeholder of the form is left as it is. -/
theorem editText_inBraces (hedit : Replaces edit form context) {inner : List Char} (hinner : '{' ∉ inner ∧ '}' ∉ inner)
    (hother : ∀ p : Placeholder, p.form = form → p.inner ≠ inner) (rest : List Char) :
    editText edit 0 (inBraces inner ++ rest) = inBraces inner ++ editText edit 0 rest := by
  obtain ⟨cs, hcs, hunopened⟩ := exists_inBraces hinner.1
  rw [hcs, List.cons_append, hedit.editText_cons, hedit.editText_unopened hunopened]
  · rfl
  · -- A placeholder that is found at its head has the same between its braces.
    rintro p hp ⟨more, hmore⟩
    rw [← List.cons_append, ← hcs] at hmore
    exact hother p hp (inBraces_append_inj p.inner_no_brace.2 hinner.2 hmore).1

/-- A placeholder of another form is left as it is. -/
theorem editText_other (hedit : Replaces edit form context) {p : Placeholder} (hform : p.form ≠ form)
    (rest : List Char) : editText edit 0 (p.spelling ++ rest) = p.spelling ++ editText edit 0 rest := by
  refine hedit.editText_inBraces p.inner_no_brace ?_ rest
  rintro q hq hinner
  exact hform ((Placeholder.eq_of_inner_eq hinner) ▸ hq)

/-- One pass over pieces fills the placeholders of its form, unless copied characters spell another one. -/
theorem editText_written (hedit : Replaces edit form context) (hpieces : ¬ Spells form pieces) :
    editText edit 0 (written pieces) = written (fillAll form context pieces) := by
  induction pieces with
  | nil => rfl
  | cons piece pieces ih =>
    have hrest := ih fun h => hpieces (h.cons piece)
    rw [fillAll_cons, written_append, written_cons, ← hrest]
    cases piece with
    | copied c =>
      have hnone : ∀ p : Placeholder, p.form = form → ¬ p.spelling <+: c :: written pieces := by
        rintro p rfl hbegins
        exact hpieces (spells_of_begins hbegins)
      exact hedit.editText_cons hnone
    | slot p =>
      by_cases hform : p.form = form
      · rw [Piece.source, hedit.editText_hit hform, Piece.fill, if_pos hform, written_copied]
      · rw [Piece.source, hedit.editText_other hform, Piece.fill, if_neg hform, written_cons, Piece.source]
        simp [written]

end Replaces

/-! ## The three passes -/

/-- The edit that fills the fields which a reader finds. -/
def fieldEdit (field? : List Char → Option (List Char × List Char)) (context : Context) (cs : List Char) :
    Option (Nat × List Char) :=
  (field? cs).map fun (name, rest) => (cs.length - rest.length, (fieldText context (String.ofList name)).toList)

theorem fieldEdit_append {field? : List Char → Option (List Char × List Char)} {cs name rest : List Char}
    (h : field? (cs ++ rest) = some (name, rest)) :
    fieldEdit field? context (cs ++ rest) = some (cs.length, (fieldText context (String.ofList name)).toList) := by
  simp [fieldEdit, h]

variable (context) in
theorem replaces_point : Replaces (fieldEdit pointField? context) .point context where
  hit := by
    intro p rest hform
    cases p with
    | point before name after =>
      exact fieldEdit_append (pointField?_eq_some_iff.2 ⟨before, name, after, rfl, rfl⟩)
    | bracket => cases hform
    | whole => cases hform
  only := by
    intro cs result h
    obtain ⟨⟨name, rest⟩, hread, -⟩ := Option.map_eq_some_iff.1 h
    obtain ⟨before, name, after, -, rfl⟩ := pointField?_eq_some_iff.1 hread
    exact ⟨.point before name after, rfl, rest, rfl⟩

variable (context) in
theorem replaces_bracket : Replaces (fieldEdit bracketField? context) .bracket context where
  hit := by
    intro p rest hform
    cases p with
    | point => cases hform
    | bracket before opener name closer after =>
      exact fieldEdit_append (bracketField?_eq_some_iff.2 ⟨before, opener, name, closer, after, rfl, rfl⟩)
    | whole => cases hform
  only := by
    intro cs result h
    obtain ⟨⟨name, rest⟩, hread, -⟩ := Option.map_eq_some_iff.1 h
    obtain ⟨before, opener, name, closer, after, -, rfl⟩ := bracketField?_eq_some_iff.1 hread
    exact ⟨.bracket before opener name closer after, rfl, rest, rfl⟩

variable (context) in
theorem replaces_whole : Replaces (fun cs =>
    if contextToken.isPrefixOf cs then some (contextToken.length, context.asInlineText.toList) else none)
    .whole context where
  hit := by
    intro p rest hform
    cases p with
    | point => cases hform
    | bracket => cases hform
    | whole =>
      have hbegins : contextToken.isPrefixOf (Placeholder.whole.spelling ++ rest) = true :=
        List.isPrefixOf_iff_prefix.2 ⟨rest, rfl⟩
      rw [if_pos hbegins]
      rfl
  only := by
    intro cs result h
    obtain ⟨hbegins, -⟩ := Option.ite_none_right_eq_some.1 h
    exact ⟨.whole, rfl, List.isPrefixOf_iff_prefix.1 hbegins⟩

/-! ## All passes -/

theorem fillAll_copied (form : Form) (cs : List Char) :
    fillAll form context (cs.map .copied) = cs.map .copied := by
  induction cs with
  | nil => rfl
  | cons c cs ih => rw [List.map_cons, fillAll_cons, ih, Piece.fill, List.singleton_append]

theorem fillAll_slot (form : Form) (p : Placeholder) :
    fillAll form context [.slot p] = if p.form = form then (p.text context).map .copied else [.slot p] :=
  List.append_nil _

theorem written_fillAll (context : Context) (pieces : List Piece) :
    written (fillAll .whole context (fillAll .bracket context (fillAll .point context pieces))) =
      pieces.flatMap (Piece.text context) := by
  induction pieces with
  | nil => rfl
  | cons piece pieces ih =>
    rw [fillAll_cons, fillAll_append, fillAll_append, written_append, ih, List.flatMap_cons]
    congr 1
    cases piece with
    | copied c => rfl
    | slot p =>
      rw [Piece.fill, Piece.text]
      cases hform : p.form with
      | point => rw [if_pos rfl, fillAll_copied, fillAll_copied, written_copied]
      | bracket => rw [if_neg nofun, fillAll_slot, if_pos hform, fillAll_copied, written_copied]
      | whole =>
        have hbracket : p.form ≠ .bracket := by simp [hform]
        rw [if_neg nofun, fillAll_slot, if_neg hbracket, fillAll_slot, if_pos hform, written_copied]

/-! ## Templates without other braces -/

theorem copied_of_mem_fillAll {c : Char} (h : .copied c ∈ fillAll form context pieces) :
    .copied c ∈ pieces ∨ ∃ p : Placeholder, .slot p ∈ pieces ∧ p.form = form ∧ c ∈ p.text context := by
  obtain ⟨piece, hpiece, hc⟩ := List.mem_flatMap.1 h
  cases piece with
  | copied d =>
    rw [Piece.fill, List.mem_singleton] at hc
    rw [hc]
    exact Or.inl hpiece
  | slot p =>
    by_cases hform : p.form = form
    · rw [Piece.fill, if_pos hform, List.mem_map] at hc
      obtain ⟨d, hd, heq⟩ := hc
      cases heq
      exact Or.inr ⟨p, hpiece, hform, hd⟩
    · rw [Piece.fill, if_neg hform, List.mem_singleton] at hc
      cases hc

theorem slot_of_mem_fillAll {p : Placeholder} (h : .slot p ∈ fillAll form context pieces) : .slot p ∈ pieces := by
  obtain ⟨piece, hpiece, hp⟩ := List.mem_flatMap.1 h
  cases piece with
  | copied c => simp [Piece.fill] at hp
  | slot q =>
    by_cases hform : q.form = form
    · simp [Piece.fill, hform] at hp
    · rw [Piece.fill, if_neg hform, List.mem_singleton] at hp
      rw [hp]
      exact hpiece

theorem not_spells_of_no_brace (h : .copied '{' ∉ pieces) : ¬ Spells form pieces := by
  rintro ⟨p, -, hspelled⟩
  obtain ⟨cs, hcs, -⟩ := p.spelling_eq_cons
  rw [hcs, List.map_cons] at hspelled
  exact h (hspelled.subset List.mem_cons_self)

/-- A template whose braces all belong to placeholders is cut into these. -/
theorem splits_of_no_brace (h : .copied '{' ∉ pieces) : Splits (written pieces) pieces :=
  ⟨rfl, fun _ => not_spells_of_no_brace h⟩

/-- Fields without an opening brace are safe in a template whose braces all belong to placeholders. -/
theorem inert_of_no_brace (hcopied : .copied '{' ∉ pieces)
    (hfields : ∀ p : Placeholder, .slot p ∈ pieces → p.form ≠ .whole → '{' ∉ p.text context) :
    Inert context pieces := by
  have hpoints : .copied '{' ∉ fillAll .point context pieces := by
    intro h
    rcases copied_of_mem_fillAll h with h | ⟨p, hp, hform, h⟩
    · exact hcopied h
    · exact hfields p hp (by simp [hform]) h
  have hbrackets : .copied '{' ∉ fillAll .bracket context (fillAll .point context pieces) := by
    intro h
    rcases copied_of_mem_fillAll h with h | ⟨p, hp, hform, h⟩
    · exact hpoints h
    · exact hfields p (slot_of_mem_fillAll hp) (by simp [hform]) h
  exact ⟨not_spells_of_no_brace hpoints, not_spells_of_no_brace hbrackets⟩

/-! ## One substitution -/

/-- A template is cut in one way, and it is filled by one substitution of its placeholders unless what is filled
in spells others. -/
theorem resolve_eq_substitution (template : String) (context : Context) :
    (∃! pieces, Splits (body template.toList) pieces) ∧
      ∀ pieces, Splits (body template.toList) pieces → Inert context pieces →
        resolve template context = String.ofList (pieces.flatMap (Piece.text context)) := by
  refine ⟨existsUnique_splits _, fun pieces hsplits hinert => ?_⟩
  have hpoints : fillFields pointField? context (body template.toList) =
      written (fillAll .point context pieces) := by
    rw [← hsplits.written_eq]
    exact (replaces_point context).editText_written (hsplits.complete .point)
  have hbrackets : fillFields bracketField? context (written (fillAll .point context pieces)) =
      written (fillAll .bracket context (fillAll .point context pieces)) :=
    (replaces_bracket context).editText_written hinert.brackets
  have hwhole := (replaces_whole context).editText_written hinert.whole
  rw [resolve, hpoints, hbrackets, replaceAll, hwhole, written_fillAll]

end

/-! ## Two contexts -/

/-- One space. -/
def space : Blanks := ⟨[' '], List.forall_mem_singleton.2 rfl⟩

def nameA : FieldName := ⟨['a'], by simp, List.forall_mem_singleton.2 rfl⟩

def nameB : FieldName := ⟨['b'], by simp, List.forall_mem_singleton.2 rfl⟩

/-- A template with placeholders of all three forms. -/
def formsTemplate : String := "=\x7b\x7b $json.a \x7d\x7d: \x7b\x7bcontext\x7d\x7d\x7b\x7b$json['b']\x7d\x7d"

def formsPieces : List Piece :=
  [.slot (.point space nameA space), .copied ':', .copied ' ', .slot .whole,
    .slot (.bracket noBlanks ⟨'\'', by decide⟩ nameB ⟨'\'', by decide⟩ noBlanks)]

/-- A text that closes braces, and a list. -/
def closingContext : Context :=
  .structured (.object [("a", .text "\x7d\x7d x"), ("b", .list [.int 1, .text "]"])])

theorem forms_filled_once : Splits (body formsTemplate.toList) formsPieces ∧ Inert closingContext formsPieces ∧
    resolve formsTemplate closingContext = String.ofList (formsPieces.flatMap (Piece.text closingContext)) := by
  have hcopied : .copied '{' ∉ formsPieces := by simp [formsPieces]
  have hwritten : body formsTemplate.toList = written formsPieces := by decide +kernel
  have hsplits : Splits (body formsTemplate.toList) formsPieces := hwritten ▸ splits_of_no_brace hcopied
  have hinert : Inert closingContext formsPieces := by
    refine inert_of_no_brace hcopied fun p hp hform => ?_
    simp only [formsPieces, List.mem_cons, List.not_mem_nil, or_false, reduceCtorEq, Piece.slot.injEq,
      false_or] at hp
    rcases hp with rfl | rfl | rfl
    · decide +kernel
    · exact absurd rfl hform
    · decide +kernel
  exact ⟨hsplits, hinert, (resolve_eq_substitution _ _).2 _ hsplits hinert⟩

/-- A field that holds a placeholder. -/
def placeholderContext : Context := .structured (.object [("a", .text "\x7b\x7bcontext\x7d\x7d")])

/-- A placeholder that a field holds is filled as well. -/
theorem field_read_as_placeholder :
    let pieces : List Piece := [.slot (.point space nameA space)]
    let template := "\x7b\x7b $json.a \x7d\x7d"
    Splits (body template.toList) pieces ∧
      String.ofList (pieces.flatMap (Piece.text placeholderContext)) = "\x7b\x7bcontext\x7d\x7d" ∧
      resolve template placeholderContext = "\x7b\"a\":\"\x7b\x7bcontext\x7d\x7d\"\x7d" ∧
      resolve template placeholderContext ≠ String.ofList (pieces.flatMap (Piece.text placeholderContext)) := by
  intro pieces template
  have hwritten : body template.toList = written pieces := by decide +kernel
  have hcopied : .copied '{' ∉ pieces := by simp [pieces]
  exact ⟨hwritten ▸ splits_of_no_brace hcopied, by decide +kernel, by decide +kernel, by decide +kernel⟩

end Workflows.Template
