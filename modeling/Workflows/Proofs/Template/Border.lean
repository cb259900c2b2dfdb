/-
Templates cut in two. A pass over a text is the pass over each part of it if no placeholder of its form reaches over the
border between them. None reaches into braces from the text before, so that whatever stands in braces is filled, or is
left as it is, apart from the text on both sides of it; and the two spellings of a field come to one result unless a
field in brackets is spelled around what the field is filled with.
-/
import Workflows.Proofs.Template.Substitution

namespace Workflows.Template

open Workflows.Text

/-! ## Borders -/

/-- No placeholder of a form reaches over the border of two texts. -/
def Parts (form : Form) (cs rest : List Char) : Prop :=
  ∀ p : Placeholder, p.form = form → ∀ left right, cs ++ rest = left ++ (p.spelling ++ right) →
    left ++ p.spelling <+: cs ∨ cs <+: left

/-- No placeholder of a form reaches into a text from before it or out of it. -/
def Apart (form : Form) (before text behind : List Char) : Prop :=
  ∀ p : Placeholder, p.form = form → ∀ left right, before ++ (text ++ behind) = left ++ (p.spelling ++ right) →
    left ++ p.spelling <+: before ∨ before ++ text <+: left

section

variable {form : Form} {cs rest before text behind : List Char}

theorem Parts.tail {c : Char} (h : Parts form (c :: cs) rest) : Parts form cs rest := by
  intro p hform left right hcs
  have hcons : c :: cs ++ rest = (c :: left) ++ (p.spelling ++ right) := congrArg (List.cons c) hcs
  refine (h p hform (c :: left) right hcons).imp (fun hbegins => ?_) fun hbegins => ?_
  · exact (List.cons_prefix_cons.1 hbegins).2
  · exact (List.cons_prefix_cons.1 hbegins).2

theorem Parts.append {more : List Char} (h : Parts form (more ++ cs) rest) : Parts form cs rest := by
  induction more with
  | nil => exact h
  | cons c more ih => exact ih h.tail

/-- No placeholder reaches from before them into two braces. -/
theorem parts_of_opening (form : Form) (cs : List Char) (h : opening <+: rest) : Parts form cs rest := by
  intro p _ left right hcs
  rcases List.append_eq_append_iff.1 hcs with ⟨more, hleft, -⟩ | ⟨more, hcs, hspelling⟩
  · exact .inr ⟨more, hleft.symm⟩
  rcases List.append_eq_append_iff.1 hspelling with ⟨inside, hmore, -⟩ | ⟨inside, hinside, hrest⟩
  · exact .inl ⟨inside, by rw [hcs, hmore, List.append_assoc]⟩
  obtain ⟨tail, htail, hunopened⟩ := p.spelling_eq_cons
  cases more with
  | nil => exact .inr ⟨[], by rw [hcs, List.append_nil, List.append_nil]⟩
  | cons c more =>
    by_cases hinside' : inside = []
    · exact .inl ⟨[], by rw [hcs, hinside, hinside', List.append_nil, List.append_nil]⟩
    · -- the braces would begin inside of the placeholder
      rw [htail] at hinside
      exact absurd (hrest ▸ h) (hunopened more inside right (List.cons.inj hinside).2 hinside')

theorem Apart.parts (h : Apart form before text behind) : Parts form before (text ++ behind) :=
  fun p hform left right hcs =>
    (h p hform left right hcs).imp_right fun hbegins => (List.prefix_append before text).trans hbegins

/-! ## Passes over parts -/

namespace Replaces

variable {edit : List Char → Option (Nat × List Char)} {context : Context}

theorem editText_append (hedit : Replaces edit form context) (h : Parts form cs rest) :
    editText edit 0 (cs ++ rest) = editText edit 0 cs ++ editText edit 0 rest := by
  induction hn : cs.length using Nat.strong_induction_on generalizing cs with
  | _ n ih =>
    cases cs with
    | nil => rfl
    | cons c cs =>
      by_cases hbegins : ∃ p : Placeholder, p.form = form ∧ p.spelling <+: c :: cs ++ rest
      · obtain ⟨p, hform, right, hright⟩ := hbegins
        rcases h p hform [] right hright.symm with ⟨more, hmore⟩ | hbegins
        · have hlength := congrArg List.length hmore
          have hpos := List.length_pos_of_ne_nil p.spelling_ne_nil
          rw [List.nil_append, List.length_append] at hlength
          rw [List.nil_append] at hmore
          rw [← hmore] at h ⊢
          rw [List.append_assoc, hedit.editText_hit hform, hedit.editText_hit hform, List.append_assoc,
            ih more.length (by omega) h.append rfl]
        · exact absurd (List.prefix_nil.1 hbegins) (List.cons_ne_nil c cs)
      · have hnone : ∀ p : Placeholder, p.form = form → ¬ p.spelling <+: c :: (cs ++ rest) := fun p hform hspelled =>
          hbegins ⟨p, hform, hspelled⟩
        have halone : ∀ p : Placeholder, p.form = form → ¬ p.spelling <+: c :: cs := fun p hform hspelled =>
          hnone p hform (hspelled.trans (List.prefix_append _ _))
        rw [List.cons_append, hedit.editText_cons hnone, hedit.editText_cons halone, List.cons_append,
          ih cs.length (by rw [← hn]; exact Nat.lt_succ_self _) h.tail rfl]

/-- A text into which and out of which nothing reaches is left as it is. -/
theorem editText_apart (hedit : Replaces edit form context) (h : Apart form before text behind) :
    editText edit 0 (before ++ (text ++ behind)) = editText edit 0 before ++ (text ++ editText edit 0 behind) := by
  rw [hedit.editText_append h.parts, hedit.editText_past]
  rintro more inside rfl hinside p hform ⟨right, hright⟩
  have hcs : before ++ ((more ++ inside) ++ behind) = (before ++ more) ++ (p.spelling ++ right) := by
    rw [hright]
    simp only [List.append_assoc]
  have hpos := List.length_pos_of_ne_nil p.spelling_ne_nil
  have hpos' := List.length_pos_of_ne_nil hinside
  rcases h p hform _ right hcs with hbegins | hbegins
  all_goals
    have hlength := hbegins.length_le
    simp only [List.length_append] at hlength
    omega

/-- A text in braces is passed over apart from what stands on both sides of it. -/
theorem editText_around (hedit : Replaces edit form context) {inner : List Char} (hinner : '{' ∉ inner ∧ '}' ∉ inner)
    (hother : ∀ p : Placeholder, p.form = form → p.inner ≠ inner) (before behind : List Char) :
    editText edit 0 (before ++ (inBraces inner ++ behind)) =
      editText edit 0 before ++ (inBraces inner ++ editText edit 0 behind) := by
  have hopening : opening <+: inBraces inner ++ behind := ⟨inner ++ closing ++ behind, by simp [inBraces]⟩
  rw [hedit.editText_append (parts_of_opening form before hopening), hedit.editText_inBraces hinner hother]

/-- A placeholder of the form is filled apart from what stands on both sides of it. -/
theorem editText_around_hit (hedit : Replaces edit form context) {p : Placeholder} (hform : p.form = form)
    (before behind : List Char) :
    editText edit 0 (before ++ (p.spelling ++ behind)) =
      editText edit 0 before ++ (p.text context ++ editText edit 0 behind) := by
  rw [hedit.editText_append (parts_of_opening form before (p.opening_prefix_spelling behind)), hedit.editText_hit hform]

end Replaces

end

/-! ## All passes -/

section

variable {context : Context}

/-- Whether a field is spelled with a point or in brackets makes no difference, unless another field in brackets is
spelled around what it is filled with. -/
theorem fillFields_respelled {p q : Placeholder} (hp : p.form = .point) (hq : q.form = .bracket)
    (htext : p.text context = q.text context) {before behind : List Char}
    (h : Apart .bracket (fillFields pointField? context before) (p.text context)
      (fillFields pointField? context behind)) :
    fillFields bracketField? context (fillFields pointField? context (before ++ (p.spelling ++ behind))) =
      fillFields bracketField? context (fillFields pointField? context (before ++ (q.spelling ++ behind))) := by
  have hother : ∀ r : Placeholder, r.form = .point → r.inner ≠ q.inner := fun r hr hinner => by
    rw [Placeholder.eq_of_inner_eq hinner, hq] at hr
    cases hr
  have hpoint : fillFields pointField? context (before ++ (p.spelling ++ behind)) =
      fillFields pointField? context before ++ (p.text context ++ fillFields pointField? context behind) :=
    (replaces_point context).editText_around_hit hp before behind
  have hbracket : fillFields pointField? context (before ++ (q.spelling ++ behind)) =
      fillFields pointField? context before ++ (q.spelling ++ fillFields pointField? context behind) :=
    (replaces_point context).editText_around q.inner_no_brace hother before behind
  rw [hpoint, hbracket]
  exact ((replaces_bracket context).editText_apart h).trans
    (htext ▸ ((replaces_bracket context).editText_around_hit hq _ _).symm)

/-- A text in braces that is no placeholder stays in a template, whatever stands on both sides of it. -/
theorem resolve_keeps_braces {inner : List Char} (hinner : '{' ∉ inner ∧ '}' ∉ inner)
    (hother : ∀ p : Placeholder, p.inner ≠ inner) {template : String} {before behind : List Char}
    (h : body template.toList = before ++ (inBraces inner ++ behind)) (context : Context) :
    inBraces inner <:+: (resolve template context).toList := by
  have hpoint : ∀ before behind, fillFields pointField? context (before ++ (inBraces inner ++ behind)) =
      fillFields pointField? context before ++ (inBraces inner ++ fillFields pointField? context behind) :=
    (replaces_point context).editText_around hinner fun p _ => hother p
  have hbracket : ∀ before behind, fillFields bracketField? context (before ++ (inBraces inner ++ behind)) =
      fillFields bracketField? context before ++ (inBraces inner ++ fillFields bracketField? context behind) :=
    (replaces_bracket context).editText_around hinner fun p _ => hother p
  have hwhole : ∀ before behind,
      replaceAll contextToken context.asInlineText.toList (before ++ (inBraces inner ++ behind)) =
        replaceAll contextToken context.asInlineText.toList before ++
          (inBraces inner ++ replaceAll contextToken context.asInlineText.toList behind) :=
    (replaces_whole context).editText_around hinner fun p _ => hother p
  rw [resolve, String.toList_ofList, h, hpoint, hbracket, hwhole]
  exact ⟨_, _, List.append_assoc _ _ _⟩

end

/-! ## Nothing around a text -/

/-- Every two braces that open in a text are closed in it. -/
structure Closed (cs : List Char) : Prop where
  closes : ∀ before after, cs = before ++ (opening ++ after) → closing <:+: after
  last : cs.getLast? ≠ some '{'

theorem closed_of_no_opening {cs : List Char} (h : ¬ opening <:+: cs) (hlast : cs.getLast? ≠ some '{') : Closed cs :=
  ⟨fun before after hcs => absurd ⟨before, after, by rw [hcs, List.append_assoc]⟩ h, hlast⟩

/-- What closes braces ends a placeholder. -/
theorem Placeholder.eq_nil_of_closes {p : Placeholder} {more tail : List Char} (h : p.inner ++ closing = more ++ tail)
    (hmore : closing <:+: more) : tail = [] := by
  obtain ⟨first, last, rfl⟩ := hmore
  have hlength := congrArg List.length h
  simp only [List.append_assoc] at h
  rcases List.append_eq_append_iff.1 h with ⟨gap, hfirst, -⟩ | ⟨gap, hinner, hgap⟩
  · rw [hfirst] at hlength
    simp only [List.length_append] at hlength
    exact List.length_eq_zero_iff.1 (by omega)
  · cases gap with
    | nil =>
      rw [hinner] at hlength
      simp only [List.length_append, List.length_nil] at hlength
      exact List.length_eq_zero_iff.1 (by omega)
    | cons c gap =>
      obtain rfl : '}' = c := (List.cons.inj hgap).1
      exact absurd (by rw [hinner]; simp) p.inner_no_brace.2

/-- Behind a text that closes its braces nothing is spelled around a text without an opening one. -/
theorem Closed.apart {before text : List Char} (h : Closed before) (htext : '{' ∉ text) (form : Form)
    (behind : List Char) : Apart form before text behind := by
  intro p _ left right hcs
  obtain ⟨cs, hspelling, -⟩ := p.spelling_eq_cons
  -- it does not begin in the text
  have hlate : ∀ more, left = before ++ more → text ++ behind = more ++ (p.spelling ++ right) →
      before ++ text <+: left := by
    intro more hleft hmore
    rcases List.append_eq_append_iff.1 hmore with ⟨tail, htail, -⟩ | ⟨tail, htail, hbegins⟩
    · exact ⟨tail, by rw [hleft, htail, List.append_assoc]⟩
    · cases tail with
      | nil => exact ⟨[], by rw [hleft, htail, List.append_nil, List.append_nil]⟩
      | cons c tail =>
        rw [hspelling] at hbegins
        obtain rfl : '{' = c := (List.cons.inj hbegins).1
        exact absurd (by rw [htail]; simp) htext
  rcases List.append_eq_append_iff.1 hcs with ⟨more, hleft, hmore⟩ | ⟨more, hbefore, hmore⟩
  · exact .inr (hlate more hleft hmore)
  rcases List.append_eq_append_iff.1 hmore with ⟨tail, htail, -⟩ | ⟨tail, htail, -⟩
  · exact .inl ⟨tail, by rw [hbefore, htail, List.append_assoc]⟩
  -- nor does it begin in front of the text and end behind its beginning
  match more with
  | [] => exact .inr (hlate [] (by rw [hbefore, List.append_nil, List.append_nil]) hmore.symm)
  | [c] =>
    rw [hspelling] at htail
    obtain rfl : '{' = c := (List.cons.inj htail).1
    exact absurd (by rw [hbefore]; simp) h.last
  | c :: d :: more =>
    obtain ⟨hc, hrest⟩ := List.cons.inj htail
    obtain ⟨hd, hrest⟩ := List.cons.inj hrest
    have hcloses := h.closes left more (by rw [hbefore, ← hc, ← hd]; rfl)
    rw [p.eq_nil_of_closes hrest hcloses, List.append_nil] at htail
    exact .inl ⟨[], by rw [hbefore, htail, List.append_nil]⟩

end Workflows.Template
