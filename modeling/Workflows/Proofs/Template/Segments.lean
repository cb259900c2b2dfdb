/-
Templates that a text fills. The fields of a text are empty, so that they vanish whatever the text is; what is left
of the template is cut at the tokens of the whole context into segments, and the text stands between these as it is.
Nothing in the text is read. A template without placeholders is left as it is by every context.
-/
import Workflows.Proofs.Template.Substitution
import Workflows.Proofs.Text.Search

namespace Workflows.Template

open Workflows.Text

/-! ## Passes over pieces -/

section

variable {context : Context} {cs : List Char} {pieces : List Piece}

/-- The first pass fills the fields with a point. -/
theorem fillFields_point (h : Splits cs pieces) :
    fillFields pointField? context cs = written (fillAll .point context pieces) := by
  rw [← h.written_eq]
  exact (replaces_point context).editText_written (h.complete .point)

/-- The second pass fills the fields in brackets. -/
theorem fillFields_bracket (h : Splits cs pieces) :
    fillFields bracketField? context cs = written (fillAll .bracket context pieces) := by
  rw [← h.written_eq]
  exact (replaces_bracket context).editText_written (h.complete .bracket)

end

/-! ## Templates without placeholders -/

theorem splits_copied {cs : List Char} (h : ∀ p : Placeholder, ¬ p.spelling <:+: cs) : Splits cs (cs.map .copied) := by
  refine ⟨written_copied cs, ?_⟩
  rintro form ⟨p, -, before, after, hspelled⟩
  refine h p ⟨written before, written after, ?_⟩
  rw [← written_copied cs, ← hspelled, written_append, written_append, written_copied]

/-- A template that spells no placeholder is left as it is. -/
theorem resolve_of_none {template : String} (context : Context)
    (h : ∀ p : Placeholder, ¬ p.spelling <:+: body template.toList) :
    resolve template context = String.ofList (body template.toList) := by
  have hsplits := splits_copied h
  have htoken : splitFirst? contextToken (body template.toList) = none := splitFirst_eq_none_iff.2 (h .whole)
  rw [resolve, fillFields_point hsplits, fillAll_copied, written_copied, fillFields_bracket hsplits, fillAll_copied,
    written_copied, replaceAll_of_none _ htoken]

/-! ## Fields that vanish -/

/-- The form of the placeholder that a piece is. -/
def Piece.form? : Piece → Option Form
  | copied _ => none
  | slot p => some p.form

/-- Pieces without the placeholders of one form. -/
def without (form : Form) (pieces : List Piece) : List Piece := pieces.filter (·.form? != some form)

/-- A text has no fields. -/
theorem fillAll_text {form : Form} (hform : form ≠ .whole) (v : String) (pieces : List Piece) :
    fillAll form (.text v) pieces = without form pieces := by
  induction pieces with
  | nil => rfl
  | cons piece pieces ih =>
    rw [fillAll_cons, ih]
    cases piece with
    | copied c => rfl
    | slot p =>
      by_cases hp : p.form = form
      · have hempty : p.text (.text v) = [] := by
          cases p with
          | point => rfl
          | bracket => rfl
          | whole => exact absurd hp.symm hform
        simp [without, Piece.fill, Piece.form?, hp, hempty]
      · simp [without, Piece.fill, Piece.form?, hp]

/-! ## Segments -/

/-- A template has segments such that every text is put between them as it is. Cut at the tokens of the whole context
they are the template without its fields: those with a point are taken out first, and those in brackets of what this
leaves. -/
theorem text_fills_segments (template : String) : ∃ segments : List (List Char), segments ≠ [] ∧
    (∀ v : String, (resolve template (.text v)).toList = List.intercalate v.toList segments) ∧
    (∀ segment ∈ segments, ¬ contextToken <:+: segment) ∧
    ∃ pieces others, Splits (body template.toList) pieces ∧ Splits (written (without .point pieces)) others ∧
      List.intercalate contextToken segments = written (without .bracket others) := by
  obtain ⟨pieces, hpieces⟩ := exists_splits (body template.toList)
  obtain ⟨others, hothers⟩ := exists_splits (written (without .point pieces))
  have htoken : contextToken ≠ [] := by decide
  obtain ⟨segments, hne, hnone, hjoined, hreplaced⟩ := exists_segments htoken (written (without .bracket others))
  refine ⟨segments, hne, fun v => ?_, hnone, pieces, others, hpieces, hothers, hjoined⟩
  have hpoints : fillFields pointField? (.text v) (body template.toList) = written (without .point pieces) := by
    rw [fillFields_point hpieces, fillAll_text (by decide)]
  have hbrackets : fillFields bracketField? (.text v) (written (without .point pieces)) =
      written (without .bracket others) := by
    rw [fillFields_bracket hothers, fillAll_text (by decide)]
  rw [resolve, String.toList_ofList, hpoints, hbrackets]
  exact hreplaced v.toList

/-- What is left when a field is taken out may be a field in brackets, and then a token of the whole context. -/
example : resolve "a \x7b\x7b $json[\x7b\x7b $json.x \x7d\x7d'y'] \x7d\x7d\x7b\x7bcontext\x7d\x7d b"
      (.text "\x7b\x7b $json.y \x7d\x7d") =
    "a \x7b\x7b $json.y \x7d\x7d b" := by
  decide +kernel

end Workflows.Template
