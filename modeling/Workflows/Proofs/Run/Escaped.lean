/-
Placeholders in the strings of a structured body, which is written in JSON before it is filled. A placeholder that is
written as it is is filled like one in a text, so that a field may be spelled with a point or in brackets. One with a
double quote, or with a character outside ASCII, is written with backslashes: it is no placeholder any more, and stays in
the body. The same holds for the body parameters of a node.
-/
import Workflows.Proofs.Graph.Parameter
import Workflows.Proofs.Template.Border

namespace Workflows

open Workflows.Json Workflows.Template

/-! ## Placeholders in JSON -/

theorem Json.escape_inBraces (inner : List Char) : escape (inBraces inner) = inBraces (escape inner) := by
  have hopening : escape opening = opening := by decide
  have hclosing : escape closing = closing := by decide
  rw [inBraces, escape_append, escape_append, hopening, hclosing, inBraces]

namespace Template.Placeholder

/-- A placeholder that is written in JSON as it is. -/
def Verbatim (p : Placeholder) : Prop := escape p.spelling = p.spelling

instance (p : Placeholder) : Decidable p.Verbatim := inferInstanceAs (Decidable (_ = _))

variable {p : Placeholder}

theorem escape_inner_no_brace (p : Placeholder) : '{' ∉ escape p.inner ∧ '}' ∉ escape p.inner := by
  constructor
  · exact fun h => (mem_escape h).elim p.inner_no_brace.1 (by decide)
  · exact fun h => (mem_escape h).elim p.inner_no_brace.2 (by decide)

/-- What a placeholder that is not written as it is becomes is no placeholder. -/
theorem inner_ne_escape (h : ¬ p.Verbatim) (q : Placeholder) : q.inner ≠ escape p.inner := by
  intro hinner
  have hne : escape p.inner ≠ p.inner := fun hsame => h <| by
    rw [Verbatim, show p.spelling = inBraces p.inner from rfl, escape_inBraces, hsame]
  have hslash := backslash_of_escape_ne hne
  rw [← hinner] at hslash
  exact q.not_mem_inner (by decide) hslash

/-- Exactly a placeholder of printable ASCII without double quotes is written as it is. -/
theorem verbatim_iff : p.Verbatim ↔ ∀ c ∈ p.inner, c ≠ '"' ∧ 32 ≤ c.toNat ∧ c.toNat < 127 := by
  have hinner : p.Verbatim ↔ escape p.inner = p.inner := by
    rw [Verbatim, show p.spelling = inBraces p.inner from rfl, escape_inBraces]
    exact ⟨fun h => List.append_cancel_right (List.append_cancel_left h), congrArg inBraces⟩
  rw [hinner, escape_eq_self_iff]
  refine forall₂_congr fun c hc => ?_
  have hslash : c ≠ '\\' := fun hslash => p.not_mem_inner (by decide) (hslash ▸ hc)
  rw [writeChar_eq_self_iff, and_iff_left hslash]

end Template.Placeholder

/-! ## Bodies with a gap -/

/-- A body with a gap in one of its texts: a structured value, or its JSON text. -/
inductive Carries (gap : Gap) : (List Char → Value) → Prop
  | structured : Carries gap gap.fill
  | written : Carries gap fun cs => .text (render .plain (gap.fill cs))

section

variable {gap : Gap} {body : List Char → Value} {context : Context}

/-- Either of them is sent as the JSON text of the value, filled. -/
theorem Carries.bodyTemplate_eq (h : Carries gap body) (hgap : ¬ gap.IsBare) (step : Step) (cs : List Char) :
    (step.withBody (body cs)).bodyTemplate context = render .plain (gap.fill cs) := by
  rw [Step.bodyTemplate, Step.withBody, Object.getOrNull_put_self]
  cases h with
  | structured =>
    obtain ⟨hno, htrue⟩ := Gap.fill_of_not_bare hgap cs
    rw [Value.orElse, if_pos htrue]
    split
    · next s hs => exact absurd hs (hno s)
    · rfl
  | written =>
    rw [Value.orElse, if_pos (by simpa [Value.isTrue] using Gap.render_fill_ne hgap cs)]

/-- No equals sign is in front of such a body. -/
theorem body_render_fill (hgap : ¬ gap.IsBare) (cs : List Char) :
    Template.body (render .plain (gap.fill cs)).toList = gap.leading 0 ++ (escape cs ++ gap.trailing 0) := by
  obtain ⟨c, more, hleading, hc⟩ := Gap.leading_of_not_bare hgap 0
  rw [gap.toList_render_fill, hleading]
  rcases hc with rfl | rfl <;> rfl

/-- No other field in brackets is spelled around the text of a placeholder in a gap. -/
def Lone (context : Context) (gap : Gap) (p : Placeholder) : Prop :=
  Apart .bracket (fillFields pointField? context (gap.leading 0)) (p.text context)
    (fillFields pointField? context (gap.trailing 0))

theorem resolve_respelled (hgap : ¬ gap.IsBare) {p q : Placeholder} (hp : p.form = .point) (hq : q.form = .bracket)
    (htext : p.text context = q.text context) (hverbatim : p.Verbatim ∧ q.Verbatim) (hlone : Lone context gap p) :
    resolve (render .plain (gap.fill p.spelling)) context = resolve (render .plain (gap.fill q.spelling)) context := by
  rw [resolve, resolve, body_render_fill hgap, body_render_fill hgap, hverbatim.1, hverbatim.2,
    fillFields_respelled hp hq htext hlone]

theorem resolve_escaped (hgap : ¬ gap.IsBare) {p : Placeholder} (h : ¬ p.Verbatim) (context : Context) :
    escape p.spelling <:+: (resolve (render .plain (gap.fill p.spelling)) context).toList := by
  have hbody := body_render_fill hgap p.spelling
  have hspelling : escape p.spelling = inBraces (escape p.inner) := escape_inBraces p.inner
  rw [hspelling] at hbody ⊢
  exact resolve_keeps_braces p.escape_inner_no_brace (Placeholder.inner_ne_escape h) hbody context

end

/-! ## Spellings of a field -/

/-- What fills a gap in the bodies of some steps. A field that is written as it is may be spelled with a point or in
brackets, unless another one is spelled around it; and a placeholder that is not written as it is stays in the body. -/
structure Fills (context : Context) (gap : Gap) (step : List Char → Step) : Prop where
  alike : ∀ {p q : Placeholder}, p.form = .point → q.form = .bracket → p.text context = q.text context → p.Verbatim →
    q.Verbatim → Lone context gap p → ∀ {σ : Type} (world : World σ) (usualDelay : Int) (engine : Engine σ),
      runStep world usualDelay (step p.spelling) context engine = runStep world usualDelay (step q.spelling) context engine
  escaped : ∀ {r : Placeholder}, ¬ r.Verbatim → ∀ {σ : Type} (world : World σ) (usualDelay : Int) (engine : Engine σ),
    ∃ request sent, Event.calls (runStep world usualDelay (step r.spelling) context engine).2.2 = [.http request] ∧
      request.body = some sent ∧ escape r.spelling <:+: sent.toList

theorem Carries.fills {gap : Gap} {body : List Char → Value} (h : Carries gap body) (hgap : ¬ gap.IsBare) {step : Step}
    {headers : Object} (hsends : step.Sends headers) (context : Context) :
    Fills context gap fun cs => step.withBody (body cs) where
  alike hp hq htext hverbatim hverbatim' hlone _ world usualDelay engine := by
    refine hsends.runStep_withBody ?_ world usualDelay engine
    rw [h.bodyTemplate_eq hgap, h.bodyTemplate_eq hgap]
    exact resolve_respelled hgap hp hq htext ⟨hverbatim, hverbatim'⟩ hlone
  escaped hr _ world usualDelay engine := by
    refine ⟨_, _, (Step.sends_withBody.2 hsends).calls_eq world usualDelay context engine, rfl, ?_⟩
    rw [h.bodyTemplate_eq hgap]
    exact resolve_escaped hgap hr context

/-- The spellings of a field in structured bodies, and in body parameters of nodes. A node becomes the same whatever fills
a gap in a parameter, or its step has this gap in its body. -/
theorem bodies_fill (context : Context) :
    (∀ (step : Step) (headers : Object) (gap : Gap), step.Sends headers → ¬ gap.IsBare →
      Fills context gap fun cs => step.withBody (gap.fill cs)) ∧
    ∀ (usualDelay : Int) (node : Node) (params container : Object) (before : List Value) (entry : Object)
      (after : List Value) (gap : Gap), node.kind = .http → Node.firstFilled? params ["body", "jsonBody"] = none →
      let become (cs : List Char) := ({ node with
          parameters := .object (Node.withParameter params container before entry after (gap.fill cs)) } :
        Node).toStep usualDelay
      (∃ outcome, ∀ cs, become cs = outcome) ∨
        ∃ (outer : Gap) (step : Step) (warnings : List String), ¬ outer.IsBare ∧
          (∀ cs, become cs = .ok (step.withBody (.text (render .plain (outer.fill cs))), warnings)) ∧
          ∀ headers, step.Sends headers →
            Fills context outer fun cs => step.withBody (.text (render .plain (outer.fill cs))) := by
  refine ⟨fun step headers gap hsends hgap => Carries.structured.fills hgap hsends context, ?_⟩
  intro usualDelay node params container before entry after gap hkind hnone become
  refine (Node.toStep_withParameter usualDelay hkind hnone container before entry after gap).imp_right ?_
  rintro ⟨outer, houter, step, warnings, hstep⟩
  exact ⟨outer, step, warnings, houter, hstep, fun headers hsends => Carries.written.fills houter hsends context⟩

/-! ## One field in three spellings -/

def fieldF : FieldName := ⟨['f'], by simp, List.forall_mem_singleton.2 rfl⟩

/-- A field in brackets with two equal quotes. -/
def inQuotesOf (quote : Quote) : Placeholder := .bracket space quote fieldF quote space

theorem single_is_quote : '\'' = '\'' ∨ '\'' = '"' := .inl rfl

def singleQuote : Quote := ⟨'\'', single_is_quote⟩

def doubleQuote : Quote := ⟨'"', .inr rfl⟩

/-- A string in an object, with a gap in it. -/
def greetingGap : Gap := .member [] "v" (.text "Hi ".toList "!".toList) []

def fieldFContext : Context := .structured (.object [("f", .text "b")])

theorem lone_greeting : Lone fieldFContext greetingGap (.point space fieldF space) := by
  have hclosed : Closed (fillFields pointField? fieldFContext (greetingGap.leading 0)) :=
    closed_of_no_opening (by decide +kernel) (by decide +kernel)
  exact hclosed.apart (by decide +kernel) .bracket _

theorem field_alike_in_post : postStep.Sends [] ∧ ¬ greetingGap.IsBare ∧
    Lone fieldFContext greetingGap (.point space fieldF space) ∧
    ∀ {σ : Type} (world : World σ) (usualDelay : Int) (engine : Engine σ),
      runStep world usualDelay (postStep.withBody (greetingGap.fill (Placeholder.point space fieldF space).spelling))
          fieldFContext engine =
        runStep world usualDelay (postStep.withBody (greetingGap.fill (inQuotesOf singleQuote).spelling)) fieldFContext
          engine := by
  have hbare : ¬ greetingGap.IsBare := fun h => h
  refine ⟨sends_postStep, hbare, lone_greeting, fun world usualDelay engine => ?_⟩
  exact ((bodies_fill fieldFContext).1 postStep [] greetingGap sends_postStep hbare).alike (p := .point space fieldF space)
    (q := inQuotesOf singleQuote) rfl rfl rfl (by decide +kernel) (by decide +kernel) lone_greeting world usualDelay engine

/-- With double quotes the field is not filled. -/
theorem doubleQuoted_field_not_filled : postStep.Sends [] ∧
    ∀ {σ : Type} (world : World σ) (usualDelay : Int) (engine : Engine σ),
      let sent (p : Placeholder) : List Call := Event.calls (runStep world usualDelay
        (postStep.withBody (greetingGap.fill p.spelling)) fieldFContext engine).2.2
      ∃ filled kept : Request, sent (.point space fieldF space) = [.http filled] ∧
        filled.body = some "\x7b\"v\": \"Hi b!\"\x7d" ∧ sent (inQuotesOf doubleQuote) = [.http kept] ∧
        kept.body = some "\x7b\"v\": \"Hi \x7b\x7b $json[\\\"f\\\"] \x7d\x7d!\"\x7d" := by
  refine ⟨sends_postStep, fun world usualDelay engine => ?_⟩
  have hsends : ∀ p : Placeholder, (postStep.withBody (greetingGap.fill p.spelling)).Sends [] := fun _ =>
    Step.sends_withBody.2 sends_postStep
  exact ⟨_, _, (hsends _).calls_eq world usualDelay _ engine, congrArg some (by decide +kernel),
    (hsends _).calls_eq world usualDelay _ engine, congrArg some (by decide +kernel)⟩

end Workflows
