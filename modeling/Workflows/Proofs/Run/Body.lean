/-
What a request sends of which no body is given: the context as a member of an object. It is a template as well, so
it carries the context as it is unless the JSON text of the context spells a placeholder. A placeholder in the context is
filled, and what is then sent need not even be JSON.
-/
import Workflows.Proofs.Json.Spelling
import Workflows.Proofs.Run.Step
import Workflows.Proofs.Template.Segments

namespace Workflows

open Workflows.Text Workflows.Json Workflows.Template

/-! ## Braces in JSON -/

/-- Two braces do not begin where one brace stands in front of something else. -/
theorem opening_infix_brace {c : Char} (hc : c ≠ '{') (cs : List Char) :
    opening <:+: '{' :: c :: cs ↔ opening <:+: c :: cs :=
  List.infix_cons_iff.trans <| or_iff_right fun hbegins =>
    hc (List.cons_prefix_cons.1 (List.cons_prefix_cons.1 hbegins).2).1.symm

theorem opening_infix_append {before : List Char} (h : '{' ∉ before) (rest : List Char) :
    opening <:+: before ++ rest ↔ opening <:+: rest := by
  refine infix_append_of_apart (fun c hc hmem => ?_) rest
  rw [List.eq_of_mem_replicate (n := 2) hmem] at hc
  exact h hc

theorem opening_infix_cons {c : Char} (hc : c ≠ '{') (cs : List Char) : opening <:+: c :: cs ↔ opening <:+: cs :=
  opening_infix_append (show '{' ∉ [c] from fun h => hc (List.mem_singleton.1 h).symm) cs

theorem opening_infix_text (s : String) (cs : List Char) :
    opening <:+: writeText true s ++ cs ↔ opening <:+: s.toList ∨ opening <:+: cs := by
  have hmarks : ∀ c ∈ opening, Mark c := by decide
  rw [writeText, List.append_assoc, List.cons_append, opening_infix_cons (by decide)]
  exact marks_infix_chars hmarks (by decide) s.toList cs

theorem opening_infix_brace_text (s : String) (cs : List Char) :
    opening <:+: '{' :: (writeText true s ++ cs) ↔ opening <:+: s.toList ∨ opening <:+: cs :=
  (opening_infix_brace (c := '"') (by decide) _).trans (opening_infix_text s cs)

theorem opening_infix_int (n : Int) (cs : List Char) : opening <:+: writeInt n ++ cs ↔ opening <:+: cs := by
  refine opening_infix_append (fun h => ?_) cs
  have hdigits : ∀ k, '{' ∉ Nat.toDigits 10 k := fun k hc =>
    absurd (Nat.isDigit_of_mem_toDigits (by decide) (by decide) hc) (by decide)
  cases n with
  | ofNat k => exact hdigits k h
  | negSucc k => exact hdigits (k + 1) (List.mem_of_ne_of_mem (by decide) h)

-- Along the writer, with what follows in hand.
mutual

/-- Two opening braces in a row stand in the JSON text of a value exactly if they stand in one of its texts. -/
theorem opening_infix_write : ∀ (v : Value) (level : Nat) (cs : List Char), isExact v = true →
    (opening <:+: write .plain level v ++ cs ↔ (∃ s ∈ texts v, opening <:+: s.toList) ∨ opening <:+: cs)
  | .null, _, cs, _ => by
    rw [write, opening_infix_append (by decide)]
    simp [texts]
  | .bool true, _, cs, _ => by
    rw [write, opening_infix_append (by decide)]
    simp [texts]
  | .bool false, _, cs, _ => by
    rw [write, opening_infix_append (by decide)]
    simp [texts]
  | .int n, _, cs, _ => by
    rw [write, opening_infix_int]
    simp [texts]
  | .text s, _, cs, _ => by
    rw [write, show Layout.plain.ascii = true from rfl, opening_infix_text]
    simp [texts]
  | .list [], _, cs, _ => by
    rw [write, opening_infix_append (by decide)]
    simp [texts, textsOfItems]
  | .list (v :: vs), level, cs, h => by
    simp only [isExact, exactItems, Bool.and_eq_true] at h
    rw [write_plain_list, opening_infix_cons (by decide), opening_infix_write v _ _ h.1,
      opening_infix_writeItems vs _ _ h.2, opening_infix_cons (by decide)]
    simp [texts, textsOfItems, or_and_right, exists_or, or_assoc]
  | .object [], _, cs, _ => by
    rw [write, List.cons_append, List.singleton_append, opening_infix_brace (by decide),
      opening_infix_cons (by decide)]
    simp [texts, textsOfMembers]
  | .object ((key, v) :: rest), level, cs, h => by
    simp only [isExact, exactMembers, Bool.and_eq_true] at h
    rw [write_plain_object, opening_infix_brace_text, opening_infix_cons (by decide),
      opening_infix_cons (by decide), opening_infix_write v _ _ h.1.2,
      opening_infix_writeMembers rest _ _ h.2, opening_infix_cons (by decide)]
    simp [texts, textsOfMembers, or_and_right, exists_or, or_assoc]
  | .float _, _, _, h => by simp [isExact] at h
  | .table _, _, _, h => by simp [isExact] at h

theorem opening_infix_writeItems : ∀ (vs : List Value) (level : Nat) (cs : List Char), exactItems vs = true →
    (opening <:+: writeItems .plain level vs ++ cs ↔ (∃ s ∈ textsOfItems vs, opening <:+: s.toList) ∨ opening <:+: cs)
  | [], _, _, _ => by simp [writeItems, textsOfItems]
  | v :: vs, level, cs, h => by
    rw [exactItems, Bool.and_eq_true] at h
    rw [writeItems_plain_cons, opening_infix_cons (by decide), opening_infix_cons (by decide),
      opening_infix_write v _ _ h.1, opening_infix_writeItems vs _ _ h.2]
    simp [textsOfItems, or_and_right, exists_or, or_assoc]

theorem opening_infix_writeMembers : ∀ (members : List (String × Value)) (level : Nat) (cs : List Char),
    exactMembers members = true → (opening <:+: writeMembers .plain level members ++ cs ↔
      (∃ s ∈ textsOfMembers members, opening <:+: s.toList) ∨ opening <:+: cs)
  | [], _, _, _ => by simp [writeMembers, textsOfMembers]
  | (key, v) :: rest, level, cs, h => by
    simp only [exactMembers, Bool.and_eq_true] at h
    rw [writeMembers_plain_cons, opening_infix_cons (by decide), opening_infix_cons (by decide),
      opening_infix_text,
      opening_infix_cons (by decide),
      opening_infix_cons (by decide), opening_infix_write v _ _ h.1.2, opening_infix_writeMembers rest _ _ h.2]
    simp [textsOfMembers, or_and_right, exists_or, or_assoc]

end

/-! ## The request that is sent -/

namespace Step

/-- A step that sends a body, and the headers that it is given. -/
structure Sends (step : Step) (headers : Object) : Prop where
  kind : step.kind? = some .httpRequest
  url : (Object.getOrNull step.params "url").isUnset = false
  method : upper ((Object.getOrNull step.params "method").orElse (.text "GET")).display ≠ "GET"
  headers : (Object.getOrNull step.params "headers").orElse (.object []) = .object headers

/-- The request with which a step sends a body. -/
def requestWith (step : Step) (headers : Object) (context : Context) (body : String) : Request where
  url := resolved context (Object.getOrNull step.params "url")
  method := upper ((Object.getOrNull step.params "method").orElse (.text "GET")).display
  headers := withContentType (headers.map fun (name, v) => (name, resolved context v))
  body := some body

/-- A step with another body. -/
def withBody (step : Step) (v : Value) : Step := { step with params := Object.put step.params "body" v }

variable {step : Step} {headers : Object}

theorem sends_withBody {v : Value} : (step.withBody v).Sends headers ↔ step.Sends headers := by
  have hparam : ∀ name, name ≠ "body" →
      Object.getOrNull (step.withBody v).params name = Object.getOrNull step.params name := fun _ =>
    Object.getOrNull_put_of_ne
  constructor <;> rintro ⟨hkind, hurl, hmethod, hheaders⟩
  · rw [hparam _ (by decide)] at hurl hmethod hheaders
    exact ⟨hkind, hurl, hmethod, hheaders⟩
  · exact ⟨hkind, by rwa [hparam _ (by decide)], by rwa [hparam _ (by decide)], by rwa [hparam _ (by decide)]⟩

/-- Besides its body a request does not depend on the body of its step. -/
theorem requestWith_withBody (v : Value) (context : Context) :
    (step.withBody v).requestWith headers context = step.requestWith headers context := by
  funext body
  simp [requestWith, withBody, Object.getOrNull_put_of_ne]

theorem Sends.plan_eq (h : step.Sends headers) (usualDelay : Int) (seat : Nat) (context : Context) :
    step.plan usualDelay seat context =
      (.ok (some (.http (step.requestWith headers context (resolve (step.bodyTemplate context) context)))), []) := by
  simp only [plan, h.kind, requiring, h.url, request, givenHeaders, h.headers, Value.membersFor, Except.map,
    if_neg h.method]
  rfl

end Step

section

variable {σ : Type} {step : Step} {headers : Object}

/-- Such a step asks for one request, whose body is its template, filled. -/
theorem Step.Sends.calls_eq (h : step.Sends headers) (world : World σ) (usualDelay : Int) (context : Context)
    (engine : Engine σ) : Event.calls (runStep world usualDelay step context engine).2.2 =
      [.http (step.requestWith headers context (resolve (step.bodyTemplate context) context))] := by
  have hplan := h.plan_eq usualDelay engine.rotation.cursor.val context
  rw [runStep_of_call (by rw [hplan]), hplan]
  rfl

variable {context : Context}

/-- Steps whose bodies are filled alike run alike. -/
theorem Step.Sends.runStep_withBody (h : step.Sends headers) {v w : Value}
    (hsame : resolve ((step.withBody v).bodyTemplate context) context =
      resolve ((step.withBody w).bodyTemplate context) context) (world : World σ) (usualDelay : Int) (engine : Engine σ) :
    runStep world usualDelay (step.withBody v) context engine =
      runStep world usualDelay (step.withBody w) context engine := by
  have hplan : (step.withBody v).plan usualDelay engine.rotation.cursor.val context =
      (step.withBody w).plan usualDelay engine.rotation.cursor.val context := by
    rw [(Step.sends_withBody.2 h).plan_eq, (Step.sends_withBody.2 h).plan_eq, Step.requestWith_withBody,
      Step.requestWith_withBody, hsame]
  have hrotation : engine.rotation.after (step.withBody v) = engine.rotation.after (step.withBody w) := rfl
  simp only [runStep, hplan, hrotation]

/-! ## The context as it is -/

/-- Only what two braces open is a placeholder. -/
theorem no_placeholder_in_defaultBody (hexact : isExact context.value = true)
    (h : ∀ s ∈ texts context.value, ¬ opening <:+: s.toList) (p : Placeholder) :
    ¬ p.spelling <:+: (Step.defaultBody context).toList := by
  intro hspelled
  have hwhole : isExact (.object [("data", context.value)]) = true := by
    simp [isExact, exactMembers, Object.has, hexact]
  have hopening : opening <:+: (Step.defaultBody context).toList :=
    List.IsInfix.trans ⟨[], p.inner ++ closing, rfl⟩ hspelled
  rw [Step.defaultBody, render, String.toList_ofList, ← List.append_nil (write _ _ _),
    opening_infix_write _ _ _ hwhole] at hopening
  rcases hopening with ⟨s, hs, hopening⟩ | hopening
  · rcases List.mem_cons.1 hs with rfl | hs
    · exact absurd hopening (by decide)
    · exact h s (by simpa [textsOfMembers] using hs) hopening
  · exact absurd hopening (by decide)

/-- A request with no body of its own sends the context as a member of an object, from which it is read back as it is,
unless the JSON text of this object spells a placeholder. -/
theorem default_body_carries_context (h : step.Sends headers)
    (hbody : (Object.getOrNull step.params "body").isTrue = false) (hexact : isExact context.value = true)
    (hnone : ∀ p : Placeholder, ¬ p.spelling <:+: (Step.defaultBody context).toList) (world : World σ) (usualDelay : Int)
    (engine : Engine σ) :
    ∃ request body, Event.calls (runStep world usualDelay step context engine).2.2 = [.http request] ∧
      request.body = some body ∧ read? body = some (.object [("data", context.value)]) := by
  have htemplate : step.bodyTemplate context = Step.defaultBody context := by
    simp only [Step.bodyTemplate, Value.orElse, hbody, Bool.false_eq_true, if_false]
  -- the text begins with a brace, so that no equals sign is cut off it
  have hbegins : body (Step.defaultBody context).toList = (Step.defaultBody context).toList := by
    rw [Step.defaultBody, render, String.toList_ofList, ← List.append_nil (write _ _ _), write_plain_object]
    rfl
  have hfilled : resolve (Step.defaultBody context) context = Step.defaultBody context := by
    rw [resolve_of_none context (by rwa [hbegins]), hbegins, String.ofList_toList]
  have hwhole : isExact (.object [("data", context.value)]) = true := by
    simp [isExact, exactMembers, Object.has, hexact]
  refine ⟨_, _, h.calls_eq world usualDelay context engine, rfl, ?_⟩
  rw [htemplate, hfilled, read?, Step.defaultBody, read_render Layout.readable_plain hwhole]
  rfl

end

/-! ## A context with a placeholder -/

/-- A post of which no body is given. -/
def postStep : Step :=
  ⟨"post", "http_request", .text "Post", [("url", .text "http://a.example"), ("method", .text "POST")]⟩

theorem sends_postStep : postStep.Sends [] where
  kind := by decide +kernel
  url := by decide +kernel
  method := by decide +kernel
  headers := by decide +kernel

/-- Braces alone are no placeholder. -/
def braceContext : Context := .structured (.object [("n", .int (-7)), ("note", .text "a \"\x7bb\x7d\" line\n")])

theorem post_carries_braces : postStep.Sends [] ∧ (Object.getOrNull postStep.params "body").isTrue = false ∧
    isExact braceContext.value = true ∧
    (∀ p : Placeholder, ¬ p.spelling <:+: (Step.defaultBody braceContext).toList) ∧
    ∀ {σ : Type} (world : World σ) (usualDelay : Int) (engine : Engine σ),
      ∃ request body, Event.calls (runStep world usualDelay postStep braceContext engine).2.2 = [.http request] ∧
        request.body = some body ∧ read? body = some (.object [("data", braceContext.value)]) := by
  have hbody : (Object.getOrNull postStep.params "body").isTrue = false := by decide +kernel
  have hexact : isExact braceContext.value = true := by decide +kernel
  have hnone := no_placeholder_in_defaultBody hexact (by decide +kernel)
  exact ⟨sends_postStep, hbody, hexact, hnone, default_body_carries_context sends_postStep hbody hexact hnone⟩

/-- A text that is a placeholder for a field. -/
def fieldContext : Context := .text "\x7b\x7b $json.x \x7d\x7d"

/-- A field of a text is empty, and the empty text is all that is sent. -/
theorem post_loses_placeholder : postStep.Sends [] ∧ (Object.getOrNull postStep.params "body").isTrue = false ∧
    isExact fieldContext.value = true ∧
    ∀ {σ : Type} (world : World σ) (usualDelay : Int) (engine : Engine σ),
      ∃ request body, Event.calls (runStep world usualDelay postStep fieldContext engine).2.2 = [.http request] ∧
        request.body = some body ∧ read? body = some (.object [("data", .text "")]) ∧
        read? body ≠ some (.object [("data", fieldContext.value)]) := by
  refine ⟨sends_postStep, by decide +kernel, by decide +kernel, fun world usualDelay engine => ?_⟩
  exact ⟨_, _, sends_postStep.calls_eq world usualDelay _ engine, rfl, by decide +kernel, by decide +kernel⟩

end Workflows
