/-
The request of a step. A step with an address asks for one request, with the method in capital letters and every header
as it is filled; what gets something has no body. Names of headers do not depend on the case of their letters, but the
type of the content is only kept if its name is spelled in one of them: otherwise it is said twice.
-/
import Workflows.Proofs.Run.Body
import Workflows.Proofs.Value.Object

namespace Workflows

open Workflows.Text

/-! ## Members by their names -/

theorem Object.filter_of_distinct {members : Object} (h : members.Distinct) {key : String} {v : Value}
    (hmem : (key, v) ∈ members) : members.filter (fun m => m.1 == key) = [(key, v)] := by
  induction members with
  | nil => cases hmem
  | cons m ms ih =>
    obtain ⟨hm, hms⟩ := List.nodup_cons.1 h
    rw [List.filter_cons]
    rcases List.mem_cons.1 hmem with rfl | hmem
    · have hnone : ms.filter (fun m => m.1 == key) = [] := by
        refine List.filter_eq_nil_iff.2 fun other hother hsame => hm ?_
        exact List.mem_map.2 ⟨other, hother, beq_iff_eq.1 hsame⟩
      rw [if_pos (beq_self_eq_true key), hnone]
    · have hne : ¬ (m.1 == key) = true := fun hsame => hm (List.mem_map.2 ⟨_, hmem, (beq_iff_eq.1 hsame).symm⟩)
      rw [if_neg hne, ih hms hmem]

/-! ## Headers -/

/-- A name is that of the type of the content, in whatever case its letters are. -/
def isContentType (name : String) : Bool := lower name == "content-type"

theorem isContentType_plain : isContentType "Content-Type" = true := by decide +kernel

/-- Headers with their placeholders filled. -/
def filledHeaders (headers : Object) (context : Context) : List (String × String) :=
  headers.map fun (name, v) => (name, Step.resolved context v)

variable {headers : Object} {context : Context}

theorem filter_filledHeaders (p : String → Bool) :
    (filledHeaders headers context).filter (fun header => p header.1) =
      filledHeaders (headers.filter fun header => p header.1) context := by
  rw [filledHeaders, List.filter_map]
  rfl

/-- The type of JSON is added unless there is a header of exactly this name. -/
theorem withContentType_cases (headers : Object) (context : Context) :
    (∃ v, ("Content-Type", v) ∈ headers) ∧
        Step.withContentType (filledHeaders headers context) = filledHeaders headers context ∨
      (∀ header ∈ headers, header.1 ≠ "Content-Type") ∧
        Step.withContentType (filledHeaders headers context) =
          filledHeaders headers context ++ [("Content-Type", "application/json")] := by
  have hany : (filledHeaders headers context).any (·.1 == "Content-Type") = Object.has headers "Content-Type" := by
    rw [filledHeaders, List.any_map]
    rfl
  rw [Step.withContentType, hany]
  cases hhas : Object.has headers "Content-Type" with
  | true => exact .inl ⟨by simpa [Object.has] using hhas, rfl⟩
  | false => exact .inr ⟨by simpa [Object.has] using hhas, rfl⟩

/-- The type of the content stands in one header: that of the step, or that of JSON if the step has none. -/
def SaysContentType (headers : Object) (context : Context) (sent : List (String × String)) : Prop :=
  (∃ name v, (name, v) ∈ headers ∧ isContentType name = true ∧
      sent.filter (fun header => isContentType header.1) = [(name, Step.resolved context v)]) ∨
    (∀ header ∈ headers, isContentType header.1 = false) ∧
      ∃ name, sent.filter (fun header => isContentType header.1) = [(name, "application/json")]

/-- The headers of a step that say the type of the content. -/
def typeHeaders (headers : Object) : Object := headers.filter fun header => isContentType header.1

theorem filter_types : (filledHeaders headers context).filter (fun header => isContentType header.1) =
    filledHeaders (typeHeaders headers) context := filter_filledHeaders isContentType

theorem typeHeaders_of_spelled (h : headers.Distinct)
    (hspelled : ∀ header ∈ headers, isContentType header.1 = true → header.1 = "Content-Type") {v : Value}
    (hplain : ("Content-Type", v) ∈ headers) : typeHeaders headers = [("Content-Type", v)] := by
  rw [← Object.filter_of_distinct h hplain]
  refine List.filter_congr fun header hmem => ?_
  cases htype : isContentType header.1 with
  | true => rw [hspelled header hmem htype, beq_self_eq_true]
  | false =>
    symm
    refine beq_eq_false_iff_ne.2 fun hname => ?_
    rw [hname, isContentType_plain] at htype
    cases htype

/-- If all is sent as the step gives it, one of its headers being spelled in the usual way. -/
theorem saysContentType_kept (h : headers.Distinct) {v : Value} (hplain : ("Content-Type", v) ∈ headers) :
    SaysContentType headers context (filledHeaders headers context) ↔
      ∀ header ∈ headers, isContentType header.1 = true → header.1 = "Content-Type" := by
  rw [SaysContentType, filter_types]
  constructor
  · rintro (⟨name, w, -, -, hone⟩ | ⟨hother, -⟩)
    · -- the header in the usual spelling is the only one
      obtain ⟨only, honly⟩ : ∃ only, typeHeaders headers = [only] :=
        List.length_eq_one_iff.1 (by simpa [filledHeaders] using congrArg List.length hone)
      have hsame : ∀ header ∈ headers, isContentType header.1 = true → header = only := fun header hmem htype =>
        List.mem_singleton.1 (honly ▸ List.mem_filter.2 ⟨hmem, htype⟩)
      intro header hmem htype
      rw [hsame header hmem htype, ← hsame _ hplain isContentType_plain]
    · have := hother _ hplain
      rw [isContentType_plain] at this
      cases this
  · intro hspelled
    refine .inl ⟨_, v, hplain, isContentType_plain, ?_⟩
    rw [typeHeaders_of_spelled h hspelled hplain]
    rfl

/-- If the type of JSON is added, none of the headers being spelled in the usual way. -/
theorem saysContentType_added (hnone : ∀ header ∈ headers, header.1 ≠ "Content-Type") :
    SaysContentType headers context (filledHeaders headers context ++ [("Content-Type", "application/json")]) ↔
      ∀ header ∈ headers, isContentType header.1 = true → header.1 = "Content-Type" := by
  have hadded : (filledHeaders headers context ++ [("Content-Type", "application/json")]).filter
      (fun header => isContentType header.1) =
      filledHeaders (typeHeaders headers) context ++ [("Content-Type", "application/json")] := by
    rw [List.filter_append, filter_types, List.filter_cons, if_pos isContentType_plain, List.filter_nil]
  rw [SaysContentType, hadded]
  constructor
  · rintro (⟨name, w, hmem, htype, hone⟩ | ⟨hother, -⟩)
    · have hpos : 0 < (typeHeaders headers).length := List.length_pos_of_mem (List.mem_filter.2 ⟨hmem, htype⟩)
      have hlength := congrArg List.length hone
      rw [filledHeaders, List.length_append, List.length_map, List.length_singleton, List.length_singleton] at hlength
      omega
    · intro header hmem htype
      rw [hother header hmem] at htype
      cases htype
  · intro hspelled
    have hother : ∀ header ∈ headers, isContentType header.1 = false := fun header hmem =>
      Bool.eq_false_iff.2 fun htype => hnone header hmem (hspelled header hmem htype)
    have hnil : typeHeaders headers = [] := List.filter_eq_nil_iff.2 fun header hmem =>
      Bool.eq_false_iff.1 (hother header hmem)
    exact .inr ⟨hother, "Content-Type", by rw [hnil]; rfl⟩

/-- The type of the content stands in one header exactly if the step spells its name in the usual way, or not at all. -/
theorem saysContentType_iff (h : headers.Distinct) :
    SaysContentType headers context (Step.withContentType (filledHeaders headers context)) ↔
      ∀ header ∈ headers, isContentType header.1 = true → header.1 = "Content-Type" := by
  rcases withContentType_cases headers context with ⟨⟨v, hplain⟩, hsent⟩ | ⟨hnone, hsent⟩
  · rw [hsent]
    exact saysContentType_kept h hplain
  · rw [hsent]
    exact saysContentType_added hnone

/-- Each header stands once among those that are sent. -/
theorem filter_withContentType (h : headers.Distinct) {name : String} {v : Value} (hmem : (name, v) ∈ headers) :
    (Step.withContentType (filledHeaders headers context)).filter (fun header => header.1 == name) =
      [(name, Step.resolved context v)] := by
  have hfilled : (filledHeaders headers context).filter (fun header => header.1 == name) =
      [(name, Step.resolved context v)] := by
    rw [filter_filledHeaders (· == name), Object.filter_of_distinct h hmem]
    rfl
  rcases withContentType_cases headers context with ⟨-, hsent⟩ | ⟨hnone, hsent⟩
  · rw [hsent, hfilled]
  · have hne : ¬ ("Content-Type" == name) = true := fun hname => hnone _ hmem (beq_iff_eq.1 hname).symm
    rw [hsent, List.filter_append, hfilled, List.filter_cons, if_neg hne]
    rfl

/-! ## Requests -/

namespace Step

/-- A step asks for a request: it has an address, and an object of headers or none. -/
structure Asks (step : Step) (headers : Object) : Prop where
  kind : step.kind? = some .httpRequest
  url : (Object.getOrNull step.params "url").isUnset = false
  given : (Object.getOrNull step.params "headers").orElse (.object []) = .object headers
  distinct : headers.Distinct

/-- The method of a step in capital letters; without one the step gets something. -/
def method (step : Step) : String :=
  if (Object.getOrNull step.params "method").isTrue then upper (Object.getOrNull step.params "method").display
  else "GET"

theorem upper_method (step : Step) :
    upper ((Object.getOrNull step.params "method").orElse (.text "GET")).display = step.method := by
  have hget : upper (Value.text "GET").display = "GET" := by decide +kernel
  unfold method Value.orElse
  split
  · rfl
  · exact hget

variable {step : Step}

/-- The request with which a step gets something. -/
def getRequest (step : Step) (headers : Object) (context : Context) : Request where
  url := resolved context (Object.getOrNull step.params "url")
  method := "GET"
  headers := filledHeaders headers context
  body := none

theorem Asks.plan_get (h : step.Asks headers) (hmethod : step.method = "GET") (usualDelay : Int) (seat : Nat)
    (context : Context) :
    step.plan usualDelay seat context = (.ok (some (.http (step.getRequest headers context))), []) := by
  simp only [plan, h.kind, requiring, h.url, request, givenHeaders, h.given, Value.membersFor, Except.map,
    upper_method, hmethod, if_true]
  rfl

theorem Asks.sends (h : step.Asks headers) (hmethod : step.method ≠ "GET") : step.Sends headers where
  kind := h.kind
  url := h.url
  method := by rwa [upper_method]
  headers := h.given

/-- What a request carries of its step: the address, the method, each header once, and no body if it gets something. -/
structure Carries (step : Step) (headers : Object) (context : Context) (request : Request) : Prop where
  url : request.url = resolved context (Object.getOrNull step.params "url")
  method : request.method = step.method
  body : step.method = "GET" → request.body = none
  headers : ∀ name v, (name, v) ∈ headers →
    request.headers.filter (fun header => header.1 == name) = [(name, resolved context v)]

theorem Asks.carries_get (h : step.Asks headers) (hmethod : step.method = "GET") :
    step.Carries headers context (step.getRequest headers context) where
  url := rfl
  method := hmethod.symm
  body _ := rfl
  headers name v hmem := by
    rw [getRequest, filter_filledHeaders (· == name), Object.filter_of_distinct h.distinct hmem]
    rfl

theorem Asks.carries_body (h : step.Asks headers) (hmethod : step.method ≠ "GET") (body : String) :
    step.Carries headers context (step.requestWith headers context body) where
  url := rfl
  method := upper_method step
  body hget := absurd hget hmethod
  headers _ _ := filter_withContentType h.distinct

end Step

/-- A step that asks for a request makes one call, and the request carries its method and each of its headers once. With
a body it says the type of the content once exactly if the step spells the name of that header in the usual way. -/
theorem requests_carry_headers {σ : Type} {step : Step} (h : step.Asks headers) (world : World σ) (usualDelay : Int)
    (context : Context) (engine : Engine σ) :
    ∃ request, Event.calls (runStep world usualDelay step context engine).2.2 = [.http request] ∧
      step.Carries headers context request ∧
      (step.method ≠ "GET" → (SaysContentType headers context request.headers ↔
        ∀ header ∈ headers, isContentType header.1 = true → header.1 = "Content-Type")) := by
  by_cases hmethod : step.method = "GET"
  · have hplan := h.plan_get hmethod usualDelay engine.rotation.cursor.val context
    refine ⟨step.getRequest headers context, ?_, h.carries_get hmethod, fun hother => absurd hmethod hother⟩
    rw [runStep_of_call (by rw [hplan]), hplan]
    rfl
  · exact ⟨_, (h.sends hmethod).calls_eq world usualDelay context engine, h.carries_body hmethod _,
      fun _ => saysContentType_iff h.distinct⟩

/-- The headers of a step that says what it puts, under a name in the given spelling. -/
def typedHeaders (name : String) : Object := [("X-Id", .text "\x7b\x7bcontext\x7d\x7d"), (name, .text "text/plain")]

def putStep (name : String) : Step :=
  ⟨"put", "http_request", .text "Put", [("url", .text "http://a.example"), ("method", .text "put"),
    ("headers", .object (typedHeaders name)), ("body", .text "x")]⟩

theorem asks_putStep {name : String} (h : name ≠ "X-Id") : (putStep name).Asks (typedHeaders name) where
  kind := show StepKind.ofText? "http_request" = some .httpRequest by decide
  url := rfl
  given := rfl
  distinct := by simpa [Object.Distinct, typedHeaders] using h.symm

theorem method_putStep (name : String) : (putStep name).method = "PUT" :=
  show upper "put" = "PUT" by decide

theorem put_carries_headers :
    let step := putStep "Content-Type"
    let headers := typedHeaders "Content-Type"
    step.Asks headers ∧ step.method = "PUT" ∧
      ∀ {σ : Type} (world : World σ) (usualDelay : Int) (engine : Engine σ),
        ∃ request, Event.calls (runStep world usualDelay step (.text "7") engine).2.2 = [.http request] ∧
          step.Carries headers (.text "7") request ∧ SaysContentType headers (.text "7") request.headers := by
  intro step headers
  have hasks : step.Asks headers := asks_putStep (by decide)
  have hmethod : step.method = "PUT" := method_putStep _
  have hput : step.method ≠ "GET" := hmethod ▸ by decide
  have hspelled : ∀ header ∈ headers, isContentType header.1 = true → header.1 = "Content-Type" := by
    decide +kernel
  refine ⟨hasks, hmethod, fun world usualDelay engine => ?_⟩
  obtain ⟨request, hcalls, hcarries, htype⟩ := requests_carry_headers hasks world usualDelay (.text "7") engine
  exact ⟨request, hcalls, hcarries, (htype hput).2 hspelled⟩

/-- In small letters the name of the header is not seen, and the type of the content is said twice. -/
theorem small_letters_say_type_twice :
    let step := putStep "content-type"
    let headers := typedHeaders "content-type"
    step.Asks headers ∧ step.method = "PUT" ∧
      ∀ {σ : Type} (world : World σ) (usualDelay : Int) (engine : Engine σ),
        ∃ request, Event.calls (runStep world usualDelay step (.text "7") engine).2.2 = [.http request] ∧
          request.headers = [("X-Id", "7"), ("content-type", "text/plain"), ("Content-Type", "application/json")] ∧
          ¬ SaysContentType headers (.text "7") request.headers := by
  intro step headers
  have hasks : step.Asks headers := asks_putStep (by decide)
  have hmethod : step.method = "PUT" := method_putStep _
  have hput : step.method ≠ "GET" := hmethod ▸ by decide
  have hspelled : ¬ ∀ header ∈ headers, isContentType header.1 = true → header.1 = "Content-Type" := by
    decide +kernel
  refine ⟨hasks, hmethod, fun world usualDelay engine => ?_⟩
  exact ⟨_, (hasks.sends hput).calls_eq world usualDelay _ engine, by decide +kernel,
    mt (saysContentType_iff hasks.distinct).1 hspelled⟩

end Workflows
