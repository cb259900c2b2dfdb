/-
The contexts that runs hold. Whatever the collaborators reply, a run holds every text as a text and only
other values as structured contexts. A structured context of an exact value is read back from both of its
printed forms, the indented one that ends a run and the compact one that stands inside other texts.
-/
import Workflows.Proofs.Json.RoundTrip
import Workflows.Proofs.Run.Append
import Workflows.Proofs.Run.Step
import Workflows.Run.Script

namespace Workflows

open Workflows.Json

/-! ## Proper contexts -/

namespace Context

/-- A context that holds a text as a text: what is structured is none. -/
def Proper : Context → Prop
  | text _ => True
  | structured v => v.text? = none

theorem proper_ofValue (v : Value) : (ofValue v).Proper := by
  cases v <;> trivial

theorem proper_ofBody (body : String) : (ofBody body).Proper := by
  unfold ofBody
  split
  · trivial
  · trivial
  · next v hne _ =>
    cases v with
    | text s => exact absurd rfl (hne s)
    | _ => rfl

/-- The text of a value is the body of a response that holds it; a text is held as itself. -/
theorem ofBody_render {layout : Layout} (hl : layout.Readable) {v : Value} (h : isExact v = true) :
    ofBody (render layout v) = match v with
      | .text s => text s
      | v => structured v := by
  have hread : read? (render layout v) = some v := by
    rw [read?, read_render hl h]
    rfl
  rw [ofBody, hread]
  cases v <;> rfl

theorem ofBody_render_of_proper {layout : Layout} (hl : layout.Readable) {v : Value} (h : isExact v = true)
    (hv : (structured v).Proper) : ofBody (render layout v) = structured v := by
  rw [ofBody_render hl h]
  cases v with
  | text s => cases hv
  | _ => rfl

end Context

/-! ## Steps and runs -/

theorem Call.proper_resume (call : Call) {context next : Context} (h : context.Proper) (reply : call.Reply)
    (hnext : call.resume context reply = .ok next) : next.Proper := by
  cases call with
  | chat seat prompt => cases hnext; trivial
  | image prompt => cases hnext; trivial
  | http request =>
    simp only [resume] at hnext
    split at hnext
    · cases hnext
      exact Context.proper_ofBody _
    · cases hnext
  | code source input =>
    simp only [resume] at hnext
    cases hnext
    split
    · exact h
    · exact Context.proper_ofValue _
  | sleep duration => cases hnext; exact h

section

variable {σ : Type} {world : World σ} {usualDelay : Int}

theorem World.proper_perform (call : Call) {context next : Context} (h : context.Proper) (outside : σ)
    (hnext : (world.perform call context outside).1 = .ok next) : next.Proper := by
  simp only [World.perform] at hnext
  rcases hreply : (world.answer call outside).1 with fault | reply
  · rw [hreply] at hnext
    cases hnext
  · rw [hreply] at hnext
    exact call.proper_resume h reply hnext

theorem proper_runStep {step : Step} {context next : Context} (h : context.Proper) {engine : Engine σ}
    (hnext : (runStep world usualDelay step context engine).1 = .ok next) : next.Proper := by
  rcases runStep_cases world usualDelay step context engine with ⟨fault, hf⟩ | hsame | ⟨call, hcall⟩
  · rw [hf] at hnext
    cases hnext
  · rw [hsame] at hnext
    cases hnext
    exact h
  · rw [hcall] at hnext
    exact World.proper_perform call h _ hnext

theorem proper_runSteps (steps : List Step) (state : RunState) (h : state.context.Proper) (engine : Engine σ) :
    let final := runSteps world usualDelay steps state engine
    final.1.context.Proper ∧ ∀ step context, Event.after step context ∈ final.2.2 → context.Proper := by
  induction steps generalizing state engine with
  | nil => exact ⟨h, fun _ _ hmem => by cases hmem⟩
  | cons step steps ih =>
    have hquiet : ∀ other next, Event.after other next ∉
        (runStep world usualDelay step state.context engine).2.2 := fun _ _ => after_not_mem_runStep
    rcases hs : runStep world usualDelay step state.context engine with ⟨fault | next, engine', events⟩
    · rw [hs] at hquiet
      rw [runSteps_error hs]
      refine ⟨h, fun other context hmem => ?_⟩
      rcases List.mem_append.1 hmem with hmem | hmem
      · exact absurd hmem (hquiet _ _)
      · simp at hmem
    · rw [hs] at hquiet
      have hnext : next.Proper := proper_runStep h (by rw [hs])
      obtain ⟨hlast, hrest⟩ := ih (state.advance.proceed next) hnext engine'
      rw [runSteps_ok hs]
      refine ⟨hlast, fun other context hmem => ?_⟩
      rcases List.mem_append.1 hmem with hmem | hmem
      · exact absurd hmem (hquiet _ _)
      · rcases List.mem_cons.1 hmem with heq | hmem
        · cases heq
          exact hnext
        · exact hrest other context hmem

/-- The contexts that a run holds: the one it begins with, the one after each step, and the one it ends with. -/
def heldContexts (start : Context) (outcome : Except Fault RunState × Engine σ × List Event) : List Context :=
  start :: (outcome.2.2.filterMap Event.after?).map (·.2) ++ outcome.1.toOption.toList.map (·.context)

theorem mem_heldContexts {start context : Context} {outcome : Except Fault RunState × Engine σ × List Event} :
    context ∈ heldContexts start outcome ↔ context = start ∨
      (∃ step, Event.after step context ∈ outcome.2.2) ∨
        ∃ state, outcome.1 = .ok state ∧ state.context = context := by
  obtain ⟨result, engine, events⟩ := outcome
  have hafter : ∀ step context event, Event.after? event = some (step, context) ↔ event = .after step context := by
    intro step context event
    cases event <;> simp [Event.after?]
  have hresult : ∀ state, result.toOption = some state ↔ result = .ok state := by
    intro state
    cases result <;> simp [Except.toOption]
  simp [heldContexts, hafter, hresult]

/-- Every context that a run holds is a text or a structured value that is no text, and a structured context
of an exact value is read back from its indented and from its compact text. -/
theorem held_contexts_read_back (world : World σ) (usualDelay : Int) (raw input : Value) (engine : Engine σ) :
    (∀ context ∈ heldContexts (.ofValue input) (run world usualDelay raw input engine), context.Proper) ∧
      ∀ v, isExact v = true → (Context.structured v).Proper →
        Context.ofBody (Context.structured v).asText = .structured v ∧
          Context.ofBody (Context.structured v).asInlineText = .structured v := by
  constructor
  · intro context hmem
    have hstart : (Context.ofValue input).Proper := Context.proper_ofValue input
    rw [mem_heldContexts] at hmem
    rcases hread : (Step.read raw).1 with fault | steps
    · have hrun : run world usualDelay raw input engine =
          (.error fault, engine, (Step.read raw).2.map .notice) := by simp only [run, hread]
      rw [hrun] at hmem
      rcases hmem with rfl | ⟨step, hmem⟩ | ⟨state, hstate, -⟩
      · exact hstart
      · simp at hmem
      · cases hstate
    · obtain ⟨notices, hrun⟩ := run_of_read world usualDelay input engine hread
      obtain ⟨hlast, hafter⟩ := proper_runSteps steps (.start steps (.ofValue input)) hstart engine
      rw [hrun] at hmem
      rcases hmem with rfl | ⟨step, hmem⟩ | ⟨state, hstate, rfl⟩
      · exact hstart
      · rcases List.mem_append.1 hmem with hmem | hmem
        · simp at hmem
        · exact hafter step context hmem
      · cases hstate
        exact hlast
  · intro v hexact hproper
    exact ⟨Context.ofBody_render_of_proper Layout.readable_pretty hexact hproper,
      Context.ofBody_render_of_proper Layout.readable_compact hexact hproper⟩

end

/-- Nested lists and objects, empty ones among them, and a text that looks like JSON. -/
def nestedValue : Value :=
  .object [("é", .list [.null, .int (-30), .text "[1, \"a\"]\n", .list []]), ("", .object [("b", .object [])])]

/-- Collaborators of which the sandbox gives the nested value. -/
def nestedEngine : Engine Script where
  rotation := ⟨1, ⟨0, Nat.one_pos⟩⟩
  outside := ⟨[{ fragments := [.text "ok"] }], { echo := true }, [], [.gives nestedValue]⟩

theorem nested_context_reads_back :
    let held := heldContexts (.ofValue .null)
      (run Script.world 5 (.list [.object [("type", .text "code"), ("code", .text "nested")]]) .null nestedEngine)
    .structured nestedValue ∈ held ∧ (Context.structured nestedValue).Proper ∧ isExact nestedValue = true ∧
      Context.ofBody (Context.structured nestedValue).asText = .structured nestedValue ∧
      Context.ofBody (Context.structured nestedValue).asInlineText = .structured nestedValue := by
  intro held
  have hmem : .structured nestedValue ∈ held := by decide +kernel
  have hexact : isExact nestedValue = true := by decide
  obtain ⟨hheld, hread⟩ := held_contexts_read_back Script.world 5
    (.list [.object [("type", .text "code"), ("code", .text "nested")]]) .null nestedEngine
  exact ⟨hmem, hheld _ hmem, hexact, hread nestedValue hexact (hheld _ hmem)⟩

end Workflows
