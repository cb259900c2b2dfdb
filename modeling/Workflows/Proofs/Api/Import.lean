/-
Imports that are saved. The answer to an import shows the steps that its graph was turned into; if it was
saved, the workflow that is loaded under the id of the answer has exactly these.
-/
import Workflows.Api.Service
import Workflows.Proofs.Graph.Canonical

namespace Workflows

open Workflows.Json

namespace Api

/-- The export that a request to import brings. -/
def ImportRequest.exported? (request : ImportRequest) : Option Object :=
  match request.source with
  | .workflow exported => some exported
  | .text text => (Import.extract text).1.toOption.join

section

variable {σ : Type}

/-- What was saved is loaded, under the id that the answer gives, with the steps that the answer shows. -/
def ShowsSaved (served : Served σ) : Prop :=
  ∀ status answer id, served.1 = .json status (.object answer) → Object.getOrNull answer "workflow_id" = .int id →
    ∃ table workflow, served.2.1.table = some table ∧ (table.get (.int id)).1 = .ok (some workflow) ∧
      Object.getOrNull answer "steps" = .list (workflow.steps.map Step.toValue)

variable {service : Service σ} {table : Table} {imported : Import.Imported} {conversion : Conversion}

theorem showsSaved_of_no_id {served : Served σ}
    (h : ∀ status answer, served.1 = .json status (.object answer) →
      Object.getOrNull answer "workflow_id" = .null) : ShowsSaved served := fun status answer id hanswer hid => by
  rw [h status answer hanswer] at hid
  cases hid

/-- The members of the answer to an import that tell where it was saved and what. -/
theorem importAnswer_members {configured : String → Bool} {id : Option Int} {status : Nat} {answer : Object}
    (h : importAnswer configured imported conversion id = .json status (.object answer)) :
    Object.getOrNull answer "workflow_id" = (id.map Value.int).getD .null ∧
      Object.getOrNull answer "steps" = published (.list (conversion.steps.map Step.toValue)) := by
  unfold importAnswer respond at h
  dsimp only at h
  split at h
  · cases h
    refine ⟨?_, rfl⟩
    cases id <;> rfl
  · cases h

/-- Whatever is imported and saved is shown as it is loaded, if its steps read back from their text. -/
theorem showsSaved_importExport (htable : service.table = some table)
    (hroom : Column.holdsInt (table.highest + 1) = true) {exported : Object} {save : Bool} {notices : List Notice}
    (himport : Import.importExport (.object exported) = .ok imported)
    (hsteps : imported.toSteps service.settings.usualDelay = .ok conversion)
    (hdecode : (StepList.decode (StepList.encode conversion.steps)).1 = .ok conversion.steps)
    (hexact : exactItems (conversion.steps.map Step.toValue) = true) :
    ShowsSaved (service.importExport exported save notices) := by
  simp only [Service.importExport, himport, hsteps]
  split
  · simp only [Service.withTable, htable]
    cases hsave : table.saveSteps imported.name (.text "Imported from n8n") conversion.steps with
    | error fault => exact showsSaved_of_no_id fun status answer h => by cases h
    | ok saved =>
      obtain ⟨saved, after⟩ := saved
      obtain ⟨name, description, text, -, -, htext, hinsert⟩ := Table.insertRaw_eq_ok hsave
      obtain rfl : StepList.encode conversion.steps = text := by cases htext; rfl
      obtain ⟨rfl, rfl⟩ := Prod.mk.inj hinsert
      intro status answer id hanswer hid
      obtain ⟨hshown, hlist⟩ := importAnswer_members hanswer
      obtain rfl : table.highest + 1 = id := by
        rw [hid] at hshown
        exact (Value.int.inj hshown).symm
      refine ⟨_, _, rfl, Table.get_insert hroom hdecode, ?_⟩
      rw [hlist, published_of_exact (by rwa [isExact])]
  · exact showsSaved_of_no_id fun status answer h => (importAnswer_members h).1

end

end Api

open Api

/-- The steps of a graph of plain nodes are of the kinds of their nodes, with what these kinds need, and each
is read from its own value at every place. If the parameters of the nodes are exact, so that their text writes
them, the steps are read from their text, and those that an import has saved are loaded as its answer shows
them. -/
theorem converted_steps_are_canonical {usualDelay : Int} {graph : Graph} (plain : ∀ node ∈ graph.nodes, node.Plain)
    {conversion : Conversion} (h : graph.toSteps usualDelay = .ok conversion) :
    List.Forall₂ Node.Becomes graph.orderedNodes conversion.steps ∧
      (∀ step ∈ conversion.steps, ∀ position, (Step.ofValue step.toValue position).1 = some step) ∧
      (isExact (.int usualDelay) = true → (∀ node ∈ graph.nodes, isExact node.parameters = true) →
        (StepList.decode (StepList.encode conversion.steps)).1 = .ok conversion.steps ∧
        ∀ {σ : Type} (service : Service σ) (table : Table) (request : ImportRequest) (exported : Object)
          (imported : Import.Imported), service.settings.usualDelay = usualDelay → service.table = some table →
          Column.holdsInt (table.highest + 1) = true → request.exported? = some exported →
          Import.importExport (.object exported) = .ok imported → imported.graph = graph →
          ShowsSaved (service.importRequest request)) := by
  have hcanonical := Graph.canonical_toSteps plain h
  refine ⟨Graph.nodes_become_steps plain h, fun step hstep => Step.ofValue_toValue (hcanonical step hstep),
    fun husual hparameters => ?_⟩
  have hexact := Graph.exact_toSteps plain h husual hparameters
  have hdecode := StepList.decode_encode_of_canonical hcanonical hexact
  refine ⟨hdecode, fun service table request exported imported hsettings htable hroom hexported himport hgraph => ?_⟩
  have hsteps : imported.toSteps service.settings.usualDelay =
      .ok { conversion with warnings := imported.warnings ++ conversion.warnings } := by
    rw [Import.Imported.toSteps, hgraph, hsettings, h]
    rfl
  obtain ⟨source, save⟩ := request
  cases source with
  | workflow given =>
    cases hexported
    exact showsSaved_importExport htable hroom himport hsteps hdecode hexact
  | text text =>
    have hfound : (Import.extract text).1 = .ok (some exported) := by
      cases h : (Import.extract text).1 with
      | error fault => simp [ImportRequest.exported?, h, Except.toOption] at hexported
      | ok found => simpa [ImportRequest.exported?, h, Except.toOption] using hexported
    simp only [Service.importRequest, hfound]
    exact showsSaved_importExport htable hroom himport hsteps hdecode hexact

/-- A node whose prompt is a zero, one that waits, and one that sends a number as a header. -/
def oddNodes : List Node := [
  ⟨"1", "n8n-nodes-base.openAi", .text "Ask", .object [("prompt", .int 0)], Node.origin, false, .llm⟩,
  ⟨"2", "n8n-nodes-base.wait", .text "Pause", .object [("amount", .text "2"), ("unit", .text "minutes")],
    Node.origin, false, .delay⟩,
  ⟨"3", "n8n-nodes-base.httpRequest", .text "Send", .object [("url", .text "https://example.test"),
    ("headerParameters", .object [("parameters", .list [.object [("name", .text "X-Run"), ("value", .int 7)]])])],
    Node.origin, false, .http⟩]

def oddGraph : Graph := { name := .text "Odd", nodes := oddNodes }

/-- An export of these nodes. -/
def oddExport : Object :=
  [("name", .text "Odd"), ("nodes", .list (oddNodes.map fun node => .object [("name", node.displayName),
    ("type", .text node.declaredType), ("parameters", node.parameters), ("position", .list [.int 0, .int 0])]))]

/-- What the graph is turned into. -/
def oddSteps : Conversion where
  steps := [⟨"1", "llm", .text "Ask", [("prompt", .text "Default prompt")]⟩,
    ⟨"2", "delay", .text "Pause", [("seconds", .int 120)]⟩,
    ⟨"3", "http_request", .text "Send", [("url", .text "https://example.test"), ("method", .text "GET"),
      ("headers", .object [("X-Run", .int 7)])]⟩]
  warnings := []
  needsConfiguration := []

/-- A service with an empty table. -/
def freshService : Service Unit where
  table := some {}
  engine := ⟨⟨1, 0⟩, ()⟩
  settings := {}
  configured _ := false

theorem odd_steps_are_canonical :
    (∀ node ∈ oddGraph.nodes, node.Plain) ∧ oddGraph.toSteps 5 = .ok oddSteps ∧ isExact (.int 5) = true ∧
      (∀ node ∈ oddGraph.nodes, isExact node.parameters = true) ∧
      List.Forall₂ Node.Becomes oddGraph.orderedNodes oddSteps.steps ∧
      (∀ step ∈ oddSteps.steps, ∀ position, (Step.ofValue step.toValue position).1 = some step) ∧
      (StepList.decode (StepList.encode oddSteps.steps)).1 = .ok oddSteps.steps ∧
      ShowsSaved (freshService.importRequest ⟨.workflow oddExport, true⟩) ∧
      ∃ answer, (freshService.importRequest ⟨.workflow oddExport, true⟩).1 = .json 200 (.object answer) ∧
        Object.getOrNull answer "workflow_id" = .int 1 := by
  have hplain : ∀ node ∈ oddGraph.nodes, node.Plain := by decide +kernel
  have horder : oddGraph.order = ["1", "2", "3"] := by cbv
  have hedges : oddGraph.backEdges = [] := by cbv
  have hsteps : oddGraph.toSteps 5 = .ok oddSteps := by
    simp only [Graph.toSteps, Graph.orderedNodes, Graph.cycleWarnings, horder, hedges]
    decide +kernel
  have hexact : ∀ node ∈ oddGraph.nodes, isExact node.parameters = true := by decide +kernel
  have himport : Import.importExport (.object oddExport) = .ok ⟨.text "Odd", oddGraph,
      [("Ask", "1"), ("Pause", "2"), ("Send", "3")], [], []⟩ := by decide +kernel
  obtain ⟨hbecome, hread, hstored⟩ := converted_steps_are_canonical hplain hsteps
  obtain ⟨hdecode, hshown⟩ := hstored (by decide) hexact
  refine ⟨hplain, hsteps, by decide, hexact, hbecome, hread, hdecode,
    hshown freshService {} _ oddExport _ rfl rfl (by decide) rfl himport rfl, ?_⟩
  have himported : Import.Imported.toSteps freshService.settings.usualDelay ⟨.text "Odd", oddGraph,
      [("Ask", "1"), ("Pause", "2"), ("Send", "3")], [], []⟩ = .ok oddSteps := by
    rw [Import.Imported.toSteps, show freshService.settings.usualDelay = 5 from rfl, hsteps]
    rfl
  simp only [Service.importRequest, Service.importExport, himport, himported]
  exact ⟨_, rfl, rfl⟩

end Workflows
