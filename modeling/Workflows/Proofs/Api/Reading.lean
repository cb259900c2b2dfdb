/-
Reading what is stored, by request. Every row is loaded with steps that the form of an answer can take, so that the
list and each workflow are shown, if all numbers in them are finite, and are internal errors if not. Requests that
bring only finite numbers leave none of any other kind in the table; but a request may bring others, and then the
list fails for all.
-/
import Workflows.Proofs.Api.Running

namespace Workflows

open Workflows.Json

/-! ## Finite values -/

namespace Value

mutual

/-- All numbers in a value are finite, those in the names of a table included. -/
def isFinite : Value → Bool
  | .null | .bool _ | .int _ | .text _ => true
  | .float x => x.isFinite
  | .list items => finiteItems items
  | .object members => finiteMembers members
  | .table entries => finiteEntries entries

def finiteItems : List Value → Bool
  | [] => true
  | v :: vs => isFinite v && finiteItems vs

def finiteMembers : List (String × Value) → Bool
  | [] => true
  | (_, v) :: rest => isFinite v && finiteMembers rest

def finiteEntries : List (Value × Value) → Bool
  | [] => true
  | (name, v) :: rest => isFinite name && isFinite v && finiteEntries rest

end

theorem finiteItems_iff : ∀ {items : List Value}, finiteItems items = true ↔ ∀ v ∈ items, isFinite v = true
  | [] => by simp [finiteItems]
  | v :: vs => by simp [finiteItems, finiteItems_iff]

theorem finiteMembers_iff : ∀ {members : Object}, finiteMembers members = true ↔ ∀ m ∈ members, isFinite m.2 = true
  | [] => by simp [finiteMembers]
  | (key, v) :: rest => by
    rw [finiteMembers, Bool.and_eq_true, finiteMembers_iff, List.forall_mem_cons]

theorem finiteEntries_iff : ∀ {entries : List (Value × Value)}, finiteEntries entries = true ↔
    ∀ e ∈ entries, isFinite e.1 = true ∧ isFinite e.2 = true
  | [] => by simp [finiteEntries]
  | (name, v) :: rest => by
    rw [finiteEntries, Bool.and_eq_true, Bool.and_eq_true, finiteEntries_iff, List.forall_mem_cons]

/-- A value that can be written and whose numbers are finite. -/
def Plain (v : Value) : Prop := isWritable v = true ∧ v.isFinite = true

theorem throughout_plain : Throughout Plain where
  null := ⟨rfl, rfl⟩
  text _ := ⟨rfl, rfl⟩
  int n h := ⟨hereditary_writable.int n h, rfl⟩
  list := by
    simp only [Plain, isWritable, isFinite, writableItems_iff, finiteItems_iff]
    exact ⟨fun h v hv => ⟨h.1 v hv, h.2 v hv⟩, fun h => ⟨fun v hv => (h v hv).1, fun v hv => (h v hv).2⟩⟩
  object := by
    intro members
    simp only [Plain, isWritable, isFinite, writableMembers_iff, finiteMembers_iff]
    constructor
    · exact fun h => ⟨h.1.1, fun m hm => ⟨h.1.2 m hm, h.2 m hm⟩⟩
    · exact fun h => ⟨⟨h.1, fun m hm => (h.2 m hm).1⟩, fun m hm => (h.2 m hm).2⟩
  entries h e he := by
    simp only [Plain, isWritable, isFinite, writableEntries_iff, finiteEntries_iff] at h
    exact ⟨⟨(h.1 e he).1, (h.2 e he).1⟩, (h.1 e he).2, (h.2 e he).2⟩
  tables entries h := by
    simp only [Plain, isWritable, isFinite, writableEntries_iff, finiteEntries_iff]
    exact ⟨fun e he => ⟨(h e he).1.1, (h e he).2.1⟩, fun e he => ⟨(h e he).1.2, (h e he).2.2⟩⟩

end Value

namespace Api

theorem itemsRenderable_iff : ∀ {items : List Value}, itemsRenderable items = true ↔ ∀ v ∈ items, isRenderable v = true
  | [] => by simp [itemsRenderable]
  | v :: vs => by simp [itemsRenderable, itemsRenderable_iff]

mutual

/-- JSON can hold a value whose numbers are finite. -/
theorem renderable_of_finite : ∀ {v : Value}, v.isFinite = true → isRenderable v = true
  | .null, _ | .bool _, _ | .int _, _ | .text _, _ => by simp [isRenderable]
  | .float x, h => by simpa only [Value.isFinite, isRenderable] using h
  | .list items, h => by
    rw [Value.isFinite] at h
    rw [isRenderable]
    exact itemsRenderable_of_finite h
  | .object members, h => by
    rw [Value.isFinite] at h
    rw [isRenderable]
    exact membersRenderable_of_finite h
  | .table entries, h => by
    rw [Value.isFinite] at h
    rw [isRenderable]
    exact entriesRenderable_of_finite h

theorem itemsRenderable_of_finite : ∀ {items : List Value}, Value.finiteItems items = true → itemsRenderable items = true
  | [], _ => rfl
  | v :: vs, h => by
    rw [Value.finiteItems, Bool.and_eq_true] at h
    rw [itemsRenderable, renderable_of_finite h.1, itemsRenderable_of_finite h.2, Bool.true_and]

theorem membersRenderable_of_finite : ∀ {members : Object}, Value.finiteMembers members = true →
    membersRenderable members = true
  | [], _ => rfl
  | (key, v) :: rest, h => by
    rw [Value.finiteMembers, Bool.and_eq_true] at h
    rw [membersRenderable, renderable_of_finite h.1, membersRenderable_of_finite h.2, Bool.true_and]

theorem entriesRenderable_of_finite : ∀ {entries : List (Value × Value)}, Value.finiteEntries entries = true →
    entriesRenderable entries = true
  | [], _ => rfl
  | (name, v) :: rest, h => by
    rw [Value.finiteEntries, Bool.and_eq_true, Bool.and_eq_true] at h
    rw [entriesRenderable, renderable_of_finite h.1.2, entriesRenderable_of_finite h.2, Bool.true_and]

end

end Api

/-! ## Tables that can be shown -/

variable {P : Value → Prop}

namespace Table

/-- The rows are in order, and each is loaded with steps in canonical form whose values have a property. -/
structure Shown (P : Value → Prop) (table : Table) : Prop where
  sound : table.Sound
  steps : ∀ row ∈ table.rows, ∃ steps, (StepList.decode row.steps).1 = .ok steps ∧
    ∀ step ∈ steps, step.Canonical ∧ P step.toValue

theorem shown_empty : Shown P {} where
  sound := sound_empty
  steps := by simp

variable {table after : Table}

theorem Shown.saveSteps (shown : table.Shown P) (hered : Value.Hereditary P) {name description : Value}
    {steps : List Step} {id : Int} (hne : steps ≠ []) (hwritable : ∀ step ∈ steps, isWritable step.toValue = true)
    (hsteps : ∀ step ∈ steps, P step.toValue) (h : table.saveSteps name description steps = .ok (id, after)) :
    after.Shown P := by
  obtain ⟨nameText, descriptionText, kept, rfl, hdecode, hkept⟩ := saveSteps_eq_ok hne hwritable h
  refine ⟨sound_insert shown.sound hdecode, ?_⟩
  refine List.forall_mem_append.2 ⟨shown.steps, List.forall_mem_singleton.2 ⟨kept, hdecode, fun step hstep => ?_⟩⟩
  refine ⟨(Step.canonical_readEntries hkept).2 step hstep, ?_⟩
  exact hered.readEntries (hered.publishedItems (List.forall_mem_map.2 hsteps)) hkept step hstep

theorem Shown.delete (shown : table.Shown P) {id : Value} {found : Bool} (h : table.delete id = .ok (found, after)) :
    after.Shown P := by
  rcases delete_eq_ok h with rfl | ⟨key, rfl⟩
  · exact shown
  · exact ⟨sound_without shown.sound, fun row hrow => shown.steps row (List.mem_of_mem_filter hrow)⟩

theorem invariant_shown (hered : Value.Hereditary P) (hwritable : ∀ {v}, P v → isWritable v = true) :
    Invariant P (Shown P) where
  save shown hne hsteps hsave := shown.saveSteps hered hne (fun step hstep => hwritable (hsteps step hstep)) hsteps hsave
  delete shown hdelete := shown.delete hdelete

theorem id_of_shelf {workflow : Workflow} {id : Int} (h : table.shelf id = some workflow) : workflow.id = id := by
  obtain ⟨row, hrow, hload⟩ := Option.bind_eq_some_iff.1 h
  rw [Row.id_of_load (Row.loaded_eq_some.1 hload)]
  exact (mem_of_row hrow).2

/-- What the map of the table has under an id was loaded with such steps. -/
theorem Shown.steps_of_shelf (shown : table.Shown P) {workflow : Workflow} {id : Int}
    (h : table.shelf id = some workflow) : ∀ step ∈ workflow.steps, step.Canonical ∧ P step.toValue := by
  obtain ⟨row, hrow, hload⟩ := Option.bind_eq_some_iff.1 h
  obtain ⟨steps, hdecode, hsteps⟩ := shown.steps row (mem_of_row hrow).1
  rw [Row.loaded_eq_some, Row.load_of_decode hdecode] at hload
  cases hload
  exact hsteps

end Table

/-! ## Answers -/

namespace Api

/-- Workflows whose steps are in canonical form are shown, unless a number of theirs is not finite. -/
theorem showWorkflows_of_canonical {workflows : List Workflow} (whole : Value)
    (h : ∀ workflow ∈ workflows, ∀ step ∈ workflow.steps, step.Canonical) :
    showWorkflows workflows whole = respond 200 whole := by
  have hnames : (workflows.all fun workflow => hasTextNames workflow.steps) = true := by
    simp only [hasTextNames, List.all_eq_true]
    intro workflow hworkflow step hstep
    obtain ⟨name, -, hname⟩ := (h workflow hworkflow step hstep).name
    rw [hname]
    rfl
  rw [showWorkflows, if_pos hnames]

/-- JSON can hold a workflow exactly if it can hold its steps. -/
theorem renderable_workflow (workflow : Workflow) :
    isRenderable workflow.toValue = true ↔ ∀ step ∈ workflow.steps, isRenderable step.toValue = true := by
  simp only [Workflow.toValue, isRenderable, membersRenderable, Bool.true_and, Bool.and_true, itemsRenderable_iff,
    List.forall_mem_map]

theorem upper_get : Text.upper "GET" = "GET" := by decide +kernel

section

variable {σ : Type} (world : World σ) {service : Service σ}

/-- The list is asked for at its path, whatever the request brings beside. -/
theorem serve_list (body : String) : service.serve world ⟨"GET", "/workflows", body⟩ = service.list := by
  have hpath : "/workflows" = String.ofList (Url.joined ["workflows".toList]) := by decide
  have hfound : ∃ url, address (String.ofList (Url.joined ["workflows".toList])) = .ok url ∧
      route "GET" url = .found .list :=
    route_joined (List.forall_mem_singleton.2 (by decide)) (by decide) rfl
  obtain ⟨url, haddress, hroute⟩ := hpath ▸ hfound
  simp only [Service.serve, haddress, upper_get, hroute, Service.serveRoute]

/-- A workflow is asked for below its id. -/
theorem serve_detail {id : Int} (hid : Column.holdsInt id = true) (body : String) :
    service.serve world ⟨"GET", "/workflows/" ++ toString id, body⟩ = service.detail id := by
  have hfound : ∃ url, address ("/workflows/" ++ toString id ++ String.ofList (Url.joined [])) = .ok url ∧
      route "GET" url = .found (.detail (toString id)) :=
    route_workflow hid (by simp) (by decide) fun text htext => by
      simp only [routesAt, List.map_nil, if_neg htext]
      split <;> split <;> rfl
  have hpath : "/workflows/" ++ toString id ++ String.ofList (Url.joined []) = "/workflows/" ++ toString id :=
    String.append_empty
  obtain ⟨url, haddress, hroute⟩ := hpath ▸ hfound
  simp only [Service.serve, haddress, upper_get, hroute, Service.serveRoute, checkId_toString hid, Service.checked]

variable {table : Table} (htable : service.table = some table) (shown : table.Shown P)

include htable shown

/-- The list shows all workflows of the map, each once. -/
theorem list_answers {workflows : List Workflow} (hlist : table.list.1 = .ok workflows)
    (hshelf : ∀ workflow ∈ workflows, table.shelf workflow.id = some workflow) :
    service.list.1 = if ∀ workflow ∈ workflows, isRenderable workflow.toValue = true then
      .json 200 (.list (workflows.map fun workflow => published workflow.toValue)) else .internalError := by
  have hcanonical : ∀ workflow ∈ workflows, ∀ step ∈ workflow.steps, step.Canonical := fun workflow hworkflow step hstep =>
    (shown.steps_of_shelf (hshelf workflow hworkflow) step hstep).1
  simp only [Service.list, Service.withTable, htable, hlist, showWorkflows_of_canonical _ hcanonical, respond,
    isRenderable, itemsRenderable_iff, List.forall_mem_map, published, publishedItems_eq_map, List.map_map]
  rfl

/-- A workflow of the map is shown under its id. -/
theorem detail_answers {workflow : Workflow} {id : Int} (hid : Column.holdsInt id = true)
    (hshelf : table.shelf id = some workflow) :
    (service.detail id).1 = if isRenderable workflow.toValue = true then .json 200 (published workflow.toValue)
      else .internalError := by
  have hcanonical : ∀ workflow' ∈ [workflow], ∀ step ∈ workflow'.steps, step.Canonical :=
    List.forall_mem_singleton.2 fun step hstep => (shown.steps_of_shelf hshelf step hstep).1
  have hget : (table.get (.int id)).1 = .ok (some workflow) := by rw [Table.get_int shown.sound hid, hshelf]
  simp only [Service.detail, Service.withTable, htable, hget, showWorkflows_of_canonical _ hcanonical, respond]

end

theorem brings_plain {text : String} (h : Brings (Value.isFinite · = true) text) : Brings Value.Plain text where
  body body hbody := by
    have hwritable := Body.writable_read hbody
    have hfinite := h.body body hbody
    cases body with
    | absent => trivial
    | value v => exact ⟨hwritable, hfinite⟩
  written members s exported hbody htext hextract :=
    ⟨writable_extract hextract, h.written members s exported hbody htext hextract⟩

end Api

open Api

/-- The value of the body of the request to save a workflow of two steps. -/
def greetingBody : Object :=
  [("name", .text "Greeting"), ("steps", .list [.object [("type", .text "trigger")],
    .object [("type", .text "llm"), ("prompt", .text "Hi")]])]

theorem brings_greeting : Brings (Value.isFinite · = true) greetingRequest.body := by
  have hread : Body.read (Text.utf8 greetingRequest.body.toList) = .ok (.value (.object greetingBody)) := by
    decide +kernel
  constructor
  · intro body hbody
    cases hread.symm.trans hbody
    exact (by decide : Value.isFinite (.object greetingBody) = true)
  · intro members s exported hbody htext
    cases hread.symm.trans hbody
    cases htext

/-- A request to save a workflow that waits for no number of seconds. -/
def endlessRequest : Incoming where
  method := "POST"
  path := "/workflows"
  body := "\x7b\"name\": \"n\", \"steps\": [\x7b\"type\": \"delay\", \"seconds\": NaN\x7d]\x7d"

end Workflows
