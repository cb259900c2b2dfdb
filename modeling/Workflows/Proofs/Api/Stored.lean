/-
What requests keep of the table of workflows. Whatever holds of all values that the requests bring holds of all
steps that they save, given or imported; so an invariant of the table that saving such steps and deleting keep is
kept by every request. One is that each workflow that is stored has steps: what a request saves was read from
JSON, so that it can be written and is read again; and it has a step, because neither way saves a workflow
without one.
-/
import Workflows.Api.Service
import Workflows.Proofs.Import.Nodes
import Workflows.Proofs.Number.Lenient
import Workflows.Proofs.Store.Map

namespace Workflows

open Workflows.Json

/-! ## Stored steps -/

/-- A published step is usable. -/
theorem Step.usable_published (step : Step) : Step.usable (published step.toValue) = true := rfl

/-- Steps that can be written, of which there is one, are read from their text as their published values are. -/
theorem StepList.decode_encode_published {steps : List Step} (hne : steps ≠ [])
    (hwritable : ∀ step ∈ steps, isWritable step.toValue = true) :
    ∃ kept, (decode (encode steps)).1 = .ok kept ∧
      (Step.readEntries (publishedItems (steps.map Step.toValue))).1 = .ok kept := by
  obtain ⟨step, hstep⟩ := List.exists_mem_of_ne_nil steps hne
  have hmem : published step.toValue ∈ publishedItems (steps.map Step.toValue) := by
    rw [publishedItems_eq_map]
    exact List.mem_map_of_mem (List.mem_map_of_mem hstep)
  -- a published step is an entry of a step, so that the reader does not come out empty
  obtain ⟨kept, hkept⟩ := Step.readEntries_of_usable ⟨_, hmem, step.usable_published⟩
  refine ⟨kept, ?_, hkept⟩
  rw [encode, decode_writable (writableItems_iff.2 (List.forall_mem_map.2 hwritable))]
  simp only [ofEntries, hkept]
  rfl

namespace Table

/-- Each row is loaded with a step. -/
def Stocked (table : Table) : Prop := ∀ row ∈ table.rows, ∃ steps, (StepList.decode row.steps).1 = .ok steps ∧ steps ≠ []

variable {table after : Table}

/-- Steps that can be written, of which there is one, are saved as a row that is loaded with what their published
values are read as. -/
theorem saveSteps_eq_ok {name description : Value} {steps : List Step} {id : Int} (hne : steps ≠ [])
    (hwritable : ∀ step ∈ steps, isWritable step.toValue = true)
    (h : table.saveSteps name description steps = .ok (id, after)) :
    ∃ nameText descriptionText kept, after = (table.insert nameText descriptionText (StepList.encode steps)).2 ∧
      (StepList.decode (StepList.encode steps)).1 = .ok kept ∧
      (Step.readEntries (publishedItems (steps.map Step.toValue))).1 = .ok kept := by
  obtain ⟨nameText, descriptionText, text, -, -, htext, hinsert⟩ := insertRaw_eq_ok h
  obtain rfl : StepList.encode steps = text := by
    cases htext
    rfl
  obtain ⟨-, rfl⟩ := Prod.mk.inj hinsert
  obtain ⟨kept, hdecode, hkept⟩ := StepList.decode_encode_published hne hwritable
  exact ⟨nameText, descriptionText, kept, rfl, hdecode, hkept⟩

/-- Deleting leaves the table as it is, or takes the row of an id out of it. -/
theorem delete_eq_ok {id : Value} {found : Bool} (h : table.delete id = .ok (found, after)) :
    after = table ∨ ∃ key, after = table.without key := by
  obtain ⟨row?, hfind, h⟩ := map_eq_ok.1 h
  cases row? with
  | none =>
    cases h
    exact .inl rfl
  | some row =>
    cases h
    exact .inr ⟨row.id, rfl⟩

theorem Stocked.saveSteps (stocked : table.Stocked) {name description : Value} {steps : List Step} {id : Int}
    (hne : steps ≠ []) (hwritable : ∀ step ∈ steps, isWritable step.toValue = true)
    (h : table.saveSteps name description steps = .ok (id, after)) : after.Stocked := by
  obtain ⟨nameText, descriptionText, kept, rfl, hdecode, hkept⟩ := saveSteps_eq_ok hne hwritable h
  refine List.forall_mem_append.2 ⟨stocked, List.forall_mem_singleton.2 ⟨kept, hdecode, ?_⟩⟩
  exact (Step.canonical_readEntries hkept).1

theorem Stocked.delete (stocked : table.Stocked) {id : Value} {found : Bool} (h : table.delete id = .ok (found, after)) :
    after.Stocked := by
  rcases delete_eq_ok h with rfl | ⟨key, rfl⟩
  · exact stocked
  · exact fun row hrow => stocked row (List.mem_of_mem_filter hrow)

end Table

/-! ## Invariants of the table -/

/-- A property of values that is handed down and up through all of them, tables included. -/
structure Value.Throughout (P : Value → Prop) : Prop extends Value.Hereditary P where
  tables : Node.Tables P

theorem Value.throughout_writable : Value.Throughout (isWritable · = true) where
  toHereditary := Value.hereditary_writable
  tables entries h := by
    beta_reduce
    rw [isWritable]
    exact writableEntries_iff.2 h

/-- An invariant of the table: saving steps, of which there is one and whose values have a property, keeps it, and
so does deleting. -/
structure Table.Invariant (P : Value → Prop) (I : Table → Prop) : Prop where
  save : ∀ {table after name description steps id}, I table → steps ≠ [] → (∀ step ∈ steps, P step.toValue) →
    table.saveSteps name description steps = .ok (id, after) → I after
  delete : ∀ {table after id found}, I table → table.delete id = .ok (found, after) → I after

theorem Table.invariant_stocked : Table.Invariant (isWritable · = true) Table.Stocked where
  save stocked hne hwritable hsave := stocked.saveSteps hne hwritable hsave
  delete stocked hdelete := stocked.delete hdelete

namespace Api

/-! ## What requests bring -/

section

variable {P : Value → Prop}

/-- What is in a body has a property. -/
def Body.Holds (P : Value → Prop) : Body → Prop
  | .absent => True
  | .value v => P v

/-- What a request brings has a property: the value of its body, and the export that is written in a text of it. -/
structure Brings (P : Value → Prop) (text : String) : Prop where
  body : ∀ body, Body.read (Text.utf8 text.toList) = .ok body → body.Holds P
  written : ∀ members s exported, Body.read (Text.utf8 text.toList) = .ok (.value (.object members)) →
    Object.getOrNull members "text" = .text s → (Import.extract s).1 = .ok (some exported) → P (.object exported)

theorem Body.writable_read {octets : List Nat} {body : Body} (h : Body.read octets = .ok body) :
    body.Holds (isWritable · = true) := by
  unfold Body.read at h
  split at h
  · cases h
    trivial
  · split at h
    · cases h
    · split at h
      · next hread =>
        cases h
        exact Json.writable_read hread
      · cases h
      · cases h

theorem writable_extract {text : String} {exported : Object} (h : (Import.extract text).1 = .ok (some exported)) :
    isWritable (.object exported) = true := by
  unfold Import.extract at h
  split at h
  · cases h
  · split at h
    · next v hread =>
      cases v with
      | object members =>
        cases h
        exact Json.writable_read hread
      | _ => cases h
    · cases h
    · cases h

/-- Whatever a request brings can be written, because it was read. -/
theorem brings_writable (text : String) : Brings (isWritable · = true) text where
  body _ hbody := Body.writable_read hbody
  written _ _ _ _ _ hextract := writable_extract hextract

theorem Body.members_eq_ok {body : Body} {members : Object} (h : body.members = .ok members) :
    body = .value (.object members) := by
  unfold Body.members at h
  split at h
  · cases h
  · cases h
    rfl
  · cases h

theorem Checked.both_eq_ok {α β : Type} {a : Checked α} {b : Checked β} {x : α} {y : β} (h : a.both b = .ok (x, y)) :
    a = .ok x ∧ b = .ok y := by
  unfold Checked.both at h
  split at h
  · cases h
    exact ⟨rfl, rfl⟩
  all_goals cases h

variable (hered : Value.Hereditary P) {members : Object} (hmembers : P (.object members)) {key : String}

include hered hmembers

theorem keeps_listMember {items : List Value} (h : listMember members key = .ok items) : ∀ v ∈ items, P v := by
  unfold listMember at h
  split at h
  · cases h
    simp
  · next hget =>
    cases h
    exact hered.list.1 (hered.get hmembers hget)
  · cases h

theorem keeps_objectMember {inner : Object} (h : objectMember? members key = .ok (some inner)) : P (.object inner) := by
  have hmember := hered.getOrNull hmembers key
  unfold objectMember? at h
  split at h
  · cases h
  · next hget =>
    cases h
    rwa [hget] at hmember
  · cases h

omit hered hmembers in
theorem text_of_textMember {s : String} (h : textMember? members key = .ok (some s)) :
    Object.getOrNull members key = .text s := by
  unfold textMember? at h
  split at h
  · cases h
  · next hget =>
    cases h
    exact hget
  · cases h

end

section

variable {P : Value → Prop} (hered : Value.Hereditary P)

include hered

/-- The steps of a workflow that is to be saved have the property. -/
theorem NewWorkflow.keeps_check {body : Body} (hbody : body.Holds P) {new : NewWorkflow} (h : check body = .ok new) :
    ∀ v ∈ new.steps, P v := by
  simp only [check, bind, bind_eq_ok] at h
  obtain ⟨members, hmembers, ⟨name, description, steps⟩, hparts, h⟩ := h
  obtain rfl := Body.members_eq_ok hmembers
  cases h
  exact keeps_listMember hered hbody (Checked.both_eq_ok (Checked.both_eq_ok hparts).2).2

/-- The export that is to be imported has the property, be it given or written in a text. -/
theorem ImportRequest.keeps_check {text : String} (brings : Brings P text) {body : Body}
    (hbody : Body.read (Text.utf8 text.toList) = .ok body) {request : ImportRequest} (h : check body = .ok request) :
    (∀ exported, request.source = .workflow exported → P (.object exported)) ∧
      ∀ s exported, request.source = .text s → (Import.extract s).1 = .ok (some exported) → P (.object exported) := by
  simp only [check, bind, bind_eq_ok] at h
  obtain ⟨members, hmembers, ⟨workflow, written, save⟩, hparts, h⟩ := h
  obtain rfl := Body.members_eq_ok hmembers
  obtain ⟨hworkflow, hrest⟩ := Checked.both_eq_ok hparts
  cases workflow with
  | some inner =>
    cases h
    refine ⟨fun exported hsource => ?_, fun s exported hsource => by cases hsource⟩
    cases hsource
    exact keeps_objectMember hered (brings.body _ hbody) hworkflow
  | none =>
    dsimp only at h
    split at h
    · next heq => cases heq
    · cases h
    · next hne =>
      cases h
      refine ⟨fun exported hsource => (by cases hsource), fun s exported hsource hextract => ?_⟩
      cases hsource
      have hwritten := (Checked.both_eq_ok hrest).1
      cases written with
      | none => exact absurd rfl hne
      | some s => exact brings.written members s exported hbody (text_of_textMember hwritten) hextract

end

/-- The steps of an export that has a property have it. -/
theorem keeps_importSteps {P : Value → Prop} (through : Value.Throughout P) {exported : Object}
    (hexported : P (.object exported)) {imported : Import.Imported}
    (himport : Import.importExport (.object exported) = .ok imported) {usualDelay : Int} (husual : P (.int usualDelay))
    {conversion : Conversion} (hconvert : imported.toSteps usualDelay = .ok conversion) :
    ∀ step ∈ conversion.steps, P step.toValue := by
  have keeps := Import.importExport_keeps through.toHereditary hexported himport
  obtain ⟨found, hsteps, rfl⟩ := map_eq_ok.1 hconvert
  have hfound : ∀ step ∈ found.steps, P step.toValue :=
    Graph.toSteps_keeps through.toHereditary husual hsteps (fun _ _ => .inl through.tables)
      (fun node hnode => (keeps node hnode).1) (fun node hnode => (keeps node hnode).2)
  exact hfound

/-! ## Requests -/

/-- The table is there and has an invariant, and the usual delay can be written. -/
structure Service.Holds {σ : Type} (I : Table → Prop) (service : Service σ) : Prop where
  table : ∃ table, service.table = some table ∧ I table
  delay : isWritable (.int service.settings.usualDelay) = true

namespace Service

variable {σ : Type} (world : World σ) {I : Table → Prop} {service : Service σ} (hs : service.Holds I)

section

include hs

theorem holds_withTable {act : Table → Served σ}
    (h : ∀ table, service.table = some table → I table → (act table).2.1.Holds I) :
    (service.withTable act).2.1.Holds I := by
  obtain ⟨table, htable, held⟩ := hs.table
  simp only [withTable, htable]
  exact h table htable held

theorem holds_saved {table : Table} (held : I table) : ({ service with table := some table } : Service σ).Holds I :=
  ⟨⟨table, rfl, held⟩, hs.delay⟩

theorem holds_withBody {text : String} {act : Body → Served σ}
    (h : ∀ body : Body, Body.read (Text.utf8 text.toList) = .ok body → (act body).2.1.Holds I) :
    (service.withBody text act).2.1.Holds I := by
  unfold withBody
  split
  · next body hbody => exact h body hbody
  · exact hs
  · exact hs

theorem holds_checked {α : Type} {check : Checked α} {act : α → Served σ}
    (h : ∀ v, check = .ok v → (act v).2.1.Holds I) : (service.checked check act).2.1.Holds I := by
  cases check with
  | ok v => exact h v rfl
  | error complaints => exact hs

end

variable {P : Value → Prop} (through : Value.Throughout P) (invariant : Table.Invariant P I)

include hs through invariant

theorem holds_create {new : NewWorkflow} (hnew : ∀ v ∈ new.steps, P v) : (service.create new).2.1.Holds I := by
  unfold create
  cases hsteps : (Step.readEntries new.steps).1 with
  | error fault =>
    simp only [hsteps]
    exact hs
  | ok steps =>
    simp only [hsteps]
    refine holds_withTable hs fun table htable held => ?_
    cases hsave : table.saveSteps (.text new.name) (.text new.description) steps with
    | error fault => exact hs
    | ok saved =>
      obtain ⟨id, after⟩ := saved
      exact holds_saved hs (invariant.save held (Step.canonical_readEntries hsteps).1
        (through.readEntries hnew hsteps) hsave)

omit through in
theorem holds_remove (id : Int) : (service.remove id).2.1.Holds I := by
  refine holds_withTable hs fun table htable held => ?_
  split
  · next after hdelete => exact holds_saved hs (invariant.delete held hdelete)
  · exact hs
  · exact hs

theorem holds_importExport {exported : Object} (hexported : P (.object exported)) (save : Bool)
    (notices : List Notice) : (service.importExport exported save notices).2.1.Holds I := by
  unfold importExport
  cases himport : Import.importExport (.object exported) with
  | error fault => exact hs
  | ok imported =>
    cases hconvert : imported.toSteps service.settings.usualDelay with
    | error fault =>
      simp only [hconvert]
      exact hs
    | ok conversion =>
      simp only [hconvert]
      split
      · -- an import is saved only if it has steps; that is its guard against an empty row
        next hsave =>
        rw [Bool.and_eq_true, Bool.not_eq_true', List.isEmpty_eq_false_iff] at hsave
        refine holds_withTable hs fun table htable held => ?_
        cases hsaved : table.saveSteps imported.name (.text "Imported from n8n") conversion.steps with
        | error fault => exact hs
        | ok saved =>
          obtain ⟨id, after⟩ := saved
          have husual : P (.int service.settings.usualDelay) :=
            through.int _ (by simpa [isWritable] using hs.delay)
          have hkept := keeps_importSteps through hexported himport husual hconvert
          exact holds_saved hs (invariant.save held hsave.2 hkept hsaved)
      · exact hs

theorem holds_importRequest {request : ImportRequest}
    (hworkflow : ∀ exported, request.source = .workflow exported → P (.object exported))
    (hwritten : ∀ s exported, request.source = .text s → (Import.extract s).1 = .ok (some exported) →
      P (.object exported)) :
    (service.importRequest request).2.1.Holds I := by
  unfold importRequest
  split
  · next exported hsource =>
    exact holds_importExport hs through invariant (hworkflow exported hsource) request.save []
  · next text hsource =>
    cases hfound : (Import.extract text).1 with
    | error fault =>
      simp only [hfound]
      exact hs
    | ok found =>
      simp only [hfound]
      cases found with
      | none => exact hs
      | some exported =>
        exact holds_importExport hs through invariant (hwritten text exported hsource hfound) request.save _

/-- A request keeps the invariant, if what it brings has the property. -/
theorem holds_serveRoute (route : Route) {text : String} (brings : Brings P text) :
    (service.serveRoute world route text).2.1.Holds I := by
  cases route with
  | health => exact hs
  | list =>
    refine holds_withTable hs fun table htable held => ?_
    split
    split <;> exact hs
  | create =>
    exact holds_withBody hs fun body hbody => holds_checked hs fun new hnew =>
      holds_create hs through invariant (NewWorkflow.keeps_check through.toHereditary (brings.body body hbody) hnew)
  | direct => exact holds_withBody hs fun body hbody => holds_checked hs fun request hrequest => ⟨hs.table, hs.delay⟩
  | convert => exact holds_withBody hs fun body hbody => holds_checked hs fun drawing hdrawing => hs
  | importExport =>
    refine holds_withBody hs fun body hbody => holds_checked hs fun request hrequest => ?_
    obtain ⟨hworkflow, hwritten⟩ := ImportRequest.keeps_check through.toHereditary brings hbody hrequest
    exact holds_importRequest hs through invariant hworkflow hwritten
  | detail id =>
    refine holds_checked hs fun id hid => holds_withTable hs fun table htable held => ?_
    split
    split <;> exact hs
  | remove id => exact holds_checked hs fun id hid => holds_remove hs invariant id
  | run id =>
    exact holds_withBody hs fun body hbody => holds_checked hs fun asked hasked =>
      holds_withTable hs fun table htable held => ⟨hs.table, hs.delay⟩

theorem holds_serve {request : Incoming} (brings : Brings P request.body) :
    (service.serve world request).2.1.Holds I := by
  unfold serve
  dsimp only
  split
  · exact hs
  · split
    · exact hs
    · exact hs
    · exact holds_serveRoute world hs through invariant _ brings

theorem holds_serveAll {requests : List Incoming} (brings : ∀ request ∈ requests, Brings P request.body) :
    (service.serveAll world requests).2.1.Holds I := by
  induction requests generalizing service with
  | nil => exact hs
  | cons request requests ih =>
    obtain ⟨hrequest, hrest⟩ := List.forall_mem_cons.1 brings
    exact ih (holds_serve world hs through invariant hrequest) hrest

end Service

/-! ## Stocked tables -/

/-- The table is there and all its rows have steps, and the usual delay can be written. -/
abbrev Service.Sound {σ : Type} (service : Service σ) : Prop := service.Holds Table.Stocked

/-- No request leaves a row without steps, whatever it brings. -/
theorem Service.sound_serveAll {σ : Type} (world : World σ) {service : Service σ} (hs : service.Sound)
    (requests : List Incoming) : (service.serveAll world requests).2.1.Sound :=
  holds_serveAll world hs Value.throughout_writable Table.invariant_stocked fun _ _ => brings_writable _

end Api

end Workflows
