/-
Running what is stored, by request. A workflow that is there runs, and the answer tells its output or the step
that failed; one that is not there is not found; and no run is refused, because every stored workflow has
steps and no step fails in a way that only a request could be blamed for.
-/
import Workflows.Proofs.Api.Stored
import Workflows.Proofs.Http.Path
import Workflows.Proofs.Run.Ending

namespace Workflows

open Workflows.Json

/-! ## Faults of steps -/

/-- A fault that is not the request's: not that a workflow is empty or unknown. -/
def Fault.OfStep (fault : Fault) : Prop := fault.kind ≠ .emptyWorkflow ∧ fault.kind ≠ .unknownWorkflow

instance (fault : Fault) : Decidable fault.OfStep := inferInstanceAs (Decidable (_ ∧ _))

/-- Collaborators fail only as providers, requests and fragments do. -/
def World.FailsByKind {σ : Type} (world : World σ) : Prop :=
  ∀ call outside fault left, world.answer call outside = (.error fault, left) →
    fault.kind = .provider ∨ fault.kind = .request ∨ fault.kind = .code

namespace Value

variable {fault : Fault}

theorem ofStep_floatOfInt {n : Int} (h : floatOfInt n = .error fault) : fault.OfStep := by
  unfold floatOfInt at h
  split at h
  · cases h
  · cases h
    decide

theorem ofStep_toFloat {v : Value} (h : v.toFloat = .error fault) : fault.OfStep := by
  unfold toFloat at h
  split at h
  · cases h
  · exact ofStep_floatOfInt h
  · exact ofStep_floatOfInt h
  · split at h
    · cases h
    · cases h
      exact ⟨nofun, nofun⟩
  · cases h
    exact ⟨nofun, nofun⟩

theorem ofStep_intOfFloat {x : Binary64} (h : intOfFloat x = .error fault) : fault.OfStep := by
  unfold intOfFloat at h
  split at h
  · cases h
    decide
  · split at h
    · cases h
      decide
    · cases h

end Value

namespace Run

theorem ofStep_givenDelay {params : Object} {fault : Fault} (h : givenDelay params = .error fault) : fault.OfStep := by
  simp only [givenDelay, bind, Except.bind] at h
  split at h
  · split at h
    · next hfloat =>
      cases h
      exact Value.ofStep_toFloat hfloat
    · split at h
      · next hint =>
        cases h
        exact Value.ofStep_intOfFloat hint
      · cases h
  · split at h
    · split at h
      · next hfloat =>
        cases h
        exact Value.ofStep_toFloat hfloat
      · cases h
    · cases h

theorem ofStep_delayOf {usual : Int} {params : Object} {fault : Fault} (h : (delayOf usual params).1 = .error fault) :
    fault.OfStep := by
  unfold delayOf at h
  split at h
  · cases h
  · next given hgiven =>
    have hof := ofStep_givenDelay hgiven
    split at h
    · cases h
    · cases h
    · cases h
      exact hof

end Run

namespace Step

variable {step : Step} {context : Context} {fault : Fault}

theorem ofStep_requiring {param : String} {plan : Value → Except Fault Call}
    (hplan : ∀ v, plan v = .error fault → fault.OfStep) (h : (step.requiring param plan).1 = .error fault) :
    fault.OfStep := by
  unfold requiring at h
  dsimp only at h
  split at h
  · cases h
  · cases hcall : plan (Object.getOrNull step.params param) with
    | error other =>
      rw [hcall] at h
      cases h
      exact hplan _ hcall
    | ok call =>
      rw [hcall] at h
      cases h

theorem ofStep_givenHeaders (h : step.givenHeaders context = .error fault) : fault.OfStep := by
  unfold givenHeaders Value.membersFor at h
  split at h
  · cases h
  · cases h
    exact ⟨nofun, nofun⟩

theorem ofStep_request {url : Value} (h : step.request context url = .error fault) : fault.OfStep := by
  unfold request at h
  cases hheaders : step.givenHeaders context with
  | error other =>
    rw [hheaders] at h
    cases h
    exact ofStep_givenHeaders hheaders
  | ok headers =>
    rw [hheaders] at h
    cases h

/-- No plan fails by the request's fault. -/
theorem ofStep_plan {usualDelay : Int} {seat : Nat} (h : (step.plan usualDelay seat context).1 = .error fault) :
    fault.OfStep := by
  unfold plan at h
  split at h
  · cases h
  · cases h
  · exact ofStep_requiring (fun _ h => by cases h) h
  · exact ofStep_requiring (fun _ h => by cases h) h
  · exact ofStep_requiring (fun _ h => by cases h) h
  · refine ofStep_requiring (fun url h => ?_) h
    cases hrequest : step.request context url with
    | error other =>
      rw [hrequest] at h
      cases h
      exact ofStep_request hrequest
    | ok request =>
      rw [hrequest] at h
      cases h
  · dsimp only at h
    cases hdelay : (Run.delayOf usualDelay step.params).1 with
    | error other =>
      rw [hdelay] at h
      cases h
      exact Run.ofStep_delayOf hdelay
    | ok duration =>
      rw [hdelay] at h
      cases h

end Step

theorem Call.ofStep_resume {call : Call} {context : Context} {reply : call.Reply} {fault : Fault}
    (h : call.resume context reply = .error fault) : fault.OfStep := by
  cases call with
  | http request =>
    simp only [resume] at h
    split at h
    · cases h
    · cases h
      exact ⟨nofun, nofun⟩
  | _ => cases h

section

variable {σ : Type} {world : World σ} {usualDelay : Int} {fault : Fault}

theorem World.ofStep_perform (hworld : world.FailsByKind) {call : Call} {context : Context} {outside : σ}
    (h : (world.perform call context outside).1 = .error fault) : fault.OfStep := by
  unfold perform at h
  rcases hanswer : world.answer call outside with ⟨other | reply, left⟩
  · simp only [hanswer] at h
    cases h
    rcases hworld _ _ _ _ hanswer with hkind | hkind | hkind <;>
    · rw [Fault.OfStep, hkind]
      decide
  · simp only [hanswer] at h
    exact Call.ofStep_resume h

/-- No step fails by the request's fault, whatever the collaborators do. -/
theorem ofStep_runStep (hworld : world.FailsByKind) {step : Step} {context : Context} {engine left : Engine σ}
    {events : List Event} (h : runStep world usualDelay step context engine = (.error fault, left, events)) :
    fault.OfStep := by
  have hfault : (runStep world usualDelay step context engine).1 = .error fault := by rw [h]
  rcases hplan : (step.plan usualDelay engine.rotation.cursor.val context).1 with other | _ | call
  · rw [runStep_of_fault hplan] at hfault
    cases hfault
    exact Step.ofStep_plan hplan
  · rw [runStep_of_none hplan] at hfault
    cases hfault
  · rw [runStep_of_call hplan] at hfault
    exact World.ofStep_perform hworld hfault

end

namespace Api

/-! ## Answers -/

/-- The status of an answer; a request that is not sent has none. -/
def Answer.status? : Answer → Option Nat
  | .json status _ | .bare status => some status
  | .complaints _ => some 422
  | .internalError => some 500
  | .unsent _ => none

/-- An answer tells how a run of so many steps has ended: with its output, or at a step that failed. -/
def TellsRun (id : Int) (steps : Nat) (answer : Answer) : Prop :=
  (∃ output, answer = .json 200 (.object
    [("success", .bool true), ("workflow_id", .int id), ("output", .text output)])) ∨
  ∃ failure : Failure, 1 ≤ failure.index ∧ failure.index ≤ steps ∧ answer = .json 200 (.object
    [("success", .bool false), ("workflow_id", .int id), ("error", failure.toValue)])

/-- A failure that is not the request's fault is told as it is. -/
theorem reportAnswer_failure (id : Int) {failure : Failure} (hfilled : failure.cause.kind ≠ .emptyWorkflow)
    (hknown : failure.cause.kind ≠ .unknownWorkflow) :
    reportAnswer [("workflow_id", .int id)] (.failure failure.toFault) = .json 200 (.object
      [("success", .bool false), ("workflow_id", .int id), ("error", failure.toValue)]) := by
  simp only [reportAnswer, Failure.toFault, Fault.reported]
  rfl

section

variable {σ : Type} (world : World σ) (usualDelay : Int)

theorem tellsRun_runStored (hworld : world.FailsByKind) (id : Int) {steps : List Step} (hne : steps ≠ []) (input : Value)
    (engine : Engine σ) :
    TellsRun id steps.length
      (runAnswer [("workflow_id", .int id)] (Report.ofResult (runStored world usualDelay steps input engine).1)) := by
  have hempty : steps.isEmpty = false := List.isEmpty_eq_false_iff.2 hne
  simp only [runStored, hempty, Bool.false_eq_true, if_false]
  rcases runFrom_ends world usualDelay steps (.ofValue input) engine with ⟨-, hstate, -⟩ | ⟨first, hstate, -, -⟩
  · left
    have hfailure : (runParsed world usualDelay steps input engine).1.failure = none := congrArg RunState.failure hstate
    rw [RunState.result, hfailure]
    exact ⟨_, rfl⟩
  · right
    have hfailure : (runParsed world usualDelay steps input engine).1.failure = some first.failure :=
      congrArg RunState.failure hstate
    have hindex : first.index ≤ steps.length := by
      have hlength := congrArg List.length first.split
      rw [List.length_append, List.length_cons] at hlength
      rw [FirstFailure.index]
      omega
    -- were the fault one of an empty or unknown workflow, it would be answered as the fault of the request
    obtain ⟨hfilled, hknown⟩ := ofStep_runStep hworld first.fails
    refine ⟨first.failure, Nat.succ_pos _, hindex, ?_⟩
    rw [RunState.result, hfailure]
    exact reportAnswer_failure id hfilled hknown

end

/-! ## Requests to run -/

/-- A body that brings nothing, or an object. -/
def BringsObject (body : String) : Prop :=
  body = "" ∨ ∃ members, Body.read (Text.utf8 body.toList) = .ok (.value (.object members))

theorem checkInput_of_object {body : String} (h : BringsObject body) :
    ∃ read input, Body.read (Text.utf8 body.toList) = .ok read ∧ checkInput read = .ok input := by
  rcases h with rfl | ⟨members, hread⟩
  · exact ⟨.absent, _, rfl, rfl⟩
  · exact ⟨_, _, hread, rfl⟩

theorem digits_of_holdsInt {id : Int} (h : Column.holdsInt id = true) : (Nat.toDigits 10 id.natAbs).length ≤ 19 := by
  rw [Column.holdsInt, Bool.and_eq_true, decide_eq_true_iff, decide_eq_true_iff] at h
  exact (Nat.length_toDigits_le_iff (by decide) (by decide)).2 (by omega)

theorem checkId_toString {id : Int} (h : Column.holdsInt id = true) : checkId (toString id) = .ok id := by
  have hlength := digits_of_holdsInt h
  have hread : Lenient.integer? (toString id) = .ok id :=
    Lenient.integer_toString (hlength.trans_lt (by decide))
  rw [checkId, hread]

theorem isOwn_of_isDigit {c : Char} (h : c.isDigit = true) : Url.isOwn c = true := by
  have hbounds := bounds_of_isDigit h
  have hother : ∀ d : Char, d.isDigit = false → c ≠ d := fun d hd => isDigit_ne h hd
  have hothers : "\"#<>?\x7b\x7d".toList.contains c = false := by
    have hall : "\"#<>?\x7b\x7d".toList.all (!·.isDigit) = true := by decide
    have hnone : c ∉ "\"#<>?\x7b\x7d".toList := fun hmem =>
      hother c (by simpa only [Bool.not_eq_true'] using List.all_eq_true.1 hall c hmem) rfl
    simpa using hnone
  simp only [Url.isOwn, Url.isPathChar, Url.isPlainExcept, hothers, Bool.and_eq_true, decide_eq_true_eq, bne_iff_ne]
  refine ⟨⟨⟨⟨by omega, by omega⟩, rfl⟩, by omega⟩, hother '%' rfl⟩

theorem plain_writeInt (id : Int) : Url.Plain (writeInt id) := by
  have hdigits : ∀ n d, d ∈ Nat.toDigits 10 n → Url.isOwn d = true ∧ d ≠ '/' := fun n d hd => by
    have hdigit : d.isDigit = true := Nat.isDigit_of_mem_toDigits (by decide) (by decide) hd
    exact ⟨isOwn_of_isDigit hdigit, isDigit_ne hdigit rfl⟩
  cases id with
  | ofNat n =>
    obtain ⟨d, ds, hcons, hd⟩ := toDigits_cons n
    refine ⟨hdigits n, ?_, ?_⟩
    · simp [writeInt]
    · rw [writeInt, hcons]
      constructor <;>
      · intro h
        exact isDigit_ne hd rfl (List.cons.inj h).1
  | negSucc n =>
    refine ⟨List.forall_mem_cons.2 ⟨by decide, hdigits (n + 1)⟩, ?_, ?_⟩
    · simp [writeInt]
    · constructor <;>
      · intro h
        exact absurd (List.cons.inj h).1 (by decide)

theorem length_writeInt_le {id : Int} (h : Column.holdsInt id = true) : (writeInt id).length ≤ 20 := by
  have hlength := digits_of_holdsInt h
  cases id with
  | ofNat n => exact hlength.trans (by decide)
  | negSucc n => exact Nat.succ_le_succ hlength

/-- A request below the id of a workflow, written in plain digits, goes where the parts of its path lead. -/
theorem route_workflow {method : String} {target : String → Route} {rest : List (List Char)} {id : Int}
    (h : Column.holdsInt id = true) (hrest : ∀ s ∈ rest, Url.Plain s) (hlength : (Url.joined rest).length ≤ 100)
    (htarget : ∀ text ≠ "", (routesAt ("workflows" :: text :: rest.map String.ofList)).find? (·.1 == method) =
      some (method, target text)) :
    ∃ url, address ("/workflows/" ++ toString id ++ String.ofList (Url.joined rest)) = .ok url ∧
      route method url = .found (target (toString id)) := by
  have hpath : "/workflows/" ++ toString id ++ String.ofList (Url.joined rest) =
      String.ofList (Url.joined ("workflows".toList :: writeInt id :: rest)) := by
    simp [← String.toList_inj, Url.joined, ← toList_toString]
  have hplain : ∀ s ∈ "workflows".toList :: writeInt id :: rest, Url.Plain s := by
    simp only [List.forall_mem_cons]
    exact ⟨by decide, plain_writeInt id, hrest⟩
  have hid : String.ofList (writeInt id) = toString id := by rw [← toList_toString, String.ofList_toList]
  rw [hpath]
  refine route_joined hplain ?_ ?_
  · have hidlength := length_writeInt_le h
    have hwhole : (Url.joined ("workflows".toList :: writeInt id :: rest)).length =
        11 + (writeInt id).length + (Url.joined rest).length := by
      simp [Url.joined]
      omega
    omega
  · have hfilled : toString id ≠ "" := by
      intro hempty
      have hne := (plain_writeInt id).filled
      rw [← toList_toString, hempty] at hne
      exact hne rfl
    simp only [List.map_cons, hid, String.ofList_toList]
    exact htarget _ hfilled

theorem routesAt_run {text : String} (h : text ≠ "") : routesAt ["workflows", text, "run"] = [("POST", .run text)] := by
  simp [routesAt, isNamed, h]

/-- A request to run the workflow with an id, written in plain digits, is found. -/
theorem route_run {id : Int} (h : Column.holdsInt id = true) :
    ∃ url, address ("/workflows/" ++ toString id ++ "/run") = .ok url ∧ route "POST" url = .found (.run (toString id)) := by
  have hpath : "/run" = String.ofList (Url.joined ["run".toList]) := by decide
  rw [hpath]
  refine route_workflow h (List.forall_mem_singleton.2 (by decide)) (by decide) fun text htext => ?_
  rw [List.map_singleton, String.ofList_toList, routesAt_run htext]
  rfl

section

variable {σ : Type} (world : World σ)

/-- A request to run is served by running, whatever the object brings. -/
theorem serve_run (service : Service σ) {id : Int} (hid : Column.holdsInt id = true) {body : String}
    (hbody : BringsObject body) : ∃ input,
      service.serve world ⟨"POST", "/workflows/" ++ toString id ++ "/run", body⟩ = service.run world id input := by
  obtain ⟨url, haddress, hroute⟩ := route_run hid
  obtain ⟨read, input, hread, hinput⟩ := checkInput_of_object hbody
  have hmethod : Text.upper "POST" = "POST" := by decide +kernel
  refine ⟨input, ?_⟩
  simp only [Service.serve, haddress, hmethod, hroute, Service.serveRoute, Service.withBody, hread, checkId_toString hid,
    hinput, Checked.both, Service.checked]

/-- What is not there is not found, and what is there runs. -/
theorem run_answers (hworld : world.FailsByKind) {service : Service σ} {table : Table} (htable : service.table = some table)
    (stocked : table.Stocked) {id : Int} (hid : Column.holdsInt id = true) (input : Value) :
    (table.row? id = none → (service.run world id input).1 = refuse 404 (Fault.unknownWorkflow (.int id)).message) ∧
      ∀ row, table.row? id = some row → ∃ steps, (StepList.decode row.steps).1 = .ok steps ∧
        TellsRun id steps.length (service.run world id input).1 := by
  constructor
  · intro hrow
    have hget : (table.get (.int id)).1 = .ok none := by
      simp only [Table.get, Table.find_int hid, hrow]
    simp only [Service.run, Service.withTable, htable, Table.report, Table.run, hget]
    rfl
  · intro row hrow
    obtain ⟨steps, hsteps, hne⟩ := stocked row (Table.mem_of_row hrow).1
    have hget : (table.get (.int id)).1 = .ok (some ⟨row.id, row.name, row.description.getD "", steps⟩) := by
      simp only [Table.get, Table.find_int hid, hrow, Row.load_of_decode hsteps, Except.map]
    refine ⟨steps, hsteps, ?_⟩
    simp only [Service.run, Service.withTable, htable, Table.report, Table.run, hget]
    exact tellsRun_runStored world service.settings.usualDelay hworld id hne input service.engine

end

end Api

open Api

/-- Collaborators of which the chat providers and the network fail. -/
def silentWorld : World Unit where
  answer call outside := match call with
    | .chat _ _ => (.error (.providerFailed "no answer"), outside)
    | .image prompt => (.ok prompt, outside)
    | .http _ => (.error (.requestFailed "no network" none), outside)
    | .code _ input => (.ok input, outside)
    | .sleep _ => (.ok (), outside)

/-- A service as it begins when no variable is set. -/
def newService : Service Unit where
  table := some {}
  engine := ⟨⟨1, ⟨0, Nat.one_pos⟩⟩, ()⟩
  settings := {}
  configured _ := false

/-- A request to save a workflow of two steps, of which the second asks a provider. -/
def greetingRequest : Incoming where
  method := "POST"
  path := "/workflows"
  body := "\x7b\"name\": \"Greeting\", \"steps\": [\x7b\"type\": \"trigger\"\x7d, " ++
    "\x7b\"type\": \"llm\", \"prompt\": \"Hi\"\x7d]\x7d"

/-- The service after it. -/
def greetingService : Service Unit := (newService.serveAll silentWorld [greetingRequest]).2.1

end Workflows
