/-
The service: what each request does to the table of workflows and to the engine, and what it is
answered. A fault that is nobody's request is an internal error, and so is an answer that JSON
cannot hold.
-/
import Workflows.Api.Check
import Workflows.Api.Route
import Workflows.Graph.Editor
import Workflows.Import.Export
import Workflows.Import.Extract
import Workflows.Store.Run

namespace Workflows.Api

/-! ## Answers -/

/-- The answer to a request. A request whose address is none is not sent. -/
inductive Answer
  | json (status : Nat) (body : Value)
  | bare (status : Nat)
  | complaints (list : List Complaint)
  | internalError
  | unsent (error : UrlError)
deriving DecidableEq, Repr

mutual

/-- JSON can hold a value: every number in it is finite. -/
def isRenderable : Value → Bool
  | .float x => x.isFinite
  | .list items => itemsRenderable items
  | .object members => membersRenderable members
  | .table entries => entriesRenderable entries
  | _ => true

def itemsRenderable : List Value → Bool
  | [] => true
  | v :: vs => isRenderable v && itemsRenderable vs

def membersRenderable : List (String × Value) → Bool
  | [] => true
  | (_, v) :: rest => isRenderable v && membersRenderable rest

def entriesRenderable : List (Value × Value) → Bool
  | [] => true
  | (_, v) :: rest => isRenderable v && entriesRenderable rest

end

/-- Answers with a value. -/
def respond (status : Nat) (body : Value) : Answer :=
  if isRenderable body then .json status (Json.published body) else .internalError

/-- Answers with a sentence about what is wrong. -/
def refuse (status : Nat) (detail : String) : Answer :=
  .json status (.object [("detail", .text detail)])

/-! ## The service -/

/-- The state of the service. The table may be missing from the database; `configured` tells which
variables are set. -/
structure Service (σ : Type) where
  table : Option Table
  engine : Engine σ
  settings : Settings
  configured : String → Bool

/-- A request as it comes in. -/
structure Incoming where
  method : String
  path : String
  body : String
deriving DecidableEq, Repr

/-- What a request leads to: an answer, the service after it, and what happened meanwhile. -/
abbrev Served (σ : Type) := Answer × Service σ × List Event

section

variable {σ : Type} (world : World σ)

/-- An answer that changes nothing. -/
def Service.say (service : Service σ) (answer : Answer) : Served σ := (answer, service, [])

/-- What a request does with the table; without a table it is an internal error. -/
def Service.withTable (service : Service σ) (act : Table → Served σ) : Served σ :=
  match service.table with
  | some table => act table
  | none => service.say .internalError

/-- The events of notices. -/
def told (notices : List Notice) : List Event := notices.map .notice

/-! ## Reading -/

/-- The steps of an answer must have texts for names. -/
def hasTextNames (steps : List Step) : Bool := steps.all fun step => step.name.text?.isSome

def Service.health (service : Service σ) : Served σ :=
  service.say (respond 200 (.object [("status", .text "healthy"),
    ("environment", .text service.settings.environment),
    ("database", .object [("ok", .bool true), ("dialect", .text "sqlite")]),
    ("providers", .object [("anthropic", .bool (service.settings.chatKey != "")),
      ("pollinations", .bool (service.settings.imageKey != ""))])]))

/-- The answer that shows workflows, whose whole is a value. -/
def showWorkflows (workflows : List Workflow) (whole : Value) : Answer :=
  if workflows.all fun workflow => hasTextNames workflow.steps then respond 200 whole
  else .internalError

def Service.list (service : Service σ) : Served σ :=
  service.withTable fun table =>
    let (workflows, notices) := table.list
    match workflows with
    | .ok workflows =>
      (showWorkflows workflows (.list (workflows.map Workflow.toValue)), service, told notices)
    | .error _ => (.internalError, service, told notices)

def Service.detail (service : Service σ) (id : Int) : Served σ :=
  service.withTable fun table =>
    let (workflow, notices) := table.get (.int id)
    match workflow with
    | .ok (some workflow) => (showWorkflows [workflow] workflow.toValue, service, told notices)
    | .ok none => (refuse 404 "Workflow not found", service, told notices)
    | .error _ => (.internalError, service, told notices)

/-! ## Writing -/

def Service.create (service : Service σ) (new : NewWorkflow) : Served σ :=
  let (steps, notices) := Step.readEntries new.steps
  match steps with
  | .error fault => (refuse 400 fault.message, service, told notices)
  | .ok steps => service.withTable fun table =>
    match table.saveSteps (.text new.name) (.text new.description) steps with
    | .ok (id, table) =>
      (respond 201 (.object [("id", .int id), ("name", .text new.name)]),
        { service with table := some table }, told notices)
    | .error _ => (.internalError, service, told notices)

def Service.remove (service : Service σ) (id : Int) : Served σ :=
  service.withTable fun table =>
    match table.delete (.int id) with
    | .ok (true, table) =>
      (respond 200 (.object [("success", .bool true), ("id", .int id)]),
        { service with table := some table }, [])
    | .ok (false, _) => service.say (refuse 404 "Workflow not found")
    | .error _ => service.say .internalError

/-! ## Running -/

/-- The answer that a report is given as. That there is no such workflow, or none to run, is the
fault of the request, also where a step tells so. -/
def reportAnswer (about : Object) (report : Report) : Answer :=
  match report with
  | .failure fault =>
    match fault.reported.kind with
    | .unknownWorkflow => refuse 404 fault.reported.message
    | .emptyWorkflow => refuse 400 fault.reported.message
    | _ => respond 200 (report.toValue about)
  | .success _ => respond 200 (report.toValue about)

/-- The answer to a run. -/
def runAnswer (about : Object) : Except Fault Report → Answer
  | .ok report => reportAnswer about report
  | .error _ => .internalError

def Service.direct (service : Service σ) (request : DirectRun) : Served σ :=
  let (result, engine, events) := runToOutput world service.settings.usualDelay
    (.list request.steps) request.input service.engine
  (runAnswer [] (Report.ofResult result), { service with engine }, events)

def Service.run (service : Service σ) (id : Int) (input : Value) : Served σ :=
  service.withTable fun table =>
    let (report, engine, events) :=
      table.report world service.settings.usualDelay (.int id) input service.engine
    (runAnswer [("workflow_id", .int id)] report, { service with engine }, events)

/-! ## Converting and importing -/

/-- The graph of a drawing. -/
def Drawing.toGraph : Drawing → Except Fault Graph
  | .editor members => Graph.ofEditor (.object members)
  | .graph members => Graph.ofPayload (.object members)

def Service.convert (service : Service σ) (drawing : Drawing) : Served σ :=
  service.say <|
    match drawing.toGraph.bind (·.toSteps service.settings.usualDelay) with
    | .ok conversion =>
      if hasTextNames conversion.steps then respond 200 conversion.toValue else .internalError
    | .error _ => .internalError

/-- The answer to an import that may have been saved under an id. -/
def importAnswer (configured : String → Bool) (imported : Import.Imported)
    (conversion : Conversion) (id : Option Int) : Answer :=
  let shown := Import.Credential.toValue configured
  let lacking := imported.required.filter fun c => !configured c.variableName
  respond 200 (.object [("success", .bool true),
    ("workflow_id", (id.map Value.int).getD .null), ("workflow_name", imported.name),
    ("node_count", .int imported.graph.nodes.length), ("graph", imported.graph.toValue),
    ("steps", .list (conversion.steps.map Step.toValue)),
    ("warnings", .list (conversion.warnings.map .text)),
    ("needs_configuration", .list imported.needsConfiguration),
    ("required_apis", .list (imported.required.map shown)),
    ("missing_apis", .list (lacking.map shown))])

/-- Imports an export, and saves its steps if that is asked and there are any. -/
def Service.importExport (service : Service σ) (exported : Object) (save : Bool)
    (notices : List Notice) : Served σ :=
  match Import.importExport (.object exported) with
  | .error fault =>
    let answer := if fault.kind = .emptyWorkflow then refuse 400 fault.message else .internalError
    (answer, service, told notices)
  | .ok imported =>
    match imported.toSteps service.settings.usualDelay with
    | .error _ => (.internalError, service, told notices)
    | .ok conversion =>
      let answer := importAnswer service.configured imported conversion
      if save && !conversion.steps.isEmpty then
        service.withTable fun table =>
          match table.saveSteps imported.name (.text "Imported from n8n") conversion.steps with
          | .ok (id, table) =>
            (answer (some id), { service with table := some table }, told notices)
          | .error _ => (.internalError, service, told notices)
      else (answer none, service, told notices)

def Service.importRequest (service : Service σ) (request : ImportRequest) : Served σ :=
  match request.source with
  | .workflow exported => service.importExport exported request.save []
  | .text text =>
    let (found, notices) := Import.extract text
    match found with
    | .ok (some exported) => service.importExport exported request.save notices
    | .ok none =>
      (refuse 400 "No n8n workflow JSON found in the request", service, told notices)
    | .error _ => (.internalError, service, told notices)

/-! ## Requests -/

/-- Answers with complaints, each of which shows what was given. -/
def respondComplaints (list : List Complaint) : Answer :=
  if list.all fun complaint => isRenderable complaint.given then .complaints list
  else .internalError

/-- Goes on with what a check has read, or answers with its complaints. -/
def Service.checked {α : Type} (service : Service σ) (check : Checked α) (act : α → Served σ) :
    Served σ :=
  match check with
  | .ok value => act value
  | .error complaints => service.say (respondComplaints complaints)

/-- Goes on with the body of a request, if it can be read. -/
def Service.withBody (service : Service σ) (text : String) (act : Body → Served σ) : Served σ :=
  match Body.read (Text.utf8 text.toList) with
  | .ok body => act body
  | .error .noJson => service.say (respondComplaints [⟨"body", .badJson, .object []⟩])
  | .error .unreadable => service.say (refuse 400 "There was an error parsing the body")

/-- Serves a request whose route is known. -/
def Service.serveRoute (service : Service σ) (route : Route) (text : String) : Served σ :=
  match route with
  | .health => service.health
  | .list => service.list
  | .create => service.withBody text fun body =>
    service.checked (NewWorkflow.check body) service.create
  | .direct => service.withBody text fun body =>
    service.checked (DirectRun.check body) (service.direct world)
  | .convert => service.withBody text fun body =>
    service.checked (Drawing.check body) service.convert
  | .importExport => service.withBody text fun body =>
    service.checked (ImportRequest.check body) service.importRequest
  | .detail id => service.checked (checkId id) service.detail
  | .remove id => service.checked (checkId id) service.remove
  | .run id => service.withBody text fun body =>
    service.checked ((checkId id).both (checkInput body)) fun (id, input) =>
      service.run world id input

/-- Refuses a request that no route takes. An answer to `HEAD` has no body. -/
def refuseMethod (method : String) (status : Nat) (detail : String) : Answer :=
  if method = "HEAD" then .bare status else refuse status detail

/-- Serves a request. -/
def Service.serve (service : Service σ) (request : Incoming) : Served σ :=
  let method := Text.upper request.method
  match address request.path with
  | .error e => service.say (.unsent e)
  | .ok url =>
    match route method url with
    | .unknown => service.say (refuseMethod method 404 "Not Found")
    | .wrongMethod => service.say (refuseMethod method 405 "Method Not Allowed")
    | .found route => service.serveRoute world route request.body

/-- Serves requests one after another. -/
def Service.serveAll (service : Service σ) : List Incoming → List Answer × Service σ × List Event
  | [] => ([], service, [])
  | request :: requests =>
    let (answer, service, events) := service.serve world request
    let (answers, final, more) := service.serveAll requests
    (answer :: answers, final, events ++ more)

end

end Workflows.Api
