/-
Turning a graph into the list of steps that is run. Every node becomes one step, in the order of
the walk; its parameters are looked for under all the names that editors and exports give them.
-/
import Workflows.Graph.Cycle
import Workflows.Graph.Order
import Workflows.Graph.Payload
import Workflows.Json.Printer
import Workflows.Step

namespace Workflows

open Workflows.Text

/-! ## Parameters -/

namespace Node

/-- The first of some parameters that is filled in. -/
def firstFilled? (params : Object) (names : List String) : Option Value :=
  names.findSome? fun name =>
    let v := Object.getOrNull params name
    if v.isUnset then none else some v

/-- The first of some parameters that is filled in, or a text if that one does not count as true. -/
def filledOr (params : Object) (names : List String) (otherwise : String) : Value :=
  ((firstFilled? params names).getD .null).orElse (.text otherwise)

/-- A value may be a name: lists and objects may not. -/
def checkName (name : Value) : Except Fault Unit :=
  match name with
  | .list _ | .object _ | .table _ => .error (.notAName name.kind)
  | _ => .ok ()

/-- Sets the value of a name; equal numbers are one name, which keeps its first spelling. -/
def putNamed (name value : Value) : List (Value × Value) → List (Value × Value)
  | [] => [(name, value)]
  | (n, v) :: rest => if n.same name then (n, value) :: rest else (n, v) :: putNamed name value rest

/-- Pairs of names and values as a value: an object, or a table if not all names are texts. -/
def pairsValue (pairs : List (Value × Value)) : Value :=
  match pairs.mapM fun (name, value) => name.text?.map (·, value) with
  | some members => .object members
  | none => .table pairs

/-- The pairs that a list of entries with names and values makes. -/
def collectPairs : List (Value × Value) → List Value → Except Fault (List (Value × Value))
  | pairs, [] => .ok pairs
  | pairs, .object entry :: entries =>
    let name := Object.getOrNull entry "name"
    if name.isTrue then
      (checkName name).bind fun _ =>
        collectPairs (putNamed name (Object.getOrNull entry "value") pairs) entries
    else collectPairs pairs entries
  | pairs, _ :: entries => collectPairs pairs entries

/-- What a container of entries with names and values makes. -/
def namedValues (container : Value) : Except Fault Value :=
  match container with
  | .object members => do
    let entries ← Graph.entriesOf (Object.getOrNull members "parameters")
    return pairsValue (← collectPairs [] entries)
  | _ => .ok (.object [])

/-- The body of a request: a text, or the JSON text of whatever else it is. -/
def requestBody (params : Object) : Except Fault String :=
  match firstFilled? params ["body", "jsonBody"] with
  | some (.text s) => .ok s
  | some v => .ok (Json.render .plain v)
  | none =>
    (namedValues (Object.getOrNull params "bodyParameters")).map fun v =>
      if v.isTrue then Json.render .plain v else ""

/-- The headers of a request. -/
def requestHeaders (params : Object) : Except Fault Value :=
  match Object.getOrNull params "headers" with
  | .object (header :: headers) => .ok (.object (header :: headers))
  | _ => namedValues (Object.getOrNull params "headerParameters")

/-- The parameters of a request step. -/
def requestParams (params : Object) : Except Fault Object := do
  let url := (Object.get? params "url").getD (.text "")
  let method := upper ((Object.getOrNull params "method").orElse (.text "GET")).display
  let body ← requestBody params
  let headers ← requestHeaders params
  return [("url", url), ("method", .text method)] ++
    (if body = "" then [] else [("body", .text body)]) ++
    (if headers.isTrue then [("headers", headers)] else [])

/-! ## Delays -/

/-- The seconds of a unit of time; a unit nobody knows is a second. -/
def unitSeconds (unit : String) : Int :=
  match unit with
  | "minutes" => 60
  | "hours" => 3600
  | "days" => 86400
  | _ => 1

/-- The length of a delay as it is given, and the unit that it is given in. -/
def rawDelay (params : Object) : Value × Int :=
  match firstFilled? params ["delay-seconds", "seconds"] with
  | some v => (v, 1)
  | none =>
    match firstFilled? params ["amount"] with
    | some v =>
      (v, unitSeconds ((Object.getOrNull params "unit").orElse (.text "seconds")).display)
    | none => (Object.getOrNull params "value", 1)

/-- The whole seconds of a delay. What is no number or no time at all is the usual delay. -/
def delaySeconds (usual : Int) (params : Object) : Except Fault Int :=
  let (raw, unit) := rawDelay params
  let seconds := do
    let x ← raw.toFloat
    let factor ← Value.floatOfInt unit
    Value.intOfFloat (x.mul factor)
  match seconds with
  | .ok n => .ok (if n = 0 then usual else n)
  | .error fault => if Graph.isPositionFault fault then .ok usual else .error fault

/-! ## Steps -/

/-- The warning about a node that is passed through. -/
def passThroughWarning (node : Node) (name : Value) : String :=
  let declared := if node.declaredType = "" then "unknown" else node.declaredType
  "Node '" ++ name.display ++ "' (" ++ declared ++ ") is a " ++ node.kind.category ++
    " node; running it as a pass-through"

/-- The kind of step and the parameters that a node becomes. -/
def stepParams (usualDelay : Int) (node : Node) : Except Fault (StepKind × Object) := do
  match node.kind with
  | .trigger | .unsupported _ => return (.trigger, [])
  | .code =>
    let params ← paramsOf node
    return (.code, [("code", filledOr params ["jsCode", "pythonCode", "code", "functionCode"] "")])
  | .http =>
    let params ← paramsOf node
    return (.httpRequest, ← requestParams params)
  | .llm =>
    let params ← paramsOf node
    let prompt := filledOr params ["prompt", "text", "prompt_template"] "Default prompt"
    return (.llm, [("prompt", prompt)])
  | .image =>
    let params ← paramsOf node
    let prompt := filledOr params ["image-prompt", "prompt", "prompt_template"]
      "A beautiful landscape"
    return (.image, [("prompt", prompt)])
  | .delay =>
    let params ← paramsOf node
    return (.delay, [("seconds", .int (← delaySeconds usualDelay params))])
where
  paramsOf (node : Node) : Except Fault Object :=
    (node.parameters.orElse (.object [])).membersFor "get"

/-- The step of a node, and a warning if the node is passed through. -/
def toStep (usualDelay : Int) (node : Node) : Except Fault (Step × List String) := do
  let (kind, params) ← stepParams usualDelay node
  let name := node.displayName.orElse (.text node.id)
  let warnings := match node.kind with
    | .unsupported _ => [passThroughWarning node name]
    | _ => []
  return (⟨node.id, kind.word, name, params⟩, warnings)

end Node

/-! ## Graphs -/

/-- What a graph is turned into. -/
structure Conversion where
  steps : List Step
  warnings : List String
  needsConfiguration : List String
deriving DecidableEq, Repr

def Conversion.toValue (conversion : Conversion) : Value :=
  .object [("steps", .list (conversion.steps.map Step.toValue)),
    ("warnings", .list (conversion.warnings.map .text)),
    ("needs_configuration", .list (conversion.needsConfiguration.map .text))]

namespace Graph

/-- A warning for each connection that closes a cycle. -/
def cycleWarnings (graph : Graph) : List String :=
  graph.backEdges.map fun c =>
    "Cycle detected at connection " ++ c.source ++ " -> " ++ c.target ++
      "; it will not be revisited"

/-- The nodes in the order in which they are run. -/
def orderedNodes (graph : Graph) : List Node := graph.order.filterMap graph.node?

/-- The steps of a graph. -/
def toSteps (usualDelay : Int) (graph : Graph) : Except Fault Conversion := do
  let nodes := graph.orderedNodes
  let results ← nodes.mapM (Node.toStep usualDelay)
  return {
    steps := results.map (·.1)
    warnings := graph.warnings ++ graph.cycleWarnings ++ graph.unknownWarnings ++
      results.flatMap (·.2)
    needsConfiguration := (nodes.filter (·.needsConfiguration)).map (·.id) }

end Graph

end Workflows
