/-
Reading a graph from its plain form, an object with nodes and connections. An entry that cannot be
used is passed over with a warning that tells its place.
-/
import Workflows.Graph.Basic

namespace Workflows.Graph

/-- The first value that counts as true, or the last one. -/
def firstTrue (last : Value) : List Value → Value
  | [] => last
  | v :: vs => if v.isTrue then v else firstTrue last vs

/-! ## Nodes -/

/-- Whether a fault only means that a position is unreadable. -/
def isPositionFault (fault : Fault) : Bool :=
  match fault.kind with
  | .wrongKind | .wrongValue => true
  | _ => false

/-- Two coordinates at most, from as many numbers as there are; the origin if they are none. -/
def readPosition (raw : Value) : Except Fault (List Binary64) :=
  if raw.isTrue then
    match raw.elements.bind fun items => items.mapM Value.toFloat with
    | .ok xs => .ok (xs.take 2)
    | .error fault => if isPositionFault fault then .ok Node.origin else .error fault
  else .ok Node.origin

/-- The node of an object with an id. -/
def readNode (entry : Object) (id : Value) : Except Fault Node :=
  let get := Object.getOrNull entry
  (readPosition (get "position")).bind fun position =>
    let parameters := match get "parameters" with
      | .object members => .object members
      | _ => .object []
    Node.make id.display
      (firstTrue (.text "") [get "declared_type", get "type"]).display
      (firstTrue (.text id.display) [get "display_name", get "name"])
      parameters position (get "needs_configuration").isTrue

/-- Adds the node of an entry, whose place is counted from one. -/
def addPayloadNode (graph : Graph) (place : Nat) (entry : Value) : Except Fault Graph :=
  let skipped := graph.warn
    ("Skipping node #" ++ toString place ++ ": expected an object with an id")
  match entry with
  | .object members =>
    let id := Object.getOrNull members "id"
    if id.isUnset then .ok skipped else (readNode members id).map graph.addNode
  | _ => .ok skipped

/-! ## Connections -/

/-- A port of an entry; zero if it is not filled in. -/
def readPort (entry : Value) (key : String) : Except Fault Int := do
  let port ← entry.member key
  (port.orElse (.int 0)).toInt

/-- The connection of an entry. -/
def readConnection (entry : Value) : Except Fault Connection := do
  let source ← entry.part "source_node_id"
  let output ← readPort entry "source_output_index"
  let target ← entry.part "target_node_id"
  let input ← readPort entry "target_input_index"
  return ⟨source.display, output, target.display, input⟩

/-- Whether a fault only means that an entry is malformed. -/
def isMalformation (fault : Fault) : Bool :=
  match fault.kind with
  | .operation | .key | .wrongKind | .wrongValue => true
  | _ => false

/-- Adds the connection of an entry, whose place is counted from one. -/
def addPayloadConnection (graph : Graph) (place : Nat) (entry : Value) : Except Fault Graph :=
  match readConnection entry with
  | .ok connection => .ok (graph.connect connection)
  | .error fault =>
    if isMalformation fault then
      .ok (graph.warn ("Skipping connection #" ++ toString place ++ ": malformed entry (" ++
        fault.label ++ ": " ++ fault.message ++ ")"))
    else .error fault

/-! ## Graphs -/

/-- Adds entries one after another, the first of which has a given place. -/
def addEntries (add : Graph → Nat → Value → Except Fault Graph) (graph : Graph) (place : Nat) :
    List Value → Except Fault Graph
  | [] => .ok graph
  | entry :: entries => (add graph place entry).bind fun graph =>
    addEntries add graph (place + 1) entries

/-- The entries of a part of a payload; none if it is not filled in. -/
def entriesOf (part : Value) : Except Fault (List Value) := (part.orElse (.list [])).elements

/-- The graph that a payload describes. -/
def ofPayload (payload : Value) : Except Fault Graph := do
  let members ← payload.membersFor "get"
  let name := ((Object.getOrNull members "name").orElse (.text "")).display
  let nodes ← entriesOf (Object.getOrNull members "nodes")
  let graph ← addEntries addPayloadNode { name := .text name } 1 nodes
  let connections ← entriesOf (Object.getOrNull members "connections")
  addEntries addPayloadConnection graph 1 connections

end Workflows.Graph
