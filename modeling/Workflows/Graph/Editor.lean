/-
Reading a graph from the export of the editor, where every node carries its own connections, sorted
under its outputs. Entries that cannot be used are passed over with a warning.
-/
import Workflows.Graph.Payload
import Workflows.Text.Quoted

namespace Workflows.Graph

open Workflows.Text

/-- The nodes of an export, by their keys. -/
def editorNodes (drawing : Value) : Except Fault Object := do
  let flow ← (drawing.orElse (.object [])).member "drawflow"
  let flow ← (flow.orElse (.object [])).membersFor "get"
  let home ← ((Object.get? flow "Home").getD (.object [])).membersFor "get"
  ((Object.getOrNull home "data").orElse (.object [])).membersFor "items"

/-- The members of a part that should be an object; none if it is something else. -/
def partMembers (entry : Object) (key : String) : Object :=
  ((Object.getOrNull entry key).members?).getD []

/-- The index of a port from its key, such as `output_2`; the first port if it has none. -/
def portIndex (port : Value) : Int :=
  match Numeral.integer? (String.ofList (lastPiece '_' port.display.toList)) with
  | .ok n => max (n - 1) 0
  | .error _ => 0

/-- The parameters among the data of a node: what is not marked as the editor's own. -/
def editorParameters (data : Object) : Object := data.filter fun (key, _) => !beginsWith key "_"

/-- The coordinates of a node; the origin if one of them is no number. -/
def editorPosition (entry : Object) : Except Fault (List Binary64) :=
  let coordinate (key : String) := ((Object.getOrNull entry key).orElse (.int 0)).toFloat
  match ["pos_x", "pos_y"].mapM coordinate with
  | .ok xs => .ok xs
  | .error fault => if isPositionFault fault then .ok Node.origin else .error fault

/-- The node of an entry. -/
def editorNode (id : String) (entry : Object) : Except Fault Node :=
  let data := partMembers entry "data"
  let get := Object.getOrNull data
  let name := Object.getOrNull entry "name"
  (editorPosition entry).bind fun position =>
    Node.make id (firstTrue (.text "") [get "_n8nType", get "_nodeClass", name]).display
      (firstTrue (.text id) [get "_nodeName", name])
      (.object (editorParameters data)) position (get "_needsConfig").isTrue

/-- Adds a connection that is listed under an output of a node. -/
def addEditorConnection (id : String) (output : Int) (graph : Graph) (entry : Value) : Graph :=
  let skipped := graph.warn
    ("Skipping connection from editor node " ++ id ++ ": no target node")
  match entry with
  | .object members =>
    let target := Object.getOrNull members "node"
    if target.isUnset then skipped
    else
      let input := portIndex ((Object.get? members "output").getD (.text "input_1"))
      graph.connect ⟨id, output, target.display, input⟩
  | _ => skipped

/-- Adds the connections of an output of a node. -/
def addEditorOutput (id : String) (graph : Graph) (key : String) (output : Value) :
    Except Fault Graph :=
  match output with
  | .object members =>
    (entriesOf (Object.getOrNull members "connections")).map fun entries =>
      entries.foldl (addEditorConnection id (portIndex (.text key))) graph
  | _ => .ok (graph.warn ("Skipping output " ++ quoted key ++ " of editor node " ++ id ++
      ": not an object"))

/-- Adds the node of an entry with its connections. -/
def addEditorNode (graph : Graph) (key : String) (entry : Value) : Except Fault Graph :=
  match entry with
  | .object members =>
    let id := ((Object.get? members "id").getD (.text key)).display
    (editorNode id members).bind fun node =>
      (partMembers members "outputs").foldlM
        (fun graph (key, output) => addEditorOutput id graph key output) (graph.addNode node)
  | _ => .ok (graph.warn ("Skipping editor node " ++ quoted key ++ ": not an object"))

/-- The graph of an export of the editor. -/
def ofEditor (drawing : Value) : Except Fault Graph := do
  let nodes ← editorNodes drawing
  nodes.foldlM (fun graph (key, entry) => addEditorNode graph key entry) {}

end Workflows.Graph
