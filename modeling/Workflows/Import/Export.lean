/-
Importing the export of another workflow tool. Its nodes get fresh ids in order, because their own
need not be unique, and its connections, which refer to nodes by name, are resolved to those ids.
-/
import Workflows.Graph.Steps
import Workflows.Import.Credential
import Workflows.Import.Placeholder
import Workflows.Text.Quoted

namespace Workflows.Import

open Workflows.Text

/-- An imported workflow. The table of names holds the id of the first node with each name. -/
structure Imported where
  name : Value
  graph : Graph
  nameToId : List (String × String)
  required : List Credential
  warnings : List String
deriving DecidableEq, Repr

namespace Imported

/-- The names of the nodes that need configuration. -/
def needsConfiguration (imported : Imported) : List Value :=
  (imported.graph.nodes.filter (·.needsConfiguration)).map (·.displayName)

/-- The steps of an imported workflow, with the warnings of the import before all others. -/
def toSteps (usualDelay : Int) (imported : Imported) : Except Fault Conversion :=
  (imported.graph.toSteps usualDelay).map fun conversion =>
    { conversion with warnings := imported.warnings ++ conversion.warnings }

end Imported

/-! ## Nodes -/

/-- A part of a position. Only a list or a text has parts by place. -/
def part (position : Value) (place : Nat) : Except Fault Value :=
  match position with
  | .list items =>
    match items[place]? with
    | some v => .ok v
    | none => .error .listTooShort
  | .text s =>
    match s.toList[place]? with
    | some c => .ok (.text c.toString)
    | none => .error .textTooShort
  | .object _ => .error (.missingKey (.int place))
  | v => .error (.notSubscriptable v.kind)

/-- A coordinate of a position. -/
def coordinate (position : Value) (place : Nat) : Except Fault Binary64 :=
  (part position place).bind Value.toFloat

/-- The position of the node at a place, counted from zero: nodes without one stand in a row. -/
def importPosition (place : Nat) (raw : Value) : Except Fault (List Binary64) := do
  let position := raw.orElse (.list [.int (200 + place * 250), .int 250])
  let x ← coordinate position 0
  let y ← coordinate position 1
  return [x, y]

/-- What the import of nodes has made so far. -/
structure NodeTable where
  nodes : List Node := []
  nameToId : List (String × String) := []
  warnings : List String := []

namespace NodeTable

/-- The id of the first node with a name. -/
def id? (names : List (String × String)) (name : String) : Option String :=
  (names.find? (·.1 == name)).map (·.2)

/-- Adds the node of an entry at a place, counted from zero. -/
def add (table : NodeTable) (place : Nat) (entry : Value) : Except Fault NodeTable :=
  match entry with
  | .object members => do
    let id := toString (table.nodes.length + 1)
    let name := ((Object.getOrNull members "name").orElse (.text ("Node " ++ id))).display
    let params := (Object.getOrNull members "parameters").orElse (.object [])
    let declared := ((Object.get? members "type").getD (.text "")).display
    let position ← importPosition place (Object.getOrNull members "position")
    let node ← Node.make id declared (.text name) params position (holdsPlaceholder params)
    if (id? table.nameToId name).isSome then
      return { table with
        nodes := table.nodes ++ [node]
        warnings := table.warnings ++ ["Duplicate node name " ++ quoted name ++
          "; connections resolve to the first one"] }
    else
      return { table with
        nodes := table.nodes ++ [node], nameToId := table.nameToId ++ [(name, id)] }
  | _ => .ok { table with
      warnings := table.warnings ++ ["Skipping node #" ++ toString (place + 1) ++
        ": not an object"] }

/-- Adds entries one after another, the first of which has a given place. -/
def addAll (table : NodeTable) (place : Nat) : List Value → Except Fault NodeTable
  | [] => .ok table
  | entry :: entries => (table.add place entry).bind fun table => table.addAll (place + 1) entries

end NodeTable

/-! ## Connections -/

/-- The connections that were resolved, and the warnings about the others. -/
structure Links where
  connections : List Connection := []
  warnings : List String := []

/-- The id of the node that a value names, if it is the name of a node. -/
def namedId? (names : List (String × String)) (name : Value) : Except Fault (Option String) :=
  match name with
  | .text s => .ok (NodeTable.id? names s)
  | .list _ | .object _ | .table _ => .error (.notAName name.kind)
  | _ => .ok none

/-- Adds a connection to the target that an entry names. -/
def addTarget (names : List (String × String)) (source : String) (output : Nat) (links : Links)
    (entry : Value) : Except Fault Links := do
  let name ← entry.member "node"
  match ← namedId? names name with
  | none =>
    return { links with
      warnings := links.warnings ++ ["Connection target not found: " ++ name.display] }
  | some target =>
    let index ← entry.member "index"
    let input ← (index.orElse (.int 0)).toInt
    return { links with connections := links.connections ++ [⟨source, output, target, input⟩] }

/-- Adds the connections from the outputs of a node, the first of which has a given index. -/
def addOutputs (names : List (String × String)) (source : String) (links : Links) (output : Nat) :
    List Value → Except Fault Links
  | [] => .ok links
  | targets :: rest => do
    let entries ← Graph.entriesOf targets
    let links ← entries.foldlM (addTarget names source output) links
    addOutputs names source links (output + 1) rest

/-- Adds the connections from the node with a name. -/
def addSource (names : List (String × String)) (links : Links) (source : String)
    (outputs : Value) : Except Fault Links :=
  match NodeTable.id? names source with
  | none => .ok { links with
      warnings := links.warnings ++ ["Connection source not found: " ++ source] }
  | some id => do
    let main ← (outputs.orElse (.object [])).member "main"
    let outputs ← Graph.entriesOf main
    addOutputs names id links 0 outputs

/-! ## Exports -/

/-- Imports an export. -/
def importExport (whole : Value) : Except Fault Imported := do
  let members ← whole.membersFor "get"
  let name := (Object.getOrNull members "name").orElse (.text "Imported Workflow")
  let nodes := (Object.getOrNull members "nodes").orElse (.list [])
  let sources := (Object.getOrNull members "connections").orElse (.object [])
  if !nodes.isTrue then .error .noNodes
  else
    let entries ← nodes.elements
    let table ← NodeTable.addAll {} 0 entries
    let sources ← sources.membersFor "items"
    let links ← sources.foldlM
      (fun links (source, outputs) => addSource table.nameToId links source outputs) {}
    let types ← mentionedIn entries
    return {
      name
      graph := { name, nodes := table.nodes, connections := links.connections }
      nameToId := table.nameToId
      required := requiredCredentials types
      warnings := table.warnings ++ links.warnings }

end Workflows.Import
