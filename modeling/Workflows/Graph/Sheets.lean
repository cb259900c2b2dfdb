/-
The conversion of a graph as several parts carry it out that share sheets of warnings. A sheet is
known by its number: whoever is given the number writes on that sheet, and so do all others who
have it. The graph's own warnings are on a sheet too; the conversion copies it and writes on the
copy.
-/
import Workflows.Graph.Steps

namespace Workflows

/-- Sheets of warnings, numbered from zero. -/
abbrev Sheets := List (List String)

namespace Sheets

/-- What stands on a sheet. -/
def read (number : Nat) : StateM Sheets (List String) := return (← get).getD number []

/-- Writes warnings below those on a sheet. -/
def write (number : Nat) (warnings : List String) : StateM Sheets Unit :=
  modify fun sheets => List.modify sheets number (· ++ warnings)

/-- The number of a new sheet with some warnings on it. -/
def add (warnings : List String) : StateM Sheets Nat :=
  modifyGet fun sheets => (sheets.length, sheets ++ [warnings])

end Sheets

namespace Graph

/-- The warning about a connection with an end that is no node. -/
def unknownWarning (c : Connection) : String :=
  "Ignoring connection " ++ c.source ++ " -> " ++ c.target ++ ": unknown node"

/-- The warning about a connection that closes a cycle. -/
def cycleWarning (c : Connection) : String :=
  "Cycle detected at connection " ++ c.source ++ " -> " ++ c.target ++
    "; it will not be revisited"

/-- Those of some connections that are between nodes. The others are written about. -/
def sortOut (graph : Graph) (number : Nat) : List Connection → StateM Sheets (List Connection)
  | [] => return []
  | c :: cs => do
    if graph.knows c then return c :: (← graph.sortOut number cs)
    else
      Sheets.write number [unknownWarning c]
      graph.sortOut number cs

/-- The connections that close a cycle. What is written about the others is on a sheet that nobody
else is given. -/
def reportBackEdges (graph : Graph) : StateM Sheets (List Connection) := do
  let scrap ← Sheets.add []
  let known ← graph.sortOut scrap graph.connections
  return (graph.ids.foldl (searchFrom known) {}).closing

/-- Writes about the connections that close a cycle. -/
def reportCycles (graph : Graph) (number : Nat) : StateM Sheets Unit := do
  let closing ← graph.reportBackEdges
  forM closing fun c => Sheets.write number [cycleWarning c]

/-- The ids of all nodes in the order of the walk. -/
def reportOrder (graph : Graph) (number : Nat) : StateM Sheets (List String) := do
  let known ← graph.sortOut number graph.connections
  let roots := (graph.nodes.filter fun node =>
    node.kind == .trigger || !known.any fun c => c.target == node.id).map (·.id)
  return walk known [] (roots ++ graph.ids)

/-- The step of a node. -/
def reportStep (usualDelay : Int) (number : Nat) (node : Node) :
    ExceptT Fault (StateM Sheets) Step :=
  match node.toStep usualDelay with
  | .error fault => throw fault
  | .ok (step, warnings) => do
    Sheets.write number warnings
    return step

/-- The steps of the first nodes with some ids, and the ids of those that need configuration. -/
def reportSteps (usualDelay : Int) (graph : Graph) (number : Nat) :
    List String → ExceptT Fault (StateM Sheets) (List Step × List String)
  | [] => return ([], [])
  | id :: ids =>
    match graph.node? id with
    | none => reportSteps usualDelay graph number ids
    | some node => do
      let step ← reportStep usualDelay number node
      let (steps, flagged) ← reportSteps usualDelay graph number ids
      return (step :: steps, if node.needsConfiguration then node.id :: flagged else flagged)

/-- The steps of a graph whose warnings are on the sheet of a given number. -/
def reportConversion (usualDelay : Int) (graph : Graph) (own : Nat) :
    ExceptT Fault (StateM Sheets) Conversion := do
  let number ← Sheets.add (← Sheets.read own)
  graph.reportCycles number
  let ids ← graph.reportOrder number
  let (steps, needsConfiguration) ← graph.reportSteps usualDelay number ids
  return { steps, warnings := ← Sheets.read number, needsConfiguration }

end Graph

end Workflows
