/-
The table of workflows. A row is kept as it was written; its steps are JSON text, which is read
leniently whenever the workflow is loaded. A new row has the highest id plus one and the time of the
clock, by which the rows are listed.
-/
import Workflows.Json.Printer
import Workflows.Step
import Workflows.Store.Column

namespace Workflows

/-! ## Step lists as text -/

namespace StepList

/-- The text of entries. -/
def encodeEntries (entries : List Value) : String := Json.render .plain (.list entries)

/-- The text of steps. -/
def encode (steps : List Step) : String := encodeEntries (steps.map Step.toValue)

/-- The text of a step list in raw form. -/
def encodeRaw (raw : Value) : Except Fault String :=
  ((raw.orElse (.list [])).elements).map encodeEntries

/-- The steps of the entries that a text holds; none if none is usable. -/
def ofEntries (entries : List Value) : List Step × List Notice :=
  let (steps, notices) := Step.readEntries entries
  (steps.toOption.getD [], notices)

/-- The steps that a text holds; none if it is no JSON or no list. An integer with too many digits
is a fault. -/
def decode (text : String) : Except Fault (List Step) × List Notice :=
  match Json.read (if text = "" then "[]" else text) with
  | .ok (.list entries) =>
    let (steps, notices) := ofEntries entries
    (.ok steps, notices)
  | .ok _ => (.ok [], [])
  | .error (.longInteger digits) => (.error (.longInteger digits), [])
  | .error (.mistake _ _ _ _) =>
    (.ok [], [⟨.warning, "Stored step list is not valid JSON; treating it as empty"⟩])

end StepList

/-! ## Rows -/

/-- A row of the table, with the time at which it was added. -/
structure Row where
  id : Int
  name : String
  description : Option String
  steps : String
  created : Nat
deriving DecidableEq, Repr

/-- A workflow that was loaded from its row. -/
structure Workflow where
  id : Int
  name : String
  description : String
  steps : List Step
deriving DecidableEq, Repr

def Workflow.toValue (workflow : Workflow) : Value :=
  .object [("id", .int workflow.id), ("name", .text workflow.name),
    ("description", .text workflow.description),
    ("steps", .list (workflow.steps.map Step.toValue))]

/-- Loads the workflow of a row. -/
def Row.load (row : Row) : Except Fault Workflow × List Notice :=
  let (steps, notices) := StepList.decode row.steps
  (steps.map fun steps => ⟨row.id, row.name, row.description.getD "", steps⟩, notices)

/-! ## Tables -/

/-- The rows in the order in which they were added, and the time that the next one is given. -/
structure Table where
  rows : List Row := []
  clock : Nat := 0
deriving DecidableEq, Repr

namespace Table

/-- The highest id, or zero in an empty table. -/
def highest (table : Table) : Int := (table.rows.map (·.id)).foldl max 0

/-- Adds a row, and gives its id. -/
def insert (table : Table) (name : String) (description : Option String) (steps : String) :
    Int × Table :=
  let id := table.highest + 1
  (id, { table with rows := table.rows ++ [⟨id, name, description, steps, table.clock⟩] })

/-- Some time passes. -/
def wait (table : Table) (time : Nat) : Table := { table with clock := table.clock + time }

/-- Adds a row of values as they are. -/
def insertRaw (table : Table) (name description steps : Value) : Except Fault (Int × Table) := do
  let name ← Column.text name
  let description ← Column.text description
  let steps ← Column.text steps
  match name, steps with
  | some name, some steps => return table.insert name description steps
  | _, _ => .error .emptyColumn

/-- Saves a workflow, whose step list is given as text. A description that is not filled in is the
empty text. -/
def saveText (table : Table) (name description : Value) (steps : String) :
    Except Fault (Int × Table) :=
  table.insertRaw name (description.orElse (.text "")) (.text steps)

/-- Saves a workflow with a step list in raw form. -/
def save (table : Table) (name description steps : Value) : Except Fault (Int × Table) :=
  (StepList.encodeRaw steps).bind (table.saveText name description)

/-- Saves a workflow with steps. -/
def saveSteps (table : Table) (name description : Value) (steps : List Step) :
    Except Fault (Int × Table) :=
  table.saveText name description (StepList.encode steps)

/-- The row with an id. -/
def row? (table : Table) (id : Int) : Option Row := table.rows.find? (·.id == id)

/-- The row that a value is the key of. -/
def find (table : Table) (id : Value) : Except Fault (Option Row) :=
  (Column.key? id).map fun key => key.bind table.row?

/-- Loads the workflow with an id. -/
def get (table : Table) (id : Value) : Except Fault (Option Workflow) × List Notice :=
  match table.find id with
  | .error fault => (.error fault, [])
  | .ok none => (.ok none, [])
  | .ok (some row) =>
    let (workflow, notices) := row.load
    (workflow.map some, notices)

/-- Loads the workflows of rows. -/
def loadAll : List Row → Except Fault (List Workflow) × List Notice
  | [] => (.ok [], [])
  | row :: rows =>
    let (workflow, notices) := row.load
    match workflow with
    | .error fault => (.error fault, notices)
    | .ok workflow =>
      let (workflows, more) := loadAll rows
      (workflows.map (workflow :: ·), notices ++ more)

/-- A row is listed before another: it was added later, or at the same time under a higher id. -/
def isNewer (a b : Row) : Bool := b.created < a.created || (a.created == b.created && b.id < a.id)

/-- Puts a row in front of the first one that is not newer. -/
def insertByAge (row : Row) : List Row → List Row
  | [] => [row]
  | other :: rows =>
    if isNewer other row then other :: insertByAge row rows else row :: other :: rows

/-- Rows by their age, the newest first. -/
def newestFirst (rows : List Row) : List Row := rows.foldr insertByAge []

/-- Loads all workflows, the newest first. -/
def list (table : Table) : Except Fault (List Workflow) × List Notice :=
  loadAll (newestFirst table.rows)

/-- Removes the row with an id, and tells whether there was one. -/
def delete (table : Table) (id : Value) : Except Fault (Bool × Table) :=
  (table.find id).map fun row =>
    match row with
    | some row => (true, { table with rows := table.rows.filter (·.id != row.id) })
    | none => (false, table)

end Table

end Workflows
