/-
Steps, the canonical form in which a workflow is stored and run, and how raw entries become steps.
Reading is lenient: an entry that cannot be a step is passed over with a notice, a type nobody
knows is kept, and older spellings of parameters are folded into the present ones.
-/
import Workflows.Notice
import Workflows.Text.Case
import Workflows.Text.Search
import Workflows.Value.Coerce

namespace Workflows

open Workflows.Text

/-! ## Kinds of steps -/

/-- The kinds of steps that have a behaviour. -/
inductive StepKind
  | trigger | llm | image | httpRequest | code | delay
deriving DecidableEq, Repr

namespace StepKind

def all : List StepKind := [trigger, llm, image, httpRequest, code, delay]

/-- The type under which a step of this kind is stored. -/
def word : StepKind → String
  | trigger => "trigger"
  | llm => "llm"
  | image => "image"
  | httpRequest => "http_request"
  | code => "code"
  | delay => "delay"

/-- The name of a step of this kind that was given none. -/
def title : StepKind → String
  | trigger => "Trigger"
  | llm => "LLM"
  | image => "Image"
  | httpRequest => "HTTP Request"
  | code => "Code"
  | delay => "Delay"

/-- The kind with a given type; `http` is short for `http_request`. -/
def ofWord? (text : String) : Option StepKind :=
  if text = "http" then some httpRequest else all.find? (·.word == text)

/-- The kind that a type names, in any case of its letters and with blanks around it. -/
def ofText? (text : String) : Option StepKind := ofWord? (lower (trim text))

/-- The kind that a value names. -/
def ofValue? (v : Value) : Option StepKind := ofText? (v.orElse (.text "")).display

end StepKind

/-! ## Steps -/

/-- A step. Its type is the word of a kind or a type that nobody knows. Its name is a text, unless
it comes from a node whose name is none. -/
structure Step where
  id : String
  type : String
  name : Value
  params : Object
deriving DecidableEq, Repr

namespace Step

/-- The kind of a step; none if nobody knows its type. -/
def kind? (step : Step) : Option StepKind := StepKind.ofText? step.type

/-- A step as a value. -/
def toValue (step : Step) : Value :=
  .object [("id", .text step.id), ("type", .text step.type), ("name", step.name),
    ("params", .object step.params)]

/-! ## Parameters -/

/-- The parameters that an entry may carry beside its type. -/
def flatFields : List String := [
  "code", "jsCode", "pythonCode", "functionCode", "prompt", "prompt_template", "url", "method",
  "body", "headers", "seconds", "ms"]

/-- The parameters with several spellings, each with its spellings in order of preference. -/
def spellings : List (String × List String) := [
  ("code", ["code", "jsCode", "pythonCode", "functionCode"]),
  ("prompt", ["prompt", "prompt_template"])]

/-- Takes a parameter over from beside the type, unless it is among the parameters already. -/
def adoptField (entry params : Object) (key : String) : Object :=
  if Object.has params key then params
  else
    match Object.get? entry key with
    | some v => Object.put params key v
    | none => params

/-- Sets a parameter that is not filled in to the first of its spellings that is. -/
def foldSpellings (params : Object) (key : String) (others : List String) : Object :=
  if (Object.getOrNull params key).isTrue then params
  else
    match others.find? fun other => (Object.getOrNull params other).isTrue with
    | some other => Object.put params key (Object.getOrNull params other)
    | none => params

/-- The parameters of an entry, whose own parameters are given. -/
def normalizeParams (entry params : Object) : Object :=
  let flat := flatFields.foldl (adoptField entry) params
  spellings.foldl (fun params (key, others) => foldSpellings params key others) flat

/-! ## Reading -/

def warn (text : String) : Notice := ⟨.warning, text⟩

/-- The step of an object, whose parameters are given; the position is that of the entry. -/
def ofMembers (entry params : Object) (position : Nat) : Step × List Notice :=
  let type := trim ((Object.getOrNull entry "type").orElse (.text "")).display
  let kind := StepKind.ofText? type
  let title := match kind with
    | some kind => kind.title
    | none => if type = "" then "Step" else type
  let defaultId := "step_" ++ toString position
  let step : Step := {
    id := ((Object.getOrNull entry "id").orElse (.text defaultId)).display
    type := (kind.map StepKind.word).getD type
    name := .text ((Object.getOrNull entry "name").orElse (.text title)).display
    params := normalizeParams entry params }
  let notices := match kind with
    | some _ => []
    | none => [warn ("Step " ++ toString position ++ " has unrecognized type " ++ quoted type ++
        "; it will be skipped at run time")]
  (step, notices)

/-- The step of an entry at a position, counted from one; none if it is no object or its
parameters are none. -/
def ofValue (entry : Value) (position : Nat) : Option Step × List Notice :=
  match entry with
  | .object members =>
    match Object.getOrNull members "params" with
    | .null =>
      let (step, notices) := ofMembers members [] position
      (some step, notices)
    | .object params =>
      let (step, notices) := ofMembers members params position
      (some step, notices)
    | v => (none, [warn ("Skipping step " ++ toString position ++
        ": params must be an object, got " ++ v.kind.word)])
  | v => (none, [warn ("Skipping step " ++ toString position ++ ": expected an object, got " ++
      v.kind.word)])

/-- The steps of entries from a position on. -/
def ofEntries (position : Nat) : List Value → List Step × List Notice
  | [] => ([], [])
  | entry :: entries =>
    let (step?, notices) := ofValue entry position
    let (steps, more) := ofEntries (position + 1) entries
    (step?.toList ++ steps, notices ++ more)

/-- The steps of a list of entries, of which at least one is usable. -/
def readEntries (entries : List Value) : Except Fault (List Step) × List Notice :=
  if entries.isEmpty then (.error .noSteps, [])
  else
    let (steps, notices) := ofEntries 1 entries
    (if steps.isEmpty then .error .noUsableSteps else .ok steps, notices)

/-- The steps of a value: whatever is empty has no steps, and of a text the characters and of an
object the names are its entries. -/
def read (raw : Value) : Except Fault (List Step) × List Notice :=
  match (raw.orElse (.list [])).elements with
  | .ok entries => readEntries entries
  | .error fault => (.error fault, [])

end Step

end Workflows
