/-
Checks of what a request brings: its body and the id in its path. A check gives what it has read, or
every complaint that there is, each with its place.
-/
import Workflows.Json.Encoding
import Workflows.Json.Reader
import Workflows.Settings.Basic

namespace Workflows.Api

/-! ## Complaints -/

/-- What is wrong with a part of a request. -/
inductive Defect
  | missing | noObject | noText | shortText | noList | noMembers | badTruth | noTruth | badValue
  | badInteger | longInteger | badJson
deriving DecidableEq, Repr

/-- The word for a defect. -/
def Defect.word : Defect → String
  | missing => "missing"
  | noObject => "model_attributes_type"
  | noText => "string_type"
  | shortText => "string_too_short"
  | noList => "list_type"
  | noMembers => "dict_type"
  | badTruth => "bool_parsing"
  | noTruth => "bool_type"
  | badValue => "value_error"
  | badInteger => "int_parsing"
  | longInteger => "int_parsing_size"
  | badJson => "json_invalid"

/-- A defect, the place where it is, and what was given there. What is missing from a body is
complained of with the whole body. -/
structure Complaint where
  place : String
  defect : Defect
  given : Value
deriving DecidableEq, Repr

/-- What a check gives. -/
abbrev Checked (α : Type) := Except (List Complaint) α

/-- A check that complains about one place. -/
def complain {α : Type} (place : String) (defect : Defect) (given : Value) : Checked α :=
  .error [⟨place, defect, given⟩]

/-- Two checks at once; the complaints of both are kept. -/
def Checked.both {α β : Type} (a : Checked α) (b : Checked β) : Checked (α × β) :=
  match a, b with
  | .ok x, .ok y => .ok (x, y)
  | .ok _, .error es => .error es
  | .error es, .ok _ => .error es
  | .error es, .error fs => .error (es ++ fs)

/-! ## Bodies -/

/-- The body of a request. -/
inductive Body
  | absent
  | value (v : Value)
deriving DecidableEq, Repr

/-- Why a body cannot be read. -/
inductive BodyError
  | noJson
  | unreadable
deriving DecidableEq, Repr

/-- Reads a body, which comes as octets. -/
def Body.read (octets : List Nat) : Except BodyError Body :=
  if octets.isEmpty then .ok .absent
  else
    match Json.decodeOctets? octets with
    | none => .error .unreadable
    | some cs =>
      match Json.read (String.ofList cs) with
      | .ok v => .ok (.value v)
      | .error (.longInteger _) => .error .unreadable
      | .error (.mistake _ _ _ _) => .error .noJson

/-- The members of a body that must be an object. -/
def Body.members : Body → Checked Object
  | absent => complain "body" .missing .null
  | value (.object members) => .ok members
  | value v => complain "body" .noObject v

/-! ## Members -/

/-- A text of at least so many characters, which must be there. -/
def requiredText (members : Object) (key : String) (least : Nat) : Checked String :=
  match Object.get? members key with
  | none => complain ("body." ++ key) .missing (.object members)
  | some (.text s) =>
    if s.length < least then complain ("body." ++ key) .shortText (.text s) else .ok s
  | some v => complain ("body." ++ key) .noText v

/-- A text, empty if it is not there. -/
def textMember (members : Object) (key : String) : Checked String :=
  match Object.get? members key with
  | none => .ok ""
  | some (.text s) => .ok s
  | some v => complain ("body." ++ key) .noText v

/-- A list, empty if it is not there. -/
def listMember (members : Object) (key : String) : Checked (List Value) :=
  match Object.get? members key with
  | none => .ok []
  | some (.list items) => .ok items
  | some v => complain ("body." ++ key) .noList v

/-- An object, or nothing if it is null or not there. -/
def objectMember? (members : Object) (key : String) : Checked (Option Object) :=
  match Object.getOrNull members key with
  | .null => .ok none
  | .object inner => .ok (some inner)
  | v => complain ("body." ++ key) .noMembers v

/-- A text, or nothing if it is null or not there. -/
def textMember? (members : Object) (key : String) : Checked (Option String) :=
  match Object.getOrNull members key with
  | .null => .ok none
  | .text s => .ok (some s)
  | v => complain ("body." ++ key) .noText v

/-- A truth value, leniently: also the numbers 0 and 1 and the words for it. -/
def truthMember (members : Object) (key : String) : Checked Bool :=
  match Object.get? members key with
  | none => .ok false
  | some v =>
    let fail (defect : Defect) : Checked Bool := complain ("body." ++ key) defect v
    match v with
    | .bool b => .ok b
    | .int n => if n = 0 then .ok false else if n = 1 then .ok true else fail .badTruth
    | .float x =>
      if x.same (.zero false) then .ok false
      else if x.orderInt? 1 == some .eq then .ok true
      else if x.isFinite && x.denominator ∣ x.numerator then fail .badTruth
      else fail .noTruth
    | .text s =>
      match Settings.truth? s with
      | some b => .ok b
      | none => fail .badTruth
    | _ => fail .noTruth

/-- Any value, the empty text if it is not there. -/
def anyMember (members : Object) (key : String) : Value :=
  (Object.get? members key).getD (.text "")

/-! ## Requests -/

/-- A workflow that is to be saved. -/
structure NewWorkflow where
  name : String
  description : String
  steps : List Value
deriving DecidableEq, Repr

/-- Steps that are to be run without being saved. -/
structure DirectRun where
  steps : List Value
  input : Value
deriving DecidableEq, Repr

/-- What is to be turned into steps. -/
inductive Drawing
  | editor (members : Object)
  | graph (members : Object)
deriving DecidableEq, Repr

/-- Where an export is to be imported from. -/
inductive ImportSource
  | workflow (members : Object)
  | text (s : String)
deriving DecidableEq, Repr

/-- An export that is to be imported, and perhaps saved. -/
structure ImportRequest where
  source : ImportSource
  save : Bool
deriving DecidableEq, Repr

def NewWorkflow.check (body : Body) : Checked NewWorkflow := do
  let members ← body.members
  let (name, description, steps) ← (requiredText members "name" 1).both
    ((textMember members "description").both (listMember members "steps"))
  return ⟨name, description, steps⟩

def DirectRun.check (body : Body) : Checked DirectRun := do
  let members ← body.members
  let steps ← listMember members "steps"
  return ⟨steps, anyMember members "input"⟩

/-- The export of the editor is preferred to a graph; one of them must be there. -/
def Drawing.check (body : Body) : Checked Drawing := do
  let members ← body.members
  let sources ← (objectMember? members "editor_export").both (objectMember? members "graph")
  match sources with
  | (some drawn, _) => return .editor drawn
  | (none, some plain) => return .graph plain
  | (none, none) => complain "body" .badValue (.object members)

/-- A workflow is preferred to a text; one of them must be there, and the text not empty. -/
def ImportRequest.check (body : Body) : Checked ImportRequest := do
  let members ← body.members
  let (workflow, text, save) ← (objectMember? members "workflow").both
    ((textMember? members "text").both (truthMember members "save"))
  match workflow, text.getD "" with
  | some exported, _ => return ⟨.workflow exported, save⟩
  | none, "" => complain "body" .badValue (.object members)
  | none, text => return ⟨.text text, save⟩

/-- The input of a run; the body may be absent or null. -/
def checkInput (body : Body) : Checked Value :=
  match body with
  | .absent | .value .null => .ok (.text "")
  | body => body.members.map fun members => anyMember members "input"

/-- The id in a path. -/
def checkId (text : String) : Checked Int :=
  match Lenient.integer? text with
  | .ok n => .ok n
  | .error .malformed => complain "path.workflow_id" .badInteger (.text text)
  | .error (.tooLong _) => complain "path.workflow_id" .longInteger (.text text)

end Workflows.Api
