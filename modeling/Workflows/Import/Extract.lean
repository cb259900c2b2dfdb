/-
Finding an export in free text, as in the reply of a chat: in a fenced block of JSON, or else from
the first opening brace to the last closing one, if a name and nodes are between them.
-/
import Workflows.Notice
import Workflows.Text.Search
import Workflows.Value.Coerce

namespace Workflows.Import

open Workflows.Text

/-- Three grave accents, the fence of a block. -/
def fence : List Char := List.replicate 3 (Char.ofNat 96)

/-- What a fenced block of JSON holds, without the blanks around it. -/
def fencedBlock? (cs : List Char) : Option (List Char) := do
  let (_, rest) ← splitFirst? (fence ++ "json".toList) cs
  let (block, _) ← splitFirst? fence rest
  return trimChars block

/-- The part of a text up to its last closing brace. -/
def upToLastBrace (cs : List Char) : List Char := (cs.reverse.dropWhile (· != '}')).reverse

/-- What stands from the first opening brace to the last closing one, if a name, then nodes, and
then a closing brace are behind the first one. -/
def bracedPart? (cs : List Char) : Option (List Char) := do
  let start := cs.dropWhile (· != '{')
  let (_, afterName) ← splitFirst? "\"name\"".toList (start.drop 1)
  let (_, afterNodes) ← splitFirst? "\"nodes\"".toList afterName
  if afterNodes.contains '}' then return upToLastBrace start
  else none

/-- The part of a text that may be an export. -/
def candidate? (text : String) : Option (List Char) :=
  (fencedBlock? text.toList).or (bracedPart? text.toList)

/-- The export in a text; none if there is no candidate or it writes no object. An integer with too
many digits is a fault. -/
def extract (text : String) : Except Fault (Option Object) × List Notice :=
  match candidate? text with
  | none => (.ok none, [])
  | some candidate =>
    match Json.read (String.ofList candidate) with
    | .ok v => (.ok v.members?, [])
    | .error (.longInteger digits) => (.error (.longInteger digits), [])
    | .error e => (.ok none, [⟨.warning, "Failed to parse workflow JSON: " ++ e.message⟩])

/-- The export in a value that should be a text; there is none in a value that is empty. -/
def extractValue (v : Value) : Except Fault (Option Object) × List Notice :=
  match v.orElse (.text "") with
  | .text s => extract s
  | v => (.error (.notAText v.kind), [])

end Workflows.Import
