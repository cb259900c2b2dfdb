/-
The spelling of values in messages and wherever a value stands for a text: a text is itself there,
and any other value is spelled with its words for null and the truth values, with brackets, and
with the texts inside it quoted.
-/
import Workflows.Number.Shortest
import Workflows.Text.Quoted
import Workflows.Text.Search
import Workflows.Value.Basic

namespace Workflows.Value

open Workflows.Text

mutual

/-- The spelling of a value with texts quoted. -/
def spelling : Value → String
  | null => "None"
  | bool true => "True"
  | bool false => "False"
  | int n => toString n
  | float x => x.text
  | text s => quoted s
  | list items => "[" ++ joinWith ", " (spellItems items) ++ "]"
  | object members => "\x7b" ++ joinWith ", " (spellMembers members) ++ "\x7d"
  | table entries => "\x7b" ++ joinWith ", " (spellEntries entries) ++ "\x7d"

/-- The spellings of items. -/
def spellItems : List Value → List String
  | [] => []
  | v :: vs => spelling v :: spellItems vs

/-- The spellings of members. -/
def spellMembers : List (String × Value) → List String
  | [] => []
  | (key, v) :: rest => (quoted key ++ ": " ++ spelling v) :: spellMembers rest

/-- The spellings of entries. -/
def spellEntries : List (Value × Value) → List String
  | [] => []
  | (key, v) :: rest => (spelling key ++ ": " ++ spelling v) :: spellEntries rest

end

/-- A value as a text. -/
def display : Value → String
  | text s => s
  | v => spelling v

end Workflows.Value
