/-
Upper and lower case of a text by the full mappings of the Unicode standard, where one letter may
become several. The capital sigma alone depends on its neighbours: its small form is another one at
the end of a word.
-/
import Workflows.Text.CaseTables
import Workflows.Text.Classes

namespace Workflows.Text

/-- The shift of the first run that a code point lies on. -/
def shiftIn (runs : List CaseRun) (code : Nat) : Option Int :=
  (runs.find? fun run =>
    run.first ≤ code && code ≤ run.last && (code - run.first) % run.step == 0).map (·.shift)

/-- The other case of a letter by a table of runs and one of expansions. -/
def mapCase (runs : List CaseRun) (expansions : List (Nat × List Nat)) (c : Char) : List Char :=
  match shiftIn runs c.toNat with
  | some shift => [Char.ofNat (c.toNat + shift).toNat]
  | none =>
    match expansions.find? (·.1 == c.toNat) with
    | some (_, codes) => codes.map Char.ofNat
    | none => [c]

/-- The upper case of one character. -/
def upperChar (c : Char) : List Char :=
  if c.toNat < 128 then [if 'a' ≤ c && c ≤ 'z' then Char.ofNat (c.toNat - 32) else c]
  else mapCase upperRuns upperExpansions c

/-- The lower case of one character. -/
def lowerChar (c : Char) : List Char :=
  if c.toNat < 128 then [if 'A' ≤ c && c ≤ 'Z' then Char.ofNat (c.toNat + 32) else c]
  else mapCase lowerRuns lowerExpansions c

/-- A text in upper case. -/
def upper (text : String) : String := String.ofList (text.toList.flatMap upperChar)

/-- The first character that is not passed over is a letter with a case. -/
def meetsLetter (cs : List Char) : Bool :=
  match cs.dropWhile fun c => inRanges passedInWords c.toNat with
  | c :: _ => inRanges casedLetters c.toNat
  | [] => false

/-- The lower case of a text; `before` is what stands before it, the nearest first. -/
def lowerFrom (before : List Char) : List Char → List Char
  | [] => []
  | c :: rest =>
    (if c = 'Σ' then [if meetsLetter before && !meetsLetter rest then 'ς' else 'σ']
     else lowerChar c) ++ lowerFrom (c :: before) rest

/-- A text in lower case. -/
def lower (text : String) : String := String.ofList (lowerFrom [] text.toList)

end Workflows.Text
