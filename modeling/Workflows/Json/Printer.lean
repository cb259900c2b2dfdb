/-
JSON text of values. A layout says how items and members are separated, whether every item stands
on a line of its own, and whether characters outside ASCII are escaped. The names of a table become
texts, so that its text may name two members alike.
-/
import Workflows.Number.Shortest
import Workflows.Text.Digits
import Workflows.Value.Basic

namespace Workflows.Json

open Workflows.Text

/-- How JSON text is set. With an indent every item begins a line, indented by that many blanks a
level. -/
structure Layout where
  itemSeparator : List Char
  keySeparator : List Char
  indent : Option Nat
  ascii : Bool

/-- One line, a blank after each separator, ASCII only. -/
def Layout.plain : Layout := ⟨[',', ' '], [':', ' '], none, true⟩

/-- One line without blanks, all characters as they are. -/
def Layout.compact : Layout := ⟨[','], [':'], none, false⟩

/-- A line for each item, indented by two, all characters as they are. -/
def Layout.pretty : Layout := ⟨[','], [':', ' '], some 2, false⟩

/-- The beginning of an item at a level. -/
def Layout.lineBreak (layout : Layout) (level : Nat) : List Char :=
  match layout.indent with
  | none => []
  | some width => '\n' :: List.replicate (width * level) ' '

/-! ## Texts -/

/-- A numeric escape: one for each sixteen-bit unit of a character. -/
def numericEscape (c : Char) : List Char :=
  (units16 c.toNat).flatMap fun unit => '\\' :: 'u' :: hexDigits 4 unit

/-- One character of a text. -/
def writeChar (ascii : Bool) (c : Char) : List Char :=
  if c = '"' then ['\\', '"']
  else if c = '\\' then ['\\', '\\']
  else if c = '\n' then ['\\', 'n']
  else if c = '\r' then ['\\', 'r']
  else if c = '\t' then ['\\', 't']
  else if c = '\x08' then ['\\', 'b']
  else if c = '\x0c' then ['\\', 'f']
  else if c.toNat < 32 then numericEscape c
  else if ascii && 127 ≤ c.toNat then numericEscape c
  else [c]

/-- A text in double quotes. -/
def writeText (ascii : Bool) (s : String) : List Char :=
  '"' :: s.toList.flatMap (writeChar ascii) ++ ['"']

/-! ## Numbers -/

/-- An integer in decimal. -/
def writeInt : Int → List Char
  | .ofNat n => Nat.toDigits 10 n
  | .negSucc n => '-' :: Nat.toDigits 10 (n + 1)

/-- The shortest text of a number; the numbers that are not finite have words of their own. -/
def writeFloat (x : Binary64) : List Char :=
  if x.isNaN then "NaN".toList
  else if x.isInfinite then (if x.negative then "-Infinity" else "Infinity").toList
  else x.text.toList

/-! ## Values -/

/-- The text that a name becomes. -/
def nameText : Value → String
  | .text s => s
  | .null => "null"
  | .bool b => if b then "true" else "false"
  | .int n => String.ofList (writeInt n)
  | .float x => String.ofList (writeFloat x)
  | .list _ | .object _ | .table _ => ""

mutual

/-- A value at a level of nesting. -/
def write (layout : Layout) (level : Nat) : Value → List Char
  | .null => "null".toList
  | .bool true => "true".toList
  | .bool false => "false".toList
  | .int n => writeInt n
  | .float x => writeFloat x
  | .text s => writeText layout.ascii s
  | .list [] => ['[', ']']
  | .list (v :: vs) =>
    '[' :: layout.lineBreak (level + 1) ++ write layout (level + 1) v ++
      writeItems layout (level + 1) vs ++ layout.lineBreak level ++ [']']
  | .object [] => ['{', '}']
  | .object ((key, v) :: rest) =>
    '{' :: layout.lineBreak (level + 1) ++ writeText layout.ascii key ++ layout.keySeparator ++
      write layout (level + 1) v ++ writeMembers layout (level + 1) rest ++
      layout.lineBreak level ++ ['}']
  | .table [] => ['{', '}']
  | .table ((key, v) :: rest) =>
    '{' :: layout.lineBreak (level + 1) ++ writeText layout.ascii (nameText key) ++
      layout.keySeparator ++ write layout (level + 1) v ++ writeEntries layout (level + 1) rest ++
      layout.lineBreak level ++ ['}']

/-- The items after the first, each behind a separator. -/
def writeItems (layout : Layout) (level : Nat) : List Value → List Char
  | [] => []
  | v :: vs =>
    layout.itemSeparator ++ layout.lineBreak level ++ write layout level v ++
      writeItems layout level vs

/-- The members after the first, each behind a separator. -/
def writeMembers (layout : Layout) (level : Nat) : List (String × Value) → List Char
  | [] => []
  | (key, v) :: rest =>
    layout.itemSeparator ++ layout.lineBreak level ++ writeText layout.ascii key ++
      layout.keySeparator ++ write layout level v ++ writeMembers layout level rest

/-- The entries after the first, each behind a separator. -/
def writeEntries (layout : Layout) (level : Nat) : List (Value × Value) → List Char
  | [] => []
  | (key, v) :: rest =>
    layout.itemSeparator ++ layout.lineBreak level ++ writeText layout.ascii (nameText key) ++
      layout.keySeparator ++ write layout level v ++ writeEntries layout level rest

end

/-- The JSON text of a value. -/
def render (layout : Layout) (v : Value) : String := String.ofList (write layout 0 v)

/-! ## Reading back -/

mutual

/-- A value as it is read from its JSON text: a table is an object there, whose names are texts. -/
def published : Value → Value
  | .list items => .list (publishedItems items)
  | .object members => .object (publishedMembers members)
  | .table entries => .object (Object.ofPairs (publishedEntries entries))
  | v => v

def publishedItems : List Value → List Value
  | [] => []
  | v :: vs => published v :: publishedItems vs

def publishedMembers : List (String × Value) → List (String × Value)
  | [] => []
  | (key, v) :: rest => (key, published v) :: publishedMembers rest

def publishedEntries : List (Value × Value) → List (String × Value)
  | [] => []
  | (key, v) :: rest => (nameText key, published v) :: publishedEntries rest

end

end Workflows.Json
