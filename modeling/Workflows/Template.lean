/-
Templates: texts with placeholders that are filled from the context. A field of a structured
context is written with a point or in brackets, and the token of the whole context stands for its
inline form. Whatever is none of these is left untouched. The three forms are filled one after
another, each in the text that the one before it has left.
-/
import Workflows.Context
import Workflows.Text.Search

namespace Workflows.Template

open Workflows.Text

/-! ## Placeholders -/

/-- The two braces that open a placeholder. -/
def opening : List Char := ['{', '{']

/-- The two braces that close a placeholder. -/
def closing : List Char := ['}', '}']

/-- The token of the whole context. -/
def contextToken : List Char := opening ++ "context".toList ++ closing

/-- The blanks and closing braces at the end of a placeholder; gives what follows them. -/
def closed? (cs : List Char) : Option (List Char) := closing.isPrefixOf? (cs.dropWhile isBlank)

/-- What follows the braces, blanks and word at the head of a placeholder. -/
def opened? (word : String) (cs : List Char) : Option (List Char) :=
  (opening.isPrefixOf? cs).bind fun rest => word.toList.isPrefixOf? (rest.dropWhile isBlank)

/-- The name at the head of a text and what follows it; none if there is no word character. -/
def name? (cs : List Char) : Option (List Char × List Char) :=
  if (cs.takeWhile isWord).isEmpty then none else some (cs.takeWhile isWord, cs.dropWhile isWord)

/-- A field written with a point, at the head of a text: its name and what follows. -/
def pointField? (cs : List Char) : Option (List Char × List Char) := do
  let cs ← opened? "$json." cs
  let (name, cs) ← name? cs
  let rest ← closed? cs
  return (name, rest)

/-- Either quote at the head of a text; gives what follows. -/
def quote? : List Char → Option (List Char)
  | c :: cs => if c = '\'' ∨ c = '"' then some cs else none
  | [] => none

/-- A field written in brackets, at the head of a text: its name and what follows. The two quotes
need not be the same. -/
def bracketField? (cs : List Char) : Option (List Char × List Char) := do
  let cs ← opened? "$json[" cs
  let cs ← quote? cs
  let (name, cs) ← name? cs
  let cs ← quote? cs
  let cs ← [']'].isPrefixOf? cs
  let rest ← closed? cs
  return (name, rest)

/-! ## Filling -/

/-- A value inside a text: a text itself, any other value in compact JSON. -/
def inlineValue : Value → String
  | .text s => s
  | v => Json.render .compact v

/-- The text of a field; empty if the context is no object or has no such member. -/
def fieldText (context : Context) (name : String) : String :=
  match context with
  | .structured (.object members) =>
    match Object.get? members name with
    | some v => inlineValue v
    | none => ""
  | _ => ""

/-- Replaces the fields of one form by their texts. -/
def fillFields (field? : List Char → Option (List Char × List Char)) (context : Context)
    (cs : List Char) : List Char :=
  editText
    (fun cs => (field? cs).map fun (name, rest) =>
      (cs.length - rest.length, (fieldText context (String.ofList name)).toList))
    0 cs

/-- The template proper: one equals sign in front of it does not count. -/
def body : List Char → List Char
  | '=' :: cs => cs
  | cs => cs

/-- A template with its placeholders filled. -/
def resolve (template : String) (context : Context) : String :=
  let filled := fillFields bracketField? context
    (fillFields pointField? context (body template.toList))
  String.ofList (replaceAll contextToken context.asInlineText.toList filled)

/-- A parameter with its placeholders filled; one that is no text is left as it is. -/
def resolveValue (template : Value) (context : Context) : Value :=
  match template with
  | .text s => .text (resolve s context)
  | v => v

end Workflows.Template
