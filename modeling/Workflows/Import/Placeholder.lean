/-
Placeholders in imported parameters: texts that stand for a credential or an id that is still to be
filled in. They are found by marker words, and as words in angle brackets that are no markup tags.
-/
import Workflows.Text.Case
import Workflows.Text.Search
import Workflows.Value.Basic

namespace Workflows.Import

open Workflows.Text

/-- The marker words. -/
def markers : List String := ["YOUR_", "INSERT_", "ENTER_", "dummy-key"]

/-- The markup tags that are no placeholders. -/
def markupTags : List String := [
  "a", "b", "i", "u", "p", "s", "em", "strong", "small", "code", "pre", "br", "hr", "div", "span",
  "html", "head", "body", "title", "ul", "ol", "li", "table", "thead", "tbody", "tr", "td", "th",
  "h1", "h2", "h3", "h4", "h5", "h6", "section", "article", "header", "footer", "nav", "main",
  "blockquote", "label", "form", "button", "script", "style"]

/-- A character with which a word in angle brackets may go on. -/
def goesOn (c : Char) : Bool := isWord c || c == '-'

/-- The word in angle brackets at the head of a text: a letter, then word characters and hyphens. -/
def angleWord? : List Char → Option (List Char)
  | '<' :: c :: cs =>
    if c.isAlpha then
      match cs.dropWhile goesOn with
      | '>' :: _ => some (c :: cs.takeWhile goesOn)
      | _ => none
    else none
  | _ => none

/-- The words in angle brackets that stand in a text, from left to right. The first `skip` characters
belong to a word that is taken already. -/
def angleWords : Nat → List Char → List (List Char)
  | _, [] => []
  | skip + 1, _ :: cs => angleWords skip cs
  | 0, c :: cs =>
    match angleWord? (c :: cs) with
    | some word => word :: angleWords (word.length + 1) cs
    | none => angleWords 0 cs

/-- A text holds a marker, or a word in angle brackets that is no markup tag. -/
def isPlaceholder (text : String) : Bool :=
  markers.any (holds text) ||
    (angleWords 0 text.toList).any fun word => !markupTags.contains (lower (String.ofList word))

mutual

/-- A text somewhere in a value, names of members and entries aside, is a placeholder. -/
def holdsPlaceholder : Value → Bool
  | .text s => isPlaceholder s
  | .list items => itemsHoldPlaceholder items
  | .object members => membersHoldPlaceholder members
  | .table entries => entriesHoldPlaceholder entries
  | _ => false

def itemsHoldPlaceholder : List Value → Bool
  | [] => false
  | v :: vs => holdsPlaceholder v || itemsHoldPlaceholder vs

def membersHoldPlaceholder : List (String × Value) → Bool
  | [] => false
  | (_, v) :: rest => holdsPlaceholder v || membersHoldPlaceholder rest

def entriesHoldPlaceholder : List (Value × Value) → Bool
  | [] => false
  | (_, v) :: rest => holdsPlaceholder v || entriesHoldPlaceholder rest

end

end Workflows.Import
