/-
Content types: their parameters, and the character set that one of them names.
-/
import Workflows.Http.Charset.Names
import Workflows.Text.Case
import Workflows.Text.Search

namespace Workflows.ContentType

open Workflows.Text

/-- The parts of a content type, which semicolons outside quotes divide. A quote behind a backslash
does not count. -/
def splitParts (quoted escaped : Bool) : List Char → List (List Char)
  | [] => [[]]
  | c :: rest =>
    if c = ';' ∧ !quoted then [] :: splitParts false false rest
    else
      let inQuotes := if c = '"' ∧ !escaped then !quoted else quoted
      match splitParts inQuotes (c == '\\') rest with
      | part :: parts => (c :: part) :: parts
      | [] => [[c]]

/-- The name of a part, in lower case, and its value, which is empty if there is none. -/
def parameter (part : List Char) : String × List Char :=
  let name := trimChars (part.takeWhile (· != '='))
  (lower (String.ofList name), trimChars ((part.dropWhile (· != '=')).drop 1))

/-- A value without the quotes or angle brackets around it. -/
def unquoted (value : List Char) : List Char :=
  if value.length < 2 then value
  else if value.head? = some '"' ∧ value.getLast? = some '"' then
    replaceAll ['\\', '"'] ['"'] (replaceAll ['\\', '\\'] ['\\'] (value.drop 1).dropLast)
  else if value.head? = some '<' ∧ value.getLast? = some '>' then (value.drop 1).dropLast
  else value

/-- A value behind its language: what stands after the second apostrophe. -/
def withoutLanguage (value : List Char) : List Char :=
  match value.splitOn '\'' with
  | _ :: _ :: first :: rest => List.intercalate ['\''] (first :: rest)
  | _ => value

/-- The name of the character set. A plain one is preferred to one that has a language. -/
def charsetName? (type : String) : Option String :=
  let parameters := (splitParts false false type.toList).map parameter
  let plain := parameters.find? (·.1 == "charset")
  let marked := (parameters.drop 1).find? (·.1 == "charset*")
  match plain, marked with
  | some (_, value), _ => some (String.ofList (unquoted value))
  | none, some (_, value) =>
    some (String.ofList (withoutLanguage ((percentOctets (unquoted value)).map Char.ofNat)))
  | none, none => none

/-- The character set of a content type. -/
def charset (type : String) : Charset := ((charsetName? type).bind Charset.ofName?).getD .utf8

end Workflows.ContentType
