/-
The encodings of a JSON text that comes as octets. Its first two characters are ASCII, so zeros
among its first four octets tell how wide a character is and which end of it comes first.
-/
import Workflows.Text.Octets
import Workflows.Text.Wide

namespace Workflows.Json

open Workflows.Text

/-- How the characters of a JSON text are written as octets. -/
inductive Encoding
  | utf8
  | utf16 (highFirst : Bool)
  | utf32 (highFirst : Bool)
deriving DecidableEq, Repr

namespace Encoding

/-- The encoding that the first octets of a text show. -/
def detect : List Nat → Encoding
  | [a, b] => if a = 0 then utf16 true else if b = 0 then utf16 false else utf8
  | a :: b :: c :: d :: _ =>
    if a = 0 then (if b = 0 then utf32 true else utf16 true)
    else if b = 0 then (if c = 0 ∧ d = 0 then utf32 false else utf16 false)
    else utf8
  | _ => utf8

/-- The text of octets; none if they break off in a character or write none. -/
def decode? (encoding : Encoding) (octets : List Nat) : Option (List Char) :=
  match encoding with
  | utf8 => some (decodeUtf8 octets)
  | utf16 highFirst =>
    match pairUp highFirst octets with
    | (units, []) => some (ofUnits units)
    | _ => none
  | utf32 highFirst =>
    match quadUp highFirst octets with
    | (codes, []) => codes.mapM codeChar?
    | _ => none

end Encoding

/-- The characters of a JSON text that comes as octets, perhaps behind a byte order mark. -/
def decodeOctets? (octets : List Nat) : Option (List Char) :=
  match orderMark.isPrefixOf? octets with
  | some rest => some (decodeUtf8 rest)
  | none => (Encoding.detect octets).decode? octets

end Workflows.Json
