/-
Character sets: how octets are read as text. Most sets have a character for every octet; the others
are the encodings of Unicode. What a set does not have is read as the replacement character.
-/
import Workflows.Text.Octets
import Workflows.Text.Wide

namespace Workflows

open Workflows.Text

/-- A character set. An encoding in wide units may leave it to a mark at the beginning of the text
which end of a unit comes first. -/
inductive Charset
  | utf8
  | markedUtf8
  | utf16 (highFirst : Option Bool)
  | utf32 (highFirst : Option Bool)
  | single (codes : List Nat)
deriving DecidableEq, Repr

namespace Charset

/-- The code points of ASCII. -/
def asciiHalf : List Nat := List.range 128

/-- ASCII; it has no character for the octets from 128 on. -/
def ascii : Charset := single (asciiHalf ++ List.replicate 128 0xFFFD)

/-- The set of the first 256 code points. -/
def latin1 : Charset := single (List.range 256)

/-- The text of sixteen-bit units. -/
def decodePairs (highFirst : Bool) (octets : List Nat) : List Char :=
  let (units, left) := pairUp highFirst octets
  let breaksOff := !left.isEmpty && !(units.getLast?.map isHighUnit == some true)
  ofUnits units ++ (if breaksOff then ['\ufffd'] else [])

/-- The text of thirty-two-bit units. -/
def decodeQuads (highFirst : Bool) (octets : List Nat) : List Char :=
  let (codes, left) := quadUp highFirst octets
  codes.map (fun code => (codeChar? code).getD '\ufffd') ++
    (if left.isEmpty then [] else ['\ufffd'])

/-- The text of octets; none if a mark at their beginning is missing. -/
def decode? (charset : Charset) (octets : List Nat) : Option (List Char) :=
  match charset with
  | utf8 => some (decodeUtf8 octets)
  | markedUtf8 =>
    if octets.length < 3 ∧ octets.isPrefixOf orderMark then some []
    else some (decodeUtf8 ((orderMark.isPrefixOf? octets).getD octets))
  | utf16 (some highFirst) => some (decodePairs highFirst octets)
  | utf16 none =>
    match octets with
    | 0xFF :: 0xFE :: rest => some (decodePairs false rest)
    | 0xFE :: 0xFF :: rest => some (decodePairs true rest)
    | [] => some []
    | [_] => some ['\ufffd']
    | _ => none
  | utf32 (some highFirst) => some (decodeQuads highFirst octets)
  | utf32 none =>
    match octets with
    | 0xFF :: 0xFE :: 0 :: 0 :: rest => some (decodeQuads false rest)
    | 0 :: 0 :: 0xFE :: 0xFF :: rest => some (decodeQuads true rest)
    | _ :: _ :: _ :: _ :: _ => none
    | [] => some []
    | _ => some ['\ufffd']
  | single codes => some (octets.map fun octet => (codes[octet]?.bind codeChar?).getD '\ufffd')

/-- How many bits a unit has. -/
def unitBits : Charset → Nat
  | utf16 _ => 16
  | utf32 _ => 32
  | _ => 8

end Charset

end Workflows
