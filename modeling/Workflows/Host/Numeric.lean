/-
Numeric hosts: four numbers with dots, and eight sixteen-bit groups with colons. The dotted form has
a strict reading and a free one, in which numbers may be octal or hexadecimal and the last one may
stand for several.
-/
import Workflows.Text.Digits
import Workflows.Text.Search

namespace Workflows.Host

open Workflows.Text

/-! ## Dotted numbers -/

/-- A decimal number below 256, without zeros in front. -/
def strictOctet? (cs : List Char) : Option Nat :=
  if cs.isEmpty || 3 < cs.length || !cs.all Char.isDigit then none
  else if cs.head? = some '0' ∧ cs ≠ ['0'] then none
  else
    let n := Nat.ofDigitChars 10 cs 0
    if n < 256 then some n else none

/-- The value of four strict numbers with dots. -/
def strictDotted? (cs : List Char) : Option Nat :=
  match (cs.splitOn '.').mapM strictOctet? with
  | some [a, b, c, d] => some (((a * 256 + b) * 256 + c) * 256 + d)
  | _ => none

/-- A number in base 16 behind `0x`, in base 8 behind a zero, and else in base 10. -/
def freeNumber? (cs : List Char) : Option Nat :=
  let read (base : Nat) (digits : List Char) : Option Nat :=
    (digits.mapM hexValue?).bind fun values =>
      if values.all (· < base) then some (values.foldl (· * base + ·) 0) else none
  match cs with
  | [] => none
  | '0' :: 'x' :: digits | '0' :: 'X' :: digits => read 16 digits
  | '0' :: digits => read 8 digits
  | digits => read 10 digits

/-- The parts of a host between its dots; a dot at its end does not count. -/
def dottedParts (cs : List Char) : List (List Char) :=
  let parts := cs.splitOn '.'
  if 1 < parts.length ∧ parts.getLast? = some [] then parts.dropLast else parts

/-- A host whose last part is a number can only be numeric. -/
def endsInNumber (cs : List Char) : Bool :=
  match (dottedParts cs).getLast? with
  | some part =>
    (!part.isEmpty && part.all Char.isDigit) ||
      (beginsWith (String.ofList part) "0x" && (freeNumber? part).isSome)
  | none => false

/-- The value of at most four free numbers, the last of which fills the places that are left. -/
def freeDotted? (cs : List Char) : Option Nat :=
  match ((dottedParts cs).mapM freeNumber?).map List.reverse with
  | some (last :: others) =>
    if 3 < others.length || others.any (255 < ·) then none
    else if Nat.pow 256 (4 - others.length) ≤ last then none
    else some ((others.reverse.foldl (· * 256 + ·) 0) * Nat.pow 256 (4 - others.length) + last)
  | _ => none

/-- Four numbers with dots. -/
def dottedText (n : Nat) : String :=
  joinWith "." ([n / 0x1000000, n / 0x10000 % 256, n / 256 % 256, n % 256].map toString)

/-! ## Groups -/

/-- A group of one to four hexadecimal digits. -/
def group? (cs : List Char) : Option Nat :=
  if cs.isEmpty || 4 < cs.length then none
  else (cs.mapM hexValue?).map fun values => values.foldl (· * 16 + ·) 0

/-- Groups with colons between them; the last two may be a dotted form. -/
def groups? : List (List Char) → Option (List Nat)
  | [] => some []
  | [last] =>
    match strictDotted? last with
    | some n => some [n / 0x10000, n % 0x10000]
    | none => (group? last).map ([·])
  | part :: rest =>
    match group? part, groups? rest with
    | some n, some others => some (n :: others)
    | _, _ => none

/-- The groups of a text, which is empty or has a group on both sides of every colon. -/
def groupsOf? (cs : List Char) : Option (List Nat) :=
  if cs.isEmpty then some [] else groups? (cs.splitOn ':')

/-- The eight groups of a text in which two colons may stand for groups of zero. -/
def sixteenBitGroups? (cs : List Char) : Option (List Nat) :=
  match splitFirst? [':', ':'] cs with
  | none => (groups? (cs.splitOn ':')).filter (·.length == 8)
  | some (before, after) =>
    if before.contains '.' then none
    else
      match groupsOf? before, groupsOf? after with
      | some high, some low =>
        if high.length + low.length < 8 then
          some (high ++ List.replicate (8 - high.length - low.length) 0 ++ low)
        else none
      | _, _ => none

/-- A number in hexadecimal digits, as few as there can be. -/
def hexText (n : Nat) : String := String.ofList (Nat.toDigits 16 n)

/-- How many zeros a list begins with. -/
def zerosAt (groups : List Nat) : Nat := (groups.takeWhile (· == 0)).length

/-- The place and length of the first of the longest stretches of zeros. -/
def longestZeros (groups : List Nat) : Nat × Nat :=
  (List.range groups.length).foldl
    (fun best place =>
      let count := zerosAt (groups.drop place)
      if best.2 < count then (place, count) else best) (0, 0)

/-- Eight groups with colons; two colons stand for the longest stretch of zeros, of at least two. -/
def groupsText (groups : List Nat) : String :=
  let write (part : List Nat) := joinWith ":" (part.map hexText)
  let (place, count) := longestZeros groups
  if count < 2 then write groups
  else write (groups.take place) ++ "::" ++ write (groups.drop (place + count))

end Workflows.Host
