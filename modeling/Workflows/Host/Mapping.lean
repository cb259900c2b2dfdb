/-
The ASCII form of a host name that is written freely: letters lose their case and their width, what
is not seen is left out, and the rest is put in composed form. A label that is ASCII is only mapped;
every other one is checked and spelled.
-/
import Workflows.Host.Label
import Workflows.Host.MappingTables
import Workflows.Text.Case

namespace Workflows.Host

open Workflows.Text

/-- What stands for a character; none if no host name may hold it. -/
def mapped? (c : Char) : Option (List Char) :=
  let code := c.toNat
  match shiftIn mappedRuns code with
  | some shift => some [Char.ofNat (code + shift).toNat]
  | none =>
    if code < 128 then some [c]
    else
      match mappedSingly.find? (·.1 == code) with
      | some (_, other) => some [Char.ofNat other]
      | none =>
        match mappedToTexts.find? (·.1 == code) with
        | some (_, others) => some (others.map Char.ofNat)
        | none =>
          if inRanges ignored code then some []
          else if inRanges disallowed code then none
          else some [c]

/-- A text in which every character is mapped, in composed form. -/
def mappedText? (cs : List Char) : Option (List Char) :=
  (cs.mapM mapped?).map fun parts => composed parts.flatten

/-- The character stands for itself. -/
def isMapped (c : Char) : Bool := mapped? c == some [c]

/-- A joiner fits where it stands; every other character does. -/
def mappedFits (before : List Char) (c : Char) (after : List Char) : Bool :=
  !isJoiner c || joinerFits before c after

/-- A mapped label may stand in a host name. -/
def isMappedLabel (label : List Char) : Bool :=
  label.all isMapped && !beginsWithMark label && (firstMisfit? mappedFits [] label).isNone

/-- The label that a mapped one stands for. -/
def shownLabel? (label : List Char) : Option (List Char) :=
  match spellingMark.isPrefixOf? label with
  | none => if isMappedLabel label then some label else none
  | some spelling =>
    (Punycode.decode? spelling).filter fun shown =>
      shown.any (128 ≤ ·.toNat) && composed shown == shown && isMappedLabel shown

/-- The ASCII form of a label. -/
def asciiLabel (label : List Char) : List Char :=
  if label.all (·.toNat < 128) then label else spellingMark ++ Punycode.encode label

/-- The directions in the labels of a host agree, if any of them runs from right to left. -/
def directionsAgree (labels : List (List Char)) : Bool :=
  !labels.any isTurned || labels.all fun label => label.isEmpty || (directionError? label).isNone

/-- The ASCII form of a host name. -/
def asciiHost? (host : List Char) : Option (List Char) :=
  (mappedText? host).bind fun text =>
    ((text.splitOn '.').mapM shownLabel?).bind fun labels =>
      if directionsAgree labels then some (List.intercalate ['.'] (labels.map asciiLabel))
      else none

end Workflows.Host
