/-
Texts in units of two or four octets. Either end of a unit may come first.
-/
import Workflows.Text.Digits

namespace Workflows.Text

/-- The numbers that every two octets write, and the octets left over. -/
def pairUp (highFirst : Bool) : List Nat → List Nat × List Nat
  | a :: b :: rest =>
    let (units, left) := pairUp highFirst rest
    ((if highFirst then a * 0x100 + b else a + b * 0x100) :: units, left)
  | left => ([], left)

/-- The numbers that every four octets write, and the octets left over. -/
def quadUp (highFirst : Bool) : List Nat → List Nat × List Nat
  | a :: b :: c :: d :: rest =>
    let (codes, left) := quadUp highFirst rest
    let code := if highFirst then ((a * 0x100 + b) * 0x100 + c) * 0x100 + d
      else a + (b + (c + d * 0x100) * 0x100) * 0x100
    (code :: codes, left)
  | left => ([], left)

/-- The character of a code point; that of half a pair is the replacement character. -/
def codeChar? (code : Nat) : Option Char :=
  if 0x10FFFF < code then none
  else if isHighUnit code || isLowUnit code then some '\ufffd'
  else some (Char.ofNat code)

/-- The text of sixteen-bit units; half of a pair alone is the replacement character. -/
def ofUnits : List Nat → List Char
  | [] => []
  | [unit] => [(codeChar? unit).getD '\ufffd']
  | unit :: next :: rest =>
    if isHighUnit unit && isLowUnit next then Char.ofNat (pairCode unit next) :: ofUnits rest
    else (codeChar? unit).getD '\ufffd' :: ofUnits (next :: rest)

end Workflows.Text
