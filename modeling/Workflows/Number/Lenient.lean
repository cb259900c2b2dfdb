/-
Lenient numerals, as settings and paths hold them. A numeral is first read strictly. If that fails,
an integer is read again without the blanks around it, a plus sign, leading zeros, a fraction of
zeros and single low lines; a number is read again without single low lines.
-/
import Workflows.Number.Numeral

namespace Workflows.Lenient

open Workflows.Text

/-! ## Low lines -/

/-- Without low lines; none unless there are some, all single and none at an end. -/
def withoutLowLines? (cs : List Char) : Option (List Char) :=
  if !cs.contains '_' || cs.head? = some '_' || cs.getLast? = some '_' || occurs ['_', '_'] cs then
    none
  else some (cs.filter (· != '_'))

/-! ## Integers -/

/-- The integer of digits that begin with no zero, or of a single zero. Too many digits at the head
are a mistake of their own, whatever follows them; the minus sign counts as one of them. -/
def strictInteger (cs : List Char) : Except Numeral.IntegerError Int :=
  let (negative, unsigned) := match cs with
    | '-' :: rest => (true, rest)
    | _ => (false, cs)
  let digits := unsigned.takeWhile Char.isDigit
  let length := digits.length + if negative then 1 else 0
  match digits with
  | [] => .error .malformed
  | '0' :: _ => if unsigned = ['0'] then .ok 0 else .error .malformed
  | _ =>
    if Numeral.maxDigits < length then .error (.tooLong digits.length)
    else if digits.length < unsigned.length then .error .malformed
    else
      let n : Int := Nat.ofDigitChars 10 digits 0
      .ok (if negative then -n else n)

/-- What follows leading zeros, the first of which stands before the given characters. Low lines
may be among the zeros. A point keeps the zero before it, and so does the end. -/
def afterZeros : List Char → Option (List Char)
  | [] => some ['0']
  | ['_'] => none
  | '_' :: '_' :: _ => none
  | '0' :: cs | '_' :: cs => afterZeros cs
  | '.' :: cs => some ('0' :: '.' :: cs)
  | c :: cs => if c.isDigit || c = '-' then some (c :: cs) else none

/-- Without leading zeros; none unless it begins with a digit or a minus sign. -/
def withoutZeros? : List Char → Option (List Char)
  | '0' :: cs => afterZeros cs
  | c :: cs => if c.isDigit || c = '-' then some (c :: cs) else none
  | [] => none

/-- Without a fraction of zeros, of which there must be one at least. -/
def withoutFraction (cs : List Char) : List Char :=
  match cs.dropWhile (· != '.') with
  | '.' :: '0' :: zeros => if zeros.all (· == '0') then cs.takeWhile (· != '.') else cs
  | _ => cs

/-- Without a plus sign, which no minus sign may follow. -/
def withoutPlus? : List Char → Option (List Char)
  | '+' :: '-' :: _ => none
  | '+' :: cs => some cs
  | cs => some cs

/-- The strict form of a lenient integer. -/
def cleaned? (cs : List Char) : Option (List Char) := do
  let cs ← withoutPlus? (trimWith isOuterBlank cs)
  let cs ← withoutZeros? cs
  let cs := withoutFraction cs
  return (withoutLowLines? cs).getD cs

/-- The integer that a text writes. -/
def integer? (text : String) : Except Numeral.IntegerError Int :=
  match strictInteger text.toList with
  | .error .malformed =>
    match cleaned? text.toList with
    | some cs => strictInteger cs
    | none => .error .malformed
  | read => read

/-! ## Numbers -/

/-- The number of digits in plain form, or of a word. -/
def strictDecimal? (cs : List Char) : Option Binary64 :=
  let (negative, unsigned) := Numeral.takeSign cs
  (Numeral.word? negative unsigned).or (Numeral.unsignedDecimal? negative unsigned)

/-- The number that a text writes: with blanks around it, or else with low lines. -/
def decimal? (text : String) : Option Binary64 :=
  (strictDecimal? (trimWith isOuterBlank text.toList)).or
    ((withoutLowLines? text.toList).bind strictDecimal?)

end Workflows.Lenient
