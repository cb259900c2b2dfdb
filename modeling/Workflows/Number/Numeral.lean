/-
Reading numerals from text. Blanks around a numeral do not count, other than the separator
controls; decimal digits of every script do, and single low lines may stand between digits. An
integer has at most 4300 digits.
-/
import Workflows.Number.Binary64
import Workflows.Text.Search

namespace Workflows.Numeral

open Workflows.Text

/-! ## Digits -/

/-- A digit of any script as an ASCII digit; all else as it is. -/
def plainDigit (c : Char) : Char :=
  match digitValue? c with
  | some value => Char.ofNat (48 + value)
  | none => c

/-- The numeral without the blanks around it, in ASCII digits. -/
def normalize (text : String) : List Char := (trimWith isOuterBlank text.toList).map plainDigit

/-- A sign, if there is one, and the rest; true for minus. -/
def takeSign : List Char → Bool × List Char
  | '-' :: cs => (true, cs)
  | '+' :: cs => (false, cs)
  | cs => (false, cs)

/-- Without the low lines, each of which stands between two digits; `afterDigit` says that the
character before was a digit. -/
def dropLowLines (afterDigit : Bool) : List Char → Option (List Char)
  | [] => some []
  | '_' :: cs =>
    match cs with
    | d :: _ => if afterDigit && d.isDigit then dropLowLines false cs else none
    | [] => none
  | c :: cs => (dropLowLines c.isDigit cs).map (c :: ·)

/-! ## Integers -/

/-- The greatest number of digits of an integer's text. -/
def maxDigits : Nat := 4300

/-- Why a text is no integer. -/
inductive IntegerError
  | malformed
  | tooLong (digits : Nat)
deriving DecidableEq, Repr

/-- The value of a digit or letter in the bases that have it. -/
def digitOrLetter? (c : Char) : Option Nat :=
  if c.isDigit then some (c.toNat - '0'.toNat)
  else if c.isLower then some (c.toNat - 'a'.toNat + 10)
  else if c.isUpper then some (c.toNat - 'A'.toNat + 10)
  else none

/-- The value of a digit of a base. -/
def digitIn? (base : Nat) (c : Char) : Option Nat := (digitOrLetter? c).filter (· < base)

/-- The digits of a base at the head of a text with single low lines between them, and the rest;
none if a low line is not between digits. -/
def takeDigits (base : Nat) (afterDigit : Bool) : List Char → Option (List Nat × List Char)
  | [] => some ([], [])
  | c :: cs =>
    match digitIn? base c with
    | some digit => (takeDigits base true cs).map fun (digits, rest) => (digit :: digits, rest)
    | none =>
      if c = '_' then
        match cs with
        | d :: _ =>
          if afterDigit && (digitIn? base d).isSome then takeDigits base false cs else none
        | [] => none
      else some ([], c :: cs)

/-- The number that digits write in a base. -/
def ofDigits (base : Nat) (digits : List Nat) : Nat := digits.foldl (fun n d => n * base + d) 0

/-- The bases that a letter after a zero announces: 2, 8 and 16. -/
def announcedBase? : Char → Option Nat
  | 'b' | 'B' => some 2
  | 'o' | 'O' => some 8
  | 'x' | 'X' => some 16
  | _ => none

/-- The base of a numeral whose base is only said to be zero, which a zero and a letter at its head
announce; else it is ten. -/
def ownBase : List Char → Nat
  | '0' :: letter :: _ => (announcedBase? letter).getD 10
  | _ => 10

/-- A numeral without a zero and the letter of its base at its head, which one low line may
follow. -/
def dropAnnouncement (base : Nat) (cs : List Char) : List Char :=
  match cs with
  | '0' :: letter :: rest =>
    if announcedBase? letter = some base then
      match rest with
      | '_' :: more => more
      | _ => rest
    else cs
  | _ => cs

/-- The bases in which the number of digits does not matter. -/
def isPowerOfTwo (base : Nat) : Bool := [2, 4, 8, 16, 32].contains base

/-- The integer that a text writes in a base from 2 to 36, or for 0 in the base that it announces
itself, where a number in base ten has no leading zeros. A text that begins with too many digits is
too long, whatever follows them. -/
def integerIn? (base : Nat) (text : String) : Except IntegerError Int :=
  let (negative, cs) := takeSign (normalize text)
  let size := if base = 0 then ownBase cs else base
  match takeDigits size false (dropAnnouncement size cs) with
  | none => .error .malformed
  | some (digits, rest) =>
    if !isPowerOfTwo size && maxDigits < digits.length then .error (.tooLong digits.length)
    else if digits.isEmpty || !rest.isEmpty then .error .malformed
    else
      let n : Int := ofDigits size digits
      if base = 0 && size = 10 && cs.head? = some '0' && n ≠ 0 then .error .malformed
      else .ok (if negative then -n else n)

/-- The integer that a text writes in base ten. -/
def integer? (text : String) : Except IntegerError Int := integerIn? 10 text

/-! ## Decimals -/

/-- The value of an exponent part, which begins with `e` and has a digit; the empty text is zero. -/
def exponent? : List Char → Option Int
  | [] => some 0
  | e :: cs =>
    if e = 'e' ∨ e = 'E' then
      let (negative, digits) := takeSign cs
      if digits.isEmpty || !digits.all Char.isDigit then none
      else
        let n : Int := Nat.ofDigitChars 10 digits 0
        some (if negative then -n else n)
    else none

/-- Digits with an optional point and an optional exponent, without a sign. -/
def unsignedDecimal? (negative : Bool) (cs : List Char) : Option Binary64 :=
  let whole := cs.takeWhile Char.isDigit
  let afterWhole := cs.dropWhile Char.isDigit
  let (places, rest) := match afterWhole with
    | '.' :: more => (more.takeWhile Char.isDigit, more.dropWhile Char.isDigit)
    | _ => ([], afterWhole)
  if whole.isEmpty && places.isEmpty then none
  else
    (exponent? rest).map fun e =>
      Binary64.ofDecimal negative (Nat.ofDigitChars 10 (whole ++ places) 0) (e - places.length)

/-- The words for numbers that are not finite, in any case of their letters. -/
def word? (negative : Bool) (cs : List Char) : Option Binary64 :=
  let lowered := cs.map Char.toLower
  if lowered = "inf".toList ∨ lowered = "infinity".toList then some (.infinity negative)
  else if lowered = "nan".toList then some .nan
  else none

/-- The number that a text writes. -/
def decimal? (text : String) : Option Binary64 :=
  (dropLowLines false (normalize text)).bind fun cs =>
    let (negative, unsigned) := takeSign cs
    (word? negative unsigned).or (unsignedDecimal? negative unsigned)

end Workflows.Numeral
