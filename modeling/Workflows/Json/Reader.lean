/-
Reading JSON text. The words `NaN`, `Infinity` and `-Infinity` are numbers too, and a repeated name
of an object keeps its first place and its last value. An error says what was expected and where:
while reading, a place is the number of characters that are left.
-/
import Workflows.Number.Numeral
import Workflows.Text.Digits
import Workflows.Value.Basic

namespace Workflows.Json

open Workflows.Text

/-! ## Errors -/

/-- Why a text is not JSON. -/
inductive Reason
  | expectedValue
  | expectedName
  | expectedColon
  | expectedComma
  | controlCharacter
  | openText
  | badEscape
  | badUnicodeEscape
  | extraData
  | byteOrderMark
deriving DecidableEq, Repr

/-- The sentence for a reason. -/
def Reason.sentence : Reason → String
  | .expectedValue => "Expecting value"
  | .expectedName => "Expecting property name enclosed in double quotes"
  | .expectedColon => "Expecting ':' delimiter"
  | .expectedComma => "Expecting ',' delimiter"
  | .controlCharacter => "Invalid control character at"
  | .openText => "Unterminated string starting at"
  | .badEscape => "Invalid \\escape"
  | .badUnicodeEscape => "Invalid \\uXXXX escape"
  | .extraData => "Extra data"
  | .byteOrderMark => "Unexpected UTF-8 BOM (decode using utf-8-sig)"

/-- What stops the reader: a mistake with the number of characters left at its place, or an integer
with too many digits. -/
inductive Stop
  | mistake (reason : Reason) (left : Nat)
  | longInteger (digits : Nat)
deriving DecidableEq, Repr

/-- What reading yields: a result with the characters after it. -/
abbrev Reading (α : Type) := Except Stop (α × List Char)

/-! ## Blanks -/

/-- The four blanks of JSON. -/
def isSpace (c : Char) : Bool := c == ' ' || c == '\t' || c == '\n' || c == '\r'

def skipSpace (cs : List Char) : List Char := cs.dropWhile isSpace

/-! ## Texts -/

/-- The unit that four hexadecimal digits write. -/
def unit? (a b c d : Char) : Option Nat := do
  let a ← hexValue? a
  let b ← hexValue? b
  let c ← hexValue? c
  let d ← hexValue? d
  return a * 4096 + b * 256 + c * 16 + d

/-- The character of a one-letter escape. -/
def escaped? (c : Char) : Option Char :=
  if c = '"' ∨ c = '\\' ∨ c = '/' then some c
  else if c = 'b' then some '\x08'
  else if c = 'f' then some '\x0c'
  else if c = 'n' then some '\n'
  else if c = 'r' then some '\r'
  else if c = 't' then some '\t'
  else none

/-- The code points and units that stand in a text after its opening quote, where `opening`
characters were left, and the characters after the closing quote. -/
def readUnits (opening : Nat) : List Char → Reading (List Nat)
  | [] => .error (.mistake .openText opening)
  | c :: cs =>
    if c = '"' then .ok ([], cs)
    else if c = '\\' then
      match cs with
      | [] => .error (.mistake .openText opening)
      | e :: rest =>
        if e = 'u' then
          match rest with
          | h₁ :: h₂ :: h₃ :: h₄ :: after =>
            match unit? h₁ h₂ h₃ h₄ with
            | some unit =>
              if after.isEmpty then .error (.mistake .badUnicodeEscape (rest.length + 1))
              else (readUnits opening after).map fun (units, left) => (unit :: units, left)
            | none => .error (.mistake .badUnicodeEscape (rest.length + 1))
          | _ => .error (.mistake .badUnicodeEscape (rest.length + 1))
        else
          match escaped? e with
          | some c => (readUnits opening rest).map fun (units, left) => (c.toNat :: units, left)
          | none => .error (.mistake .badEscape (rest.length + 2))
    else if c.toNat < 32 then .error (.mistake .controlCharacter (cs.length + 1))
    else (readUnits opening cs).map fun (units, left) => (c.toNat :: units, left)

/-- The character of a code point; a unit that is half of a pair has none and reads as the
replacement character. -/
def charOf (code : Nat) : Char :=
  if isHighUnit code || isLowUnit code then '\uFFFD' else Char.ofNat code

/-- The characters of code points and units, where a high unit and the low one behind it are one
character. -/
def joinUnits : List Nat → List Char
  | [] => []
  | high :: low :: rest =>
    if isHighUnit high && isLowUnit low then Char.ofNat (pairCode high low) :: joinUnits rest
    else charOf high :: joinUnits (low :: rest)
  | [code] => [charOf code]

/-- What a text holds after its opening quote, where `opening` characters were left; also the
characters after the closing quote. -/
def readText (opening : Nat) (cs : List Char) : Reading String :=
  (readUnits opening cs).map fun (units, left) => (String.ofList (joinUnits units), left)

/-! ## Numbers and words -/

/-- The digits of a fraction part and what follows; none unless a digit follows the point. -/
def fraction? : List Char → Option (List Char × List Char)
  | '.' :: d :: cs =>
    if d.isDigit then some ((d :: cs).takeWhile Char.isDigit, (d :: cs).dropWhile Char.isDigit)
    else none
  | _ => none

/-- The value of an exponent part and what follows; none unless it has a digit. -/
def exponentPart? : List Char → Option (Int × List Char)
  | e :: cs =>
    if e = 'e' ∨ e = 'E' then
      let (negative, rest) := Numeral.takeSign cs
      let digits := rest.takeWhile Char.isDigit
      if digits.isEmpty then none
      else
        let n : Int := Nat.ofDigitChars 10 digits 0
        some (if negative then -n else n, rest.dropWhile Char.isDigit)
    else none
  | [] => none

/-- The whole part of a number: a single zero, or digits that do not begin with one. -/
def wholePart : List Char → List Char × List Char
  | '0' :: cs => (['0'], cs)
  | cs => (cs.takeWhile Char.isDigit, cs.dropWhile Char.isDigit)

/-- A number after its sign; `start` characters are left at its first one. -/
def readUnsigned (negative : Bool) (start : Nat) (cs : List Char) : Reading Value :=
  let (whole, afterWhole) := wholePart cs
  if whole.isEmpty then .error (.mistake .expectedValue start)
  else
    let (places, afterPlaces) := (fraction? afterWhole).getD ([], afterWhole)
    match exponentPart? afterPlaces with
    | some (e, rest) =>
      let digits := Nat.ofDigitChars 10 (whole ++ places) 0
      .ok (.float (Binary64.ofDecimal negative digits (e - places.length)), rest)
    | none =>
      if places.isEmpty then
        if Numeral.maxDigits < whole.length then .error (.longInteger whole.length)
        else
          let n : Int := Nat.ofDigitChars 10 whole 0
          .ok (.int (if negative then -n else n), afterPlaces)
      else
        let digits := Nat.ofDigitChars 10 (whole ++ places) 0
        .ok (.float (Binary64.ofDecimal negative digits (-places.length)), afterPlaces)

/-- A number with an optional minus sign. -/
def readNumber (cs : List Char) : Reading Value :=
  match cs with
  | '-' :: rest => readUnsigned true cs.length rest
  | _ => readUnsigned false cs.length cs

/-- The words that stand for values. -/
def words : List (String × Value) := [
  ("null", .null), ("true", .bool true), ("false", .bool false), ("NaN", .float .nan),
  ("Infinity", .float (.infinity false)), ("-Infinity", .float (.infinity true))]

/-- The value of the word at the head of a text. -/
def word? (cs : List Char) : Option (Value × List Char) :=
  words.findSome? fun (word, value) => (word.toList.isPrefixOf? cs).map fun rest => (value, rest)

/-! ## Values -/

mutual

/-- A value at the head of a text, which does not begin with a blank. Each call is given one less
of the first argument, which is never used up if it exceeds twice the length of the text. -/
def readValue : Nat → List Char → Reading Value
  | 0, cs => .error (.mistake .expectedValue cs.length)
  | _ + 1, [] => .error (.mistake .expectedValue 0)
  | steps + 1, c :: cs =>
    if c = '"' then
      (readText (cs.length + 1) cs).map fun (text, rest) => (.text text, rest)
    else if c = '[' then
      match skipSpace cs with
      | ']' :: rest => .ok (.list [], rest)
      | more => (readItems steps more).map fun (items, rest) => (.list items, rest)
    else if c = '{' then
      match skipSpace cs with
      | '}' :: rest => .ok (.object [], rest)
      | more =>
        (readMembers steps more).map fun (pairs, rest) => (.object (Object.ofPairs pairs), rest)
    else
      match word? (c :: cs) with
      | some found => .ok found
      | none => readNumber (c :: cs)

/-- The items of a list up to its closing bracket. -/
def readItems : Nat → List Char → Reading (List Value)
  | 0, cs => .error (.mistake .expectedValue cs.length)
  | steps + 1, cs =>
    match readValue steps cs with
    | .error e => .error e
    | .ok (item, rest) =>
      match skipSpace rest with
      | ']' :: after => .ok ([item], after)
      | ',' :: after =>
        (readItems steps (skipSpace after)).map fun (items, left) => (item :: items, left)
      | after => .error (.mistake .expectedComma after.length)

/-- The members of an object up to its closing brace, repeated names and all. -/
def readMembers : Nat → List Char → Reading (List (String × Value))
  | 0, cs => .error (.mistake .expectedValue cs.length)
  | steps + 1, '"' :: cs =>
    match readText (cs.length + 1) cs with
    | .error e => .error e
    | .ok (key, rest) =>
      match skipSpace rest with
      | ':' :: afterColon =>
        match readValue steps (skipSpace afterColon) with
        | .error e => .error e
        | .ok (value, rest) =>
          match skipSpace rest with
          | '}' :: after => .ok ([(key, value)], after)
          | ',' :: after =>
            (readMembers steps (skipSpace after)).map fun (pairs, left) =>
              ((key, value) :: pairs, left)
          | after => .error (.mistake .expectedComma after.length)
      | after => .error (.mistake .expectedColon after.length)
  | _ + 1, cs => .error (.mistake .expectedName cs.length)

end

/-- The one value that a text writes, with blanks around it. -/
def readDocument (cs : List Char) : Except Stop Value :=
  if cs.head? = some '\uFEFF' then .error (.mistake .byteOrderMark cs.length)
  else
    match readValue (2 * cs.length + 2) (skipSpace cs) with
    | .error e => .error e
    | .ok (value, rest) =>
      match skipSpace rest with
      | [] => .ok value
      | extra => .error (.mistake .extraData extra.length)

/-! ## Places -/

/-- Why a text cannot be read as JSON: a mistake at a place, given by its line, its column and its
offset, or an integer with too many digits. -/
inductive ReadError
  | mistake (reason : Reason) (line column offset : Nat)
  | longInteger (digits : Nat)
deriving DecidableEq, Repr

/-- The place in a text at which a number of characters are left. -/
def locate (cs : List Char) (left : Nat) : Nat × Nat × Nat :=
  let before := cs.take (cs.length - left)
  (before.count '\n' + 1, (before.reverse.takeWhile (· != '\n')).length + 1, before.length)

/-- The value that a text writes, or why there is none. -/
def read (text : String) : Except ReadError Value :=
  match readDocument text.toList with
  | .ok value => .ok value
  | .error (.longInteger digits) => .error (.longInteger digits)
  | .error (.mistake reason left) =>
    let (line, column, offset) := locate text.toList left
    .error (.mistake reason line column offset)

/-- The value that a text writes, if it writes one. -/
def read? (text : String) : Option Value := (read text).toOption

/-- The message of a read error. -/
def ReadError.message : ReadError → String
  | .mistake reason line column offset =>
    reason.sentence ++ ": line " ++ toString line ++ " column " ++ toString column ++ " (char " ++
      toString offset ++ ")"
  | .longInteger digits =>
    "Exceeds the limit (4300 digits) for integer string conversion: value has " ++
      toString digits ++ " digits; use sys.set_int_max_str_digits() to increase the limit"

end Workflows.Json
