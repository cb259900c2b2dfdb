/-
Octets and their spellings: the UTF-8 form of a text, base 64, and percent escapes. Octets are
naturals below 256.
-/
import Workflows.Text.Digits

namespace Workflows.Text

/-! ## UTF-8 -/

/-- The UTF-8 octets of a code point. -/
def utf8Char (code : Nat) : List Nat :=
  if code < 0x80 then [code]
  else if code < 0x800 then [0xC0 + code / 0x40, 0x80 + code % 0x40]
  else if code < 0x10000 then
    [0xE0 + code / 0x1000, 0x80 + code / 0x40 % 0x40, 0x80 + code % 0x40]
  else
    [0xF0 + code / 0x40000, 0x80 + code / 0x1000 % 0x40, 0x80 + code / 0x40 % 0x40,
      0x80 + code % 0x40]

/-- The UTF-8 octets of a text. -/
def utf8 (cs : List Char) : List Nat := cs.flatMap fun c => utf8Char c.toNat

/-- How many octets follow a first octet, and between what bounds the one right after it lies; none
if it begins no character. -/
def utf8Lead? (octet : Nat) : Option (Nat × Nat × Nat) :=
  if 0xC2 ≤ octet ∧ octet < 0xE0 then some (1, 0x80, 0xBF)
  else if octet = 0xE0 then some (2, 0xA0, 0xBF)
  else if octet = 0xED then some (2, 0x80, 0x9F)
  else if 0xE0 < octet ∧ octet < 0xF0 then some (2, 0x80, 0xBF)
  else if octet = 0xF0 then some (3, 0x90, 0xBF)
  else if 0xF0 < octet ∧ octet < 0xF4 then some (3, 0x80, 0xBF)
  else if octet = 0xF4 then some (3, 0x80, 0x8F)
  else none

/-- The value of the first bits of a character whose first octet has some octets after it. -/
def utf8Head (octet following : Nat) : Nat := octet % Nat.pow 2 (6 - following)

/-- Reads octets as UTF-8. `following` octets are still due for the character whose bits so far are
`code`, the next of them between `low` and `high`. Whatever begins no character, or breaks one off,
reads as the replacement character. -/
def decodeUtf8From (code following low high : Nat) : List Nat → List Char
  | [] => if following = 0 then [] else ['\uFFFD']
  | octet :: rest =>
    if 0 < following ∧ low ≤ octet ∧ octet ≤ high then
      let code := code * 0x40 + octet % 0x40
      if following = 1 then Char.ofNat code :: decodeUtf8From 0 0 0 0 rest
      else decodeUtf8From code (following - 1) 0x80 0xBF rest
    else
      let broken := if following = 0 then [] else ['\uFFFD']
      if octet < 0x80 then broken ++ Char.ofNat octet :: decodeUtf8From 0 0 0 0 rest
      else
        match utf8Lead? octet with
        | some (count, low, high) =>
          broken ++ decodeUtf8From (utf8Head octet count) count low high rest
        | none => broken ++ '\uFFFD' :: decodeUtf8From 0 0 0 0 rest

/-- The text of UTF-8 octets. -/
def decodeUtf8 (octets : List Nat) : List Char := decodeUtf8From 0 0 0 0 octets

/-- The octets of a byte order mark. -/
def orderMark : List Nat := [0xEF, 0xBB, 0xBF]

/-! ## Base 64 -/

/-- The digit of a number below 64. -/
def base64Digit (n : Nat) : Char :=
  if n < 26 then Char.ofNat (65 + n)
  else if n < 52 then Char.ofNat (71 + n)
  else if n < 62 then Char.ofNat (n - 4)
  else if n = 62 then '+' else '/'

/-- The base 64 form of octets, padded to groups of four. -/
def base64 : List Nat → List Char
  | [] => []
  | [a] => [base64Digit (a / 4), base64Digit (a % 4 * 16), '=', '=']
  | [a, b] =>
    [base64Digit (a / 4), base64Digit (a % 4 * 16 + b / 16), base64Digit (b % 16 * 4), '=']
  | a :: b :: c :: rest =>
    base64Digit (a / 4) :: base64Digit (a % 4 * 16 + b / 16) ::
      base64Digit (b % 16 * 4 + c / 64) :: base64Digit (c % 64) :: base64 rest

/-- The number of a digit. -/
def base64Value? (c : Char) : Option Nat :=
  if c.isUpper then some (c.toNat - 65)
  else if c.isLower then some (c.toNat - 71)
  else if c.isDigit then some (c.toNat + 4)
  else if c = '+' then some 62
  else if c = '/' then some 63
  else none

/-- The octets of numbers below 64, four of which make three octets. -/
def joinSextets : List Nat → List Nat
  | a :: b :: c :: d :: rest =>
    (a * 4 + b / 16) :: (b % 16 * 16 + c / 4) :: (c % 4 * 64 + d) :: joinSextets rest
  | [a, b, c] => [a * 4 + b / 16, b % 16 * 16 + c / 4]
  | [a, b] => [a * 4 + b / 16]
  | _ => []

/-- The octets of a base 64 text; what is no digit is passed over. -/
def decodeBase64 (cs : List Char) : List Nat := joinSextets (cs.filterMap base64Value?)

/-! ## Percent escapes -/

/-- An upper-case hexadecimal digit. -/
def upperHexDigit (n : Nat) : Char := if n < 10 then Char.ofNat (48 + n) else Char.ofNat (55 + n)

/-- An octet as a percent escape. -/
def percentOctet (octet : Nat) : List Char :=
  ['%', upperHexDigit (octet / 16), upperHexDigit (octet % 16)]

/-- Characters that never need an escape. -/
def isUnreserved (c : Char) : Bool :=
  c.isAlphanum || c == '-' || c == '.' || c == '_' || c == '~'

/-- A text with percent escapes for the octets of all characters but the safe ones. -/
def percentEncode (safe : Char → Bool) (cs : List Char) : List Char :=
  cs.flatMap fun c => if safe c then [c] else (utf8Char c.toNat).flatMap percentOctet

/-- The octets of a text with its percent escapes undone; a percent sign without two digits behind
it stands for itself. -/
def percentOctets : List Char → List Nat
  | '%' :: a :: b :: rest =>
    match hexValue? a, hexValue? b with
    | some high, some low => (high * 16 + low) :: percentOctets rest
    | _, _ => 37 :: percentOctets (a :: b :: rest)
  | c :: rest => utf8Char c.toNat ++ percentOctets rest
  | [] => []

/-- A text with its percent escapes undone. -/
def percentDecode (cs : List Char) : List Char := decodeUtf8 (percentOctets cs)

end Workflows.Text
