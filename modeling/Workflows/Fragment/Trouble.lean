/-
What can go wrong in a fragment. A malformed fragment is refused before it runs, with the line at
which that was found; a running fragment stops at the first trouble. The wording of both is given
here, once.
-/
import Workflows.Fragment.Tree

namespace Workflows.Fragment

open Workflows.Text

/-! ## Malformed fragments -/

/-- What is wrong with an escape. -/
inductive EscapeDefect
  /-- It is the letter before fewer digits than it asks for. -/
  | truncated (letter : Char)
  | beyondUnicode
  | noName
  | unknownName
deriving DecidableEq, Repr

/-- Why a text is no fragment. -/
inductive Malformed
  | unexpected
  | unexpectedIndent
  | unexpectedDedent
  | unevenDedent
  | mixedIndent
  /-- A statement that introduces a block stands on this line, and there is no block. -/
  | missingBlock (introducer : String) (line : Nat)
  | missingColon
  | missingKeyColon
  | missingComma
  | strayEquals
  /-- A function that once was a statement is not called but followed by an expression. -/
  | missingBrackets (name : String)
  | neverClosed (bracket : Char)
  | neverOpened (bracket : Char)
  /-- A bracket closes another kind of bracket, whose line is given if it is a different one. -/
  | mismatched (close bracket : Char) (line : Option Nat)
  /-- A quoted text reaches the end of this line. -/
  | openText (line : Nat)
  /-- A text in threefold quotes reaches the end of the fragment, whose last line is this one. -/
  | openLongText (line : Nat)
  | leadingZeros
  /-- A numeral of a base has no digits, or a letter or a low line follows it. -/
  | badNumeral (base : Nat)
  | badDigit (digit : Char) (base : Nat)
  | longNumeral (digits : Nat)
  /-- An escape, from one place in its text to another, stands for nothing. -/
  | badEscape (first last : Nat) (defect : EscapeDefect)
  | badCharacter (c : Char)
  | strayBackslash
  | unfinished
deriving DecidableEq, Repr

/-- The code point of a character in at least four upper-case digits. -/
def codePointText (c : Char) : String :=
  let digits := (Nat.toDigits 16 c.toNat).map Char.toUpper
  "U+" ++ String.ofList (List.replicate (4 - digits.length) '0' ++ digits)

/-- The word for numerals of a base. -/
def baseWord (base : Nat) : String :=
  if base = 2 then "binary" else if base = 8 then "octal" else if base = 16 then "hexadecimal"
  else "decimal"

/-- The words for what is wrong with an escape. -/
def EscapeDefect.words : EscapeDefect → String
  | truncated letter =>
    let width := if letter = 'x' then 2 else if letter = 'u' then 4 else 8
    "truncated \\" ++ String.ofList (letter :: List.replicate width 'X') ++ " escape"
  | beyondUnicode => "illegal Unicode character"
  | noName => "malformed \\N character escape"
  | unknownName => "unknown Unicode character name"

namespace Malformed

/-- The message for a malformed fragment. -/
def message : Malformed → String
  | unexpected => "invalid syntax"
  | unexpectedIndent => "unexpected indent"
  | unexpectedDedent => "unexpected unindent"
  | unevenDedent => "unindent does not match any outer indentation level"
  | mixedIndent => "inconsistent use of tabs and spaces in indentation"
  | missingBlock introducer line =>
    "expected an indented block after " ++ introducer ++ " on line " ++ toString line
  | missingColon => "expected ':'"
  | missingKeyColon => "':' expected after dictionary key"
  | strayEquals => "invalid syntax. Maybe you meant '==' or ':=' instead of '='?"
  | missingComma => "invalid syntax. Perhaps you forgot a comma?"
  | missingBrackets name =>
    "Missing parentheses in call to '" ++ name ++ "'. Did you mean " ++ name ++ "(...)?"
  | neverClosed bracket => "'" ++ bracket.toString ++ "' was never closed"
  | neverOpened bracket => "unmatched '" ++ bracket.toString ++ "'"
  | mismatched close bracket line =>
    "closing parenthesis '" ++ close.toString ++ "' does not match opening parenthesis '" ++
      bracket.toString ++ "'" ++
      (match line with
        | some line => " on line " ++ toString line
        | none => "")
  | openText line => "unterminated string literal (detected at line " ++ toString line ++ ")"
  | openLongText line =>
    "unterminated triple-quoted string literal (detected at line " ++ toString line ++ ")"
  | leadingZeros =>
    "leading zeros in decimal integer literals are not permitted; " ++
      "use an 0o prefix for octal integers"
  | badNumeral base => "invalid " ++ baseWord base ++ " literal"
  | badDigit digit base =>
    "invalid digit '" ++ digit.toString ++ "' in " ++ baseWord base ++ " literal"
  | longNumeral digits =>
    (Fault.longInteger digits).message ++ " - Consider hexadecimal for huge integer literals " ++
      "to avoid decimal conversion limits."
  | badEscape first last defect =>
    "(unicode error) 'unicodeescape' codec can't decode bytes in position " ++ toString first ++
      "-" ++ toString last ++ ": " ++ defect.words
  | badCharacter c =>
    if isPrintable c then
      "invalid character '" ++ c.toString ++ "' (" ++ codePointText c ++ ")"
    else "invalid non-printable character " ++ codePointText c
  | strayBackslash => "unexpected character after line continuation character"
  | unfinished => "unexpected EOF while parsing"

end Malformed

/-! ## Trouble at run time -/

/-- How many arguments a function takes. -/
inductive Arity
  | none
  | exactlyOne
  | one
  | atLeastOne
  | atLeastOneByPlace
  | atMost (n : Nat)
  | upTo (n : Nat)
  | missing (argument : String)
  | ofAccessor
deriving DecidableEq, Repr

/-- Why a fragment stopped. -/
inductive Trouble
  | malformed (line : Nat) (cause : Malformed)
  /-- The text holds the character zero, which belongs to no line. -/
  | zeroCharacter
  | undefined (name : String)
  | unbound (name : String)
  /-- A name of the fragment that has no value yet is used inside a comprehension. -/
  | unboundInside (name : String)
  | noModules
  /-- The fragment raised a failure with this text. -/
  | raised (text : String)
  | nothingToRaise
  | notRaisable
  /-- An operator of arithmetic has the divisor zero; the operands are integers or not. -/
  | zeroDivisor (op : Arithmetic) (integers : Bool)
  | integerTooLarge
  | quotientTooLarge
  | powerTooLarge
  | roundedTooLarge
  | longInteger
  | zeroPower
  /-- An operator, which assigns its result or not, has no meaning for two kinds. -/
  | operands (op : Arithmetic) (assigns : Bool) (left right : Datum.Kind)
  | notJoined (left right : Datum.Kind)
  | badCount (kind : Datum.Kind)
  | unformatted
  | badOperand (op : Unary) (kind : Datum.Kind)
  | noMagnitude (kind : Datum.Kind)
  | unordered (comparison : Comparison) (left right : Datum.Kind)
  | notCallable (kind : Datum.Kind)
  | notSubscriptable (kind : Datum.Kind)
  | typeNotSubscriptable (name : String)
  | notIterable (kind : Datum.Kind)
  | noLength (kind : Datum.Kind)
  | noMember (kind : Datum.Kind) (name : String)
  | noTypeMember (type name : String)
  | outOfRange (kind : Datum.Kind)
  | badIndex (owner kind : Datum.Kind)
  | hugeIndex
  | badBound
  | zeroPartStep
  | unhashablePart
  /-- There are too many items to be counted by a word of 63 bits. -/
  | uncountable
  /-- There are too many items to be held. -/
  | unholdable
  | longRepetition
  | missingKey (key : Datum)
  | unhashable (kind : Datum.Kind)
  | nothingIn (function : Builtin)
  | notAnInteger (kind : Datum.Kind)
  | notReadable (function : Builtin) (kind : Datum.Kind)
  | noSuchBase
  | noText
  | notInBase (base : Nat) (text : String)
  | unreadable (fault : Fault)
  | noRounding (kind : Datum.Kind)
  | zeroStep
  | hugeFlag
  | sumOfTexts
  | arity (function : String) (rule : Arity) (given : Nat)
  | noNamed (function : String)
  | unknownNamed (function name : String)
  /-- An accessor of the input was given an argument by name. -/
  | accessorNamed (accessor name : String)

namespace Trouble

/-- The message for a number of arguments that a function does not take. -/
def arityMessage (function : String) (given : Nat) : Arity → String
  | .none => function ++ "() takes no arguments (" ++ toString given ++ " given)"
  | .exactlyOne =>
    function ++ "() takes exactly one argument (" ++ toString given ++ " given)"
  | .one => function ++ " expected 1 argument, got " ++ toString given
  | .atLeastOne => function ++ " expected at least 1 argument, got " ++ toString given
  | .atLeastOneByPlace =>
    function ++ "() takes at least 1 positional argument (" ++ toString given ++ " given)"
  | .atMost n =>
    function ++ " expected at most " ++ toString n ++
      (if n = 1 then " argument, got " else " arguments, got ") ++ toString given
  | .upTo n =>
    function ++ "() takes at most " ++ toString n ++ " arguments (" ++ toString given ++ " given)"
  | .missing argument => function ++ "() missing required argument '" ++ argument ++ "' (pos 1)"
  | .ofAccessor =>
    "InputItems." ++ function ++ "() takes 1 positional argument but " ++ toString (given + 1) ++
      " were given"

/-- The message for a divisor zero. -/
def zeroMessage (integers : Bool) : Arithmetic → String
  | .div => if integers then "division by zero" else "float division by zero"
  | .mod => if integers then "integer modulo by zero" else "float modulo"
  | _ => if integers then "integer division or modulo by zero" else "float floor division by zero"

/-- The sign of an operator in the message about its operands. -/
def operatorWord (assigns : Bool) : Arithmetic → String
  | .pow => if assigns then "**=" else "** or pow()"
  | op => if assigns then op.word ++ "=" else op.word

/-- The word for what was indexed beyond its ends. -/
def indexedWord : Datum.Kind → String
  | .text => "string"
  | .range => "range object"
  | kind => kind.word

/-- The message for a datum that is no index. -/
def indexMessage (owner kind : Datum.Kind) : String :=
  match owner with
  | .text => "string indices must be integers, not '" ++ kind.word ++ "'"
  | _ => owner.word ++ " indices must be integers or slices, not " ++ kind.word

/-- The message for trouble at run time. -/
def message : Trouble → String
  | malformed line cause => "invalid syntax on line " ++ toString line ++ ": " ++ cause.message
  | zeroCharacter => "invalid syntax on line None: source code string cannot contain null bytes"
  | undefined name => "name '" ++ name ++ "' is not defined"
  | unbound name =>
    "cannot access local variable '" ++ name ++ "' where it is not associated with a value"
  | unboundInside name =>
    "cannot access free variable '" ++ name ++
      "' where it is not associated with a value in enclosing scope"
  | noModules => "__import__ not found"
  | raised text => text
  | nothingToRaise => "No active exception to reraise"
  | notRaisable => "exceptions must derive from BaseException"
  | zeroDivisor op integers => zeroMessage integers op
  | integerTooLarge => "int too large to convert to float"
  | quotientTooLarge => "integer division result too large for a float"
  | powerTooLarge => "(34, 'Numerical result out of range')"
  | roundedTooLarge => "rounded value too large to represent"
  | longInteger =>
    "Exceeds the limit (4300 digits) for integer string conversion; " ++
      "use sys.set_int_max_str_digits() to increase the limit"
  | zeroPower => "0.0 cannot be raised to a negative power"
  | operands op assigns left right =>
    "unsupported operand type(s) for " ++ operatorWord assigns op ++ ": '" ++ left.word ++
      "' and '" ++ right.word ++ "'"
  | notJoined left right =>
    "can only concatenate " ++ left.word ++ " (not \"" ++ right.word ++ "\") to " ++ left.word
  | badCount kind => "can't multiply sequence by non-int of type '" ++ kind.word ++ "'"
  | unformatted => "not all arguments converted during string formatting"
  | badOperand op kind => "bad operand type for unary " ++ op.word ++ ": '" ++ kind.word ++ "'"
  | noMagnitude kind => "bad operand type for abs(): '" ++ kind.word ++ "'"
  | unordered comparison left right =>
    "'" ++ comparison.word ++ "' not supported between instances of '" ++ left.word ++ "' and '" ++
      right.word ++ "'"
  | notCallable kind => "'" ++ kind.word ++ "' object is not callable"
  | notSubscriptable kind => "'" ++ kind.word ++ "' object is not subscriptable"
  | typeNotSubscriptable name => "type '" ++ name ++ "' is not subscriptable"
  | notIterable kind => "'" ++ kind.word ++ "' object is not iterable"
  | noLength kind => "object of type '" ++ kind.word ++ "' has no len()"
  | noMember kind name => "'" ++ kind.word ++ "' object has no attribute '" ++ name ++ "'"
  | noTypeMember type name => "type object '" ++ type ++ "' has no attribute '" ++ name ++ "'"
  | outOfRange kind => indexedWord kind ++ " index out of range"
  | badIndex owner kind => indexMessage owner kind
  | hugeIndex => "cannot fit 'int' into an index-sized integer"
  | uncountable => "Python int too large to convert to C ssize_t"
  | unholdable => ""
  | longRepetition => "repeated string is too long"
  | badBound => "slice indices must be integers or None or have an __index__ method"
  | zeroPartStep => "slice step cannot be zero"
  | unhashablePart => "unhashable type: 'slice'"
  | missingKey key => key.spelling
  | unhashable kind => "unhashable type: '" ++ kind.word ++ "'"
  | nothingIn function => function.word ++ "() arg is an empty sequence"
  | notAnInteger kind => "'" ++ kind.word ++ "' object cannot be interpreted as an integer"
  | notReadable function kind =>
    function.word ++ "() argument must be a string" ++
      (if function = .int then ", a bytes-like object or a real number, not '"
        else " or a real number, not '") ++ kind.word ++ "'"
  | noSuchBase => "int() base must be >= 2 and <= 36, or 0"
  | noText => "int() can't convert non-string with explicit base"
  | notInBase base text => Fault.malformedIntegerMessage base text
  | unreadable fault => fault.message
  | noRounding kind => "type " ++ kind.word ++ " doesn't define __round__ method"
  | zeroStep => "range() arg 3 must not be zero"
  | hugeFlag => "Python int too large to convert to C int"
  | sumOfTexts => "sum() can't sum strings [use ''.join(seq) instead]"
  | arity function rule given => arityMessage function given rule
  | noNamed function => function ++ "() takes no keyword arguments"
  | unknownNamed function name =>
    "'" ++ name ++ "' is an invalid keyword argument for " ++ function ++ "()"
  | accessorNamed accessor name =>
    "InputItems." ++ accessor ++ "() got an unexpected keyword argument '" ++ name ++ "'"

end Trouble

end Workflows.Fragment
