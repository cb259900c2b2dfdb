/-
The tokens of a fragment. A line's margin opens and closes blocks, a line inside brackets continues
the one before it, and a token that cannot be read is the last one and says why.
-/
import Workflows.Fragment.Trouble

namespace Workflows.Fragment

open Workflows.Text

/-- A token. -/
inductive Token
  | word (name : String)
  | int (n : Int)
  | float (x : Binary64)
  | text (s : String)
  | sign (symbol : String)
  | newline
  | indent
  | dedent
  | finish
  /-- A number or a text that can be read, but that means nothing. -/
  | meaningless (cause : Malformed)
  /-- What follows cannot be read. -/
  | broken (cause : Malformed)
deriving DecidableEq, Inhabited

/-- A token and its line. -/
structure Placed where
  token : Token
  line : Nat
deriving Inhabited

namespace Token

/-! ## Words and numbers -/

/-- A character that a name begins with. -/
def isNameStart (c : Char) : Bool := isWord c && (digitValue? c).isNone

/-- The digits of a base at the head of a text, and what follows them. A low line that has a digit
after it may stand before it. -/
def digitsOf (base : Nat) : List Char → List Char × List Char
  | [] => ([], [])
  | c :: cs =>
    let isDigit := fun c => (Numeral.digitIn? base c).isSome
    if isDigit c then
      let (digits, rest) := digitsOf base cs
      (c :: digits, rest)
    else if c = '_' && cs.head?.any isDigit then digitsOf base cs
    else ([], c :: cs)

/-- An exponent part, if one stands here: its characters and what follows. -/
def exponentPart (cs : List Char) : List Char × List Char :=
  match cs with
  | [] => ([], [])
  | e :: more =>
    if e = 'e' || e = 'E' then
      let (direction, unsigned) := match more with
        | c :: rest => if c = '-' || c = '+' then ([c], rest) else ([], more)
        | [] => ([], more)
      let (digits, rest) := digitsOf 10 unsigned
      if (unsigned.head?.any Char.isDigit) then ('e' :: direction ++ digits, rest) else ([], cs)
    else ([], cs)

/-- Words that may follow a number without a blank. -/
def numberFollowers : List String := ["and", "else", "for", "if", "in", "is", "not", "or"]

/-- A number ends before these characters. Letters beyond ASCII begin a token of their own. -/
def endsNumber (cs : List Char) : Bool :=
  !cs.head?.any (fun c => isWord c && c.toNat < 128) ||
    numberFollowers.any fun word => word.toList.isPrefixOf cs

/-- A number in base ten, which begins with a digit or with a point and a digit, and what follows
it. -/
def decimalNumber (cs : List Char) : Token × List Char :=
  let (whole, afterWhole) := digitsOf 10 cs
  let (point, places, afterPlaces) := match afterWhole with
    | '.' :: more =>
      if (more.head?.any Char.isDigit) then
        let (places, rest) := digitsOf 10 more
        (true, places, rest)
      else (true, [], more)
    | _ => (false, [], afterWhole)
  let (exponent, rest) := exponentPart afterPlaces
  if point || !exponent.isEmpty then
    match Numeral.unsignedDecimal? false (whole ++ '.' :: places ++ exponent) with
    | some x => (if endsNumber rest then .float x else .broken (.badNumeral 10), rest)
    | none => (.broken (.badNumeral 10), rest)
  else if rest.head? = some '_' then (.broken (.badNumeral 10), rest)
  else if whole.head? = some '0' && !whole.all (· == '0') then (.broken .leadingZeros, rest)
  else if !endsNumber rest then (.broken (.badNumeral 10), rest)
  else if whole.head? ≠ some '0' && Numeral.maxDigits < whole.length then
    (.meaningless (.longNumeral whole.length), rest)
  else (.int (Nat.ofDigitChars 10 whole 0), rest)

/-- An integer in the base that a letter after a zero announced, and what follows it. -/
def numberInBase (base : Nat) (cs : List Char) : Token × List Char :=
  let (digits, rest) := digitsOf base cs
  let unread := if rest.head? = some '_' then rest.drop 1 else rest
  match unread.head? with
  | some c =>
    if c.isDigit then (.broken (.badDigit c base), rest)
    else if digits.isEmpty || !endsNumber rest then (.broken (.badNumeral base), rest)
    else (.int (Numeral.ofDigits base (digits.filterMap (Numeral.digitIn? base))), rest)
  | none =>
    if digits.isEmpty || !rest.isEmpty then (.broken (.badNumeral base), rest)
    else (.int (Numeral.ofDigits base (digits.filterMap (Numeral.digitIn? base))), rest)

/-- A number, which begins with a digit or with a point and a digit, and what follows it. -/
def number (cs : List Char) : Token × List Char :=
  match cs with
  | '0' :: letter :: more =>
    match Numeral.announcedBase? letter with
    | some base => numberInBase base more
    | none => decimalNumber cs
  | _ => decimalNumber cs

/-! ## Quoted texts -/

/-- The inside of a quoted text with its escapes, and what follows it; the line feeds after
backslashes are counted. None if the line ends first. -/
def untilQuote (quote : Char) : List Char → Option (List Char × Nat × List Char)
  | [] | '\n' :: _ => none
  | '\\' :: '\n' :: cs =>
    (untilQuote quote cs).map fun (inside, lines, rest) =>
      ('\\' :: '\n' :: inside, lines + 1, rest)
  | '\\' :: c :: cs =>
    (untilQuote quote cs).map fun (inside, lines, rest) => ('\\' :: c :: inside, lines, rest)
  | c :: cs =>
    if c = quote then some ([], 0, cs)
    else (untilQuote quote cs).map fun (inside, lines, rest) => (c :: inside, lines, rest)

/-- The inside of a text in threefold quotes with its escapes, and what follows it; its line feeds
are counted. None if the quotes do not end. -/
def untilThreeQuotes (quote : Char) : List Char → Option (List Char × Nat × List Char)
  | [] => none
  | '\\' :: '\n' :: cs =>
    (untilThreeQuotes quote cs).map fun (inside, lines, rest) =>
      ('\\' :: '\n' :: inside, lines + 1, rest)
  | '\\' :: c :: cs =>
    (untilThreeQuotes quote cs).map fun (inside, lines, rest) =>
      ('\\' :: c :: inside, lines, rest)
  | c :: cs =>
    if c = quote && [quote, quote].isPrefixOf cs then some ([], 0, cs.drop 2)
    else
      (untilThreeQuotes quote cs).map fun (inside, lines, rest) =>
        (c :: inside, if c = '\n' then lines + 1 else lines, rest)

/-- The number of line feeds that escapes join before a text breaks off. -/
def joinedLines : List Char → Nat
  | [] | '\n' :: _ => 0
  | '\\' :: '\n' :: cs => if cs.isEmpty then 0 else joinedLines cs + 1
  | '\\' :: _ :: cs => joinedLines cs
  | _ :: cs => joinedLines cs

/-- The number that at most `width` digits of a base write, none of which need be there. -/
def codeAhead (base : Nat) : Nat → Nat → List Char → Nat × Nat
  | 0, code, _ => (code, 0)
  | _, code, [] => (code, 0)
  | width + 1, code, c :: cs =>
    match hexValue? c with
    | some value =>
      if value < base then
        let (code, count) := codeAhead base width (code * base + value) cs
        (code, count + 1)
      else (code, 0)
    | none => (code, 0)

/-- What one letter after a backslash stands for. -/
def letterEscape? : Char → Option Char
  | '\\' => some '\\'
  | '\'' => some '\''
  | '"' => some '"'
  | 'n' => some '\n'
  | 't' => some '\t'
  | 'r' => some '\r'
  | 'a' => some '\x07'
  | 'b' => some '\x08'
  | 'f' => some '\x0c'
  | 'v' => some '\x0b'
  | _ => none

/-- The number of digits that a letter asks for after it. -/
def digitsAskedFor? : Char → Option Nat
  | 'x' => some 2
  | 'u' => some 4
  | 'U' => some 8
  | _ => none

/-- What stands after a backslash. -/
inductive Escape
  /-- These characters, for as many characters after the backslash. -/
  | meaning (text : List Char) (width : Nat)
  /-- The backslash is itself. -/
  | itself
  /-- Nothing: what is wrong with so many characters after the backslash. -/
  | defect (width : Nat) (defect : EscapeDefect)

/-- What stands after a backslash: a line feed, which does not count, a letter, up to three octal
digits, or as many hexadecimal digits as their letter asks for. Characters have no names here. -/
def Escape.at (cs : List Char) : Escape :=
  match cs with
  | [] => .itself
  | '\n' :: _ => .meaning [] 1
  | 'N' :: '\x7b' :: more =>
    let name := more.takeWhile (· != '\x7d')
    if name.length = more.length then .defect (name.length + 2) .noName
    else if name.isEmpty then .defect 2 .noName
    else .defect (name.length + 3) .unknownName
  | 'N' :: _ => .defect 1 .noName
  | c :: more =>
    match letterEscape? c, digitsAskedFor? c with
    | some meant, _ => .meaning [meant] 1
    | none, none =>
      let (code, count) := codeAhead 8 3 0 cs
      if 0 < count then .meaning [Char.ofNat code] count else .itself
    | none, some width =>
      let (code, count) := codeAhead 16 width 0 more
      if count < width then .defect (count + 1) (.truncated c)
      else if 0x10FFFF < code then .defect (width + 1) .beyondUnicode
      else .meaning [Char.ofNat code] (width + 1)

/-- The places that a character takes where faulty escapes are counted: one beyond ASCII is written
there as an escape of ten, and a backslash before it as one of six. -/
def placesFor (c : Char) (after : List Char) : Nat :=
  if 127 < c.toNat then 10
  else if c = '\\' && after.head?.any (127 < ·.toNat) then 6
  else 1

/-- The places that characters take there. -/
def placesOf : List Char → Nat
  | [] => 0
  | c :: cs => placesFor c cs + placesOf cs

/-- The text that the inside of quotes stands for, of which the first characters are already read;
`place` is the place behind them. A backslash before anything that is no escape is itself. -/
def unescapeFrom (place : Nat) : Nat → List Char → Except Malformed (List Char)
  | 0, _ | _, [] => .ok []
  | steps + 1, c :: cs =>
    let kept : Except Malformed (List Char) :=
      (unescapeFrom (place + placesFor c cs) steps cs).map (c :: ·)
    if c = '\\' then
      match Escape.at cs with
      | .itself => kept
      | .meaning meant width =>
        (unescapeFrom (place + 1 + width) steps (cs.drop width)).map (meant ++ ·)
      | .defect width defect =>
        .error (.badEscape place (place + placesOf (cs.take width)) defect)
    else kept

/-- The token of a quoted text; in a raw one a backslash is a character like any other. -/
def ofQuoted (raw : Bool) (inside : List Char) : Token :=
  if raw then .text (String.ofList inside)
  else
    match unescapeFrom 0 inside.length inside with
    | .ok cs => .text (String.ofList cs)
    | .error cause => .meaningless cause

/-- A character that opens and closes quoted texts. -/
def isQuote (c : Char) : Bool := c = '\'' || c = '"'

/-- The quote at the head of a text and what follows it; a letter before the quote may say that the
text inside is raw, or that it is not. -/
def openingQuote? : List Char → Option (Bool × Char × List Char)
  | c :: cs =>
    if isQuote c then some (false, c, cs)
    else
      match cs with
      | quote :: more =>
        if isQuote quote && ['r', 'R', 'u', 'U'].contains c then
          some (c = 'r' || c = 'R', quote, more)
        else none
      | [] => none
  | [] => none

/-! ## Signs -/

/-- The signs of more than one character, the longer ones first. -/
def longSigns : List String :=
  ["**=", "//=", "<<=", ">>=", "...", "**", "//", "==", "!=", "<=", ">=", "+=", "-=", "*=", "/=",
    "%=", "&=", "|=", "^=", "@=", "->", ":=", "<<", ">>"]

/-- The sign at the head of a text that is not empty. -/
def signOf (cs : List Char) : String :=
  match longSigns.find? fun symbol => symbol.toList.isPrefixOf cs with
  | some symbol => symbol
  | none => String.ofList (cs.take 1)

/-- The closing bracket of an opening one. -/
def closing? : Char → Option Char
  | '(' => some ')'
  | '[' => some ']'
  | '\x7b' => some '\x7d'
  | _ => none

/-- A closing bracket. -/
def isClosing (c : Char) : Bool := c = ')' || c = ']' || c = '\x7d'

/-! ## Margins -/

/-- A margin, in columns when a tab goes to the next multiple of eight, and when it is one column
wide. Two margins are comparable only if both counts agree on their order. -/
structure Margin where
  wide : Nat
  narrow : Nat
deriving DecidableEq, Inhabited

/-- The margin at the head of a line, and the rest of the line. -/
def takeMargin (margin : Margin) : List Char → Margin × List Char
  | ' ' :: cs => takeMargin ⟨margin.wide + 1, margin.narrow + 1⟩ cs
  | '\t' :: cs => takeMargin ⟨(margin.wide / 8 + 1) * 8, margin.narrow + 1⟩ cs
  | '\x0c' :: cs => takeMargin ⟨0, 0⟩ cs
  | cs => (margin, cs)

/-- The blocks that are open after a line with a margin, from the inside out, and how many of them
the line closes or opens. -/
def closeBlocks (margin : Margin) : List Margin → Nat × List Margin
  | [] => (0, [])
  | top :: outer =>
    if margin.wide < top.wide then
      let (count, blocks) := closeBlocks margin outer
      (count + 1, blocks)
    else (0, top :: outer)

/-- The tokens by which a line's margin opens or closes blocks, and the blocks open then. -/
def blockTokens (margin : Margin) (blocks : List Margin) : List Token × List Margin :=
  let top := blocks.headD ⟨0, 0⟩
  if margin.wide = top.wide then
    (if margin.narrow = top.narrow then [] else [.broken .mixedIndent], blocks)
  else if top.wide < margin.wide then
    (if top.narrow < margin.narrow then [.indent] else [.broken .mixedIndent], margin :: blocks)
  else
    let (count, left) := closeBlocks margin blocks
    let top := left.headD ⟨0, 0⟩
    if margin.wide ≠ top.wide then ([.broken .unevenDedent], left)
    else if margin.narrow ≠ top.narrow then ([.broken .mixedIndent], left)
    else (List.replicate count .dedent, left)

/-! ## Reading -/

/-- Where reading stands: the line, the open brackets with their lines and the open blocks, both
from the inside out, and whether a line begins here. -/
structure Reading where
  line : Nat
  brackets : List (Char × Nat)
  blocks : List Margin
  atStart : Bool

/-- The tokens at the end of the text, which stands at the start of a line that is not there. -/
def atEnd (state : Reading) : List Placed :=
  match state.brackets with
  | (bracket, line) :: _ => [⟨.broken (.neverClosed bracket), line⟩]
  | [] =>
    List.replicate state.blocks.length ⟨.dedent, state.line - 1⟩ ++ [⟨.finish, state.line - 1⟩]

/-- The brackets after a sign, or why it cannot stand here. -/
def bracketsAfter (state : Reading) (symbol : String) : Except Malformed (List (Char × Nat)) :=
  match symbol.toList with
  | [c] =>
    if (closing? c).isSome then .ok ((c, state.line) :: state.brackets)
    else if isClosing c then
      match state.brackets with
      | [] => .error (.neverOpened c)
      | (bracket, line) :: outer =>
        if closing? bracket = some c then .ok outer
        else
          .error (.mismatched c bracket (if line = state.line then none else some line))
    else .ok state.brackets
  | _ => .ok state.brackets

/-- Reads a text. Every step takes a character or leaves the start of a line, so two steps for each
character suffice. -/
def scan : Nat → Reading → List Char → List Placed
  | 0, _, _ => []
  | steps + 1, state, cs =>
    if state.atStart then
      let (margin, rest) := takeMargin ⟨0, 0⟩ cs
      let state := { state with atStart := false }
      match rest with
      | [] => atEnd state
      | c :: _ =>
        if c = '\n' || c = '#' then
          match rest.dropWhile (· != '\n') with
          | [] => atEnd state
          | _ :: more => scan steps { state with line := state.line + 1, atStart := true } more
        else if c = '\\' && (rest.drop 1).head? != some '\n' then
          [⟨.broken .strayBackslash, state.line⟩]
        else if !state.brackets.isEmpty then scan steps state rest
        else
          let (tokens, blocks) := blockTokens margin state.blocks
          let placed : List Placed := tokens.map fun token => ⟨token, state.line⟩
          match tokens.getLast? with
          | some (.broken _) => placed
          | _ => placed ++ scan steps { state with blocks } rest
    else
      match cs with
      | [] => atEnd { state with line := state.line + 1 }
      | c :: more =>
        if c = ' ' || c = '\t' || c = '\x0c' then scan steps state more
        else if c = '#' then scan steps state (more.dropWhile (· != '\n'))
        else if c = '\n' then
          let after := scan steps { state with line := state.line + 1, atStart := true } more
          if state.brackets.isEmpty then ⟨.newline, state.line⟩ :: after else after
        else if c = '\\' then
          match more with
          | ['\n'] =>
            match state.brackets with
            | [] => [⟨.broken .unfinished, state.line⟩]
            | (bracket, line) :: _ => [⟨.broken (.neverClosed bracket), line⟩]
          | '\n' :: rest => scan steps { state with line := state.line + 1 } rest
          | _ => [⟨.broken .strayBackslash, state.line⟩]
        else if let some (raw, quote, more) := openingQuote? cs then
          if [quote, quote].isPrefixOf more then
            match untilThreeQuotes quote (more.drop 2) with
            | none => [⟨.broken (.openLongText (state.line + more.count '\n' - 1)), state.line⟩]
            | some (inside, lines, rest) =>
              ⟨ofQuoted raw inside, state.line⟩ ::
                scan steps { state with line := state.line + lines } rest
          else
            match untilQuote quote more with
            | none => [⟨.broken (.openText (state.line + joinedLines more)), state.line⟩]
            | some (inside, lines, rest) =>
              ⟨ofQuoted raw inside, state.line⟩ ::
                scan steps { state with line := state.line + lines } rest
        else if c.isDigit || (c = '.' && more.head?.any Char.isDigit) then
          match number cs with
          | (.broken cause, _) => [⟨.broken cause, state.line⟩]
          | (token, rest) => ⟨token, state.line⟩ :: scan steps state rest
        else if isNameStart c then
          ⟨.word (String.ofList (cs.takeWhile isWord)), state.line⟩ ::
            scan steps state (cs.dropWhile isWord)
        else if 127 < c.toNat || !isPrintable c then [⟨.broken (.badCharacter c), state.line⟩]
        else
          let symbol := signOf cs
          match bracketsAfter state symbol with
          | .error cause => [⟨.broken cause, state.line⟩]
          | .ok brackets =>
            ⟨.sign symbol, state.line⟩ ::
              scan steps { state with brackets } (cs.drop symbol.length)

/-- The tokens of a function body, whose first line is line 2. -/
def ofBody (cs : List Char) : List Placed :=
  scan (2 * cs.length + 2) ⟨2, [], [], true⟩ cs

end Token

end Workflows.Fragment
