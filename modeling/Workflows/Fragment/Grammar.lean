/-
Reading the structure of a fragment from its tokens by recursive descent. What is refused is
refused at the first token that cannot continue; a text that cannot be read at all, or a bracket
that is left open before that line, is the better reason where there is one.
-/
import Workflows.Fragment.Layout
import Workflows.Fragment.Token

namespace Workflows.Fragment

/-! ## Refusals -/

/-- A refusal: the tokens from the one that was refused on, the reason with its line if there is a
special one, and the line of the last token that was looked at in search of one. -/
structure Refusal where
  rest : List Placed
  reason : Option (Nat × Malformed)
  reached : Nat

/-- The line of the first of some tokens. -/
def headLine (tokens : List Placed) : Nat := (tokens.head?.map (·.line)).getD 0

namespace Refusal

/-- The text cannot be read where it was refused. -/
def isBroken (refusal : Refusal) : Bool :=
  match refusal.rest with
  | ⟨.broken _, _⟩ :: _ => true
  | _ => false

/-- The reason why the text cannot be read further on, with its line, if it takes precedence over a
refusal at a line: an open bracket does so only if it stands on an earlier line, and margins and
backslashes never do. -/
def brokenAfter? (line : Nat) (rest : List Placed) : Option (Nat × Malformed) :=
  match rest.getLast? with
  | some ⟨.broken (.neverClosed bracket), opened⟩ =>
    if opened < line then some (opened, .neverClosed bracket) else none
  | some ⟨.broken .unevenDedent, _⟩ | some ⟨.broken .mixedIndent, _⟩
  | some ⟨.broken .strayBackslash, _⟩ | some ⟨.broken .unfinished, _⟩ => none
  | some ⟨.broken cause, place⟩ => some (place, cause)
  | _ => none

/-- The line and the reason that are reported. -/
def report (refusal : Refusal) : Nat × Malformed :=
  match refusal.rest, refusal.reason with
  | ⟨.broken cause, line⟩ :: _, _ => (line, cause)
  | ⟨.indent, line⟩ :: _, none => (line, .unexpectedIndent)
  | ⟨.dedent, line⟩ :: _, none => (line, .unexpectedDedent)
  | rest, reason =>
    (brokenAfter? refusal.reached rest).getD (reason.getD (headLine rest, .unexpected))

end Refusal

/-- How to read: whether a better reason is looked for before something is refused, and whether a
bracket is open. -/
structure Mode where
  explains : Bool
  nested : Bool

/-- Reading from tokens. -/
abbrev Parse := ReaderT Mode (StateT (List Placed) (Except Refusal))

namespace Parse

/-! ## Single tokens -/

/-- Refuses the next token. -/
def refuse {α : Type} (reason : Option Malformed := none) : Parse α :=
  fun _ tokens =>
    let line := headLine tokens
    .error ⟨tokens, reason.map fun cause => (line, cause), line⟩

/-- Reads what stands between brackets. -/
def within {α : Type} (inside : Parse α) : Parse α :=
  withReader (fun mode => { mode with nested := true }) inside

/-- The next token. -/
def peek : Parse Token := do return ((← get).head?.map (·.token)).getD .finish

/-- The line of the next token. -/
def currentLine : Parse Nat := do return headLine (← get)

/-- Passes over the next token. -/
def advance : Parse Unit := modify (·.drop 1)

/-- Passes over a token if it is the next one. -/
def accept (token : Token) : Parse Bool := do
  if (← peek) = token then
    advance
    return true
  else return false

/-- Passes over a token that must be the next one. -/
def expect (token : Token) (reason : Option Malformed := none) : Parse Unit := do
  if ← accept token then return () else refuse reason

/-- The words that are no names. -/
def reserved : List String :=
  ["False", "None", "True", "and", "as", "assert", "async", "await", "break", "class", "continue",
    "def", "del", "elif", "else", "except", "finally", "for", "from", "global", "if", "import",
    "in", "is", "lambda", "nonlocal", "not", "or", "pass", "raise", "return", "try", "while",
    "with", "yield"]

/-- A name. -/
def identifier : Parse String := do
  match ← peek with
  | .word name =>
    if reserved.contains name then refuse
    else
      advance
      return name
  | _ => refuse

/-- A token with which an expression can begin. -/
def begins : Token → Bool
  | .word name => !reserved.contains name || ["None", "True", "False", "not"].contains name
  | .int _ | .float _ | .text _ | .meaningless _ => true
  | .sign symbol => ["(", "[", "\x7b", "-", "+"].contains symbol
  | _ => false

/-- A name before a text, which may be meant as the text's prefix, or a name that is a keyword in
some places. -/
def isPrefixed : List Placed → Bool
  | ⟨.word name, _⟩ :: rest =>
    ["_", "case", "match"].contains name ||
      (!reserved.contains name &&
        match rest with
        | ⟨.text _, _⟩ :: _ | ⟨.meaningless (.badEscape _ _ _), _⟩ :: _ => true
        | _ => false)
  | _ => false

/-- The name of a function that once was a statement, if some tokens begin with it. -/
def formerStatement? : List Placed → Option String
  | ⟨.word name, _⟩ :: _ => if ["print", "exec"].contains name then some name else none
  | _ => none

/-! ## Operators -/

/-- The operators of a sum. -/
def sumOp? : Token → Option Arithmetic
  | .sign "+" => some .add
  | .sign "-" => some .sub
  | _ => none

/-- The operators of a product. -/
def termOp? : Token → Option Arithmetic
  | .sign "*" => some .mul
  | .sign "/" => some .div
  | .sign "//" => some .floorDiv
  | .sign "%" => some .mod
  | _ => none

/-- The comparisons. -/
def comparison? : Token → Option Comparison
  | .sign "==" => some .same
  | .sign "!=" => some .differs
  | .sign "<" => some .less
  | .sign "<=" => some .atMost
  | .sign ">" => some .more
  | .sign ">=" => some .atLeast
  | _ => none

/-- The operators that assign their result. -/
def augmented? : Token → Option Arithmetic
  | .sign "+=" => some .add
  | .sign "-=" => some .sub
  | .sign "*=" => some .mul
  | .sign "/=" => some .div
  | .sign "//=" => some .floorDiv
  | .sign "%=" => some .mod
  | .sign "**=" => some .pow
  | _ => none

/-- Texts that stand one after another are one text; it means nothing if one of them does not, and
the first such one says why. -/
def takeTexts (text : Except Malformed String) : List Placed → Except Malformed String × List Placed
  | ⟨.text next, _⟩ :: rest => takeTexts (text.map (· ++ next)) rest
  | ⟨.meaningless (.badEscape first last defect), _⟩ :: rest =>
    takeTexts (do let _ ← text; throw (.badEscape first last defect)) rest
  | tokens => (text, tokens)

/-! ## Expressions -/

mutual

/-- An expression. -/
def expr : Nat → Parse Expr
  | 0 => refuse
  | depth + 1 => do
    let start ← get
    let value ← disjunction depth
    if ← accept (.word "if") then
      let condition ← disjunction depth
      expect (.word "else")
      return .choice condition value (← expr depth)
    else if (← read).explains && begins (← peek) then refusePair depth start
    else return value

/-- An expression that could be given a name. Where an equals sign follows a name instead, another
sign may have been meant. -/
def namable : Nat → Parse Expr
  | 0 => refuse
  | depth + 1 => do
    let start ← get
    let value ← expr depth
    if (← read).explains && (← peek) = .sign "=" then
      match value with
      | .name _ => refuseEquals depth (headLine start)
      | _ => return value
    else return value

/-- Refuses an equals sign after a name on a line, if only one operand follows. -/
def refuseEquals : Nat → Nat → Parse Expr
  | 0, _ => refuse
  | depth + 1, line => fun mode here =>
    match sum depth mode (here.drop 1) with
    | .error refusal =>
      if refusal.isBroken || refusal.reason.isSome then .error refusal
      else .error ⟨here, none, refusal.reached⟩
    | .ok (_, rest) =>
      let refusal : Refusal := ⟨rest, none, headLine rest⟩
      if refusal.isBroken then .error refusal
      else
        let follower := rest.head?.map (·.token)
        if follower = some (.sign "=") || follower = some (.sign ":=") then
          .error ⟨here, none, headLine rest⟩
        else .error ⟨here, some (line, .strayEquals), headLine rest⟩

/-- One of several expressions: between brackets each could be given a name. -/
def item : Nat → Parse Expr
  | 0 => refuse
  | depth + 1 => do if (← read).nested then namable depth else expr depth

/-- Refuses the expression that follows another one, which begins with the first of some tokens. The
reason may be that they are arguments of a statement that is now a function, or that a comma between
them was forgotten. -/
def refusePair : Nat → List Placed → Parse Expr
  | 0, _ => refuse
  | depth + 1, start => fun mode here =>
    let line := headLine start
    match expr depth { mode with explains := false } here with
    | .error refusal =>
      if refusal.isBroken then .error refusal
      else refuseName depth start refusal.reached mode here
    | .ok (_, rest) =>
      let refusal : Refusal := ⟨rest, none, headLine rest⟩
      if refusal.isBroken then .error refusal
      else if mode.nested && !isPrefixed start &&
          (start.length ≠ here.length + 1 || (formerStatement? start).isNone) then
        .error ⟨here, some (line, .missingComma), headLine rest⟩
      else refuseName depth start (headLine rest) mode here

/-- Refuses the expression that follows another one after reading expressions behind a name, if it
is a name that the first one begins with; `reached` is the last line that was looked at. -/
def refuseName : Nat → List Placed → Nat → Parse Expr
  | 0, _, _ => refuse
  | depth + 1, start, reached => fun mode here =>
    match start with
    | ⟨.word name, line⟩ :: after =>
      if reserved.contains name || (after.head?.map (·.token)) = some (.sign "(") then
        .error ⟨here, none, reached⟩
      else
        match exprs depth mode after with
        | .error refusal =>
          if refusal.isBroken || refusal.reason.isSome then .error refusal
          else .error ⟨here, none, max reached refusal.reached⟩
        | .ok (_, rest) =>
          let refusal : Refusal := ⟨rest, none, headLine rest⟩
          let reached := max reached (headLine rest)
          if refusal.isBroken then .error refusal
          else
            match formerStatement? start with
            | some name => .error ⟨here, some (line, .missingBrackets name), reached⟩
            | none => .error ⟨here, none, reached⟩
    | _ => .error ⟨here, none, reached⟩

/-- Alternatives of which the first that counts as true is taken. -/
def disjunction : Nat → Parse Expr
  | 0 => refuse
  | depth + 1 => do
    let left ← conjunction depth
    if ← accept (.word "or") then return .either left (← disjunction depth) else return left

/-- Conditions of which the first that counts as false is taken. -/
def conjunction : Nat → Parse Expr
  | 0 => refuse
  | depth + 1 => do
    let left ← inversion depth
    if ← accept (.word "and") then return .both left (← conjunction depth) else return left

/-- A comparison or its opposite. -/
def inversion : Nat → Parse Expr
  | 0 => refuse
  | depth + 1 => do
    if ← accept (.word "not") then return .unary .opposite (← inversion depth)
    else
      let first ← sum depth
      match ← comparisons depth with
      | [] => return first
      | rest => return .compare first rest

/-- The comparisons that follow an operand. -/
def comparisons : Nat → Parse (List (Comparison × Expr))
  | 0 => refuse
  | depth + 1 => do
    match comparison? (← peek) with
    | none => return []
    | some op =>
      advance
      let right ← sum depth
      return (op, right) :: (← comparisons depth)

/-- A sum. -/
def sum : Nat → Parse Expr
  | 0 => refuse
  | depth + 1 => do moreSum depth (← term depth)

/-- The rest of a sum; it groups to the left. -/
def moreSum : Nat → Expr → Parse Expr
  | 0, _ => refuse
  | depth + 1, left => do
    match sumOp? (← peek) with
    | none => return left
    | some op =>
      advance
      moreSum depth (.binary op left (← term depth))

/-- A product. -/
def term : Nat → Parse Expr
  | 0 => refuse
  | depth + 1 => do moreTerm depth (← factor depth)

/-- The rest of a product; it groups to the left. -/
def moreTerm : Nat → Expr → Parse Expr
  | 0, _ => refuse
  | depth + 1, left => do
    match termOp? (← peek) with
    | none => return left
    | some op =>
      advance
      moreTerm depth (.binary op left (← factor depth))

/-- A power with signs before it; the exponent may have signs of its own. -/
def factor : Nat → Parse Expr
  | 0 => refuse
  | depth + 1 => do
    if ← accept (.sign "-") then return .unary .minus (← factor depth)
    else if ← accept (.sign "+") then return .unary .plus (← factor depth)
    else
      let base ← trailers depth (← atom depth)
      if ← accept (.sign "**") then return .binary .pow base (← factor depth) else return base

/-- What follows an atom: names of members, indices and arguments. -/
def trailers : Nat → Expr → Parse Expr
  | 0, _ => refuse
  | depth + 1, owner => do
    if ← accept (.sign ".") then trailers depth (.member owner (← identifier))
    else if ← accept (.sign "[") then
      trailers depth (← within (index owner depth))
    else if ← accept (.sign "(") then
      let (arguments, named) ← within (arguments depth)
      trailers depth (.call owner arguments named)
    else return owner

/-- An index or the bounds of a part, to the closing bracket. -/
def index (owner : Expr) : Nat → Parse Expr
  | 0 => refuse
  | depth + 1 => do
    let start ← if (← peek) = .sign ":" then pure (.literal .none) else item depth
    if ← accept (.sign ":") then
      let stop ← bound depth
      let step ← if ← accept (.sign ":") then bound depth else pure (.literal .none)
      expect (.sign "]")
      return .part owner start stop step
    else if (← peek) = .sign "," then
      let rest ← moreExprs depth
      expect (.sign "]")
      return .subscript owner (.tuple (start :: rest))
    else
      expect (.sign "]")
      return .subscript owner start

/-- A bound of a part, which need not be written. -/
def bound : Nat → Parse Expr
  | 0 => refuse
  | depth + 1 => do
    let next ← peek
    if next = .sign ":" || next = .sign "]" then return .literal .none else expr depth

/-- The arguments of a call, to the closing bracket; those by name come last. -/
def arguments : Nat → Parse (List Expr × List (String × Expr))
  | 0 => refuse
  | depth + 1 => do
    if ← accept (.sign ")") then return ([], [])
    else
      let value ← expr depth
      match value, ← accept (.sign "=") with
      | .name word, true =>
        let value ← expr depth
        let named ← namedArguments depth
        return ([], (word, value) :: named)
      | _, true => refuse
      | _, false =>
        if ← accept (.sign ",") then
          let (values, named) ← arguments depth
          return (value :: values, named)
        else
          expect (.sign ")")
          return ([value], [])

/-- The arguments by name that follow one, to the closing bracket. -/
def namedArguments : Nat → Parse (List (String × Expr))
  | 0 => refuse
  | depth + 1 => do
    if ← accept (.sign ")") then return []
    else
      expect (.sign ",")
      if ← accept (.sign ")") then return []
      else
        let word ← identifier
        expect (.sign "=")
        let value ← expr depth
        return (word, value) :: (← namedArguments depth)

/-- One expression, or a tuple of several with commas between them. -/
def exprs : Nat → Parse Expr
  | 0 => refuse
  | depth + 1 => do
    let first ← item depth
    if (← peek) = .sign "," then return .tuple (first :: (← moreExprs depth)) else return first

/-- The expressions after the first of several; a comma may follow the last one. -/
def moreExprs : Nat → Parse (List Expr)
  | 0 => refuse
  | depth + 1 => do
    if ← accept (.sign ",") then
      if begins (← peek) then
        let next ← item depth
        return next :: (← moreExprs depth)
      else return []
    else return []

/-- A name, a literal, or what stands in brackets. -/
def atom : Nat → Parse Expr
  | 0 => refuse
  | depth + 1 => do
    match ← peek with
    | .int n =>
      advance
      return .literal (.int n)
    | .float x =>
      advance
      return .literal (.float x)
    | .text _ | .meaningless (.badEscape _ _ _) =>
      let (text, rest) := takeTexts (.ok "") (← get)
      set rest
      match text with
      | .ok text => return .literal (.text text)
      | .error cause => refuse (some cause)
    | .meaningless cause => refuse (some cause)
    | .word "None" =>
      advance
      return .literal .none
    | .word "True" =>
      advance
      return .literal (.bool true)
    | .word "False" =>
      advance
      return .literal (.bool false)
    | .word _ => return .name (← identifier)
    | .sign "(" =>
      advance
      if ← accept (.sign ")") then return .tuple []
      else
        let inside ← within (exprs depth)
        expect (.sign ")")
        return inside
    | .sign "[" =>
      advance
      if ← accept (.sign "]") then return .list [] else within (list depth)
    | .sign "\x7b" =>
      advance
      return .dict (← within (entries true depth))
    | _ => refuse

/-- A list or a comprehension after its opening bracket. -/
def list : Nat → Parse Expr
  | 0 => refuse
  | depth + 1 => do
    let first ← item depth
    if ← accept (.word "for") then
      let item ← identifier
      expect (.word "in")
      let source ← disjunction depth
      let tests ← conditions depth
      expect (.sign "]")
      return .comprehension first item source tests
    else
      let rest ← moreExprs depth
      expect (.sign "]")
      return .list (first :: rest)

/-- The tests of a comprehension. -/
def conditions : Nat → Parse (List Expr)
  | 0 => refuse
  | depth + 1 => do
    if ← accept (.word "if") then
      let condition ← disjunction depth
      return condition :: (← conditions depth)
    else return []

/-- A key of a dictionary and the colon after it. The first one could as well be the first item of
a set. -/
def entryKey (first : Bool) : Nat → Parse Expr
  | 0 => refuse
  | depth + 1 => fun mode here =>
    if first || !mode.explains then
      (do
        let key ← namable depth
        expect (.sign ":")
        return key : Parse Expr) mode here
    else
      match expr depth { mode with explains := false } here with
      | .error _ => expr depth mode here
      | .ok (key, rest) =>
        match rest with
        | ⟨.sign ":", _⟩ :: rest => .ok (key, rest)
        | _ => .error ⟨rest, some (headLine here, .missingKeyColon), headLine rest⟩

/-- The entries of a dictionary, to the closing bracket. -/
def entries (first : Bool) : Nat → Parse (List (Expr × Expr))
  | 0 => refuse
  | depth + 1 => do
    if ← accept (.sign "\x7d") then return []
    else
      let key ← entryKey first depth
      let value ← expr depth
      if ← accept (.sign ",") then return (key, value) :: (← entries false depth)
      else
        expect (.sign "\x7d")
        return [(key, value)]

end

/-! ## Simple statements -/

/-- Names with commas between them. -/
def names : Nat → Parse (List String)
  | 0 => refuse
  | depth + 1 => do
    let name ← identifier
    if ← accept (.sign ",") then return name :: (← names depth) else return [name]

/-- What follows the first part of a dotted name. -/
def moreParts : Nat → Parse Unit
  | 0 => refuse
  | depth + 1 => do
    if ← accept (.sign ".") then
      let _ ← identifier
      moreParts depth
    else return ()

/-- The names that modules, or parts of one, are bound to: another name if one is given, or else
the first part of their own. -/
def imported (dotted : Bool) : Nat → Parse (List String)
  | 0 => refuse
  | depth + 1 => do
    let name ← identifier
    if dotted then moreParts depth
    let name ← if ← accept (.word "as") then identifier else pure name
    if ← accept (.sign ",") then return name :: (← imported dotted depth) else return [name]

/-- The names to assign to, of which the first is given, and the value. -/
def assignment (first : Expr) : Nat → Parse Statement
  | 0 => refuse
  | depth + 1 => do
    match first with
    | .name name =>
      if ← accept (.sign "=") then
        let value ← exprs depth
        if (← peek) = .sign "=" then
          match ← assignment value depth with
          | .assign names value => return .assign (name :: names) value
          | _ => refuse
        else return .assign [name] value
      else
        match augmented? (← peek) with
        | some op =>
          advance
          return .augment name op (← exprs depth)
        | none => return .evaluate first
    | _ =>
      if (← peek) = .sign "=" || (augmented? (← peek)).isSome then refuse
      else return .evaluate first

/-- A statement on one line. -/
def simple (depth : Nat) : Parse Statement := do
  if ← accept (.word "return") then
    if begins (← peek) then return .result (some (← exprs depth)) else return .result none
  else if ← accept (.word "pass") then return .idle
  else if ← accept (.word "raise") then
    if begins (← peek) then
      let cause ← expr depth
      if ← accept (.word "from") then
        let _ ← expr depth
      return .raise (some cause)
    else return .raise none
  else if ← accept (.word "global") then return .share (← names depth)
  else if ← accept (.word "import") then return .fetch (← imported true depth)
  else if ← accept (.word "from") then
    let _ ← identifier
    moreParts depth
    expect (.word "import")
    return .fetch (← imported false depth)
  else assignment (← exprs depth) depth

/-- Statements on one line, to its end. -/
def simples : Nat → Parse (List Statement)
  | 0 => refuse
  | depth + 1 => do
    let statement ← simple depth
    if ← accept (.sign ";") then
      if ← accept .newline then return [statement] else return statement :: (← simples depth)
    else
      expect .newline
      return [statement]

/-! ## Blocks -/

mutual

/-- A block: the rest of the line, or the lines that stand further in. -/
def block (introducer : String) (line : Nat) : Nat → Parse (List Statement)
  | 0 => refuse
  | depth + 1 => do
    if ← accept .newline then
      expect .indent (some (.missingBlock introducer line))
      statements depth
    else simples depth

/-- Statements to the end of their block, of which there is one at least. -/
def statements : Nat → Parse (List Statement)
  | 0 => refuse
  | depth + 1 => do
    let first ← statement depth
    if ← accept .dedent then return first else return first ++ (← statements depth)

/-- A statement, or several on one line. What a loop is followed by as its other case always runs,
since no loop is left early. -/
def statement : Nat → Parse (List Statement)
  | 0 => refuse
  | depth + 1 => do
    let line ← currentLine
    if ← accept (.word "if") then return [← branch "'if' statement" line depth]
    else if ← accept (.word "for") then
      let name ← identifier
      expect (.word "in")
      let source ← exprs depth
      expect (.sign ":") (some .missingColon)
      let body ← block "'for' statement" line depth
      let after ← currentLine
      if ← accept (.word "else") then
        expect (.sign ":") (some .missingColon)
        return .loop name source body :: (← block "'else' statement" after depth)
      else return [.loop name source body]
    else simples depth

/-- A condition, its block and what else there is. -/
def branch (introducer : String) (line : Nat) : Nat → Parse Statement
  | 0 => refuse
  | depth + 1 => do
    let condition ← namable depth
    expect (.sign ":") (if (← peek) = .newline then some .missingColon else none)
    let yes ← block introducer line depth
    let line ← currentLine
    if ← accept (.word "elif") then
      return .branch condition yes [← branch "'elif' statement" line depth]
    else if ← accept (.word "else") then
      expect (.sign ":") (some .missingColon)
      return .branch condition yes (← block "'else' statement" line depth)
    else return .branch condition yes []

end

/-- The statements of a fragment. -/
def fragment (depth : Nat) : Parse (List Statement) := do
  expect .indent (some (.missingBlock "function definition" 1))
  let body ← statements depth
  expect .finish
  return body

end Parse

/-- Reads a fragment. No chain of calls is longer than some twenty for each token. -/
def readTokens (tokens : List Placed) : Except Trouble (List Statement) :=
  match Parse.fragment (24 * (tokens.length + 1)) ⟨true, false⟩ tokens with
  | .ok (body, _) => .ok body
  | .error refusal =>
    let (line, cause) := refusal.report
    .error (.malformed line cause)

/-- The statements that the text of a fragment is made of. -/
def statementsOf (source : String) : Except Trouble (List Statement) :=
  if source.contains '\x00' then .error .zeroCharacter
  else readTokens (Token.ofBody (bodyText source))

end Workflows.Fragment
