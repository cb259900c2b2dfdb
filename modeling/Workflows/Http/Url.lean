/-
The addresses of requests: their parts, each with the characters escaped that it cannot hold, and
the pairs in a query. The path of an address with a scheme or a server follows its dot segments.
-/
import Workflows.Host.Label
import Workflows.Host.Numeric
import Workflows.Number.Numeral
import Workflows.Text.Case
import Workflows.Text.Octets

namespace Workflows

open Workflows.Text

/-- An address by its parts, escaped. The host is ASCII and has no brackets around it. -/
structure Url where
  scheme : String
  user : String
  host : String
  port : Option Int
  path : String
  query : Option String
  fragment : Option String
deriving DecidableEq, Repr

/-- Why a text is no address. -/
inductive UrlError
  | tooLong
  | control (c : Char) (place : Nat)
  | port (text : String)
  | dottedHost (text : String)
  | bracketedHost (text : String)
  | namedHost (text : String)
  | pathBehindServer
  | pathOfSlashes
  | pathOfColon
deriving DecidableEq, Repr

def UrlError.message : UrlError → String
  | tooLong => "URL too long"
  | control c place =>
    "Invalid non-printable ASCII character in URL, " ++ quoted c.toString ++ " at position " ++
      toString place ++ "."
  | port text => "Invalid port: " ++ quoted text
  | dottedHost text => "Invalid IPv4 address: " ++ quoted text
  | bracketedHost text => "Invalid IPv6 address: " ++ quoted text
  | namedHost text => "Invalid IDNA hostname: " ++ quoted text
  | pathBehindServer => "For absolute URLs, path must be empty or begin with '/'"
  | pathOfSlashes => "Relative URLs cannot have a path starting with '//'"
  | pathOfColon => "Relative URLs cannot have a path starting with ':'"

namespace Url

/-! ## Escapes -/

/-- A printable ASCII character other than the blank, and not among some others. -/
def isPlainExcept (others : String) (c : Char) : Bool :=
  32 < c.toNat && c.toNat < 127 && !others.toList.contains c

/-- A character that stands unescaped in a path. -/
def isPathChar (c : Char) : Bool := isPlainExcept "\"#<>?\x7b\x7d" c && c.toNat != 96

/-- A character that stands unescaped in a query. -/
def isQueryChar (c : Char) : Bool := isPlainExcept "\"#<>" c

/-- A character that stands unescaped in a fragment. -/
def isFragmentChar (c : Char) : Bool := isPlainExcept "\"<>" c && c.toNat != 96

/-- A character that stands unescaped in the part of the user. -/
def isUserChar (c : Char) : Bool := isPathChar c && !"/;=@[\\]^|".toList.contains c

/-- A character that stands unescaped in a host. -/
def isHostChar (c : Char) : Bool :=
  isUnreserved c || "!$&'()*+,;=\"\x7b\x7d%|\\".toList.contains c || c.toNat == 96

/-- A part with its escapes. -/
def escaped (isSafe : Char → Bool) (cs : List Char) : String :=
  String.ofList (percentEncode isSafe cs)

/-! ## Paths -/

/-- The segments that are left when dot segments are followed. -/
def followDots (kept : List (List Char)) : List (List Char) → List (List Char)
  | [] => kept.reverse
  | segment :: rest =>
    if segment = ['.'] then followDots kept rest
    else if segment = ['.', '.'] then
      followDots (if kept = [[]] then kept else kept.drop 1) rest
    else followDots (segment :: kept) rest

/-- A path with its dot segments followed. -/
def normalPath (path : List Char) : List Char :=
  List.intercalate ['/'] (followDots [] (path.splitOn '/'))

/-! ## Hosts -/

/-- One more character of four runs of digits with any character between two of them; a state is
how many characters between have been passed, and whether a digit has come since. -/
def dottedStep (states : List (Nat × Bool)) (c : Char) : List (Nat × Bool) :=
  (List.range 4).flatMap fun passed =>
    (if c.isDigit && (states.contains (passed, false) || states.contains (passed, true)) then
      [(passed, true)] else []) ++
    (if 0 < passed && states.contains (passed - 1, true) then [(passed, false)] else [])

/-- A host is four runs of digits, so that only four numbers will do. -/
def looksDotted (host : List Char) : Bool :=
  (host.foldl dottedStep [(0, false)]).contains (3, true)

/-- Eight groups, perhaps with a zone behind a percent sign. -/
def isGroups (cs : List Char) : Bool :=
  let zone := (cs.dropWhile (· != '%')).drop 1
  (Host.sixteenBitGroups? (cs.takeWhile (· != '%'))).isSome &&
    (!cs.contains '%' || (!zone.isEmpty && !zone.contains '%'))

/-- The ASCII form of a host. -/
def hostText (host : List Char) : Except UrlError String :=
  let text := String.ofList host
  if host.isEmpty then .ok ""
  else if looksDotted host then
    if (Host.strictDotted? host).isSome then .ok text else .error (.dottedHost text)
  else if host.head? = some '[' ∧ host.getLast? = some ']' then
    let inner := (host.drop 1).dropLast
    if isGroups inner then .ok (String.ofList inner) else .error (.bracketedHost text)
  else if host.all (·.toNat < 128) then .ok (escaped isHostChar (lower text).toList)
  else
    match Host.writeHost? (lower text).toList with
    | some written => .ok (String.ofList written)
    | none => .error (.namedHost text)

/-- The usual port of a scheme. -/
def usualPort? (scheme : String) : Option Int :=
  if scheme = "http" ∨ scheme = "ws" then some 80
  else if scheme = "https" ∨ scheme = "wss" then some 443
  else if scheme = "ftp" then some 21
  else none

/-- The port that a text writes; none if it is empty or the usual one of the scheme. -/
def portOf (scheme : String) (text : String) : Except UrlError (Option Int) :=
  if text = "" then .ok none
  else
    match Numeral.integer? text with
    | .ok n => .ok (if usualPort? scheme = some n then none else some n)
    | .error _ => .error (.port text)

/-- What is wrong with a path. -/
def pathError? (hasScheme hasServer : Bool) (path : List Char) : Option UrlError :=
  if hasServer then
    if path.isEmpty ∨ path.head? = some '/' then none else some .pathBehindServer
  else if hasScheme then none
  else if ['/', '/'].isPrefixOf path then some .pathOfSlashes
  else if path.head? = some ':' then some .pathOfColon
  else none

/-! ## Parts -/

/-- The parts of an address as they are written. -/
structure Written where
  scheme : List Char := []
  user : List Char := []
  host : List Char := []
  port : List Char := []
  path : List Char := []
  query : Option (List Char) := none
  fragment : Option (List Char) := none
deriving DecidableEq, Repr

/-- The scheme and what follows its colon; no scheme if there is none. -/
def splitScheme (cs : List Char) : List Char × List Char :=
  let isInner (c : Char) : Bool := c.isAlphanum || c == '+' || c == '-' || c == '.'
  match cs.dropWhile isInner with
  | ':' :: rest =>
    match cs.takeWhile isInner with
    | [] => ([], rest)
    | c :: more => if c.isAlpha then (c :: more, rest) else ([], cs)
  | _ => ([], cs)

/-- The authority behind two slashes and what follows it; an empty one if there are none. -/
def splitAuthority (cs : List Char) : List Char × List Char :=
  let ends (c : Char) : Bool := c == '/' || c == '?' || c == '#'
  match cs with
  | '/' :: '/' :: rest => (rest.takeWhile fun c => !ends c, rest.dropWhile fun c => !ends c)
  | _ => ([], cs)

/-- The user, host and port of an authority. A host that begins with a bracket goes on to the last
bracket, and every other one to the first colon. -/
def splitServer (authority : List Char) : List Char × List Char × List Char :=
  let user := ((authority.reverse.dropWhile (· != '@')).drop 1).reverse
  let server := lastPiece '@' authority
  let (host, rest) :=
    if server.head? = some '[' ∧ server.contains ']' then
      ((server.reverse.dropWhile (· != ']')).reverse,
        (server.reverse.takeWhile (· != ']')).reverse)
    else (server.takeWhile (· != ':'), server.dropWhile (· != ':'))
  (user, host, if rest.head? = some ':' then rest.drop 1 else rest)

/-- What stands behind the first of some marks. -/
def behind? (mark : Char) (cs : List Char) : Option (List Char) :=
  if cs.contains mark then some ((cs.dropWhile (· != mark)).drop 1) else none

/-- The parts of a text. -/
def Written.ofText (cs : List Char) : Written :=
  let (scheme, rest) := splitScheme cs
  let (authority, rest) := splitAuthority rest
  let (user, host, port) := splitServer authority
  let whole := rest.takeWhile (· != '#')
  { scheme, user, host, port, path := whole.takeWhile (· != '?'), query := behind? '?' whole
    fragment := behind? '#' rest }

/-- The address of parts, if each is in order and they fit together. -/
def ofWritten (w : Written) : Except UrlError Url := do
  let scheme := String.ofList w.scheme
  let user := escaped isUserChar w.user
  let host ← hostText w.host
  let port ← portOf scheme (String.ofList w.port)
  let hasScheme := !w.scheme.isEmpty
  let hasServer := user != "" || host != "" || port.isSome
  match pathError? hasScheme hasServer w.path with
  | some e => throw e
  | none =>
    let path := if hasScheme || hasServer then normalPath w.path else w.path
    return { scheme := lower scheme, user, host, port, path := escaped isPathChar path
             query := w.query.map (escaped isQueryChar)
             fragment := w.fragment.map (escaped isFragmentChar) }

/-- The place of the first control character. -/
def findControl (place : Nat) : List Char → Option (Char × Nat)
  | [] => none
  | c :: cs =>
    if c.toNat < 32 || c.toNat == 127 then some (c, place) else findControl (place + 1) cs

/-- The address that a text writes. -/
def parse (text : String) : Except UrlError Url :=
  let cs := text.toList
  if 65536 < cs.length then .error .tooLong
  else
    match findControl 0 cs with
    | some (c, place) => .error (.control c place)
    | none => ofWritten (Written.ofText cs)

/-! ## Views -/

/-- The host as it stands in an address: with brackets if it has colons. -/
def bracketedHost (url : Url) : String :=
  if url.host.toList.contains ':' then "[" ++ url.host ++ "]" else url.host

/-- The host with its port. -/
def server (url : Url) : String :=
  url.bracketedHost ++ (url.port.map fun n => ":" ++ toString n).getD ""

/-- The parts of an address as they would be written. -/
def written (url : Url) : Written :=
  { scheme := url.scheme.toList, user := url.user.toList, host := url.bracketedHost.toList
    port := ((url.port.map toString).getD "").toList, path := url.path.toList
    query := url.query.map String.toList, fragment := url.fragment.map String.toList }

/-- The host as it is shown: one that begins with a spelled label is shown unspelled. -/
def shownHost (url : Url) : Except Host.LabelError String :=
  if beginsWith url.host "xn--" then (Host.readHost url.host.toList).map String.ofList
  else .ok url.host

/-- The path as it is shown, which is never empty. -/
def shownPath (url : Url) : String := if url.path = "" then "/" else url.path

/-- An address without a scheme or without a host says nothing about where a request goes. -/
def isRelative (url : Url) : Bool := url.scheme == "" || url.host == ""

/-- A path and query below the root of a server, which may be none. -/
def below (base : Written) (url : Url) : Except UrlError Url :=
  ofWritten { base with
    path := '/' :: url.shownPath.toList.dropWhile (· == '/')
    query := url.query.map String.toList }

/-- The address that a request for a text goes to: one that says nothing about where becomes a path
and query alone. -/
def target (text : String) : Except UrlError Url :=
  (parse text).bind fun url => if url.isRelative then below {} url else .ok url

/-- The path with the query. -/
def pathAndQuery (url : Url) : String :=
  url.shownPath ++ (url.query.map ("?" ++ ·)).getD ""

/-- The name and the word of the user, if one of them is there. -/
def credentials? (url : Url) : Option (List Char × List Char) :=
  let cs := url.user.toList
  let name := percentDecode (cs.takeWhile (· != ':'))
  let word := percentDecode ((cs.dropWhile (· != ':')).drop 1)
  if name.isEmpty && word.isEmpty then none else some (name, word)

/-! ## Pairs -/

/-- A part of a pair with its escapes undone; a plus is a blank. -/
def pairPart (cs : List Char) : String :=
  String.ofList (percentDecode (cs.map fun c => if c = '+' then ' ' else c))

/-- A pair of a query; without an equals sign its value is empty. -/
def pairOf (piece : List Char) : String × String :=
  (pairPart (piece.takeWhile (· != '=')), pairPart ((piece.dropWhile (· != '=')).drop 1))

/-- Pairs with equal names brought together behind the first of them. -/
def groupPairs (pairs : List (String × String)) : List (String × String) :=
  (pairs.map (·.1)).eraseDups.flatMap fun name => pairs.filter (·.1 == name)

/-- The pairs of the query. -/
def pairs (url : Url) : List (String × String) :=
  match url.query with
  | none => []
  | some query => groupPairs (((query.toList.splitOn '&').filter (!·.isEmpty)).map pairOf)

end Url

end Workflows
