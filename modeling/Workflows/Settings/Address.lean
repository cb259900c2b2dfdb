/-
Web addresses in settings, and their canonical form: the scheme and the host are in lower case, a
numeric host has its usual spelling and another one is ASCII, the usual port is left out, the path
has no dot segments and is at least a slash, and characters that an address cannot hold are escaped.
Addresses of other schemes are read as well, so that what is no address at all can be told from what
is none of the web.
-/
import Workflows.Host.Mapping
import Workflows.Host.Numeric
import Workflows.Text.Octets

namespace Workflows

open Workflows.Text

/-- Why a value does not fit a setting. -/
inductive Misfit
  | literal | integer | longInteger | number | truth | tooLow | below | above | other | scheme
  | address
deriving DecidableEq, Repr

/-- The word for a misfit. -/
def Misfit.word : Misfit → String
  | literal => "literal_error"
  | integer => "int_parsing"
  | longInteger => "int_parsing_size"
  | number => "float_parsing"
  | truth => "bool_parsing"
  | tooLow => "greater_than"
  | below => "greater_than_equal"
  | above => "less_than_equal"
  | other => "value_error"
  | scheme => "url_scheme"
  | address => "url_parsing"

namespace Address

/-! ## Parts -/

/-- Without controls and blanks at the ends, and without tabs and line ends anywhere. -/
def cleaned (cs : List Char) : List Char :=
  let isEdge (c : Char) : Bool := c.toNat ≤ 32
  let inner := ((cs.dropWhile isEdge).reverse.dropWhile isEdge).reverse
  inner.filter fun c => c != '\t' && c != '\n' && c != '\r'

/-- A character of a scheme after its first one. -/
def isSchemeChar (c : Char) : Bool := c.isAlphanum || c == '+' || c == '-' || c == '.'

/-- The scheme in lower case, and what follows the colon behind it. -/
def scheme? (cs : List Char) : Option (List Char × List Char) :=
  match cs with
  | c :: _ =>
    if c.isAlpha then
      match cs.dropWhile isSchemeChar with
      | ':' :: rest => some ((cs.takeWhile isSchemeChar).map Char.toLower, rest)
      | _ => none
    else none
  | [] => none

/-- How the addresses of a scheme are read. -/
inductive Manner
  /-- A host stands behind any number of slashes; the usual port is left out. -/
  | network (usualPort : Nat)
  /-- A host may stand behind two slashes. -/
  | file
  /-- A host may stand behind two slashes and is not interpreted. -/
  | other
deriving DecidableEq, Repr

/-- How the addresses of a scheme are read. -/
def mannerOf (scheme : String) : Manner :=
  if scheme = "http" ∨ scheme = "ws" then .network 80
  else if scheme = "https" ∨ scheme = "wss" then .network 443
  else if scheme = "ftp" then .network 21
  else if scheme = "file" then .file
  else .other

/-- A slash of either kind. -/
def isSlash (c : Char) : Bool := c == '/' || c == '\\'

/-- A character that ends the part with the host. -/
def endsAuthority (c : Char) : Bool := isSlash c || c == '?' || c == '#'

/-- The same where the host is not interpreted. -/
def endsOpaque (c : Char) : Bool := c == '/' || c == '?' || c == '#'

/-- A character that no host may hold. -/
def isForbiddenInHost (c : Char) : Bool :=
  c.toNat ≤ 32 || c.toNat == 127 || "#/:<>?@[\\]^|%".toList.contains c

/-- A character that stands unescaped in a path. -/
def isPathChar (c : Char) : Bool :=
  32 < c.toNat && c.toNat < 127 && !("\"#<>?^\x7b\x7d".toList.contains c) && c.toNat != 96

/-- A character that stands unescaped in a query. -/
def isQueryChar (c : Char) : Bool :=
  32 < c.toNat && c.toNat < 127 && !("\"#<>'".toList.contains c)

/-- A character that stands unescaped in a fragment. -/
def isFragmentChar (c : Char) : Bool :=
  32 < c.toNat && c.toNat < 127 && !("\"<>".toList.contains c) && c.toNat != 96

/-- A character that stands unescaped before the host. -/
def isUserChar (c : Char) : Bool := isPathChar c && !("/:;=@[\\]|".toList.contains c)

/-! ## Host and port -/

/-- The user part, colon included, and the rest of an authority, split at the last at sign. -/
def splitUser (cs : List Char) : Option (List Char) × List Char :=
  if cs.contains '@' then
    (some ((cs.reverse.dropWhile (· != '@')).drop 1).reverse, lastPiece '@' cs)
  else (none, cs)

/-- The host and, behind a colon, the port; a colon in brackets belongs to the host. -/
def splitPort (inside : Bool) : List Char → List Char × Option (List Char)
  | [] => ([], none)
  | c :: cs =>
    if c = ':' ∧ !inside then ([], some cs)
    else
      let (host, port) := splitPort (c == '[' || inside && c != ']') cs
      (c :: host, port)

/-- A port; none if it is empty. -/
def port? (cs : List Char) : Option (Option Nat) :=
  if cs.isEmpty then some none
  else
    let port := Nat.ofDigitChars 10 cs 0
    if cs.all Char.isDigit ∧ port ≤ 65535 then some (some port) else none

/-- A port as it is written after the host: nothing for the usual one. -/
def portText? (usualPort : Nat) (cs : List Char) : Option String :=
  (port? cs).map fun port =>
    match port with
    | some n => if n = usualPort then "" else ":" ++ toString n
    | none => ""

/-- A host in brackets. -/
def bracketed? (cs : List Char) : Option String :=
  if cs.getLast? = some ']' then
    (Host.sixteenBitGroups? (cs.drop 1).dropLast).map fun groups =>
      "[" ++ Host.groupsText groups ++ "]"
  else none

/-- The canonical form of a host; none if it is empty or holds what no host may hold. -/
def hostText? (cs : List Char) : Option String :=
  if cs.head? = some '[' then bracketed? cs
  else
    (Host.asciiHost? (percentDecode cs)).bind fun host =>
      if host.isEmpty || host.any isForbiddenInHost then none
      else if Host.endsInNumber host then (Host.freeDotted? host).map Host.dottedText
      else some (String.ofList host)

/-- A character that no host may hold, be it interpreted or not. -/
def isForbiddenInOpaque (c : Char) : Bool :=
  c == '\x00' || c == ' ' || "#/:<>?@[\\]^|".toList.contains c

/-- A host that is not interpreted is one. -/
def isOpaqueHost (cs : List Char) : Bool :=
  if cs.head? = some '[' then (bracketed? cs).isSome else !cs.any isForbiddenInOpaque

/-- A user part with its colon, ready to stand before the host. -/
def userText (user : Option (List Char)) : String :=
  match user with
  | none => ""
  | some cs =>
    let encode (part : List Char) := String.ofList (percentEncode
      (fun c => isUserChar c || c == '%') part)
    let name := encode (cs.takeWhile (· != ':'))
    let word := encode ((cs.dropWhile (· != ':')).drop 1)
    if name = "" && word = "" then ""
    else if word = "" then name ++ "@" else name ++ ":" ++ word ++ "@"

/-! ## Path -/

/-- A segment of so many dots, each of which may be escaped. -/
def isDots (count : Nat) (segment : List Char) : Bool :=
  replaceAll "%2e".toList ['.'] (segment.map Char.toLower) == List.replicate count '.'

/-- The segments that are left when dot segments are followed; a dot segment at the end leaves an
empty one. -/
def followDots (kept : List (List Char)) : List (List Char) → List (List Char)
  | [] => kept.reverse
  | segment :: rest =>
    if isDots 2 segment then
      followDots (if rest.isEmpty then [] :: kept.drop 1 else kept.drop 1) rest
    else if isDots 1 segment then followDots (if rest.isEmpty then [] :: kept else kept) rest
    else followDots (segment :: kept) rest

/-- A path in canonical form. -/
def pathText (cs : List Char) : String :=
  let slashed := cs.map fun c => if isSlash c then '/' else c
  let segments := (slashed.drop 1).splitOn '/'
  let kept := followDots [] segments
  String.ofList (kept.flatMap fun segment =>
    '/' :: percentEncode (fun c => isPathChar c || c == '%') segment)

/-- A query or fragment behind its mark, escaped. -/
def tailText (mark : Char) (isSafe : Char → Bool) (cs : List Char) : String :=
  match cs with
  | c :: rest =>
    if c = mark then String.ofList (c :: percentEncode isSafe rest) else ""
  | [] => ""

/-! ## Addresses -/

/-- The canonical form of an address of the network after the colon of its scheme. -/
def networkText? (scheme : String) (usualPort : Nat) (cs : List Char) : Option String :=
  let rest := cs.dropWhile isSlash
  let (user, server) := splitUser (rest.takeWhile fun c => !endsAuthority c)
  let (host, port) := splitPort false server
  let tail := rest.dropWhile fun c => !endsAuthority c
  let path := tail.takeWhile fun c => c != '?' && c != '#'
  let query := (tail.dropWhile fun c => c != '?' && c != '#').takeWhile (· != '#')
  let fragment := tail.dropWhile (· != '#')
  match hostText? host, portText? usualPort (port.getD []) with
  | some host, some port =>
    some (scheme ++ "://" ++ userText user ++ host ++ port ++ pathText path ++
      tailText '?' isQueryChar query ++ tailText '#' isFragmentChar fragment)
  | _, _ => none

/-- The letter of a drive. -/
def isDrive : List Char → Bool
  | [letter, mark] => letter.isAlpha && (mark == ':' || mark == '|')
  | _ => false

/-- What follows the colon of `file` makes an address with it. -/
def isFileRest : List Char → Bool
  | a :: b :: rest =>
    let host := rest.takeWhile fun c => !endsAuthority c
    !(isSlash a && isSlash b) || host.isEmpty || isDrive host || (hostText? host).isSome
  | _ => true

/-- What follows the colon of a scheme that nobody knows makes an address with it. -/
def isOtherRest : List Char → Bool
  | '/' :: '/' :: rest =>
    let (user, server) := splitUser (rest.takeWhile fun c => !endsOpaque c)
    let (host, port) := splitPort false server
    let isCutOff := user == some [] && (rest.any endsOpaque)
    if host.isEmpty then port.isNone && userText user == "" && !isCutOff
    else isOpaqueHost host && (port? ((port.getD []).takeWhile (· != '\\'))).isSome
  | _ => true

/-- The canonical form of a web address. -/
def canonical (text : String) : Except Misfit String :=
  match scheme? (cleaned text.toList) with
  | none => .error .address
  | some (scheme, rest) =>
    let scheme := String.ofList scheme
    match mannerOf scheme with
    | .network usualPort =>
      match networkText? scheme usualPort rest with
      | none => .error .address
      | some address => if scheme = "http" ∨ scheme = "https" then .ok address else .error .scheme
    | .file => .error (if isFileRest rest then .scheme else .address)
    | .other => .error (if isOtherRest rest then .scheme else .address)

end Address

end Workflows
