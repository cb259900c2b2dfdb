/-
The transport of requests: what goes over the wire, what comes back, and how that is read as a
response.
-/
import Workflows.Fault
import Workflows.Http.Coding
import Workflows.Http.ContentType
import Workflows.Http.Url

namespace Workflows

open Workflows.Text

/-- A request as it goes over the wire. -/
structure WireRequest where
  method : String
  host : String
  path : String
  pairs : List (String × String)
  headers : List (String × String)
  body : List Nat
deriving DecidableEq, Repr

/-- A response as it comes from the wire. -/
structure WireResponse where
  status : Int
  reason : String
  headers : List (String × String)
  body : List Nat
deriving DecidableEq, Repr

/-- Why no response comes: something is wrong with the address or on the way. -/
structure WireError where
  isAddress : Bool
  text : String
deriving DecidableEq, Repr

/-- The wire: it takes requests and gives responses. -/
abbrev Wire := WireRequest → Except WireError WireResponse

/-! ## Headers -/

/-- Headers by their names in lower case; the values of one name stand behind each other. -/
def foldHeaders (headers : List (String × String)) : List (String × String) :=
  let lowered := headers.map fun (name, value) => (lower name, value)
  (lowered.map (·.1)).eraseDups.map fun name =>
    (name, joinWith ", " ((lowered.filter (·.1 == name)).map (·.2)))

/-- The first stretch of characters beyond ASCII: its first character and its bounds. -/
def beyondAscii? (cs : List Char) : Option (Char × Nat × Nat) :=
  let start := (cs.takeWhile (·.toNat < 128)).length
  match cs.drop start with
  | [] => none
  | c :: rest => some (c, start, start + 1 + (rest.takeWhile (128 ≤ ·.toNat)).length)

/-- A text is ASCII. -/
def checkAscii (text : String) : Except Fault Unit :=
  match beyondAscii? text.toList with
  | some (c, start, stop) => .error (.headerBeyondAscii c start stop)
  | none => .ok ()

/-- Headers are ASCII, their names and their values. -/
def checkHeaders (headers : List (String × String)) : Except Fault Unit :=
  headers.forM fun (name, value) => do
    checkAscii name
    checkAscii value

/-- The headers that are given as an object; their values are texts. -/
def textHeaders (headers : Object) : Except Fault (List (String × String)) :=
  headers.mapM fun (name, value) => do
    checkAscii name
    match value with
    | .text text =>
      checkAscii text
      return (name, text)
    | v => throw (.headerNotText v.kind)

/-- The value of a header, whatever the case of its name. -/
def headerValue? (headers : List (String × String)) (name : String) : Option String :=
  ((foldHeaders headers).find? (·.1 == name)).map (·.2)

/-- The content type of a response; empty if it has none. -/
def WireResponse.contentType (response : WireResponse) : String :=
  (headerValue? response.headers "content-type").getD ""

/-- The body of a response as a text, in the character set that its content type names. -/
def WireResponse.text (response : WireResponse) : Except Fault String :=
  let charset := ContentType.charset response.contentType
  match charset.decode? response.body with
  | some cs => .ok (String.ofList cs)
  | none => .error (.noByteOrder charset.unitBits)

/-- A response as it is received, with its body as a text. -/
structure Received where
  status : Int
  text : String
  reason : String
  headers : List (String × String)
deriving DecidableEq, Repr

/-- A response that tells of success. -/
def Received.isOk (response : Received) : Bool :=
  200 ≤ response.status && response.status < 300

/-- What is received of a response. -/
def WireResponse.received (response : WireResponse) : Except Fault Received :=
  response.text.map fun text =>
    { status := response.status, text, reason := response.reason
      headers := foldHeaders response.headers }

/-! ## Requests -/

/-- A header with its value set anew, if it is there. -/
def replaceHeader (headers : List (String × String)) (name value : String) :
    List (String × String) :=
  headers.map fun header => if header.1 == name then (name, value) else header

/-- The header that tells who asks, of the name and word of a user. -/
def authorization (user : List Char × List Char) : String :=
  "Basic " ++ String.ofList (base64 (utf8 (user.1 ++ ':' :: user.2)))

/-- Why a request leads to nothing: something is wrong with an address, something went wrong on the
way, or there is a fault that is neither's. -/
inductive SendError
  | address (text : String)
  | way (text : String)
  | fault (cause : Fault)
deriving DecidableEq, Repr

/-- The server of a request is ASCII, unless a header names another one. -/
def checkServer (url : Url) (headers : List (String × String)) : Except Fault Unit :=
  if headers.any fun header => lower header.1 == "host" then .ok ()
  else checkAscii url.server

/-- A response that sends the request elsewhere. -/
def WireResponse.location? (response : WireResponse) : Option String :=
  if [301, 302, 303, 307, 308].contains response.status then
    headerValue? response.headers "location"
  else none

/-- What is wrong with the place that a request from an address is sent to. The request is not sent
there, but the place must be an address. -/
def locationError? (url : Url) (location : String) : Option SendError :=
  match Url.parse location with
  | .error e => some (.way ("Invalid URL in location header: " ++ e.message ++ "."))
  | .ok place =>
    match place.shownHost with
    | .error e => some (.fault (.badHost e))
    | .ok "" =>
      if place.scheme = "" then none
      else
        match Url.ofWritten { place.written with host := url.bracketedHost.toList } with
        | .error e => some (.address e.message)
        | .ok _ => none
    | .ok _ => none

/-- The ASCII characters of a text. -/
def plainText (text : String) : String := String.ofList (text.toList.filter (·.toNat < 128))

/-- A response as it is taken from the wire: its headers are ASCII, and so is what is kept of its
reason; its body is decoded. -/
def WireResponse.taken (response : WireResponse) : Except SendError WireResponse :=
  match checkHeaders response.headers with
  | .error fault => .error (.fault fault)
  | .ok () =>
    let codings := Coding.ofHeader ((headerValue? response.headers "content-encoding").getD "")
    match Coding.undoAll codings response.body with
    | .ok body => .ok { response with body, reason := plainText response.reason }
    | .error text => .error (.way ("Error -3 while decompressing data: " ++ text))

/-- What is wrong with an address or with the place that a response sends it to. -/
def placeError? (url : Url) (response : WireResponse) : Option SendError :=
  if url.isRelative then some (.fault (.unknownScheme url.pathAndQuery))
  else response.location?.bind (locationError? url)

/-- The request for an address, with the headers that are shown. -/
def wireRequest (url : Url) (method : String) (pairs headers : List (String × String))
    (body : List Nat) : Except Fault WireRequest :=
  match url.shownHost with
  | .error e => .error (.badHost e)
  | .ok host => .ok { method, host, path := url.shownPath, pairs, headers, body }

/-- Sends a request for an address, and gives what went over the wire with the response. -/
def send (wire : Wire) (url : Url) (request : WireRequest) :
    Except SendError WireResponse × List WireRequest :=
  let result : Except SendError WireResponse :=
    match wire request with
    | .error e => .error (if e.isAddress then .address e.text else .way e.text)
    | .ok response => response.taken.bind fun taken =>
      match placeError? url taken with
      | some e => .error e
      | none => .ok taken
  (result, [request])

/-- The fault of a request that gets no response. -/
def transportFault (address : String) : SendError → Fault
  | .address text | .way text =>
    .requestFailed ("HTTP request to " ++ address ++ " failed: " ++ text) none
  | .fault cause => cause

/-- The octets of a body that is given as a value; they are none if it is null. -/
def bodyOctets (body : Value) : Except Fault (List Nat) :=
  match body with
  | .null => .ok []
  | .text text => .ok (utf8 text.toList)
  | v => .error (.lacksOperation v.kind "encode")

/-- The request of a step. -/
def stepRequest (url : Url) (method : String) (headers : Object) (body : List Nat) :
    Except Fault WireRequest := do
  let headers ← textHeaders headers
  checkServer url headers
  let folded := foldHeaders headers
  let shown := match url.credentials? with
    | some user => replaceHeader folded "authorization" (authorization user)
    | none => folded
  wireRequest url (upper method) url.pairs shown body

/-- Sends the request of a step, and gives what went over the wire with what is received. -/
def transmit (wire : Wire) (address method : String) (headers : Object) (body : Value) :
    Except Fault Received × List WireRequest :=
  match bodyOctets body with
  | .error fault => (.error fault, [])
  | .ok octets =>
    match Url.target address with
    | .error e => (.error (transportFault address (.address e.message)), [])
    | .ok url =>
      match stepRequest url method headers octets with
      | .error fault => (.error fault, [])
      | .ok request =>
        let (result, requests) := send wire url request
        ((result.mapError (transportFault address)).bind WireResponse.received, requests)

end Workflows
