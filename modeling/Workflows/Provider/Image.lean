/-
Images: the last message is the prompt of an image service, and the image that comes back is
embedded in a line of markdown.
-/
import Workflows.Http.Transport
import Workflows.Provider.Chat

namespace Workflows.Provider

open Workflows.Text

/-- A character that is a given letter in any case; the small dotless and the capital dotted
letter are an `i` too. -/
def isLetterIgnoringCase (letter c : Char) : Bool :=
  c.toLower == letter || (letter == 'i' && (c.toNat == 0x130 || c.toNat == 0x131))

/-- Without the command for images in front of a prompt, which ends in blanks. -/
def withoutCommand (cs : List Char) : List Char :=
  match cs with
  | '/' :: i :: m :: g :: c :: rest =>
    if isLetterIgnoringCase 'i' i && isLetterIgnoringCase 'm' m && isLetterIgnoringCase 'g' g &&
        isBlank c then
      rest.dropWhile isBlank
    else cs
  | _ => cs

/-- The prompt in a message. -/
def cleanPrompt (message : String) : String :=
  String.ofList (trimChars (withoutCommand message.toList))

/-- How an image service is asked; what is not given is as in the settings. -/
structure ImageOptions where
  address : Value := .null
  key : Value := .null
  model : Value := .null
  size : Value := .null
deriving DecidableEq, Repr

/-- The address of the service, with a slash at its end. -/
def imageBase (settings : Settings) (options : ImageOptions) : String :=
  let base := (options.address.orElse (.text settings.imageAddress)).display
  if base.toList.getLast? = some '/' then base else base ++ "/"

/-- A single value in a query: nothing for null, and a truth value in small letters. -/
def queryText : Value → String
  | .null => ""
  | .bool b => if b then "true" else "false"
  | v => v.display

/-- The pairs of a name with a value in a query; a list gives one for each item. -/
def queryPairs (name : String) : Value → List (String × String)
  | .list items => items.map fun v => (name, queryText v)
  | v => [(name, queryText v)]

/-- The pairs that tell the service what image to make. -/
def imagePairs (settings : Settings) (options : ImageOptions) : List (String × String) :=
  let size := options.size.orElse (.int settings.imageSize)
  let model := options.model.orElse (.text settings.imageModel)
  queryPairs "width" size ++ queryPairs "height" size ++ queryPairs "model" model ++
    [("nologo", "true")]

/-- The headers of the request. A user in the address is preferred to the key. -/
def imageHeaders (settings : Settings) (options : ImageOptions) (url : Url) :
    List (String × String) :=
  let key := if options.key = .null then .text settings.imageKey else options.key
  let who := match url.credentials? with
    | some user => [("authorization", authorization user)]
    | none => if key.isTrue then [("authorization", "Bearer " ++ key.display)] else []
  [("user-agent", "stepflow"), ("accept", "image/*")] ++ who

/-- The address for a prompt, without the pairs. -/
def imageUrl (settings : Settings) (options : ImageOptions) (prompt : String) :
    Except UrlError Url :=
  (Url.target (imageBase settings options ++
    String.ofList (percentEncode isUnreserved prompt.toList))).bind fun url =>
      Url.ofWritten { url.written with query := some [] }

/-- The request for an address. -/
def imageRequest (settings : Settings) (options : ImageOptions) (url : Url) :
    Except Fault WireRequest := do
  let headers := imageHeaders settings options url
  checkHeaders headers
  checkServer url headers
  wireRequest url "GET" (imagePairs settings options) headers []

/-- The line that embeds the image of a response. -/
def imageText (prompt : String) (response : WireResponse) : Except Fault String :=
  let type := response.contentType
  if response.status ≠ 200 then
    response.text.bind fun text =>
      .error (.providerFailed ("Image API error: " ++ toString response.status ++ " - " ++
        String.ofList (text.toList.take 100)))
  else if type ≠ "" && !beginsWith type "image/" then
    .error (.providerFailed ("Image API returned non-image content: " ++ type))
  else
    let shown := if type = "" then "image/jpeg" else type
    .ok ("Here is your generated image:\n\n![" ++ prompt ++ "](data:" ++ shown ++ ";base64," ++
      String.ofList (base64 response.body) ++ ")")

/-- The prompt of a list of messages: what the last one says. -/
def promptOf (messages : List Value) : Except Fault String :=
  match messages.getLast? with
  | none => .error (.providerFailed "Image generation needs a prompt message")
  | some message => (content message).bind fun v =>
    match v with
    | .text s => .ok (cleanPrompt s)
    | v => .error (.notAText v.kind)

/-- The fault of a request for an image. -/
def imageFault : SendError → Fault
  | .address text => .badAddress text
  | .way text => .providerFailed ("Image API request failed: " ++ text)
  | .fault cause => cause

/-- The image for a list of messages, and what went over the wire. -/
def image (settings : Settings) (options : ImageOptions) (wire : Wire) (messages : List Value) :
    Except Fault String × List WireRequest :=
  match promptOf messages with
  | .error fault => (.error fault, [])
  | .ok prompt =>
    match imageUrl settings options prompt with
    | .error e => (.error (.badAddress e.message), [])
    | .ok url =>
      match imageRequest settings options url with
      | .error fault => (.error fault, [])
      | .ok request =>
        let (result, requests) := send wire url request
        ((result.mapError imageFault).bind (imageText prompt), requests)

end Workflows.Provider
