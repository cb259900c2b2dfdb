/-
Routes: which request is for whom. The path of an address has its escapes undone twice and is
compared part by part; a path with slashes at its end is sent on to the one without them, which is
an address anew.
-/
import Workflows.Http.Url

namespace Workflows.Api

open Workflows.Text

/-- What requests can be for. -/
inductive Route
  | health
  | list
  | create
  | direct
  | convert
  | importExport
  | detail (id : String)
  | remove (id : String)
  | run (id : String)
deriving DecidableEq, Repr

/-- A part of a path is a given word. A line end behind the last part does not count. -/
def isNamed (part word : String) : Bool := part == word || part == word ++ "\n"

/-- Where the parts of a path lead: to routes, each with its method, that may be none. -/
def routesAt : List String → List (String × Route)
  | [part] =>
    if isNamed part "health" then [("GET", .health)]
    else if isNamed part "workflows" then [("GET", .list), ("POST", .create)]
    else []
  | ["workflows", part] =>
    if part = "" then []
    else
      (if isNamed part "execute-direct" then [("POST", .direct)] else []) ++
        (if isNamed part "convert" then [("POST", .convert)] else []) ++
        [("GET", .detail part), ("DELETE", .remove part)]
  | ["workflows", id, part] =>
    if id ≠ "" && isNamed part "run" then [("POST", .run id)] else []
  | ["n8n", part] => if isNamed part "import" then [("POST", .importExport)] else []
  | _ => []

/-- The routes at a path. All begin alike. -/
def routesFor (path : List Char) : List (String × Route) :=
  match (path.splitOn '/').map String.ofList with
  | "" :: "api" :: "v1" :: parts => routesAt parts
  | _ => []

/-- The server that answers. -/
def server : Url.Written := { scheme := "http".toList, host := "testserver".toList }

/-- The address of a request, whose path is written below the first parts that all routes share. -/
def address (path : String) : Except UrlError Url :=
  (Url.parse ("/api/v1" ++ path)).bind (Url.below server)

/-- The path of an address with its escapes undone, and those that come to light then. -/
def pathOf (url : Url) : List Char := percentDecode (percentDecode url.shownPath.toList)

/-- A character that stands unescaped where a request is sent on to. -/
def isLocationChar (c : Char) : Bool :=
  isUnreserved c || ":/%#?=@[]!$&'()*+,;".toList.contains c

/-- Where a request is sent on to that no route answers: to the path without the slashes at its end,
if a route is there. -/
def redirect? (url : Url) : Option Url :=
  let path := pathOf url
  let shorter := trimEndWith (· == '/') path
  if shorter.length = path.length ∨ (routesFor shorter).isEmpty then none
  else
    let query := (url.query.filter (· ≠ "")).map ("?" ++ ·)
    let location := "http://testserver" ++ String.ofList shorter ++ query.getD ""
    (Url.parse (String.ofList (percentEncode isLocationChar location.toList))).toOption

/-- The routes at an address, which may be sent on so many times. -/
def routesWithin : Nat → Url → List (String × Route)
  | 0, _ => []
  | times + 1, url =>
    match routesFor (pathOf url) with
    | [] =>
      match redirect? url with
      | some next => routesWithin times next
      | none => []
    | routes => routes

/-- What finding a route comes to. -/
inductive Routing
  | found (route : Route)
  | wrongMethod
  | unknown
deriving DecidableEq, Repr

/-- How often a request may be sent on, and the first answer. -/
def mostTurns : Nat := 21

/-- The route of a request. -/
def route (method : String) (url : Url) : Routing :=
  match routesWithin mostTurns url with
  | [] => .unknown
  | routes =>
    match routes.find? (·.1 == method) with
    | some (_, route) => .found route
    | none => .wrongMethod

end Workflows.Api
