/-
What one step does. A step either keeps the context as it is or makes a single call of a
collaborator, whose reply becomes the next context. So the behaviour of a step is a plan, made
before the call, and a resumption, made of its reply.
-/
import Workflows.Run.Delay
import Workflows.Step
import Workflows.Template

namespace Workflows

/-- A request over the network. -/
structure Request where
  url : String
  method : String
  headers : List (String × String)
  body : Option String
deriving DecidableEq, Repr

/-- The response to a request. -/
structure Response where
  status : Int
  text : String
  reason : String
deriving DecidableEq, Repr

/-- A response that tells of success. -/
def Response.isOk (response : Response) : Bool := 200 ≤ response.status && response.status < 300

/-- What a step asks of a collaborator. A chat goes to the provider in a seat of the rotation. -/
inductive Call
  | chat (seat : Nat) (prompt : String)
  | image (prompt : String)
  | http (request : Request)
  | code (source : String) (input : Value)
  | sleep (duration : Duration)
deriving DecidableEq, Repr

namespace Call

/-- What a collaborator replies to a call. -/
def Reply : Call → Type
  | chat _ _ | image _ => String
  | http _ => Response
  | code _ _ => Value
  | sleep _ => Unit

/-- The context after a reply. A fragment that gives null leaves the context as it was, and so does
a delay. -/
def resume (call : Call) (context : Context) (reply : call.Reply) : Except Fault Context :=
  match call, reply with
  | chat _ _, reply => .ok (.text reply)
  | image _, reply => .ok (.text reply)
  | http _, (response : Response) =>
    if response.isOk then .ok (Context.ofBody response.text)
    else .error (.requestFailed
      ("HTTP " ++ toString response.status ++ ": " ++ response.reason) (some response.status))
  | code _ _, (result : Value) => .ok (if result = .null then context else Context.ofValue result)
  | sleep _, _ => .ok context

end Call

namespace Step

/-! ## Plans -/

/-- What planning a step yields: the call it makes, if any, and notices. -/
abbrev Plan := Except Fault (Option Call) × List Notice

/-- The notice about a step without a parameter that it needs. -/
def missing (step : Step) (param : String) : Notice :=
  warn ("[WARN] Step '" ++ step.type ++ "' is missing required param '" ++ param ++ "', skipping")

/-- Plans a step that needs a parameter; without it the step does nothing. -/
def requiring (step : Step) (param : String) (plan : Value → Except Fault Call) : Plan :=
  let v := Object.getOrNull step.params param
  if v.isUnset then (.ok none, [step.missing param]) else ((plan v).map some, [])

/-- A value with the placeholders of its text filled. -/
def resolved (context : Context) (v : Value) : String := Template.resolve v.display context

/-- The body of a request for which none is given: the context as a member of an object. -/
def defaultBody (context : Context) : String :=
  Json.render .plain (.object [("data", context.value)])

/-- The template of the body of a request. -/
def bodyTemplate (step : Step) (context : Context) : String :=
  match (Object.getOrNull step.params "body").orElse (.text (defaultBody context)) with
  | .text s => s
  | v => Json.render .plain v

/-- The headers of a request as they are given, with their placeholders filled. -/
def givenHeaders (step : Step) (context : Context) : Except Fault (List (String × String)) :=
  (((Object.getOrNull step.params "headers").orElse (.object [])).membersFor "items").map
    fun headers => headers.map fun (name, v) => (name, resolved context v)

/-- Says that the body is JSON, unless the headers say what it is. -/
def withContentType (headers : List (String × String)) : List (String × String) :=
  if headers.any (·.1 == "Content-Type") then headers
  else headers ++ [("Content-Type", "application/json")]

/-- The request of a step, whose address is given. Only a request that gets something has no
body. -/
def request (step : Step) (context : Context) (url : Value) : Except Fault Request :=
  let method := Text.upper ((Object.getOrNull step.params "method").orElse (.text "GET")).display
  (step.givenHeaders context).map fun headers =>
    if method = "GET" then ⟨resolved context url, method, headers, none⟩
    else
      ⟨resolved context url, method, withContentType headers,
        some (Template.resolve (step.bodyTemplate context) context)⟩

/-- Plans a step. A chat takes the seat whose turn it is. -/
def plan (usualDelay : Int) (seat : Nat) (context : Context) (step : Step) : Plan :=
  match step.kind? with
  | none => (.ok none, [warn ("[WARN] Unsupported step type: " ++ step.type ++ ", skipping")])
  | some .trigger => (.ok none, [])
  | some .llm => step.requiring "prompt" fun v => .ok (.chat seat (resolved context v))
  | some .image => step.requiring "prompt" fun v => .ok (.image (resolved context v))
  | some .code => step.requiring "code" fun v => .ok (.code v.display context.asCodeInput)
  | some .httpRequest => step.requiring "url" fun v => (step.request context v).map .http
  | some .delay =>
    let (duration, notices) := Run.delayOf usualDelay step.params
    (duration.map fun duration => some (.sleep duration), notices)

/-- A step takes a turn of the rotation, whether or not it comes to a chat. -/
def takesTurn (step : Step) : Bool := step.kind? == some .llm

end Step

end Workflows
