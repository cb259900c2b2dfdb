/-
Kinds of nodes. A node declares its type in free form; keywords in it decide the kind, and where
there are none the parameters do. Nodes whose class has no behaviour here keep the name of the
class, because the warning about them tells it.
-/
import Workflows.Text.Case
import Workflows.Text.Search
import Workflows.Value.Coerce

namespace Workflows

open Workflows.Text

/-- The classes of nodes that are passed through. -/
inductive PassThrough
  | response | condition | email | database | messaging | generic
deriving DecidableEq, Repr

def PassThrough.word : PassThrough → String
  | response => "response"
  | condition => "condition"
  | email => "email"
  | database => "database"
  | messaging => "messaging"
  | generic => "generic"

/-- What a node does. -/
inductive NodeKind
  | trigger | code | http | llm | image | delay
  | unsupported (service : PassThrough)
deriving DecidableEq, Repr

namespace NodeKind

/-- The word for a kind. -/
def word : NodeKind → String
  | trigger => "trigger"
  | code => "code"
  | http => "http_request"
  | llm => "llm"
  | image => "image"
  | delay => "delay"
  | unsupported _ => "unsupported"

/-- The category of a node: its class if it is passed through, else its kind. -/
def category : NodeKind → String
  | unsupported c => c.word
  | kind => kind.word

/-! ## Rules -/

/-- The types of the editor's palette. -/
def palette : List (String × NodeKind) := [
  ("condition", unsupported .condition), ("email", unsupported .email),
  ("database", unsupported .database), ("response", unsupported .response),
  ("messaging", unsupported .messaging), ("trigger", trigger), ("code", code), ("http", http),
  ("http_request", http), ("llm", llm), ("image", image), ("delay", delay)]

/-- Keywords in order of precedence. Triggers win over the service they listen to. -/
def keywordRules : List (NodeKind × List String) := [
  (trigger, ["Trigger", "webhook", "cron"]),
  (unsupported .response, ["respondToWebhook"]),
  (unsupported .condition, [".if", "switch", "filter"]),
  (unsupported .email, ["email", "smtp", "gmail"]),
  (unsupported .database, ["postgres", "mysql", "mongodb", "redis"]),
  (unsupported .messaging, ["slack", "discord", "telegram"]),
  (code, [".code", "function", "javascript"]),
  (http, ["httpRequest", "Http", "rssFeedRead"]),
  (llm, ["openAi", "lmChat", "anthropic", "gpt", "llm"]),
  (image, ["dalle", "image", "Image"]),
  (delay, ["wait", "Wait", "delay"])]

/-- The parameters that make a node without keywords a code node. -/
def codeFields : List String := ["jsCode", "pythonCode", "code", "functionCode"]

/-- The kind that the parameters suggest. -/
def ofParameters (params : Object) : NodeKind :=
  if (Object.getOrNull params "url").isTrue then http
  else if codeFields.any fun name => (Object.getOrNull params name).isTrue then code
  else unsupported .generic

/-- The kind that a declared type names by itself, in the palette or by a keyword. -/
def ofType? (declared : String) : Option NodeKind :=
  match palette.find? (·.1 == lower declared) with
  | some (_, kind) => some kind
  | none =>
    (keywordRules.find? fun (_, keywords) => keywords.any (holds declared)).map (·.1)

/-- The kind of a node by its declared type and its parameters. -/
def classify (declared : String) (parameters : Value) : Except Fault NodeKind :=
  match ofType? declared with
  | some kind => .ok kind
  | none => ((parameters.orElse (.object [])).membersFor "get").map ofParameters

/-- The text of a declared type that may be any value. -/
def declaredText (declared : Value) : Except Fault String :=
  match declared.orElse (.text "") with
  | .text s => .ok s
  | v => .error (.lacksOperation v.kind "lower")

end NodeKind

end Workflows
