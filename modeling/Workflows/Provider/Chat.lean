/-
Chat services: how messages become the request of a service that streams its reply, and how the
fragments of the stream become a text. The system messages are not part of the conversation; they
go before it, with a blank line between them.
-/
import Workflows.Settings.Basic
import Workflows.Value.Coerce

namespace Workflows.Provider

open Workflows.Text

/-- Texts that become one; an item of another kind is a fault that tells its place. -/
def joinTexts (separator : String) (items : List Value) : Except Fault String :=
  match (items.zipIdx).find? fun (v, _) => v.text?.isNone with
  | some (v, place) => .error (.notATextAt place v.kind)
  | none => .ok (joinWith separator (items.filterMap Value.text?))

/-- The content of a message. -/
def content (message : Value) : Except Fault Value := message.part "content"

/-- A message is one of the system. -/
def isSystem (message : Value) : Except Fault Bool :=
  (message.member "role").map (· == .text "system")

/-- The contents of the system messages. -/
def systemContents : List Value → Except Fault (List Value)
  | [] => .ok []
  | message :: messages => do
    if ← isSystem message then
      let text ← content message
      return text :: (← systemContents messages)
    else systemContents messages

/-- The messages of the conversation; whoever says nothing about its role is the user. -/
def conversation : List Value → Except Fault (List Value)
  | [] => .ok []
  | message :: messages => do
    if ← isSystem message then conversation messages
    else
      let members ← message.membersFor "get"
      let role := (Object.get? members "role").getD (.text "user")
      let text ← content message
      return .object [("role", role), ("content", text)] :: (← conversation messages)

/-- How a chat service is asked; what is not given is as in the settings. -/
structure ChatOptions where
  model : Value := .null
  maxTokens : Value := .null
  temperature : Value := .null
deriving DecidableEq, Repr

/-- The request for messages. -/
def chatRequest (settings : Settings) (options : ChatOptions) (messages : List Value) :
    Except Fault Object := do
  let system ← joinTexts "\n\n" (← systemContents messages)
  let spoken ← conversation messages
  let temperature := if options.temperature = .null then .float settings.temperature
    else options.temperature
  return [("model", options.model.orElse (.text settings.chatModel)),
    ("max_tokens", options.maxTokens.orElse (.int settings.maxTokens)),
    ("temperature", temperature), ("messages", .list spoken)] ++
    (if system = "" then [] else [("system", .text system)])

/-- What a stream gives: its fragments, and the error that ends it early, if any. -/
structure Stream where
  parts : List Value
  error : Option String
deriving DecidableEq, Repr

/-- What a chat has come to: the fragments that were passed on, their text or a fault, and the
requests that were made. -/
structure ChatResult where
  fragments : List Value
  text : Except Fault String
  requests : List Object

/-- The chat with a service that cannot be reached for lack of a key, or gives a stream. Empty
fragments are not passed on. -/
def chat (settings : Settings) (options : ChatOptions) (stream : Option Stream)
    (messages : List Value) : ChatResult :=
  match stream with
  | none => ⟨[], .error (.providerFailed "ANTHROPIC_API_KEY not configured"), []⟩
  | some stream =>
    match chatRequest settings options messages with
    | .error fault => ⟨[], .error fault, []⟩
    | .ok request =>
      let fragments := stream.parts.filter Value.isTrue
      match stream.error with
      | some text =>
        ⟨fragments, .error (.providerFailed ("Anthropic request failed: " ++ text)), [request]⟩
      | none => ⟨fragments, joinTexts "" fragments, [request]⟩

end Workflows.Provider
