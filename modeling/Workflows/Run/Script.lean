/-
Scripted collaborators: a world whose replies are laid down beforehand. Chat and image providers
reply the same every time; responses and results of fragments are used up one after another.
-/
import Workflows.Run.Machine

namespace Workflows

/-- A provider that gives some fragments, then what it was asked if it is an echo, and then fails if
it has an error. -/
structure ScriptedProvider where
  name : String := "provider"
  fragments : List Value := []
  echo : Bool := false
  error : Option String := none
deriving DecidableEq, Repr

/-- What a request is answered with. -/
inductive ScriptedResponse
  | reply (response : Response)
  | failure (text : String)
deriving DecidableEq, Repr

/-- What a fragment gives. -/
inductive ScriptedResult
  | gives (value : Value)
  | echoes
  | failure (text : String)
deriving DecidableEq, Repr

/-- The replies that are laid down. -/
structure Script where
  providers : List ScriptedProvider
  image : ScriptedProvider
  responses : List ScriptedResponse
  results : List ScriptedResult
deriving DecidableEq, Repr

namespace Script

/-- Texts one after another; an item of another kind is a fault that tells its place. -/
def concat (place : Nat) : List Value → Except Fault String
  | [] => .ok ""
  | .text s :: rest => (concat (place + 1) rest).map (s ++ ·)
  | v :: _ => .error (.notATextAt place v.kind)

/-- The reply of a provider to a prompt. -/
def providerReply (provider : ScriptedProvider) (prompt : String) : Except Fault String :=
  match provider.error with
  | some text => .error (.providerFailed text)
  | none =>
    concat 0 (provider.fragments ++ if provider.echo then [.text prompt] else [])

/-- The response when none is laid down. -/
def usualResponse : ScriptedResponse := .reply ⟨200, "\x7b\"msg\": \"hi\"\x7d", ""⟩

/-- The next response; the last one is never used up. -/
def takeResponse (script : Script) : ScriptedResponse × Script :=
  match script.responses with
  | [] => (usualResponse, script)
  | [last] => (last, script)
  | next :: rest => (next, { script with responses := rest })

/-- The next result of a fragment; null when they are used up. -/
def takeResult (script : Script) : ScriptedResult × Script :=
  match script.results with
  | [] => (.gives .null, script)
  | next :: rest => (next, { script with results := rest })

/-- The provider in a seat. -/
def seated (script : Script) (seat : Nat) : ScriptedProvider := script.providers[seat]?.getD {}

/-- The reply to a call. -/
def answer (call : Call) (script : Script) : Except Fault call.Reply × Script :=
  match call with
  | .chat seat prompt => (providerReply (script.seated seat) prompt, script)
  | .image prompt => (providerReply script.image prompt, script)
  | .http _ =>
    match script.takeResponse with
    | (.reply response, script) => (.ok response, script)
    | (.failure text, script) => (.error (.requestFailed text none), script)
  | .code _ input =>
    match script.takeResult with
    | (.gives value, script) => (.ok value, script)
    | (.echoes, script) => (.ok input, script)
    | (.failure text, script) => (.error (.codeFailed text), script)
  | .sleep _ => (.ok (), script)

/-- The world that replies by a script. -/
def world : World Script := ⟨answer⟩

/-- An engine at its first turn, with a script; none without providers. -/
def engine? (script : Script) : Option (Engine Script) :=
  (Rotation.start? script.providers.length).map fun rotation => ⟨rotation, script⟩

end Script

end Workflows
