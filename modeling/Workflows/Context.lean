/-
The context: the one value that is handed from step to step. A text stands for itself; every other
value is structured and has an indented and a compact JSON form.
-/
import Workflows.Json.Printer
import Workflows.Json.Reader

namespace Workflows

/-- What a step sees of the steps before it. -/
inductive Context
  | text (s : String)
  | structured (value : Value)
deriving DecidableEq, Repr

namespace Context

/-- The context of a value. Null is the empty text. -/
def ofValue : Value → Context
  | .null => .text ""
  | .text s => .text s
  | v => .structured v

/-- The value inside, without its variant. -/
def value : Context → Value
  | .text s => .text s
  | .structured v => v

/-- The form that ends a run: a text itself, a value in indented JSON. -/
def asText : Context → String
  | .text s => s
  | .structured v => Json.render .pretty v

/-- The form that stands inside other texts: a text itself, a value in compact JSON. -/
def asInlineText : Context → String
  | .text s => s
  | .structured v => Json.render .compact v

/-- What a code fragment sees: always a structured value, so a text becomes a member of one. -/
def asCodeInput : Context → Value
  | .text s => .object [("input", .text s)]
  | .structured v => v

/-- The context of the body of a response: what its JSON writes, or the body itself. -/
def ofBody (body : String) : Context :=
  match Json.read? body with
  | none => .text body
  | some (.text s) => .text s
  | some v => .structured v

end Context

end Workflows
