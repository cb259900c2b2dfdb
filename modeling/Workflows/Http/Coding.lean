/-
The codings of a body: a response names those that have been applied to it, and they are undone from
the last to the first. A coding that is not known is passed over.
-/
import Workflows.Http.Inflate
import Workflows.Text.Case
import Workflows.Text.Search

namespace Workflows

open Workflows.Text

/-- A coding of a body. -/
inductive Coding
  | filed
  | deflated
deriving DecidableEq, Repr

namespace Coding

/-- The coding of a name. -/
def ofName? (name : String) : Option Coding :=
  if name = "gzip" then some filed else if name = "deflate" then some deflated else none

/-- The codings that a header names, divided by commas. -/
def ofHeader (value : String) : List Coding :=
  (value.splitOn ",").filterMap fun name => ofName? (lower (trim name))

/-- What octets stand for in a coding, or what is wrong with them. Deflated octets may lack the
wrapping. -/
def undo (coding : Coding) (octets : List Nat) : Except String (List Nat) :=
  match coding with
  | filed => Inflate.run Inflate.filed octets
  | deflated =>
    match Inflate.run Inflate.wrapped octets with
    | .ok plain => .ok plain
    | .error _ => Inflate.run Inflate.allBlocks octets

/-- What octets stand for after codings have been applied to them. -/
def undoAll (codings : List Coding) (octets : List Nat) : Except String (List Nat) :=
  codings.reverse.foldlM (fun octets coding => coding.undo octets) octets

end Coding

end Workflows
