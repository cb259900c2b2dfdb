/-
Sessions with the store: operations that callers ask of it, one after another. The store is the table; a run
of a stored workflow also moves the engine.
-/
import Workflows.Store.Run

namespace Workflows

/-- What is asked of the store. The steps of a workflow that is saved come in raw form: a list of steps or of
entries, or whatever else may be gone through. Time passes on its own. -/
inductive Operation
  | save (name : String) (description : Option String) (steps : Value)
  | delete (id : Int)
  | get (id : Int)
  | list
  | run (id : Int) (input : Value)
  | wait (time : Nat)
deriving DecidableEq, Repr

/-- What the store replies. -/
inductive Reply
  | saved (id : Int)
  | deleted (found : Bool)
  | loaded (workflow : Option Workflow)
  | listed (workflows : List Workflow)
  | ran (report : Report)
  | waited
deriving DecidableEq, Repr

/-- The table and the engine that run its workflows. -/
structure Session (σ : Type) where
  table : Table
  engine : Engine σ

/-- The value that a description is given as. -/
def Table.describe (description : Option String) : Value := description.elim .null .text

section

variable {σ : Type} (world : World σ) (usualDelay : Int)

/-- Carries out an operation. One that fails changes nothing. -/
def Session.perform (session : Session σ) (operation : Operation) : Except Fault Reply × Session σ :=
  match operation with
  | .save name description steps =>
    match session.table.save (.text name) (Table.describe description) steps with
    | .ok (id, table) => (.ok (.saved id), { session with table })
    | .error fault => (.error fault, session)
  | .delete id =>
    match session.table.delete (.int id) with
    | .ok (found, table) => (.ok (.deleted found), { session with table })
    | .error fault => (.error fault, session)
  | .get id => ((session.table.get (.int id)).1.map .loaded, session)
  | .list => (session.table.list.1.map .listed, session)
  | .run id input =>
    let (report, engine, _) := session.table.report world usualDelay (.int id) input session.engine
    (report.map .ran, { session with engine })
  | .wait time => (.ok .waited, { session with table := session.table.wait time })

/-- Carries out operations one after another, and keeps what each was replied. -/
def Session.performAll (session : Session σ) :
    List Operation → List (Operation × Except Fault Reply) × Session σ
  | [] => ([], session)
  | operation :: operations =>
    let (reply, after) := session.perform world usualDelay operation
    let (log, final) := after.performAll operations
    ((operation, reply) :: log, final)

end

end Workflows
