/-
Running stored workflows.
-/
import Workflows.Run.Report
import Workflows.Store.Table

namespace Workflows

section

variable {σ : Type} (world : World σ) (usualDelay : Int)

/-- Runs the workflow with an id, loaded once, to its output. -/
def Table.run (table : Table) (id input : Value) (engine : Engine σ) :
    Except Fault String × Engine σ × List Event :=
  let (workflow, notices) := table.get id
  let told := notices.map .notice
  match workflow with
  | .error fault => (.error fault, engine, told)
  | .ok none => (.error (.unknownWorkflow id), engine, told)
  | .ok (some workflow) =>
    let (result, engine, events) := runStored world usualDelay workflow.steps input engine
    (result, engine, told ++ events)

/-- Reports on a run of the workflow with an id. -/
def Table.report (table : Table) (id input : Value) (engine : Engine σ) :
    Except Fault Report × Engine σ × List Event :=
  let (result, engine, events) := table.run world usualDelay id input engine
  (Report.ofResult result, engine, events)

end

end Workflows
