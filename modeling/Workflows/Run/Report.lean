/-
Reports: what callers are told about a run. A fault of the workflow or of one of its steps is
reported; any other fault is the caller's own and passes through.
-/
import Workflows.Run.Machine

namespace Workflows

/-- The fault that a report tells of: the cause, if a step failed. -/
def Fault.reported : Fault → Fault
  | .stepFailed _ _ cause => cause
  | fault => fault

/-- What a report tells about a fault: its message, its kind, and which step it struck, if any. -/
def Fault.toValue : Fault → Value
  | .stepFailed index stepType cause => (Failure.mk index stepType cause).toValue
  | fault => .object [("message", .text fault.message), ("type", .text fault.label),
      ("step_index", .null), ("step_type", .null)]

/-- The outcome of a run that is reported. -/
inductive Report
  | success (output : String)
  | failure (fault : Fault)
deriving DecidableEq, Repr

namespace Report

/-- The report of a result, unless its fault passes through. -/
def ofResult : Except Fault String → Except Fault Report
  | .ok output => .ok (.success output)
  | .error fault => if fault.isOfWorkflow then .ok (.failure fault) else .error fault

/-- A report as a value; some members tell which workflow was run. -/
def toValue (about : Object) : Report → Value
  | success output => .object (("success", .bool true) :: about ++ [("output", .text output)])
  | failure fault => .object (("success", .bool false) :: about ++ [("error", fault.toValue)])

end Report

end Workflows
