/-
Notices: what the program tells its operator while it works. The functions that give notices return
them with their result, in order.
-/
namespace Workflows

/-- How grave a notice is. -/
inductive Level
  | warning
  | error
deriving DecidableEq, Repr

/-- A message to the operator. -/
structure Notice where
  level : Level
  text : String
deriving DecidableEq, Repr

/-- A notice on one line, with its level before it. -/
def Notice.line (notice : Notice) : String :=
  (match notice.level with
   | .warning => "WARNING: "
   | .error => "ERROR: ") ++ notice.text

end Workflows
