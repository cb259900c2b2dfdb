/-
The length of a delay step: whole seconds, or milliseconds, or the usual delay if neither is given
or what is given is no number.
-/
import Workflows.Notice
import Workflows.Value.Coerce

namespace Workflows

/-- A length of time in seconds. -/
inductive Duration
  | whole (seconds : Int)
  | exact (seconds : Binary64)
deriving DecidableEq, Repr

def Duration.toValue : Duration → Value
  | whole n => .int n
  | exact x => .float x

namespace Run

/-- The larger of two numbers; the first one if neither is less than the other. -/
def largerOf (x y : Binary64) : Binary64 := if x.less y then y else x

/-- The thousand milliseconds of a second. -/
def millisecondsPerSecond : Binary64 := (Binary64.ofInt? 1000).getD default

/-- The length that the parameters give; none if they give none. -/
def givenDelay (params : Object) : Except Fault (Option Duration) :=
  let seconds := Object.getOrNull params "seconds"
  let milliseconds := Object.getOrNull params "ms"
  if !seconds.isUnset then do
    let x ← seconds.toFloat
    let n ← Value.intOfFloat x
    return some (.whole (max n 0))
  else if !milliseconds.isUnset then do
    let x ← milliseconds.toFloat
    return some (.exact (largerOf (x.div millisecondsPerSecond) (.zero false)))
  else return none

/-- The length of the delay of a step. A number beyond all bounds is a fault. -/
def delayOf (usual : Int) (params : Object) : Except Fault Duration × List Notice :=
  match givenDelay params with
  | .ok given => (.ok (given.getD (.whole usual)), [])
  | .error fault =>
    match fault.kind with
    | .wrongKind | .wrongValue =>
      (.ok (.whole usual), [⟨.warning, "[Delay] Invalid duration " ++
        (Value.object params).spelling ++ ", using default"⟩])
    | _ => (.error fault, [])

end Run

end Workflows
