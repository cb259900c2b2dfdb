/-
Runs. A run goes through its steps with one context, and the first step that fails ends it. The
collaborators are a function of the calls they are asked, with a state of their own; all that a run
does to them, and all that it tells, is in the events that it leaves.
-/
import Workflows.Run.Call
import Workflows.Run.Rotation

namespace Workflows

/-- The collaborators of runs: each reply may depend on a state, and changes it. -/
structure World (σ : Type) where
  answer : (call : Call) → σ → Except Fault call.Reply × σ

/-- What runs share: the rotation of chat providers and the state of the collaborators. -/
structure Engine (σ : Type) where
  rotation : Rotation
  outside : σ

/-- What happens in a run. -/
inductive Event
  | notice (notice : Notice)
  | call (call : Call)
  | after (step : Step) (context : Context)
deriving DecidableEq, Repr

namespace Event

def notice? : Event → Option Notice
  | notice n => some n
  | _ => none

def call? : Event → Option Call
  | call c => some c
  | _ => none

def after? : Event → Option (Step × Context)
  | after step context => some (step, context)
  | _ => none

/-- The calls among some events, in order. -/
def calls (events : List Event) : List Call := events.filterMap call?

@[simp] theorem calls_nil : calls [] = [] := rfl

@[simp] theorem calls_notice (n : Notice) (events : List Event) : calls (.notice n :: events) = calls events :=
  rfl

@[simp] theorem calls_after (step : Step) (context : Context) (events : List Event) :
    calls (.after step context :: events) = calls events := rfl

@[simp] theorem calls_append (as bs : List Event) : calls (as ++ bs) = calls as ++ calls bs :=
  List.filterMap_append

@[simp] theorem calls_notices (notices : List Notice) : calls (notices.map .notice) = [] := by
  induction notices with
  | nil => rfl
  | cons n notices ih => rw [List.map_cons, calls_notice, ih]

end Event

/-! ## States of a run -/

inductive RunStatus
  | pending | running | completed | failed
deriving DecidableEq, Repr

def RunStatus.word : RunStatus → String
  | pending => "pending"
  | running => "running"
  | completed => "completed"
  | failed => "failed"

/-- Which step of a run failed, and why. Steps are counted from one. -/
structure Failure where
  index : Nat
  stepType : String
  cause : Fault
deriving DecidableEq, Repr

namespace Failure

/-- A failure as the fault that ends a run. -/
def toFault (failure : Failure) : Fault :=
  .stepFailed failure.index failure.stepType failure.cause

/-- The failure as a value: what failed, why, and where. -/
def toValue (failure : Failure) : Value :=
  .object [("message", .text failure.cause.message), ("type", .text failure.cause.label),
    ("step_index", .int failure.index), ("step_type", .text failure.stepType)]

end Failure

/-- The state of a run: the step it is at, counted from one, and the context before that step, or
after the last one. -/
structure RunState where
  total : Nat
  context : Context
  status : RunStatus := .pending
  index : Nat := 0
  failure : Option Failure := none
deriving DecidableEq, Repr

namespace RunState

/-- The next step begins. -/
def advance (state : RunState) : RunState :=
  { state with status := .running, index := state.index + 1 }

/-- The step at hand has given a context. -/
def proceed (state : RunState) (context : Context) : RunState := { state with context }

/-- All steps are done. -/
def complete (state : RunState) : RunState := { state with status := .completed }

/-- The step at hand has failed. -/
def fail (state : RunState) (step : Step) (fault : Fault) : RunState :=
  { state with status := .failed, failure := some ⟨state.index, step.type, fault⟩ }

/-- The text that a run has come to. -/
def output (state : RunState) : String := state.context.asText

end RunState

/-! ## Steps in a world -/

/-- The rotation after a step. -/
def Rotation.after (rotation : Rotation) (step : Step) : Rotation :=
  if step.takesTurn then rotation.advance else rotation

section

variable {σ : Type} (world : World σ) (usualDelay : Int)

/-- Carries out a call, and gives the context after it. -/
def World.perform (call : Call) (context : Context) (outside : σ) : Except Fault Context × σ :=
  let (reply, outside) := world.answer call outside
  (reply.bind (call.resume context), outside)

/-- Carries out one step. -/
def runStep (step : Step) (context : Context) (engine : Engine σ) :
    Except Fault Context × Engine σ × List Event :=
  let (planned, notices) := step.plan usualDelay engine.rotation.cursor.val context
  let rotation := engine.rotation.after step
  let told := notices.map .notice
  match planned with
  | .error fault => (.error fault, ⟨rotation, engine.outside⟩, told)
  | .ok none => (.ok context, ⟨rotation, engine.outside⟩, told)
  | .ok (some call) =>
    let (result, outside) := world.perform call context engine.outside
    (result, ⟨rotation, outside⟩, told ++ [.call call])

/-- The notice about a step that failed. -/
def failureNotice (state : RunState) (step : Step) (fault : Fault) : Notice :=
  ⟨.error, "[ERROR] Step " ++ toString state.index ++ " (" ++ step.type ++ ") failed: " ++
    fault.message⟩

/-- Carries out steps from a state of a run on. -/
def runSteps : List Step → RunState → Engine σ → RunState × Engine σ × List Event
  | [], state, engine => (state.complete, engine, [])
  | step :: steps, state, engine =>
    let state := state.advance
    match runStep world usualDelay step state.context engine with
    | (.error fault, engine, events) =>
      (state.fail step fault, engine, events ++ [.notice (failureNotice state step fault)])
    | (.ok context, engine, events) =>
      let (final, engine, more) := runSteps steps (state.proceed context) engine
      (final, engine, events ++ .after step context :: more)

/-- The state of a run of parsed steps before its first step. -/
def RunState.start (steps : List Step) (context : Context) : RunState :=
  ⟨steps.length, context, .pending, 0, none⟩

/-- Runs parsed steps from a context. -/
def runFrom (steps : List Step) (context : Context) (engine : Engine σ) :
    RunState × Engine σ × List Event :=
  runSteps world usualDelay steps (.start steps context) engine

/-- Runs parsed steps on an input. -/
def runParsed (steps : List Step) (input : Value) (engine : Engine σ) :
    RunState × Engine σ × List Event :=
  runFrom world usualDelay steps (Context.ofValue input) engine

/-- Runs a list of steps in raw form on an input. That there is no step is a fault. -/
def run (steps input : Value) (engine : Engine σ) :
    Except Fault RunState × Engine σ × List Event :=
  let (parsed, notices) := Step.read steps
  let told := notices.map .notice
  match parsed with
  | .error fault => (.error fault, engine, told)
  | .ok steps =>
    let (state, engine, events) := runParsed world usualDelay steps input engine
    (.ok state, engine, told ++ events)

/-- The output of a run that has come to its end, or the fault that ended it. -/
def RunState.result (state : RunState) : Except Fault String :=
  match state.failure with
  | some failure => .error failure.toFault
  | none => .ok state.output

/-- Runs a list of steps in raw form to its output. -/
def runToOutput (steps input : Value) (engine : Engine σ) :
    Except Fault String × Engine σ × List Event :=
  let (state, engine, events) := run world usualDelay steps input engine
  (state.bind RunState.result, engine, events)

/-- Loads the steps of a workflow in raw form by its id and runs them to their output. -/
def execute (load : Option (Value → Option Value)) (id input : Value) (engine : Engine σ) :
    Except Fault String × Engine σ × List Event :=
  match load with
  | none => (.error .noLoader, engine, [])
  | some load =>
    match load id with
    | none => (.error (.unknownWorkflow id), engine, [])
    | some steps => runToOutput world usualDelay steps input engine

/-- Runs the steps of a stored workflow, which are parsed already, to their output. -/
def runStored (steps : List Step) (input : Value) (engine : Engine σ) :
    Except Fault String × Engine σ × List Event :=
  if steps.isEmpty then (.error .noSteps, engine, [])
  else
    let (state, engine, events) := runParsed world usualDelay steps input engine
    (state.result, engine, events)

end

end Workflows
