/-
Runs that share an engine. A run goes on in turns: in one it begins its next step, up to the call that
the step makes, and in another it takes the reply and ends the step. While it waits for the reply the other
runs may take turns of their own, so that the order of all turns is an interleaving of the runs. What the
runs share is the engine and nothing else: every run has a state of its own.
-/
import Workflows.Run.Machine

namespace Workflows

/-- How far a run has come. Between two steps it goes on with the next one, if there is one; inside a step
it waits for the reply to a call; and in the end there is nothing to do. -/
inductive Task
  | ready (steps : List Step) (state : RunState)
  | waiting (call : Call) (step : Step) (steps : List Step) (state : RunState)
  | ended (state : RunState)

namespace Task

section

variable {σ : Type} (world : World σ) (usualDelay : Int)

/-- The step at hand has failed. -/
def failed (step : Step) (fault : Fault) (state : RunState) (engine : Engine σ) (told : List Event) :
    Task × Engine σ × List Event :=
  (.ended (state.fail step fault), engine, told ++ [.notice (failureNotice state step fault)])

/-- The step at hand has given a context. -/
def passed (step : Step) (context : Context) (steps : List Step) (state : RunState)
    (engine : Engine σ) (told : List Event) : Task × Engine σ × List Event :=
  (.ready steps (state.proceed context), engine, told ++ [.after step context])

/-- Begins the step at hand: it is planned, and takes its turn of the rotation. -/
def begin (step : Step) (steps : List Step) (state : RunState) (engine : Engine σ) :
    Task × Engine σ × List Event :=
  let (planned, notices) := step.plan usualDelay engine.rotation.cursor.val state.context
  let engine := { engine with rotation := engine.rotation.after step }
  let told := notices.map .notice
  match planned with
  | .error fault => failed step fault state engine told
  | .ok none => passed step state.context steps state engine told
  | .ok (some call) => (.waiting call step steps state, engine, told ++ [.call call])

/-- Takes the reply to the call of the step at hand. -/
def receive (call : Call) (step : Step) (steps : List Step) (state : RunState) (engine : Engine σ) :
    Task × Engine σ × List Event :=
  let (result, outside) := world.perform call state.context engine.outside
  let engine := { engine with outside }
  match result with
  | .error fault => failed step fault state engine []
  | .ok context => passed step context steps state engine []

/-- One turn of a run. -/
def turn (task : Task) (engine : Engine σ) : Task × Engine σ × List Event :=
  match task with
  | ready [] state => (.ended state.complete, engine, [])
  | ready (step :: steps) state => begin usualDelay step steps state.advance engine
  | waiting call step steps state => receive world call step steps state engine
  | ended state => (.ended state, engine, [])

/-- A number of turns of a run that has the engine to itself. -/
def turns : Nat → Task → Engine σ → Task × Engine σ × List Event
  | 0, task, engine => (task, engine, [])
  | count + 1, task, engine =>
    let (task, engine, events) := task.turn world usualDelay engine
    let (last, engine, more) := turns count task engine
    (last, engine, events ++ more)

end

end Task

/-- Runs that share an engine, and what has happened in each of them so far. -/
structure Pool (ι σ : Type) where
  tasks : ι → Task
  engine : Engine σ
  events : List (ι × Event) := []

namespace Pool

section

variable {ι σ : Type} [DecidableEq ι] (world : World σ) (usualDelay : Int)

/-- Runs of steps from contexts, none of which has begun. -/
def start (jobs : ι → List Step × Context) (engine : Engine σ) : Pool ι σ where
  tasks i := .ready (jobs i).1 (.start (jobs i).1 (jobs i).2)
  engine

/-- One turn of one of the runs. -/
def turn (pool : Pool ι σ) (i : ι) : Pool ι σ :=
  let (task, engine, events) := (pool.tasks i).turn world usualDelay pool.engine
  { tasks := fun j => if j = i then task else pool.tasks j
    engine
    events := pool.events ++ events.map fun event => (i, event) }

/-- Turns of the runs in the order of a schedule. -/
def play (pool : Pool ι σ) (schedule : List ι) : Pool ι σ := schedule.foldl (turn world usualDelay) pool

end

end Pool

end Workflows
