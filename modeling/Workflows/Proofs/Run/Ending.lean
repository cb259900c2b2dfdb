/-
How runs end. A run of entries, of which one is usable, has completed behind all of its steps, or it has
stopped at the first step that fails: at its place, with the context that the steps before it have left,
and with no call after its own. Who asked for the run is told its output or that failure, whether the
steps were given or stored.
-/
import Workflows.Proofs.Run.Append
import Workflows.Proofs.Run.Step
import Workflows.Proofs.Store.Saved
import Workflows.Run.Script

namespace Workflows

section

variable {σ : Type} (world : World σ) (usualDelay : Int)

/-! ## Steps that pass, and the first that fails -/

/-- What steps leave that are carried out one after another, with the calls they make; none if one of them
fails. -/
def runThrough : List Step → Context → Engine σ → Option (Context × Engine σ × List Call)
  | [], context, engine => some (context, engine, [])
  | step :: steps, context, engine =>
    match runStep world usualDelay step context engine with
    | (.error _, _, _) => none
    | (.ok next, engine, events) =>
      (runThrough steps next engine).map fun (last, engine, calls) =>
        (last, engine, Event.calls events ++ calls)

/-- The first step that fails: those before it pass, and it fails on the context and in the engine that
they leave. -/
structure FirstFailure (steps : List Step) (start : Context) (engine : Engine σ) where
  before : List Step
  step : Step
  after : List Step
  context : Context
  reached : Engine σ
  asked : List Call
  fault : Fault
  left : Engine σ
  events : List Event
  split : steps = before ++ step :: after
  passed : runThrough world usualDelay before start engine = some (context, reached, asked)
  fails : runStep world usualDelay step context reached = (.error fault, left, events)

variable {world usualDelay}

namespace FirstFailure

variable {steps : List Step} {start : Context} {engine : Engine σ}

/-- The place of the step, counted from one. -/
def index (first : FirstFailure world usualDelay steps start engine) : Nat := first.before.length + 1

/-- The failure as a run tells it. -/
def failure (first : FirstFailure world usualDelay steps start engine) : Failure :=
  ⟨first.index, first.step.type, first.fault⟩

/-- The calls of the steps before and of the step itself. -/
def calls (first : FirstFailure world usualDelay steps start engine) : List Call :=
  first.asked ++ Event.calls first.events

end FirstFailure

/-! ## One case or the other -/

theorem runThrough_cons {step : Step} {steps : List Step} {context next : Context} {engine engine' : Engine σ}
    {events : List Event} (h : runStep world usualDelay step context engine = (.ok next, engine', events)) :
    runThrough world usualDelay (step :: steps) context engine =
      (runThrough world usualDelay steps next engine').map fun (last, engine, calls) =>
        (last, engine, Event.calls events ++ calls) := by
  simp only [runThrough, h]

variable (world usualDelay) in
theorem runThrough_or_fails (steps : List Step) (start : Context) (engine : Engine σ) :
    (∃ left, runThrough world usualDelay steps start engine = some left) ∨
      Nonempty (FirstFailure world usualDelay steps start engine) := by
  induction steps generalizing start engine with
  | nil => exact Or.inl ⟨_, rfl⟩
  | cons step steps ih =>
    rcases h : runStep world usualDelay step start engine with ⟨fault | next, engine', events⟩
    · exact Or.inr ⟨⟨[], step, steps, start, engine, [], fault, engine', events, rfl, rfl, h⟩⟩
    · rcases ih next engine' with ⟨left, hleft⟩ | hfails
      · left
        rw [runThrough_cons h, hleft]
        exact ⟨_, rfl⟩
      · right
        obtain ⟨first⟩ := hfails
        refine ⟨⟨step :: first.before, first.step, first.after, first.context, first.reached,
          Event.calls events ++ first.asked, first.fault, first.left, first.events, ?_, ?_, first.fails⟩⟩
        · rw [List.cons_append, ← first.split]
        · rw [runThrough_cons h, first.passed]
          rfl

/-- Steps of which one fails do not pass. -/
theorem FirstFailure.runThrough_eq_none {steps : List Step} {start : Context} {engine : Engine σ}
    (first : FirstFailure world usualDelay steps start engine) :
    runThrough world usualDelay steps start engine = none := by
  obtain ⟨before, step, after, context, reached, asked, fault, left, events, rfl, hpassed, hfails⟩ := first
  induction before generalizing start engine asked with
  | nil =>
    cases hpassed
    simp only [List.nil_append, runThrough, hfails]
  | cons earlier before ih =>
    rcases h : runStep world usualDelay earlier start engine with ⟨_ | next, engine', more⟩
    · simp only [runThrough, h] at hpassed
      cases hpassed
    · rw [runThrough_cons h, Option.map_eq_some_iff] at hpassed
      obtain ⟨⟨_, _, calls⟩, hpassed, heq⟩ := hpassed
      cases heq
      rw [List.cons_append, runThrough_cons h, ih _ hpassed, Option.map_none]

/-! ## Runs -/

theorem runSteps_of_through {steps : List Step} (state : RunState) {engine left : Engine σ} {last : Context}
    {calls : List Call} (h : runThrough world usualDelay steps state.context engine = some (last, left, calls)) :
    let final := runSteps world usualDelay steps state engine
    final.1 = { state with context := last, status := .completed, index := state.index + steps.length } ∧
      final.2.1 = left ∧ Event.calls final.2.2 = calls := by
  induction steps generalizing state engine calls with
  | nil =>
    cases h
    exact ⟨rfl, rfl, rfl⟩
  | cons step steps ih =>
    rcases hs : runStep world usualDelay step state.context engine with ⟨_ | next, engine', events⟩
    · simp only [runThrough, hs] at h
      cases h
    · rw [runThrough_cons hs, Option.map_eq_some_iff] at h
      obtain ⟨⟨_, _, more⟩, h, heq⟩ := h
      cases heq
      obtain ⟨hstate, hengine, hcalls⟩ := ih (state.advance.proceed next) h
      rw [runSteps_ok hs]
      refine ⟨hstate.trans ?_, hengine, ?_⟩
      · simp only [RunState.advance, RunState.proceed, List.length_cons, Nat.add_assoc, Nat.add_comm 1]
      · simp only [Event.calls_append, Event.calls_after, hcalls]

theorem runSteps_of_failure {steps : List Step} (state : RunState) {engine : Engine σ}
    (first : FirstFailure world usualDelay steps state.context engine) :
    let final := runSteps world usualDelay steps state engine
    final.1 = { state with
        context := first.context, status := .failed, index := state.index + first.index
        failure := some { first.failure with index := state.index + first.index } } ∧
      final.2.1 = first.left ∧ Event.calls final.2.2 = first.calls := by
  obtain ⟨before, step, after, context, reached, asked, fault, left, events, rfl, hpassed, hfails⟩ := first
  obtain ⟨hstate, hengine, hcalls⟩ := runSteps_of_through state hpassed
  have hcompleted : (runSteps world usualDelay before state engine).1.status = .completed := by rw [hstate]
  have hstep : runStep world usualDelay step (runSteps world usualDelay before state engine).1.context
      (runSteps world usualDelay before state engine).2.1 = (.error fault, left, events) := by
    rw [hstate, hengine]
    exact hfails
  rw [runSteps_append_of_completed _ hcompleted]
  simp only [runSteps_error hstep, Event.calls_append, Event.calls_notice, Event.calls_nil, List.append_nil,
    hcalls, FirstFailure.calls, and_self, and_true]
  rw [hstate]
  rfl

variable (world usualDelay) in
/-- A run of steps has passed all of them, or it has stopped at the first that fails. -/
theorem runFrom_ends (steps : List Step) (start : Context) (engine : Engine σ) :
    let final := runFrom world usualDelay steps start engine
    (IsEmpty (FirstFailure world usualDelay steps start engine) ∧
      final.1 = ⟨steps.length, final.1.context, .completed, steps.length, none⟩ ∧
      runThrough world usualDelay steps start engine =
        some (final.1.context, final.2.1, Event.calls final.2.2)) ∨
    ∃ first : FirstFailure world usualDelay steps start engine,
      final.1 = ⟨steps.length, first.context, .failed, first.index, some first.failure⟩ ∧
      final.2.1 = first.left ∧ Event.calls final.2.2 = first.calls := by
  intro final
  rcases runThrough_or_fails world usualDelay steps start engine with ⟨⟨last, left, calls⟩, h⟩ | hfails
  · left
    obtain ⟨hstate, hengine, hcalls⟩ := runSteps_of_through (.start steps start) h
    have hcontext : final.1.context = last := congrArg RunState.context hstate
    refine ⟨⟨fun first => ?_⟩, ?_, ?_⟩
    · rw [first.runThrough_eq_none] at h
      cases h
    · rw [hcontext]
      refine hstate.trans ?_
      simp only [RunState.start, Nat.zero_add]
    · rw [hcontext, h]
      exact congrArg some (by rw [← hengine, ← hcalls]; rfl)
  · right
    obtain ⟨first⟩ := hfails
    obtain ⟨hstate, hengine, hcalls⟩ := runSteps_of_failure (.start steps start) first
    refine ⟨first, hstate.trans ?_, hengine, hcalls⟩
    simp only [RunState.start, Nat.zero_add]
    rfl

/-! ## Reports -/

/-- A report tells how a run has ended: its output if it has completed, else its failure. -/
def Report.Tells (report : Report) (state : RunState) : Prop :=
  (state.status = .completed ∧ report = .success state.output) ∨
    (state.status = .failed ∧
      ∃ failure, state.failure = some failure ∧ report = .failure failure.toFault)

variable (world usualDelay) in
/-- A run of steps has ended where it must, after these calls, and is reported: it has completed if and only
if no step fails, with the context that all steps leave; else it stands at the first that fails, with the
context that the steps before it leave, and no step behind it has asked for anything. -/
structure EndsAtFirstFailure (steps : List Step) (start : Context) (engine : Engine σ) (state : RunState)
    (calls : List Call) (report : Report) : Prop where
  ended : state.status = .completed ∨ state.status = .failed
  completed_iff : state.status = .completed ↔ IsEmpty (FirstFailure world usualDelay steps start engine)
  completed : state.status = .completed → state.failure = none ∧ state.index = state.total ∧
    ∃ left, runThrough world usualDelay steps start engine = some (state.context, left, calls)
  failed : state.status = .failed → ∃ first : FirstFailure world usualDelay steps start engine,
    state = ⟨steps.length, first.context, .failed, first.index, some first.failure⟩ ∧ calls = first.calls
  reported : report.Tells state

variable (world usualDelay) in
theorem runFrom_endsAtFirstFailure (steps : List Step) (start : Context) (engine : Engine σ) :
    let final := runFrom world usualDelay steps start engine
    ∃ report, Report.ofResult final.1.result = .ok report ∧
      EndsAtFirstFailure world usualDelay steps start engine final.1 (Event.calls final.2.2) report := by
  intro final
  rcases runFrom_ends world usualDelay steps start engine with
    ⟨hnone, hstate, hthrough⟩ | ⟨first, hstate, -, hcalls⟩
  · have hstatus : final.1.status = .completed := congrArg RunState.status hstate
    have hfailure : final.1.failure = none := congrArg RunState.failure hstate
    have hindex : final.1.index = final.1.total :=
      (congrArg RunState.index hstate).trans (congrArg RunState.total hstate).symm
    have hresult : final.1.result = .ok final.1.output := by rw [RunState.result, hfailure]
    refine ⟨.success final.1.output, by rw [hresult]; rfl, ?_⟩
    refine ⟨.inl hstatus, ⟨fun _ => hnone, fun _ => hstatus⟩, fun _ => ⟨hfailure, hindex, _, hthrough⟩,
      fun h => ?_, .inl ⟨hstatus, rfl⟩⟩
    rw [hstatus] at h
    cases h
  · have hstatus : final.1.status = .failed := congrArg RunState.status hstate
    have hfailure : final.1.failure = some first.failure := congrArg RunState.failure hstate
    have hresult : final.1.result = .error first.failure.toFault := by rw [RunState.result, hfailure]
    have hne : final.1.status ≠ .completed := by rw [hstatus]; decide
    refine ⟨.failure first.failure.toFault, by rw [hresult]; rfl, ?_⟩
    exact ⟨.inr hstatus, ⟨fun h => absurd h hne, fun h => h.elim first⟩, fun h => absurd h hne,
      fun _ => ⟨first, hstate, hcalls⟩, .inr ⟨hstatus, _, hfailure, rfl⟩⟩

end

/-- An entry that is no step, and three that are: the second of them fails, so the third is never begun. -/
def brokenEntries : List Value :=
  [.object [("type", .text "code"), ("code", .text "return 'one'")], .text "note",
    .object [("type", .text "image"), ("params", .object [("prompt", .text "Draw \x7b\x7bcontext\x7d\x7d")])],
    .object [("type", .text "llm"), ("prompt", .text "Describe it")]]

/-- Collaborators of which the image provider fails. -/
def brokenEngine : Engine Script where
  rotation := ⟨1, ⟨0, Nat.one_pos⟩⟩
  outside := ⟨[{ fragments := [.text "ok"] }], { error := some "no image" }, [], [.gives (.text "one")]⟩

/-- A workflow whose one step asks the image provider. -/
def imageWorkflow : Workflow :=
  ⟨1, "Picture", "", [⟨"step_1", "image", .text "Image", [("prompt", .text "Draw")]⟩]⟩

def imageTable : Table where
  rows := [⟨1, "Picture", none, "[\x7b\"type\": \"image\", \"prompt\": \"Draw\"\x7d]", 0⟩]

end Workflows
