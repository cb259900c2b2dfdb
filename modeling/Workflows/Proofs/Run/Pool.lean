/-
Runs that share an engine end as if each of them had it to itself, in every order of their turns, if every
collaborator replies to a call by the call alone and all chat providers reply alike. The rotation is the one
thing by which the runs can disturb each other, and it only decides in which seat a provider is asked.

That a run with an engine to itself goes through the turns of a pool is not assumed: these turns, put
together, are the run of its steps.
-/
import Workflows.Proofs.Run.Append
import Workflows.Proofs.Run.Step
import Workflows.Proofs.Step.Idle
import Workflows.Run.Pool

namespace Workflows

/-- A step begins on the context that the steps before it have left. -/
@[simp] theorem RunState.context_advance (state : RunState) : state.advance.context = state.context := rfl

section

variable {σ : Type} {world : World σ} {usualDelay : Int}

/-! ## A run by itself -/

namespace Task

variable {step : Step} {steps : List Step} {state : RunState} {engine : Engine σ}

theorem turns_add (first second : Nat) (task : Task) (engine : Engine σ) :
    task.turns world usualDelay (first + second) engine =
      let early := task.turns world usualDelay first engine
      let late := early.1.turns world usualDelay second early.2.1
      (late.1, late.2.1, early.2.2 ++ late.2.2) := by
  induction first generalizing task engine with
  | zero => simp [turns]
  | succ first ih =>
    rw [Nat.add_right_comm]
    simp only [turns, ih, List.append_assoc]

/-- A run that has ended stays as it is. -/
theorem turns_ended (count : Nat) (state : RunState) (engine : Engine σ) :
    (ended state).turns world usualDelay count engine = (.ended state, engine, []) := by
  induction count with
  | zero => rfl
  | succ count ih => simp only [turns, turn, ih, List.append_nil]

/-- What comes of a step for the run that it is a step of. -/
def afterStep (step : Step) (steps : List Step) (state : RunState)
    (outcome : Except Fault Context × Engine σ × List Event) : Task × Engine σ × List Event :=
  match outcome with
  | (.error fault, engine, events) => failed step fault state engine events
  | (.ok context, engine, events) => passed step context steps state engine events

variable (world usualDelay) in
/-- A step takes one turn, or two if it makes a call, and does in them what a step does. -/
theorem turns_step (step : Step) (steps : List Step) (state : RunState) (engine : Engine σ) :
    ∃ count, 1 ≤ count ∧ count ≤ 2 ∧ (ready (step :: steps) state).turns world usualDelay count engine =
      afterStep step steps state.advance (runStep world usualDelay step state.context engine) := by
  rcases h : (step.plan usualDelay engine.rotation.cursor.val state.context).1 with fault | _ | call
  · refine ⟨1, le_refl 1, one_le_two, ?_⟩
    rw [runStep_of_fault h]
    simp only [turns, turn, begin, RunState.context_advance, h, List.append_nil]
    rfl
  · refine ⟨1, le_refl 1, one_le_two, ?_⟩
    rw [runStep_of_none h]
    simp only [turns, turn, begin, RunState.context_advance, h, List.append_nil]
    rfl
  · -- the second turn takes the reply, and nothing has come between the two
    refine ⟨2, one_le_two, le_refl 2, ?_⟩
    rw [runStep_of_call h]
    simp only [turns, turn, begin, receive, RunState.context_advance, h, List.append_nil]
    rcases world.perform call state.context engine.outside with ⟨fault | context, outside⟩
    · simp [afterStep, failed]
    · simp [afterStep, passed]

/-- Enough turns of a run that has the engine to itself are the run of its steps. -/
theorem turns_eq_runSteps (steps : List Step) (state : RunState) (engine : Engine σ) {count : Nat}
    (h : 2 * steps.length + 1 ≤ count) :
    (ready steps state).turns world usualDelay count engine =
      let final := runSteps world usualDelay steps state engine
      (.ended final.1, final.2.1, final.2.2) := by
  induction steps generalizing state engine count with
  | nil =>
    obtain ⟨count, rfl⟩ := Nat.exists_eq_add_of_le h
    simp only [List.length_nil, turns_add, turns, turn, turns_ended, List.append_nil, runSteps]
  | cons step steps ih =>
    obtain ⟨first, hlow, hhigh, hstep⟩ := turns_step world usualDelay step steps state engine
    rw [List.length_cons] at h
    obtain ⟨rest, rfl⟩ : ∃ rest, count = first + rest := ⟨count - first, by omega⟩
    rw [turns_add, hstep]
    rcases hs : runStep world usualDelay step state.context engine with ⟨fault | context, engine', events⟩
    · rw [runSteps_error hs]
      simp only [afterStep, failed, turns_ended, List.append_nil]
    · rw [runSteps_ok hs]
      simp only [afterStep, passed, ih (state.advance.proceed context) engine' (show 2 * steps.length + 1 ≤ rest by omega)]
      simp

end Task

/-! ## Collaborators that reply by the call alone -/

/-- Every collaborator replies to a call by the call alone, whatever it was asked before, and the chat
providers in all seats reply alike. -/
structure World.Steady (world : World σ) (seats : Nat) : Prop where
  byCall : ∀ call outside outside', (world.answer call outside).1 = (world.answer call outside').1
  alike : ∀ seat < seats, ∀ other < seats, ∀ prompt outside,
    (world.answer (.chat seat prompt) outside).1 = (world.answer (.chat other prompt) outside).1

namespace World.Steady

variable {seats : Nat} (steady : world.Steady seats)

include steady

theorem perform (call : Call) (context : Context) (outside outside' : σ) :
    (world.perform call context outside).1 = (world.perform call context outside').1 := by
  unfold World.perform
  exact congrArg (·.bind (call.resume context)) (steady.byCall call outside outside')

theorem perform_chat {seat other : Nat} (hseat : seat < seats) (hother : other < seats) (prompt : String)
    (context : Context) (outside outside' : σ) :
    (world.perform (.chat seat prompt) context outside).1 = (world.perform (.chat other prompt) context outside').1 := by
  rw [steady.perform (.chat other prompt) context outside' outside]
  unfold World.perform
  exact congrArg (fun reply : Except Fault String => reply.bind fun text => .ok (Context.text text))
    (steady.alike seat hseat other hother prompt outside)

variable (usualDelay) in
/-- Whosever turn it is, a step fails alike, or makes no call, or makes one whose reply is the same. -/
theorem plan {seat other : Nat} (hseat : seat < seats) (hother : other < seats) (step : Step) (context : Context) :
    (∃ fault, (step.plan usualDelay seat context).1 = .error fault ∧
        (step.plan usualDelay other context).1 = .error fault) ∨
      ((step.plan usualDelay seat context).1 = .ok none ∧ (step.plan usualDelay other context).1 = .ok none) ∨
      ∃ one call, (step.plan usualDelay seat context).1 = .ok (some one) ∧
        (step.plan usualDelay other context).1 = .ok (some call) ∧
        ∀ outside outside', (world.perform one context outside).1 = (world.perform call context outside').1 := by
  cases hturn : step.takesTurn with
  | false =>
    rw [Step.plan_of_takesNoTurn hturn seat other]
    rcases (step.plan usualDelay other context).1 with fault | _ | call
    · exact .inl ⟨fault, rfl, rfl⟩
    · exact .inr (.inl ⟨rfl, rfl⟩)
    · exact .inr (.inr ⟨call, call, rfl, rfl, steady.perform call context⟩)
  | true =>
    -- a chat step is the one that sees whose turn it is, and it only asks in that seat
    cases hidle : step.isIdle with
    | true => exact .inr (.inl ⟨Step.plan_of_idle hidle seat, Step.plan_of_idle hidle other⟩)
    | false =>
      obtain ⟨prompt, hplan⟩ : ∃ prompt, ∀ seat, step.plan usualDelay seat context = (.ok (some (.chat seat prompt)), []) :=
        Step.plan_of_takesTurn hturn hidle
      refine .inr (.inr ⟨_, _, congrArg Prod.fst (hplan seat), congrArg Prod.fst (hplan other), ?_⟩)
      exact steady.perform_chat hseat hother prompt context

end World.Steady

/-! ## Where a run would end -/

theorem seats_after (rotation : Rotation) (step : Step) : (rotation.after step).seats = rotation.seats := by
  unfold Rotation.after
  split <;> rfl

variable (world usualDelay) in
theorem seats_runStep (step : Step) (context : Context) (engine : Engine σ) :
    (runStep world usualDelay step context engine).2.1.rotation.seats = engine.rotation.seats := by
  rcases h : (step.plan usualDelay engine.rotation.cursor.val context).1 with fault | _ | call
  · rw [runStep_of_fault h, seats_after]
  · rw [runStep_of_none h, seats_after]
  · rw [runStep_of_call h, seats_after]

variable (usualDelay) in
theorem World.Steady.runStep {one other : Engine σ} (steady : world.Steady one.rotation.seats)
    (hseats : other.rotation.seats = one.rotation.seats) (step : Step) (context : Context) :
    (runStep world usualDelay step context one).1 = (Workflows.runStep world usualDelay step context other).1 := by
  have hother : other.rotation.cursor.val < one.rotation.seats := hseats ▸ other.rotation.cursor.isLt
  rcases steady.plan usualDelay one.rotation.cursor.isLt hother step context with
    ⟨fault, h, h'⟩ | ⟨h, h'⟩ | ⟨call, call', h, h', hperform⟩
  · rw [runStep_of_fault h, runStep_of_fault h']
  · rw [runStep_of_none h, runStep_of_none h']
  · rw [runStep_of_call h, runStep_of_call h']
    exact hperform _ _

theorem World.Steady.runSteps {one : Engine σ} (steady : world.Steady one.rotation.seats) (other : Engine σ)
    (hseats : other.rotation.seats = one.rotation.seats) (steps : List Step) (state : RunState) :
    (runSteps world usualDelay steps state one).1 = (Workflows.runSteps world usualDelay steps state other).1 := by
  -- on the steps; after one of them the engines still have the same seats, and that is all they need in common
  induction steps generalizing state one other with
  | nil => rfl
  | cons step steps ih =>
    have hresult := steady.runStep usualDelay hseats step state.context
    have hone := seats_runStep world usualDelay step state.context one
    have hother := seats_runStep world usualDelay step state.context other
    rcases h : Workflows.runStep world usualDelay step state.context one with ⟨fault | context, one', events⟩ <;>
    rcases h' : Workflows.runStep world usualDelay step state.context other with ⟨fault' | context', other', events'⟩ <;>
    rw [h, h'] at hresult <;> cases hresult
    · rw [runSteps_error h, runSteps_error h']
    · rw [h] at hone
      rw [h'] at hother
      rw [runSteps_ok h, runSteps_ok h']
      exact ih (hone ▸ steady) other' (hother.trans (hseats.trans hone.symm)) _

namespace Task

variable (world usualDelay) in
/-- The state in which a run would end that had an engine to itself from now on. -/
def finish (task : Task) (engine : Engine σ) : RunState :=
  match task with
  | ready steps state => (runSteps world usualDelay steps state engine).1
  | waiting call step steps state =>
    match world.perform call state.context engine.outside with
    | (.error fault, _) => state.fail step fault
    | (.ok context, outside) =>
      (runSteps world usualDelay steps (state.proceed context) { engine with outside }).1
  | ended state => state

section

variable {one other : Engine σ} (steady : world.Steady one.rotation.seats)
  (hseats : other.rotation.seats = one.rotation.seats)

include steady hseats

/-- Taking the reply to a call, from whichever engine, changes nothing about where a run would end. -/
theorem finish_receive (call : Call) (step : Step) (steps : List Step) (state : RunState) :
    (receive world call step steps state one).1.finish world usualDelay other =
      (waiting call step steps state).finish world usualDelay other := by
  have steady' : world.Steady other.rotation.seats := hseats ▸ steady
  have hresult := steady.perform call state.context one.outside other.outside
  rcases h : world.perform call state.context one.outside with ⟨fault | context, outside⟩ <;>
  rcases h' : world.perform call state.context other.outside with ⟨fault' | context', outside'⟩ <;>
  rw [h, h'] at hresult <;> cases hresult
  · simp only [receive, finish, h, h', failed]
  · simp only [receive, finish, h, h', passed]
    exact steady'.runSteps { other with outside := outside' } rfl steps _

/-- Neither does beginning a step, whosever turn it is. -/
theorem finish_begin (step : Step) (steps : List Step) (state : RunState) :
    (begin usualDelay step steps state.advance one).1.finish world usualDelay other =
      (ready (step :: steps) state).finish world usualDelay other := by
  have steady' : world.Steady other.rotation.seats := hseats ▸ steady
  have hother : other.rotation.cursor.val < one.rotation.seats := hseats ▸ other.rotation.cursor.isLt
  rcases steady.plan usualDelay one.rotation.cursor.isLt hother step state.context with
    ⟨fault, h, h'⟩ | ⟨h, h'⟩ | ⟨call, call', h, h', hperform⟩
  · simp only [begin, RunState.context_advance, h, failed, finish]
    rw [runSteps_error (runStep_of_fault h')]
  · simp only [begin, RunState.context_advance, h, passed, finish]
    rw [runSteps_ok (runStep_of_none h')]
    exact steady'.runSteps ⟨other.rotation.after step, other.outside⟩ (seats_after other.rotation step) steps _
  · -- what was asked in the seat of the one engine is replied as what would be asked in that of the other
    have hresult := hperform other.outside other.outside
    have hstep := @runStep_of_call _ world usualDelay step state.context other call' h'
    rcases hp : world.perform call state.context other.outside with ⟨fault | context, outside⟩ <;>
    rcases hp' : world.perform call' state.context other.outside with ⟨fault' | context', outside'⟩ <;>
    rw [hp, hp'] at hresult <;> cases hresult <;> rw [hp'] at hstep
    · simp only [begin, RunState.context_advance, h, finish, hp]
      rw [runSteps_error hstep]
    · simp only [begin, RunState.context_advance, h, finish, hp]
      rw [runSteps_ok hstep]
      have hsteady : world.Steady (⟨other.rotation, outside⟩ : Engine σ).rotation.seats := steady'
      exact hsteady.runSteps ⟨other.rotation.after step, outside'⟩ (seats_after other.rotation step) steps _

/-- A turn changes nothing about where a run would end, whatever the other runs do to the engine. -/
theorem finish_turn (task : Task) :
    (task.turn world usualDelay one).1.finish world usualDelay other = task.finish world usualDelay other := by
  cases task with
  | ended state => rfl
  | waiting call step steps state => exact finish_receive steady hseats call step steps state
  | ready steps state =>
    cases steps with
    | nil => rfl
    | cons step steps => exact finish_begin steady hseats step steps state

end

variable (world usualDelay) in
theorem seats_turn (task : Task) (engine : Engine σ) :
    (task.turn world usualDelay engine).2.1.rotation.seats = engine.rotation.seats := by
  cases task with
  | ended state => rfl
  | waiting call step steps state =>
    simp only [turn, receive]
    rcases world.perform call state.context engine.outside with ⟨fault | context, outside⟩ <;> rfl
  | ready steps state =>
    cases steps with
    | nil => rfl
    | cons step steps =>
      simp only [turn, begin]
      rcases (step.plan usualDelay engine.rotation.cursor.val state.advance.context).1 with fault | _ | call <;>
        exact seats_after engine.rotation step

/-! ## How far a run has to go -/

/-- The most turns that a run can take before it has ended. -/
def left : Task → Nat
  | ready steps _ => 2 * steps.length + 1
  | waiting _ _ steps _ => 2 * steps.length + 2
  | ended _ => 0

variable (world usualDelay) in
theorem left_turn (task : Task) (engine : Engine σ) :
    (task.turn world usualDelay engine).1.left ≤ task.left - 1 := by
  cases task with
  | ended state => exact Nat.zero_le _
  | waiting call step steps state =>
    simp only [turn, receive]
    rcases world.perform call state.context engine.outside with ⟨fault | context, outside⟩ <;>
      simp [failed, passed, left]
  | ready steps state =>
    cases steps with
    | nil => exact Nat.zero_le _
    | cons step steps =>
      simp only [turn, begin]
      rcases (step.plan usualDelay engine.rotation.cursor.val state.advance.context).1 with fault | _ | call <;>
        simp only [failed, passed, left, List.length_cons] <;> omega

theorem ended_of_left_eq_zero {task : Task} (h : task.left = 0) : ∃ state, task = ended state := by
  cases task with
  | ended state => exact ⟨state, rfl⟩
  | ready steps state => simp [left] at h
  | waiting call step steps state => simp [left] at h

end Task

/-! ## All runs of a pool -/

namespace Pool

variable {ι : Type} [DecidableEq ι] {i j : ι}

theorem turn_tasks_same (pool : Pool ι σ) :
    (pool.turn world usualDelay i).tasks i = ((pool.tasks i).turn world usualDelay pool.engine).1 := if_pos rfl

/-- A run has a state of its own. -/
theorem turn_tasks_other (pool : Pool ι σ) (h : i ≠ j) : (pool.turn world usualDelay j).tasks i = pool.tasks i :=
  if_neg h

variable (world usualDelay) in
theorem seats_turn (pool : Pool ι σ) (j : ι) :
    (pool.turn world usualDelay j).engine.rotation.seats = pool.engine.rotation.seats :=
  Task.seats_turn world usualDelay (pool.tasks j) pool.engine

variable (usualDelay) in
theorem finish_play {pool : Pool ι σ} {alone : Engine σ} (steady : world.Steady pool.engine.rotation.seats)
    (hseats : alone.rotation.seats = pool.engine.rotation.seats) (schedule : List ι) (i : ι) :
    ((pool.play world usualDelay schedule).tasks i).finish world usualDelay alone =
      (pool.tasks i).finish world usualDelay alone := by
  induction schedule generalizing pool with
  | nil => rfl
  | cons j schedule ih =>
    have hturn := seats_turn world usualDelay pool j
    rw [play, List.foldl_cons, ← play, ih (hturn ▸ steady) (hseats.trans hturn.symm)]
    -- a turn of another run shows in the engine alone, and of the engine nothing but the seats is asked
    by_cases h : i = j
    · subst h
      rw [turn_tasks_same, Task.finish_turn steady hseats]
    · rw [turn_tasks_other pool h]

variable (world usualDelay) in
theorem left_play (pool : Pool ι σ) (schedule : List ι) (i : ι) :
    ((pool.play world usualDelay schedule).tasks i).left ≤ (pool.tasks i).left - schedule.count i := by
  induction schedule generalizing pool with
  | nil => exact le_refl _
  | cons j schedule ih =>
    rw [play, List.foldl_cons, ← play]
    refine (ih _).trans ?_
    by_cases h : i = j
    · subst h
      rw [turn_tasks_same, List.count_cons_self]
      have := Task.left_turn world usualDelay (pool.tasks i) pool.engine
      omega
    · rw [turn_tasks_other pool h, List.count_cons_of_ne (Ne.symm h)]

end Pool

/-- However runs that share an engine take their turns, each that has ended is in the state in which it ends
with an engine to itself, wherever the rotation of that engine stands, and each has ended once it has taken two
turns for every step and one more. -/
theorem interleaved_runs_end_as_alone {ι : Type} [DecidableEq ι] (jobs : ι → List Step × Context)
    {engine alone : Engine σ} (steady : world.Steady engine.rotation.seats)
    (hseats : alone.rotation.seats = engine.rotation.seats) (schedule : List ι) (i : ι) :
    let pool := (Pool.start jobs engine).play world usualDelay schedule
    let final := (runFrom world usualDelay (jobs i).1 (jobs i).2 alone).1
    (∀ state, pool.tasks i = .ended state → state = final) ∧
      (2 * (jobs i).1.length + 1 ≤ schedule.count i → pool.tasks i = .ended final) := by
  intro pool final
  have hended : ∀ state, pool.tasks i = .ended state → state = final := by
    intro state h
    have hsteady : world.Steady (Pool.start jobs engine).engine.rotation.seats := steady
    have hfinish := Pool.finish_play usualDelay hsteady hseats schedule i
    rw [show (Pool.start jobs engine).play world usualDelay schedule = pool from rfl, h] at hfinish
    exact hfinish
  refine ⟨hended, fun hcount => ?_⟩
  have hleft := Pool.left_play world usualDelay (Pool.start jobs engine) schedule i
  have hstart : ((Pool.start jobs engine).tasks i).left = 2 * (jobs i).1.length + 1 := rfl
  rw [hstart, Nat.sub_eq_zero_of_le hcount] at hleft
  obtain ⟨state, h⟩ := Task.ended_of_left_eq_zero (Nat.eq_zero_of_le_zero hleft)
  rw [h, hended state h]

end

/-- Collaborators that count what they are asked and reply by the call alone. The server is out of order. -/
def countingWorld : World Nat where
  answer
    | .chat _ prompt, count => (.ok ("Re: " ++ prompt), count + 1)
    | .image prompt, count => (.ok prompt, count + 1)
    | .http _, count => (.ok (⟨503, "", "Unavailable"⟩ : Response), count + 1)
    | .code _ input, count => (.ok input, count + 1)
    | .sleep _, count => (.ok (), count + 1)

/-- A run that asks two chat providers, and one that asks a chat provider and then fails. -/
def twoJobs : Bool → List Step × Context
  | false => ([⟨"step_1", "llm", .text "Ask", [("prompt", .text "Name a city")]⟩,
      ⟨"step_2", "llm", .text "Ask on", [("prompt", .text "Where is {{context}}")]⟩], .text "")
  | true => ([⟨"step_1", "llm", .text "Ask", [("prompt", .text "Name a river")]⟩,
      ⟨"step_2", "http_request", .text "Send", [("url", .text "https://example.test")]⟩], .text "")

theorem two_interleaved_runs_end_as_alone :
    let engine : Engine Nat := ⟨⟨2, 0⟩, 0⟩
    let alone : Engine Nat := ⟨⟨2, 1⟩, 7⟩
    let schedule := [false, true, true, false, true, false, true, true, false, false]
    let pool := (Pool.start twoJobs engine).play countingWorld 5 schedule
    countingWorld.Steady engine.rotation.seats ∧ alone.rotation.seats = engine.rotation.seats ∧
      (∀ i, 2 * (twoJobs i).1.length + 1 ≤ schedule.count i) ∧
      (∀ i, pool.tasks i = .ended (runFrom countingWorld 5 (twoJobs i).1 (twoJobs i).2 alone).1) ∧
      pool.tasks false = .ended ⟨2, .text "Re: Where is Re: Name a city", .completed, 2, none⟩ ∧
      pool.tasks true = .ended ⟨2, .text "Re: Name a river", .failed, 2,
        some ⟨2, "http_request", .requestFailed "HTTP 503: Unavailable" (some 503)⟩⟩ := by
  intro engine alone schedule pool
  have steady : countingWorld.Steady engine.rotation.seats :=
    { byCall := fun call _ _ => by cases call <;> rfl
      alike := fun _ _ _ _ _ _ => rfl }
  have hseats : alone.rotation.seats = engine.rotation.seats := rfl
  have hcount : ∀ i, 2 * (twoJobs i).1.length + 1 ≤ schedule.count i := by decide
  have hends : ∀ i, pool.tasks i = .ended (runFrom countingWorld 5 (twoJobs i).1 (twoJobs i).2 alone).1 := fun i =>
    (interleaved_runs_end_as_alone twoJobs steady hseats schedule i).2 (hcount i)
  refine ⟨steady, hseats, hcount, hends, (hends false).trans ?_, (hends true).trans ?_⟩
  · exact congrArg Task.ended (by decide +kernel)
  · exact congrArg Task.ended (by decide +kernel)

end Workflows
