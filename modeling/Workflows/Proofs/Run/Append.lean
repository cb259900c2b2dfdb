/-
Runs of one list of steps behind another: a run of both is the run of the first list and, if that
completes, the run of the second from the context and the engine that the first has left, with all
places counted on. Every world, engine and context is meant, and every kind of step and of failure.
-/
import Mathlib.Tactic
import Workflows.Run.Machine

namespace Workflows

/-! ## States of a longer run -/

namespace RunState

/-- The state of a run as it is in a run of so many steps, of which some came before. -/
def behind (total before : Nat) (state : RunState) : RunState :=
  { state with
    total
    index := before + state.index
    failure := state.failure.map fun f => { f with index := before + f.index } }

/-- Behind no step only the number of steps is another. -/
theorem behind_zero (total : Nat) (state : RunState) : state.behind total 0 = { state with total } := by
  unfold behind
  simp

end RunState

section

variable {σ : Type} {world : World σ} {usualDelay : Int}

/-! ## One step of a run -/

theorem runSteps_error {step : Step} {steps : List Step} {state : RunState} {engine engine' : Engine σ}
    {fault : Fault} {events : List Event}
    (h : runStep world usualDelay step state.context engine = (.error fault, engine', events)) :
    runSteps world usualDelay (step :: steps) state engine =
      (state.advance.fail step fault, engine',
        events ++ [.notice (failureNotice state.advance step fault)]) := by
  have h : runStep world usualDelay step state.advance.context engine = (.error fault, engine', events) := h
  simp only [runSteps, h]

theorem runSteps_ok {step : Step} {steps : List Step} {state : RunState} {engine engine' : Engine σ}
    {context : Context} {events : List Event}
    (h : runStep world usualDelay step state.context engine = (.ok context, engine', events)) :
    runSteps world usualDelay (step :: steps) state engine =
      let rest := runSteps world usualDelay steps (state.advance.proceed context) engine'
      (rest.1, rest.2.1, events ++ .after step context :: rest.2.2) := by
  have h : runStep world usualDelay step state.advance.context engine = (.ok context, engine', events) := h
  simp only [runSteps, h]

/-- A run sets the status itself. -/
theorem runSteps_complete (steps : List Step) (state : RunState) (engine : Engine σ) :
    runSteps world usualDelay steps state.complete engine = runSteps world usualDelay steps state engine := by
  cases steps with
  | nil => rfl
  | cons step steps =>
    have h : state.complete.advance = state.advance := rfl
    simp only [runSteps, h]

/-- How a run ends: it has completed behind all of its steps, or it has failed. -/
theorem runSteps_ends (steps : List Step) (state : RunState) (engine : Engine σ) :
    let final := (runSteps world usualDelay steps state engine).1
    final.status = .failed ∨
      final = { state with
        context := final.context, status := .completed, index := state.index + steps.length } := by
  induction steps generalizing state engine with
  | nil => exact Or.inr rfl
  | cons step steps ih =>
    rcases h : runStep world usualDelay step state.context engine with ⟨fault | context, engine', events⟩
    · rw [runSteps_error h]; exact Or.inl rfl
    · rw [runSteps_ok h]
      refine (ih (state.advance.proceed context) engine').imp_right fun hc => hc.trans ?_
      simp only [RunState.advance, RunState.proceed, List.length_cons, Nat.add_assoc, Nat.add_comm 1]

/-! ## Runs of two lists -/

theorem runSteps_append_of_failed {first : List Step} (second : List Step) {state : RunState}
    {engine : Engine σ} (h : (runSteps world usualDelay first state engine).1.status = .failed) :
    runSteps world usualDelay (first ++ second) state engine =
      runSteps world usualDelay first state engine := by
  induction first generalizing state engine with
  | nil => cases h
  | cons step steps ih =>
    rcases hs : runStep world usualDelay step state.context engine with ⟨fault | context, engine', events⟩
    · rw [List.cons_append, runSteps_error hs, runSteps_error hs]
    · rw [runSteps_ok hs] at h
      rw [List.cons_append, runSteps_ok hs, runSteps_ok hs, ih h]

theorem runSteps_append_of_completed {first : List Step} (second : List Step) {state : RunState}
    {engine : Engine σ} (h : (runSteps world usualDelay first state engine).1.status = .completed) :
    runSteps world usualDelay (first ++ second) state engine =
      let start := runSteps world usualDelay first state engine
      let rest := runSteps world usualDelay second start.1 start.2.1
      (rest.1, rest.2.1, start.2.2 ++ rest.2.2) := by
  induction first generalizing state engine with
  | nil => simp [runSteps, runSteps_complete]
  | cons step steps ih =>
    rcases hs : runStep world usualDelay step state.context engine with ⟨fault | context, engine', events⟩
    · rw [runSteps_error hs] at h; cases h
    · rw [runSteps_ok hs] at h
      rw [List.cons_append, runSteps_ok hs, runSteps_ok hs, ih h]
      simp

/-- Behind other steps a run does the same and asks the same. -/
theorem runSteps_behind (total before : Nat) (steps : List Step) (state : RunState) (engine : Engine σ) :
    let alone := runSteps world usualDelay steps state engine
    let late := runSteps world usualDelay steps (state.behind total before) engine
    late.1 = alone.1.behind total before ∧ late.2.1 = alone.2.1 ∧
      Event.calls late.2.2 = Event.calls alone.2.2 := by
  induction steps generalizing state engine with
  | nil => exact ⟨rfl, rfl, rfl⟩
  | cons step steps ih =>
    rcases h : runStep world usualDelay step state.context engine with ⟨fault | context, engine', events⟩
    · have late : runStep world usualDelay step (state.behind total before).context engine =
          (.error fault, engine', events) := h
      rw [runSteps_error h, runSteps_error late]
      exact ⟨rfl, rfl, by simp⟩
    · have late : runStep world usualDelay step (state.behind total before).context engine =
          (.ok context, engine', events) := h
      rw [runSteps_ok h, runSteps_ok late]
      obtain ⟨h1, h2, h3⟩ := ih (state.advance.proceed context) engine'
      exact ⟨h1, h2, by simp only [Event.calls_append, Event.calls_after]; exact congrArg _ h3⟩

/-- A run of two lists. If the first fails, the whole fails with it: only the number of steps is
another. If it completes, the second goes on from its context and its engine, behind its steps. -/
theorem runFrom_append (xs ys : List Step) (context : Context) (engine : Engine σ) :
    let first := runFrom world usualDelay xs context engine
    let second := runFrom world usualDelay ys first.1.context first.2.1
    let whole := runFrom world usualDelay (xs ++ ys) context engine
    (first.1.status = .failed ∧
      whole.1 = { first.1 with total := (xs ++ ys).length } ∧
      whole.2.1 = first.2.1 ∧
      Event.calls whole.2.2 = Event.calls first.2.2) ∨
    (first.1.status = .completed ∧
      whole.1 = second.1.behind (xs ++ ys).length xs.length ∧
      whole.2.1 = second.2.1 ∧
      Event.calls whole.2.2 = Event.calls first.2.2 ++ Event.calls second.2.2) := by
  intro first second whole
  let total := (xs ++ ys).length
  let longer := runSteps world usualDelay xs ((RunState.start xs context).behind total 0) engine
  have hlonger : runSteps world usualDelay xs ((RunState.start xs context).behind total 0) engine = longer := rfl
  have hwhole : whole = runSteps world usualDelay (xs ++ ys) ((RunState.start xs context).behind total 0) engine := by
    rw [show (RunState.start xs context).behind total 0 = RunState.start (xs ++ ys) context from rfl]
    rfl
  obtain ⟨h1, h2, h3⟩ : longer.1 = first.1.behind total 0 ∧ longer.2.1 = first.2.1 ∧
      Event.calls longer.2.2 = Event.calls first.2.2 :=
    runSteps_behind total 0 xs (.start xs context) engine
  rcases runSteps_ends xs (RunState.start xs context) engine with hfailed | hend
  · left
    have hstatus : longer.1.status = .failed := by rw [h1]; exact hfailed
    rw [hwhole, runSteps_append_of_failed ys hstatus]
    exact ⟨hfailed, h1.trans (RunState.behind_zero total first.1), h2, h3⟩
  · right
    have hcompleted : first.1.status = .completed := congrArg RunState.status hend
    have hstatus : longer.1.status = .completed := by rw [h1]; exact hcompleted
    -- What `xs` leave is where `ys` begin, behind `xs`.
    have hnext : longer.1 = ((RunState.start ys first.1.context).behind total xs.length).complete := by
      rw [h1, show first.1 = _ from hend]
      simp only [RunState.behind, RunState.complete, RunState.start, Option.map_none, Nat.zero_add, Nat.add_zero]
    obtain ⟨g1, g2, g3⟩ : _ ∧ _ ∧ _ :=
      runSteps_behind total xs.length ys (.start ys first.1.context) first.2.1
    rw [hwhole, runSteps_append_of_completed ys hstatus]
    simp only [hlonger, hnext, runSteps_complete, h2, Event.calls_append, h3]
    exact ⟨hcompleted, g1, g2, congrArg _ g3⟩

end

end Workflows
