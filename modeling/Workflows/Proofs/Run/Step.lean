/-
What one step does: its plan fails, or it plans nothing, or it makes the one call that it plans. In each
case the rotation passes on if the step takes a turn, and nothing else happens to the engine but what the
call does outside. A run of entries is the run of the steps that are read from them.
-/
import Mathlib.Tactic
import Workflows.Run.Machine

namespace Workflows

/-! ## One step -/

section

variable {σ : Type} {world : World σ} {usualDelay : Int} {step : Step} {context : Context} {engine : Engine σ}

theorem runStep_of_fault {fault : Fault}
    (h : (step.plan usualDelay engine.rotation.cursor.val context).1 = .error fault) :
    runStep world usualDelay step context engine =
      (.error fault, ⟨engine.rotation.after step, engine.outside⟩,
        (step.plan usualDelay engine.rotation.cursor.val context).2.map .notice) := by
  simp only [runStep, h, Rotation.after]

theorem runStep_of_none (h : (step.plan usualDelay engine.rotation.cursor.val context).1 = .ok none) :
    runStep world usualDelay step context engine =
      (.ok context, ⟨engine.rotation.after step, engine.outside⟩,
        (step.plan usualDelay engine.rotation.cursor.val context).2.map .notice) := by
  simp only [runStep, h, Rotation.after]

theorem runStep_of_call {call : Call}
    (h : (step.plan usualDelay engine.rotation.cursor.val context).1 = .ok (some call)) :
    runStep world usualDelay step context engine =
      ((world.perform call context engine.outside).1,
        ⟨engine.rotation.after step, (world.perform call context engine.outside).2⟩,
        (step.plan usualDelay engine.rotation.cursor.val context).2.map .notice ++ [.call call]) := by
  simp only [runStep, h, Rotation.after]

/-- The three ways of a step, with the context that each of them gives. -/
theorem runStep_cases (world : World σ) (usualDelay : Int) (step : Step) (context : Context) (engine : Engine σ) :
    (∃ fault, (runStep world usualDelay step context engine).1 = .error fault) ∨
      (runStep world usualDelay step context engine).1 = .ok context ∨
      ∃ call, (runStep world usualDelay step context engine).1 =
        (world.perform call context engine.outside).1 := by
  rcases h : (step.plan usualDelay engine.rotation.cursor.val context).1 with fault | _ | call
  · rw [runStep_of_fault h]
    exact .inl ⟨fault, rfl⟩
  · rw [runStep_of_none h]
    exact .inr (.inl rfl)
  · rw [runStep_of_call h]
    exact .inr (.inr ⟨call, rfl⟩)

/-- What is told and asked during a step is no context. -/
theorem after_not_mem_runStep {other : Step} {next : Context} :
    Event.after other next ∉ (runStep world usualDelay step context engine).2.2 := by
  rcases h : (step.plan usualDelay engine.rotation.cursor.val context).1 with fault | _ | call
  · simp [runStep_of_fault h]
  · simp [runStep_of_none h]
  · simp [runStep_of_call h]

/-! ## Runs of entries -/

/-- A run of entries is the run of their steps, behind the notices of reading them. -/
theorem run_of_read (world : World σ) (usualDelay : Int) (input : Value) (engine : Engine σ) {raw : Value}
    {steps : List Step} (h : (Step.read raw).1 = .ok steps) :
    ∃ notices : List Notice, run world usualDelay raw input engine =
      let final := runParsed world usualDelay steps input engine
      (.ok final.1, final.2.1, notices.map .notice ++ final.2.2) := by
  refine ⟨(Step.read raw).2, ?_⟩
  simp only [run, h]

end

end Workflows
