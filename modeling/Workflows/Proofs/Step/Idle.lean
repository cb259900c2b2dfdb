/-
Idle steps: triggers, steps of a type that nobody knows and steps without the parameter that they need.
An idle step plans no call. Of the others a step that takes a turn of the rotation asks the provider whose
turn it is, and the rest do the same whosever turn it is.
-/
import Workflows.Proofs.Results
import Workflows.Run.Call

namespace Workflows.Step

/-- A step that is passed over: a trigger, one of no known kind, or one without the parameter it needs. -/
def isIdle (step : Step) : Bool :=
  match step.kind? with
  | none | some .trigger => true
  | some .llm | some .image => (Object.getOrNull step.params "prompt").isUnset
  | some .code => (Object.getOrNull step.params "code").isUnset
  | some .httpRequest => (Object.getOrNull step.params "url").isUnset
  | some .delay => false

/-- Steps without the idle ones. -/
def active (steps : List Step) : List Step := steps.filter fun step => !step.isIdle

/-- How many turns were taken for nothing, after a step. -/
def idleTurns (step : Step) (idle : Nat) : Nat := if step.isIdle && step.takesTurn then idle + 1 else idle

variable {step : Step} {usualDelay : Int} {context : Context}

theorem active_cons_of_idle (h : step.isIdle = true) (steps : List Step) : active (step :: steps) = active steps :=
  List.filter_cons_of_neg (by simp [h])

theorem active_cons_of_active (h : step.isIdle = false) (steps : List Step) :
    active (step :: steps) = step :: active steps :=
  List.filter_cons_of_pos (by simp [h])

theorem idleTurns_of_active (h : step.isIdle = false) (idle : Nat) : step.idleTurns idle = idle := by
  simp [idleTurns, h]

/-! ## Plans -/

theorem plan_of_idle (h : step.isIdle = true) (seat : Nat) : (step.plan usualDelay seat context).1 = .ok none := by
  unfold isIdle at h
  unfold plan
  cases hkind : step.kind? with
  | none => rfl
  | some kind => cases kind <;> simp_all [requiring]

theorem kind_of_takesTurn (h : step.takesTurn = true) : step.kind? = some .llm := by
  simpa [takesTurn] using h

/-- A step that takes a turn and is not idle asks the provider in the seat whose turn it is. -/
theorem plan_of_takesTurn (hturn : step.takesTurn = true) (hactive : step.isIdle = false) :
    ∃ prompt, ∀ seat, step.plan usualDelay seat context = (.ok (some (.chat seat prompt)), []) := by
  have hkind := kind_of_takesTurn hturn
  simp only [isIdle, hkind] at hactive
  refine ⟨resolved context (Object.getOrNull step.params "prompt"), fun seat => ?_⟩
  simp only [plan, hkind, requiring, hactive, Bool.false_eq_true, if_false, Except.map]

/-- The plan of a step that takes no turn does not depend on whose turn it is. -/
theorem plan_of_takesNoTurn (h : step.takesTurn = false) (seat other : Nat) :
    step.plan usualDelay seat context = step.plan usualDelay other context := by
  unfold takesTurn at h
  unfold plan
  cases hkind : step.kind? with
  | none => rfl
  | some kind => cases kind <;> simp_all

theorem call_of_requiring {param : String} {plan : Value → Except Fault Call} {call : Call}
    (h : (step.requiring param plan).1 = .ok (some call)) :
    plan (Object.getOrNull step.params param) = .ok call := by
  unfold requiring at h
  dsimp only at h
  split at h
  · cases h
  · obtain ⟨call, hplan, heq⟩ := map_eq_ok.1 h
    rw [hplan, Option.some.inj heq]

/-- A step that takes no turn plans no chat. -/
theorem call_of_takesNoTurn (h : step.takesTurn = false) {seat : Nat} {call : Call}
    (hcall : (step.plan usualDelay seat context).1 = .ok (some call)) (other : Nat) (prompt : String) :
    call ≠ .chat other prompt := by
  rintro rfl
  unfold plan at hcall
  cases hkind : step.kind? with
  | none => simp [hkind] at hcall
  | some kind =>
    simp only [hkind] at hcall
    cases kind with
    | trigger => cases hcall
    | llm => simp [takesTurn, hkind] at h
    | image => cases call_of_requiring hcall
    | httpRequest =>
      obtain ⟨request, -, hrequest⟩ := map_eq_ok.1 (call_of_requiring hcall)
      cases hrequest
    | code => cases call_of_requiring hcall
    | delay =>
      obtain ⟨duration, -, hsleep⟩ := map_eq_ok.1 hcall
      cases hsleep

end Workflows.Step
