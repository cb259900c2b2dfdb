/-
Runs without their idle steps. An idle step makes no call and keeps the context, but one of a chat takes
its turn of the rotation all the same. So a run without its idle steps asks the same, ends the same and
leaves the same turn exactly if, at each chat and at the end, the turns that were taken for nothing make up
whole rounds of the rotation.
-/
import Workflows.Proofs.Run.Append
import Workflows.Proofs.Run.Rotation
import Workflows.Proofs.Run.Step
import Workflows.Proofs.Step.Idle
import Workflows.Run.Script

namespace Workflows

/-! ## What comes of a run -/

/-- What comes of a run: how it ends, the context and the cause of the failure it ends with, what it asks,
and whose turn it is afterwards. -/
structure Outcome where
  status : RunStatus
  context : Context
  cause : Option Fault
  calls : List Call
  turn : Nat
deriving DecidableEq

namespace Outcome

/-- An outcome behind some calls. -/
def behind (calls : List Call) (outcome : Outcome) : Outcome := { outcome with calls := calls ++ outcome.calls }

theorem behind_nil (outcome : Outcome) : outcome.behind [] = outcome := rfl

theorem behind_inj {calls : List Call} {one other : Outcome} :
    one.behind calls = other.behind calls ↔ one = other := by
  obtain ⟨status, context, cause, more, turn⟩ := one
  obtain ⟨status', context', cause', more', turn'⟩ := other
  simp [behind]

end Outcome

section

variable {σ : Type}

/-- The outcome of a run. -/
def outcomeOf (ran : RunState × Engine σ × List Event) : Outcome :=
  ⟨ran.1.status, ran.1.context, ran.1.failure.map (·.cause), Event.calls ran.2.2, ran.2.1.rotation.cursor.val⟩

theorem calls_outcomeOf (ran : RunState × Engine σ × List Event) : (outcomeOf ran).calls = Event.calls ran.2.2 :=
  rfl

theorem outcomeOf_after (state : RunState) (engine : Engine σ) (events more : List Event) (step : Step)
    (context : Context) :
    outcomeOf (state, engine, events ++ .after step context :: more) =
      (outcomeOf (state, engine, more)).behind (Event.calls events) := by
  simp only [outcomeOf, Outcome.behind, Event.calls_append, Event.calls_after]

end

/-! ## Whole rounds -/

/-- At each chat among some events and at their end, the turns that idle steps have taken are whole rounds of
the seats; so many such turns came before the events. -/
def WholeRounds (seats : Nat) : Nat → List Event → Prop
  | idle, [] => seats ∣ idle
  | idle, .call (.chat _ _) :: events => seats ∣ idle ∧ WholeRounds seats idle events
  | idle, .after step _ :: events => WholeRounds seats (step.idleTurns idle) events
  | idle, _ :: events => WholeRounds seats idle events

section

variable {seats idle : Nat}

theorem wholeRounds_notices (notices : List Notice) (events : List Event) :
    WholeRounds seats idle (notices.map .notice ++ events) ↔ WholeRounds seats idle events := by
  induction notices with
  | nil => rfl
  | cons notice notices ih => exact ih

theorem wholeRounds_notice (notice : Notice) : WholeRounds seats idle [.notice notice] ↔ seats ∣ idle :=
  wholeRounds_notices [notice] []

theorem wholeRounds_chat (seat : Nat) (prompt : String) (events : List Event) :
    WholeRounds seats idle ([.call (.chat seat prompt)] ++ events) ↔
      seats ∣ idle ∧ WholeRounds seats idle events := by
  rw [List.singleton_append, WholeRounds]

theorem wholeRounds_after (step : Step) (context : Context) (events : List Event) :
    WholeRounds seats idle (.after step context :: events) ↔ WholeRounds seats (step.idleTurns idle) events := by
  rw [WholeRounds]

/-- Events that tell of no idle chat keep whole rounds. -/
theorem wholeRounds_of_dvd {events : List Event} (hdvd : seats ∣ idle)
    (h : ∀ step context, .after step context ∈ events → step.isIdle = true → step.takesTurn = false) :
    WholeRounds seats idle events := by
  induction events with
  | nil => exact hdvd
  | cons event events ih =>
    have hrest : WholeRounds seats idle events :=
      ih fun step context hmem => h step context (List.mem_cons_of_mem _ hmem)
    cases event with
    | notice notice => exact hrest
    | call call =>
      cases call with
      | chat seat prompt => exact ⟨hdvd, hrest⟩
      | image prompt => exact hrest
      | http request => exact hrest
      | code source input => exact hrest
      | sleep duration => exact hrest
    | after step context =>
      have hturns : step.idleTurns idle = idle := by
        cases hidle : step.isIdle with
        | false => exact Step.idleTurns_of_active hidle idle
        | true => simp [Step.idleTurns, h step context List.mem_cons_self hidle]
      rw [wholeRounds_after, hturns]
      exact hrest

end

section

variable {σ : Type} {world : World σ} {usualDelay : Int} {step : Step} {context : Context}

/-! ## One step at another turn -/

/-- An engine after a number of turns that nobody has used. -/
def Engine.turned (turns : Nat) (engine : Engine σ) : Engine σ :=
  ⟨Rotation.advance^[turns] engine.rotation, engine.outside⟩

theorem Engine.turned_of_dvd {turns : Nat} {engine : Engine σ} (h : engine.rotation.seats ∣ turns) :
    engine.turned turns = engine := by
  unfold turned
  rw [Rotation.turned_of_dvd h]

variable (world usualDelay) in
/-- An idle step comes to nothing but its turn. -/
theorem runStep_of_idle (h : step.isIdle = true) (context : Context) (engine : Engine σ) (idle : Nat) :
    ∃ notices : List Notice, runStep world usualDelay step context (engine.turned idle) =
      (.ok context, engine.turned (step.idleTurns idle), notices.map .notice) := by
  refine ⟨(step.plan usualDelay (engine.turned idle).rotation.cursor.val context).2,
    (runStep_of_none (Step.plan_of_idle h _)).trans ?_⟩
  by_cases hturn : step.takesTurn = true
  · simp only [Rotation.after, Engine.turned, Step.idleTurns, h, hturn, Bool.and_self, if_true,
      Function.iterate_succ_apply']
  · simp only [Rotation.after, Engine.turned, Step.idleTurns, hturn, Bool.and_false, Bool.false_eq_true, if_false]

variable (world usualDelay) in
/-- A step that takes its turn and is not idle asks the provider whose turn it is. -/
theorem runStep_of_chat (hturn : step.takesTurn = true) (hactive : step.isIdle = false) (context : Context) :
    ∃ prompt, ∀ engine : Engine σ, ∃ result outside, runStep world usualDelay step context engine =
      (result, ⟨engine.rotation.advance, outside⟩, [.call (.chat engine.rotation.cursor.val prompt)]) := by
  obtain ⟨prompt, hplan⟩ :
      ∃ prompt, ∀ seat, step.plan usualDelay seat context = (.ok (some (.chat seat prompt)), []) :=
    Step.plan_of_takesTurn hturn hactive
  refine ⟨prompt, fun engine => ?_⟩
  have hcall := hplan engine.rotation.cursor.val
  let reply := world.perform (.chat engine.rotation.cursor.val prompt) context engine.outside
  refine ⟨reply.1, reply.2, ?_⟩
  rw [runStep_of_call (congrArg Prod.fst hcall), hcall, Rotation.after, if_pos hturn]
  rfl

/-- A step that takes no turn does the same whosever turn it is. -/
theorem runStep_of_takesNoTurn (h : step.takesTurn = false) {engine engine' : Engine σ}
    {result : Except Fault Context} {events : List Event}
    (hstep : runStep world usualDelay step context engine = (result, engine', events)) (turns : Nat) :
    runStep world usualDelay step context (engine.turned turns) = (result, engine'.turned turns, events) ∧
      engine'.rotation = engine.rotation := by
  have hplan : step.plan usualDelay (engine.turned turns).rotation.cursor.val context =
      step.plan usualDelay engine.rotation.cursor.val context := Step.plan_of_takesNoTurn h _ _
  rcases hp : (step.plan usualDelay engine.rotation.cursor.val context).1 with fault | _ | call
  · rw [runStep_of_fault hp, Rotation.after, h] at hstep
    cases hstep
    rw [runStep_of_fault (by rw [hplan, hp]), hplan, Rotation.after, h]
    exact ⟨rfl, rfl⟩
  · rw [runStep_of_none hp, Rotation.after, h] at hstep
    cases hstep
    rw [runStep_of_none (by rw [hplan, hp]), hplan, Rotation.after, h]
    exact ⟨rfl, rfl⟩
  · rw [runStep_of_call hp, Rotation.after, h] at hstep
    cases hstep
    rw [runStep_of_call (by rw [hplan, hp]), hplan, Rotation.after, h]
    exact ⟨rfl, rfl⟩

/-- A step that takes no turn makes no chat, so what comes after it decides on the rounds. -/
theorem wholeRounds_of_takesNoTurn (h : step.takesTurn = false) {engine engine' : Engine σ}
    {result : Except Fault Context} {events : List Event}
    (hstep : runStep world usualDelay step context engine = (result, engine', events)) (seats idle : Nat)
    (more : List Event) : WholeRounds seats idle (events ++ more) ↔ WholeRounds seats idle more := by
  rcases hplan : (step.plan usualDelay engine.rotation.cursor.val context).1 with fault | _ | call
  · rw [runStep_of_fault hplan, Rotation.after, h] at hstep
    cases hstep
    exact wholeRounds_notices _ _
  · rw [runStep_of_none hplan, Rotation.after, h] at hstep
    cases hstep
    exact wholeRounds_notices _ _
  · rw [runStep_of_call hplan, Rotation.after, h] at hstep
    cases hstep
    rw [List.append_assoc, wholeRounds_notices]
    have hchat := Step.call_of_takesNoTurn h hplan
    cases call with
    | chat seat prompt => exact absurd rfl (hchat seat prompt)
    | image prompt => rfl
    | http request => rfl
    | code source input => rfl
    | sleep duration => rfl

/-- A run that begins with a chat asks the provider whose turn it is. -/
theorem runSteps_of_chat {prompt : String} {context : Context}
    (hchat : ∀ engine : Engine σ, ∃ result outside, runStep world usualDelay step context engine =
      (result, ⟨engine.rotation.advance, outside⟩, [.call (.chat engine.rotation.cursor.val prompt)]))
    (steps : List Step) {state : RunState} (hcontext : state.context = context) (engine : Engine σ) :
    ∃ more, (runSteps world usualDelay (step :: steps) state engine).2.2 =
      [.call (.chat engine.rotation.cursor.val prompt)] ++ more := by
  subst hcontext
  obtain ⟨fault | next, outside, hstep⟩ := hchat engine
  · rw [runSteps_error hstep]
    exact ⟨_, rfl⟩
  · rw [runSteps_ok hstep]
    exact ⟨_, rfl⟩

theorem Event.seat_eq_of_calls_eq {seat other : Nat} {prompt : String} {rest more : List Event}
    (h : calls ([.call (.chat seat prompt)] ++ rest) = calls ([.call (.chat other prompt)] ++ more)) :
    seat = other := by
  injection h with hhead
  injection hhead

/-! ## Runs without idle steps -/

/-- Two runs that ended alike have the same outcome if and only if they left the same turn. -/
theorem outcomeOf_turned_eq_iff (few whole : RunState) {asked told : List Event}
    (hstatus : few.status = whole.status) (hcontext : few.context = whole.context)
    (hcause : few.failure.map (·.cause) = whole.failure.map (·.cause))
    (hcalls : Event.calls asked = Event.calls told) (engine : Engine σ) (turns : Nat) :
    outcomeOf (few, engine, asked) = outcomeOf (whole, engine.turned turns, told) ↔
      engine.rotation.seats ∣ turns := by
  rw [← Rotation.cursor_turned_eq_iff]
  simp only [outcomeOf, Outcome.mk.injEq, hstatus, hcontext, hcause, hcalls, true_and, Engine.turned]
  exact eq_comm

variable (world usualDelay) in
/-- Behind turns that were taken for nothing, a run of some steps comes to the same as a run of those that are
not idle, from states that agree, if and only if all such turns make up whole rounds. -/
def SameIffRounds (steps : List Step) : Prop :=
  ∀ (few whole : RunState) (engine : Engine σ) (idle : Nat), few.context = whole.context →
    few.failure.map (·.cause) = whole.failure.map (·.cause) →
    (outcomeOf (runSteps world usualDelay (Step.active steps) few engine) =
        outcomeOf (runSteps world usualDelay steps whole (engine.turned idle)) ↔
      WholeRounds engine.rotation.seats idle (runSteps world usualDelay steps whole (engine.turned idle)).2.2)

namespace SameIffRounds

variable {steps : List Step}

theorem nil : SameIffRounds world usualDelay [] := by
  intro few whole engine idle hcontext hcause
  simp only [Step.active, List.filter_nil, runSteps, WholeRounds]
  exact outcomeOf_turned_eq_iff few.complete whole.complete rfl hcontext hcause rfl engine idle

/-- An idle step comes to nothing, but its turn counts among those taken for nothing. -/
theorem cons_of_idle (h : step.isIdle = true) (ih : SameIffRounds world usualDelay steps) :
    SameIffRounds world usualDelay (step :: steps) := by
  intro few whole engine idle hcontext hcause
  obtain ⟨notices, hstep⟩ := runStep_of_idle world usualDelay h whole.context engine idle
  rw [Step.active_cons_of_idle h, runSteps_ok hstep, outcomeOf_after, Event.calls_notices, Outcome.behind_nil,
    wholeRounds_notices, wholeRounds_after]
  exact ih few (whole.advance.proceed whole.context) engine _ hcontext hcause

/-- A step that takes no turn does the same in both runs. -/
theorem cons_of_takesNoTurn (hactive : step.isIdle = false) (hturn : step.takesTurn = false)
    (ih : SameIffRounds world usualDelay steps) : SameIffRounds world usualDelay (step :: steps) := by
  intro few whole engine idle hcontext hcause
  rw [Step.active_cons_of_active hactive]
  rcases hfew : runStep world usualDelay step few.context engine with ⟨fault | next, engine', events⟩
  · obtain ⟨hwhole, hrotation⟩ := runStep_of_takesNoTurn hturn hfew idle
    rw [hcontext] at hwhole
    rw [runSteps_error hfew, runSteps_error hwhole, wholeRounds_of_takesNoTurn hturn hfew, wholeRounds_notice,
      ← hrotation]
    refine outcomeOf_turned_eq_iff _ _ ?_ ?_ ?_ ?_ engine' idle
    · rfl
    · exact hcontext
    · rfl
    · simp only [Event.calls_append, Event.calls_notice]
  · obtain ⟨hwhole, hrotation⟩ := runStep_of_takesNoTurn hturn hfew idle
    rw [hcontext] at hwhole
    rw [runSteps_ok hfew, runSteps_ok hwhole, outcomeOf_after, outcomeOf_after, Outcome.behind_inj,
      wholeRounds_of_takesNoTurn hturn hfew, wholeRounds_after, Step.idleTurns_of_active hactive, ← hrotation]
    exact ih (few.advance.proceed next) (whole.advance.proceed next) engine' idle rfl hcause

/-- A chat asks the same provider in both runs if and only if there are whole rounds before it. -/
theorem cons_of_chat (hactive : step.isIdle = false) (hturn : step.takesTurn = true)
    (ih : SameIffRounds world usualDelay steps) : SameIffRounds world usualDelay (step :: steps) := by
  intro few whole engine idle hcontext hcause
  rw [Step.active_cons_of_active hactive]
  obtain ⟨prompt, hchat⟩ := runStep_of_chat world usualDelay hturn hactive few.context
  by_cases hdvd : engine.rotation.seats ∣ idle
  · -- The turns are whole rounds before the chat, and they still are behind it.
    obtain ⟨result, outside, hfew⟩ := hchat engine
    have hwhole := hfew
    rw [hcontext] at hwhole
    rw [Engine.turned_of_dvd hdvd]
    cases result with
    | error fault =>
      rw [runSteps_error hfew, runSteps_error hwhole, wholeRounds_chat, wholeRounds_notice, and_self,
        iff_true_right hdvd]
      simp only [outcomeOf, RunState.fail, RunState.advance, hcontext, Option.map_some, Event.calls_append,
        Event.calls_notice]
    | ok next =>
      have hrest := ih (few.advance.proceed next) (whole.advance.proceed next)
        ⟨engine.rotation.advance, outside⟩ idle rfl hcause
      rw [Engine.turned_of_dvd (by exact hdvd)] at hrest
      rw [runSteps_ok hfew, runSteps_ok hwhole, outcomeOf_after, outcomeOf_after, Outcome.behind_inj, hrest,
        wholeRounds_chat, and_iff_right hdvd, wholeRounds_after, Step.idleTurns_of_active hactive]
      rfl
  · -- The calls differ already in the provider that this chat asks.
    have hcursor : engine.rotation.cursor.val ≠ (engine.turned idle).rotation.cursor.val :=
      fun h => hdvd ((Rotation.cursor_turned_eq_iff _ _).1 h.symm)
    obtain ⟨rest, hrest⟩ := runSteps_of_chat hchat (Step.active steps) rfl engine
    obtain ⟨more, hmore⟩ := runSteps_of_chat hchat steps hcontext.symm (engine.turned idle)
    rw [hmore, wholeRounds_chat]
    refine iff_of_false (fun heq => hcursor ?_) fun h => hdvd h.1
    have hcalls : Event.calls ([.call (.chat engine.rotation.cursor.val prompt)] ++ rest) =
        Event.calls ([.call (.chat (engine.turned idle).rotation.cursor.val prompt)] ++ more) := by
      rw [← hrest, ← hmore, ← calls_outcomeOf, ← calls_outcomeOf, heq]
    exact Event.seat_eq_of_calls_eq hcalls

end SameIffRounds

variable (world usualDelay) in
theorem sameIffRounds (steps : List Step) : SameIffRounds world usualDelay steps := by
  induction steps with
  | nil => exact .nil
  | cons step steps ih =>
    cases hidle : step.isIdle with
    | true => exact .cons_of_idle hidle ih
    | false =>
      cases hturn : step.takesTurn with
      | false => exact .cons_of_takesNoTurn hidle hturn ih
      | true => exact .cons_of_chat hidle hturn ih

theorem mem_of_after_mem {other : Step} {next : Context} (steps : List Step) (state : RunState) (engine : Engine σ)
    (h : .after other next ∈ (runSteps world usualDelay steps state engine).2.2) : other ∈ steps := by
  induction steps generalizing state engine with
  | nil => simp [runSteps] at h
  | cons step steps ih =>
    have hquiet : .after other next ∉ (runStep world usualDelay step state.context engine).2.2 :=
      after_not_mem_runStep
    rcases hstep : runStep world usualDelay step state.context engine with ⟨fault | context, engine', events⟩
    · rw [hstep] at hquiet
      rw [runSteps_error hstep, List.mem_append] at h
      rcases h with h | h
      · exact absurd h hquiet
      · simp at h
    · rw [hstep] at hquiet
      rw [runSteps_ok hstep, List.mem_append, List.mem_cons] at h
      rcases h with h | h | h
      · exact absurd h hquiet
      · cases h
        exact List.mem_cons_self
      · exact List.mem_cons_of_mem _ (ih _ _ h)

/-- Idle steps that take no turn can be left out of any run. -/
theorem outcome_eq_of_idle_takesNoTurn (steps : List Step)
    (h : ∀ step ∈ steps, step.isIdle = true → step.takesTurn = false) (context : Context) (engine : Engine σ) :
    outcomeOf (runFrom world usualDelay (Step.active steps) context engine) =
      outcomeOf (runFrom world usualDelay steps context engine) := by
  have hiff := sameIffRounds world usualDelay steps (.start (Step.active steps) context) (.start steps context)
    engine 0 rfl rfl
  refine hiff.2 (wholeRounds_of_dvd (dvd_zero _) ?_)
  intro step next hmem hidle
  exact h step (mem_of_after_mem steps _ _ hmem) hidle

variable (world usualDelay) in
/-- Without its idle steps a run comes to the same if and only if the turns that they take are whole rounds at
each chat and at the end. -/
theorem idle_steps_vanish_iff (steps : List Step) (context : Context) (engine : Engine σ) :
    outcomeOf (runFrom world usualDelay (Step.active steps) context engine) =
        outcomeOf (runFrom world usualDelay steps context engine) ↔
      WholeRounds engine.rotation.seats 0 (runFrom world usualDelay steps context engine).2.2 :=
  sameIffRounds world usualDelay steps (.start (Step.active steps) context) (.start steps context) engine 0 rfl rfl

end

/-- A chat without its prompt, then one that has it. -/
def promptlessSteps : List Step :=
  [⟨"step_1", "llm", .text "LLM", []⟩, ⟨"step_2", "llm", .text "LLM", [("prompt", .text "hi")]⟩]

/-- Two chat providers, of which the first has its turn. -/
def pairEngine : Engine Script where
  rotation := ⟨2, ⟨0, Nat.two_pos⟩⟩
  outside := ⟨[{ name := "p1", fragments := [.text "a"] }, { name := "p2", fragments := [.text "b"] }], {}, [], []⟩

/-- The chat without its prompt sends the next one to the second provider. -/
theorem promptless_chat_moves_turn :
    let few := Step.active promptlessSteps
    let one := outcomeOf (runFrom Script.world 5 few (.ofValue .null) pairEngine)
    let other := outcomeOf (runFrom Script.world 5 promptlessSteps (.ofValue .null) pairEngine)
    few ≠ [] ∧ one.calls = [.chat 0 "hi"] ∧ other.calls = [.chat 1 "hi"] ∧ one.context = .text "a" ∧
      other.context = .text "b" ∧ one.turn = 1 ∧ other.turn = 0 ∧ one ≠ other := by
  decide +kernel

end Workflows
