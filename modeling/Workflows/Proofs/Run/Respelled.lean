/-
Runs of entries in several spellings. What a run takes from a step is its id, its type, its name and the
parameters that are read, so steps that agree in these plan the same and do the same. A run of entries is seen
in how it ends, the engine it leaves, the calls it makes and the context after every step, and all of this is
the same in every spelling of the entries.
-/
import Workflows.Proofs.Run.Append
import Workflows.Proofs.Run.Step
import Workflows.Proofs.Step.Respelled
import Workflows.Proofs.Store.Saved
import Workflows.Run.Script

namespace Workflows

/-! ## Steps that are the same to a run -/

namespace Run

variable {params params' : Object}

theorem delayOf_congr (hseconds : Object.getOrNull params "seconds" = Object.getOrNull params' "seconds")
    (hms : Object.getOrNull params "ms" = Object.getOrNull params' "ms") (usual : Int) :
    (delayOf usual params).1 = (delayOf usual params').1 := by
  have hgiven : givenDelay params = givenDelay params' := by
    unfold givenDelay
    rw [hseconds, hms]
  unfold delayOf
  rw [hgiven]
  cases givenDelay params' with
  | ok given => rfl
  | error fault => cases hkind : fault.kind <;> simp only [hkind]

end Run

namespace Step

variable {one other : Step}

theorem getOrNull_of_view (h : one.view = other.view) :
    ∀ name ∈ readFields, Object.getOrNull one.params name = Object.getOrNull other.params name :=
  List.map_inj_left.1 (congrArg View.values h)

theorem type_of_view (h : one.view = other.view) : one.type = other.type := congrArg View.type h

theorem requiring_congr {param : String}
    (h : Object.getOrNull one.params param = Object.getOrNull other.params param) (plan : Value → Except Fault Call) :
    (one.requiring param plan).1 = (other.requiring param plan).1 := by
  unfold requiring
  rw [h]
  cases hunset : (Object.getOrNull other.params param).isUnset <;> simp [hunset]

theorem request_of_view (h : one.view = other.view) (context : Context) (url : Value) :
    one.request context url = other.request context url := by
  have hread := getOrNull_of_view h
  unfold request givenHeaders bodyTemplate
  rw [hread "method" (by decide), hread "headers" (by decide), hread "body" (by decide)]

/-- Steps that are the same to a run plan the same, whatever they give notice of. -/
theorem plan_of_view (h : one.view = other.view) (usualDelay : Int) (seat : Nat) (context : Context) :
    (one.plan usualDelay seat context).1 = (other.plan usualDelay seat context).1 := by
  have hread := getOrNull_of_view h
  have hkind : one.kind? = other.kind? := congrArg StepKind.ofText? (type_of_view h)
  unfold plan
  rw [hkind]
  cases other.kind? with
  | none => rfl
  | some kind =>
    cases kind with
    | trigger => rfl
    | llm => exact requiring_congr (hread "prompt" (by decide)) _
    | image => exact requiring_congr (hread "prompt" (by decide)) _
    | code => exact requiring_congr (hread "code" (by decide)) _
    | httpRequest =>
      simp only [request_of_view h]
      exact requiring_congr (hread "url" (by decide)) _
    | delay =>
      exact congrArg (Except.map fun duration => some (Call.sleep duration))
        (Run.delayOf_congr (hread "seconds" (by decide)) (hread "ms" (by decide)) usualDelay)

theorem takesTurn_of_view (h : one.view = other.view) : one.takesTurn = other.takesTurn := by
  unfold takesTurn kind?
  rw [type_of_view h]

end Step

/-! ## What is seen of a run -/

namespace Event

/-- The contexts after steps among some events, in order. -/
def contexts (events : List Event) : List Context := (events.filterMap after?).map (·.2)

@[simp] theorem contexts_append (as bs : List Event) : contexts (as ++ bs) = contexts as ++ contexts bs := by
  rw [contexts, List.filterMap_append, List.map_append]
  rfl

@[simp] theorem contexts_after (step : Step) (context : Context) (events : List Event) :
    contexts (.after step context :: events) = context :: contexts events := rfl

@[simp] theorem contexts_notice (notice : Notice) (events : List Event) :
    contexts (.notice notice :: events) = contexts events := rfl

@[simp] theorem contexts_call (call : Call) (events : List Event) :
    contexts (.call call :: events) = contexts events := rfl

@[simp] theorem contexts_nil : contexts [] = [] := rfl

@[simp] theorem contexts_notices (notices : List Notice) : contexts (notices.map .notice) = [] := by
  induction notices with
  | nil => rfl
  | cons notice notices ih => rw [List.map_cons, contexts_notice, ih]

end Event

/-- What is seen of a run or of a part of it: what it comes to, the engine it leaves, the calls it makes and the
context after every step. -/
structure Seen (α σ : Type) where
  result : α
  engine : Engine σ
  calls : List Call
  contexts : List Context

def seen {α σ : Type} (ran : α × Engine σ × List Event) : Seen α σ :=
  ⟨ran.1, ran.2.1, Event.calls ran.2.2, Event.contexts ran.2.2⟩

section

variable {σ : Type} (world : World σ) (usualDelay : Int)

theorem seen_runStep_of_view {one other : Step} (h : one.view = other.view) (context : Context) (engine : Engine σ) :
    seen (runStep world usualDelay one context engine) = seen (runStep world usualDelay other context engine) := by
  have hplan := Step.plan_of_view h usualDelay engine.rotation.cursor.val context
  have hafter : engine.rotation.after one = engine.rotation.after other := by
    rw [Rotation.after, Rotation.after, Step.takesTurn_of_view h]
  rcases hother : (other.plan usualDelay engine.rotation.cursor.val context).1 with fault | _ | call
  · rw [runStep_of_fault (hplan.trans hother), runStep_of_fault hother, hafter]
    simp [seen]
  · rw [runStep_of_none (hplan.trans hother), runStep_of_none hother, hafter]
    simp [seen]
  · rw [runStep_of_call (hplan.trans hother), runStep_of_call hother, hafter]
    simp [seen]

/-- Step by step, runs of steps that are the same to a run look the same. -/
theorem seen_runSteps_of_views {steps steps' : List Step} (h : steps.map Step.view = steps'.map Step.view)
    (state : RunState) (engine : Engine σ) :
    seen (runSteps world usualDelay steps state engine) = seen (runSteps world usualDelay steps' state engine) := by
  induction steps generalizing steps' state engine with
  | nil =>
    rw [List.map_eq_nil_iff.1 h.symm]
  | cons step steps ih =>
    cases steps' with
    | nil => cases h
    | cons step' steps' =>
      obtain ⟨hview, hviews⟩ := List.cons.inj h
      have hstep := seen_runStep_of_view world usualDelay hview state.context engine
      rcases hone : runStep world usualDelay step state.context engine with ⟨result, left, events⟩
      rcases hother : runStep world usualDelay step' state.context engine with ⟨result', left', events'⟩
      rw [hone, hother] at hstep
      simp only [seen, Seen.mk.injEq] at hstep
      obtain ⟨rfl, rfl, hcalls, hcontexts⟩ := hstep
      cases result with
      | error fault =>
        rw [runSteps_error hone, runSteps_error hother]
        simp [seen, RunState.fail, Step.type_of_view hview, hcalls, hcontexts]
      | ok context =>
        have hrest := ih hviews (state.advance.proceed context) left
        rw [runSteps_ok hone, runSteps_ok hother]
        simp only [seen, Seen.mk.injEq] at hrest
        simp [seen, hrest, hcalls, hcontexts]

theorem seen_runFrom_of_views {steps steps' : List Step} (h : steps.map Step.view = steps'.map Step.view)
    (context : Context) (engine : Engine σ) :
    seen (runFrom world usualDelay steps context engine) = seen (runFrom world usualDelay steps' context engine) := by
  have hlength : steps.length = steps'.length := by simpa using congrArg List.length h
  unfold runFrom RunState.start
  rw [hlength]
  exact seen_runSteps_of_views world usualDelay h _ engine

/-- A run of entries is seen as the run of the steps that are read from them. -/
theorem seen_run (raw input : Value) (engine : Engine σ) : seen (run world usualDelay raw input engine) =
    match (Step.read raw).1.map fun steps => seen (runFrom world usualDelay steps (Context.ofValue input) engine) with
    | .error fault => ⟨.error fault, engine, [], []⟩
    | .ok ran => ⟨.ok ran.result, ran.engine, ran.calls, ran.contexts⟩ := by
  cases h : (Step.read raw).1 with
  | error fault => simp [run, h, seen, Except.map]
  | ok steps => simp [run, h, seen, Except.map, runParsed]

/-! ## Entries in several spellings -/

theorem seen_read_of_respelled {entries entries' : List Value} (h : List.Forall₂ Step.RespellsItem entries entries')
    (context : Context) (engine : Engine σ) :
    ((Step.read (.list entries)).1.map fun steps => seen (runFrom world usualDelay steps context engine)) =
      (Step.read (.list entries')).1.map fun steps => seen (runFrom world usualDelay steps context engine) := by
  have hviews := Step.views_readEntries h
  rw [Step.read_list, Step.read_list]
  cases hone : (Step.readEntries entries).1 with
  | error fault =>
    cases hother : (Step.readEntries entries').1 with
    | error fault' =>
      rw [hone, hother] at hviews
      cases hviews
      rfl
    | ok steps' =>
      rw [hone, hother] at hviews
      cases hviews
  | ok steps =>
    cases hother : (Step.readEntries entries').1 with
    | error fault' =>
      rw [hone, hother] at hviews
      cases hviews
    | ok steps' =>
      rw [hone, hother] at hviews
      have hsteps : steps.map Step.view = steps'.map Step.view := Except.ok.inj hviews
      exact congrArg Except.ok (seen_runFrom_of_views world usualDelay hsteps context engine)

/-- Entries run alike in all of their spellings, on any input and from any context: the runs end in the same state,
with the same failure if they fail, they leave the same engine, and they make the same calls and have the same context
after every step. -/
theorem spellings_run_alike {entries entries' : List Value} (h : List.Forall₂ Step.RespellsItem entries entries')
    (engine : Engine σ) :
    (∀ input, seen (run world usualDelay (.list entries) input engine) =
      seen (run world usualDelay (.list entries') input engine)) ∧
    ∀ context, ((Step.read (.list entries)).1.map fun steps => seen (runFrom world usualDelay steps context engine)) =
      (Step.read (.list entries')).1.map fun steps => seen (runFrom world usualDelay steps context engine) := by
  constructor
  · intro input
    rw [seen_run, seen_run, seen_read_of_respelled world usualDelay h]
  · exact fun context => seen_read_of_respelled world usualDelay h context engine

end

/-- An entry of a type with some members behind it. -/
def entryOf (type : String) (members : Object) : Object := ("type", .text type) :: members

section

variable (type : String) (v : Value)

theorem respells_type {kind : StepKind} {type' : String} (h : kind.Names type) (h' : kind.Names type')
    (members : Object) : Step.Respells (entryOf type members) (entryOf type' members) := by
  have hparams : Step.ownParams? (entryOf type members) = Step.ownParams? (entryOf type' members) := by
    simp [Step.ownParams?, Object.getOrNull, Object.get?, entryOf]
  refine .type kind type type' rfl rfl h h' ⟨congrArg Option.isSome hparams, ?_⟩
  rintro ⟨place, name⟩ hslot -
  cases place with
  | own => simp only [Step.Slot.get?, hparams]
  | beside =>
    have hname : "type" ≠ name := by simpa [eq_comm] using hslot
    simp [Step.Slot.get?, Object.get?, entryOf, hname]

theorem respells_move :
    Step.Respells (entryOf type [("params", .object [("code", v)])]) (entryOf type [("code", v)]) := by
  refine .move "code" v (by decide) ⟨rfl, ?_⟩ ⟨rfl, ?_⟩ ⟨rfl, ?_⟩
  · intro name hname place hne
    cases List.mem_singleton.1 hname
    cases place with
    | own => exact absurd rfl hne
    | beside => rfl
  · intro name hname place hne
    cases List.mem_singleton.1 hname
    cases place with
    | own => rfl
    | beside => exact absurd rfl hne
  · rintro ⟨place, name⟩ hslot hparams
    have hname : "code" ≠ name := by cases place <;> simpa [eq_comm] using hslot
    cases place with
    | own => simp [Step.Slot.get?, Step.ownParams?, Object.getOrNull, Object.get?, entryOf, hname]
    | beside =>
      have hown : "params" ≠ name := by simpa [eq_comm] using hparams
      simp [Step.Slot.get?, Object.get?, List.find?_cons, entryOf, hname, hown]

end

/-- A code step with its code among its parameters. -/
def codeEntry : Object := entryOf "code" [("params", .object [("code", .text "1")])]

/-- The same step with its type in other letters, and its code beside the type and under an older name. -/
def flatEntry : Object := entryOf " Code" [("jsCode", .text "1")]

theorem respells_flatEntry : Relation.EqvGen Step.Respells codeEntry flatEntry := by
  have hcode : StepKind.code.Names "code" :=
    ⟨[], "code".toList, [], rfl, by simp, by simp, "code", by decide, by decide⟩
  have hblank : StepKind.code.Names " Code" :=
    ⟨[' '], "Code".toList, [], rfl, by decide, by simp, "code", by decide, by decide⟩
  have htype : Step.Respells codeEntry (entryOf " Code" [("params", .object [("code", .text "1")])]) :=
    respells_type "code" hcode hblank _
  have hrename : Step.Respells (entryOf " Code" [("code", .text "1")]) flatEntry := by
    refine .rename ("code", ["code", "jsCode", "pythonCode", "functionCode"]) .beside "jsCode" (.text "1") (by decide)
      (by decide) rfl (by decide +kernel) (by decide +kernel) ⟨rfl, ?_⟩
    rintro ⟨place, name⟩ hslot -
    cases place with
    | own => rfl
    | beside =>
      have hname : "code" ≠ name ∧ "jsCode" ≠ name := by simpa [eq_comm] using hslot
      simp [Step.Slot.get?, Object.get?, List.find?_cons, flatEntry, entryOf, hname]
  exact .trans _ _ _ (.trans _ _ _ (.rel _ _ htype) (.rel _ _ (respells_move _ _))) (.rel _ _ hrename)

/-- A fragment that gives back what it is given. -/
def echoingEngine : Engine Script where
  rotation := ⟨1, ⟨0, Nat.one_pos⟩⟩
  outside := ⟨[{}], {}, [], [.echoes]⟩

theorem flatEntry_runs_alike : List.Forall₂ Step.RespellsItem [.object codeEntry] [.object flatEntry] ∧
    (∀ input, seen (run Script.world 5 (.list [.object codeEntry]) input echoingEngine) =
      seen (run Script.world 5 (.list [.object flatEntry]) input echoingEngine)) ∧
    (seen (run Script.world 5 (.list [.object flatEntry]) (.text "hi") echoingEngine)).calls =
      [.code "1" (.object [("input", .text "hi")])] := by
  have hrespells : List.Forall₂ Step.RespellsItem [.object codeEntry] [.object flatEntry] :=
    .cons (.object respells_flatEntry) .nil
  exact ⟨hrespells, (spellings_run_alike Script.world 5 hrespells echoingEngine).1, by decide +kernel⟩

end Workflows
