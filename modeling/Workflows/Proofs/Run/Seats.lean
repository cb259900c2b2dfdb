/-
Chats of runs that share an engine go round its seats. Every chat step that begins is handed the seat whose
turn it is and passes the turn on, with a prompt or without, and nothing else that a run does moves the
rotation. So however the runs take their turns, and whichever of them fail, the seats are handed out one after
another and round again, and no seat is ever more than one step ahead of another.
-/
import Workflows.Proofs.Run.Pool
import Workflows.Proofs.Run.Rotation
import Workflows.Run.Script

namespace Workflows

/-! ## Seats that are asked -/

/-- The seat in which a call asks a chat provider. -/
def Call.seat? : Call → Option Nat
  | chat seat _ => some seat
  | _ => none

/-- The seat in which a chat provider is asked. -/
def Event.seat? (event : Event) : Option Nat := event.call?.bind Call.seat?

theorem Event.seats_notices (notices : List Notice) : (notices.map notice).filterMap seat? = [] := by
  induction notices with
  | nil => rfl
  | cons notice notices ih => exact ih

/-- A chat step that has its prompt asks in the seat that it is handed, and no other step asks in a seat. -/
theorem Step.seat_of_plan (step : Step) (usualDelay : Int) (seat : Nat) (context : Context) :
    (step.plan usualDelay seat context).1.toOption.join.bind Call.seat? =
      if step.takesTurn = true ∧ step.isIdle = false then some seat else none := by
  cases hidle : step.isIdle with
  | true =>
    rw [plan_of_idle hidle, if_neg (by simp)]
    rfl
  | false =>
    cases hturn : step.takesTurn with
    | true =>
      obtain ⟨prompt, hplan⟩ :
          ∃ prompt, ∀ seat, step.plan usualDelay seat context = (.ok (some (.chat seat prompt)), []) :=
        plan_of_takesTurn hturn hidle
      rw [hplan, if_pos ⟨rfl, rfl⟩]
      rfl
    | false =>
      rw [if_neg (by simp)]
      rcases hplan : (step.plan usualDelay seat context).1 with fault | _ | call
      · rfl
      · rfl
      · have hchat := call_of_takesNoTurn hturn hplan
        cases call with
        | chat other prompt => exact absurd rfl (hchat other prompt)
        | image prompt => rfl
        | http request => rfl
        | code source input => rfl
        | sleep duration => rfl

/-- The seats that runs ask, each with the run that asks, in order. -/
def askedSeats {ι : Type} (events : List (ι × Event)) : List (ι × Nat) :=
  events.filterMap fun (i, event) => event.seat?.map fun seat => (i, seat)

theorem askedSeats_of_run {ι : Type} (i : ι) (events : List Event) :
    askedSeats (events.map fun event => (i, event)) =
      (events.filterMap Event.seat?).map fun seat => (i, seat) := by
  rw [askedSeats, List.filterMap_map, List.map_filterMap]
  rfl

section

variable {σ : Type} {world : World σ} {usualDelay : Int}

/-! ## One turn of a run -/

namespace Task

variable {step : Step} {steps all : List Step} {state : RunState} {engine : Engine σ}

theorem turn_ready :
    (ready (step :: steps) state).turn world usualDelay engine = begin usualDelay step steps state.advance engine :=
  rfl

theorem turn_waiting {call : Call} :
    (waiting call step steps state).turn world usualDelay engine = receive world call step steps state engine :=
  rfl

variable (usualDelay) in
/-- A step that begins fails, or passes without a call, or makes the call that is planned. In each case the
rotation is that after the step, and nothing but notices comes before. -/
theorem begin_cases (step : Step) (steps : List Step) (state : RunState) (engine : Engine σ) :
    let planned := (step.plan usualDelay engine.rotation.cursor.val state.context).1
    let next : Engine σ := ⟨engine.rotation.after step, engine.outside⟩
    ∃ notices : List Notice,
      (∃ fault, planned = .error fault ∧
        begin usualDelay step steps state engine = failed step fault state next (notices.map .notice)) ∨
      (planned = .ok none ∧
        begin usualDelay step steps state engine =
          passed step state.context steps state next (notices.map .notice)) ∨
      ∃ call, planned = .ok (some call) ∧
        begin usualDelay step steps state engine =
          (.waiting call step steps state, next, notices.map .notice ++ [.call call]) := by
  refine ⟨(step.plan usualDelay engine.rotation.cursor.val state.context).2, ?_⟩
  rcases h : (step.plan usualDelay engine.rotation.cursor.val state.context).1 with fault | _ | call
  · exact .inl ⟨fault, rfl, by simp only [begin, h]⟩
  · exact .inr (.inl ⟨rfl, by simp only [begin, h]⟩)
  · exact .inr (.inr ⟨call, rfl, by simp only [begin, h]⟩)

variable (world) in
/-- A step whose reply is taken fails or passes, and the rotation is as it was. -/
theorem receive_cases (call : Call) (step : Step) (steps : List Step) (state : RunState) (engine : Engine σ) :
    ∃ outside, let next : Engine σ := ⟨engine.rotation, outside⟩
      (∃ fault, receive world call step steps state engine = failed step fault state next []) ∨
        ∃ context, receive world call step steps state engine = passed step context steps state next [] := by
  unfold receive
  rcases world.perform call state.context engine.outside with ⟨fault | context, outside⟩
  · exact ⟨outside, .inl ⟨fault, rfl⟩⟩
  · exact ⟨outside, .inr ⟨context, rfl⟩⟩

/-! ## Seats that a run is handed -/

/-- The chat step that a run begins in its next turn, if it begins one. -/
def nextChat? : Task → Option Step
  | ready (step :: _) _ => if step.takesTurn then some step else none
  | _ => none

theorem nextChat?_ready :
    (ready (step :: steps) state).nextChat? = if step.takesTurn then some step else none :=
  rfl

theorem rotation_begin (step : Step) (steps : List Step) (state : RunState) (engine : Engine σ) :
    (begin usualDelay step steps state engine).2.1.rotation = engine.rotation.after step := by
  obtain ⟨notices, ⟨fault, -, h⟩ | ⟨-, h⟩ | ⟨call, -, h⟩⟩ := begin_cases usualDelay step steps state engine
  · rw [h, failed]
  · rw [h, passed]
  · rw [h]

variable (world usualDelay) in
/-- The rotation moves on if a chat step begins, and only then. -/
theorem rotation_turn (task : Task) (engine : Engine σ) :
    (task.turn world usualDelay engine).2.1.rotation =
      Rotation.advance^[task.nextChat?.toList.length] engine.rotation := by
  cases task with
  | ended state => rfl
  | waiting call step steps state =>
    rw [turn_waiting]
    obtain ⟨outside, ⟨fault, h⟩ | ⟨context, h⟩⟩ := receive_cases world call step steps state engine
    · rw [h]; rfl
    · rw [h]; rfl
  | ready steps state =>
    cases steps with
    | nil => rfl
    | cons step steps =>
      rw [turn_ready, rotation_begin, nextChat?_ready, Rotation.after]
      by_cases hturn : step.takesTurn = true
      · rw [if_pos hturn, if_pos hturn]; rfl
      · rw [if_neg hturn, if_neg hturn]; rfl

theorem seats_begin (step : Step) (steps : List Step) (state : RunState) (engine : Engine σ) :
    (begin usualDelay step steps state engine).2.2.filterMap Event.seat? =
      if step.takesTurn = true ∧ step.isIdle = false then [engine.rotation.cursor.val] else [] := by
  have hseat := step.seat_of_plan usualDelay engine.rotation.cursor.val state.context
  have hasked : (begin usualDelay step steps state engine).2.2.filterMap Event.seat? =
      ((step.plan usualDelay engine.rotation.cursor.val state.context).1.toOption.join.bind
        Call.seat?).toList := by
    obtain ⟨notices, ⟨fault, hplan, h⟩ | ⟨hplan, h⟩ | ⟨call, hplan, h⟩⟩ :=
      begin_cases usualDelay step steps state engine
    · rw [h, hplan, failed, List.filterMap_append, Event.seats_notices]
      rfl
    · rw [h, hplan, passed, List.filterMap_append, Event.seats_notices]
      rfl
    · rw [h, hplan, List.filterMap_append, Event.seats_notices, List.nil_append]
      cases hcall : call.seat? <;> simp [Event.seat?, Event.call?, Except.toOption, hcall]
  rw [hasked, hseat]
  split <;> rfl

variable (world usualDelay) in
/-- A run asks in the seat that it is handed, if the chat step that begins is not idle. -/
theorem seats_turn_asks (task : Task) (engine : Engine σ) :
    (task.turn world usualDelay engine).2.2.filterMap Event.seat? =
      (task.nextChat?.toList.filter fun step => !step.isIdle).map fun _ => engine.rotation.cursor.val := by
  cases task with
  | ended state => rfl
  | waiting call step steps state =>
    rw [turn_waiting]
    obtain ⟨outside, ⟨fault, h⟩ | ⟨context, h⟩⟩ := receive_cases world call step steps state engine
    · rw [h]; rfl
    · rw [h]; rfl
  | ready steps state =>
    cases steps with
    | nil => rfl
    | cons step steps =>
      rw [turn_ready, seats_begin, nextChat?_ready]
      cases hturn : step.takesTurn <;> cases hidle : step.isIdle <;> simp [hidle]

/-! ## Steps that have begun -/

/-- The state that a run is in. -/
def runState : Task → RunState
  | ready _ state => state
  | waiting _ _ _ state => state
  | ended state => state

/-- A run of these steps has those before it that it has not begun, unless it has ended. -/
inductive StandsIn (all : List Step) : Task → Prop
  | ready {steps : List Step} {state : RunState} (h : steps = all.drop state.index) :
    StandsIn all (.ready steps state)
  | waiting {call : Call} {step : Step} {steps : List Step} {state : RunState} (h : steps = all.drop state.index) :
    StandsIn all (.waiting call step steps state)
  | ended (state : RunState) : StandsIn all (.ended state)

/-- The chat steps among those that a run of these steps has begun. -/
def begunChats (all : List Step) (task : Task) : List Step :=
  (all.take task.runState.index).filter Step.takesTurn

variable (usualDelay) in
theorem standsIn_begin (step : Step) (state : RunState) (h : steps = all.drop state.index) (engine : Engine σ) :
    StandsIn all (begin usualDelay step steps state engine).1 ∧
      (begin usualDelay step steps state engine).1.runState.index = state.index := by
  obtain ⟨notices, ⟨fault, -, hbegin⟩ | ⟨-, hbegin⟩ | ⟨call, -, hbegin⟩⟩ :=
    begin_cases usualDelay step steps state engine
  · rw [hbegin]; exact ⟨.ended _, rfl⟩
  · rw [hbegin]; exact ⟨.ready h, rfl⟩
  · rw [hbegin]; exact ⟨.waiting h, rfl⟩

variable (world) in
theorem standsIn_receive (call : Call) (step : Step) (h : steps = all.drop state.index) (engine : Engine σ) :
    StandsIn all (receive world call step steps state engine).1 ∧
      (receive world call step steps state engine).1.runState.index = state.index := by
  obtain ⟨outside, ⟨fault, hreceive⟩ | ⟨context, hreceive⟩⟩ := receive_cases world call step steps state engine
  · rw [hreceive]; exact ⟨.ended _, rfl⟩
  · rw [hreceive]; exact ⟨.ready h, rfl⟩

variable (world usualDelay) in
/-- A turn keeps the place of a run, and the one chat step that it adds to those begun is the next. -/
theorem standsIn_turn {task : Task} (h : task.StandsIn all) (engine : Engine σ) :
    StandsIn all (task.turn world usualDelay engine).1 ∧
      begunChats all (task.turn world usualDelay engine).1 = begunChats all task ++ task.nextChat?.toList := by
  cases h with
  | ended state => exact ⟨.ended _, (List.append_nil _).symm⟩
  | @waiting call step steps state h =>
    obtain ⟨hstands, hindex⟩ := standsIn_receive world call step h engine
    rw [turn_waiting]
    refine ⟨hstands, ?_⟩
    rw [begunChats, hindex]
    exact (List.append_nil _).symm
  | @ready steps state h =>
    cases steps with
    | nil => exact ⟨.ended _, (List.append_nil _).symm⟩
    | cons step steps =>
      -- the step that begins is the one at which the run stands
      have hrest : steps = all.drop (state.index + 1) := by rw [← List.tail_drop, ← h, List.tail_cons]
      have hhead : all[state.index]? = some step := by rw [← List.head?_drop, ← h, List.head?_cons]
      have hnext : [step].filter Step.takesTurn = (ready (step :: steps) state).nextChat?.toList := by
        rw [nextChat?_ready]
        cases hturn : step.takesTurn <;> simp [hturn]
      obtain ⟨hstands, hindex⟩ := standsIn_begin usualDelay step state.advance hrest engine
      rw [turn_ready]
      refine ⟨hstands, ?_⟩
      rw [begunChats, hindex, show state.advance.index = state.index + 1 from rfl, List.take_add_one, hhead,
        Option.toList_some, List.filter_append, hnext]
      rfl

end Task

/-! ## Chat steps that begin in a pool -/

/-- A chat step that has begun, with the run that it is a step of and the seat that it was handed. -/
structure ChatStart (ι : Type) where
  run : ι
  step : Step
  seat : Nat
deriving DecidableEq

namespace Pool

variable {ι : Type} [DecidableEq ι]

/-- The chat step that begins in a turn of one of the runs, if one begins. It is planned for the seat at the
cursor. -/
def chatStart? (pool : Pool ι σ) (i : ι) : Option (ChatStart ι) :=
  (pool.tasks i).nextChat?.map fun step => ⟨i, step, pool.engine.rotation.cursor.val⟩

variable (world usualDelay) in
/-- The chat steps that begin in the turns of a schedule, in order. -/
def chatStarts (pool : Pool ι σ) : List ι → List (ChatStart ι)
  | [] => []
  | i :: schedule =>
    (pool.chatStart? i).toList ++ (pool.turn world usualDelay i).chatStarts schedule

omit [DecidableEq ι] in
theorem toList_chatStart? (pool : Pool ι σ) (i : ι) :
    (pool.chatStart? i).toList =
      (pool.tasks i).nextChat?.toList.map fun step => ⟨i, step, pool.engine.rotation.cursor.val⟩ := by
  rw [chatStart?]
  cases (pool.tasks i).nextChat? <;> rfl

variable (world usualDelay) in
theorem rotation_play (pool : Pool ι σ) (schedule : List ι) :
    (pool.play world usualDelay schedule).engine.rotation =
      Rotation.advance^[(pool.chatStarts world usualDelay schedule).length] pool.engine.rotation := by
  induction schedule generalizing pool with
  | nil => rfl
  | cons i schedule ih =>
    have hturn : (pool.turn world usualDelay i).engine.rotation =
        Rotation.advance^[(pool.chatStart? i).toList.length] pool.engine.rotation := by
      rw [toList_chatStart?, List.length_map]
      exact Task.rotation_turn world usualDelay (pool.tasks i) pool.engine
    rw [play, List.foldl_cons, ← play, ih, hturn, ← Function.iterate_add_apply, chatStarts, List.length_append,
      Nat.add_comm]

variable (world usualDelay) in
/-- The chat steps that begin are handed the seats in a row. -/
theorem seats_chatStarts (pool : Pool ι σ) (schedule : List ι) :
    let starts := pool.chatStarts world usualDelay schedule
    starts.map (·.seat) = pool.engine.rotation.turns starts.length := by
  induction schedule generalizing pool with
  | nil => rfl
  | cons i schedule ih =>
    have hturn : (pool.turn world usualDelay i).engine.rotation =
        Rotation.advance^[(pool.tasks i).nextChat?.toList.length] pool.engine.rotation :=
      Task.rotation_turn world usualDelay (pool.tasks i) pool.engine
    -- the seats of the turns that are left begin where this one leaves the cursor
    simp only [chatStarts, List.map_append, List.length_append, ih, hturn, chatStart?]
    cases (pool.tasks i).nextChat? with
    | none => simp
    | some step => simp [Nat.add_comm 1, Rotation.turns]

variable (world usualDelay) in
/-- The chat steps that begin, but for the idle ones, ask in the seats that they are handed. -/
theorem askedSeats_play (pool : Pool ι σ) (schedule : List ι) :
    askedSeats (pool.play world usualDelay schedule).events =
      askedSeats pool.events ++
        ((pool.chatStarts world usualDelay schedule).filter fun start => !start.step.isIdle).map
          fun start => (start.run, start.seat) := by
  induction schedule generalizing pool with
  | nil => exact (List.append_nil _).symm
  | cons i schedule ih =>
    have hturn : askedSeats (pool.turn world usualDelay i).events = askedSeats pool.events ++
        ((pool.chatStart? i).toList.filter fun start => !start.step.isIdle).map
          fun start => (start.run, start.seat) := by
      rw [turn, askedSeats, List.filterMap_append, ← askedSeats, ← askedSeats, askedSeats_of_run,
        Task.seats_turn_asks, toList_chatStart?, List.filter_map, List.map_map, List.map_map]
      simp only [Function.comp_def]
    rw [play, List.foldl_cons, ← play, ih, hturn, chatStarts, List.filter_append, List.map_append,
      List.append_assoc]

variable (world usualDelay) in
/-- The chat steps of one run that begin are those by which it has come further. -/
theorem begunChats_play {pool : Pool ι σ} {i : ι} {all : List Step} (h : (pool.tasks i).StandsIn all)
    (schedule : List ι) :
    ((pool.play world usualDelay schedule).tasks i).begunChats all =
      (pool.tasks i).begunChats all ++
        ((pool.chatStarts world usualDelay schedule).filter fun start => start.run = i).map (·.step) := by
  induction schedule generalizing pool with
  | nil => exact (List.append_nil _).symm
  | cons j schedule ih =>
    rw [play, List.foldl_cons, ← play, chatStarts, List.filter_append, List.map_append, ← List.append_assoc]
    -- a turn of another run leaves this one where it stands
    by_cases hij : i = j
    · subst hij
      obtain ⟨hstands, hbegun⟩ := Task.standsIn_turn world usualDelay h pool.engine
      rw [← turn_tasks_same] at hstands hbegun
      rw [ih hstands, hbegun, toList_chatStart?]
      simp [List.filter_map, Function.comp_def]
    · have hother : (pool.turn world usualDelay j).tasks i = pool.tasks i := turn_tasks_other pool hij
      rw [ih (hother.symm ▸ h), hother, toList_chatStart?]
      simp [List.filter_map, Function.comp_def, Ne.symm hij]

end Pool

/-! ## All chats of an engine -/

/-- Chat steps that runs of these jobs have begun go round a number of seats. -/
structure GoRound {ι : Type} [DecidableEq ι] (seats : Nat) (jobs : ι → List Step × Context) (pool : Pool ι σ)
    (starts : List (ChatStart ι)) : Prop where
  /-- Each run has begun the chat steps up to the place where it stands, and no others. -/
  begun : ∀ i, (starts.filter fun start => start.run = i).map (·.step) =
    ((jobs i).1.take (pool.tasks i).runState.index).filter Step.takesTurn
  /-- The seats are handed out in order and round again. -/
  handed : ∀ (k : Nat) (h : k < starts.length), starts[k].seat = k % seats
  /-- A chat step that has its prompt asks in the seat that it was handed, and nothing else is asked in a seat. -/
  asked : askedSeats pool.events =
    (starts.filter fun start => !start.step.isIdle).map fun start => (start.run, start.seat)
  /-- The cursor stands at the seat that the next chat step will be handed. -/
  cursor : pool.engine.rotation.cursor.val = starts.length % seats
  /-- There is a seat at the cursor, and no seat has come or gone. -/
  valid : pool.engine.rotation.seats = seats ∧ pool.engine.rotation.cursor.val < seats
  /-- No seat is handed out more than once more than another. -/
  balanced : ∀ one < seats, ∀ other < seats,
    (starts.map (·.seat)).count one ≤ (starts.map (·.seat)).count other + 1

/-- However runs that share an engine take their turns, and however they end, the chat steps that they begin go
round the seats of the engine from its first seat on. -/
theorem chats_go_round {ι : Type} [DecidableEq ι] (world : World σ) (usualDelay : Int)
    (jobs : ι → List Step × Context) {seats : Nat} {rotation : Rotation} (h : Rotation.start? seats = some rotation)
    (outside : σ) (schedule : List ι) :
    let pool := Pool.start jobs ⟨rotation, outside⟩
    GoRound seats jobs (pool.play world usualDelay schedule) (pool.chatStarts world usualDelay schedule) := by
  intro pool
  obtain ⟨hpos, rfl, hfirst⟩ := Rotation.of_start? h
  let starts := pool.chatStarts world usualDelay schedule
  have hseats : starts.map (·.seat) = rotation.turns starts.length :=
    Pool.seats_chatStarts world usualDelay pool schedule
  have hrotation : (pool.play world usualDelay schedule).engine.rotation =
      Rotation.advance^[starts.length] rotation := Pool.rotation_play world usualDelay pool schedule
  have hcursor : (pool.play world usualDelay schedule).engine.rotation.cursor.val =
      starts.length % rotation.seats := by
    rw [hrotation, Rotation.cursor_turned, hfirst, Nat.zero_add]
  refine ⟨fun i => ?_, fun k hk => ?_, ?_, hcursor, ⟨?_, ?_⟩, ?_⟩
  · have hplace : (pool.tasks i).StandsIn (jobs i).1 := .ready rfl
    exact (Pool.begunChats_play world usualDelay hplace schedule).symm
  · have hget : (starts.map (·.seat))[k]? = some (k % rotation.seats) := by
      rw [hseats, Rotation.getElem?_turns rotation hk, hfirst, Nat.zero_add]
    simpa [show k < starts.length from hk] using hget
  · exact Pool.askedSeats_play world usualDelay pool schedule
  · rw [hrotation, Rotation.seats_turned]
  · rw [hcursor]
    exact Nat.mod_lt _ hpos
  · intro one hone other hother
    rw [hseats]
    exact Rotation.count_turns_le hfirst _ hone hother

end

/-- A run of which one chat step has no prompt, one that ends with its first chat, and one that begins with
a trigger. -/
def mixedJobs : Fin 3 → List Step × Context
  | 0 => ([⟨"a1", "llm", .text "Ask", [("prompt", .text "Name a city")]⟩, ⟨"a2", "llm", .text "Blank", []⟩,
      ⟨"a3", "llm", .text "Ask on", [("prompt", .text "Where is {{context}}")]⟩], .text "")
  | 1 => ([⟨"b1", "llm", .text "Ask", [("prompt", .text "Name a river")]⟩,
      ⟨"b2", "llm", .text "Never", [("prompt", .text "Where does it rise")]⟩], .text "")
  | 2 => ([⟨"c1", "trigger", .text "Start", []⟩,
      ⟨"c2", "llm", .text "Ask", [("prompt", .text "Name a lake")]⟩], .text "")

/-- Three chat providers, of which the second fails. -/
def mixedScript : Script :=
  ⟨[{ fragments := [.text "one"] }, { error := some "no answer" }, { fragments := [.text "three"] }], {}, [], []⟩

/-- The runs wait for replies at the same time, two of them fail at the second provider, and one of those has
begun a chat step in vain before. -/
theorem mixed_chats_go_round :
    let rotation : Rotation := ⟨3, 0⟩
    let schedule : List (Fin 3) := [0, 1, 2, 0, 1, 2, 0, 0, 2, 1, 0]
    let pool := Pool.start mixedJobs ⟨rotation, mixedScript⟩
    let played := pool.play Script.world 5 schedule
    let starts := pool.chatStarts Script.world 5 schedule
    Rotation.start? 3 = some rotation ∧ GoRound 3 mixedJobs played starts ∧
      starts.map (fun start => (start.step.id, start.seat)) =
        [("a1", 0), ("b1", 1), ("c2", 2), ("a2", 0), ("a3", 1)] ∧
      askedSeats played.events = [(0, 0), (1, 1), (2, 2), (0, 1)] ∧
      (played.tasks 0).runState.status = .failed ∧ (played.tasks 1).runState.status = .failed ∧
      played.engine.rotation.cursor.val = 2 := by
  intro rotation schedule pool played starts
  have hstart : Rotation.start? 3 = some rotation := rfl
  have hround : GoRound 3 mixedJobs played starts :=
    chats_go_round Script.world 5 mixedJobs hstart mixedScript schedule
  exact ⟨hstart, hround, by decide +kernel, by decide +kernel, by decide +kernel, by decide +kernel,
    by decide +kernel⟩

end Workflows
