/-
What a graph is turned into: the steps of the first nodes with the ids of the walk, the ids of those that need
configuration, and all warnings, each once and in their order. The conversion on sheets of warnings that its
parts share comes to the same, although two parts sort out the same connections, and it leaves every sheet that
was there, the graph's own among them, as it was.
-/
import Workflows.Graph.Sheets
import Workflows.Proofs.Graph.Account

namespace Workflows

/-! ## Sheets -/

namespace Sheets

section

variable (before after : Sheets) (sheet : List String)

theorem run_add (sheets : Sheets) (warnings : List String) :
    (add warnings).run sheets = (sheets.length, sheets ++ [warnings]) := rfl

theorem run_read : (read before.length).run (before ++ sheet :: after) = (sheet, before ++ sheet :: after) := by
  show ((before ++ sheet :: after).getD before.length [], before ++ sheet :: after) = _
  simp

theorem run_write (warnings : List String) :
    (write before.length warnings).run (before ++ sheet :: after) = ((), before ++ (sheet ++ warnings) :: after) := by
  show ((), List.modify (before ++ sheet :: after) before.length (· ++ warnings)) = _
  rw [List.modify_eq_take_cons_drop (by simp)]
  simp

theorem run_forM {α : Type} (message : α → String) (xs : List α) :
    (forM xs fun x => write before.length [message x]).run (before ++ sheet :: after) =
      ((), before ++ (sheet ++ xs.map message) :: after) := by
  induction xs generalizing sheet with
  | nil =>
    simp
    rfl
  | cons x xs ih =>
    rw [List.forM_cons, StateT.run_bind, run_write]
    refine (ih (sheet ++ [message x])).trans ?_
    simp

end

/-- What a part that cannot fail does comes before all else. -/
theorem run_lift_bind {α β : Type} (x : StateM Sheets α) (f : α → ExceptT Fault (StateM Sheets) β) (sheets : Sheets) :
    (liftM x >>= f).run.run sheets = (f (x.run sheets).1).run.run (x.run sheets).2 := rfl

end Sheets

namespace Graph

/-! ## Parts of the conversion -/

section

variable (graph : Graph) (usualDelay : Int) (before after : Sheets) (sheet : List String)

theorem run_sortOut (cs : List Connection) :
    (graph.sortOut before.length cs).run (before ++ sheet :: after) =
      (cs.filter graph.knows, before ++ (sheet ++ (cs.filter fun c => !graph.knows c).map unknownWarning) :: after) := by
  induction cs generalizing sheet with
  | nil =>
    simp [sortOut]
    rfl
  | cons c cs ih =>
    unfold sortOut
    by_cases h : graph.knows c = true
    · rw [if_pos h, StateT.run_bind, ih]
      simp [h]
      rfl
    · rw [if_neg h, StateT.run_bind, Sheets.run_write]
      refine (ih _).trans ?_
      simp [h]

/-- The search writes about loose connections on a sheet of its own. -/
theorem run_reportBackEdges (sheets : Sheets) :
    graph.reportBackEdges.run sheets = (graph.backEdges, sheets ++ [graph.unknownWarnings]) := by
  unfold reportBackEdges
  rw [StateT.run_bind, Sheets.run_add]
  show StateT.run (graph.sortOut sheets.length graph.connections >>= _) (sheets ++ [[]]) = _
  rw [StateT.run_bind, run_sortOut]
  rfl

theorem run_reportCycles :
    (graph.reportCycles before.length).run (before ++ sheet :: after) =
      ((), before ++ (sheet ++ graph.cycleWarnings) :: (after ++ [graph.unknownWarnings])) := by
  unfold reportCycles
  rw [StateT.run_bind, run_reportBackEdges]
  refine Eq.trans ?_ (Sheets.run_forM before (after ++ [graph.unknownWarnings]) sheet cycleWarning graph.backEdges)
  simp only [List.append_assoc, List.cons_append]
  rfl

theorem run_reportOrder :
    (graph.reportOrder before.length).run (before ++ sheet :: after) =
      (graph.order, before ++ (sheet ++ graph.unknownWarnings) :: after) := by
  unfold reportOrder
  rw [StateT.run_bind, run_sortOut]
  rfl

theorem run_reportStep (node : Node) :
    (reportStep usualDelay before.length node).run.run (before ++ sheet :: after) =
      match node.toStep usualDelay with
      | .ok (step, warnings) => (.ok step, before ++ (sheet ++ warnings) :: after)
      | .error fault => (.error fault, before ++ sheet :: after) := by
  unfold reportStep
  cases node.toStep usualDelay with
  | error fault => rfl
  | ok result =>
    obtain ⟨step, warnings⟩ := result
    show (Except.ok step, ((Sheets.write before.length warnings).run (before ++ sheet :: after)).2) = _
    rw [Sheets.run_write]

/-- The steps come out whatever the sheets hold, and the warnings about their nodes are written one below the
other. -/
theorem run_reportSteps (ids : List String) :
    ∃ written, (graph.reportSteps usualDelay before.length ids).run.run (before ++ sheet :: after) =
        (((ids.filterMap graph.node?).mapM (Node.toStep usualDelay)).map fun results =>
            (results.map (·.1), ((ids.filterMap graph.node?).filter (·.needsConfiguration)).map (·.id)),
          before ++ (sheet ++ written) :: after) ∧
      ∀ results, (ids.filterMap graph.node?).mapM (Node.toStep usualDelay) = .ok results →
        written = results.flatMap (·.2) := by
  -- on the ids, with what the nodes before have written on the sheet
  induction ids generalizing sheet with
  | nil =>
    refine ⟨[], ?_, fun results h => ?_⟩
    · simp [reportSteps]
      rfl
    · cases h
      rfl
  | cons id ids ih =>
    unfold reportSteps
    cases hnode : graph.node? id with
    | none =>
      rw [List.filterMap_cons_none hnode]
      exact ih sheet
    | some node =>
      rw [List.filterMap_cons_some hnode, List.mapM_cons]
      dsimp only
      rw [ExceptT.run_bind, StateT.run_bind, run_reportStep]
      cases hstep : node.toStep usualDelay with
      | error fault =>
        -- a node that is no step stops the rest, and writes nothing
        refine ⟨[], ?_, fun results h => by cases h⟩
        rw [List.append_nil]
        rfl
      | ok result =>
        obtain ⟨step, warnings⟩ := result
        obtain ⟨written, hrun, hwritten⟩ := ih (sheet ++ warnings)
        refine ⟨warnings ++ written, ?_, fun results h => ?_⟩
        · show StateT.run (ExceptT.run (graph.reportSteps usualDelay before.length ids >>= _)) _ = _
          rw [ExceptT.run_bind, StateT.run_bind, hrun, List.append_assoc]
          cases hrest : (ids.filterMap graph.node?).mapM (Node.toStep usualDelay) with
          | error fault => rfl
          | ok results =>
            rw [List.filter_cons]
            cases node.needsConfiguration <;> rfl
        · obtain ⟨_, hfirst, h⟩ := bind_eq_ok.1 h
          obtain ⟨rest, hrest, h⟩ := bind_eq_ok.1 h
          cases hfirst
          cases h
          rw [hwritten rest hrest]
          rfl

/-- The conversion on shared sheets gives what the graph is turned into, and adds sheets to those that were there. -/
theorem run_reportConversion :
    ∃ added, (graph.reportConversion usualDelay before.length).run.run (before ++ graph.warnings :: after) =
      (graph.toSteps usualDelay, before ++ graph.warnings :: after ++ added) := by
  -- the copy of the graph's sheet has the next number, and the sheet of the search the one behind it
  obtain ⟨written, hrun, hwritten⟩ := run_reportSteps graph usualDelay (before ++ graph.warnings :: after)
    [graph.unknownWarnings] (graph.warnings ++ graph.cycleWarnings ++ graph.unknownWarnings) graph.order
  refine ⟨[graph.warnings ++ graph.cycleWarnings ++ graph.unknownWarnings ++ written, graph.unknownWarnings], ?_⟩
  unfold reportConversion
  rw [Sheets.run_lift_bind, Sheets.run_read, Sheets.run_lift_bind, Sheets.run_add, Sheets.run_lift_bind,
    run_reportCycles, Sheets.run_lift_bind, List.nil_append, run_reportOrder, ExceptT.run_bind, StateT.run_bind, hrun]
  unfold toSteps orderedNodes
  dsimp only
  cases hsteps : (graph.order.filterMap graph.node?).mapM (Node.toStep usualDelay) with
  | error fault => rfl
  | ok results =>
    show StateT.run (ExceptT.run (liftM (Sheets.read (before ++ graph.warnings :: after).length) >>= _)) _ = _
    rw [Sheets.run_lift_bind, Sheets.run_read, hwritten results hsteps]
    rfl

end

/-! ## What comes of each id -/

/-- A node is the first one with an id. -/
def FirstWith (graph : Graph) (id : String) (node : Node) : Prop :=
  ∃ before after, graph.nodes = before ++ node :: after ∧ node.id = id ∧ ∀ other ∈ before, other.id ≠ id

/-- The first node with an id needs configuration. -/
def flags (graph : Graph) (id : String) : Bool := (graph.node? id).any (·.needsConfiguration)

/-- The warning about the first node with an id, if it is passed through. -/
def passNote? (graph : Graph) (id : String) : Option String :=
  (graph.node? id).bind fun node =>
    match node.kind with
    | .unsupported _ => some (node.passThroughWarning (node.displayName.orElse (.text node.id)))
    | _ => none

variable {graph : Graph} {usualDelay : Int} {conversion : Conversion}

theorem firstWith_iff {id : String} {node : Node} : graph.FirstWith id node ↔ graph.node? id = some node := by
  unfold FirstWith node?
  rw [List.find?_eq_some_iff_append]
  constructor
  · rintro ⟨before, after, hnodes, hid, hbefore⟩
    exact ⟨by simpa using hid, before, after, hnodes, fun other hother => by simpa using hbefore other hother⟩
  · rintro ⟨hid, before, after, hnodes, hbefore⟩
    exact ⟨before, after, hnodes, by simpa using hid, fun other hother => by simpa using hbefore other hother⟩

/-- The first node with an id is turned into a step, with some warnings. -/
def FirstGives (graph : Graph) (usualDelay : Int) (id : String) (result : Step × List String) : Prop :=
  ∃ node, graph.FirstWith id node ∧ node.toStep usualDelay = .ok result

/-- A node that is passed through leaves the one warning about it, and any other node none. -/
theorem toStep_notes {id : String} {node : Node} (first : graph.FirstWith id node) {step : Step} {warnings : List String}
    (h : node.toStep usualDelay = .ok (step, warnings)) : warnings = (graph.passNote? id).toList := by
  simp only [Node.toStep, bind, bind_eq_ok] at h
  obtain ⟨⟨kind, params⟩, -, h⟩ := h
  cases h
  unfold passNote?
  rw [firstWith_iff.1 first, Option.bind_some]
  cases node.kind <;> rfl

section

variable {ids : List String}

theorem flagged_nodes (hids : ∀ id ∈ ids, id ∈ graph.ids) :
    ((ids.filterMap graph.node?).filter (·.needsConfiguration)).map (·.id) = ids.filter graph.flags := by
  induction ids with
  | nil => rfl
  | cons id ids ih =>
    obtain ⟨hid, hrest⟩ := List.forall_mem_cons.1 hids
    obtain ⟨node, hnode, rfl⟩ := node_of_mem_ids hid
    have hflags : graph.flags node.id = node.needsConfiguration := by
      unfold flags
      rw [hnode]
      rfl
    rw [List.filterMap_cons_some hnode, List.filter_cons, List.filter_cons, hflags, ← ih hrest]
    cases node.needsConfiguration <;> rfl

/-- The nodes with some ids are turned into steps exactly if the first node with each of them is. -/
theorem mapM_toStep_iff (hids : ∀ id ∈ ids, id ∈ graph.ids) {results : List (Step × List String)} :
    (ids.filterMap graph.node?).mapM (Node.toStep usualDelay) = .ok results ↔
      List.Forall₂ (graph.FirstGives usualDelay) ids results := by
  induction ids generalizing results with
  | nil =>
    constructor
    · intro h
      cases h
      exact .nil
    · intro h
      cases h
      rfl
  | cons id ids ih =>
    obtain ⟨hid, hrest⟩ := List.forall_mem_cons.1 hids
    obtain ⟨node, hnode, -⟩ := node_of_mem_ids hid
    rw [List.filterMap_cons_some hnode, List.mapM_cons]
    constructor
    · intro h
      obtain ⟨result, hresult, h⟩ := bind_eq_ok.1 h
      obtain ⟨more, hmore, h⟩ := bind_eq_ok.1 h
      cases h
      exact .cons ⟨node, firstWith_iff.2 hnode, hresult⟩ ((ih hrest).1 hmore)
    · intro h
      cases h with
      | @cons _ result _ more hfirst hmore =>
        obtain ⟨found, hfound, hresult⟩ := hfirst
        obtain rfl : node = found := Option.some.inj (hnode.symm.trans (firstWith_iff.1 hfound))
        exact bind_eq_ok.2 ⟨result, hresult, bind_eq_ok.2 ⟨more, (ih hrest).2 hmore, rfl⟩⟩

theorem notes_of_results {results : List (Step × List String)}
    (h : List.Forall₂ (graph.FirstGives usualDelay) ids results) :
    results.flatMap (·.2) = ids.filterMap graph.passNote? := by
  induction h with
  | nil => rfl
  | @cons id result ids results hfirst _ ih =>
    obtain ⟨node, first, hresult⟩ := hfirst
    rw [List.flatMap_cons, ih, toStep_notes first hresult, List.filterMap_cons]
    cases graph.passNote? id <;> rfl

end

/-! ## The whole -/

/-- A conversion of a graph, told part by part. -/
structure ConvertsTo (graph : Graph) (usualDelay : Int) (conversion : Conversion) : Prop where
  ids : conversion.steps.map (·.id) = graph.order
  steps : List.Forall₂ (fun id step => ∃ node, graph.FirstWith id node ∧
    ∃ notes, node.toStep usualDelay = .ok (step, notes)) graph.order conversion.steps
  flagged : conversion.needsConfiguration = graph.order.filter graph.flags
  warnings : conversion.warnings = graph.warnings ++ graph.backEdges.map cycleWarning ++
    (graph.connections.filter fun c => c.source ∉ graph.ids ∨ c.target ∉ graph.ids).map unknownWarning ++
    graph.order.filterMap graph.passNote?

theorem unknownWarnings_eq (graph : Graph) : graph.unknownWarnings =
    (graph.connections.filter fun c => c.source ∉ graph.ids ∨ c.target ∉ graph.ids).map unknownWarning := by
  have hunknown : (graph.connections.filter fun c => !graph.knows c) =
      graph.connections.filter fun c => c.source ∉ graph.ids ∨ c.target ∉ graph.ids := by
    refine List.filter_congr fun c _ => ?_
    rw [Bool.eq_iff_iff]
    simp [knows, ← imp_iff_not_or]
  unfold unknownWarnings
  rw [hunknown]
  rfl

theorem convertsTo_of_toSteps (h : graph.toSteps usualDelay = .ok conversion) : graph.ConvertsTo usualDelay conversion := by
  have hids := ids_toSteps h
  have horder : ∀ id ∈ graph.order, id ∈ graph.ids := fun id => mem_order.1
  unfold toSteps orderedNodes at h
  obtain ⟨results, hresults, h⟩ := bind_eq_ok.1 h
  cases h
  have hsteps := (mapM_toStep_iff horder).1 hresults
  refine ⟨hids, ?_, flagged_nodes horder, ?_⟩
  · refine List.forall₂_map_right_iff.2 (hsteps.imp fun id result hfirst => ?_)
    obtain ⟨node, first, hresult⟩ := hfirst
    exact ⟨node, first, result.2, hresult⟩
  · rw [notes_of_results hsteps, unknownWarnings_eq]
    rfl

theorem exists_toSteps (h : graph.ConvertsTo usualDelay conversion) :
    ∃ found, graph.toSteps usualDelay = .ok found ∧ found.steps = conversion.steps := by
  have hresults : ∀ {ids steps}, List.Forall₂ (fun id step => ∃ node, graph.FirstWith id node ∧
      ∃ notes, node.toStep usualDelay = .ok (step, notes)) ids steps →
      ∃ results : List (Step × List String), results.map (·.1) = steps ∧
        List.Forall₂ (graph.FirstGives usualDelay) ids results := by
    intro ids steps h
    induction h with
    | nil => exact ⟨[], rfl, .nil⟩
    | @cons id step _ _ hfirst _ ih =>
      obtain ⟨node, first, notes, hstep⟩ := hfirst
      obtain ⟨results, rfl, hresults⟩ := ih
      exact ⟨(step, notes) :: results, rfl, .cons ⟨node, first, hstep⟩ hresults⟩
  obtain ⟨results, hsteps, hresults⟩ := hresults h.steps
  have horder : ∀ id ∈ graph.order, id ∈ graph.ids := fun id => mem_order.1
  exact ⟨_, bind_eq_ok.2 ⟨results, (mapM_toStep_iff horder).2 hresults, rfl⟩, hsteps⟩

/-- A graph is turned into a conversion exactly if that has the steps of the first nodes with the ids of the walk,
the flagged ones among the ids, and the warnings of the graph, about cycles, about loose connections and about
nodes that are passed through, each once. Carried out on shared sheets, the conversion comes to the same and
leaves the sheets that were there as they were. -/
theorem conversion_iff_parts (graph : Graph) (usualDelay : Int) :
    (∀ conversion, graph.toSteps usualDelay = .ok conversion ↔ graph.ConvertsTo usualDelay conversion) ∧
      ∀ before after : Sheets, ∃ added,
        (graph.reportConversion usualDelay before.length).run.run (before ++ graph.warnings :: after) =
          (graph.toSteps usualDelay, before ++ graph.warnings :: after ++ added) := by
  refine ⟨fun conversion => ⟨convertsTo_of_toSteps, fun h => ?_⟩, run_reportConversion graph usualDelay⟩
  -- the parts leave no choice
  obtain ⟨found, hfound, hsteps⟩ := exists_toSteps h
  have hparts := convertsTo_of_toSteps hfound
  have hwarnings : found.warnings = conversion.warnings := hparts.warnings.trans h.warnings.symm
  have hflagged : found.needsConfiguration = conversion.needsConfiguration := hparts.flagged.trans h.flagged.symm
  cases found
  cases conversion
  rw [hfound, Except.ok.injEq, Conversion.mk.injEq]
  exact ⟨hsteps, hwarnings, hflagged⟩

end Graph

end Workflows
