/-
What becomes of the entries for nodes of a payload. Every entry without an id is passed over with a warning, and
the steps are those of the ids of all others, each id once. So all entries are accounted for exactly if no id
stands twice: of two entries with one id, one is lost without a word.
-/
import Workflows.Proofs.Graph.Order
import Workflows.Proofs.Graph.Reread

namespace Workflows

open Workflows.Text

namespace Graph

/-! ## Warnings about nodes -/

/-- A warning that an entry for a node is passed over. -/
def isNodeSkip (warning : String) : Bool := beginsWith warning "Skipping node"

/-- The warnings about those of some entries that have no id, the first of which has a given place. -/
def skipWarnings (place : Nat) : List Value → List String
  | [] => []
  | entry :: entries =>
    match entryId? entry with
    | none => skipWarning place :: skipWarnings (place + 1) entries
    | some _ => skipWarnings (place + 1) entries

theorem isNodeSkip_skipWarning (place : Nat) : isNodeSkip (skipWarning place) = true := by
  simp [isNodeSkip, beginsWith, skipWarning, List.isPrefixOf]

/-- Every warning about the entries is one about a node. -/
theorem filter_skipWarnings (place : Nat) (entries : List Value) :
    (skipWarnings place entries).filter isNodeSkip = skipWarnings place entries := by
  induction entries generalizing place with
  | nil => rfl
  | cons entry entries ih =>
    rw [skipWarnings]
    split
    · rw [List.filter_cons, if_pos (isNodeSkip_skipWarning place), ih]
    · exact ih _

/-- An entry has an id or a warning about it. -/
theorem length_skipWarnings (place : Nat) (entries : List Value) :
    (entries.filterMap entryId?).length + (skipWarnings place entries).length = entries.length := by
  induction entries generalizing place with
  | nil => rfl
  | cons entry entries ih =>
    have hrest := ih (place + 1)
    rw [skipWarnings, List.filterMap_cons]
    cases entryId? entry <;> simp only [List.length_cons] <;> omega

/-! ## Reading -/

/-- The ids are read in order, and a warning is left for each entry without one. -/
theorem addPayloadNodes_eq_ok {entries : List Value} {graph after : Graph} {place : Nat}
    (h : addEntries addPayloadNode graph place entries = .ok after) :
    after.ids = graph.ids ++ entries.filterMap entryId? ∧
      after.warnings = graph.warnings ++ skipWarnings place entries := by
  induction entries generalizing graph place with
  | nil =>
    cases h
    simp [skipWarnings]
  | cons entry entries ih =>
    obtain ⟨next, hadd, hrest⟩ := bind_eq_ok.1 h
    obtain ⟨hids, hwarnings⟩ := ih hrest
    rw [hids, hwarnings, skipWarnings, List.filterMap_cons]
    rcases addPayloadNode_eq_ok hadd with ⟨hid, rfl⟩ | ⟨node, hid, -, rfl⟩
    · simp [hid, warn, ids]
    · simp [hid, addNode, ids]

/-- Reading connections adds no node, and no warning about one. -/
theorem addPayloadConnections_eq_ok {connections : List Value} {graph after : Graph} {place : Nat}
    (h : addEntries addPayloadConnection graph place connections = .ok after) :
    after.ids = graph.ids ∧ after.warnings.filter isNodeSkip = graph.warnings.filter isNodeSkip := by
  refine addEntries_keeps (P := fun read => read.ids = graph.ids ∧
    read.warnings.filter isNodeSkip = graph.warnings.filter isNodeSkip) (fun keeps hadd => ?_) ⟨rfl, rfl⟩ h
  rcases addPayloadConnection_eq_ok hadd with ⟨c, rfl⟩ | ⟨reason, rfl⟩
  · exact keeps
  · have hother : isNodeSkip ("Skipping connection #" ++ reason) = false := by
      simp [isNodeSkip, beginsWith, List.isPrefixOf]
    exact ⟨keeps.1, by simpa [warn, List.filter_append, hother] using keeps.2⟩

/-! ## Turning into steps -/

theorem node_of_mem_ids {graph : Graph} {id : String} (h : id ∈ graph.ids) :
    ∃ node, graph.node? id = some node ∧ node.id = id := by
  obtain ⟨node, hnode, rfl⟩ := List.mem_map.1 h
  have hfound : (graph.node? node.id).isSome := List.find?_isSome.2 ⟨node, hnode, by simp⟩
  obtain ⟨found, hfound⟩ := Option.isSome_iff_exists.1 hfound
  exact ⟨found, hfound, by simpa using List.find?_some hfound⟩

theorem ids_orderedNodes (graph : Graph) : graph.orderedNodes.map (·.id) = graph.order := by
  have hall : ∀ ids : List String, (∀ id ∈ ids, id ∈ graph.ids) → (ids.filterMap graph.node?).map (·.id) = ids := by
    intro ids hids
    induction ids with
    | nil => rfl
    | cons id ids ih =>
      obtain ⟨hid, hrest⟩ := List.forall_mem_cons.1 hids
      obtain ⟨node, hnode, hsame⟩ := node_of_mem_ids hid
      rw [List.filterMap_cons_some hnode, List.map_cons, hsame, ih hrest]
  exact hall graph.order fun id h => mem_order.1 h

variable {graph : Graph} {usualDelay : Int} {conversion : Conversion}

/-- The steps have the ids of the walk. -/
theorem ids_toSteps (h : graph.toSteps usualDelay = .ok conversion) : conversion.steps.map (·.id) = graph.order := by
  have hsame : List.Forall₂ Eq (graph.orderedNodes.map (·.id)) (conversion.steps.map (·.id)) := by
    rw [List.forall₂_map_left_iff, List.forall₂_map_right_iff]
    refine (steps_of_nodes h).imp fun node step ⟨_, warnings, hstep⟩ => ?_
    obtain ⟨kind, params, -, rfl⟩ := Node.toStep_eq_ok hstep
    rfl
  rw [List.forall₂_eq_eq_eq] at hsame
  rw [← hsame, ids_orderedNodes]

/-- A node that is turned into a step leaves no warning about an entry that is passed over. -/
theorem nodeSkips_toStep {node : Node} {step : Step} {warnings : List String}
    (h : node.toStep usualDelay = .ok (step, warnings)) : warnings.filter isNodeSkip = [] := by
  simp only [Node.toStep, bind, bind_eq_ok] at h
  obtain ⟨⟨kind, params⟩, -, h⟩ := h
  cases h
  split
  · simp [isNodeSkip, beginsWith, Node.passThroughWarning, List.isPrefixOf]
  · rfl

/-- Turning a graph into steps adds no warning about an entry that is passed over. -/
theorem nodeSkips_toSteps (h : graph.toSteps usualDelay = .ok conversion) :
    conversion.warnings.filter isNodeSkip = graph.warnings.filter isNodeSkip := by
  simp only [toSteps, bind, bind_eq_ok] at h
  obtain ⟨results, hresults, h⟩ := h
  cases h
  -- the warnings that are added begin in other words
  have hcycles : graph.cycleWarnings.filter isNodeSkip = [] := by
    refine List.filter_eq_nil_iff.2 (List.forall_mem_map.2 fun c _ => ?_)
    simp [isNodeSkip, beginsWith, List.isPrefixOf]
  have hunknown : graph.unknownWarnings.filter isNodeSkip = [] := by
    refine List.filter_eq_nil_iff.2 (List.forall_mem_map.2 fun c _ => ?_)
    simp [isNodeSkip, beginsWith, List.isPrefixOf]
  have hpassed : (results.flatMap (·.2)).filter isNodeSkip = [] := by
    rw [List.filter_flatMap, List.flatMap_eq_nil_iff]
    intro result hresult
    obtain ⟨node, -, hstep⟩ := exists_of_mem_mapM hresults hresult
    exact nodeSkips_toStep hstep
  simp only [List.filter_append, hcycles, hunknown, hpassed, List.append_nil]

/-! ## Accounting for all entries -/

/-- The steps of a payload are those of the ids of its entries, each id once, and of its entries without an id each
has a warning. So no entry for a node is lost exactly if no id stands twice. -/
theorem entries_accounted_iff {members : Object} {entries : List Value}
    (hnodes : Object.getOrNull members "nodes" = .list entries) (hread : ofPayload (.object members) = .ok graph)
    (hsteps : graph.toSteps usualDelay = .ok conversion) :
    (conversion.steps.map (·.id)).Perm (entries.filterMap entryId?).dedup ∧
      conversion.warnings.filter isNodeSkip = skipWarnings 1 entries ∧
      (conversion.steps.length + conversion.warnings.countP isNodeSkip = entries.length ↔
        (entries.filterMap entryId?).Nodup) := by
  obtain ⟨members', name, entries', read, connections, hmembers, hentries, hread, -, hgraph⟩ := ofPayload_eq_ok hread
  cases hmembers
  obtain rfl : entries = entries' := by
    rw [hnodes, entriesOf_list] at hentries
    exact Except.ok.inj hentries
  obtain ⟨hids, hwarnings⟩ := addPayloadNodes_eq_ok hread
  obtain ⟨hsame, hskips⟩ := addPayloadConnections_eq_ok hgraph
  have hgraphIds : graph.ids = entries.filterMap entryId? := hsame.trans hids
  have hskipped : conversion.warnings.filter isNodeSkip = skipWarnings 1 entries := by
    rw [nodeSkips_toSteps hsteps, hskips, hwarnings]
    exact filter_skipWarnings 1 entries
  have hperm : (conversion.steps.map (·.id)).Perm (entries.filterMap entryId?).dedup := by
    rw [ids_toSteps hsteps, ← hgraphIds]
    refine (List.perm_ext_iff_of_nodup (nodup_order graph) (List.nodup_dedup _)).2 fun id => ?_
    rw [mem_order, List.mem_dedup]
  refine ⟨hperm, hskipped, ?_⟩
  have hall := length_skipWarnings 1 entries
  have hsteps : conversion.steps.length = (entries.filterMap entryId?).dedup.length := by
    simpa using hperm.length_eq
  have hfewer := (List.dedup_sublist (entries.filterMap entryId?)).length_le
  rw [List.countP_eq_length_filter, hskipped, hsteps, ← List.dedup_eq_self]
  constructor
  · intro h
    exact (List.dedup_sublist _).eq_of_length (by omega)
  · intro h
    rw [h]
    exact hall

/-- What the graph of the rough payload is turned into: a step for each of its two nodes. -/
def roughSteps : Conversion where
  steps := [⟨"7", "code", .text "7", [("code", .text "")]⟩, ⟨"False", "trigger", .int 5, []⟩]
  warnings := roughGraph.warnings ++ ["Ignoring connection 7 -> gone: unknown node",
    "Node '5' (unknown) is a generic node; running it as a pass-through"]
  needsConfiguration := []

theorem rough_entries_accounted :
    ∃ members entries, roughPayload = .object members ∧ Object.getOrNull members "nodes" = .list entries ∧
      ofPayload (.object members) = .ok roughGraph ∧ roughGraph.toSteps 5 = .ok roughSteps ∧
      (roughSteps.steps.map (·.id)).Perm (entries.filterMap entryId?).dedup ∧
      roughSteps.warnings.filter isNodeSkip = skipWarnings 1 entries ∧
      (roughSteps.steps.length + roughSteps.warnings.countP isNodeSkip = entries.length ↔
        (entries.filterMap entryId?).Nodup) ∧
      (entries.filterMap entryId?).Nodup := by
  have horder : roughGraph.order = ["7", "False"] := by cbv
  have hedges : roughGraph.backEdges = [] := by cbv
  have hsteps : roughGraph.toSteps 5 = .ok roughSteps := by
    simp only [toSteps, orderedNodes, cycleWarnings, horder, hedges]
    decide +kernel
  obtain ⟨hperm, hskips, hall⟩ := entries_accounted_iff rfl ofPayload_roughPayload hsteps
  exact ⟨_, _, rfl, rfl, ofPayload_roughPayload, hsteps, hperm, hskips, hall, by decide +kernel⟩

/-- A payload of two nodes, whose ids are a number and its text. -/
def numberAndText : Object :=
  [("nodes", .list [.object [("id", .int 1), ("type", .text "trigger")],
    .object [("id", .text "1"), ("type", .text "code"), ("parameters", .object [("code", .text "return 2")])]])]

/-- What is read from it: two nodes with one id. -/
def twiceOne : Graph where
  nodes := [⟨"1", "trigger", .text "1", .object [], Node.origin, false, .trigger⟩,
    ⟨"1", "code", .text "1", .object [("code", .text "return 2")], Node.origin, false, .code⟩]

/-- The second node becomes no step, and no warning tells that. -/
theorem numberAndText_loses_entry :
    ofPayload (.object numberAndText) = .ok twiceOne ∧
      twiceOne.toSteps 5 = .ok ⟨[⟨"1", "trigger", .text "1", []⟩], [], []⟩ ∧
      ¬ ∀ members entries graph conversion, Object.getOrNull members "nodes" = .list entries →
        ofPayload (.object members) = .ok graph → graph.toSteps 5 = .ok conversion →
          conversion.steps.length + conversion.warnings.countP isNodeSkip = entries.length := by
  have hread : ofPayload (.object numberAndText) = .ok twiceOne := by decide +kernel
  have horder : twiceOne.order = ["1"] := by cbv
  have hedges : twiceOne.backEdges = [] := by cbv
  have hsteps : twiceOne.toSteps 5 = .ok ⟨[⟨"1", "trigger", .text "1", []⟩], [], []⟩ := by
    simp only [toSteps, orderedNodes, cycleWarnings, horder, hedges]
    decide +kernel
  refine ⟨hread, hsteps, fun h => ?_⟩
  exact absurd (h numberAndText _ twiceOne _ rfl hread hsteps) (by decide)

end Graph

end Workflows
