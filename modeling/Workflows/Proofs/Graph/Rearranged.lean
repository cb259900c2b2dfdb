/-
What the order of a graph depends on. Of its connections only the known ones count, and of their
order only how those at one port of one node stand: graphs that agree in that are run in the same
order, with the same connections reported and the same steps. Where a single root leads to all
nodes, the order of the nodes does not count either.
-/
import Workflows.Proofs.Graph.Cycle
import Workflows.Proofs.Graph.Port

namespace Workflows.Graph

/-! ## Connections at ports -/

/-- Of some connections those at a port of a node, in order. -/
def atPort (cs : List Connection) (id : String) (port : Int × Int) : List Connection :=
  cs.filter fun c => c.source = id ∧ c.port = port

theorem mem_atPort {cs : List Connection} {id : String} {port : Int × Int} {c : Connection} :
    c ∈ atPort cs id port ↔ c ∈ cs ∧ c.source = id ∧ c.port = port := by
  simp [atPort]

theorem filter_port_leaving (cs : List Connection) (id : String) (port : Int × Int) :
    (leaving cs id).filter (·.port = port) = atPort cs id port := by
  unfold leaving atPort
  rw [filter_port_sortByPort, List.filter_filter]
  refine List.filter_congr fun c _ => ?_
  rw [Bool.eq_iff_iff]
  simp [and_comm]

/-- Two lists have the same connections at each port of each node, in the same order. -/
def SamePorts (cs ds : List Connection) : Prop := ∀ id port, atPort cs id port = atPort ds id port

namespace SamePorts

variable {cs ds : List Connection}

theorem symm (h : SamePorts cs ds) : SamePorts ds cs := fun id port => (h id port).symm

theorem mem_iff (h : SamePorts cs ds) {c : Connection} : c ∈ cs ↔ c ∈ ds := by
  have hmem : c ∈ atPort cs c.source c.port ↔ c ∈ atPort ds c.source c.port := by rw [h]
  simpa [mem_atPort] using hmem

theorem leads (h : SamePorts cs ds) {a b : String} : Leads cs a b → Leads ds a b := fun ⟨c, hc, hab⟩ =>
  ⟨c, h.mem_iff.1 hc, hab⟩

/-- It is enough to look at the ports that some connection has. -/
theorem iff_forall_mem :
    SamePorts cs ds ↔ ∀ c ∈ cs ++ ds, atPort cs c.source c.port = atPort ds c.source c.port := by
  refine ⟨fun h c _ => h c.source c.port, fun h id port => ?_⟩
  by_cases hused : ∃ c ∈ cs ++ ds, c.source = id ∧ c.port = port
  · obtain ⟨c, hc, rfl, rfl⟩ := hused
    exact h c hc
  · have hcs : atPort cs id port = [] := List.eq_nil_iff_forall_not_mem.2 fun c hc =>
      hused ⟨c, List.mem_append_left _ (mem_atPort.1 hc).1, (mem_atPort.1 hc).2⟩
    have hds : atPort ds id port = [] := List.eq_nil_iff_forall_not_mem.2 fun c hc =>
      hused ⟨c, List.mem_append_right _ (mem_atPort.1 hc).1, (mem_atPort.1 hc).2⟩
    rw [hcs, hds]

instance : Decidable (SamePorts cs ds) := decidable_of_iff _ iff_forall_mem.symm

/-- The connections that leave a node are the same, in the same order. -/
theorem leaving_eq (h : SamePorts cs ds) (id : String) : leaving cs id = leaving ds id := by
  refine eq_of_filter_port (pairwise_sortByPort _) (pairwise_sortByPort _) fun port => ?_
  rw [filter_port_leaving, filter_port_leaving, h]

theorem targets_eq (h : SamePorts cs ds) (id : String) : targets cs id = targets ds id := by
  unfold targets
  rw [h.leaving_eq]

/-! ## Walks and searches -/

theorem walk_eq (h : SamePorts cs ds) (recorded stack : List String) :
    walk cs recorded stack = walk ds recorded stack := by
  fun_induction walk cs recorded stack with
  | case1 recorded => rw [walk_nil]
  | case2 recorded id stack hid ih => rw [ih, walk_drop hid]
  | case3 recorded id stack hid ih => rw [ih, walk_record hid, h.targets_eq]

theorem pursue_eq (h : SamePorts cs ds) (search : Search) (way : List Stop) :
    pursue cs search way = pursue ds search way := by
  fun_induction pursue cs search way with
  | case1 search => rw [pursue]
  | case2 search id way ih => rw [ih, pursue]
  | case3 search id c untried way hway ih => rw [ih, pursue.eq_3, if_pos hway]
  | case4 search id c untried way hway hseen ih => rw [ih, pursue.eq_3, if_neg hway, if_pos hseen]
  | case5 search id c untried way hway hseen ih =>
    rw [ih, pursue.eq_3, if_neg hway, if_neg hseen, h.leaving_eq]

theorem searchFrom_eq (h : SamePorts cs ds) : searchFrom cs = searchFrom ds := by
  funext search id
  unfold searchFrom
  rw [h.leaving_eq, h.pursue_eq]

end SamePorts

/-! ## The same nodes -/

section

variable {g h : Graph}

theorem roots_eq_of_same (hnodes : g.nodes = h.nodes) (hports : SamePorts g.known h.known) : g.roots = h.roots := by
  have hany : ∀ node : Node, (g.known.any fun c => c.target == node.id) = h.known.any fun c => c.target == node.id := by
    intro node
    rw [Bool.eq_iff_iff, List.any_eq_true, List.any_eq_true]
    exact ⟨fun ⟨c, hc, ht⟩ => ⟨c, hports.mem_iff.1 hc, ht⟩, fun ⟨c, hc, ht⟩ => ⟨c, hports.mem_iff.2 hc, ht⟩⟩
  unfold roots
  simp only [hnodes, hany]

theorem order_eq_of_same (hnodes : g.nodes = h.nodes) (hports : SamePorts g.known h.known) : g.order = h.order := by
  unfold order ids
  rw [roots_eq_of_same hnodes hports, hnodes, hports.walk_eq]

theorem backEdges_eq_of_same (hnodes : g.nodes = h.nodes) (hports : SamePorts g.known h.known) :
    g.backEdges = h.backEdges := by
  unfold backEdges search ids
  rw [hnodes, hports.searchFrom_eq]

theorem orderedNodes_eq_of_same (hnodes : g.nodes = h.nodes) (hports : SamePorts g.known h.known) :
    g.orderedNodes = h.orderedNodes := by
  unfold orderedNodes node?
  rw [order_eq_of_same hnodes hports, hnodes]

/-- The steps of a graph are those of its nodes in order; there are none if one of these is at fault. -/
theorem steps_toSteps (graph : Graph) (usualDelay : Int) : (graph.toSteps usualDelay).map (·.steps) =
    (graph.orderedNodes.mapM (Node.toStep usualDelay)).map fun results => results.map (·.1) := by
  simp only [toSteps]
  cases graph.orderedNodes.mapM (Node.toStep usualDelay) <;> rfl

/-! ## Nodes in another order -/

theorem IsRoot.of_perm (hnodes : g.nodes.Perm h.nodes) (hports : SamePorts g.known h.known) {id : String}
    (hroot : g.IsRoot id) : h.IsRoot id := by
  obtain ⟨node, hnode, rfl, hkind | hnone⟩ := hroot
  · exact ⟨node, hnodes.mem_iff.1 hnode, rfl, Or.inl hkind⟩
  · exact ⟨node, hnodes.mem_iff.1 hnode, rfl, Or.inr fun c hc => hnone c (hports.mem_iff.2 hc)⟩

theorem FromRoot.of_perm (hnodes : g.nodes.Perm h.nodes) (hports : SamePorts g.known h.known) {id : String}
    (hid : g.FromRoot id) : h.FromRoot id := by
  obtain ⟨root, hroot, hpath⟩ := hid
  exact ⟨root, hroot.of_perm hnodes hports, Relation.ReflTransGen.mono (fun _ _ => hports.leads) root id hpath⟩

/-- Where a single root leads to all nodes, the walk from it is the whole order. -/
theorem order_eq_walk_of_root {graph : Graph} {root : String} (hroot : graph.IsRoot root)
    (hsingle : ∀ id, graph.IsRoot id → id = root) (hall : ∀ id ∈ graph.ids, graph.FromRoot id) :
    graph.order = walk graph.known [] [root] := by
  have hrecorded : root ∈ walk graph.known [] [root] := mem_walk_of_stack (List.mem_singleton.2 rfl)
  have hroots : ∀ id ∈ graph.roots, id = root := fun id hid => hsingle id (mem_roots.1 hid)
  rw [order_eq, walk_of_recorded fun id hid => mem_fromRoots.2 (hall id hid)]
  unfold fromRoots
  cases hcases : graph.roots with
  | nil => exact absurd (mem_roots.2 hroot) (hcases ▸ List.not_mem_nil)
  | cons id rest =>
    rw [hcases] at hroots
    obtain ⟨rfl, hrest⟩ := List.forall_mem_cons.1 hroots
    rw [← List.singleton_append, walk_append]
    exact walk_of_recorded fun x hx => hrest x hx ▸ hrecorded

theorem order_eq_of_perm (hnodes : g.nodes.Perm h.nodes) (hports : SamePorts g.known h.known)
    (hroot : ∃! root, g.IsRoot root) (hall : ∀ id ∈ g.ids, g.FromRoot id) : g.order = h.order := by
  obtain ⟨root, hroot, hsingle⟩ := hroot
  have hids : ∀ id ∈ h.ids, h.FromRoot id := by
    intro id hid
    exact (hall id ((hnodes.map (·.id)).mem_iff.2 hid)).of_perm hnodes hports
  have hsingle' : ∀ id, h.IsRoot id → id = root := fun id hid => hsingle id (hid.of_perm hnodes.symm hports.symm)
  rw [order_eq_walk_of_root hroot hsingle hall,
    order_eq_walk_of_root (hroot.of_perm hnodes hports) hsingle' hids, hports.walk_eq]

/-! ## Graphs that mean the same -/

/-- Graphs whose known connections agree at each port of each node have the same order, the same
connections that close a cycle and the same steps if they have the same nodes; and if a single root
leads to all nodes, they have the same order even with their nodes in another one. -/
theorem order_of_same_ports (hports : SamePorts g.known h.known) :
    (g.nodes = h.nodes → g.order = h.order ∧ g.backEdges = h.backEdges ∧
      ∀ usualDelay, (g.toSteps usualDelay).map (·.steps) = (h.toSteps usualDelay).map (·.steps)) ∧
    (g.nodes.Perm h.nodes → (∃! root, g.IsRoot root) → (∀ id ∈ g.ids, g.FromRoot id) → g.order = h.order) := by
  refine ⟨fun hnodes => ?_, fun hnodes => order_eq_of_perm hnodes hports⟩
  refine ⟨order_eq_of_same hnodes hports, backEdges_eq_of_same hnodes hports, fun usualDelay => ?_⟩
  rw [steps_toSteps, steps_toSteps, orderedNodes_eq_of_same hnodes hports]

end

/-- A trigger that leads to three nodes in a cycle, with a connection to a node that is not there. -/
def wired : Graph :=
  { nodes := [bareNode "a" .trigger, bareNode "b" .code, bareNode "c" .llm, bareNode "d" .image]
    connections := [⟨"a", 0, "b", 0⟩, ⟨"a", 0, "gone", 0⟩, ⟨"b", 1, "c", 0⟩, ⟨"b", 0, "d", 0⟩, ⟨"b", 0, "c", 0⟩,
      ⟨"d", 0, "a", 0⟩, ⟨"c", 0, "d", 0⟩] }

/-- The same connections in another order, without the one that leads nowhere. -/
def rewired : Graph :=
  { wired with connections := [⟨"c", 0, "d", 0⟩, ⟨"b", 0, "d", 0⟩, ⟨"d", 0, "a", 0⟩, ⟨"b", 0, "c", 0⟩,
      ⟨"b", 1, "c", 0⟩, ⟨"a", 0, "b", 0⟩] }

/-- The nodes in another order as well. -/
def wiredBackwards : Graph := { rewired with nodes := wired.nodes.reverse }

theorem wired_as_rewired :
    SamePorts wired.known rewired.known ∧ wired.order = rewired.order ∧ wired.backEdges = rewired.backEdges ∧
      (wired.toSteps 5).map (·.steps) = (rewired.toSteps 5).map (·.steps) ∧
      SamePorts wired.known wiredBackwards.known ∧ wired.nodes.Perm wiredBackwards.nodes ∧ (∃! root, wired.IsRoot root) ∧
      (∀ id ∈ wired.ids, wired.FromRoot id) ∧ wired.order = wiredBackwards.order := by
  have hports : SamePorts wired.known rewired.known := by decide +kernel
  have hbackwards : SamePorts wired.known wiredBackwards.known := by decide +kernel
  obtain ⟨horder, hedges, hsteps⟩ := (order_of_same_ports hports).1 rfl
  have hroots : wired.roots = ["a"] := by decide +kernel
  have hroot : ∃! root, wired.IsRoot root := by
    refine ⟨"a", mem_roots.1 (by rw [hroots]; exact List.mem_singleton.2 rfl), fun id hid => ?_⟩
    have := mem_roots.2 hid
    rwa [hroots, List.mem_singleton] at this
  have hall : ∀ id ∈ wired.ids, wired.FromRoot id := by
    have hfrom : wired.fromRoots = ["a", "b", "d", "c"] := by
      unfold fromRoots
      rw [hroots]
      cbv
    intro id hid
    rw [← mem_fromRoots, hfrom]
    revert id
    decide
  have hnodes : wired.nodes.Perm wiredBackwards.nodes := (List.reverse_perm _).symm
  exact ⟨hports, horder, hedges, hsteps 5, hbackwards, hnodes, hroot, hall,
    (order_of_same_ports hbackwards).2 hnodes hroot hall⟩

end Workflows.Graph
