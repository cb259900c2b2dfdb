/-
The connections that are reported as closing a cycle, against the order in which the nodes are run.
The search for them begins with the nodes as they are declared, the walk with the roots, so the two
may come into a cycle at different nodes. A report then says of a connection that the walk does not
take it although the walk comes to a node along it; where that does not happen, the target of a
reported connection never stands behind its source.
-/
import Mathlib.Data.Finset.Max
import Workflows.Graph.Steps
import Workflows.Proofs.Graph.Order
import Workflows.Proofs.Graph.Search

namespace Workflows.Graph

/-! ## What is reported -/

/-- The order of a walk that begins with the nodes as they are declared. -/
def declaredOrder (graph : Graph) : List String := walk graph.known [] graph.ids

theorem seen_search (graph : Graph) : graph.search.seen = graph.declaredOrder :=
  seen_foldl graph.ids {}

theorem search_ends (graph : Graph) : ∃ finished, Progress graph.known finished graph.search [] := by
  have start : Progress graph.known [] {} [] := by constructor <;> simp [wayIds]
  exact search_progress graph.ids start

/-- A reported connection is known, and its target was met no later than its source. -/
theorem backEdges_back {graph : Graph} {c : Connection} (h : c ∈ graph.backEdges) :
    c ∈ graph.known ∧ graph.declaredOrder.idxOf c.target ≤ graph.declaredOrder.idxOf c.source := by
  obtain ⟨_, progress⟩ := graph.search_ends
  obtain ⟨hc, -, -, hle⟩ := progress.back c h
  rw [seen_search] at hle
  exact ⟨hc, hle⟩

/-- Nodes can be ranked so that every connection leads down, unless it is reported, and no reported
one does. -/
theorem exists_rank (graph : Graph) : ∃ rank : String → Nat,
    (∀ c ∈ graph.known, c ∉ graph.backEdges → rank c.target < rank c.source) ∧
      ∀ c ∈ graph.backEdges, rank c.source ≤ rank c.target := by
  obtain ⟨finished, progress⟩ := graph.search_ends
  refine ⟨finished.idxOf, fun c hc hb => ?_, fun c hc => (progress.late c hc).2⟩
  have hs : c.source ∈ graph.search.seen := by
    rw [seen_search]
    exact mem_walk_of_stack (mem_known.1 hc).2.1
  have hf : c.source ∈ finished := ((progress.met _).1 hs).resolve_left (by simp [wayIds])
  exact (progress.sooner c hc hf).resolve_left hb

/-! ## How the walk comes to a node -/

/-- The walk comes to the target of a connection along it: the source is recorded before the target,
and no other node that leads to the target is recorded between them. -/
def ComesAlong (graph : Graph) (c : Connection) : Prop :=
  c ∈ graph.known ∧ graph.place c.source < graph.place c.target ∧
    ∀ d ∈ graph.known, d.target = c.target → graph.place d.source < graph.place d.target →
      graph.place d.source ≤ graph.place c.source

/-- The walk comes to a node behind one that leads to it along some connection. -/
theorem exists_comesAlong {graph : Graph} {d : Connection} (hd : d ∈ graph.known)
    (hlt : graph.place d.source < graph.place d.target) :
    ∃ c, graph.ComesAlong c ∧ c.target = d.target ∧ graph.place d.source ≤ graph.place c.source := by
  let ways := (graph.known.filter fun c =>
    c.target = d.target ∧ graph.place c.source < graph.place c.target).toFinset
  have mem : ∀ c, c ∈ ways ↔ c ∈ graph.known ∧ c.target = d.target ∧
      graph.place c.source < graph.place c.target := by
    intro c; simp [ways]
  obtain ⟨c, hc, hmax⟩ := ways.exists_max_image (fun c => graph.place c.source)
    ⟨d, (mem d).2 ⟨hd, rfl, hlt⟩⟩
  obtain ⟨hk, ht, hp⟩ := (mem c).1 hc
  refine ⟨c, ⟨hk, hp, fun e he het hep => hmax e ((mem e).2 ⟨he, het.trans ht, hep⟩)⟩, ht, ?_⟩
  exact hmax d ((mem d).2 ⟨hd, rfl, hlt⟩)

/-- Between the source of a connection and its target the walk comes from the source on. -/
theorem exists_comesAlong_between {graph : Graph} {c : Connection} (hc : c ∈ graph.known) {u : String}
    (hsu : graph.place c.source < graph.place u) (hut : graph.place u ≤ graph.place c.target) :
    ∃ d, graph.ComesAlong d ∧ d.target = u ∧ graph.place c.source ≤ graph.place d.source := by
  by_cases hu : u = c.target
  · subst hu; exact exists_comesAlong hc hsu
  · have hids := mem_known.1 hc
    have ht := mem_order.2 hids.2.2
    have hum : u ∈ graph.order :=
      List.idxOf_lt_length_iff.1 (lt_of_le_of_lt hut (List.idxOf_lt_length_of_mem ht))
    have hne : graph.place u ≠ graph.place c.target := fun e => hu ((List.idxOf_inj hum).1 e)
    obtain ⟨d, hd, rfl, hle, hlt⟩ := (walk_nested (graph.roots ++ graph.ids)).between c.source
      (mem_order.2 hids.2.1) c.target ⟨c, hc, rfl, rfl⟩ u hum hsu (lt_of_le_of_ne hut hne)
    obtain ⟨e, he, het, hde⟩ := exists_comesAlong hd hlt
    exact ⟨e, he, het, hle.trans hde⟩

/-! ## Reports against the order -/

/-- No reported connection leads forward in the order exactly if the walk comes to no node along a
reported connection. -/
theorem cycle_reports_hold_iff (graph : Graph) :
    (∀ c ∈ graph.backEdges, graph.place c.target ≤ graph.place c.source) ↔
      ∀ c ∈ graph.backEdges, ¬ graph.ComesAlong c := by
  constructor
  · intro h c hc hcome
    exact absurd hcome.2.1 (Nat.not_lt.2 (h c hc))
  · intro h c hc
    by_contra hlt
    rw [Nat.not_le] at hlt
    have hk := (backEdges_back hc).1
    obtain ⟨rank, down, up⟩ := graph.exists_rank
    -- from the source on, the walk comes to every node along connections that lead down
    have below : ∀ n u, graph.place u = n → graph.place c.source < graph.place u →
        graph.place u ≤ graph.place c.target → rank u < rank c.source := by
      intro n
      induction n using Nat.strong_induction_on with
      | _ n ih =>
        rintro u rfl hsu hut
        obtain ⟨d, hd, rfl, hsd⟩ := exists_comesAlong_between hk hsu hut
        have hdown := down d hd.1 fun hb => h d hb hd
        rcases Nat.eq_or_lt_of_le hsd with heq | hlt'
        · have : c.source = d.source := (List.idxOf_inj (mem_order.2 (mem_known.1 hk).2.1)).1 heq
          rw [this]; exact hdown
        · have := ih _ hd.2.1 d.source rfl hlt' (hd.2.1.le.trans hut)
          omega
    have := below _ c.target rfl hlt le_rfl
    have := up c hc
    omega

/-- A node of a kind without parameters, named by its id. -/
def bareNode (id : String) (kind : NodeKind) : Node :=
  { id, declaredType := kind.word, displayName := .text id, parameters := .object [], position := Node.origin,
    needsConfiguration := false, kind }

/-- A cycle of two nodes that are declared before the trigger, which leads to the second of them. -/
def lateEntry : Graph :=
  { nodes := [bareNode "a" .code, bareNode "b" .code, bareNode "t" .trigger]
    connections := [⟨"t", 0, "b", 0⟩, ⟨"a", 0, "b", 0⟩, ⟨"b", 0, "a", 0⟩] }

/-- The walk comes to `a` along the very connection that is reported as one it does not take. -/
theorem lateEntry_report_false :
    lateEntry.cycleWarnings = ["Cycle detected at connection b -> a; it will not be revisited"] ∧
      lateEntry.order = ["t", "b", "a"] ∧
      ¬ ∀ c ∈ lateEntry.backEdges, lateEntry.place c.target ≤ lateEntry.place c.source := by
  have edges : lateEntry.backEdges = [⟨"b", 0, "a", 0⟩] := by cbv
  have order : lateEntry.order = ["t", "b", "a"] := by cbv
  refine ⟨by unfold cycleWarnings; rw [edges]; rfl, order, fun h => ?_⟩
  have := h ⟨"b", 0, "a", 0⟩ (by rw [edges]; exact List.mem_singleton.2 rfl)
  unfold place at this
  rw [order] at this
  exact absurd this (by decide)

/-! ## Roots declared first -/

theorem order_eq_declaredOrder {graph : Graph} (h : graph.roots <+: graph.ids) :
    graph.order = graph.declaredOrder := by
  obtain ⟨rest, hrest⟩ := h
  have again : walk graph.known graph.fromRoots graph.roots = graph.fromRoots :=
    walk_of_recorded fun _ hx => mem_walk_of_stack hx
  rw [order_eq, declaredOrder, ← hrest, walk_append, walk_append, again]
  rfl

/-- If the roots are declared before all other nodes, no reported connection leads forward. -/
theorem cycle_reports_hold_of_roots_first {graph : Graph} (h : graph.roots <+: graph.ids) :
    ∀ c ∈ graph.backEdges, graph.place c.target ≤ graph.place c.source := by
  intro c hc
  unfold place
  rw [order_eq_declaredOrder h]
  exact (backEdges_back hc).2

end Workflows.Graph
