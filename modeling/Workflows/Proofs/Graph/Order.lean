/-
The order in which a graph is run: for every graph, with repeated ids, loose connections and cycles,
each id of a node stands in it exactly once, what the roots lead to stands before all else, and
whatever is reached from a root without being one stands behind a node that leads to it.
-/
import Workflows.Proofs.Graph.Walk

namespace Workflows.Graph

/-! ## Roots and what they lead to -/

/-- A root is a trigger or a node that no known connection leads to. -/
def IsRoot (graph : Graph) (id : String) : Prop :=
  ∃ node ∈ graph.nodes, node.id = id ∧ (node.kind = .trigger ∨ ∀ c ∈ graph.known, c.target ≠ id)

/-- Known connections lead to an id from a root. -/
def FromRoot (graph : Graph) (id : String) : Prop :=
  ∃ root, graph.IsRoot root ∧ Relation.ReflTransGen (Leads graph.known) root id

theorem mem_roots {graph : Graph} {id : String} : id ∈ graph.roots ↔ graph.IsRoot id := by
  unfold roots IsRoot
  simp only [List.mem_map, List.mem_filter, Bool.or_eq_true, beq_iff_eq, Bool.not_eq_true',
    List.any_eq_false]
  constructor
  · rintro ⟨node, ⟨hn, hr⟩, rfl⟩; exact ⟨node, hn, rfl, hr⟩
  · rintro ⟨node, hn, rfl, hr⟩; exact ⟨node, ⟨hn, hr⟩, rfl⟩

theorem mem_ids_of_mem_roots {graph : Graph} {id : String} (h : id ∈ graph.roots) : id ∈ graph.ids := by
  obtain ⟨node, hn, rfl, -⟩ := mem_roots.1 h
  exact List.mem_map.2 ⟨node, hn, rfl⟩

theorem mem_ids_of_leads {graph : Graph} {a b : String} (h : Leads graph.known a b) : b ∈ graph.ids := by
  obtain ⟨c, hc, -, rfl⟩ := h
  exact (mem_known.1 hc).2.2

/-! ## The two rounds of the walk -/

/-- What is recorded when the walk from the roots is over and the nodes that are left come. -/
def fromRoots (graph : Graph) : List String := walk graph.known [] graph.roots

theorem order_eq (graph : Graph) : graph.order = walk graph.known graph.fromRoots graph.ids :=
  walk_append [] graph.roots graph.ids

theorem fromRoots_prefix_order (graph : Graph) : graph.fromRoots <+: graph.order := by
  rw [order_eq]; exact prefix_walk _ _

theorem mem_fromRoots {graph : Graph} {id : String} : id ∈ graph.fromRoots ↔ graph.FromRoot id := by
  unfold fromRoots FromRoot
  simp only [mem_walk_iff, mem_roots]

/-- The place of an id in the order. -/
def place (graph : Graph) (id : String) : Nat := graph.order.idxOf id

theorem nodup_order (graph : Graph) : graph.order.Nodup := nodup_walk List.nodup_nil _

theorem mem_order {graph : Graph} {id : String} : id ∈ graph.order ↔ id ∈ graph.ids := by
  constructor
  · refine walk_within (P := (· ∈ graph.ids)) (fun _ _ _ => mem_ids_of_leads) (by simp) ?_ id
    intro x hx
    rcases List.mem_append.1 hx with hx | hx
    · exact mem_ids_of_mem_roots hx
    · exact hx
  · intro h
    exact mem_walk_of_stack (List.mem_append_right _ h)

theorem place_lt_of_fromRoot {graph : Graph} {a b : String} (ha : graph.FromRoot a)
    (hb : ¬ graph.FromRoot b) : graph.place a < graph.place b :=
  idxOf_prefix_lt graph.fromRoots_prefix_order (mem_fromRoots.2 ha) fun h => hb (mem_fromRoots.1 h)

theorem source_before {graph : Graph} {id : String} (h : graph.FromRoot id) (hroot : ¬ graph.IsRoot id) :
    ∃ c ∈ graph.known, c.target = id ∧ graph.place c.source < graph.place id := by
  have hid := mem_fromRoots.2 h
  rcases (walk_sourced graph.roots).behind id hid with hr | ⟨c, hc, rfl, hlt⟩
  · exact absurd (mem_roots.1 hr) hroot
  · have hs : c.source ∈ graph.fromRoots :=
      List.idxOf_lt_length_iff.1 (hlt.trans (List.idxOf_lt_length_of_mem hid))
    refine ⟨c, hc, rfl, ?_⟩
    unfold place
    rw [idxOf_prefix_eq graph.fromRoots_prefix_order hs, idxOf_prefix_eq graph.fromRoots_prefix_order hid]
    exact hlt

/-- The order lists the ids of the nodes, each once; the ids that a root leads to stand before all
others, and each of them that is no root itself stands behind the source of a known connection to
it. -/
theorem order_lists_ids_roots_first (graph : Graph) :
    graph.order.Nodup ∧ (∀ id, id ∈ graph.order ↔ id ∈ graph.ids) ∧
      (∀ a b, graph.FromRoot a → ¬ graph.FromRoot b → graph.place a < graph.place b) ∧
      ∀ id, graph.FromRoot id → ¬ graph.IsRoot id →
        ∃ c ∈ graph.known, c.target = id ∧ graph.place c.source < graph.place id :=
  ⟨nodup_order graph, fun _ => mem_order, fun _ _ => place_lt_of_fromRoot, fun _ => source_before⟩

end Workflows.Graph
