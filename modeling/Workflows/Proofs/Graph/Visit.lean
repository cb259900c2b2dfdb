/-
The order in which a graph is run, as a plain recursion gives it: to visit a node is to do nothing
if it is recorded, and else to record it and to visit the targets of its connections one by one, by
ascending output and then input, as declared where both are equal. Visiting the entry nodes and then
all nodes gives the order of the walk, which keeps a stack instead: whatever lies below on the stack
are the visits that are still to be made when the one on top is over.
-/
import Workflows.Proofs.Graph.Port

namespace Workflows.Graph

/-! ## Visits -/

/-- What is recorded after a visit, behind what was recorded before it. -/
structure Visited (recorded : List String) where
  ids : List String
  grown : recorded <+: ids

/-- The targets of a node by the ports of the connections to them. -/
def targetsByPort (cs : List Connection) (id : String) : List String :=
  ((cs.filter (·.source == id)).mergeSort portLE).map (·.target)

theorem targets_eq (cs : List Connection) (id : String) : targets cs id = targetsByPort cs id := by
  unfold targets targetsByPort
  rw [leaving_eq_mergeSort]

/-- Recording a node leaves fewer connections unmet, or the node has no targets. -/
theorem unmet_record (cs : List Connection) {recorded : List String} {id : String} (h : id ∉ recorded) :
    (unmet cs (recorded ++ [id])).length < (unmet cs recorded).length ∨
      targetsByPort cs id = [] ∧ (unmet cs (recorded ++ [id])).length ≤ (unmet cs recorded).length := by
  by_cases hne : leaving cs id = []
  · refine Or.inr ⟨by rw [← targets_eq, targets, hne, List.map_nil], unmet_le cs fun x hx => ?_⟩
    exact List.mem_append_left _ hx
  · exact Or.inl (unmet_lt (by simp [or_comm]) h hne)

mutual

/-- Visits a node: if it is not recorded yet, it is, and its targets are visited. -/
def visit (cs : List Connection) (recorded : List String) (id : String) : Visited recorded :=
  if id ∈ recorded then ⟨recorded, List.prefix_refl _⟩
  else
    let after := visitAll cs (recorded ++ [id]) (targetsByPort cs id)
    ⟨after.ids, (List.prefix_append _ _).trans after.grown⟩
termination_by ((unmet cs recorded).length, 1)
decreasing_by
  rename_i hid
  rcases unmet_record cs hid with hlt | ⟨hnone, hle⟩
  · exact Prod.Lex.left _ _ hlt
  · rcases Nat.lt_or_eq_of_le hle with hlt | heq
    · exact Prod.Lex.left _ _ hlt
    · rw [hnone, heq]; exact Prod.Lex.right _ Nat.one_pos

/-- Visits nodes one by one. -/
def visitAll (cs : List Connection) (recorded : List String) (ids : List String) : Visited recorded :=
  match ids with
  | [] => ⟨recorded, List.prefix_refl _⟩
  | id :: rest =>
    let first := visit cs recorded id
    let last := visitAll cs first.ids rest
    ⟨last.ids, first.grown.trans last.grown⟩
termination_by ((unmet cs recorded).length, 2 * ids.length)
decreasing_by
  · exact Prod.Lex.right _ (by simp only [List.length_cons]; omega)
  · rcases Nat.lt_or_eq_of_le (unmet_le cs first.grown.subset) with hlt | heq
    · exact Prod.Lex.left _ _ hlt
    · rw [heq]; exact Prod.Lex.right _ (by simp only [List.length_cons]; omega)

end

section

variable {cs : List Connection} {recorded : List String} {id : String}

theorem visit_recorded (h : id ∈ recorded) : (visit cs recorded id).ids = recorded := by
  rw [visit, if_pos h]

theorem visit_new (h : id ∉ recorded) :
    (visit cs recorded id).ids = (visitAll cs (recorded ++ [id]) (targetsByPort cs id)).ids := by
  rw [visit, if_neg h]

theorem visitAll_nil : (visitAll cs recorded []).ids = recorded := by rw [visitAll]

theorem visitAll_cons (ids : List String) :
    (visitAll cs recorded (id :: ids)).ids = (visitAll cs (visit cs recorded id).ids ids).ids := by
  rw [visitAll]

theorem visitAll_append (first second : List String) :
    (visitAll cs recorded (first ++ second)).ids = (visitAll cs (visitAll cs recorded first).ids second).ids := by
  induction first generalizing recorded with
  | nil => rw [List.nil_append, visitAll_nil]
  | cons id first ih => rw [List.cons_append, visitAll_cons, visitAll_cons, ih]

/-! ## Visits against the walk -/

/-- The stack of a walk holds the visits that are still to be made. -/
theorem walk_eq_visitAll (stack : List String) : walk cs recorded stack = (visitAll cs recorded stack).ids := by
  fun_induction walk cs recorded stack with
  | case1 recorded => rw [visitAll_nil]
  | case2 recorded id stack hid ih => rw [ih, visitAll_cons, visit_recorded hid]
  | case3 recorded id stack hid ih => rw [ih, visitAll_append, visitAll_cons, visit_new hid, targets_eq]

/-- Ids that are recorded already may be left out of a stack. -/
theorem walk_filter {known : List String} (h : ∀ x ∈ known, x ∈ recorded) (stack : List String) :
    walk cs recorded (stack.filter (· ∉ known)) = walk cs recorded stack := by
  induction stack generalizing recorded with
  | nil => rfl
  | cons id stack ih =>
    by_cases hid : id ∈ known
    · rw [List.filter_cons_of_neg (by simpa using hid), walk_drop (h id hid), ih h]
    · rw [List.filter_cons_of_pos (by simpa using hid)]
      calc walk cs recorded (id :: stack.filter (· ∉ known))
        _ = walk cs (walk cs recorded [id]) (stack.filter (· ∉ known)) := walk_append recorded [id] _
        _ = walk cs (walk cs recorded [id]) stack := ih fun x hx => (prefix_walk recorded [id]).subset (h x hx)
        _ = walk cs recorded (id :: stack) := (walk_append recorded [id] stack).symm

/-- A walk that puts only those targets on its stack that are not recorded goes the same way. -/
theorem walk_record_unrecorded (h : id ∉ recorded) (stack : List String) :
    walk cs recorded (id :: stack) =
      walk cs (recorded ++ [id]) ((targets cs id).filter (· ∉ recorded ++ [id]) ++ stack) := by
  rw [walk_record h, walk_append, walk_append, walk_filter fun x hx => hx]

end

/-! ## The order of all visits -/

/-- The nodes that visits begin with: the triggers, and the nodes that no known connection leads to. -/
def entries (graph : Graph) : List String :=
  (graph.nodes.filter fun node => node.kind = .trigger ∨ ∀ c ∈ graph.known, c.target ≠ node.id).map (·.id)

theorem roots_eq_entries (graph : Graph) : graph.roots = graph.entries := by
  have same : ∀ node ∈ graph.nodes, (node.kind == .trigger || !graph.known.any fun c => c.target == node.id) =
      decide (node.kind = .trigger ∨ ∀ c ∈ graph.known, c.target ≠ node.id) := by
    intro node _
    rw [Bool.eq_iff_iff]
    simp
  unfold entries
  rw [← List.filter_congr same]
  rfl

/-- What is recorded when first the entry nodes are visited in order, and then all nodes. -/
def visitOrder (graph : Graph) : List String :=
  (visitAll graph.known (visitAll graph.known [] graph.entries).ids graph.ids).ids

/-- The walk gives the order of the visits. -/
theorem order_eq_visitOrder (graph : Graph) : graph.order = graph.visitOrder := by
  unfold order visitOrder
  rw [walk_eq_visitAll, visitAll_append, roots_eq_entries]

end Workflows.Graph
