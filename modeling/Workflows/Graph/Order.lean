/-
The order in which the nodes of a graph are run: a depth-first walk from the entry nodes, which are
the triggers and the nodes that no known connection leads to, and then from whatever nodes are
left. A node is recorded when the walk first meets it, so cycles and joins need no further care.
-/
import Workflows.Graph.Basic

namespace Workflows.Graph

/-- The nodes that a walk begins with, in order. -/
def roots (graph : Graph) : List String :=
  let known := graph.known
  (graph.nodes.filter fun node =>
    node.kind == .trigger || !known.any fun c => c.target == node.id).map (·.id)

/-- Walks on along some connections from a stack of ids, given the ids that are recorded already.
An id on top of the stack is dropped if it is recorded; else it is recorded and the targets of its
connections take its place. -/
def walk (cs : List Connection) (recorded : List String) : List String → List String
  | [] => recorded
  | id :: stack =>
    if id ∈ recorded then walk cs recorded stack
    else walk cs (recorded ++ [id]) (targets cs id ++ stack)
termination_by stack => ((unmet cs recorded).length, stack.length)
decreasing_by
  · exact Prod.Lex.right _ (by simp)
  · rename_i hid
    have met : ∀ x, x ∈ recorded ++ [id] ↔ x = id ∨ x ∈ recorded := by simp [or_comm]
    by_cases hne : leaving cs id = []
    · have grows : ∀ x ∈ recorded, x ∈ recorded ++ [id] := by simp +contextual
      have le := unmet_le cs grows
      simp only [targets, hne, List.map_nil, List.nil_append, List.length_cons]
      rcases Nat.lt_or_eq_of_le le with lt | eq
      · exact Prod.Lex.left _ _ lt
      · rw [eq]; exact Prod.Lex.right _ (Nat.lt_succ_self _)
    · exact Prod.Lex.left _ _ (unmet_lt met hid hne)

/-- The ids of all nodes in the order of the walk. -/
def order (graph : Graph) : List String := walk graph.known [] (graph.roots ++ graph.ids)

end Workflows.Graph
