/-
The connections that close a cycle. They are found by a depth-first search through all nodes in
order: a connection closes a cycle if it leads back to a node on the way to it.
-/
import Workflows.Graph.Basic

namespace Workflows.Graph

/-- How far a search has come: the ids it has met and the connections that close cycles, in the
order in which it came to them. -/
structure Search where
  seen : List String := []
  closing : List Connection := []

namespace Search

/-- Meets a node. -/
def enter (search : Search) (id : String) : Search := { search with seen := search.seen ++ [id] }

/-- Finds a connection that closes a cycle. -/
def close (search : Search) (c : Connection) : Search :=
  { search with closing := search.closing ++ [c] }

end Search

/-- A node on the way of a search, with its connections that are still to be tried. -/
structure Stop where
  id : String
  untried : List Connection

/-- The ids on a way. -/
def wayIds (way : List Stop) : List String := way.map (·.id)

/-- What is left to do on a way: connections to try and stops to go back from. -/
def toDo : List Stop → Nat
  | [] => 0
  | stop :: way => 2 * stop.untried.length + 1 + toDo way

/-- Searches on along some connections. The way from the node where the search began has the latest
stop first; a stop is left when all of its connections are tried. -/
def pursue (cs : List Connection) (search : Search) : List Stop → Search
  | [] => search
  | ⟨_, []⟩ :: way => pursue cs search way
  | ⟨id, c :: untried⟩ :: way =>
    if c.target ∈ id :: wayIds way then pursue cs (search.close c) (⟨id, untried⟩ :: way)
    else if c.target ∈ search.seen then pursue cs search (⟨id, untried⟩ :: way)
    else
      pursue cs (search.enter c.target)
        (⟨c.target, leaving cs c.target⟩ :: ⟨id, untried⟩ :: way)
termination_by way => ((unmet cs search.seen).length, toDo way)
decreasing_by
  · exact Prod.Lex.right _ (by simp [toDo])
  · exact Prod.Lex.right _ (by simp [toDo])
  · exact Prod.Lex.right _ (by simp [toDo])
  · rename_i hseen
    have met : ∀ x, x ∈ search.seen ++ [c.target] ↔ x = c.target ∨ x ∈ search.seen := by
      simp [or_comm]
    by_cases hne : leaving cs c.target = []
    · have grows : ∀ x ∈ search.seen, x ∈ search.seen ++ [c.target] := by simp +contextual
      have le := unmet_le cs grows
      rcases Nat.lt_or_eq_of_le le with lt | eq
      · exact Prod.Lex.left _ _ lt
      · simp only [Search.enter, eq, hne]
        exact Prod.Lex.right _ (by simp [toDo]; omega)
    · exact Prod.Lex.left _ _ (unmet_lt met hseen hne)

/-- Searches from a node, unless it was met before. -/
def searchFrom (cs : List Connection) (search : Search) (id : String) : Search :=
  if id ∈ search.seen then search else pursue cs (search.enter id) [⟨id, leaving cs id⟩]

/-- The search through all nodes. -/
def search (graph : Graph) : Search := graph.ids.foldl (searchFrom graph.known) {}

/-- The connections that close a cycle, in the order in which the search finds them. -/
def backEdges (graph : Graph) : List Connection := graph.search.closing

end Workflows.Graph
