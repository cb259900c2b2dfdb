/-
The graph of nodes and connections that the editor draws and that exports describe. Connections
refer to nodes by their ids, which may repeat or be unknown.
-/
import Workflows.Graph.Kind

namespace Workflows

/-- A node. Its kind follows from its declared type and its parameters; `Node.make` keeps that. -/
structure Node where
  id : String
  declaredType : String
  displayName : Value
  parameters : Value
  position : List Binary64
  needsConfiguration : Bool
  kind : NodeKind
deriving DecidableEq, Repr

/-- A connection from an output of one node to an input of another. -/
structure Connection where
  source : String
  output : Int
  target : String
  input : Int
deriving DecidableEq, Repr

/-- A graph, with the warnings of whoever read it. -/
structure Graph where
  name : Value := .text ""
  nodes : List Node := []
  connections : List Connection := []
  warnings : List String := []
deriving DecidableEq, Repr

namespace Node

/-- A node with the kind that its declared type and its parameters give it. -/
def make (id declaredType : String) (displayName parameters : Value) (position : List Binary64)
    (needsConfiguration : Bool) : Except Fault Node :=
  (NodeKind.classify declaredType parameters).map fun kind =>
    { id, declaredType, displayName, parameters, position, needsConfiguration, kind }

/-- The position of a node that has none. -/
def origin : List Binary64 := [.zero false, .zero false]

def toValue (node : Node) : Value :=
  .object [("id", .text node.id), ("declared_type", .text node.declaredType),
    ("display_name", node.displayName), ("parameters", node.parameters),
    ("position", .list (node.position.map .float)), ("kind", .text node.kind.word),
    ("needs_configuration", .bool node.needsConfiguration)]

end Node

def Connection.toValue (connection : Connection) : Value :=
  .object [("source_node_id", .text connection.source),
    ("source_output_index", .int connection.output),
    ("target_node_id", .text connection.target), ("target_input_index", .int connection.input)]

namespace Graph

/-- The ids of the nodes, in order and with repetitions. -/
def ids (graph : Graph) : List String := graph.nodes.map (·.id)

/-- The first node with an id. -/
def node? (graph : Graph) (id : String) : Option Node := graph.nodes.find? (·.id == id)

/-- Adds a warning. -/
def warn (graph : Graph) (warning : String) : Graph :=
  { graph with warnings := graph.warnings ++ [warning] }

/-- Adds a node. -/
def addNode (graph : Graph) (node : Node) : Graph := { graph with nodes := graph.nodes ++ [node] }

/-- Adds a connection. -/
def connect (graph : Graph) (connection : Connection) : Graph :=
  { graph with connections := graph.connections ++ [connection] }

def toValue (graph : Graph) : Value :=
  .object [("name", graph.name), ("nodes", .list (graph.nodes.map Node.toValue)),
    ("connections", .list (graph.connections.map Connection.toValue))]

/-! ## Known connections -/

/-- Both ends of a connection are nodes. -/
def knows (graph : Graph) (connection : Connection) : Bool :=
  graph.ids.contains connection.source && graph.ids.contains connection.target

/-- The connections between nodes. -/
def known (graph : Graph) : List Connection := graph.connections.filter graph.knows

/-- A warning for each connection with an end that is no node. -/
def unknownWarnings (graph : Graph) : List String :=
  (graph.connections.filter fun c => !graph.knows c).map fun c =>
    "Ignoring connection " ++ c.source ++ " -> " ++ c.target ++ ": unknown node"

/-- A connection comes before another of the same node: by its output, then by its input. -/
def portBefore (a b : Connection) : Bool :=
  a.output < b.output || (a.output == b.output && a.input < b.input)

/-- Puts a connection in front of the first one that it need not follow. -/
def insertByPort (c : Connection) : List Connection → List Connection
  | [] => [c]
  | d :: ds => if portBefore d c then d :: insertByPort c ds else c :: d :: ds

/-- Connections by their ports; those with equal ports stay in order. -/
def sortByPort (cs : List Connection) : List Connection := cs.foldr insertByPort []

/-- Of some connections those that leave a node, by their ports. -/
def leaving (cs : List Connection) (id : String) : List Connection :=
  sortByPort (cs.filter (·.source == id))

/-- Where some connections lead to from a node, by their ports. -/
def targets (cs : List Connection) (id : String) : List String := (leaving cs id).map (·.target)

/-! ## Connections that a traversal has not met -/

/-- Of some connections those that leave none of the given nodes. -/
def unmet (cs : List Connection) (met : List String) : List Connection :=
  cs.filter fun c => !met.contains c.source

theorem mem_unmet {cs : List Connection} {met : List String} {c : Connection} :
    c ∈ unmet cs met ↔ c ∈ cs ∧ c.source ∉ met := by
  simp [unmet, List.mem_filter]

theorem leaving_of_none {cs : List Connection} {id : String} (h : ∀ c ∈ cs, c.source ≠ id) :
    leaving cs id = [] := by
  have none : cs.filter (·.source == id) = [] := by
    rw [List.filter_eq_nil_iff]
    intro c hc; simpa using h c hc
  unfold leaving; rw [none]; rfl

/-- Meeting a node leaves fewer connections unmet, unless none leaves it. -/
theorem unmet_lt {cs : List Connection} {met met' : List String} {id : String}
    (h : ∀ x, x ∈ met' ↔ x = id ∨ x ∈ met) (hid : id ∉ met) (hne : leaving cs id ≠ []) :
    (unmet cs met').length < (unmet cs met).length := by
  have split : unmet cs met' = (unmet cs met).filter fun c => !met'.contains c.source := by
    unfold unmet
    rw [List.filter_filter]
    refine List.filter_congr fun c _ => ?_
    simp only [List.contains_eq_mem, h]
    by_cases hm : c.source ∈ met <;> simp [hm]
  rw [split, List.length_filter_lt_length_iff_exists]
  refine Classical.byContradiction fun hno => hne (leaving_of_none fun c hc he => hno ?_)
  exact ⟨c, mem_unmet.2 ⟨hc, he ▸ hid⟩, by simp [h, he]⟩

theorem unmet_le (cs : List Connection) {met met' : List String} (h : ∀ x ∈ met, x ∈ met') :
    (unmet cs met').length ≤ (unmet cs met).length := by
  rw [unmet, unmet, ← List.countP_eq_length_filter, ← List.countP_eq_length_filter]
  refine List.countP_mono_left fun c _ hc => ?_
  simp only [List.contains_eq_mem, Bool.not_eq_true', decide_eq_false_iff_not] at hc ⊢
  exact fun hm => hc (h _ hm)

end Graph

end Workflows
