/-
Graphs that are written out and read again. Both readers fill in what is missing: a node has an id, something
to be shown by, an object of parameters and a position. So every default of the plain form is harmless on a
graph that was read: what is written of it is read as the same graph, and nothing is passed over.
-/
import Workflows.Proofs.Import.Nodes

namespace Workflows

/-! ## Filled graphs -/

/-- A node in which nothing is left to be filled in, and which is of the kind that its type and its parameters
give it. -/
structure Node.Filled (node : Node) : Prop where
  id : node.id ≠ ""
  shown : node.displayName.isTrue = true
  parameters : ∃ params, node.parameters = .object params
  position : node.position ≠ [] ∧ node.position.length ≤ 2
  kind : NodeKind.classify node.declaredType node.parameters = .ok node.kind

/-- A graph with a text for its name, of filled nodes. -/
structure Graph.Filled (graph : Graph) : Prop where
  name : ∃ s, graph.name = .text s
  nodes : ∀ node ∈ graph.nodes, node.Filled

namespace Graph

/-! ## Parts of nodes and of connections -/

theorem isTrue_firstTrue {last : Value} (h : last.isTrue = true) : ∀ vs : List Value, (firstTrue last vs).isTrue = true
  | [] => h
  | v :: vs => by
    rw [firstTrue]
    split
    · assumption
    · exact isTrue_firstTrue h vs

/-- A value that counts as true has an item, if it has items. -/
theorem elements_ne_nil {v : Value} (h : v.isTrue = true) {items : List Value} (hitems : v.elements = .ok items) :
    items ≠ [] := by
  cases v with
  | text s | list items | object members | table entries =>
    cases hitems
    simpa [Value.isTrue] using h
  | _ => cases hitems

/-- A position that is read has one coordinate or two. -/
theorem readPosition_eq_ok {raw : Value} {xs : List Binary64} (h : readPosition raw = .ok xs) :
    xs ≠ [] ∧ xs.length ≤ 2 := by
  have horigin : Node.origin ≠ [] ∧ Node.origin.length ≤ 2 := by decide
  unfold readPosition at h
  split at h
  · next htrue =>
    split at h
    · next ys hys =>
      cases h
      cases hitems : raw.elements with
      | error fault => rw [hitems] at hys; cases hys
      | ok items =>
        rw [hitems] at hys
        -- there are as many numbers as items, of which a value that is not empty has one
        have hlength : items.length = ys.length := (forall₂_of_mapM hys).length_eq
        have hitem := List.length_pos_iff.2 (elements_ne_nil htrue hitems)
        refine ⟨List.ne_nil_of_length_pos ?_, List.length_take_le 2 ys⟩
        rw [List.length_take]
        omega
    · split at h <;> cases h
      exact horigin
  · cases h
    exact horigin

theorem mapM_toFloat : ∀ xs : List Binary64, (xs.map Value.float).mapM Value.toFloat = .ok xs
  | [] => rfl
  | x :: xs => by
    rw [List.map_cons, List.mapM_cons, mapM_toFloat xs]
    rfl

/-- Coordinates are read from a list of them. -/
theorem readPosition_floats {xs : List Binary64} (hne : xs ≠ []) (hlength : xs.length ≤ 2) :
    readPosition (.list (xs.map .float)) = .ok xs := by
  have htrue : (Value.list (xs.map .float)).isTrue = true := by simpa [Value.isTrue] using hne
  have hnumbers : (Value.list (xs.map .float)).elements.bind (fun items => items.mapM Value.toFloat) = .ok xs :=
    mapM_toFloat xs
  simp only [readPosition, htrue, if_true, hnumbers, List.take_of_length_le hlength]

theorem toInt_orElse (n : Int) : ((Value.int n).orElse (.int 0)).toInt = .ok n := by
  by_cases h : n = 0
  · rw [h]
    rfl
  · simp [Value.orElse, Value.isTrue, h, Value.toInt]

/-! ## Reading what was written -/

section

variable (graph : Graph) (place : Nat)

/-- A filled node is read from its value. -/
theorem addPayloadNode_toValue {node : Node} (filled : node.Filled) :
    addPayloadNode graph place node.toValue = .ok (graph.addNode node) := by
  obtain ⟨id, declared, shown, parameters, position, needs, kind⟩ := node
  obtain ⟨hid, hshown, ⟨params, rfl⟩, ⟨hne, hlength⟩, hkind⟩ := filled
  dsimp only at hid hshown hne hlength hkind
  have hset : (Value.text id).isUnset = false := by simpa [Value.isUnset] using hid
  have hdeclared : (firstTrue (.text "") [.text declared, .null]).display = declared := by
    by_cases h : declared = ""
    · rw [h]
      rfl
    · simp [firstTrue, Value.isTrue, h, Value.display]
  have hshown : firstTrue (.text id) [shown, .null] = shown := by rw [firstTrue, if_pos hshown]
  have hmade : Node.make id (firstTrue (.text "") [.text declared, .null]).display
      (firstTrue (.text id) [shown, .null]) (.object params) position needs =
      .ok ⟨id, declared, shown, .object params, position, needs, kind⟩ := by
    rw [hdeclared, hshown, Node.make, hkind]
    rfl
  -- the writer leaves out no member that the reader asks for, so that each is found by computing
  simp only [addPayloadNode, Node.toValue]
  show (if (Value.text id).isUnset then _ else (readNode _ (.text id)).map graph.addNode) = _
  rw [hset, if_neg (by decide)]
  simp only [readNode]
  show ((readPosition (.list (position.map .float))).bind _).map graph.addNode = _
  rw [readPosition_floats hne hlength]
  exact congrArg (Except.map graph.addNode) hmade

/-- A connection is read from its value. -/
theorem addPayloadConnection_toValue (c : Connection) :
    addPayloadConnection graph place c.toValue = .ok (graph.connect c) := by
  have houtput : readPort c.toValue "source_output_index" = .ok c.output := toInt_orElse c.output
  have hinput : readPort c.toValue "target_input_index" = .ok c.input := toInt_orElse c.input
  have hread : readConnection c.toValue = .ok c := by
    rw [readConnection, houtput, hinput]
    rfl
  rw [addPayloadConnection, hread]

end

/-- Entries that were written of things are read as these, one after another. -/
theorem addEntries_written {α : Type} (add : Graph → Nat → Value → Except Fault Graph) (write : α → Value)
    (put : Graph → α → Graph) : ∀ {xs : List α}, (∀ graph place, ∀ x ∈ xs, add graph place (write x) = .ok (put graph x)) →
      ∀ graph place, addEntries add graph place (xs.map write) = .ok (xs.foldl put graph)
  | [], _, _, _ => rfl
  | x :: xs, h, graph, place => by
    rw [List.map_cons, addEntries, h graph place x List.mem_cons_self]
    exact addEntries_written add write put (fun graph place y hy => h graph place y (List.mem_cons_of_mem _ hy)) _ _

theorem foldl_addNode (nodes : List Node) (graph : Graph) :
    nodes.foldl addNode graph = { graph with nodes := graph.nodes ++ nodes } := by
  induction nodes generalizing graph with
  | nil => simp
  | cons node nodes ih => simp [ih, addNode]

theorem foldl_connect (connections : List Connection) (graph : Graph) :
    connections.foldl connect graph = { graph with connections := graph.connections ++ connections } := by
  induction connections generalizing graph with
  | nil => simp
  | cons c connections ih => simp [ih, connect]

theorem entriesOf_list (items : List Value) : entriesOf (.list items) = .ok items := by
  cases items <;> rfl

/-- A filled graph is read from its value, without warnings. -/
theorem ofPayload_toValue {graph : Graph} (filled : graph.Filled) :
    ofPayload graph.toValue = .ok { graph with warnings := [] } := by
  obtain ⟨name, hname⟩ := filled.name
  have hshown : ((Value.text name).orElse (.text "")).display = name := by
    by_cases h : name = ""
    · rw [h]
      rfl
    · rw [Value.orElse_text h, Value.display]
  have hnodes : addEntries addPayloadNode { name := .text name } 1 (graph.nodes.map Node.toValue) =
      .ok { name := .text name, nodes := graph.nodes } := by
    rw [addEntries_written addPayloadNode Node.toValue addNode
      (fun _ _ node hnode => addPayloadNode_toValue _ _ (filled.nodes node hnode)), foldl_addNode, List.nil_append]
  have hconnections : addEntries addPayloadConnection { name := .text name, nodes := graph.nodes } 1
      (graph.connections.map Connection.toValue) =
      .ok { name := .text name, nodes := graph.nodes, connections := graph.connections } := by
    rw [addEntries_written addPayloadConnection Connection.toValue connect
      (fun _ _ c _ => addPayloadConnection_toValue _ _ c), foldl_connect, List.nil_append]
  show ((entriesOf (.list (graph.nodes.map Node.toValue))).bind fun nodes =>
    (addEntries addPayloadNode { name := .text (graph.name.orElse (.text "")).display } 1 nodes).bind fun read =>
      (entriesOf (.list (graph.connections.map Connection.toValue))).bind (addEntries addPayloadConnection read 1)) = _
  rw [hname, hshown, entriesOf_list, Except.bind, hnodes, Except.bind, entriesOf_list, Except.bind, hconnections,
    ← hname]

/-! ## Graphs that were read -/

/-- What reading one entry keeps, reading all of them keeps. -/
theorem addEntries_keeps {P : Graph → Prop} {add : Graph → Nat → Value → Except Fault Graph}
    (keeps : ∀ {graph after place entry}, P graph → add graph place entry = .ok after → P after) :
    ∀ {entries graph place after}, P graph → addEntries add graph place entries = .ok after → P after
  | [], _, _, _, h, hafter => Except.ok.inj hafter ▸ h
  | entry :: entries, graph, place, after, h, hafter => by
    obtain ⟨next, hadd, hrest⟩ := bind_eq_ok.1 hafter
    exact addEntries_keeps keeps (keeps h hadd) hrest

/-- The id of the node that an entry stands for. -/
def entryId? : Value → Option String
  | .object members =>
    let id := Object.getOrNull members "id"
    if id.isUnset then none else some id.display
  | _ => none

/-- The warning that the entry at a place is passed over. -/
def skipWarning (place : Nat) : String := "Skipping node #" ++ toString place ++ ": expected an object with an id"

/-- A node that is read has its id, and is filled. -/
theorem readNode_eq_ok {members : Object} {id : Value} (hid : id.isUnset = false) {node : Node}
    (h : readNode members id = .ok node) : node.id = id.display ∧ node.Filled := by
  have hshown : id.display ≠ "" := Value.display_ne_empty hid
  obtain ⟨position, hposition, h⟩ := bind_eq_ok.1 h
  obtain ⟨kind, hkind, rfl⟩ := Node.make_eq_ok h
  refine ⟨rfl, hshown, isTrue_firstTrue (by simpa [Value.isTrue] using hshown) _, ?_, readPosition_eq_ok hposition,
    hkind⟩
  dsimp only
  split <;> exact ⟨_, rfl⟩

/-- An entry without an id is passed over with a warning; of any other a filled node with its id is added. -/
theorem addPayloadNode_eq_ok {graph after : Graph} {place : Nat} {entry : Value}
    (h : addPayloadNode graph place entry = .ok after) :
    (entryId? entry = none ∧ after = graph.warn (skipWarning place)) ∨
      ∃ node, entryId? entry = some node.id ∧ node.Filled ∧ after = graph.addNode node := by
  cases entry with
  | object members =>
    simp only [addPayloadNode] at h
    simp only [entryId?]
    split at h
    · next hunset =>
      cases h
      exact .inl ⟨if_pos hunset, rfl⟩
    · next hset =>
      obtain ⟨node, hnode, rfl⟩ := map_eq_ok.1 h
      obtain ⟨hid, hfilled⟩ := readNode_eq_ok (Bool.eq_false_iff.2 hset) hnode
      exact .inr ⟨node, by rw [if_neg hset, hid], hfilled, rfl⟩
  | _ =>
    cases h
    exact .inl ⟨rfl, rfl⟩

/-- An entry adds a connection or a warning. -/
theorem addPayloadConnection_eq_ok {graph after : Graph} {place : Nat} {entry : Value}
    (h : addPayloadConnection graph place entry = .ok after) :
    (∃ c, after = graph.connect c) ∨ ∃ reason, after = graph.warn ("Skipping connection #" ++ reason) := by
  unfold addPayloadConnection at h
  split at h
  · cases h
    exact .inl ⟨_, rfl⟩
  · split at h <;> cases h
    exact .inr ⟨_, by simp only [String.append_assoc]; rfl⟩

theorem Filled.addPayloadNode {graph after : Graph} {place : Nat} {entry : Value} (filled : graph.Filled)
    (h : addPayloadNode graph place entry = .ok after) : after.Filled := by
  rcases addPayloadNode_eq_ok h with ⟨-, rfl⟩ | ⟨node, -, hnode, rfl⟩
  · exact ⟨filled.name, filled.nodes⟩
  · exact ⟨filled.name, List.forall_mem_append.2 ⟨filled.nodes, List.forall_mem_singleton.2 hnode⟩⟩

theorem Filled.addPayloadConnection {graph after : Graph} {place : Nat} {entry : Value} (filled : graph.Filled)
    (h : addPayloadConnection graph place entry = .ok after) : after.Filled := by
  rcases addPayloadConnection_eq_ok h with ⟨c, rfl⟩ | ⟨reason, rfl⟩
  · exact ⟨filled.name, filled.nodes⟩
  · exact ⟨filled.name, filled.nodes⟩

/-- A graph of which only the name is known is filled. -/
theorem filled_named (name : String) : Graph.Filled { name := .text name } := by
  refine ⟨⟨name, rfl⟩, fun node hnode => ?_⟩
  cases hnode

/-- The graph of a payload is read in two passes, over its entries for nodes and over those for connections. -/
theorem ofPayload_eq_ok {payload : Value} {graph : Graph} (h : ofPayload payload = .ok graph) :
    ∃ members name entries read connections, payload.membersFor "get" = .ok members ∧
      entriesOf (Object.getOrNull members "nodes") = .ok entries ∧
      addEntries addPayloadNode { name := .text name } 1 entries = .ok read ∧
      entriesOf (Object.getOrNull members "connections") = .ok connections ∧
      addEntries addPayloadConnection read 1 connections = .ok graph := by
  simp only [ofPayload, bind, bind_eq_ok] at h
  obtain ⟨members, hmembers, entries, hentries, read, hread, connections, hconnections, h⟩ := h
  exact ⟨members, _, entries, read, connections, hmembers, hentries, hread, hconnections, h⟩

/-- A graph that is read from a payload is filled. -/
theorem filled_ofPayload {payload : Value} {graph : Graph} (h : ofPayload payload = .ok graph) : graph.Filled := by
  obtain ⟨_, name, _, read, _, _, _, hnodes, _, hconnections⟩ := ofPayload_eq_ok h
  have hread : read.Filled := addEntries_keeps Filled.addPayloadNode (filled_named name) hnodes
  exact addEntries_keeps Filled.addPayloadConnection hread hconnections

end Graph

/-! ## Imports -/

namespace Import

/-- An export whose name is a text, and whose entries for nodes have objects for parameters, wherever these are
filled in. -/
structure PlainExport (exported : Object) : Prop where
  name : (Object.getOrNull exported "name").isTrue = true → ∃ s, Object.getOrNull exported "name" = .text s
  parameters : ∀ entries, ((Object.getOrNull exported "nodes").orElse (.list [])).elements = .ok entries →
    ∀ members, .object members ∈ entries → (Object.getOrNull members "parameters").isTrue = true →
      ∃ params, Object.getOrNull members "parameters" = .object params

/-- The position of an imported node has two coordinates. -/
theorem importPosition_eq_ok {place : Nat} {raw : Value} {position : List Binary64}
    (h : importPosition place raw = .ok position) : ∃ x y, position = [x, y] := by
  simp only [importPosition, bind, bind_eq_ok] at h
  obtain ⟨x, -, y, -, h⟩ := h
  exact ⟨x, y, (Except.ok.inj h).symm⟩

theorem filled_addAll {entries : List Value} (hentries : ∀ members, .object members ∈ entries →
      (Object.getOrNull members "parameters").isTrue = true →
        ∃ params, Object.getOrNull members "parameters" = .object params)
    {table after : NodeTable} (filled : ∀ node ∈ table.nodes, node.Filled) {place : Nat}
    (h : table.addAll place entries = .ok after) : ∀ node ∈ after.nodes, node.Filled := by
  induction entries generalizing table place with
  | nil => exact Except.ok.inj h ▸ filled
  | cons entry entries ih =>
    obtain ⟨next, hadd, hrest⟩ := bind_eq_ok.1 h
    refine ih (fun members hmem => hentries members (List.mem_cons_of_mem _ hmem)) ?_ hrest
    -- an entry that is no object adds no node; of any other the id is a number, and so not empty
    rcases NodeTable.add_eq_ok hadd with hnodes | ⟨members, node, name, declared, position, rfl, hnodes, hname, hposition, hnode⟩
    · rwa [hnodes]
    · obtain ⟨kind, hkind, rfl⟩ := Node.make_eq_ok hnode
      obtain ⟨x, y, rfl⟩ := importPosition_eq_ok hposition
      rw [hnodes]
      refine List.forall_mem_append.2 ⟨filled, List.forall_mem_singleton.2 ⟨?_, ?_, ?_, by simp, hkind⟩⟩
      · exact Value.display_ne_empty (v := .int (table.nodes.length + 1 : Nat)) rfl
      · simpa [Value.isTrue] using hname
      · unfold Value.orElse
        split
        · next htrue => exact hentries members List.mem_cons_self htrue
        · exact ⟨_, rfl⟩

/-- The graph of a plain export is filled. -/
theorem filled_importExport {exported : Object} (plain : PlainExport exported) {imported : Imported}
    (h : importExport (.object exported) = .ok imported) : imported.graph.Filled := by
  obtain ⟨hname, entries, table, hentries, htable, hnodes⟩ := importExport_eq_ok h
  refine ⟨?_, ?_⟩
  · rw [hname]
    unfold Value.orElse
    split
    · next htrue => exact plain.name htrue
    · exact ⟨_, rfl⟩
  · rw [hnodes]
    exact filled_addAll (plain.parameters entries hentries) (fun node hnode => by cases hnode) htable

end Import

namespace Graph

/-- Graphs that were read: from some payload, or from a plain export. -/
inductive WasRead : Graph → Prop
  | payload {payload : Value} {graph : Graph} (h : ofPayload payload = .ok graph) : WasRead graph
  | plainExport {exported : Object} (plain : Import.PlainExport exported) {imported : Import.Imported}
      (h : Import.importExport (.object exported) = .ok imported) : WasRead imported.graph

theorem WasRead.filled {graph : Graph} : graph.WasRead → graph.Filled
  | .payload h => filled_ofPayload h
  | .plainExport plain h => Import.filled_importExport plain h

/-- Warnings of the reading do not change what a graph is turned into, apart from the warnings. -/
theorem toSteps_unwarned (usualDelay : Int) (graph : Graph) :
    (toSteps usualDelay { graph with warnings := [] }).map (fun c => (c.steps, c.needsConfiguration)) =
      (toSteps usualDelay graph).map fun c => (c.steps, c.needsConfiguration) := by
  simp only [toSteps, bind]
  have horder : orderedNodes { graph with warnings := [] } = graph.orderedNodes := rfl
  rw [horder]
  cases graph.orderedNodes.mapM (Node.toStep usualDelay) <;> rfl

/-- A graph that was read is read again from what is written of it: the same graph, its dangling connections
included, without warnings. So it is turned into the same steps, of which the same need configuration. -/
theorem written_graph_reads_back {graph : Graph} (read : graph.WasRead) :
    ∃ again, ofPayload graph.toValue = .ok again ∧ again.warnings = [] ∧ again.name = graph.name ∧
      again.nodes = graph.nodes ∧ again.connections = graph.connections ∧
      ∀ usualDelay, (again.toSteps usualDelay).map (fun c => (c.steps, c.needsConfiguration)) =
        (graph.toSteps usualDelay).map fun c => (c.steps, c.needsConfiguration) :=
  ⟨_, ofPayload_toValue read.filled, rfl, rfl, rfl, rfl, fun usualDelay => toSteps_unwarned usualDelay graph⟩

/-- A payload with a nameless node at one coordinate, a node with a truth value for an id, a connection to no node,
and two entries that cannot be used. -/
def roughPayload : Value :=
  .object [
    ("nodes", .list [
      .object [("id", .int 7), ("type", .text "code"), ("position", .list [.text "3"])],
      .null,
      .object [("id", .bool false), ("name", .int 5), ("parameters", .list [])]]),
    ("connections", .list [
      .object [("source_node_id", .int 7), ("source_output_index", .text "2"), ("target_node_id", .text "gone")],
      .text "False -> 7"])]

/-- What is read from it. -/
def roughGraph : Graph where
  name := .text ""
  nodes := [
    ⟨"7", "code", .text "7", .object [], [⟨false, ⟨1024, by decide⟩, ⟨0x8000000000000, by decide⟩⟩], false, .code⟩,
    ⟨"False", "", .int 5, .object [], Node.origin, false, .unsupported .generic⟩]
  connections := [⟨"7", 2, "gone", 0⟩]
  warnings := ["Skipping node #2: expected an object with an id",
    "Skipping connection #2: malformed entry (TypeError: string indices must be integers, not 'str')"]

theorem ofPayload_roughPayload : ofPayload roughPayload = .ok roughGraph := by decide +kernel

theorem rough_graph_reads_back : ofPayload roughPayload = .ok roughGraph ∧
    ∃ again, ofPayload roughGraph.toValue = .ok again ∧ again.warnings = [] ∧ again.name = roughGraph.name ∧
      again.nodes = roughGraph.nodes ∧ again.connections = roughGraph.connections ∧
      ∀ usualDelay, (again.toSteps usualDelay).map (fun c => (c.steps, c.needsConfiguration)) =
        (roughGraph.toSteps usualDelay).map fun c => (c.steps, c.needsConfiguration) :=
  ⟨ofPayload_roughPayload, written_graph_reads_back (.payload ofPayload_roughPayload)⟩

end Graph

end Workflows
