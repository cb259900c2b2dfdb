/-
The nodes of an import. Their names are texts and their parameters those of the export, so that what holds of
all values of the export holds of them, and of the steps that they become.
-/
import Workflows.Import.Export
import Workflows.Proofs.Graph.Canonical

namespace Workflows

variable {P : Value → Prop}

/-- A node that is made is of the kind that its type and its parameters give it. -/
theorem Node.make_eq_ok {id declared : String} {name params : Value} {position : List Binary64} {needs : Bool}
    {node : Node} (h : Node.make id declared name params position needs = .ok node) :
    ∃ kind, NodeKind.classify declared params = .ok kind ∧ node = ⟨id, declared, name, params, position, needs, kind⟩ := by
  obtain ⟨kind, hkind, rfl⟩ := map_eq_ok.1 h
  exact ⟨kind, hkind, rfl⟩

namespace Import

namespace NodeTable

/-- An entry adds no node, or the one that is made of it: with the next id, and a text that is not empty for a
name. -/
theorem add_eq_ok {table after : NodeTable} {place : Nat} {entry : Value} (h : table.add place entry = .ok after) :
    after.nodes = table.nodes ∨ ∃ members node name declared position, entry = .object members ∧
      after.nodes = table.nodes ++ [node] ∧ name ≠ "" ∧
      importPosition place (Object.getOrNull members "position") = .ok position ∧
      Node.make (toString (table.nodes.length + 1)) declared (.text name)
        ((Object.getOrNull members "parameters").orElse (.object [])) position
        (holdsPlaceholder ((Object.getOrNull members "parameters").orElse (.object []))) = .ok node := by
  cases entry with
  | object members =>
    right
    simp only [add, bind, bind_eq_ok] at h
    obtain ⟨position, hposition, node, hnode, h⟩ := h
    have hname : ((Object.getOrNull members "name").orElse
        (.text ("Node " ++ toString (table.nodes.length + 1)))).display ≠ "" :=
      Value.display_orElse_ne_empty (by simp)
    refine ⟨members, node, _, _, position, rfl, ?_, hname, hposition, hnode⟩
    split at h <;> cases h <;> rfl
  | _ =>
    cases h
    exact .inl rfl

/-- All nodes have names and parameters with a property. -/
def Keeps (P : Value → Prop) (table : NodeTable) : Prop :=
  ∀ node ∈ table.nodes, P node.displayName ∧ P node.parameters

theorem Keeps.add (hered : Value.Hereditary P) {table after : NodeTable} (keeps : table.Keeps P) {place : Nat}
    {entry : Value} (hentry : P entry) (h : table.add place entry = .ok after) : after.Keeps P := by
  rcases add_eq_ok h with hnodes | ⟨members, node, name, declared, position, rfl, hnodes, -, -, hnode⟩
  · rwa [Keeps, hnodes]
  · obtain ⟨kind, -, rfl⟩ := Node.make_eq_ok hnode
    rw [Keeps, hnodes]
    refine List.forall_mem_append.2 ⟨keeps, List.forall_mem_singleton.2 ⟨hered.text name, ?_⟩⟩
    exact Value.Hereditary.orElse (hered.getOrNull hentry "parameters") hered.empty

theorem Keeps.addAll (hered : Value.Hereditary P) {entries : List Value} (hentries : ∀ entry ∈ entries, P entry)
    {table after : NodeTable} (keeps : table.Keeps P) {place : Nat} (h : table.addAll place entries = .ok after) :
    after.Keeps P := by
  induction entries generalizing table place with
  | nil => exact Except.ok.inj h ▸ keeps
  | cons entry entries ih =>
    obtain ⟨hentry, hrest⟩ := List.forall_mem_cons.1 hentries
    obtain ⟨next, hadd, h⟩ := bind_eq_ok.1 h
    exact ih hrest (keeps.add hered hentry hadd) h

end NodeTable

/-- The name of an import is that of its export, and its nodes are those that were made of the entries. -/
theorem importExport_eq_ok {exported : Object} {imported : Imported}
    (h : importExport (.object exported) = .ok imported) :
    imported.graph.name = (Object.getOrNull exported "name").orElse (.text "Imported Workflow") ∧
      ∃ entries table, ((Object.getOrNull exported "nodes").orElse (.list [])).elements = .ok entries ∧
        NodeTable.addAll {} 0 entries = .ok table ∧ imported.graph.nodes = table.nodes := by
  simp only [importExport, bind, bind_eq_ok] at h
  obtain ⟨members, hmembers, h⟩ := h
  cases hmembers
  split at h
  · cases h
  · simp only [bind_eq_ok] at h
    obtain ⟨entries, hentries, table, htable, _, _, links, _, _, _, h⟩ := h
    cases h
    exact ⟨rfl, entries, table, hentries, htable, rfl⟩

/-- The nodes of an import have the property of its export. -/
theorem importExport_keeps (hered : Value.Hereditary P) {exported : Object} (hexported : P (.object exported))
    {imported : Imported} (h : importExport (.object exported) = .ok imported) :
    ∀ node ∈ imported.graph.nodes, P node.displayName ∧ P node.parameters := by
  obtain ⟨-, entries, table, hentries, htable, hnodes⟩ := importExport_eq_ok h
  have hlist : ∀ entry ∈ entries, P entry :=
    hered.elements (Value.Hereditary.orElse (hered.getOrNull hexported "nodes") (hered.list.2 (by simp))) hentries
  rw [hnodes]
  exact NodeTable.Keeps.addAll hered hlist (fun _ hnode => by cases hnode) htable

end Import

end Workflows
