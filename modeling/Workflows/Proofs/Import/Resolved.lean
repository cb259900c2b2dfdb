/-
What an import makes of an export. Every object among the entries for nodes becomes a node, and its id is its
place among them; a name stands for the first node that has it. The connections are the target entries of known
sources to known targets, in order and each from the output under which it stands; every unknown name leaves one
warning. So all connections are between nodes, and the steps are as many as the nodes.
-/
import Workflows.Proofs.Graph.Conversion
import Workflows.Proofs.Import.Nodes

namespace Workflows.Import

/-! ## What an export says -/

/-- The objects among some entries, with their places counted from zero. -/
def objectEntries (entries : List Value) : List (Object × Nat) :=
  entries.zipIdx.filterMap fun (entry, place) => entry.members?.map (·, place)

/-- The id of the node at a place among the nodes, counted from zero. -/
def freshId (place : Nat) : String := toString (place + 1)

/-- A node shows an entry at a place: it has its name, or one made of its id, its type, its parameters and its
position, or one made of its place. -/
structure Shows (node : Node) (entry : Object) (place : Nat) : Prop where
  name : node.displayName =
    .text ((Object.getOrNull entry "name").orElse (.text ("Node " ++ node.id))).display
  declaredType : node.declaredType = ((Object.get? entry "type").getD (.text "")).display
  parameters : node.parameters = (Object.getOrNull entry "parameters").orElse (.object [])
  position : importPosition place (Object.getOrNull entry "position") = .ok node.position
  needsConfiguration : node.needsConfiguration = holdsPlaceholder node.parameters
  kind : NodeKind.classify node.declaredType node.parameters = .ok node.kind

/-- The id of the first of some nodes with a name. -/
def firstNamed? (nodes : List Node) (name : Value) : Option String :=
  (nodes.find? (·.displayName == name)).map (·.id)

/-- The items of a part that may be left out. -/
def items (part : Value) : List Value := (Graph.entriesOf part).toOption.getD []

/-- The member of a part that may be left out. -/
def memberOf (part : Value) (key : String) : Value := ((part.orElse (.object [])).member key).toOption.getD .null

/-- The entries for targets under some outputs, the first of which has a given index, each with the index of its
output. -/
def entriesFrom (output : Nat) (outputs : List Value) : List (Value × Nat) :=
  (outputs.zipIdx output).flatMap fun (targets, output) => (items targets).map (·, output)

/-- The entries for targets of a source. -/
def targetEntries (outputs : Value) : List (Value × Nat) := entriesFrom 0 (items (memberOf outputs "main"))

/-- The connection that a target entry of a source stands for, if it names a node. -/
def resolve? (nodes : List Node) (source : String) (entry : Value × Nat) : Option Connection :=
  (firstNamed? nodes (memberOf entry.1 "node")).map fun target =>
    ⟨source, entry.2, target, ((memberOf entry.1 "index").orElse (.int 0)).toInt.toOption.getD 0⟩

/-- The warning about a target entry that names no node. -/
def unknownTarget? (nodes : List Node) (entry : Value × Nat) : Option String :=
  match firstNamed? nodes (memberOf entry.1 "node") with
  | none => some ("Connection target not found: " ++ (memberOf entry.1 "node").display)
  | some _ => none

/-- The connections that a source stands for, if its name is that of a node. -/
def linksOf (nodes : List Node) (source : String × Value) : List Connection :=
  match firstNamed? nodes (.text source.1) with
  | none => []
  | some id => (targetEntries source.2).filterMap (resolve? nodes id)

/-- The warnings about the names of a source and of its targets that no node has. -/
def unknownNamesOf (nodes : List Node) (source : String × Value) : List String :=
  match firstNamed? nodes (.text source.1) with
  | none => ["Connection source not found: " ++ source.1]
  | some _ => (targetEntries source.2).filterMap (unknownTarget? nodes)

/-- A warning about a name that no node has. -/
def isUnknownName (warning : String) : Bool := Text.beginsWith warning "Connection "

/-! ## Nodes -/

theorem objectEntries_concat (entries : List Value) (entry : Value) :
    objectEntries (entries ++ [entry]) =
      objectEntries entries ++ (entry.members?.map (·, entries.length)).toList := by
  unfold objectEntries
  rw [List.zipIdx_append, List.filterMap_append]
  cases h : entry.members? <;> simp [h]

theorem firstNamed_concat (nodes : List Node) (node : Node) (name : Value) :
    firstNamed? (nodes ++ [node]) name =
      (firstNamed? nodes name).or (if node.displayName = name then some node.id else none) := by
  unfold firstNamed?
  rw [List.find?_append]
  cases nodes.find? (·.displayName == name) with
  | some _ => rfl
  | none => by_cases h : node.displayName = name <;> simp [h]

theorem mem_ids_of_firstNamed {nodes : List Node} {name : Value} {id : String} (h : firstNamed? nodes name = some id) :
    id ∈ nodes.map (·.id) := by
  obtain ⟨node, hnode, rfl⟩ := Option.map_eq_some_iff.1 h
  exact List.mem_map_of_mem (List.mem_of_find?_eq_some hnode)

namespace NodeTable

theorem id_concat (names : List (String × String)) (name id other : String) :
    id? (names ++ [(name, id)]) other = (id? names other).or (if name = other then some id else none) := by
  unfold id?
  rw [List.find?_append]
  cases names.find? (·.1 == other) with
  | some _ => rfl
  | none => by_cases h : name = other <;> simp [h]

/-- An entry that is no object is passed over. Of any other a node is made with the next id, and its name stands
for it unless it stands for another node already. -/
theorem add_cases {table after : NodeTable} {place : Nat} {entry : Value} (h : table.add place entry = .ok after) :
    (entry.members? = none ∧
        ∃ reason, after = { table with warnings := table.warnings ++ ["Skipping node #" ++ reason] }) ∨
      ∃ members node name, entry.members? = some members ∧ Shows node members place ∧
        node.id = freshId table.nodes.length ∧ node.displayName = .text name ∧
        (((id? table.nameToId name).isSome = true ∧ ∃ reason, after =
            { table with
              nodes := table.nodes ++ [node]
              warnings := table.warnings ++ ["Duplicate node name " ++ reason] }) ∨
          (id? table.nameToId name = none ∧ after =
            { table with nodes := table.nodes ++ [node], nameToId := table.nameToId ++ [(name, node.id)] })) := by
  cases entry with
  | object members =>
    right
    simp only [add, bind, bind_eq_ok] at h
    obtain ⟨position, hposition, node, hnode, h⟩ := h
    obtain ⟨kind, hkind, hmade⟩ := Node.make_eq_ok hnode
    have hshows : Shows node members place := by
      subst hmade
      exact ⟨rfl, rfl, rfl, hposition, rfl, hkind⟩
    have hid : node.id = freshId table.nodes.length := by rw [hmade, freshId]
    refine ⟨members, node, _, rfl, hshows, hid, by rw [hmade], ?_⟩
    split at h
    · next hnamed =>
      simp only [String.append_assoc] at h
      exact .inl ⟨hnamed, _, (Except.ok.inj h).symm⟩
    · next hnew =>
      refine .inr ⟨by simpa using hnew, ?_⟩
      rw [← Except.ok.inj h, hid, freshId]
  | _ =>
    simp only [add, String.append_assoc] at h
    exact .inl ⟨rfl, _, (Except.ok.inj h).symm⟩

/-- What a table holds of the entries that were added to it. -/
structure Lists (table : NodeTable) (entries : List Value) : Prop where
  shows : List.Forall₂ (fun node entry => Shows node entry.1 entry.2) table.nodes (objectEntries entries)
  ids : table.nodes.map (·.id) = (List.range table.nodes.length).map freshId
  names : ∀ name, id? table.nameToId name = firstNamed? table.nodes (.text name)
  apart : (table.nameToId.map (·.1)).Nodup
  warnings : table.warnings.filter isUnknownName = []

theorem lists_empty : Lists {} [] :=
  ⟨.nil, rfl, fun _ => rfl, List.nodup_nil, rfl⟩

theorem Lists.add {table after : NodeTable} {entries : List Value} {entry : Value} (lists : table.Lists entries)
    (h : table.add entries.length entry = .ok after) : after.Lists (entries ++ [entry]) := by
  obtain ⟨hshows, hids, hnames, hapart, hwarnings⟩ := lists
  rcases add_cases h with ⟨hnone, reason, rfl⟩ | ⟨members, node, name, hsome, hnode, hid, hname, h⟩
  · have hother : isUnknownName ("Skipping node #" ++ reason) = false := by
      simp [isUnknownName, Text.beginsWith, List.isPrefixOf]
    refine ⟨?_, hids, hnames, hapart, ?_⟩
    · rw [objectEntries_concat, hnone]
      simpa using hshows
    · simpa [List.filter_append, hother] using hwarnings
  · have hall : List.Forall₂ (fun node entry => Shows node entry.1 entry.2) (table.nodes ++ [node])
        (objectEntries (entries ++ [entry])) := by
      rw [objectEntries_concat, hsome]
      exact List.rel_append hshows (.cons hnode .nil)
    have hidsAll : (table.nodes ++ [node]).map (·.id) = (List.range (table.nodes ++ [node]).length).map freshId := by
      simp [List.range_succ, hids, hid]
    rcases h with ⟨hnamed, reason, rfl⟩ | ⟨hnew, rfl⟩
    · have hother : isUnknownName ("Duplicate node name " ++ reason) = false := by
        simp [isUnknownName, Text.beginsWith, List.isPrefixOf]
      refine ⟨hall, hidsAll, fun other => ?_, hapart, ?_⟩
      · -- the node is not the first with its name
        rw [firstNamed_concat, ← hnames, hname]
        by_cases hsame : name = other
        · obtain ⟨id, hid⟩ := Option.isSome_iff_exists.1 hnamed
          rw [← hsame, hid, Option.some_or]
        · simp [hsame]
      · simpa [List.filter_append, hother] using hwarnings
    · refine ⟨hall, hidsAll, fun other => ?_, ?_, hwarnings⟩
      · rw [firstNamed_concat, id_concat, ← hnames, hname]
        simp
      · have habsent : name ∉ table.nameToId.map (·.1) := by
          intro hmem
          obtain ⟨pair, hpair, rfl⟩ := List.mem_map.1 hmem
          simpa using List.find?_eq_none.1 (Option.map_eq_none_iff.1 hnew) pair hpair
        rw [List.map_append]
        exact List.nodup_append_comm.1 (List.nodup_cons.2 ⟨habsent, hapart⟩)

theorem Lists.addAll {table after : NodeTable} {entries more : List Value} (lists : table.Lists entries)
    (h : table.addAll entries.length more = .ok after) : after.Lists (entries ++ more) := by
  induction more generalizing table entries with
  | nil =>
    cases h
    rwa [List.append_nil]
  | cons entry more ih =>
    obtain ⟨next, hadd, hmore⟩ := bind_eq_ok.1 h
    have hnext := ih (lists.add hadd) (by simpa using hmore)
    simpa using hnext

end NodeTable

/-! ## Connections -/

/-- Links that hold those of others before them, and something more. -/
def Links.Grow (links after : Links) (connections : List Connection) (warnings : List String) : Prop :=
  after.connections = links.connections ++ connections ∧ after.warnings = links.warnings ++ warnings

theorem Links.Grow.trans {links next after : Links} {cs ds : List Connection} {ws vs : List String}
    (h : links.Grow next cs ws) (h' : next.Grow after ds vs) : links.Grow after (cs ++ ds) (ws ++ vs) := by
  obtain ⟨hcs, hws⟩ := h
  obtain ⟨hds, hvs⟩ := h'
  exact ⟨by rw [hds, hcs, List.append_assoc], by rw [hvs, hws, List.append_assoc]⟩

/-- Links grow by what each step adds. -/
theorem Links.grow_foldlM {α : Type} {step : Links → α → Except Fault Links} {found : α → List Connection}
    {noted : α → List String} (hstep : ∀ {links after x}, step links x = .ok after → links.Grow after (found x) (noted x))
    {xs : List α} {links after : Links} (h : xs.foldlM step links = .ok after) :
    links.Grow after (xs.flatMap found) (xs.flatMap noted) := by
  induction xs generalizing links with
  | nil =>
    cases h
    exact ⟨by simp, by simp⟩
  | cons x xs ih =>
    rw [List.foldlM_cons] at h
    obtain ⟨next, hnext, hrest⟩ := bind_eq_ok.1 h
    exact (hstep hnext).trans (ih hrest)

theorem items_of_ok {part : Value} {entries : List Value} (h : Graph.entriesOf part = .ok entries) :
    items part = entries := by
  unfold items
  rw [h]
  rfl

theorem memberOf_of_ok {part v : Value} {key : String} (h : (part.orElse (.object [])).member key = .ok v) :
    memberOf part key = v := by
  unfold memberOf
  rw [h]
  rfl

/-- A value that has members stands for itself. -/
theorem memberOf_of_member {part v : Value} {key : String} (h : part.member key = .ok v) : memberOf part key = v := by
  refine memberOf_of_ok ?_
  cases part with
  | object members => cases members <;> exact h
  | _ => cases h

section

variable {names : List (String × String)} {nodes : List Node}
  (hnames : ∀ name, NodeTable.id? names name = firstNamed? nodes (.text name))
  (htexts : ∀ node ∈ nodes, ∃ s, node.displayName = .text s)

include hnames htexts

/-- What is no text names no node. -/
theorem firstNamed_of_namedId {name : Value} {found : Option String} (h : namedId? names name = .ok found) :
    firstNamed? nodes name = found := by
  have hother : (∀ s, name ≠ .text s) → firstNamed? nodes name = none := by
    intro hname
    unfold firstNamed?
    rw [Option.map_eq_none_iff, List.find?_eq_none]
    intro node hnode hsame
    obtain ⟨s, hs⟩ := htexts node hnode
    exact hname s (by rw [← hs]; exact (beq_iff_eq.1 hsame).symm)
  cases name with
  | text s =>
    cases h
    exact (hnames s).symm
  | list _ | object _ | table _ => cases h
  | _ =>
    cases h
    exact hother fun s hs => by cases hs

/-- A target entry adds the connection that it stands for, or the warning about it. -/
theorem grow_addTarget {source : String} {output : Nat} {links after : Links} {entry : Value}
    (h : addTarget names source output links entry = .ok after) :
    links.Grow after (resolve? nodes source (entry, output)).toList (unknownTarget? nodes (entry, output)).toList := by
  simp only [addTarget, bind, bind_eq_ok] at h
  obtain ⟨name, hname, found, hfound, h⟩ := h
  have hfirst := firstNamed_of_namedId hnames htexts hfound
  unfold resolve? unknownTarget?
  rw [memberOf_of_member hname, hfirst]
  cases found with
  | none =>
    cases h
    exact ⟨(List.append_nil _).symm, rfl⟩
  | some target =>
    simp only [bind_eq_ok] at h
    obtain ⟨index, hindex, input, hinput, h⟩ := h
    cases h
    rw [memberOf_of_member hindex, hinput]
    exact ⟨rfl, (List.append_nil _).symm⟩

theorem grow_addOutputs {source : String} {outputs : List Value} {links after : Links} {output : Nat}
    (h : addOutputs names source links output outputs = .ok after) :
    links.Grow after ((entriesFrom output outputs).filterMap (resolve? nodes source))
      ((entriesFrom output outputs).filterMap (unknownTarget? nodes)) := by
  induction outputs generalizing links output with
  | nil =>
    cases h
    exact ⟨by simp [entriesFrom], by simp [entriesFrom]⟩
  | cons targets outputs ih =>
    simp only [addOutputs, bind, bind_eq_ok] at h
    obtain ⟨entries, hentries, next, hnext, hrest⟩ := h
    have hfirst : links.Grow next (entries.filterMap fun entry => resolve? nodes source (entry, output))
        (entries.filterMap fun entry => unknownTarget? nodes (entry, output)) := by
      rw [List.filterMap_eq_flatMap_toList, List.filterMap_eq_flatMap_toList]
      exact Links.grow_foldlM (fun h => grow_addTarget hnames htexts h) hnext
    have hall := hfirst.trans (ih hrest)
    have hsplit : entriesFrom output (targets :: outputs) =
        entries.map (·, output) ++ entriesFrom (output + 1) outputs := by
      rw [← items_of_ok hentries]
      rfl
    rw [hsplit, List.filterMap_append, List.filterMap_map, List.filterMap_append, List.filterMap_map]
    exact hall

theorem grow_addSource {links after : Links} {source : String} {outputs : Value}
    (h : addSource names links source outputs = .ok after) :
    links.Grow after (linksOf nodes (source, outputs)) (unknownNamesOf nodes (source, outputs)) := by
  unfold addSource at h
  unfold linksOf unknownNamesOf
  dsimp only
  rw [← hnames source]
  cases hsource : NodeTable.id? names source with
  | none =>
    rw [hsource] at h
    cases h
    exact ⟨(List.append_nil _).symm, rfl⟩
  | some id =>
    rw [hsource] at h
    simp only [bind, bind_eq_ok] at h
    obtain ⟨main, hmain, outs, houts, h⟩ := h
    unfold targetEntries
    rw [memberOf_of_ok hmain, items_of_ok houts]
    exact grow_addOutputs hnames htexts h

end

/-! ## Exports -/

/-- The parts of an import and what they were made of. -/
theorem importExport_parts {whole : Value} {imported : Imported} (h : importExport whole = .ok imported) :
    ∃ exported entries sources table links, whole = .object exported ∧
      (Object.getOrNull exported "nodes").elements = .ok entries ∧
      (Object.getOrNull exported "connections").orElse (.object []) = .object sources ∧
      NodeTable.addAll {} 0 entries = .ok table ∧
      sources.foldlM (fun links source => addSource table.nameToId links source.1 source.2) {} = .ok links ∧
      imported.graph.nodes = table.nodes ∧ imported.graph.connections = links.connections ∧
      imported.graph.warnings = [] ∧ imported.nameToId = table.nameToId ∧
      imported.warnings = table.warnings ++ links.warnings := by
  simp only [importExport, bind, bind_eq_ok] at h
  obtain ⟨exported, hexported, h⟩ := h
  split at h
  · cases h
  · next htrue =>
    simp only [bind_eq_ok] at h
    obtain ⟨entries, hentries, table, htable, sources, hsources, links, hlinks, _, _, h⟩ := h
    cases h
    have hnodes : (Object.getOrNull exported "nodes").isTrue = true := by
      by_contra hfalse
      exact htrue (by rw [Value.orElse, if_neg hfalse]; rfl)
    rw [Value.orElse, if_pos hnodes] at hentries
    refine ⟨exported, entries, sources, table, links, ?_, hentries, ?_, htable, hlinks, rfl, rfl, rfl, rfl, rfl⟩
    · cases whole <;> cases hexported
      rfl
    · cases hpart : (Object.getOrNull exported "connections").orElse (.object []) <;> rw [hpart] at hsources <;>
        cases hsources
      rfl

/-- What an import holds of the entries for nodes and of the sources of an export. -/
structure Reflects (imported : Imported) (entries : List Value) (sources : Object) : Prop where
  nodes : List.Forall₂ (fun node entry => Shows node entry.1 entry.2) imported.graph.nodes (objectEntries entries)
  ids : imported.graph.ids = (List.range (objectEntries entries).length).map freshId
  names : ∀ name, NodeTable.id? imported.nameToId name = firstNamed? imported.graph.nodes (.text name)
  apart : (imported.nameToId.map (·.1)).Nodup
  connections : imported.graph.connections = sources.flatMap (linksOf imported.graph.nodes)
  unknown : imported.warnings.filter isUnknownName = sources.flatMap (unknownNamesOf imported.graph.nodes)

theorem isUnknownName_of_mem {nodes : List Node} {source : String × Value} {warning : String}
    (h : warning ∈ unknownNamesOf nodes source) : isUnknownName warning = true := by
  unfold unknownNamesOf at h
  split at h
  · rw [List.mem_singleton.1 h]
    simp [isUnknownName, Text.beginsWith, List.isPrefixOf]
  · obtain ⟨entry, -, hentry⟩ := List.mem_filterMap.1 h
    unfold unknownTarget? at hentry
    split at hentry
    · rw [← Option.some.inj hentry]
      simp [isUnknownName, Text.beginsWith, List.isPrefixOf]
    · cases hentry

/-- Every connection of an import is between its nodes. -/
theorem ids_of_mem_linksOf {nodes : List Node} {source : String × Value} {c : Connection} (h : c ∈ linksOf nodes source) :
    c.source ∈ nodes.map (·.id) ∧ c.target ∈ nodes.map (·.id) := by
  unfold linksOf at h
  split at h
  · cases h
  · next id hid =>
    obtain ⟨entry, -, hentry⟩ := List.mem_filterMap.1 h
    obtain ⟨target, htarget, rfl⟩ := Option.map_eq_some_iff.1 hentry
    exact ⟨mem_ids_of_firstNamed hid, mem_ids_of_firstNamed htarget⟩

theorem freshId_injective : Function.Injective freshId := by
  intro a b h
  have hdigits : Nat.toDigits 10 (a + 1) = Nat.toDigits 10 (b + 1) := String.ofList_injective h
  have hsucc := congrArg (Nat.ofDigitChars 10 · 0) hdigits
  simp only [Nat.ofDigitChars_ten_toDigits] at hsucc
  omega

/-- An import reflects its export, and its graph has no warnings of its own. -/
theorem reflects_importExport {whole : Value} {imported : Imported} (h : importExport whole = .ok imported) :
    ∃ exported entries sources, whole = .object exported ∧ (Object.getOrNull exported "nodes").elements = .ok entries ∧
      (Object.getOrNull exported "connections").orElse (.object []) = .object sources ∧
      Reflects imported entries sources ∧ imported.graph.warnings = [] := by
  obtain ⟨exported, entries, sources, table, links, hwhole, hentries, hsources, htable, hlinks, hnodes, hconnections,
    hgraph, hnames, hwarnings⟩ := importExport_parts h
  have lists : table.Lists entries := NodeTable.lists_empty.addAll htable
  have htexts : ∀ node ∈ table.nodes, ∃ s, node.displayName = .text s :=
    ((List.forall₂_and_left _ _).1 (lists.shows.imp fun node entry shows => ⟨⟨_, shows.name⟩, shows⟩)).1
  obtain ⟨hfound, hnoted⟩ := Links.grow_foldlM (fun h => grow_addSource lists.names htexts h) hlinks
  rw [List.nil_append] at hfound hnoted
  -- the warnings about nodes are none about unknown names, and those about connections are all
  have hall : ∀ warning ∈ sources.flatMap (unknownNamesOf table.nodes), isUnknownName warning = true := by
    intro warning hmem
    obtain ⟨source, -, hsource⟩ := List.mem_flatMap.1 hmem
    exact isUnknownName_of_mem hsource
  refine ⟨exported, entries, sources, hwhole, hentries, hsources, ?_, hgraph⟩
  refine ⟨hnodes ▸ lists.shows, ?_, fun name => ?_, hnames ▸ lists.apart, ?_, ?_⟩
  · rw [Graph.ids, hnodes, lists.ids, lists.shows.length_eq]
  · rw [hnames, hnodes, lists.names]
  · rw [hconnections, hfound, hnodes]
  · rw [hwarnings, List.filter_append, lists.warnings, hnoted, List.filter_eq_self.2 hall, hnodes, List.nil_append]

namespace Reflects

variable {imported : Imported} {entries : List Value} {sources : Object}

theorem nodup_ids (reflects : Reflects imported entries sources) : imported.graph.ids.Nodup := by
  rw [reflects.ids]
  exact List.nodup_range.map freshId_injective

theorem unknownWarnings (reflects : Reflects imported entries sources) : imported.graph.unknownWarnings = [] := by
  rw [Graph.unknownWarnings_eq, List.map_eq_nil_iff, List.filter_eq_nil_iff]
  intro c hc
  rw [reflects.connections] at hc
  obtain ⟨source, -, hsource⟩ := List.mem_flatMap.1 hc
  obtain ⟨hfrom, hto⟩ := ids_of_mem_linksOf hsource
  simp [Graph.ids, hfrom, hto]

/-- The walk of an import lists the ids that were given to its nodes. -/
theorem order_perm (reflects : Reflects imported entries sources) :
    imported.graph.order.Perm ((List.range (objectEntries entries).length).map freshId) := by
  rw [← reflects.ids]
  exact (List.perm_ext_iff_of_nodup (Graph.nodup_order _) reflects.nodup_ids).2 fun id => Graph.mem_order

end Reflects

/-- An import has the nodes that the object entries of its export show, with their places for ids; its names stand
for the first nodes that have them; its connections are those between known names, and each unknown name of a source
or of a target has its warning. If it is turned into steps, none of its connections is loose, and the steps are
those of its nodes in some order. -/
theorem imported_as_exported {whole : Value} {imported : Imported} (h : importExport whole = .ok imported) :
    ∃ exported entries sources, whole = .object exported ∧ (Object.getOrNull exported "nodes").elements = .ok entries ∧
      (Object.getOrNull exported "connections").orElse (.object []) = .object sources ∧
      Reflects imported entries sources ∧
      ∀ usualDelay conversion, imported.toSteps usualDelay = .ok conversion →
        imported.graph.unknownWarnings = [] ∧
        conversion.warnings = imported.warnings ++ (imported.graph.backEdges.map Graph.cycleWarning ++
          imported.graph.order.filterMap imported.graph.passNote?) ∧
        conversion.steps.length = (objectEntries entries).length ∧
        (conversion.steps.map (·.id)).Perm ((List.range (objectEntries entries).length).map freshId) := by
  obtain ⟨exported, entries, sources, hwhole, hentries, hsources, hreflects, hgraph⟩ := reflects_importExport h
  refine ⟨exported, entries, sources, hwhole, hentries, hsources, hreflects, fun usualDelay conversion hsteps => ?_⟩
  obtain ⟨made, hmade, rfl⟩ := map_eq_ok.1 hsteps
  have hparts := Graph.convertsTo_of_toSteps hmade
  have hwarned : made.warnings = imported.graph.backEdges.map Graph.cycleWarning ++
      imported.graph.order.filterMap imported.graph.passNote? := by
    rw [hparts.warnings, ← Graph.unknownWarnings_eq, hreflects.unknownWarnings, hgraph, List.append_nil,
      List.nil_append]
  have hperm : (made.steps.map (·.id)).Perm ((List.range (objectEntries entries).length).map freshId) := by
    rw [hparts.ids]
    exact hreflects.order_perm
  exact ⟨hreflects.unknownWarnings, by rw [hwarned], by simpa using hperm.length_eq, hperm⟩

/-- An export with a name given twice, a node whose name is the one made for another, an entry that is no object,
an output without targets, and unknown names of a source and of a target. -/
def tangledExport : Value := .object [
  ("nodes", .list [
    .object [("name", .text "start"), ("type", .text "n8n-nodes-base.manualTrigger")],
    .int 3,
    .object [("name", .text "start"), ("type", .text "n8n-nodes-base.set")],
    .object [("name", .text "Node 4")],
    .object []]),
  ("connections", .object [
    ("start", .object [("main", .list [.null, .list [
      .object [("node", .text "Node 4")], .object [("node", .text "gone")]]])]),
    ("lost", .null),
    ("Node 4", .object [("main", .list [.list [.object [("node", .text "start"), ("index", .int 1)]]])])])]

/-- The nodes and connections of the tangled export, the nodes at positions that their places give. -/
def tangledGraph (row : Nat → List Binary64) : Graph where
  name := .text "Imported Workflow"
  nodes := [
    ⟨"1", "n8n-nodes-base.manualTrigger", .text "start", .object [], row 0, false, .trigger⟩,
    ⟨"2", "n8n-nodes-base.set", .text "start", .object [], row 2, false, .unsupported .generic⟩,
    ⟨"3", "", .text "Node 4", .object [], row 3, false, .unsupported .generic⟩,
    ⟨"4", "", .text "Node 4", .object [], row 4, false, .unsupported .generic⟩]
  connections := [⟨"1", 1, "3", 0⟩, ⟨"3", 0, "1", 1⟩]

def tangledImport : Imported where
  name := .text "Imported Workflow"
  graph := tangledGraph fun place => (importPosition place .null).toOption.getD []
  nameToId := [("start", "1"), ("Node 4", "3")]
  required := []
  warnings := ["Skipping node #2: not an object", "Duplicate node name 'start'; connections resolve to the first one",
    "Duplicate node name 'Node 4'; connections resolve to the first one", "Connection target not found: gone",
    "Connection source not found: lost"]

/-- What the tangled export is turned into. -/
def tangledSteps : Conversion where
  steps := [⟨"1", "trigger", .text "start", []⟩, ⟨"3", "trigger", .text "Node 4", []⟩,
    ⟨"2", "trigger", .text "start", []⟩, ⟨"4", "trigger", .text "Node 4", []⟩]
  warnings := tangledImport.warnings ++ ["Cycle detected at connection 3 -> 1; it will not be revisited",
    "Node 'Node 4' (unknown) is a generic node; running it as a pass-through",
    "Node 'start' (n8n-nodes-base.set) is a generic node; running it as a pass-through",
    "Node 'Node 4' (unknown) is a generic node; running it as a pass-through"]
  needsConfiguration := []

/-- The walk does not look at positions. -/
theorem tangled_walk (row : Nat → List Binary64) :
    (tangledGraph row).order = ["1", "3", "2", "4"] ∧ (tangledGraph row).backEdges = [⟨"3", 0, "1", 1⟩] := by
  constructor <;> cbv

theorem tangled_imported_as_exported :
    importExport tangledExport = .ok tangledImport ∧ tangledImport.toSteps 5 = .ok tangledSteps ∧
      ∃ exported entries sources, tangledExport = .object exported ∧
        (Object.getOrNull exported "nodes").elements = .ok entries ∧
        (Object.getOrNull exported "connections").orElse (.object []) = .object sources ∧
        Reflects tangledImport entries sources ∧ tangledImport.graph.unknownWarnings = [] ∧
        (tangledSteps.steps.map (·.id)).Perm ((List.range (objectEntries entries).length).map freshId) := by
  have himport : importExport tangledExport = .ok tangledImport := by decide +kernel
  obtain ⟨horder, hedges⟩ : tangledImport.graph.order = _ ∧ tangledImport.graph.backEdges = _ := tangled_walk _
  have hsteps : tangledImport.toSteps 5 = .ok tangledSteps := by
    simp only [Imported.toSteps, Graph.toSteps, Graph.orderedNodes, Graph.cycleWarnings, horder, hedges]
    decide +kernel
  obtain ⟨exported, entries, sources, hwhole, hentries, hsources, hreflects, hturned⟩ :=
    imported_as_exported himport
  obtain ⟨hknown, -, -, hperm⟩ := hturned 5 _ hsteps
  exact ⟨himport, hsteps, exported, entries, sources, hwhole, hentries, hsources, hreflects, hknown, hperm⟩

end Workflows.Import
