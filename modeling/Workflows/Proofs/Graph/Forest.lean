/-
The order in which a forest is run, however its nodes are declared: where the known connections have
no cycle and no node is led to from two others, every node stands behind the one that leads to it,
and all that it leads to stands in one block right behind it. So a chain is run link by link.
-/
import Workflows.Proofs.Graph.Closing

namespace Workflows.Graph

open Relation (ReflTransGen TransGen)

section

variable {cs : List Connection}

/-! ## The part of a walk that begins at a node -/

/-- An id that a walk records is recorded when it lies on top of the stack. -/
theorem exists_recording {recorded stack : List String} {id : String} (h : id ∈ walk cs recorded stack) :
    id ∈ recorded ∨ ∃ done rest, id ∉ done ∧ walk cs recorded stack = walk cs done (id :: rest) := by
  fun_induction walk cs recorded stack with
  | case1 recorded => exact Or.inl h
  | case2 recorded top stack htop ih => exact ih h
  | case3 recorded top stack htop ih =>
    rcases ih h with hm | hlater
    · rcases List.mem_append.1 hm with hm | hm
      · exact Or.inl hm
      · rw [List.mem_singleton] at hm
        subst hm
        exact Or.inr ⟨recorded, stack, htop, (walk_record htop stack).symm⟩
    · exact Or.inr hlater

/-- Behind an id stands what the walk adds while it goes on from there: the id leads to all of that,
and whatever is led to from there stands no later. -/
theorem exists_part {stack : List String} {id : String} (h : id ∈ walk cs [] stack) :
    ∃ before block after, walk cs [] stack = before ++ id :: (block ++ after) ∧
      (∀ x ∈ block, TransGen (Leads cs) id x) ∧
      ∀ a ∈ id :: block, ∀ b, Leads cs a b → b ∈ before ++ id :: block := by
  obtain ⟨before, rest, hnew, hwalk⟩ := (exists_recording h).resolve_left List.not_mem_nil
  rw [walk_record hnew, walk_append] at hwalk
  have hfirst : before ++ [id] <+: walk cs (before ++ [id]) (targets cs id) := prefix_walk _ _
  have hthen : walk cs (before ++ [id]) (targets cs id) <+: walk cs (walk cs (before ++ [id]) (targets cs id)) rest :=
    prefix_walk _ _
  obtain ⟨block, hblock⟩ := hfirst
  obtain ⟨after, hafter⟩ := hthen
  have hdistinct : (before ++ [id] ++ block).Nodup := by
    have hall : (walk cs [] stack).Nodup := nodup_walk List.nodup_nil stack
    rw [hwalk, ← hafter, ← hblock] at hall
    exact (List.nodup_append.1 hall).1
  have hadded : ∀ x ∈ block, x ∉ before ++ [id] := fun x hx hm => (List.nodup_append.1 hdistinct).2.2 x hm x hx rfl
  refine ⟨before, block, after, by rw [hwalk, ← hafter, ← hblock]; simp, fun x hx => ?_, fun a ha b hab => ?_⟩
  · obtain ⟨start, hstart, hpath⟩ := mem_walk_of_new (hblock ▸ List.mem_append_right _ hx) (hadded x hx)
    exact .head' (mem_targets.1 hstart) hpath
  · have hb : b ∈ walk cs (before ++ [id]) (targets cs id) := by
      rcases List.mem_cons.1 ha with rfl | ha
      · exact mem_walk_of_stack (mem_targets.2 hab)
      · exact mem_walk_of_leads (hblock ▸ List.mem_append_right _ ha) (hadded a ha) hab
    rw [← hblock] at hb
    simpa using hb

end

theorem place_lt_of_split {graph : Graph} {before after : List String} {id x : String}
    (h : graph.order = before ++ id :: after) (hx : x ∈ before) : graph.place x < graph.place id := by
  have hdistinct := nodup_order graph
  rw [h] at hdistinct
  have hid : id ∉ before := fun hm => (List.nodup_append.1 hdistinct).2.2 id hm id (List.mem_cons_self ..) rfl
  exact idxOf_prefix_lt ⟨id :: after, h.symm⟩ hx hid

/-- The order of a graph is the one by the places of the ids. -/
theorem pairwise_place (graph : Graph) : graph.order.Pairwise fun a b => graph.place a < graph.place b := by
  refine List.pairwise_iff_getElem.2 fun i j hi hj hij => ?_
  unfold place
  rwa [(nodup_order graph).idxOf_getElem, (nodup_order graph).idxOf_getElem]

/-! ## Forests -/

/-- Without cycles everything is led to from a root. -/
theorem fromRoot_of_acyclic {graph : Graph} (h : Acyclic graph.known) {id : String} (hid : id ∈ graph.ids) :
    graph.FromRoot id := by
  let above : {x // x ∈ graph.ids} → {x // x ∈ graph.ids} → Prop := fun a b => TransGen (Leads graph.known) a.1 b.1
  have : IsTrans _ above := ⟨fun _ _ _ hab hbc => hab.trans hbc⟩
  have : Std.Irrefl above := ⟨fun a => h a.1⟩
  have wf : WellFounded above := Finite.wellFounded_of_trans_of_irrefl above
  suffices ∀ x : {x // x ∈ graph.ids}, graph.FromRoot x.1 from this ⟨id, hid⟩
  intro x
  induction x using wf.induction with
  | _ x ih =>
    by_cases hled : ∃ c ∈ graph.known, c.target = x.1
    · obtain ⟨c, hc, ht⟩ := hled
      have hlead : Leads graph.known c.source x.1 := ⟨c, hc, rfl, ht⟩
      obtain ⟨root, hroot, hpath⟩ := ih ⟨c.source, (mem_known.1 hc).2.1⟩ (.single hlead)
      exact ⟨root, hroot, hpath.tail hlead⟩
    · push Not at hled
      obtain ⟨node, hnode, hx⟩ := List.mem_map.1 x.2
      exact ⟨x.1, ⟨node, hnode, hx, Or.inr hled⟩, .refl⟩

/-- A graph whose known connections have no cycle, lead to each node from one node at most, and lead
to no trigger. -/
structure IsForest (graph : Graph) : Prop where
  acyclic : Acyclic graph.known
  parent : ∀ c ∈ graph.known, ∀ d ∈ graph.known, c.target = d.target → c.source = d.source
  triggers : ∀ node ∈ graph.nodes, node.kind = .trigger → ∀ c ∈ graph.known, c.target ≠ node.id

namespace IsForest

variable {graph : Graph}

theorem not_isRoot_target (h : graph.IsForest) {c : Connection} (hc : c ∈ graph.known) : ¬ graph.IsRoot c.target := by
  rintro ⟨node, hnode, hid, hkind | hnone⟩
  · exact h.triggers node hnode hkind c hc hid.symm
  · exact hnone c hc rfl

theorem place_source_lt (h : graph.IsForest) {c : Connection} (hc : c ∈ graph.known) :
    graph.place c.source < graph.place c.target := by
  have hroot := fromRoot_of_acyclic h.acyclic (mem_known.1 hc).2.2
  obtain ⟨d, hd, ht, hlt⟩ := source_before hroot (h.not_isRoot_target hc)
  rwa [h.parent c hc d hd ht.symm]

theorem place_lt_of_leads (h : graph.IsForest) {a b : String} (hab : Leads graph.known a b) :
    graph.place a < graph.place b := by
  obtain ⟨c, hc, rfl, rfl⟩ := hab
  exact h.place_source_lt hc

theorem place_lt_of_transGen (h : graph.IsForest) {a b : String} (hab : TransGen (Leads graph.known) a b) :
    graph.place a < graph.place b := by
  induction hab with
  | single hab => exact h.place_lt_of_leads hab
  | tail _ hbc ih => exact ih.trans (h.place_lt_of_leads hbc)

/-- All that a node leads to stands in one block right behind it. -/
theorem exists_block (h : graph.IsForest) {id : String} (hid : id ∈ graph.ids) :
    ∃ before block after, graph.order = before ++ id :: (block ++ after) ∧
      ∀ x, x ∈ block ↔ TransGen (Leads graph.known) id x := by
  obtain ⟨before, block, after, horder, hled, hclosed⟩ := exists_part (mem_order.2 hid)
  have horder : graph.order = before ++ id :: (block ++ after) := horder
  refine ⟨before, block, after, horder, fun x => ⟨hled x, fun hx => ?_⟩⟩
  -- what the node leads to is placed behind it, so none of it stands before the block
  have here : ∀ y, TransGen (Leads graph.known) id y → y ∈ before ++ id :: block → y ∈ block := by
    intro y hy hm
    have hlt := h.place_lt_of_transGen hy
    rcases List.mem_append.1 hm with hm | hm
    · exact absurd hlt (Nat.lt_asymm (place_lt_of_split horder hm))
    · rcases List.mem_cons.1 hm with rfl | hm
      · exact absurd hlt (Nat.lt_irrefl _)
      · exact hm
  induction hx with
  | single hab => exact here _ (.single hab) (hclosed id (List.mem_cons_self ..) _ hab)
  | tail hpath hab ih => exact here _ (hpath.tail hab) (hclosed _ (List.mem_cons_of_mem _ ih) _ hab)

/-- The nodes of a chain stand in the order of their links. -/
theorem order_eq_chain (h : graph.IsForest) {chain : List String} (hall : chain.Perm graph.ids)
    (hlinks : chain.IsChain (Leads graph.known)) : graph.order = chain := by
  have hplaces : chain.Pairwise fun a b => graph.place a < graph.place b := by
    have : IsTrans String fun a b => graph.place a < graph.place b := ⟨fun _ _ _ => Nat.lt_trans⟩
    exact List.isChain_iff_pairwise.1 (hlinks.imp fun _ _ => h.place_lt_of_leads)
  have hdistinct : chain.Nodup := hplaces.imp fun hab => ne_of_apply_ne graph.place hab.ne
  have hperm : graph.order.Perm chain := (List.perm_ext_iff_of_nodup (nodup_order graph) hdistinct).2 fun id => by
    rw [mem_order, hall.mem_iff]
  exact hperm.eq_of_pairwise (fun _ _ _ _ hab hba => absurd hab (Nat.lt_asymm hba)) (pairwise_place graph) hplaces

end IsForest

/-- In a forest every node stands behind the one that leads to it, and all that it leads to stands in
one block right behind it; so the nodes of a chain stand in the order of their links. -/
theorem forest_order {graph : Graph} (h : graph.IsForest) :
    (∀ c ∈ graph.known, graph.place c.source < graph.place c.target) ∧
      (∀ id ∈ graph.ids, ∃ before block after, graph.order = before ++ id :: (block ++ after) ∧
        ∀ x, x ∈ block ↔ TransGen (Leads graph.known) id x) ∧
      ∀ chain : List String, chain.Perm graph.ids → chain.IsChain (Leads graph.known) → graph.order = chain :=
  ⟨fun _ => h.place_source_lt, fun _ => h.exists_block, fun _ => h.order_eq_chain⟩

/-- Two trees whose nodes are declared leaves first, with a connection to a node that is not there. -/
def shuffledForest : Graph :=
  { nodes := [bareNode "e" .code, bareNode "b" .code, bareNode "d" .llm, bareNode "f" .trigger, bareNode "c" .code,
      bareNode "a" .trigger]
    connections := [⟨"a", 1, "d", 0⟩, ⟨"b", 0, "c", 0⟩, ⟨"f", 0, "e", 0⟩, ⟨"a", 0, "b", 0⟩, ⟨"d", 0, "gone", 0⟩] }

/-- A chain of four nodes that are declared out of order. -/
def shuffledChain : Graph :=
  { nodes := [bareNode "c" .code, bareNode "a" .trigger, bareNode "d" .image, bareNode "b" .llm]
    connections := [⟨"c", 0, "d", 0⟩, ⟨"a", 0, "b", 0⟩, ⟨"b", 0, "c", 0⟩] }

theorem shuffledForest_isForest : shuffledForest.IsForest where
  acyclic := backEdges_eq_nil_iff.1 (by cbv)
  parent := by decide +kernel
  triggers := by decide +kernel

theorem shuffledChain_isForest : shuffledChain.IsForest where
  acyclic := backEdges_eq_nil_iff.1 (by cbv)
  parent := by decide +kernel
  triggers := by decide +kernel

theorem shuffled_nodes_in_order :
    shuffledForest.IsForest ∧ shuffledForest.order = ["f", "e", "a", "b", "c", "d"] ∧
      (∀ c ∈ shuffledForest.known, shuffledForest.place c.source < shuffledForest.place c.target) ∧
      (∃ before block after, shuffledForest.order = before ++ "a" :: (block ++ after) ∧
        ∀ x, x ∈ block ↔ TransGen (Leads shuffledForest.known) "a" x) ∧
      shuffledChain.IsForest ∧ shuffledChain.order = ["a", "b", "c", "d"] := by
  obtain ⟨hplaces, hblocks, -⟩ := forest_order shuffledForest_isForest
  obtain ⟨-, -, hchain⟩ := forest_order shuffledChain_isForest
  refine ⟨shuffledForest_isForest, by cbv, hplaces, hblocks "a" (by decide), shuffledChain_isForest, ?_⟩
  exact hchain ["a", "b", "c", "d"] (by decide) (by decide +kernel)

end Workflows.Graph
