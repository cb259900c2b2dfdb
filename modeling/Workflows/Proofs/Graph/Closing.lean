/-
The connections that are reported as closing a cycle, against the cycles of a graph. Each of them
lies on a cycle: known connections lead from its target back to its source. A connection that stands
several times among the known ones is reported each time or never; and without those that are
reported the known connections have no cycle, because along all others the search finishes a node
before the one it comes from.
-/
import Workflows.Proofs.Graph.Cycle
import Workflows.Proofs.Graph.Port

namespace Workflows.Graph

open Relation (ReflTransGen TransGen)

/-- No way along some connections leads from an id back to it. -/
def Acyclic (cs : List Connection) : Prop := ∀ id, ¬ TransGen (Leads cs) id id

/-- Connections that all lead down have no cycle. -/
theorem acyclic_of_rank {cs : List Connection} (rank : String → Nat) (down : ∀ c ∈ cs, rank c.target < rank c.source) :
    Acyclic cs := by
  intro id h
  have below : ∀ x, TransGen (Leads cs) id x → rank x < rank id := by
    intro x hx
    induction hx with
    | single hab =>
      obtain ⟨c, hc, rfl, rfl⟩ := hab
      exact down c hc
    | tail _ hab ih =>
      obtain ⟨c, hc, rfl, rfl⟩ := hab
      exact (down c hc).trans ih
  exact Nat.lt_irrefl _ (below id h)

section

variable {cs : List Connection}

/-! ## Counting connections -/

theorem count_leaving_source (c : Connection) : (leaving cs c.source).count c = cs.count c := by
  rw [(leaving_perm cs c.source).count_eq, List.count_filter (by simp)]

theorem count_leaving_other {c : Connection} {id : String} (h : c.source ≠ id) : (leaving cs id).count c = 0 :=
  List.count_eq_zero_of_not_mem fun hc => h (mem_leaving.1 hc).2

/-- The connections that are still to be tried on a way. -/
def untriedOn (way : List Stop) : List Connection := way.flatMap (·.untried)

theorem count_untriedOn (upper way : List Stop) (id : String) (c d : Connection) (untried : List Connection) :
    (untriedOn (upper ++ ⟨id, c :: untried⟩ :: way)).count d =
      (untriedOn (upper ++ ⟨id, untried⟩ :: way)).count d + if c = d then 1 else 0 := by
  by_cases hcd : c = d
  · subst hcd; simp [untriedOn]; omega
  · simp [untriedOn, hcd]

/-! ## What is reported on the way -/

/-- A connection leads back to a stop of a way that was met no later than its source. -/
def LeadsBack (search : Search) (way : List Stop) (c : Connection) : Prop :=
  c.target ∈ wayIds way ∧ search.seen.idxOf c.target ≤ search.seen.idxOf c.source

/-- What a search on its way has reported. Each stop of the way leads to the later ones. Of a
connection that is not reported but leads back to the way no occurrence is tried, and of one that is
reported each occurrence is reported that is tried. -/
structure Tally (cs : List Connection) (search : Search) (way : List Stop) : Prop where
  underway : ∃ finished, Progress cs finished search way
  linked : (wayIds way).Pairwise fun later earlier => ReflTransGen (Leads cs) earlier later
  looped : ∀ c ∈ search.closing, ReflTransGen (Leads cs) c.target c.source
  fresh : ∀ c ∈ cs, c.source ∈ search.seen → c ∉ search.closing → LeadsBack search way c →
    (untriedOn way).count c = cs.count c
  whole : ∀ c ∈ search.closing, search.closing.count c + (untriedOn way).count c = cs.count c

namespace Tally

variable {search : Search} {way : List Stop} {id : String} {c : Connection} {untried : List Connection}

theorem leave (h : Tally cs search (⟨id, []⟩ :: way)) : Tally cs search way := by
  obtain ⟨finished, progress⟩ := h.underway
  refine ⟨⟨_, progress.leave⟩, (List.pairwise_cons.1 h.linked).2, h.looped, fun c hc hs hn hb => ?_, h.whole⟩
  exact h.fresh c hc hs hn ⟨List.mem_cons_of_mem _ hb.1, hb.2⟩

/-- All stops of a way lead to the latest. -/
theorem leads_latest (h : Tally cs search (⟨id, untried⟩ :: way)) {x : String} (hx : x ∈ id :: wayIds way) :
    ReflTransGen (Leads cs) x id := by
  rcases List.mem_cons.1 hx with rfl | hx
  · exact .refl
  · exact (List.pairwise_cons.1 h.linked).1 x hx

theorem close (h : Tally cs search (⟨id, c :: untried⟩ :: way)) (hway : c.target ∈ id :: wayIds way) :
    Tally cs (search.close c) (⟨id, untried⟩ :: way) := by
  obtain ⟨finished, progress⟩ := h.underway
  obtain ⟨hc, hs, hseen⟩ := progress.next_leaves
  have before := count_untriedOn [] way id c
  simp only [List.nil_append] at before
  refine ⟨⟨_, progress.close hway⟩, h.linked, ?_, ?_, ?_⟩
  · intro d hd
    rcases List.mem_append.1 hd with hd | hd
    · exact h.looped d hd
    · rw [List.mem_singleton] at hd
      subst hd
      rw [hs]
      exact h.leads_latest hway
  · intro d hd hds hn hb
    have hn : d ∉ search.closing ∧ d ≠ c := by simpa [Search.close] using hn
    have := h.fresh d hd hds hn.1 hb
    rwa [before, if_neg (Ne.symm hn.2), Nat.add_zero] at this
  · intro d hd
    show (search.closing ++ [c]).count d + _ = _
    by_cases hcd : c = d
    · subst hcd
      rw [List.count_append, List.count_singleton_self]
      by_cases hr : c ∈ search.closing
      · have := h.whole c hr
        rw [before, if_pos rfl] at this
        omega
      · -- the connection leads back, so no occurrence of it was tried before this one
        have hback : LeadsBack search (⟨id, c :: untried⟩ :: way) c :=
          ⟨hway, by rw [hs]; exact progress.le_latest hway⟩
        have := h.fresh c hc hseen hr hback
        rw [before, if_pos rfl] at this
        rw [List.count_eq_zero_of_not_mem hr]
        omega
    · have hr : d ∈ search.closing := (List.mem_append.1 hd).resolve_right fun hm => hcd (List.mem_singleton.1 hm).symm
      have := h.whole d hr
      rw [before, if_neg hcd] at this
      rw [List.count_append, List.count_singleton, if_neg (by simpa using hcd)]
      omega

/-- A connection that is neither reported nor leads back need not be tried any more. -/
theorem next (upper : List Stop) (h : Tally cs search (upper ++ ⟨id, c :: untried⟩ :: way))
    (progress : ∃ finished, Progress cs finished search (upper ++ ⟨id, untried⟩ :: way))
    (hr : c ∉ search.closing) (hb : ¬ LeadsBack search (upper ++ ⟨id, c :: untried⟩ :: way) c) :
    Tally cs search (upper ++ ⟨id, untried⟩ :: way) := by
  have ids : wayIds (upper ++ ⟨id, untried⟩ :: way) = wayIds (upper ++ ⟨id, c :: untried⟩ :: way) := by simp [wayIds]
  have same : ∀ d ≠ c, (untriedOn (upper ++ ⟨id, untried⟩ :: way)).count d =
      (untriedOn (upper ++ ⟨id, c :: untried⟩ :: way)).count d := fun d hd => by
    rw [count_untriedOn, if_neg (Ne.symm hd), Nat.add_zero]
  refine ⟨progress, by rw [ids]; exact h.linked, h.looped, ?_, ?_⟩
  · intro d hd hs hn hback
    unfold LeadsBack at hback hb
    rw [ids] at hback
    rw [same d fun e => hb (e ▸ hback)]
    exact h.fresh d hd hs hn hback
  · intro d hd
    rw [same d fun e => hr (e ▸ hd)]
    exact h.whole d hd

theorem enter (h : Tally cs search way) (hid : id ∉ search.seen) (hlink : ∀ x ∈ wayIds way, ReflTransGen (Leads cs) x id) :
    Tally cs (search.enter id) (⟨id, leaving cs id⟩ :: way) := by
  obtain ⟨finished, progress⟩ := h.underway
  have hseen : ∀ stop ∈ way, stop.id ∈ search.seen := fun stop hstop =>
    (progress.met _).2 (Or.inl (List.mem_map.2 ⟨stop, hstop, rfl⟩))
  have count : ∀ d, (untriedOn (⟨id, leaving cs id⟩ :: way)).count d = (leaving cs id).count d + (untriedOn way).count d :=
    fun d => List.count_append
  have old : ∀ d, d.source = id → (untriedOn way).count d = 0 := by
    intro d hd
    refine List.count_eq_zero_of_not_mem fun hm => hid ?_
    obtain ⟨stop, hstop, hm⟩ := List.mem_flatMap.1 hm
    rw [← hd, (progress.untried stop hstop d hm).2]
    exact hseen stop hstop
  refine ⟨⟨_, progress.enter hid⟩, List.pairwise_cons.2 ⟨hlink, h.linked⟩, h.looped, ?_, ?_⟩
  · intro d hd hs hn hback
    by_cases hds : d.source = id
    · rw [count, old d hds, ← hds, count_leaving_source, Nat.add_zero]
    · -- a connection from a node met before cannot lead back to the one that is met now
      obtain ⟨hway, hle⟩ := hback
      have hs : d.source ∈ search.seen := (List.mem_append.1 hs).resolve_right fun hm => hds (List.mem_singleton.1 hm)
      have hlt : ∀ {x}, x ∈ search.seen → (search.seen ++ [id]).idxOf x < (search.seen ++ [id]).idxOf id :=
        fun hx => idxOf_prefix_lt (List.prefix_append _ _) hx hid
      have hle : (search.seen ++ [id]).idxOf d.target ≤ (search.seen ++ [id]).idxOf d.source := hle
      have hway : d.target ∈ wayIds way := by
        rcases List.mem_cons.1 hway with ht | ht
        · rw [ht] at hle
          exact absurd (hlt hs) (Nat.not_lt.2 hle)
        · exact ht
      rw [count, count_leaving_other hds, Nat.zero_add]
      refine h.fresh d hd hs hn ⟨hway, ?_⟩
      rwa [idxOf_prefix_eq (List.prefix_append _ _) hs,
        idxOf_prefix_eq (List.prefix_append _ _) ((progress.met _).2 (Or.inl hway))] at hle
  · intro d hd
    have hds : d.source ≠ id := fun e => hid (e ▸ (progress.back d hd).2.1)
    rw [count, count_leaving_other hds, Nat.zero_add]
    exact h.whole d hd

theorem skip (h : Tally cs search (⟨id, c :: untried⟩ :: way)) (hway : c.target ∉ id :: wayIds way)
    (hseen : c.target ∈ search.seen) : Tally cs search (⟨id, untried⟩ :: way) := by
  obtain ⟨finished, progress⟩ := h.underway
  refine h.next [] ⟨_, progress.skip hway hseen⟩ (fun hr => ?_) fun hb => hway hb.1
  -- the target of a reported connection is finished after its source, which is still on the way
  have hfinished : c.target ∈ finished := ((progress.met _).1 hseen).resolve_left hway
  have hs := progress.next_leaves.2.1
  exact progress.apart id (List.mem_cons_self ..) (hs ▸ (progress.late c hr).1 hfinished)

theorem follow (h : Tally cs search (⟨id, c :: untried⟩ :: way)) (hseen : c.target ∉ search.seen) :
    Tally cs (search.enter c.target) (⟨c.target, leaving cs c.target⟩ :: ⟨id, untried⟩ :: way) := by
  obtain ⟨finished, progress⟩ := h.underway
  obtain ⟨hc, hs, hsource⟩ := progress.next_leaves
  have hlink : ∀ x ∈ id :: wayIds way, ReflTransGen (Leads cs) x c.target := fun x hx =>
    (h.leads_latest hx).tail ⟨c, hc, hs, rfl⟩
  refine (h.enter hseen hlink).next [_] ⟨_, progress.follow hseen⟩ (fun hr => ?_) fun hb => ?_
  · exact hseen (progress.back c hr).2.2.1
  · exact absurd (idxOf_prefix_lt (List.prefix_append _ _) hsource hseen) (Nat.not_lt.2 hb.2)

end Tally

theorem search_tally (ids : List String) {search : Search} (h : Tally cs search []) :
    Tally cs (ids.foldl (searchFrom cs) search) [] := by
  refine foldl_searchFrom_keeps (P := fun search => Tally cs search []) (fun search id hid h => ?_) ids h
  exact pursue_keeps (P := Tally cs) (fun _ _ _ h => h.leave) (fun _ _ _ _ _ hway h => h.close hway)
    (fun _ _ _ _ _ hway hseen h => h.skip hway hseen) (fun _ _ _ _ _ hseen h => h.follow hseen)
    (h.enter hid fun _ hx => absurd hx List.not_mem_nil)

end

/-! ## What is reported in the end -/

theorem search_tallied (graph : Graph) : Tally graph.known graph.search [] := by
  have progress : Progress graph.known [] {} [] := by constructor <;> simp [wayIds]
  exact search_tally graph.ids ⟨⟨_, progress⟩, by simp [wayIds], by simp, by simp, by simp⟩

/-- A connection is reported as often as it stands among the known ones, or never. -/
theorem count_backEdges {graph : Graph} {c : Connection} (h : c ∈ graph.backEdges) :
    graph.backEdges.count c = graph.known.count c := by
  have := graph.search_tallied.whole c h
  rwa [untriedOn, List.flatMap_nil, List.count_nil, Nat.add_zero] at this

theorem path_of_backEdge {graph : Graph} {c : Connection} (h : c ∈ graph.backEdges) :
    ReflTransGen (Leads graph.known) c.target c.source :=
  graph.search_tallied.looped c h

/-- What is left of the known connections when the reported ones are taken away. -/
theorem mem_unreported {graph : Graph} {c : Connection} (h : c ∈ graph.known.diff graph.backEdges) :
    c ∈ graph.known ∧ c ∉ graph.backEdges := by
  refine ⟨List.diff_subset _ _ h, fun hb => ?_⟩
  have hcount := List.count_pos_iff.2 h
  rw [List.count_diff, count_backEdges hb, Nat.sub_self] at hcount
  exact Nat.lt_irrefl _ hcount

theorem acyclic_unreported (graph : Graph) : Acyclic (graph.known.diff graph.backEdges) := by
  obtain ⟨rank, down, -⟩ := graph.exists_rank
  exact acyclic_of_rank rank fun c hc => down c (mem_unreported hc).1 (mem_unreported hc).2

theorem not_acyclic_of_backEdge {graph : Graph} {c : Connection} (h : c ∈ graph.backEdges) : ¬ Acyclic graph.known :=
  fun hacyclic => hacyclic c.source (.head' ⟨c, (backEdges_back h).1, rfl, rfl⟩ (path_of_backEdge h))

theorem backEdges_eq_nil_iff {graph : Graph} : graph.backEdges = [] ↔ Acyclic graph.known := by
  constructor
  · intro h
    have := acyclic_unreported graph
    rwa [h, List.diff_nil] at this
  · intro h
    exact List.eq_nil_iff_forall_not_mem.2 fun c hc => not_acyclic_of_backEdge hc h

/-- Reported are occurrences of known connections, each at most once; each of them lies on a cycle;
and when they are taken away no cycle is left. So nothing is reported exactly if there is no cycle. -/
theorem backEdges_cut_cycles (graph : Graph) :
    graph.backEdges.Subperm graph.known ∧
      (∀ c ∈ graph.backEdges, ReflTransGen (Leads graph.known) c.target c.source) ∧
      Acyclic (graph.known.diff graph.backEdges) ∧ (graph.backEdges = [] ↔ Acyclic graph.known) := by
  refine ⟨List.subperm_ext_iff.2 fun c hc => ?_, fun c hc => path_of_backEdge hc, acyclic_unreported graph,
    backEdges_eq_nil_iff⟩
  rw [count_backEdges hc]

end Workflows.Graph
