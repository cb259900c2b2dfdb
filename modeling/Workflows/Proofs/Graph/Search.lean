/-
The search for connections that close a cycle: what it keeps from step to step. It meets the nodes
in the order of a walk that begins with all nodes as they are declared. A connection that it reports
leads to a node that it met no later than the source; and along all other connections a node is
finished before the source is, so they close no cycle.
-/
import Workflows.Graph.Cycle
import Workflows.Proofs.Graph.Walk

namespace Workflows.Graph

section

variable {cs : List Connection}

/-! ## Steps -/

/-- What every step keeps holds at the end of a search, where the way is empty. -/
theorem pursue_keeps {P : Search → List Stop → Prop}
    (leave : ∀ search id way, P search (⟨id, []⟩ :: way) → P search way)
    (close : ∀ search id c untried way, c.target ∈ id :: wayIds way →
      P search (⟨id, c :: untried⟩ :: way) → P (search.close c) (⟨id, untried⟩ :: way))
    (skip : ∀ search id c untried way, c.target ∉ id :: wayIds way → c.target ∈ search.seen →
      P search (⟨id, c :: untried⟩ :: way) → P search (⟨id, untried⟩ :: way))
    (enter : ∀ search id c untried way, c.target ∉ search.seen →
      P search (⟨id, c :: untried⟩ :: way) →
      P (search.enter c.target) (⟨c.target, leaving cs c.target⟩ :: ⟨id, untried⟩ :: way))
    {search : Search} {way : List Stop} (h : P search way) : P (pursue cs search way) [] := by
  fun_induction pursue cs search way with
  | case1 search => exact h
  | case2 search id way ih => exact ih (leave search id way h)
  | case3 search id c untried way hway ih => exact ih (close search id c untried way hway h)
  | case4 search id c untried way hway hseen ih => exact ih (skip search id c untried way hway hseen h)
  | case5 search id c untried way _ hseen ih => exact ih (enter search id c untried way hseen h)

/-- The targets that a way has still to try. -/
def toCome (way : List Stop) : List String := way.flatMap fun stop => stop.untried.map (·.target)

/-- A search meets nodes in the order of a walk. -/
theorem seen_pursue (search : Search) (way : List Stop) (h : ∀ x ∈ wayIds way, x ∈ search.seen) :
    (pursue cs search way).seen = walk cs search.seen (toCome way) := by
  fun_induction pursue cs search way with
  | case1 search => exact (walk_nil _).symm
  | case2 search id way ih => exact ih fun x hx => h x (List.mem_cons_of_mem _ hx)
  | case3 search id c untried way hway ih =>
    rw [ih h]
    exact (walk_drop (h c.target hway) _).symm
  | case4 search id c untried way _ hseen ih =>
    rw [ih h]
    exact (walk_drop hseen _).symm
  | case5 search id c untried way _ hseen ih =>
    rw [ih]
    · show walk cs (search.seen ++ [c.target]) (targets cs c.target ++ (untried.map (·.target) ++ toCome way)) =
        walk cs search.seen (c.target :: (untried.map (·.target) ++ toCome way))
      rw [walk_record hseen]
    · intro x hx
      rcases List.mem_cons.1 hx with rfl | hx
      · simp [Search.enter]
      · exact List.mem_append_left _ (h x hx)

theorem seen_searchFrom (search : Search) (id : String) :
    (searchFrom cs search id).seen = walk cs search.seen [id] := by
  unfold searchFrom
  split
  · rename_i hid
    rw [walk_drop hid, walk_nil]
  · rename_i hid
    rw [seen_pursue _ _ (by simp [wayIds, Search.enter]), walk_record hid]
    simp [toCome, Search.enter, targets]

theorem seen_foldl (ids : List String) (search : Search) :
    (ids.foldl (searchFrom cs) search).seen = walk cs search.seen ids := by
  induction ids generalizing search with
  | nil => exact (walk_nil _).symm
  | cons id ids ih =>
    rw [List.foldl_cons, ih, seen_searchFrom, ← walk_append, List.singleton_append]

/-! ## How far a search has come -/

/-- A connection that needs no further step: it is reported, its target is finished, or its target
stands on the way behind its source. -/
def Settled (search : Search) (way : List Stop) (finished : List String) (c : Connection) : Prop :=
  c ∈ search.closing ∨ c.target ∈ finished ∨
    (c.target ∈ wayIds way ∧ search.seen.idxOf c.source < search.seen.idxOf c.target)

/-- A search on its way. The ids that it has met are on the way or finished, and the way leads from
ids met early to ids met late. -/
structure Progress (cs : List Connection) (finished : List String) (search : Search) (way : List Stop) :
    Prop where
  met : ∀ x, x ∈ search.seen ↔ x ∈ wayIds way ∨ x ∈ finished
  apart : ∀ x ∈ wayIds way, x ∉ finished
  ordered : (wayIds way).Pairwise fun later earlier => search.seen.idxOf earlier < search.seen.idxOf later
  untried : ∀ stop ∈ way, ∀ c ∈ stop.untried, c ∈ cs ∧ c.source = stop.id
  settled : ∀ c ∈ cs, c.source ∈ search.seen →
    (∃ stop ∈ way, c ∈ stop.untried) ∨ Settled search way finished c
  sooner : ∀ c ∈ cs, c.source ∈ finished →
    c ∈ search.closing ∨ finished.idxOf c.target < finished.idxOf c.source
  back : ∀ c ∈ search.closing, c ∈ cs ∧ c.source ∈ search.seen ∧ c.target ∈ search.seen ∧
    search.seen.idxOf c.target ≤ search.seen.idxOf c.source
  late : ∀ c ∈ search.closing, (c.target ∈ finished → c.source ∈ finished) ∧
    finished.idxOf c.source ≤ finished.idxOf c.target

namespace Progress

variable {finished : List String} {search : Search} {way : List Stop} {id : String}

/-- The latest stop of a way is the only one of its id, and the one that was met last. -/
theorem latest {untried : List Connection} (h : Progress cs finished search (⟨id, untried⟩ :: way)) :
    ∀ x ∈ wayIds way, search.seen.idxOf x < search.seen.idxOf id :=
  fun x hx => (List.pairwise_cons.1 h.ordered).1 x hx

theorem latest_not_mem {untried : List Connection}
    (h : Progress cs finished search (⟨id, untried⟩ :: way)) : id ∉ wayIds way :=
  fun hm => Nat.lt_irrefl _ (h.latest id hm)

theorem le_latest {untried : List Connection} (h : Progress cs finished search (⟨id, untried⟩ :: way)) {x : String}
    (hx : x ∈ id :: wayIds way) : search.seen.idxOf x ≤ search.seen.idxOf id := by
  rcases List.mem_cons.1 hx with rfl | hx
  · exact le_rfl
  · exact (h.latest x hx).le

/-- The connection to be tried next leaves the latest stop. -/
theorem next_leaves {c : Connection} {untried : List Connection}
    (h : Progress cs finished search (⟨id, c :: untried⟩ :: way)) :
    c ∈ cs ∧ c.source = id ∧ c.source ∈ search.seen := by
  obtain ⟨hc, hs⟩ := h.untried _ (List.mem_cons_self ..) c (List.mem_cons_self ..)
  exact ⟨hc, hs, (h.met _).2 (Or.inl (hs ▸ List.mem_cons_self ..))⟩

/-- A connection that is settled need not be tried any more. -/
theorem next (upper : List Stop) {c : Connection} {untried : List Connection}
    (h : Progress cs finished search (upper ++ ⟨id, c :: untried⟩ :: way))
    (hc : Settled search (upper ++ ⟨id, c :: untried⟩ :: way) finished c) :
    Progress cs finished search (upper ++ ⟨id, untried⟩ :: way) := by
  have ids : wayIds (upper ++ ⟨id, untried⟩ :: way) = wayIds (upper ++ ⟨id, c :: untried⟩ :: way) := by
    simp [wayIds]
  have still : ∀ d, (∃ stop ∈ upper ++ ⟨id, c :: untried⟩ :: way, d ∈ stop.untried) →
      d = c ∨ ∃ stop ∈ upper ++ ⟨id, untried⟩ :: way, d ∈ stop.untried := by
    rintro d ⟨stop, hstop, hd⟩
    simp only [List.mem_append, List.mem_cons] at hstop ⊢
    rcases hstop with hstop | rfl | hstop
    · exact Or.inr ⟨stop, Or.inl hstop, hd⟩
    · exact (List.mem_cons.1 hd).imp_right fun hd => ⟨_, Or.inr (Or.inl rfl), hd⟩
    · exact Or.inr ⟨stop, Or.inr (Or.inr hstop), hd⟩
  refine ⟨by rw [ids]; exact h.met, by rw [ids]; exact h.apart, by rw [ids]; exact h.ordered, ?_, ?_,
    h.sooner, h.back, h.late⟩
  · intro stop hstop d hd
    simp only [List.mem_append, List.mem_cons] at hstop
    rcases hstop with hstop | rfl | hstop
    · exact h.untried stop (List.mem_append_left _ hstop) d hd
    · exact h.untried ⟨id, c :: untried⟩ (by simp) d (List.mem_cons_of_mem _ hd)
    · exact h.untried stop (by simp [hstop]) d hd
  · intro d hd hs
    unfold Settled at hc ⊢
    rw [ids]
    rcases h.settled d hd hs with ht | hset
    · rcases still d ht with rfl | ht
      · exact Or.inr hc
      · exact Or.inl ht
    · exact Or.inr hset

/-- A connection from the latest stop back to the way is reported. -/
theorem close {c : Connection} {untried : List Connection}
    (h : Progress cs finished search (⟨id, c :: untried⟩ :: way)) (hway : c.target ∈ id :: wayIds way) :
    Progress cs finished (search.close c) (⟨id, untried⟩ :: way) := by
  obtain ⟨hc, hs, hseen⟩ := h.next_leaves
  have reported : Progress cs finished (search.close c) (⟨id, c :: untried⟩ :: way) := by
    refine ⟨h.met, h.apart, h.ordered, h.untried, ?_, ?_, ?_, ?_⟩
    · intro d hd hds
      exact (h.settled d hd hds).imp_right fun hset => hset.imp_left (List.mem_append_left _)
    · intro d hd hds
      exact (h.sooner d hd hds).imp_left (List.mem_append_left _)
    · intro d hd
      rcases List.mem_append.1 hd with hd | hd
      · exact h.back d hd
      · rw [List.mem_singleton] at hd
        subst hd
        exact ⟨hc, hseen, (h.met _).2 (Or.inl hway), by rw [hs]; exact h.le_latest hway⟩
    · intro d hd
      rcases List.mem_append.1 hd with hd | hd
      · exact h.late d hd
      · rw [List.mem_singleton] at hd
        subst hd
        have hsf : d.source ∉ finished := h.apart _ (by rw [hs]; exact List.mem_cons_self ..)
        have htf : d.target ∉ finished := h.apart _ hway
        exact ⟨fun hm => absurd hm htf, by rw [List.idxOf_of_notMem hsf, List.idxOf_of_notMem htf]⟩
  exact reported.next [] (Or.inl (List.mem_append_right _ (List.mem_singleton.2 rfl)))

/-- A node that was not met before is met. -/
theorem enter (h : Progress cs finished search way) (hid : id ∉ search.seen) :
    Progress cs finished (search.enter id) (⟨id, leaving cs id⟩ :: way) := by
  have keep : ∀ {x}, x ∈ search.seen → (search.seen ++ [id]).idxOf x = search.seen.idxOf x :=
    idxOf_prefix_eq (List.prefix_append _ _)
  have behind : ∀ {x}, x ∈ search.seen → (search.seen ++ [id]).idxOf x < (search.seen ++ [id]).idxOf id :=
    fun hx => idxOf_prefix_lt (List.prefix_append _ _) hx hid
  have onWay : ∀ x ∈ wayIds way, x ∈ search.seen := fun x hx => (h.met x).2 (Or.inl hx)
  refine ⟨?_, ?_, ?_, ?_, ?_, h.sooner, ?_, h.late⟩
  · intro x
    show x ∈ search.seen ++ [id] ↔ x ∈ id :: wayIds way ∨ x ∈ finished
    rw [List.mem_append, h.met, List.mem_singleton, List.mem_cons]; tauto
  · intro x hx
    rcases List.mem_cons.1 hx with rfl | hx
    · exact fun hf => hid ((h.met _).2 (Or.inr hf))
    · exact h.apart x hx
  · refine List.pairwise_cons.2 ⟨fun x hx => behind (onWay x hx), ?_⟩
    refine h.ordered.imp_of_mem fun {a b} ha hb hab => ?_
    show (search.seen ++ [id]).idxOf b < (search.seen ++ [id]).idxOf a
    rw [keep (onWay a ha), keep (onWay b hb)]; exact hab
  · intro stop hstop c hc
    rcases List.mem_cons.1 hstop with rfl | hstop
    · exact mem_leaving.1 hc
    · exact h.untried stop hstop c hc
  · intro c hc hs
    rcases List.mem_append.1 hs with hs | hs
    · rcases h.settled c hc hs with ⟨stop, hstop, hm⟩ | hcl | hf | ⟨hw, hlt⟩
      · exact Or.inl ⟨stop, List.mem_cons_of_mem _ hstop, hm⟩
      · exact Or.inr (Or.inl hcl)
      · exact Or.inr (Or.inr (Or.inl hf))
      · refine Or.inr (Or.inr (Or.inr ⟨List.mem_cons_of_mem _ hw, ?_⟩))
        show (search.seen ++ [id]).idxOf c.source < (search.seen ++ [id]).idxOf c.target
        rw [keep hs, keep (onWay _ hw)]; exact hlt
    · exact Or.inl ⟨_, List.mem_cons_self .., mem_leaving.2 ⟨hc, List.mem_singleton.1 hs⟩⟩
  · intro c hc
    obtain ⟨hm, hs, ht, hle⟩ := h.back c hc
    refine ⟨hm, List.mem_append_left _ hs, List.mem_append_left _ ht, ?_⟩
    show (search.seen ++ [id]).idxOf c.target ≤ (search.seen ++ [id]).idxOf c.source
    rw [keep hs, keep ht]; exact hle

/-- The latest stop is finished when all of its connections are tried. -/
theorem leave (h : Progress cs finished search (⟨id, []⟩ :: way)) :
    Progress cs (finished ++ [id]) search way := by
  have hid : id ∉ finished := h.apart id (List.mem_cons_self ..)
  have keep : ∀ {x}, x ∈ finished → (finished ++ [id]).idxOf x = finished.idxOf x :=
    idxOf_prefix_eq (List.prefix_append _ _)
  have last : (finished ++ [id]).idxOf id = finished.length := idxOf_snoc_self hid
  have len : ∀ {x}, x ∈ finished → finished.idxOf x < finished.length := List.idxOf_lt_length_of_mem
  have here : ∀ {c}, (∃ stop ∈ (⟨id, []⟩ : Stop) :: way, c ∈ stop.untried) → ∃ stop ∈ way, c ∈ stop.untried := by
    rintro c ⟨stop, hstop, hm⟩
    rcases List.mem_cons.1 hstop with rfl | hstop
    · cases hm
    · exact ⟨stop, hstop, hm⟩
  refine ⟨?_, ?_, (List.pairwise_cons.1 h.ordered).2,
    fun stop hstop => h.untried stop (List.mem_cons_of_mem _ hstop), ?_, ?_, h.back, ?_⟩
  · intro x
    rw [h.met]
    show x ∈ id :: wayIds way ∨ x ∈ finished ↔ _
    rw [List.mem_cons, List.mem_append, List.mem_singleton]; tauto
  · intro x hx hf
    rcases List.mem_append.1 hf with hf | hf
    · exact h.apart x (List.mem_cons_of_mem _ hx) hf
    · exact h.latest_not_mem (List.mem_singleton.1 hf ▸ hx)
  · intro c hc hs
    rcases h.settled c hc hs with ht | hcl | hf | ⟨hw, hlt⟩
    · exact Or.inl (here ht)
    · exact Or.inr (Or.inl hcl)
    · exact Or.inr (Or.inr (Or.inl (List.mem_append_left _ hf)))
    · rcases List.mem_cons.1 hw with hw | hw
      · exact Or.inr (Or.inr (Or.inl (by rw [hw]; simp)))
      · exact Or.inr (Or.inr (Or.inr ⟨hw, hlt⟩))
  · intro c hc hs
    rcases List.mem_append.1 hs with hs | hs
    · refine (h.sooner c hc hs).imp_right fun hlt => ?_
      have ht := List.idxOf_lt_length_iff.1 (hlt.trans (len hs))
      rw [keep hs, keep ht]; exact hlt
    · rw [List.mem_singleton] at hs
      have hseen : c.source ∈ search.seen := (h.met _).2 (Or.inl (by rw [hs]; exact List.mem_cons_self ..))
      -- all connections of the stop are tried, so its targets are reported or finished
      rcases h.settled c hc hseen with ht | hcl | hf | ⟨hw, hlt⟩
      · obtain ⟨stop, hstop, hm⟩ := here ht
        have hsrc := (h.untried stop (List.mem_cons_of_mem _ hstop) c hm).2
        exact absurd (List.mem_map.2 ⟨stop, hstop, hsrc.symm.trans hs⟩) h.latest_not_mem
      · exact Or.inl hcl
      · exact Or.inr (by rw [hs, keep hf, last]; exact len hf)
      · rw [hs] at hlt
        rcases List.mem_cons.1 hw with hw | hw
        · rw [hw] at hlt; exact absurd hlt (Nat.lt_irrefl _)
        · exact absurd (h.latest _ hw) (Nat.lt_asymm hlt)
  · intro c hc
    obtain ⟨hfin, hle⟩ := h.late c hc
    obtain ⟨-, hs, -, hback⟩ := h.back c hc
    by_cases ht : c.target ∈ finished
    · have hsf := hfin ht
      exact ⟨fun _ => List.mem_append_left _ hsf, by rw [keep hsf, keep ht]; exact hle⟩
    · by_cases hsf : c.source ∈ finished
      · refine ⟨fun _ => List.mem_append_left _ hsf, ?_⟩
        rw [keep hsf, List.idxOf_append_of_notMem ht]
        have := len hsf; omega
      · by_cases hti : c.target = id
        · -- the source is on the way and was met no earlier than the latest stop: it is that stop
          have hsi : c.source = id := by
            rcases (h.met _).1 hs with hw | hw
            · rcases List.mem_cons.1 hw with hw | hw
              · exact hw
              · have := h.latest _ hw
                rw [hti] at hback; omega
            · exact absurd hw hsf
          exact ⟨fun _ => by rw [hsi]; simp, by rw [hsi, hti]⟩
        · have htn : c.target ∉ finished ++ [id] := by simp [ht, hti]
          refine ⟨fun hm => absurd hm htn, ?_⟩
          rw [List.idxOf_of_notMem htn]
          exact List.idxOf_le_length

/-- A connection to a node that is finished needs no further step. -/
theorem skip {c : Connection} {untried : List Connection}
    (h : Progress cs finished search (⟨id, c :: untried⟩ :: way)) (hway : c.target ∉ id :: wayIds way)
    (hseen : c.target ∈ search.seen) : Progress cs finished search (⟨id, untried⟩ :: way) :=
  h.next [] (Or.inr (Or.inl (((h.met _).1 hseen).resolve_left hway)))

/-- A connection is tried once its target is on the way, behind its source. -/
theorem follow {c : Connection} {untried : List Connection}
    (h : Progress cs finished search (⟨id, c :: untried⟩ :: way)) (hseen : c.target ∉ search.seen) :
    Progress cs finished (search.enter c.target) (⟨c.target, leaving cs c.target⟩ :: ⟨id, untried⟩ :: way) := by
  refine (h.enter hseen).next [_] (Or.inr (Or.inr ⟨List.mem_cons_self .., ?_⟩))
  exact idxOf_prefix_lt (List.prefix_append _ _) h.next_leaves.2.2 hseen

end Progress

theorem pursue_progress {finished : List String} {search : Search} {way : List Stop}
    (h : Progress cs finished search way) :
    ∃ finished', Progress cs finished' (pursue cs search way) [] := by
  refine pursue_keeps (P := fun search way => ∃ finished, Progress cs finished search way) ?_ ?_ ?_ ?_ ⟨_, h⟩
  · rintro search id way ⟨finished, h⟩
    exact ⟨_, h.leave⟩
  · rintro search id c untried way hway ⟨finished, h⟩
    exact ⟨_, h.close hway⟩
  · rintro search id c untried way hway hseen ⟨finished, h⟩
    exact ⟨_, h.skip hway hseen⟩
  · rintro search id c untried way hseen ⟨finished, h⟩
    exact ⟨_, h.follow hseen⟩

/-- What the search from each new node keeps holds when all nodes are searched from. -/
theorem foldl_searchFrom_keeps {P : Search → Prop}
    (round : ∀ search id, id ∉ search.seen → P search → P (pursue cs (search.enter id) [⟨id, leaving cs id⟩]))
    (ids : List String) {search : Search} (h : P search) : P (ids.foldl (searchFrom cs) search) := by
  induction ids generalizing search with
  | nil => exact h
  | cons id ids ih =>
    rw [List.foldl_cons]
    unfold searchFrom
    split
    · exact ih h
    · rename_i hid
      exact ih (round search id hid h)

theorem search_progress (ids : List String) {finished : List String} {search : Search}
    (h : Progress cs finished search []) :
    ∃ finished', Progress cs finished' (ids.foldl (searchFrom cs) search) [] := by
  refine foldl_searchFrom_keeps (P := fun search => ∃ finished, Progress cs finished search []) ?_ ids ⟨finished, h⟩
  rintro search id hid ⟨finished, h⟩
  exact pursue_progress (h.enter hid)

end

end Workflows.Graph
