/-
The walk through a graph: what it keeps from step to step, and from that what a whole walk gives.
It records every id that its stack leads to and no other, each once; an id is recorded after one
that leads to it, unless the walk began with it; and between a node and a target of one of its
connections stand only ids that the node leads to.
-/
import Mathlib.Data.List.Basic
import Mathlib.Data.List.Nodup
import Mathlib.Logic.Relation
import Mathlib.Tactic
import Workflows.Graph.Order

namespace Workflows.Graph

/-! ## Connections of a node -/

theorem mem_insertByPort {c x : Connection} : ∀ {cs : List Connection}, x ∈ insertByPort c cs ↔ x = c ∨ x ∈ cs
  | [] => by simp [insertByPort]
  | d :: ds => by
    unfold insertByPort
    split
    · rw [List.mem_cons, mem_insertByPort, List.mem_cons]; tauto
    · rw [List.mem_cons]

theorem mem_sortByPort {x : Connection} : ∀ {cs : List Connection}, x ∈ sortByPort cs ↔ x ∈ cs
  | [] => by simp [sortByPort]
  | c :: cs => by
    show x ∈ insertByPort c (sortByPort cs) ↔ x ∈ c :: cs
    rw [mem_insertByPort, mem_sortByPort, List.mem_cons]

theorem mem_leaving {cs : List Connection} {id : String} {c : Connection} :
    c ∈ leaving cs id ↔ c ∈ cs ∧ c.source = id := by
  unfold leaving; rw [mem_sortByPort]; simp

/-- Some connections lead from one id to another in one step. -/
def Leads (cs : List Connection) (a b : String) : Prop := ∃ c ∈ cs, c.source = a ∧ c.target = b

instance (cs : List Connection) (a b : String) : Decidable (Leads cs a b) :=
  inferInstanceAs (Decidable (∃ c ∈ cs, c.source = a ∧ c.target = b))

theorem mem_targets {cs : List Connection} {a b : String} : b ∈ targets cs a ↔ Leads cs a b := by
  unfold targets Leads
  simp only [List.mem_map, mem_leaving, and_assoc]

theorem mem_known {graph : Graph} {c : Connection} :
    c ∈ graph.known ↔ c ∈ graph.connections ∧ c.source ∈ graph.ids ∧ c.target ∈ graph.ids := by
  simp [known, knows, List.mem_filter]

/-! ## Places in a list -/

theorem idxOf_prefix_eq {l l' : List String} (h : l <+: l') {x : String} (hx : x ∈ l) :
    l'.idxOf x = l.idxOf x := by
  obtain ⟨t, rfl⟩ := h
  exact List.idxOf_append_of_mem hx

theorem idxOf_snoc_self {l : List String} {x : String} (hx : x ∉ l) : (l ++ [x]).idxOf x = l.length := by
  rw [List.idxOf_append_of_notMem hx]; simp

/-- What stands in a prefix stands before what does not. -/
theorem idxOf_prefix_lt {l l' : List String} (h : l <+: l') {x y : String} (hx : x ∈ l) (hy : y ∉ l) :
    l'.idxOf x < l'.idxOf y := by
  obtain ⟨t, rfl⟩ := h
  rw [List.idxOf_append_of_mem hx, List.idxOf_append_of_notMem hy]
  have := List.idxOf_lt_length_of_mem hx
  omega

/-! ## Steps -/

section

variable {cs : List Connection}

theorem walk_nil (recorded : List String) : walk cs recorded [] = recorded := by rw [walk]

theorem walk_drop {recorded : List String} {id : String} (h : id ∈ recorded) (stack : List String) :
    walk cs recorded (id :: stack) = walk cs recorded stack := by rw [walk, if_pos h]

theorem walk_record {recorded : List String} {id : String} (h : id ∉ recorded) (stack : List String) :
    walk cs recorded (id :: stack) = walk cs (recorded ++ [id]) (targets cs id ++ stack) := by
  rw [walk, if_neg h]

/-- What every step keeps holds at the end of a walk, where the stack is empty. -/
theorem walk_keeps {P : List String → List String → Prop}
    (drop : ∀ recorded id stack, id ∈ recorded → P recorded (id :: stack) → P recorded stack)
    (record : ∀ recorded id stack, id ∉ recorded → P recorded (id :: stack) →
      P (recorded ++ [id]) (targets cs id ++ stack))
    {recorded stack : List String} (h : P recorded stack) : P (walk cs recorded stack) [] := by
  fun_induction walk cs recorded stack with
  | case1 recorded => exact h
  | case2 recorded id stack hid ih => exact ih (drop recorded id stack hid h)
  | case3 recorded id stack hid ih => exact ih (record recorded id stack hid h)

/-- A walk from two stacks is a walk from the first and then one from the second. -/
theorem walk_append (recorded first second : List String) :
    walk cs recorded (first ++ second) = walk cs (walk cs recorded first) second := by
  fun_induction walk cs recorded first with
  | case1 recorded => rfl
  | case2 recorded id stack hid ih => rw [List.cons_append, walk_drop hid, ih]
  | case3 recorded id stack hid ih => rw [List.cons_append, walk_record hid, ← ih, List.append_assoc]

theorem walk_of_recorded {recorded stack : List String} (h : ∀ x ∈ stack, x ∈ recorded) :
    walk cs recorded stack = recorded := by
  induction stack with
  | nil => exact walk_nil recorded
  | cons id stack ih =>
    rw [walk_drop (h id (List.mem_cons_self ..))]
    exact ih fun x hx => h x (List.mem_cons_of_mem _ hx)

/-! ## What a walk records -/

theorem prefix_walk (recorded stack : List String) : recorded <+: walk cs recorded stack :=
  walk_keeps (P := fun done _ => recorded <+: done) (fun _ _ _ _ h => h)
    (fun _ _ _ _ h => h.trans (List.prefix_append _ _)) (List.prefix_refl recorded)

theorem nodup_walk {recorded : List String} (h : recorded.Nodup) (stack : List String) :
    (walk cs recorded stack).Nodup := by
  refine walk_keeps (P := fun done _ => done.Nodup) (fun _ _ _ _ h => h) (fun done id _ hid h => ?_) h
  exact List.nodup_append.2 ⟨h, List.nodup_singleton id, fun a ha b hb => by
    rw [List.mem_singleton] at hb
    subst hb
    rintro rfl
    exact hid ha⟩

/-- What a walk adds is led to from its stack. -/
theorem mem_walk_of_new {recorded stack : List String} {x : String} (h : x ∈ walk cs recorded stack)
    (hx : x ∉ recorded) : ∃ start ∈ stack, Relation.ReflTransGen (Leads cs) start x := by
  suffices (∀ x ∈ walk cs recorded stack, x ∈ recorded ∨ ∃ start ∈ stack, Relation.ReflTransGen (Leads cs) start x) ∧
      ∀ x ∈ ([] : List String), ∃ start ∈ stack, Relation.ReflTransGen (Leads cs) start x from
    (this.1 x h).resolve_left hx
  refine walk_keeps (P := fun done rest =>
    (∀ x ∈ done, x ∈ recorded ∨ ∃ start ∈ stack, Relation.ReflTransGen (Leads cs) start x) ∧
      ∀ x ∈ rest, ∃ start ∈ stack, Relation.ReflTransGen (Leads cs) start x)
    ?_ ?_ ⟨fun x hx => Or.inl hx, fun x hx => ⟨x, hx, .refl⟩⟩
  · rintro done id rest - ⟨hd, hs⟩
    exact ⟨hd, fun x hx => hs x (List.mem_cons_of_mem _ hx)⟩
  · rintro done id rest - ⟨hd, hs⟩
    obtain ⟨start, hstart, hpath⟩ := hs id (List.mem_cons_self ..)
    constructor
    · intro x hx
      rcases List.mem_append.1 hx with hx | hx
      · exact hd x hx
      · rw [List.mem_singleton.1 hx]; exact Or.inr ⟨start, hstart, hpath⟩
    · intro x hx
      rcases List.mem_append.1 hx with hx | hx
      · exact ⟨start, hstart, hpath.tail (mem_targets.1 hx)⟩
      · exact hs x (List.mem_cons_of_mem _ hx)

/-- A walk stays among the ids that its connections do not lead out of. -/
theorem walk_within {P : String → Prop} (closed : ∀ a b, P a → Leads cs a b → P b)
    {recorded stack : List String} (hr : ∀ x ∈ recorded, P x) (hs : ∀ x ∈ stack, P x) :
    ∀ x ∈ walk cs recorded stack, P x := by
  intro x hx
  by_cases hm : x ∈ recorded
  · exact hr x hm
  · obtain ⟨start, hstart, hpath⟩ := mem_walk_of_new hx hm
    clear hx hm
    induction hpath with
    | refl => exact hs start hstart
    | tail _ hab ih => exact closed _ _ ih hab

/-- The whole stack comes to be recorded. -/
theorem mem_walk_of_stack {recorded stack : List String} {x : String} (h : x ∈ stack) :
    x ∈ walk cs recorded stack := by
  suffices x ∈ walk cs recorded stack ∨ x ∈ ([] : List String) by simpa using this
  refine walk_keeps (P := fun done stack => x ∈ done ∨ x ∈ stack) ?_ ?_ (Or.inr h)
  · rintro done id stack hid (h | h)
    · exact Or.inl h
    · rcases List.mem_cons.1 h with rfl | h
      · exact Or.inl hid
      · exact Or.inr h
  · rintro done id stack - (h | h)
    · exact Or.inl (List.mem_append_left _ h)
    · rcases List.mem_cons.1 h with rfl | h
      · exact Or.inl (by simp)
      · exact Or.inr (List.mem_append_right _ h)

/-- What an added id leads to is recorded at the end of the walk. -/
theorem mem_walk_of_leads {recorded stack : List String} {a b : String} (ha : a ∈ walk cs recorded stack)
    (hnew : a ∉ recorded) (hab : Leads cs a b) : b ∈ walk cs recorded stack := by
  suffices ∀ a ∈ walk cs recorded stack, a ∉ recorded → ∀ b, Leads cs a b →
      b ∈ walk cs recorded stack ∨ b ∈ ([] : List String) by simpa using this a ha hnew b hab
  refine walk_keeps (P := fun done rest => ∀ a ∈ done, a ∉ recorded → ∀ b, Leads cs a b → b ∈ done ∨ b ∈ rest)
    ?_ ?_ fun a ha hn => absurd ha hn
  · intro done id rest hid h a ha hn b hab
    rcases h a ha hn b hab with hb | hb
    · exact Or.inl hb
    · rcases List.mem_cons.1 hb with rfl | hb
      · exact Or.inl hid
      · exact Or.inr hb
  · intro done id rest _ h a ha hn b hab
    rcases List.mem_append.1 ha with ha | ha
    · rcases h a ha hn b hab with hb | hb
      · exact Or.inl (List.mem_append_left _ hb)
      · rcases List.mem_cons.1 hb with rfl | hb
        · exact Or.inl (by simp)
        · exact Or.inr (List.mem_append_right _ hb)
    · rw [List.mem_singleton] at ha
      subst ha
      exact Or.inr (List.mem_append_left _ (mem_targets.2 hab))

/-- The targets of what is recorded are recorded too, or are still to come. -/
def Pending (cs : List Connection) (recorded stack : List String) : Prop :=
  ∀ a ∈ recorded, ∀ b, Leads cs a b → b ∈ recorded ∨ b ∈ stack

theorem walk_closed {recorded stack : List String} (h : Pending cs recorded stack) :
    Pending cs (walk cs recorded stack) [] := by
  intro a ha b hab
  refine Or.inl ?_
  by_cases hm : a ∈ recorded
  · rcases h a hm b hab with hb | hb
    · exact (prefix_walk recorded stack).subset hb
    · exact mem_walk_of_stack hb
  · exact mem_walk_of_leads ha hm hab

/-- A walk from nothing records exactly the ids that its stack leads to. -/
theorem mem_walk_iff {stack : List String} {x : String} :
    x ∈ walk cs [] stack ↔ ∃ start ∈ stack, Relation.ReflTransGen (Leads cs) start x := by
  constructor
  · exact fun h => mem_walk_of_new h List.not_mem_nil
  · rintro ⟨start, hs, h⟩
    have nothing : Pending cs [] stack := by simp [Pending]
    have closed := walk_closed nothing
    -- with an empty stack nothing is to come, so a path stays among what is recorded
    induction h with
    | refl => exact mem_walk_of_stack hs
    | tail _ hab ih => simpa using closed _ ih _ hab

/-! ## Which id comes before which -/

/-- Every id is one that the walk began with or stands behind one that leads to it; on the stack,
one that leads to it is recorded. -/
structure Sourced (cs : List Connection) (starts recorded stack : List String) : Prop where
  behind : ∀ x ∈ recorded, x ∈ starts ∨
    ∃ c ∈ cs, c.target = x ∧ recorded.idxOf c.source < recorded.idxOf x
  due : ∀ x ∈ stack, x ∈ starts ∨ ∃ c ∈ cs, c.target = x ∧ c.source ∈ recorded

theorem walk_sourced (starts : List String) : Sourced cs starts (walk cs [] starts) [] := by
  refine walk_keeps (P := Sourced cs starts) ?_ ?_ ⟨by simp, fun x hx => Or.inl hx⟩
  · intro done id stack _ h
    exact ⟨h.behind, fun x hx => h.due x (List.mem_cons_of_mem _ hx)⟩
  · intro done id stack hid h
    have grows : done <+: done ++ [id] := List.prefix_append _ _
    constructor
    · intro x hx
      rcases List.mem_append.1 hx with hx | hx
      · -- both ends were recorded before, so their places stay
        refine (h.behind x hx).imp_right ?_
        rintro ⟨c, hc, ht, hlt⟩
        have hs : c.source ∈ done := List.idxOf_lt_length_iff.1
          (hlt.trans (List.idxOf_lt_length_of_mem hx))
        exact ⟨c, hc, ht, by rw [idxOf_prefix_eq grows hs, idxOf_prefix_eq grows hx]; exact hlt⟩
      · rw [List.mem_singleton] at hx
        subst hx
        refine (h.due x (List.mem_cons_self ..)).imp_right ?_
        rintro ⟨c, hc, ht, hs⟩
        exact ⟨c, hc, ht, idxOf_prefix_lt grows hs hid⟩
    · intro x hx
      rcases List.mem_append.1 hx with hx | hx
      · obtain ⟨c, hc, hs, ht⟩ := mem_targets.1 hx
        exact Or.inr ⟨c, hc, ht, by simp [hs]⟩
      · refine (h.due x (List.mem_cons_of_mem _ hx)).imp_right ?_
        rintro ⟨c, hc, ht, hs⟩
        exact ⟨c, hc, ht, List.mem_append_left _ hs⟩

/-- While a target of `a` is to come, whatever lies above it on the stack is a target of something
recorded from `a` on; so is whatever was recorded between `a` and its target. -/
structure Nested (cs : List Connection) (recorded stack : List String) : Prop where
  above : ∀ a ∈ recorded, ∀ b, Leads cs a b → b ∉ recorded →
    ∃ upper lower, stack = upper ++ b :: lower ∧ ∀ x ∈ upper, ∃ c ∈ cs, c.target = x ∧
      c.source ∈ recorded ∧ recorded.idxOf a ≤ recorded.idxOf c.source
  between : ∀ a ∈ recorded, ∀ b, Leads cs a b → ∀ u ∈ recorded, recorded.idxOf a < recorded.idxOf u →
    recorded.idxOf u < recorded.idxOf b → ∃ c ∈ cs, c.target = u ∧
      recorded.idxOf a ≤ recorded.idxOf c.source ∧ recorded.idxOf c.source < recorded.idxOf u

/-- The part above a target that is still to come, after the top of the stack is taken. -/
theorem Nested.above_tail {recorded stack : List String} {id : String} (h : Nested cs recorded (id :: stack))
    {a b : String} (ha : a ∈ recorded) (hab : Leads cs a b) (hb : b ∉ recorded) (hne : b ≠ id) :
    (∃ c ∈ cs, c.target = id ∧ c.source ∈ recorded ∧ recorded.idxOf a ≤ recorded.idxOf c.source) ∧
      ∃ upper lower, stack = upper ++ b :: lower ∧ ∀ x ∈ upper, ∃ c ∈ cs, c.target = x ∧
        c.source ∈ recorded ∧ recorded.idxOf a ≤ recorded.idxOf c.source := by
  obtain ⟨upper, lower, heq, hup⟩ := h.above a ha b hab hb
  cases upper with
  | nil => exact absurd (List.cons.inj heq).1.symm hne
  | cons x upper =>
    obtain ⟨rfl, rfl⟩ := List.cons.inj heq
    exact ⟨hup id (List.mem_cons_self ..), upper, lower, rfl, fun x hx => hup x (List.mem_cons_of_mem _ hx)⟩

theorem Nested.drop {recorded stack : List String} {id : String} (hid : id ∈ recorded)
    (h : Nested cs recorded (id :: stack)) : Nested cs recorded stack :=
  ⟨fun _ ha _ hab hb => (h.above_tail ha hab hb (fun e => hb (e ▸ hid))).2, h.between⟩

theorem Nested.record {recorded stack : List String} {id : String} (hid : id ∉ recorded)
    (h : Nested cs recorded (id :: stack)) : Nested cs (recorded ++ [id]) (targets cs id ++ stack) := by
  have grows : recorded <+: recorded ++ [id] := List.prefix_append _ _
  have last : (recorded ++ [id]).idxOf id = recorded.length := idxOf_snoc_self hid
  have old : ∀ {x}, (recorded ++ [id]).idxOf x < recorded.length → x ∈ recorded := by
    intro x hx
    by_contra hm
    rw [List.idxOf_append_of_notMem hm] at hx
    omega
  have keep : ∀ {x}, x ∈ recorded → (recorded ++ [id]).idxOf x = recorded.idxOf x := idxOf_prefix_eq grows
  have len : ∀ {x}, x ∈ recorded → recorded.idxOf x < recorded.length := List.idxOf_lt_length_of_mem
  constructor
  · intro a ha b hab hb
    simp only [List.mem_append, List.mem_singleton, not_or] at ha hb
    rcases ha with ha | rfl
    · -- the targets of `id` come to lie above `b`, and `id` is recorded behind `a`
      obtain ⟨-, upper, lower, rfl, hup⟩ := h.above_tail ha hab hb.1 hb.2
      refine ⟨targets cs id ++ upper, lower, by simp, fun x hx => ?_⟩
      rcases List.mem_append.1 hx with hx | hx
      · obtain ⟨c, hc, rfl, ht⟩ := mem_targets.1 hx
        exact ⟨c, hc, ht, by simp, by rw [last, keep ha]; exact (len ha).le⟩
      · obtain ⟨c, hc, ht, hs, hle⟩ := hup x hx
        exact ⟨c, hc, ht, List.mem_append_left _ hs, by rw [keep ha, keep hs]; exact hle⟩
    · obtain ⟨upper, lower, heq⟩ := List.append_of_mem (mem_targets.2 hab)
      refine ⟨upper, lower ++ stack, by rw [heq]; simp, fun x hx => ?_⟩
      obtain ⟨c, hc, hs, ht⟩ := mem_targets.1 (heq ▸ List.mem_append_left _ hx)
      exact ⟨c, hc, ht, by simp [hs], by rw [hs]⟩
  · intro a _ b hab u hu hau hub
    rcases List.mem_append.1 hu with hu | hu
    · -- `u` was recorded before, and `b` was not recorded between
      rw [keep hu] at hau hub
      have ha := old (hau.trans (len hu))
      rw [keep ha] at hau
      have hub' : recorded.idxOf u < recorded.idxOf b := by
        by_cases hb : b ∈ recorded
        · rw [keep hb] at hub; exact hub
        · rw [List.idxOf_of_notMem hb]; exact len hu
      obtain ⟨c, hc, ht, hle, hlt⟩ := h.between a ha b hab u hu hau hub'
      have hs := List.idxOf_lt_length_iff.1 (hlt.trans (len hu))
      exact ⟨c, hc, ht, by rw [keep ha, keep hs]; exact hle, by rw [keep hs, keep hu]; exact hlt⟩
    · -- `u` is the id that is recorded now: it lay above `b`, which is still to come
      rw [List.mem_singleton] at hu
      subst hu
      rw [last] at hau hub
      have ha := old hau
      have hb : b ∉ recorded := fun hb => by rw [keep hb] at hub; have := len hb; omega
      have hne : b ≠ u := fun e => by rw [e, last] at hub; omega
      obtain ⟨⟨c, hc, ht, hs, hle⟩, -⟩ := h.above_tail ha hab hb hne
      exact ⟨c, hc, ht, by rw [keep ha, keep hs]; exact hle, by rw [keep hs, last]; exact len hs⟩

theorem walk_nested (starts : List String) : Nested cs (walk cs [] starts) [] :=
  walk_keeps (fun _ _ _ hid h => h.drop hid) (fun _ _ _ hid h => h.record hid)
    ⟨by simp, by simp⟩

end

end Workflows.Graph
