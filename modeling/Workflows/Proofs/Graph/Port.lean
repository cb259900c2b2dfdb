/-
The order in which the connections of a node are followed: ascending by output and then by input,
and as declared where both are equal. A list in that order is known as soon as its connections at
each port are; so every stable sort gives it, and two lists that agree on the connections at each
port of each node are followed alike.
-/
import Workflows.Proofs.Graph.Walk

namespace Workflows

/-- The output and the input that a connection joins. -/
def Connection.port (c : Connection) : Int × Int := (c.output, c.input)

namespace Graph

/-- A connection does not come behind another by its output and then by its input. -/
def portLE (a b : Connection) : Bool :=
  decide (a.output < b.output ∨ a.output = b.output ∧ a.input ≤ b.input)

theorem portLE_iff {a b : Connection} :
    portLE a b = true ↔ a.output < b.output ∨ a.output = b.output ∧ a.input ≤ b.input := by
  simp [portLE]

theorem portLE_refl (a : Connection) : portLE a a = true := by
  rw [portLE_iff]; omega

theorem portLE_trans (a b c : Connection) (hab : portLE a b = true) (hbc : portLE b c = true) :
    portLE a c = true := by
  rw [portLE_iff] at *; omega

theorem portLE_total (a b : Connection) : (portLE a b || portLE b a) = true := by
  rw [Bool.or_eq_true, portLE_iff, portLE_iff]; omega

theorem portLE_antisymm {a b : Connection} (hab : portLE a b = true) (hba : portLE b a = true) :
    a.port = b.port := by
  rw [portLE_iff] at hab hba
  have houtput : a.output = b.output := by omega
  have hinput : a.input = b.input := by omega
  exact Prod.ext houtput hinput

theorem portLE_of_port_eq {a b : Connection} (h : a.port = b.port) : portLE a b = true := by
  obtain ⟨houtput, hinput⟩ := Prod.mk.inj h
  rw [portLE_iff]; omega

theorem portBefore_eq_not_portLE (a b : Connection) : portBefore a b = !portLE b a := by
  rw [Bool.eq_iff_iff, Bool.not_eq_true', ← Bool.not_eq_true, portLE_iff]
  simp only [portBefore, Bool.or_eq_true, Bool.and_eq_true, decide_eq_true_eq, beq_iff_eq]
  omega

/-! ## Lists by their ports -/

theorem mem_iff_of_filter_port {cs ds : List Connection}
    (h : ∀ port, cs.filter (·.port = port) = ds.filter (·.port = port)) {c : Connection} : c ∈ cs ↔ c ∈ ds := by
  have hmem : c ∈ cs.filter (·.port = c.port) ↔ c ∈ ds.filter (·.port = c.port) := by rw [h]
  simpa using hmem

/-- Two lists in ascending order are equal if their connections at each port are. -/
theorem eq_of_filter_port {cs ds : List Connection} (hcs : cs.Pairwise (portLE · ·)) (hds : ds.Pairwise (portLE · ·))
    (h : ∀ port, cs.filter (·.port = port) = ds.filter (·.port = port)) : cs = ds := by
  induction cs generalizing ds with
  | nil => exact (List.eq_nil_iff_forall_not_mem.2 fun d hd => List.not_mem_nil ((mem_iff_of_filter_port h).2 hd)).symm
  | cons c cs ih =>
    cases ds with
    | nil => exact absurd ((mem_iff_of_filter_port h).1 (List.mem_cons_self ..)) List.not_mem_nil
    | cons d ds =>
      -- neither head stands behind the other, so they are the first connections at one port
      have hcd : portLE c d = true := by
        rcases List.mem_cons.1 ((mem_iff_of_filter_port h).2 (List.mem_cons_self ..)) with rfl | hd
        · exact portLE_refl d
        · exact (List.pairwise_cons.1 hcs).1 d hd
      have hdc : portLE d c = true := by
        rcases List.mem_cons.1 ((mem_iff_of_filter_port h).1 (List.mem_cons_self ..)) with rfl | hc
        · exact portLE_refl c
        · exact (List.pairwise_cons.1 hds).1 c hc
      have hport := portLE_antisymm hcd hdc
      have heads := h c.port
      rw [List.filter_cons_of_pos (by simp), List.filter_cons_of_pos (by simp [hport])] at heads
      obtain rfl := (List.cons.inj heads).1
      rw [ih (List.pairwise_cons.1 hcs).2 (List.pairwise_cons.1 hds).2 fun port => ?_]
      have hall := h port
      by_cases hp : c.port = port
      · rw [List.filter_cons_of_pos (by simp [hp]), List.filter_cons_of_pos (by simp [hp])] at hall
        exact (List.cons.inj hall).2
      · rwa [List.filter_cons_of_neg (by simp [hp]), List.filter_cons_of_neg (by simp [hp])] at hall

/-! ## Sorting by ports -/

theorem pairwise_insertByPort {c : Connection} {cs : List Connection} (h : cs.Pairwise (portLE · ·)) :
    (insertByPort c cs).Pairwise (portLE · ·) := by
  induction cs with
  | nil => exact List.pairwise_singleton _ _
  | cons d ds ih =>
    obtain ⟨hd, hds⟩ := List.pairwise_cons.1 h
    rw [insertByPort, portBefore_eq_not_portLE]
    split
    · rename_i hcd
      refine List.pairwise_cons.2 ⟨fun x hx => ?_, ih hds⟩
      rcases mem_insertByPort.1 hx with rfl | hx
      · have htotal := portLE_total d x
        rw [Bool.not_eq_true'] at hcd
        rwa [hcd, Bool.or_false] at htotal
      · exact hd x hx
    · rename_i hcd
      have hcd : portLE c d = true := by simpa using hcd
      refine List.pairwise_cons.2 ⟨fun x hx => ?_, h⟩
      rcases List.mem_cons.1 hx with rfl | hx
      · exact hcd
      · exact portLE_trans c d x hcd (hd x hx)

theorem pairwise_sortByPort (cs : List Connection) : (sortByPort cs).Pairwise (portLE · ·) := by
  induction cs with
  | nil => exact List.Pairwise.nil
  | cons c cs ih => exact pairwise_insertByPort ih

/-- What a connection is put behind stands at another port. -/
theorem filter_port_insertByPort (c : Connection) (cs : List Connection) (port : Int × Int) :
    (insertByPort c cs).filter (·.port = port) = (c :: cs).filter (·.port = port) := by
  induction cs with
  | nil => rfl
  | cons d ds ih =>
    rw [insertByPort]
    split
    · rename_i hdc
      have hne : c.port ≠ d.port := fun he => by
        rw [portBefore_eq_not_portLE, portLE_of_port_eq he] at hdc
        exact absurd hdc (by decide)
      rw [List.filter_cons, ih]
      by_cases hc : c.port = port
      · have hd : d.port ≠ port := fun hd => hne (hc.trans hd.symm)
        simp [hc, hd]
      · simp [List.filter_cons, hc]
    · rfl

/-- Sorting keeps the connections at a port in their order. -/
theorem filter_port_sortByPort (cs : List Connection) (port : Int × Int) :
    (sortByPort cs).filter (·.port = port) = cs.filter (·.port = port) := by
  induction cs with
  | nil => rfl
  | cons c cs ih =>
    show (insertByPort c (sortByPort cs)).filter (·.port = port) = _
    rw [filter_port_insertByPort, List.filter_cons, ih, List.filter_cons]

theorem filter_port_mergeSort (cs : List Connection) (port : Int × Int) :
    (cs.mergeSort portLE).filter (·.port = port) = cs.filter (·.port = port) := by
  have alike : (cs.filter (·.port = port)).Pairwise (portLE · ·) :=
    List.pairwise_of_forall_mem_list fun a ha b hb => by
      have ha : a.port = port := by simpa using (List.mem_filter.1 ha).2
      have hb : b.port = port := by simpa using (List.mem_filter.1 hb).2
      exact portLE_of_port_eq (ha.trans hb.symm)
  have kept := (List.sublist_mergeSort portLE_trans portLE_total alike List.filter_sublist).filter (·.port = port)
  rw [List.filter_filter] at kept
  simp only [Bool.and_self] at kept
  exact (kept.eq_of_length ((List.mergeSort_perm cs portLE).filter _).length_eq.symm).symm

/-- The connections that leave a node come in the order of a stable sort by their ports. -/
theorem leaving_eq_mergeSort (cs : List Connection) (id : String) :
    leaving cs id = (cs.filter (·.source == id)).mergeSort portLE := by
  refine eq_of_filter_port (pairwise_sortByPort _) ?_ fun port => ?_
  · exact List.pairwise_mergeSort portLE_trans portLE_total _
  · rw [filter_port_mergeSort]
    exact filter_port_sortByPort _ port

theorem leaving_perm (cs : List Connection) (id : String) : (leaving cs id).Perm (cs.filter (·.source == id)) := by
  rw [leaving_eq_mergeSort]
  exact List.mergeSort_perm _ _

end Graph

end Workflows
