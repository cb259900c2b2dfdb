/-
Objects as lists of members: what setting a member keeps, and that members of distinct names are
kept as they are.
-/
import Mathlib.Data.List.Nodup
import Workflows.Value.Basic

namespace Workflows.Object

/-- No name stands twice. -/
def Distinct (members : Object) : Prop := (members.map (·.1)).Nodup

variable {members : Object} {key other : String} {value : Value}

theorem has_iff : has members key = true ↔ key ∈ members.map (·.1) := by
  simp [has]

theorem has_eq_isSome (members : Object) (key : String) : has members key = (get? members key).isSome := by
  rw [has, get?, Option.isSome_map, List.isSome_find?]

theorem get_of_absent (h : key ∉ members.map (·.1)) : get? members key = none := by
  simp only [get?, Option.map_eq_none_iff, List.find?_eq_none]
  intro m hm hk
  exact h (List.mem_map.2 ⟨m, hm, beq_iff_eq.1 hk⟩)

theorem mem_of_get {v : Value} (h : get? members key = some v) : (key, v) ∈ members := by
  obtain ⟨⟨k, w⟩, hfind, rfl⟩ := Option.map_eq_some_iff.1 h
  have hk : k = key := by simpa using List.find?_some hfind
  exact hk ▸ List.mem_of_find?_eq_some hfind

/-! ## Setting a member -/

theorem put_of_absent (h : key ∉ members.map (·.1)) :
    put members key value = members ++ [(key, value)] := by
  induction members with
  | nil => rfl
  | cons m ms ih =>
    rw [List.map_cons, List.mem_cons, not_or] at h
    rw [put, if_neg (Ne.symm h.1), ih h.2, List.cons_append]

theorem keys_put : (put members key value).map (·.1) =
    if key ∈ members.map (·.1) then members.map (·.1) else members.map (·.1) ++ [key] := by
  induction members with
  | nil => rfl
  | cons m ms ih =>
    obtain ⟨k, v⟩ := m
    by_cases hk : k = key
    · simp [put, hk]
    · rw [put, if_neg hk, List.map_cons, ih]
      by_cases hmem : key ∈ ms.map (·.1) <;> simp [hmem, Ne.symm hk]

theorem mem_put {m : String × Value} (h : m ∈ put members key value) : m ∈ members ∨ m = (key, value) := by
  induction members with
  | nil => simpa [put] using h
  | cons n ns ih =>
    obtain ⟨k, v⟩ := n
    by_cases hk : k = key
    · simp only [put, if_pos hk, List.mem_cons] at h
      rcases h with rfl | h
      · exact Or.inr (by rw [hk])
      · exact Or.inl (List.mem_cons_of_mem _ h)
    · simp only [put, if_neg hk, List.mem_cons] at h
      rcases h with rfl | h
      · exact Or.inl List.mem_cons_self
      · exact (ih h).imp_left (List.mem_cons_of_mem _)

theorem Distinct.put (h : Distinct members) : Distinct (put members key value) := by
  unfold Distinct
  rw [keys_put]
  split
  · exact h
  · next hk =>
    refine List.nodup_append.2 ⟨h, List.nodup_singleton key, fun k hmem other hother hsame => ?_⟩
    rw [hsame, List.mem_singleton.1 hother] at hmem
    exact hk hmem

theorem get_put_self : get? (put members key value) key = some value := by
  induction members with
  | nil => simp [put, get?]
  | cons m ms ih =>
    by_cases hk : m.1 = key
    · simp [put, get?, hk]
    · rw [put, if_neg hk]
      simpa [get?, hk] using ih

theorem get_put_of_ne (h : other ≠ key) : get? (put members key value) other = get? members other := by
  induction members with
  | nil => simp [put, get?, Ne.symm h]
  | cons m ms ih =>
    by_cases hk : m.1 = key
    · simp [put, get?, hk, Ne.symm h]
    · rw [put, if_neg hk]
      by_cases ho : m.1 = other
      · simp [get?, ho]
      · simpa [get?, ho] using ih

theorem getOrNull_put_self : getOrNull (put members key value) key = value := by
  rw [getOrNull, get_put_self, Option.getD_some]

theorem getOrNull_put_of_ne (h : other ≠ key) :
    getOrNull (put members key value) other = getOrNull members other := by
  rw [getOrNull, get_put_of_ne h, getOrNull]

/-! ## Members of distinct names -/

theorem foldl_put_of_distinct (before members : Object) (h : Distinct (before ++ members)) :
    members.foldl (fun members (key, value) => put members key value) before = before ++ members := by
  induction members generalizing before with
  | nil => simp
  | cons m ms ih =>
    have hm : m.1 ∉ before.map (·.1) := by
      unfold Distinct at h
      rw [List.map_append, List.nodup_append] at h
      intro hmem
      exact h.2.2 _ hmem _ List.mem_cons_self rfl
    obtain ⟨k, v⟩ := m
    simp only [List.foldl_cons, put_of_absent hm]
    rw [ih _ (by simpa using h), List.append_assoc, List.singleton_append]

/-- Members of distinct names are kept in their order. -/
theorem ofPairs_of_distinct {members : Object} (h : Distinct members) : ofPairs members = members :=
  foldl_put_of_distinct [] members h

end Workflows.Object
