/-
Computations that may fail taken apart: what their parts gave if the whole gave a result.
-/
import Mathlib.Data.List.Forall2
import Mathlib.Tactic

namespace Workflows

variable {α β ε : Type}

/-- A sequence gives a result if its first part does, and its second on what the first gave. -/
theorem bind_eq_ok {x : Except ε α} {f : α → Except ε β} {b : β} :
    x.bind f = .ok b ↔ ∃ a, x = .ok a ∧ f a = .ok b := by
  cases x <;> simp [Except.bind]

theorem map_eq_ok {x : Except ε α} {f : α → β} {b : β} : x.map f = .ok b ↔ ∃ a, x = .ok a ∧ f a = b := by
  cases x <;> simp [Except.map]

theorem map_eq_error {x : Except ε α} {f : α → β} {e : ε} : x.map f = .error e ↔ x = .error e := by
  cases x <;> simp [Except.map]

/-- Results that came one after another, each from its item. -/
theorem forall₂_of_mapM {f : α → Except ε β} {items : List α} {results : List β}
    (h : items.mapM f = .ok results) : List.Forall₂ (fun item result => f item = .ok result) items results := by
  induction items generalizing results with
  | nil => cases h; exact .nil
  | cons item items ih =>
    rw [List.mapM_cons] at h
    obtain ⟨result, hitem, h⟩ := bind_eq_ok.1 h
    obtain ⟨rest, hrest, h⟩ := bind_eq_ok.1 h
    cases h
    exact .cons hitem (ih hrest)

/-- Each result is that of some item. -/
theorem exists_of_mem_mapM {f : α → Except ε β} {items : List α} {results : List β} (h : items.mapM f = .ok results)
    {result : β} (hresult : result ∈ results) : ∃ item ∈ items, f item = .ok result := by
  obtain ⟨hlength, hget⟩ := List.forall₂_iff_get.1 (forall₂_of_mapM h)
  obtain ⟨i, rfl⟩ := List.mem_iff_get.1 hresult
  have hi : i.val < items.length := hlength.symm ▸ i.isLt
  exact ⟨_, List.get_mem items ⟨i.val, hi⟩, hget i.val hi i.isLt⟩

end Workflows
