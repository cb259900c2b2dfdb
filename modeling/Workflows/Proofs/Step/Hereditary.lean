/-
Properties of values that are handed down: a list and an object have one exactly if their items and members
do. A step that is read from an entry keeps them, whatever it takes over from where.
-/
import Workflows.Proofs.Json.RoundTrip
import Workflows.Proofs.Step.Canonical

namespace Workflows

open Workflows.Json

namespace Value

/-- Null, all texts and all integers that are not too long have a property, and a list or an object has it if
all that is in it does, under distinct names; the names and the values of a table that has it have it, too. -/
structure Hereditary (P : Value → Prop) : Prop where
  null : P .null
  text : ∀ s, P (.text s)
  int : ∀ n : Int, (Nat.toDigits 10 n.natAbs).length ≤ Numeral.maxDigits → P (.int n)
  list : ∀ {items : List Value}, P (.list items) ↔ ∀ v ∈ items, P v
  object : ∀ {members : Object}, P (.object members) ↔ members.Distinct ∧ ∀ m ∈ members, P m.2
  entries : ∀ {entries : List (Value × Value)}, P (.table entries) → ∀ e ∈ entries, P e.1 ∧ P e.2

theorem hereditary_exact : Hereditary (isExact · = true) where
  null := rfl
  text _ := rfl
  int _ h := by simpa [isExact] using h
  list := by simp only [isExact, exactItems_iff, implies_true]
  object := by simp only [isExact, exactMembers_iff, implies_true]
  entries h := by simp [isExact] at h

theorem hereditary_writable : Hereditary (isWritable · = true) where
  null := rfl
  text _ := rfl
  int _ h := by simpa [isWritable] using h
  list := by simp only [isWritable, writableItems_iff, implies_true]
  object := by simp only [isWritable, writableMembers_iff, implies_true]
  entries h := by
    rw [isWritable] at h
    exact writableEntries_iff.1 h

namespace Hereditary

variable {P : Value → Prop} (hered : Hereditary P) {members entry params : Object} {v : Value}

include hered

/-! ## Values -/

theorem get (h : P (.object members)) {key : String} (hv : Object.get? members key = some v) : P v :=
  (hered.object.1 h).2 _ (Object.mem_of_get hv)

theorem getOrNull (h : P (.object members)) (key : String) : P (Object.getOrNull members key) := by
  unfold Object.getOrNull
  cases hv : Object.get? members key with
  | none => exact hered.null
  | some v => exact hered.get h hv

theorem put (h : P (.object members)) (key : String) (hv : P v) : P (.object (Object.put members key v)) := by
  obtain ⟨hdistinct, hmembers⟩ := hered.object.1 h
  refine hered.object.2 ⟨hdistinct.put, fun m hmem => ?_⟩
  rcases Object.mem_put hmem with hmem | rfl
  · exact hmembers m hmem
  · exact hv

theorem empty : P (.object []) := hered.object.2 ⟨List.nodup_nil, by simp⟩

theorem single {name : String} (hv : P v) : P (.object [(name, v)]) :=
  hered.object.2 ⟨List.nodup_singleton name, fun _ hm => List.mem_singleton.1 hm ▸ hv⟩

omit hered in
theorem orElse {a b : Value} (ha : P a) (hb : P b) : P (a.orElse b) := by
  unfold Value.orElse
  split <;> assumption

theorem ofPairs {pairs : List (String × Value)} (h : ∀ p ∈ pairs, P p.2) : P (.object (Object.ofPairs pairs)) :=
  List.foldlRecOn pairs _ (motive := fun members : Object => P (.object members)) hered.empty
    fun _ hmembers p hp => hered.put hmembers p.1 (h p hp)

/-- What a value is gone through as keeps the property. -/
theorem elements (hv : P v) {entries : List Value} (h : v.elements = .ok entries) : ∀ e ∈ entries, P e := by
  cases v with
  | list items =>
    cases h
    exact hered.list.1 hv
  | text s =>
    cases h
    exact List.forall_mem_map.2 fun c _ => hered.text _
  | object members =>
    cases h
    exact List.forall_mem_map.2 fun m _ => hered.text _
  | table entries =>
    cases h
    exact List.forall_mem_map.2 fun e he => (hered.entries hv e he).1
  | _ => cases h

/-! ## Steps -/

theorem adoptField (he : P (.object entry)) (hp : P (.object params)) (key : String) :
    P (.object (Step.adoptField entry params key)) := by
  unfold Step.adoptField
  split
  · exact hp
  · split
    · next hv => exact hered.put hp key (hered.get he hv)
    · exact hp

theorem foldAll (table : List (String × List String)) (hp : P (.object params)) :
    P (.object (Step.foldAll table params)) := by
  induction table generalizing params with
  | nil => exact hp
  | cons s table ih =>
    have hfold : P (.object (Step.foldSpellings params s.1 s.2)) := by
      rcases Step.foldSpellings_cases params s.1 s.2 with h | ⟨other, -, -, h⟩
      · rw [h]
        exact hp
      · rw [h]
        exact hered.put hp _ (hered.getOrNull hp other)
    exact ih hfold

theorem normalizeParams (he : P (.object entry)) (hp : P (.object params)) :
    P (.object (Step.normalizeParams entry params)) := by
  have hflat : P (.object (Step.flatFields.foldl (Step.adoptField entry) params)) :=
    List.foldlRecOn Step.flatFields (Step.adoptField entry) (motive := fun params : Object => P (.object params)) hp
      fun _ h key _ => hered.adoptField he h key
  rw [Step.normalizeParams_eq]
  exact hered.foldAll Step.spellings hflat

/-- The value of a step whose name and parameters have the property has it. -/
theorem stepValue {step : Step} (hname : P step.name) (hparams : P (.object step.params)) : P step.toValue := by
  refine hered.object.2 ⟨by simp [Object.Distinct], fun m hm => ?_⟩
  simp only [List.mem_cons, List.not_mem_nil, or_false] at hm
  rcases hm with rfl | rfl | rfl | rfl
  · exact hered.text _
  · exact hered.text _
  · exact hname
  · exact hparams

theorem ofMembers (he : P (.object entry)) (hp : P (.object params)) (position : Nat) :
    P (Step.ofMembers entry params position).1.toValue := by
  rw [Step.ofMembers_step]
  refine hered.stepValue ?_ ?_ <;> dsimp only
  · exact hered.text _
  · exact hered.normalizeParams he hp

theorem ofValue (he : P v) {position : Nat} {step : Step} (h : (Step.ofValue v position).1 = some step) :
    P step.toValue := by
  unfold Step.ofValue at h
  split at h
  · next members =>
    have hp := hered.getOrNull he "params"
    split at h
    · cases h
      exact hered.ofMembers he hered.empty position
    · next params hparams =>
      cases h
      rw [hparams] at hp
      exact hered.ofMembers he hp position
    · cases h
  · cases h

theorem ofEntries : ∀ {entries : List Value}, (∀ v ∈ entries, P v) → ∀ position,
    ∀ step ∈ (Step.ofEntries position entries).1, P step.toValue
  | [], _, _ => by simp [Step.ofEntries]
  | entry :: entries, h, position => by
    obtain ⟨hentry, hentries⟩ := List.forall_mem_cons.1 h
    simp only [Step.ofEntries, List.mem_append, Option.mem_toList]
    rintro step (hstep | hstep)
    · exact hered.ofValue hentry hstep
    · exact ofEntries hentries _ step hstep

theorem readEntries {entries : List Value} (h : ∀ v ∈ entries, P v) {steps : List Step}
    (hsteps : (Step.readEntries entries).1 = .ok steps) : ∀ step ∈ steps, P step.toValue := by
  unfold Step.readEntries at hsteps
  split at hsteps
  · cases hsteps
  · dsimp only at hsteps
    split at hsteps
    · cases hsteps
    · cases hsteps
      exact hered.ofEntries h 1

end Hereditary

/-! ## Published values -/

variable {P : Value → Prop}

mutual

/-- What is read of a value that was written keeps the property. -/
theorem Hereditary.published (hered : Hereditary P) : ∀ {v : Value}, P v → P (published v)
  | .null, h | .bool _, h | .int _, h | .float _, h | .text _, h => by simpa only [Json.published] using h
  | .list items, h => by
    rw [Json.published]
    exact hered.list.2 (hered.publishedItems (hered.list.1 h))
  | .object members, h => by
    obtain ⟨hdistinct, hmembers⟩ := hered.object.1 h
    rw [Json.published]
    refine hered.object.2 ⟨?_, hered.publishedMembers hmembers⟩
    rwa [Object.Distinct, names_publishedMembers]
  | .table entries, h => by
    rw [Json.published]
    exact hered.ofPairs (hered.publishedEntries fun e he => (hered.entries h e he).2)

theorem Hereditary.publishedItems (hered : Hereditary P) : ∀ {items : List Value}, (∀ v ∈ items, P v) →
    ∀ v ∈ publishedItems items, P v
  | [], _ => by simp [Json.publishedItems]
  | v :: vs, h => by
    obtain ⟨hv, hvs⟩ := List.forall_mem_cons.1 h
    rw [Json.publishedItems]
    exact List.forall_mem_cons.2 ⟨hered.published hv, hered.publishedItems hvs⟩

theorem Hereditary.publishedMembers (hered : Hereditary P) : ∀ {members : Object}, (∀ m ∈ members, P m.2) →
    ∀ m ∈ publishedMembers members, P m.2
  | [], _ => by simp [Json.publishedMembers]
  | (key, v) :: rest, h => by
    obtain ⟨hv, hrest⟩ := List.forall_mem_cons.1 h
    rw [Json.publishedMembers]
    exact List.forall_mem_cons.2 ⟨hered.published hv, hered.publishedMembers hrest⟩

theorem Hereditary.publishedEntries (hered : Hereditary P) : ∀ {entries : List (Value × Value)},
    (∀ e ∈ entries, P e.2) → ∀ m ∈ publishedEntries entries, P m.2
  | [], _ => by simp [Json.publishedEntries]
  | (key, v) :: rest, h => by
    obtain ⟨hv, hrest⟩ := List.forall_mem_cons.1 h
    rw [Json.publishedEntries]
    exact List.forall_mem_cons.2 ⟨hered.published hv, hered.publishedEntries hrest⟩

end

end Value

end Workflows
