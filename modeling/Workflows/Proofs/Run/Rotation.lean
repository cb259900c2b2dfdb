/-
Turns of the rotation: after a number of turns the cursor stands that many seats further on, counted
round, so that it is back where it was after whole rounds and only then. From the first seat on, each seat
comes up once in every whole round, so no seat is ever more than one turn ahead of another.
-/
import Mathlib.Data.Int.CardIntervalMod
import Mathlib.Tactic
import Workflows.Run.Rotation

namespace Workflows.Rotation

variable (rotation : Rotation) (turns : Nat)

theorem seats_turned : (advance^[turns] rotation).seats = rotation.seats := by
  induction turns with
  | zero => rfl
  | succ turns ih => rw [Function.iterate_succ_apply', ← ih]; rfl

theorem cursor_turned :
    (advance^[turns] rotation).cursor.val = (rotation.cursor.val + turns) % rotation.seats := by
  induction turns with
  | zero => exact (Nat.mod_eq_of_lt rotation.cursor.isLt).symm
  | succ turns ih =>
    rw [Function.iterate_succ_apply']
    show ((advance^[turns] rotation).cursor.val + 1) % (advance^[turns] rotation).seats = _
    rw [ih, seats_turned, Nat.mod_add_mod, Nat.add_assoc]

theorem cursor_turned_eq_iff :
    (advance^[turns] rotation).cursor.val = rotation.cursor.val ↔ rotation.seats ∣ turns := by
  have hlt : rotation.cursor.val < rotation.seats := rotation.cursor.isLt
  rw [cursor_turned]
  constructor
  · intro h
    have hmod : rotation.cursor.val + turns ≡ rotation.cursor.val + 0 [MOD rotation.seats] := by
      rw [Nat.ModEq, h, Nat.add_zero, Nat.mod_eq_of_lt hlt]
    exact Nat.modEq_zero_iff_dvd.1 (Nat.ModEq.add_left_cancel' _ hmod)
  · rintro ⟨rounds, rfl⟩
    rw [Nat.add_mul_mod_self_left, Nat.mod_eq_of_lt hlt]

theorem eq_of_cursor_eq {one other : Rotation} (hseats : one.seats = other.seats)
    (hcursor : one.cursor.val = other.cursor.val) : one = other := by
  obtain ⟨seats, cursor⟩ := one
  obtain ⟨seats', cursor'⟩ := other
  obtain rfl : seats = seats' := hseats
  obtain rfl : cursor = cursor' := Fin.ext hcursor
  rfl

/-- After whole rounds the rotation is as it was. -/
theorem turned_of_dvd {rotation : Rotation} {turns : Nat} (h : rotation.seats ∣ turns) :
    advance^[turns] rotation = rotation :=
  eq_of_cursor_eq (seats_turned rotation turns) ((cursor_turned_eq_iff rotation turns).2 h)

/-! ## The seats of turns -/

/-- A rotation begins with its first seat. -/
theorem of_start? {seats : Nat} {rotation : Rotation} (h : start? seats = some rotation) :
    0 < seats ∧ rotation.seats = seats ∧ rotation.cursor.val = 0 := by
  unfold start? at h
  split at h
  · next hpos =>
    cases h
    exact ⟨hpos, rfl, rfl⟩
  · cases h

/-- Turns are seats in a row, counted round. -/
theorem turns_eq_map (rotation : Rotation) (count : Nat) :
    rotation.turns count = (List.range count).map fun k => (rotation.cursor.val + k) % rotation.seats := by
  induction count generalizing rotation with
  | zero => rfl
  | succ count ih =>
    have hcursor : rotation.cursor.val % rotation.seats = rotation.cursor.val :=
      Nat.mod_eq_of_lt rotation.cursor.isLt
    have hrest : ∀ k, (rotation.advance.cursor.val + k) % rotation.advance.seats =
        (rotation.cursor.val + (k + 1)) % rotation.seats := by
      intro k
      show ((rotation.cursor.val + 1) % rotation.seats + k) % rotation.seats = _
      rw [Nat.mod_add_mod, Nat.add_assoc, Nat.add_comm 1]
    rw [Rotation.turns, ih, List.range_succ_eq_map, List.map_cons, List.map_map, Nat.add_zero, hcursor]
    exact congrArg _ (List.map_congr_left fun k _ => hrest k)

theorem getElem?_turns (rotation : Rotation) {k count : Nat} (h : k < count) :
    (rotation.turns count)[k]? = some ((rotation.cursor.val + k) % rotation.seats) := by
  simp [turns_eq_map, h]

theorem turns_succ (rotation : Rotation) (count : Nat) :
    rotation.turns (count + 1) =
      rotation.turns count ++ [(rotation.cursor.val + count) % rotation.seats] := by
  rw [turns_eq_map, turns_eq_map, List.range_succ, List.map_append, List.map_singleton]

/-- From the first seat on, a seat comes up once in every whole round, and once more if the round that has
begun has come past it. -/
theorem count_turns {rotation : Rotation} (hfirst : rotation.cursor.val = 0) (count : Nat) {seat : Nat}
    (hseat : seat < rotation.seats) :
    (rotation.turns count).count seat =
      count / rotation.seats + if seat < count % rotation.seats then 1 else 0 := by
  have hpos : 0 < rotation.seats := Nat.zero_lt_of_lt hseat
  have hcount : (rotation.turns count).count seat = count.count (· ≡ seat [MOD rotation.seats]) := by
    induction count with
    | zero => rfl
    | succ count ih =>
      rw [turns_succ, List.count_append, ih, Nat.count_succ, List.count_singleton, hfirst, Nat.zero_add]
      simp only [Nat.ModEq, Nat.mod_eq_of_lt hseat, beq_iff_eq]
  rw [hcount, Nat.count_modEq_card count hpos, Nat.mod_eq_of_lt hseat]

/-- No seat is more than one turn ahead of another. -/
theorem count_turns_le {rotation : Rotation} (hfirst : rotation.cursor.val = 0) (count : Nat) {one other : Nat}
    (hone : one < rotation.seats) (hother : other < rotation.seats) :
    (rotation.turns count).count one ≤ (rotation.turns count).count other + 1 := by
  rw [count_turns hfirst count hone, count_turns hfirst count hother]
  split_ifs <;> omega

end Workflows.Rotation
