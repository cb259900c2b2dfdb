/-
The rotation of chat providers: a cursor that goes round the seats of the providers in order.
-/
namespace Workflows

/-- Seats in a circle, and the one whose turn it is. -/
structure Rotation where
  seats : Nat
  cursor : Fin seats
deriving DecidableEq, Repr

namespace Rotation

/-- The rotation of a number of seats, beginning with the first; none without seats. -/
def start? (seats : Nat) : Option Rotation :=
  if h : 0 < seats then some ⟨seats, ⟨0, h⟩⟩ else none

/-- The turn passes to the next seat; after the last one comes the first. -/
def advance (rotation : Rotation) : Rotation :=
  { rotation with
    cursor := ⟨(rotation.cursor.val + 1) % rotation.seats,
      Nat.mod_lt _ (Nat.lt_of_le_of_lt (Nat.zero_le _) rotation.cursor.isLt)⟩ }

/-- The seats of a number of turns. -/
def turns : Nat → Rotation → List Nat
  | 0, _ => []
  | count + 1, rotation => rotation.cursor.val :: turns count rotation.advance

end Rotation

end Workflows
