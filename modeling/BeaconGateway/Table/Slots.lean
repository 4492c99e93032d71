/-!
# Slots

A table has a fixed number of slots, and keeps something for each of them.

## Main definitions

* `Slots` — something for each of `n` slots;
* `Slots.fill`, `Slots.put` — the same for every slot, and something new for one; `Vector.get`
  reads.
-/

namespace BeaconGateway

/-- Something for each of `n` slots. -/
abbrev Slots (n : Nat) (α : Type) := Vector α n

namespace Slots

variable {n : Nat} {α : Type}

/-- The same for every slot. -/
def fill (a : α) : Slots n α :=
  Vector.replicate n a

/-- Something new for one slot. -/
def put (s : Slots n α) (slot : Fin n) (a : α) : Slots n α :=
  Vector.set s slot a slot.isLt

/-! ### Reading -/

@[simp]
theorem get_fill (a : α) (slot : Fin n) : (fill a : Slots n α).get slot = a := by
  simp [fill, Vector.get]

theorem get_put (s : Slots n α) (slot other : Fin n) (a : α) :
    (s.put slot a).get other = if slot = other then a else s.get other := by
  simp only [put, Fin.ext_iff]
  exact Vector.getElem_set slot.isLt other.isLt

@[simp]
theorem get_put_self (s : Slots n α) (slot : Fin n) (a : α) : (s.put slot a).get slot = a := by
  rw [get_put, if_pos rfl]

theorem get_put_of_ne (s : Slots n α) {slot other : Fin n} (h : slot ≠ other) (a : α) :
    (s.put slot a).get other = s.get other := by
  rw [get_put, if_neg h]

end Slots

end BeaconGateway
