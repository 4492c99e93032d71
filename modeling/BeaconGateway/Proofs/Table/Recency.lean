import BeaconGateway.Proofs.Table.Chain
import BeaconGateway.Table.Recency

/-!
# The order of recency is a list

`Recency.Holds r l` says that both directions of links hold the list `l`, the backward links in its
reverse order, and `Recency.Orders r l` that every slot stands in it besides. What an edit does to
one direction it does to the other with the ends swapped, so each of the three edits of
`Recency` is two uses of one law of `Links.Chain`:

| edit        | forward links  | backward links |
|-------------|----------------|----------------|
| `pushBack`  | `Chain.append` | `Chain.cons`   |
| `unlink`    | `Chain.bypass` | `Chain.bypass` |
| `pushFront` | `Chain.cons`   | `Chain.append` |

The result is `Orders.touch`: a touch moves a slot to the front and keeps the order of the others.
A new order lists the slots by their numbers (`orders_new`).

Both directions are needed by `unlink` alone, which reads the neighbours of a slot off them and does
not walk. That the two are each other's reverse is therefore part of the relation, and each edit is
shown to keep it.
-/

namespace BeaconGateway.Recency

variable {n : Nat} {r : Recency n} {slot : Fin n} {xs ys l : List (Fin n)}

/-- Both directions of links hold a list, which need not hold every slot. -/
structure Holds (r : Recency n) (l : List (Fin n)) : Prop where
  /-- No slot stands twice. -/
  nodup : l.Nodup
  /-- The forward links lead from the first slot to the last. -/
  forward : r.next.Chain l
  /-- The backward links lead from the last slot to the first. -/
  backward : r.prev.Chain l.reverse
  /-- The head is the first slot. -/
  head : r.head = l.head?
  /-- The tail is the last slot. -/
  tail : r.tail = l.getLast?

/-- The order of recency is a list of all slots. -/
structure Orders (r : Recency n) (l : List (Fin n)) : Prop extends r.Holds l where
  /-- Every slot stands somewhere. -/
  complete : ∀ slot, slot ∈ l

namespace Holds

/-- Following the links from the head gives the list. -/
theorem toList_eq (h : r.Holds l) : r.toList = l := by
  rw [toList, h.head]
  exact h.forward.chain_eq h.nodup

/-- The head is the most recent slot. -/
theorem front?_eq (h : r.Holds l) : r.front? = l.head? :=
  h.head

/-- The tail is the slot that gives way first. -/
theorem back?_eq (h : r.Holds l) : r.back? = l.getLast? :=
  h.tail

/-! ### Edits -/

/-- A slot that is linked nowhere is appended. -/
theorem pushBack (h : r.Holds l) (hslot : slot ∉ l) : (r.pushBack slot).Holds (l ++ [slot]) := by
  constructor
  case nodup => exact h.nodup.append (List.nodup_singleton slot) (by simpa using hslot)
  case forward =>
    have hlast : (r.pushBack slot).next =
        Links.relink (r.next.put slot none) r.tail (some slot) := rfl
    rw [hlast, h.tail]
    exact h.forward.append h.nodup hslot
  case backward =>
    have hfirst : (r.pushBack slot).prev = r.prev.put slot r.tail := rfl
    rw [hfirst, h.tail, List.reverse_append, ← List.head?_reverse]
    exact h.backward.cons (by simpa using hslot)
  case head =>
    simp only [Recency.pushBack, h.tail, h.head]
    cases l <;> simp
  case tail => simp [Recency.pushBack]

/-- **A slot is taken out from between its neighbours**, wherever it stands. -/
theorem unlink (h : r.Holds (xs ++ slot :: ys)) : (r.unlink slot).Holds (xs ++ ys) := by
  have hreverse : (xs ++ slot :: ys).reverse = ys.reverse ++ slot :: xs.reverse := by simp
  have hbackward := h.backward
  rw [hreverse] at hbackward
  have hprev : r.prev.get slot = xs.getLast? := by
    rw [hbackward.get_eq, List.head?_reverse]
  have hnext : r.next.get slot = ys.head? := h.forward.get_eq
  constructor
  case nodup => exact h.nodup.sublist (by simp)
  case forward =>
    have hlinks : (r.unlink slot).next = r.next.relink (r.prev.get slot) (r.next.get slot) := rfl
    rw [hlinks, hprev, hnext]
    exact h.forward.bypass h.nodup
  case backward =>
    have hlinks : (r.unlink slot).prev = r.prev.relink (r.next.get slot) (r.prev.get slot) := rfl
    have hbypass := hbackward.bypass (hreverse ▸ List.nodup_reverse.2 h.nodup)
    rw [List.getLast?_reverse, List.head?_reverse] at hbypass
    rwa [hlinks, hprev, hnext, List.reverse_append]
  case head =>
    simp only [Recency.unlink, hprev, hnext, h.head]
    cases xs <;> simp
  case tail =>
    simp only [Recency.unlink, hprev, hnext, h.tail]
    cases ys <;> simp

/-- A slot that is linked nowhere is put in front. -/
theorem pushFront (h : r.Holds l) (hslot : slot ∉ l) : (r.pushFront slot).Holds (slot :: l) := by
  constructor
  case nodup => exact List.nodup_cons.2 ⟨hslot, h.nodup⟩
  case forward =>
    have hfirst : (r.pushFront slot).next = r.next.put slot r.head := rfl
    rw [hfirst, h.head]
    exact h.forward.cons hslot
  case backward =>
    have hlast : (r.pushFront slot).prev =
        Links.relink (r.prev.put slot none) r.head (some slot) := rfl
    rw [hlast, h.head, List.reverse_cons, ← List.getLast?_reverse]
    exact h.backward.append (List.nodup_reverse.2 h.nodup) (by simpa using hslot)
  case head => rfl
  case tail =>
    simp only [Recency.pushFront, h.tail]
    cases l <;> simp

end Holds

/-! ### A new order -/

/-- No slot is linked at first. -/
theorem holds_empty : (empty : Recency n).Holds [] where
  nodup := List.nodup_nil
  forward := Links.Chain.nil
  backward := Links.Chain.nil
  head := rfl
  tail := rfl

theorem Holds.foldl_pushBack (h : r.Holds xs) (hys : (xs ++ ys).Nodup) :
    (ys.foldl Recency.pushBack r).Holds (xs ++ ys) := by
  induction ys generalizing r xs with
  | nil => simpa using h
  | cons slot ys ih =>
    have hslot : slot ∉ xs := (Links.not_mem_of_append_cons hys).1
    have hstep := ih (h.pushBack hslot) (by simpa using hys)
    simpa using hstep

/-- **A new order lists the slots by their numbers.** -/
theorem orders_new : (new : Recency n).Orders (List.finRange n) where
  toHolds := by
    have hall : ([] ++ List.finRange n).Nodup := List.nodup_finRange n
    exact holds_empty.foldl_pushBack hall
  complete := List.mem_finRange

/-! ### Touch -/

/-- **A touch moves a slot to the front** and keeps the order of the others. -/
theorem Orders.touch (h : r.Orders l) (slot : Fin n) :
    (r.touch slot).Orders (slot :: l.erase slot) := by
  obtain ⟨xs, ys, rfl⟩ := List.append_of_mem (h.complete slot)
  have hmem : slot ∉ xs ++ ys := by
    rw [List.mem_append, not_or]
    exact Links.not_mem_of_append_cons h.nodup
  rw [Links.erase_append_cons h.nodup]
  refine ⟨?_, fun other ↦ ?_⟩
  · rw [Recency.touch]
    split
    case isTrue hhead =>
      -- the slot stands in front already, so nothing stands before it
      obtain rfl : xs = [] := by
        cases xs with
        | nil => rfl
        | cons x xs =>
          rw [h.head, List.cons_append, List.head?_cons, Option.some_inj] at hhead
          exact absurd (hhead ▸ List.mem_cons_self) hmem
      exact h.toHolds
    case isFalse => exact h.unlink.pushFront hmem
  · have hother := h.complete other
    simp only [List.mem_append, List.mem_cons] at hother ⊢
    tauto

end BeaconGateway.Recency
