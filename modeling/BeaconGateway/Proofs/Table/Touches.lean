import BeaconGateway.Proofs.Table.PackedLinks
import BeaconGateway.Proofs.Table.Recency
import BeaconGateway.Table.PackedRecency

/-!
# The order of recency under any touches

Every slot is a member of the order from the beginning, so a row of touches is all that ever happens
to it. Beside the order a list of the slots is kept, from which each touched slot is taken and put
in front (`movedToFront`); the order holds that list after every touch (`Orders.touchAll`).

The order in words does the same, edit by edit: each of its checked edits has an answer, and the
answer is the packed form of what the edit makes of the order (`pushBack?_pack`, `unlink?_pack`,
`pushFront?_pack`). These hold of any order at all. Only that the two walks through the words end,
and where, needs that the links hold a list (`Holds.lists_pack`).

## Main results

* `PackedRecency.lists_movedToFront` — after any touches the walk from the head takes the slots in
  the order in which they were touched last, the walk from the tail takes them in reverse, and the
  ends are the first slot and the last.
-/

namespace BeaconGateway

open PackedLinks (ofLink nowhere toSlot)

variable {n : Nat}

/-- Take a slot out of a list and put it in front. -/
def moveToFront (order : List (Fin n)) (slot : Fin n) : List (Fin n) :=
  slot :: order.erase slot

/-- All slots in the order of their numbers, each touched slot moved to the front in turn. -/
def movedToFront (slots : List (Fin n)) : List (Fin n) :=
  slots.foldl moveToFront (List.finRange n)

/-- No slot is lost and none comes in. -/
theorem perm_foldl_moveToFront {order : List (Fin n)} (hcomplete : ∀ slot, slot ∈ order)
    (slots : List (Fin n)) : (slots.foldl moveToFront order).Perm order := by
  induction slots generalizing order with
  | nil => exact .refl order
  | cons slot slots ih =>
    have hmoved : (moveToFront order slot).Perm order :=
      (List.perm_cons_erase (hcomplete slot)).symm
    exact (ih fun other ↦ hmoved.mem_iff.2 (hcomplete other)).trans hmoved

namespace Recency

variable {r : Recency n} {l : List (Fin n)}

/-- Touch slots in turn. -/
def touchAll (r : Recency n) (slots : List (Fin n)) : Recency n :=
  slots.foldl touch r

/-- **Touches in turn** move each slot to the front. -/
theorem Orders.touchAll (h : r.Orders l) (slots : List (Fin n)) :
    (r.touchAll slots).Orders (slots.foldl moveToFront l) := by
  induction slots generalizing r l with
  | nil => exact h
  | cons slot slots ih => exact ih (h.touch slot)

/-! ### In words -/

/-- An order in words. -/
def pack (r : Recency n) : PackedRecency n :=
  ⟨r.prev.pack, r.next.pack, ofLink r.head, ofLink r.tail⟩

theorem pack_empty : (empty : Recency n).pack = .empty := by
  rw [pack, empty, Links.pack_empty]
  rfl

/-- To append is the same in words: two writes, each where a slot is. -/
theorem pushBack?_pack (hn : n < 65535) (r : Recency n) (slot : Fin n) :
    r.pack.pushBack? slot = some (r.pushBack slot).pack := by
  have hprev : Slots.write? r.pack.prev slot r.pack.tail =
      some (Links.pack (r.prev.put slot r.tail)) :=
    Links.write?_pack r.prev slot r.tail
  have hlast : Slots.write? r.pack.next slot nowhere = some (Links.pack (r.next.put slot none)) :=
    Links.write?_pack r.next slot none
  have hnext : PackedLinks.relink? (Links.pack (r.next.put slot none)) r.pack.tail (toSlot slot) =
      some (r.pushBack slot).next.pack :=
    Links.relink?_pack hn (r.next.put slot none) r.tail (some slot)
  have hhead : (if r.pack.tail = nowhere then toSlot slot else r.pack.head) =
      ofLink (r.pushBack slot).head := by
    rw [pushBack, apply_ite ofLink]
    exact PackedLinks.if_ofLink_eq_nowhere hn ..
  simp only [PackedRecency.pushBack?, hprev, hlast, hnext, hhead, Option.bind_eq_bind,
    Option.bind_some]
  rfl

/-- To take a slot out is the same in words: its neighbours are relinked, or else an end is moved.
-/
theorem unlink?_pack (hn : n < 65535) (r : Recency n) (slot : Fin n) :
    r.pack.unlink? slot = some (r.unlink slot).pack := by
  have hbefore : Slots.read? r.pack.prev slot = some (ofLink (r.prev.get slot)) :=
    Links.read?_pack r.prev slot
  have hafter : Slots.read? r.pack.next slot = some (ofLink (r.next.get slot)) :=
    Links.read?_pack r.next slot
  have hnext : PackedLinks.relink? r.pack.next (ofLink (r.prev.get slot))
      (ofLink (r.next.get slot)) = some (r.unlink slot).next.pack :=
    Links.relink?_pack hn r.next (r.prev.get slot) (r.next.get slot)
  have hprev : PackedLinks.relink? r.pack.prev (ofLink (r.next.get slot))
      (ofLink (r.prev.get slot)) = some (r.unlink slot).prev.pack :=
    Links.relink?_pack hn r.prev (r.next.get slot) (r.prev.get slot)
  have hhead : (if ofLink (r.prev.get slot) = nowhere then ofLink (r.next.get slot)
      else r.pack.head) = ofLink (r.unlink slot).head := by
    rw [unlink, apply_ite ofLink]
    exact PackedLinks.if_ofLink_eq_nowhere hn ..
  have htail : (if ofLink (r.next.get slot) = nowhere then ofLink (r.prev.get slot)
      else r.pack.tail) = ofLink (r.unlink slot).tail := by
    rw [unlink, apply_ite ofLink]
    exact PackedLinks.if_ofLink_eq_nowhere hn ..
  simp only [PackedRecency.unlink?, hbefore, hafter, hnext, hprev, hhead, htail,
    Option.bind_eq_bind, Option.bind_some]
  rfl

/-- To put a slot in front is the same in words. -/
theorem pushFront?_pack (hn : n < 65535) (r : Recency n) (slot : Fin n) :
    r.pack.pushFront? slot = some (r.pushFront slot).pack := by
  have hfirst : Slots.write? r.pack.prev slot nowhere = some (Links.pack (r.prev.put slot none)) :=
    Links.write?_pack r.prev slot none
  have hnext : Slots.write? r.pack.next slot r.pack.head = some (r.pushFront slot).next.pack :=
    Links.write?_pack r.next slot r.head
  have hprev : PackedLinks.relink? (Links.pack (r.prev.put slot none)) r.pack.head (toSlot slot) =
      some (r.pushFront slot).prev.pack :=
    Links.relink?_pack hn (r.prev.put slot none) r.head (some slot)
  have htail : (if r.pack.tail = nowhere then toSlot slot else r.pack.tail) =
      ofLink (r.pushFront slot).tail := by
    rw [pushFront, apply_ite ofLink]
    exact PackedLinks.if_ofLink_eq_nowhere hn ..
  simp only [PackedRecency.pushFront?, hfirst, hnext, hprev, htail, Option.bind_eq_bind,
    Option.bind_some]
  rfl

/-- **A touch in words** misses no slot, and does what the touch does. -/
theorem touch?_pack (hn : n < 65535) (r : Recency n) (slot : Fin n) :
    r.pack.touch? slot = some (r.touch slot).pack := by
  have hfront : r.pack.head = toSlot slot ↔ r.head = some slot :=
    PackedLinks.ofLink_eq_toSlot_iff hn
  rw [PackedRecency.touch?, touch, unlink?_pack hn, Option.bind_some, pushFront?_pack hn]
  by_cases hhead : r.head = some slot
  · rw [if_pos hhead, if_pos (hfront.2 hhead)]
  · rw [if_neg hhead, if_neg (mt hfront.1 hhead)]

/-- Slots that are appended one after another. -/
theorem foldlM_pushBack?_pack (hn : n < 65535) (r : Recency n) (slots : List (Fin n)) :
    (slots.map Fin.val).foldlM PackedRecency.pushBack? r.pack =
      some (slots.foldl pushBack r).pack := by
  induction slots generalizing r with
  | nil => rfl
  | cons slot slots ih =>
    rw [List.map_cons, List.foldlM_cons, pushBack?_pack hn]
    exact ih (r.pushBack slot)

/-- **Touches one after another are the same in words**, and no access misses. -/
theorem foldlM_touch?_pack (hn : n < 65535) (r : Recency n) (slots : List (Fin n)) :
    (slots.map Fin.val).foldlM PackedRecency.touch? r.pack = some (r.touchAll slots).pack := by
  induction slots generalizing r with
  | nil => rfl
  | cons slot slots ih =>
    rw [List.map_cons, List.foldlM_cons, touch?_pack hn]
    exact ih (r.touch slot)

/-- A new order in words is that in links: all slots were appended in turn. -/
theorem new?_eq (hn : n < 65535) : PackedRecency.new? = some (new : Recency n).pack := by
  rw [PackedRecency.new?, ← List.map_coe_finRange_eq_range, ← pack_empty]
  exact foldlM_pushBack?_pack hn empty (List.finRange n)

end Recency

namespace PackedRecency

/-- Make a new order and touch slots in turn, `none` if one of the accesses misses. -/
def touchAll? (slots : List Nat) : Option (PackedRecency n) :=
  new?.bind fun l ↦ slots.foldlM touch? l

/-- The words of an order list slots: both walks end, and they and the ends show the list. -/
structure Lists (l : PackedRecency n) (order : List (Fin n)) : Prop where
  /-- The walk from the head ends, takes the slots in order and leaves no slot ahead. -/
  forward : ∀ slots last, Exhausts (PackedLinks.advance? l.next) l.head slots last ↔
    slots = order.map Fin.val ∧ last = nowhere
  /-- The walk from the tail ends, and takes them in reverse. -/
  backward : ∀ slots last, Exhausts (PackedLinks.advance? l.prev) l.tail slots last ↔
    slots = order.reverse.map Fin.val ∧ last = nowhere
  /-- The front is the first slot. -/
  front : l.front? = order.head?.map Fin.val
  /-- The back is the last slot. -/
  back : l.back? = order.getLast?.map Fin.val

/-- What the links hold can be read off the words, from either end. -/
theorem lists_pack (hn : n < 65535) {r : Recency n} {l : List (Fin n)} (h : r.Holds l) :
    r.pack.Lists l := by
  constructor
  case forward =>
    intro slots last
    have hwalk := h.forward.exhausts_pack hn
    rw [← h.head] at hwalk
    exact hwalk.iff
  case backward =>
    intro slots last
    have hwalk := h.backward.exhausts_pack hn
    rw [List.head?_reverse, ← h.tail] at hwalk
    exact hwalk.iff
  case front => rw [front?, Recency.pack, PackedLinks.slotAt?_ofLink hn, h.head]
  case back => rw [back?, Recency.pack, PackedLinks.slotAt?_ofLink hn, h.tail]

/-- **The order of recency after any touches.** Of all slots, in the order of their numbers at
first, each touched one is moved to the front in turn, which loses none and adds none. The order
holds that list; in words of sixteen bits no access misses, and both walks end and show it, as do
the ends. -/
theorem lists_movedToFront (hn : n < 65535) (slots : List (Fin n)) :
    (movedToFront slots).Perm (List.finRange n) ∧
      ((Recency.new : Recency n).touchAll slots).toList = movedToFront slots ∧
      (Recency.new.touchAll slots).front? = (movedToFront slots).head? ∧
      (Recency.new.touchAll slots).back? = (movedToFront slots).getLast? ∧
      ∃ l : PackedRecency n, touchAll? (slots.map Fin.val) = some l ∧
        l = (Recency.new.touchAll slots).pack ∧ l.Lists (movedToFront slots) := by
  have horders : ((Recency.new : Recency n).touchAll slots).Orders (movedToFront slots) :=
    Recency.orders_new.touchAll slots
  refine ⟨perm_foldl_moveToFront List.mem_finRange slots, horders.toList_eq, horders.front?_eq,
    horders.back?_eq, _, ?_, rfl, lists_pack hn horders.toHolds⟩
  rw [touchAll?, Recency.new?_eq hn]
  exact Recency.foldlM_touch?_pack hn Recency.new slots

/-- Five slots, of which the last is touched first, then the first, one in the middle, the last once
more and another one in the middle. -/
theorem lists_movedToFront_of_five :
    5 < 65535 ∧ movedToFront [4, 0, 3, 4, 1] = ([1, 4, 3, 0, 2] : List (Fin 5)) ∧
      ∃ l : PackedRecency 5, touchAll? ([4, 0, 3, 4, 1] : List (Fin 5)) = some l ∧
        l.Lists [1, 4, 3, 0, 2] := by
  have hn : 5 < 65535 := by decide
  obtain ⟨-, -, -, -, l, htouched, -, hlists⟩ := lists_movedToFront hn [4, 0, 3, 4, 1]
  exact ⟨hn, rfl, l, htouched, hlists⟩

end PackedRecency

end BeaconGateway
