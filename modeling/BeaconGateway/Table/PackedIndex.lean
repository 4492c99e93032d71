import BeaconGateway.Table.AddressIndex
import BeaconGateway.Table.PackedLinks

/-!
# The address index in words

`AddressIndex` once more, with its links in words: the heads and the tails of the buckets are words
as well. Slots are named by their numbers. Every access to them is checked, as is that a slot is not
linked twice and that the size never falls below zero. A bucket is walked without a count of steps.

## Main definitions

* `PackedIndex` — the index over `n` slots;
* `PackedIndex.find?` — the slot that was linked first under an address;
* `PackedIndex.insert?`, `PackedIndex.remove?` — link a slot, and unlink it;
* `PackedIndex.contains?` — whether a slot is held.
-/

namespace BeaconGateway

/-- An index from addresses to `n` slots, in words. -/
structure PackedIndex (n : Nat) where
  /-- The first slot of each bucket. -/
  heads : Slots bucketCount UInt16
  /-- The last slot of each bucket. -/
  tails : Slots bucketCount UInt16
  /-- The slot after each slot in its bucket. -/
  next : PackedLinks n
  /-- Whether each slot is held. -/
  linked : Slots n Bool
  /-- The address of each slot that is held. -/
  keys : Slots n Address
  /-- How many slots are held. -/
  size : Nat

namespace PackedIndex

open PackedLinks (nowhere slotAt? toSlot)

variable {n : Nat}

/-- An index that holds no slot. -/
def empty : PackedIndex n where
  heads := Slots.fill nowhere
  tails := Slots.fill nowhere
  next := .empty
  linked := Slots.fill false
  keys := Slots.fill .zero
  size := 0

/-- Whether a slot is held. -/
def contains? (t : PackedIndex n) (slot : Nat) : Option Bool :=
  Slots.read? t.linked slot

/-- The slot that was linked first under an address. -/
def find? (t : PackedIndex n) (a : Address) : Option (Option Nat) := do
  let stop? link := (Slots.read? t.keys link.toNat).map fun key ↦ key == a
  let (_, found) ← t.next.seek? stop? nowhere (t.heads.get a.bucket)
  return slotAt? found

/-- Link a slot that is not held under an address, at the end of the bucket. -/
def insert? (t : PackedIndex n) (slot : Nat) (a : Address) : Option (PackedIndex n) := do
  if ← Slots.read? t.linked slot then none
  let b := a.bucket
  let keys ← Slots.write? t.keys slot a
  let next ← Slots.write? t.next slot nowhere
  let next ← PackedLinks.relink? next (t.tails.get b) (toSlot slot)
  let linked ← Slots.write? t.linked slot true
  return {
    heads := if t.tails.get b = nowhere then t.heads.put b (toSlot slot) else t.heads
    tails := t.tails.put b (toSlot slot)
    next
    linked
    keys
    size := t.size + 1 }

/-- Unlink a slot. The answer says whether it was held. -/
def remove? (t : PackedIndex n) (slot : Nat) : Option (Bool × PackedIndex n) := do
  if ← Slots.read? t.linked slot then
    let b := (← Slots.read? t.keys slot).bucket
    let (previous, found) ←
      t.next.seek? (fun link ↦ some (link == toSlot slot)) nowhere (t.heads.get b)
    let linked ← Slots.write? t.linked slot false
    if found = nowhere then return (false, { t with linked })
    let after ← Slots.read? t.next slot
    let next ← PackedLinks.relink? t.next previous after
    let next ← Slots.write? next slot nowhere
    if t.size = 0 then none
    return (true, { t with
      heads := if previous = nowhere then t.heads.put b after else t.heads
      tails := if t.tails.get b = toSlot slot then t.tails.put b previous else t.tails
      next
      linked
      size := t.size - 1 })
  else return (false, t)

end PackedIndex

end BeaconGateway
