import BeaconGateway.Table.PackedLinks

/-!
# The queue of pending slots in words

`PendingQueue` once more, with its links in words: the head and the tail are words as well. Slots
are named by their numbers, and every access is checked, as is that the size never falls below zero.

## Main definitions

* `PackedQueue` — the queue over `n` slots;
* `PackedQueue.push?`, `PackedQueue.pop?`, `PackedQueue.contains?` — its operations.
-/

namespace BeaconGateway

/-- The pending ones of `n` slots, in words. -/
structure PackedQueue (n : Nat) where
  /-- The slot after each waiting slot. -/
  next : PackedLinks n
  /-- Whether each slot waits. -/
  queued : Slots n Bool
  /-- The slot that has waited longest. -/
  head : UInt16
  /-- The slot that came last. -/
  tail : UInt16
  /-- How many slots wait. -/
  size : Nat

namespace PackedQueue

open PackedLinks (nowhere toSlot)

variable {n : Nat}

/-- A queue in which nothing waits. -/
def empty : PackedQueue n where
  next := .empty
  queued := Slots.fill false
  head := nowhere
  tail := nowhere
  size := 0

/-- Whether a slot waits. -/
def contains? (q : PackedQueue n) (slot : Nat) : Option Bool :=
  Slots.read? q.queued slot

/-- Append a slot. The answer is `false`, and nothing changes, if it waits already. -/
def push? (q : PackedQueue n) (slot : Nat) : Option (Bool × PackedQueue n) := do
  if ← Slots.read? q.queued slot then return (false, q)
  let next ← Slots.write? q.next slot nowhere
  let next ← PackedLinks.relink? next q.tail (toSlot slot)
  let queued ← Slots.write? q.queued slot true
  return (true, {
    next
    queued
    head := if q.tail = nowhere then toSlot slot else q.head
    tail := toSlot slot
    size := q.size + 1 })

/-- Take the slot that has waited longest, if one waits. -/
def pop? (q : PackedQueue n) : Option (Option Nat × PackedQueue n) :=
  if q.head = nowhere then some (none, q)
  else do
    let slot := q.head.toNat
    let head ← Slots.read? q.next slot
    let next ← Slots.write? q.next slot nowhere
    let queued ← Slots.write? q.queued slot false
    if q.size = 0 then none
    return (some slot, {
      next
      queued
      head
      tail := if head = nowhere then nowhere else q.tail
      size := q.size - 1 })

end PackedQueue

end BeaconGateway
