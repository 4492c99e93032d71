import BeaconGateway.Table.PackedLinks

/-!
# The order of recency in words

`Recency` once more, with its links in words: the head and the tail are words as well, and where a
slot has none before it or behind it, the head or the tail is written in its place. Slots are named
by their numbers, and every access is checked.

## Main definitions

* `PackedRecency` — the list over `n` slots;
* `PackedRecency.new?` — all slots in the order of their numbers;
* `PackedRecency.touch?` — move a slot to the front;
* `PackedRecency.front?`, `PackedRecency.back?` — its ends.
-/

namespace BeaconGateway

/-- The order of recency of `n` slots, in words. -/
structure PackedRecency (n : Nat) where
  /-- The slot before each slot. -/
  prev : PackedLinks n
  /-- The slot after each slot. -/
  next : PackedLinks n
  /-- The slot touched last. -/
  head : UInt16
  /-- The slot touched longest ago. -/
  tail : UInt16

namespace PackedRecency

open PackedLinks (nowhere slotAt? toSlot)

variable {n : Nat}

/-- A list of no slots. -/
def empty : PackedRecency n :=
  ⟨.empty, .empty, nowhere, nowhere⟩

/-- Put a slot at the end. -/
def pushBack? (l : PackedRecency n) (slot : Nat) : Option (PackedRecency n) := do
  let prev ← Slots.write? l.prev slot l.tail
  let next ← Slots.write? l.next slot nowhere
  let next ← PackedLinks.relink? next l.tail (toSlot slot)
  let head := if l.tail = nowhere then toSlot slot else l.head
  return { prev, next, head, tail := toSlot slot }

/-- All slots in the order of their numbers. -/
def new? : Option (PackedRecency n) :=
  (List.range n).foldlM pushBack? empty

/-- Take a slot out of the list; its own links stay as they were. -/
def unlink? (l : PackedRecency n) (slot : Nat) : Option (PackedRecency n) := do
  let before ← Slots.read? l.prev slot
  let after ← Slots.read? l.next slot
  let next ← PackedLinks.relink? l.next before after
  let prev ← PackedLinks.relink? l.prev after before
  return {
    prev
    next
    head := if before = nowhere then after else l.head
    tail := if after = nowhere then before else l.tail }

/-- Put a slot that was taken out at the front. -/
def pushFront? (l : PackedRecency n) (slot : Nat) : Option (PackedRecency n) := do
  let prev ← Slots.write? l.prev slot nowhere
  let next ← Slots.write? l.next slot l.head
  let prev ← PackedLinks.relink? prev l.head (toSlot slot)
  let tail := if l.tail = nowhere then toSlot slot else l.tail
  return { prev, next, head := toSlot slot, tail }

/-- Move a slot to the front. -/
def touch? (l : PackedRecency n) (slot : Nat) : Option (PackedRecency n) :=
  if l.head = toSlot slot then some l else (l.unlink? slot).bind fun l ↦ l.pushFront? slot

/-- The slot touched last. -/
def front? (l : PackedRecency n) : Option Nat :=
  slotAt? l.head

/-- The slot touched longest ago. -/
def back? (l : PackedRecency n) : Option Nat :=
  slotAt? l.tail

end PackedRecency

end BeaconGateway
