import BeaconGateway.Table.Links

/-!
# The order of recency

Every slot stands in one list from the slot touched last to the slot touched longest ago, which is
the next to be given away. Slots never touched stand at the end in the order of their numbers.
Both directions are linked, so a touch takes no walk.

## Main definitions

* `Recency` — the list over `n` slots;
* `Recency.toList` — its slots, the one touched last first;
* `Recency.touch` — move a slot to the front;
* `Recency.front?`, `Recency.back?` — its ends.
-/

namespace BeaconGateway

/-- The order of recency of `n` slots. -/
structure Recency (n : Nat) where
  /-- The slot before each slot. -/
  prev : Links n
  /-- The slot after each slot. -/
  next : Links n
  /-- The slot touched last. -/
  head : Option (Fin n)
  /-- The slot touched longest ago. -/
  tail : Option (Fin n)

namespace Recency

variable {n : Nat}

/-- A list of no slots. -/
def empty : Recency n :=
  ⟨.empty, .empty, none, none⟩

/-- Put a slot at the end. -/
def pushBack (l : Recency n) (slot : Fin n) : Recency n :=
  let next := l.next.put slot none
  { prev := l.prev.put slot l.tail
    next := match l.tail with
      | none => next
      | some last => next.put last (some slot)
    head := if l.tail.isNone then some slot else l.head
    tail := some slot }

/-- All slots in the order of their numbers. -/
def new : Recency n :=
  (List.finRange n).foldl pushBack empty

/-- Take a slot out of the list; its own links stay as they were. -/
def unlink (l : Recency n) (slot : Fin n) : Recency n :=
  let p := l.prev.get slot
  let s := l.next.get slot
  { prev := match s with
      | none => l.prev
      | some after => l.prev.put after p
    next := match p with
      | none => l.next
      | some before => l.next.put before s
    head := if p.isNone then s else l.head
    tail := if s.isNone then p else l.tail }

/-- Put a slot that was taken out at the front. -/
def pushFront (l : Recency n) (slot : Fin n) : Recency n :=
  let prev := l.prev.put slot none
  { prev := match l.head with
      | none => prev
      | some first => prev.put first (some slot)
    next := l.next.put slot l.head
    head := some slot
    tail := if l.tail.isNone then some slot else l.tail }

/-- Move a slot to the front. -/
def touch (l : Recency n) (slot : Fin n) : Recency n :=
  if l.head = some slot then l else (l.unlink slot).pushFront slot

/-- The slots, the one touched last first. -/
def toList (l : Recency n) : List (Fin n) :=
  l.next.chain l.head

/-- The slot touched last. -/
def front? (l : Recency n) : Option (Fin n) :=
  l.head

/-- The slot touched longest ago. -/
def back? (l : Recency n) : Option (Fin n) :=
  l.tail

end Recency

end BeaconGateway
