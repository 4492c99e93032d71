import BeaconGateway.Table.Links

/-!
# The queue of pending slots

Slots whose latest report has not been relayed wait in a queue. A slot that is pushed again while
it waits keeps its place.

## Main definitions

* `PendingQueue` — the queue over `n` slots;
* `PendingQueue.toList` — the waiting slots, the next one first;
* `PendingQueue.push`, `PendingQueue.pop?`, `PendingQueue.popAll` — its operations.
-/

namespace BeaconGateway

/-- The pending ones of `n` slots. -/
structure PendingQueue (n : Nat) where
  /-- The slot after each waiting slot. -/
  next : Links n
  /-- Whether each slot waits. -/
  queued : Slots n Bool
  /-- The slot that has waited longest. -/
  head : Option (Fin n)
  /-- The slot that came last. -/
  tail : Option (Fin n)
  /-- How many slots wait. -/
  size : Nat

namespace PendingQueue

variable {n : Nat}

/-- A queue in which nothing waits. -/
def empty : PendingQueue n where
  next := Links.empty
  queued := Slots.fill false
  head := none
  tail := none
  size := 0

/-- The waiting slots, the next one first. -/
def toList (q : PendingQueue n) : List (Fin n) :=
  q.next.chain q.head

/-- Whether a slot waits. -/
def contains (q : PendingQueue n) (slot : Fin n) : Bool :=
  q.queued.get slot

/-- Append a slot. The answer is `false`, and nothing changes, if it waits already. -/
def push (q : PendingQueue n) (slot : Fin n) : Bool × PendingQueue n :=
  if q.queued.get slot then (false, q)
  else
    let next := q.next.put slot none
    (true,
      { next := match q.tail with
          | none => next
          | some last => next.put last (some slot)
        queued := q.queued.put slot true
        head := if q.tail.isNone then some slot else q.head
        tail := some slot
        size := q.size + 1 })

/-- Take the slot that has waited longest. -/
def pop? (q : PendingQueue n) : Option (Fin n × PendingQueue n) :=
  q.head.map fun slot ↦
    let after := q.next.get slot
    (slot,
      { next := q.next.put slot none
        queued := q.queued.put slot false
        head := after
        tail := if after.isNone then none else q.tail
        size := q.size - 1 })

/-- Take slots, at most `fuel` of them, until none waits. -/
def popMany : Nat → PendingQueue n → List (Fin n) × PendingQueue n
  | 0, q => ([], q)
  | fuel + 1, q =>
    match q.pop? with
    | none => ([], q)
    | some (slot, rest) =>
      let (slots, last) := popMany fuel rest
      (slot :: slots, last)

/-- Take every waiting slot, the one that has waited longest first. No slot waits twice, so there
are at most `n` of them. -/
def popAll (q : PendingQueue n) : List (Fin n) × PendingQueue n :=
  popMany n q

/-- Whether nothing waits. -/
def isEmpty (q : PendingQueue n) : Bool :=
  q.size == 0

end PendingQueue

end BeaconGateway
