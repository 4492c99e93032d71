import BeaconGateway.Address
import BeaconGateway.Table.Links

/-!
# The address index

Finds the slot of an address. Slots are spread over 101 buckets by their address, and each bucket
is a chain of slots with a new slot at its end. The index keeps its own copy of the address of each
slot that it holds.

## Main definitions

* `Address.bucket` — the bucket of an address;
* `AddressIndex` — the index over `n` slots;
* `AddressIndex.bucketSlots` — the slots of a bucket in the order in which they were linked;
* `AddressIndex.find?`, `AddressIndex.insert`, `AddressIndex.remove` — its operations.
-/

namespace BeaconGateway

/-- The number of buckets. -/
def bucketCount : Nat := 101

/-- The bucket of an address: the upper three bytes are added bitwise to the lower three, and the
result, read with its first byte lowest, is taken modulo the number of buckets. -/
def Address.bucket (a : Address) : Fin bucketCount :=
  let folded :=
    (a.b0 ^^^ a.b3).toNat + 256 * (a.b1 ^^^ a.b4).toNat + 65536 * (a.b2 ^^^ a.b5).toNat
  ⟨folded % bucketCount, Nat.mod_lt _ (by decide)⟩

/-- An index from addresses to `n` slots. -/
structure AddressIndex (n : Nat) where
  /-- The first slot of each bucket. -/
  heads : Slots bucketCount (Option (Fin n))
  /-- The last slot of each bucket. -/
  tails : Slots bucketCount (Option (Fin n))
  /-- The slot after each slot in its bucket. -/
  next : Links n
  /-- Whether each slot is held. -/
  linked : Slots n Bool
  /-- The address of each slot that is held. -/
  keys : Slots n Address
  /-- How many slots are held. -/
  size : Nat

namespace AddressIndex

variable {n : Nat}

/-- An index that holds no slot. -/
def empty : AddressIndex n where
  heads := Slots.fill none
  tails := Slots.fill none
  next := Links.empty
  linked := Slots.fill false
  keys := Slots.fill .zero
  size := 0

/-- The slots of a bucket, in the order in which they were linked. -/
def bucketSlots (t : AddressIndex n) (b : Fin bucketCount) : List (Fin n) :=
  t.next.chain (t.heads.get b)

/-- The slot that was linked first under an address. -/
def find? (t : AddressIndex n) (a : Address) : Option (Fin n) :=
  (t.bucketSlots a.bucket).find? fun slot ↦ t.keys.get slot == a

/-- Whether a slot is held. -/
def contains (t : AddressIndex n) (slot : Fin n) : Bool :=
  t.linked.get slot

/-- Link a slot that is not held under an address, at the end of the bucket. -/
def insert (t : AddressIndex n) (slot : Fin n) (a : Address) : AddressIndex n :=
  let b := a.bucket
  let next := t.next.put slot none
  { heads := if (t.tails.get b).isNone then t.heads.put b (some slot) else t.heads
    tails := t.tails.put b (some slot)
    next := match t.tails.get b with
      | none => next
      | some last => next.put last (some slot)
    linked := t.linked.put slot true
    keys := t.keys.put slot a
    size := t.size + 1 }

/-- What stands before a slot in a chain: `none` if the slot is not in it, `some none` if it is
first. -/
def before? (slot : Fin n) (previous : Option (Fin n)) : List (Fin n) → Option (Option (Fin n))
  | [] => none
  | s :: rest => if s = slot then some previous else before? slot (some s) rest

/-- Unlink a slot. The answer says whether it was held. -/
def remove (t : AddressIndex n) (slot : Fin n) : Bool × AddressIndex n :=
  if t.linked.get slot then
    let b := (t.keys.get slot).bucket
    match before? slot none (t.bucketSlots b) with
    | none => (false, { t with linked := t.linked.put slot false })
    | some previous =>
      let after := t.next.get slot
      let next := match previous with
        | none => t.next
        | some p => t.next.put p after
      (true,
        { t with
          heads := if previous.isNone then t.heads.put b after else t.heads
          tails := if t.tails.get b = some slot then t.tails.put b previous else t.tails
          next := next.put slot none
          linked := t.linked.put slot false
          size := t.size - 1 })
  else (false, t)

/-- Whether no slot is held. -/
def isEmpty (t : AddressIndex n) : Bool :=
  t.size == 0

end AddressIndex

end BeaconGateway
