import BeaconGateway.Table.Slots

/-!
# Links between slots

The report table keeps its slots in chains: each slot has at most one successor, and a chain is
followed from its first slot. The chains of a sound table never come back to a slot, so a walk
over as many links as there are slots sees a chain to its end.

## Main definitions

* `Links` — the successor of each slot;
* `Links.walk` — the slots met on the way from a first slot.
-/

namespace BeaconGateway

/-- The successor of each of `n` slots, if it has one. -/
abbrev Links (n : Nat) := Slots n (Option (Fin n))

namespace Links

variable {n : Nat}

/-- No slot has a successor. -/
def empty : Links n :=
  Slots.fill none

/-- The first slots, at most `fuel` of them, met by following links from a slot. -/
def walk (next : Links n) : Nat → Option (Fin n) → List (Fin n)
  | 0, _ => []
  | _ + 1, none => []
  | fuel + 1, some slot => slot :: walk next fuel (next.get slot)

/-- The chain that begins at a slot. -/
def chain (next : Links n) (first : Option (Fin n)) : List (Fin n) :=
  walk next n first

end Links

end BeaconGateway
