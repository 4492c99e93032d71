import BeaconGateway.Table.Links

/-!
# Links in words

`Links` tells of each slot which one comes next, or that none does. Where memory is fixed a link is
a word of sixteen bits: the number of a slot, or the greatest word, which leads nowhere. The number
of a slot is cut to the word, so only a table of fewer than 65535 slots can be linked this way.

Every access by number is checked. One that misses the slots has no answer, and then neither has
what needs it.

## Main definitions

* `Slots.read?`, `Slots.write?` — the checked accesses;
* `PackedLinks` — the successor of each slot as a word, with `PackedLinks.nowhere` and
  `PackedLinks.toSlot` as the words, and `PackedLinks.slotAt?` as what they lead to;
* `PackedLinks.relink?` — a write to a slot that need not be there;
* `PackedLinks.advance?` — one step of a walk;
* `PackedLinks.seek?` — a walk to a slot.
-/

namespace BeaconGateway

namespace Slots

variable {n : Nat} {α : Type}

/-- What is kept for the slot of a number, `none` if there is no such slot. -/
def read? (s : Slots n α) (number : Nat) : Option α :=
  if h : number < n then some (s.get ⟨number, h⟩) else none

/-- Something new for the slot of a number, `none` if there is no such slot. -/
def write? (s : Slots n α) (number : Nat) (a : α) : Option (Slots n α) :=
  if h : number < n then some (s.put ⟨number, h⟩ a) else none

end Slots

/-- The successor of each of `n` slots as a word. -/
abbrev PackedLinks (n : Nat) := Slots n UInt16

namespace PackedLinks

variable {n : Nat}

/-- The word that leads nowhere. -/
def nowhere : UInt16 := 0xFFFF

/-- The word that leads to the slot of a number. -/
def toSlot (number : Nat) : UInt16 :=
  UInt16.ofNat number

/-- The number of the slot that a word leads to, if it leads to one. -/
def slotAt? (link : UInt16) : Option Nat :=
  if link = nowhere then none else some link.toNat

/-- No slot has a successor. -/
def empty : PackedLinks n :=
  Slots.fill nowhere

/-- Point the slot that a word leads to somewhere else, if the word leads to a slot. -/
def relink? (links : PackedLinks n) (before after : UInt16) : Option (PackedLinks n) :=
  if before = nowhere then some links else Slots.write? links before.toNat after

/-- A step of a walk: the slot that the cursor leads to, if it leads to one, and the next cursor. -/
def advance? (links : PackedLinks n) (cursor : UInt16) : Option (Option Nat × UInt16) :=
  if cursor = nowhere then some (none, cursor)
  else (Slots.read? links cursor.toNat).map fun after ↦ (some cursor.toNat, after)

/-- Follow the links from a word until one leads to a slot at which to stop, or nowhere. The answer
is the word before that one, and that one. No steps are counted: links in a circle are followed
forever, and then there is no answer. -/
def seek? (links : PackedLinks n) (stop? : UInt16 → Option Bool) (previous current : UInt16) :
    Option (UInt16 × UInt16) := do
  if current = nowhere then return (previous, current)
  if ← stop? current then return (previous, current)
  let after ← Slots.read? links current.toNat
  links |>.seek? stop? current after
partial_fixpoint

end PackedLinks

end BeaconGateway
