import BeaconGateway.Proofs.Table.Chain
import BeaconGateway.Table.PackedLinks

/-!
# Links in words are links

`Links.pack` writes links into words. As long as there are fewer than 65535 slots no slot gets the
word that leads nowhere and no two slots share a word (`PackedLinks.ofLink_inj`), and then a checked
access to packed links never misses and does what the access to the links does (`read?_pack`,
`write?_pack`, `relink?_pack`).

A loop that takes one item after another until there is none has no count of its steps. `Exhausts`
says that it ends, which items it takes and what is left. A walk along packed links is such a loop,
and where the links hold a list, it takes the list (`exhausts_pack`). A walk that looks for a slot
ends where `Links.Seeks` ends (`seek?_pack`).

A loop over words may read anywhere and go round forever, and nothing in its type says otherwise. So
its equations are all that is used of it, at the slots through which the links lead, and where it
ends and without an access outside the array is a theorem here and not an assumption.
-/

namespace BeaconGateway

/-! ### Loops -/

/-- **A loop that takes items ends.** It begins in a state, takes an item at each turn and ends
where there is none. No turn of it may fail. -/
inductive Exhausts {σ α : Type} (take? : σ → Option (Option α × σ)) : σ → List α → σ → Prop where
  /-- There is no item left. -/
  | ended {state last : σ} (none_left : take? state = some (none, last)) :
    Exhausts take? state [] last
  /-- An item is taken, and the loop goes on. -/
  | taken {state next last : σ} {item : α} {items : List α}
    (one : take? state = some (some item, next)) (rest : Exhausts take? next items last) :
    Exhausts take? state (item :: items) last

/-- A loop takes the same items and leaves the same, whenever it is run. -/
theorem Exhausts.unique {σ α : Type} {take? : σ → Option (Option α × σ)} {state last last' : σ}
    {items items' : List α} (h : Exhausts take? state items last)
    (h' : Exhausts take? state items' last') : items' = items ∧ last' = last := by
  induction h generalizing items' last' with
  | ended hnone_left =>
    cases h' with
    | ended hnone_left' =>
      rw [hnone_left] at hnone_left'
      cases hnone_left'
      exact ⟨rfl, rfl⟩
    | taken hone' =>
      rw [hnone_left] at hone'
      cases hone'
  | taken hone _ ih =>
    cases h' with
    | ended hnone_left' =>
      rw [hone] at hnone_left'
      cases hnone_left'
    | taken hone' hrest' =>
      rw [hone] at hone'
      cases hone'
      obtain ⟨rfl, rfl⟩ := ih hrest'
      exact ⟨rfl, rfl⟩

/-- What a loop takes and leaves is known by one run of it. -/
theorem Exhausts.iff {σ α : Type} {take? : σ → Option (Option α × σ)} {state last last' : σ}
    {items items' : List α} (h : Exhausts take? state items last) :
    Exhausts take? state items' last' ↔ items' = items ∧ last' = last := by
  constructor
  · exact h.unique
  · rintro ⟨rfl, rfl⟩
    exact h

/-! ### Words -/

namespace PackedLinks

variable {n : Nat} {slot : Fin n} {link link' : Option (Fin n)}

/-- A link as a word. -/
def ofLink : Option (Fin n) → UInt16
  | none => nowhere
  | some slot => toSlot slot

/-- The word of a slot is its number: sixteen bits are enough. -/
theorem toNat_toSlot (hn : n < 65535) (slot : Fin n) : (toSlot slot).toNat = slot :=
  UInt16.toNat_ofNat_of_lt' (Nat.lt_trans slot.isLt (Nat.lt_trans hn (by decide)))

/-- No slot has the word that leads nowhere. -/
theorem toSlot_ne_nowhere (hn : n < 65535) (slot : Fin n) : toSlot slot ≠ nowhere := by
  intro h
  have hword : (slot : Nat) = 65535 := (toNat_toSlot hn slot).symm.trans (congrArg UInt16.toNat h)
  have hslot := slot.isLt
  omega

/-- **No two links share a word.** -/
theorem ofLink_inj (hn : n < 65535) : ofLink link = ofLink link' ↔ link = link' := by
  constructor
  · intro h
    cases link with
    | none =>
      cases link' with
      | none => rfl
      | some slot' => exact absurd h.symm (toSlot_ne_nowhere hn slot')
    | some slot =>
      cases link' with
      | none => exact absurd h (toSlot_ne_nowhere hn slot)
      | some slot' =>
        have hnumber := congrArg UInt16.toNat h
        rw [ofLink, ofLink, toNat_toSlot hn, toNat_toSlot hn] at hnumber
        exact congrArg some (Fin.ext hnumber)
  · rintro rfl
    rfl

/-- The word that leads nowhere is that of no link. -/
theorem ofLink_eq_nowhere_iff (hn : n < 65535) : ofLink link = nowhere ↔ link = none := by
  rw [← ofLink_inj hn]
  rfl

/-- A word leads to a slot exactly if the link does. -/
theorem ofLink_eq_toSlot_iff (hn : n < 65535) : ofLink link = toSlot slot ↔ link = some slot := by
  rw [← ofLink_inj hn]
  rfl

/-- No two slots share a word. -/
theorem toSlot_inj (hn : n < 65535) {slot' : Fin n} :
    toSlot slot = toSlot slot' ↔ slot = slot' := by
  show ofLink (some slot) = ofLink (some slot') ↔ slot = slot'
  rw [ofLink_inj hn, Option.some_inj]

/-- A choice by a word is one by the link. -/
theorem if_ofLink_eq_nowhere {α : Type} (hn : n < 65535) (link : Option (Fin n)) (a b : α) :
    (if ofLink link = nowhere then a else b) = if link.isNone then a else b := by
  simp only [ofLink_eq_nowhere_iff hn, Option.isNone_iff_eq_none]

/-- A word leads to the slot of its link. -/
theorem slotAt?_ofLink (hn : n < 65535) (link : Option (Fin n)) :
    slotAt? (ofLink link) = link.map Fin.val := by
  cases link with
  | none => rfl
  | some slot =>
    show slotAt? (toSlot slot) = some (slot : Nat)
    rw [slotAt?, if_neg (toSlot_ne_nowhere hn slot), toNat_toSlot hn]

end PackedLinks

/-! ### Accesses -/

namespace Slots

variable {n : Nat} {α : Type}

/-- A checked read of a slot does not fail. -/
theorem read?_val (s : Slots n α) (slot : Fin n) : s.read? slot = some (s.get slot) :=
  dif_pos slot.isLt

/-- Neither does a checked write. -/
theorem write?_val (s : Slots n α) (slot : Fin n) (a : α) : s.write? slot a = some (s.put slot a) :=
  dif_pos slot.isLt

end Slots

namespace Links

open PackedLinks (ofLink nowhere toSlot)

variable {n : Nat} {l : List (Fin n)}

/-- Links in words. -/
def pack (next : Links n) : PackedLinks n :=
  next.map ofLink

/-- No links lead anywhere, be it in words or not. -/
theorem pack_empty : (empty : Links n).pack = .empty :=
  Vector.map_replicate

/-- A read of packed links gives the word of the link. -/
theorem read?_pack (next : Links n) (slot : Fin n) :
    Slots.read? next.pack slot = some (ofLink (next.get slot)) := by
  rw [Slots.read?_val]
  exact congrArg some (Vector.getElem_map ofLink slot.isLt)

/-- Packing commutes with a write. -/
theorem pack_put (next : Links n) (slot : Fin n) (link : Option (Fin n)) :
    pack (next.put slot link) = Slots.put next.pack slot (ofLink link) :=
  Vector.map_set

/-- A checked write of packed links writes the link. -/
theorem write?_pack (next : Links n) (slot : Fin n) (link : Option (Fin n)) :
    Slots.write? next.pack slot (ofLink link) = some (pack (next.put slot link)) := by
  rw [Slots.write?_val, pack_put]

/-- To relink is one checked write, or none at the front of a list. -/
theorem relink?_pack (hn : n < 65535) (next : Links n) (before after : Option (Fin n)) :
    PackedLinks.relink? next.pack (ofLink before) (ofLink after) =
      some (pack (next.relink before after)) := by
  cases before with
  | none => rfl
  | some slot =>
    show PackedLinks.relink? next.pack (toSlot slot) (ofLink after) = _
    rw [PackedLinks.relink?, if_neg (PackedLinks.toSlot_ne_nowhere hn slot),
      PackedLinks.toNat_toSlot hn, write?_pack, relink_some]

/-! ### Walks -/

/-- One step along packed links gives the slot and the word of the one behind it. -/
theorem advance?_pack (hn : n < 65535) (next : Links n) (slot : Fin n) :
    PackedLinks.advance? next.pack (toSlot slot) =
      some (some (slot : Nat), ofLink (next.get slot)) := by
  rw [PackedLinks.advance?, if_neg (PackedLinks.toSlot_ne_nowhere hn slot),
    PackedLinks.toNat_toSlot hn, read?_pack, Option.map_some]

/-- **A walk along packed links takes the list that the links hold**, and ends nowhere. -/
theorem Chain.exhausts_pack (hn : n < 65535) {next : Links n} (h : next.Chain l) :
    Exhausts (PackedLinks.advance? next.pack) (ofLink l.head?) (l.map Fin.val) nowhere := by
  induction l with
  | nil => exact .ended rfl
  | cons slot l ih =>
    refine .taken (advance?_pack hn next slot) ?_
    rw [h.1]
    exact ih h.2

/-- **A loop along packed links ends where the one along the links does**, if both stop at the same
slots. -/
theorem Seeks.seek?_pack (hn : n < 65535) {next : Links n} {stop : Fin n → Prop}
    [DecidablePred stop] {stop? : UInt16 → Option Bool}
    (hstop : ∀ slot : Fin n, stop? (toSlot slot) = some (decide (stop slot)))
    {previous current previous' current' : Option (Fin n)}
    (h : next.Seeks stop previous current previous' current') :
    PackedLinks.seek? next.pack stop? (ofLink previous) (ofLink current) =
      some (ofLink previous', ofLink current') := by
  induction h with
  | ended previous =>
    show PackedLinks.seek? next.pack stop? (ofLink previous) nowhere = _
    rw [PackedLinks.seek?, if_pos rfl]
    rfl
  | @found slot hstops previous =>
    show PackedLinks.seek? next.pack stop? (ofLink previous) (toSlot slot) = _
    rw [PackedLinks.seek?, if_neg (PackedLinks.toSlot_ne_nowhere hn slot), hstop]
    simp only [hstops, decide_true, Option.bind_eq_bind, Option.bind_some, if_true]
    rfl
  | @step slot previous' current' hpasses previous _ ih =>
    show PackedLinks.seek? next.pack stop? (ofLink previous) (toSlot slot) = _
    rw [PackedLinks.seek?, if_neg (PackedLinks.toSlot_ne_nowhere hn slot), hstop,
      PackedLinks.toNat_toSlot hn, read?_pack]
    simp only [hpasses, decide_false, Option.bind_eq_bind, Option.bind_some]
    exact ih

end Links

end BeaconGateway
