import BeaconGateway.Table.Links
import Mathlib.Data.Fintype.Card

/-!
# Chains of slots

What it means that links hold a list: each slot of the list points to the one after it, and the
last one points nowhere. The index, the order of recency and the queue all keep their lists this
way, and they change them by the same three edits:

* a slot is appended (`Chain.append`): the last slot is pointed to it;
* a slot is put in front (`Chain.cons`): it is pointed to the old first slot;
* a slot is taken out (`Chain.bypass`): the slot before it is pointed to the slot after it.

`Links.relink` is the write that appending and taking out share, where the slot before may be
missing. Each edit leaves alone every list that does not meet it (`Chain.put`), which is what lets
the buckets of the index share one array of links.

A list of a chain is also what a walk along the links sees, however many steps the walk may take
beyond the length of the list (`Chain.walk_eq`). Slots are not repeated in the lists that the table
keeps, so the walk of `Links.chain`, which takes as many steps as there are slots, is long enough
(`Chain.chain_eq`).

A loop along the links that looks for a slot takes no count of its steps. `Links.Seeks` says that it
ends, and where; in a chain it ends at the first slot that it looks for, and at the end of the chain
if there is none (`Chain.seeks_found`, `Chain.seeks_end`).
-/

namespace BeaconGateway.Links

variable {n : Nat} {next : Links n} {slot : Fin n} {xs ys l : List (Fin n)}

/-- Point a slot to another one, if there is a slot to be pointed. -/
def relink (next : Links n) (before after : Option (Fin n)) : Links n :=
  match before with
  | none => next
  | some slot => next.put slot after

@[simp]
theorem relink_none (next : Links n) (after : Option (Fin n)) : next.relink none after = next :=
  rfl

@[simp]
theorem relink_some (next : Links n) (slot : Fin n) (after : Option (Fin n)) :
    next.relink (some slot) after = next.put slot after :=
  rfl

/-- The links hold a list: each of its slots points to the one after it, and the last one points
nowhere. -/
def Chain (next : Links n) : List (Fin n) → Prop
  | [] => True
  | slot :: rest => next.get slot = rest.head? ∧ Chain next rest

namespace Chain

@[simp]
theorem nil : next.Chain [] :=
  trivial

@[simp]
theorem cons_iff : next.Chain (slot :: l) ↔ next.get slot = l.head? ∧ next.Chain l :=
  Iff.rfl

/-- The end of a list is a list of its own. -/
theorem of_append (h : next.Chain (xs ++ ys)) : next.Chain ys := by
  induction xs with
  | nil => exact h
  | cons x xs ih => exact ih h.2

/-- Each slot of a list points to the one after it. -/
theorem get_eq (h : next.Chain (xs ++ slot :: ys)) : next.get slot = ys.head? :=
  h.of_append.1

/-! ### Edits -/

/-- **A write to a slot outside of a list leaves the list alone.** -/
theorem put (h : next.Chain l) (hslot : slot ∉ l) (after : Option (Fin n)) :
    Chain (next.put slot after) l := by
  induction l with
  | nil => exact nil
  | cons x l ih =>
    rw [List.mem_cons, not_or] at hslot
    exact ⟨(next.get_put_of_ne hslot.1 after).trans h.1, ih h.2 hslot.2⟩

theorem relink (h : next.Chain l) {before : Option (Fin n)} (hbefore : ∀ x ∈ before, x ∉ l)
    (after : Option (Fin n)) : (next.relink before after).Chain l := by
  cases before with
  | none => exact h
  | some x => exact h.put (hbefore x rfl) after

/-- **Putting a slot in front**: it is pointed to the old first slot. -/
theorem cons (h : next.Chain l) (hslot : slot ∉ l) :
    Chain (next.put slot l.head?) (slot :: l) :=
  ⟨next.get_put_self slot _, h.put hslot _⟩

/-- **Appending a slot**: it is pointed nowhere, and the last slot to it. -/
theorem append (h : next.Chain l) (hl : l.Nodup) (hslot : slot ∉ l) :
    (Links.relink (next.put slot none) l.getLast? (some slot)).Chain (l ++ [slot]) := by
  induction l with
  | nil => simp
  | cons x l ih =>
    rw [List.mem_cons, not_or] at hslot
    rw [List.nodup_cons] at hl
    cases l with
    | nil =>
      -- the old last slot is `x`: it is written, and the slot behind it is not
      have hx : x ≠ slot := Ne.symm hslot.1
      simp [Slots.get_put_of_ne _ hx]
    | cons y l =>
      -- the old last slot stands behind `x`, so the link of `x` stays
      have hlast : ∀ z ∈ (y :: l).getLast?, z ≠ x := by
        rintro z hz rfl
        exact hl.1 (List.mem_of_getLast? hz)
      refine ⟨?_, by simpa using ih h.2 hl.2 hslot.2⟩
      rw [List.getLast?_cons_cons]
      cases hz : (y :: l).getLast? with
      | none => simp at hz
      | some z =>
        rw [relink_some, Slots.get_put_of_ne _ (hlast z hz), Slots.get_put_of_ne _ hslot.1]
        exact h.1

/-- **Taking a slot out**: the slot before it is pointed to the slot after it. The slot itself keeps
its link. -/
theorem bypass (h : next.Chain (xs ++ slot :: ys)) (hl : (xs ++ slot :: ys).Nodup) :
    (next.relink xs.getLast? ys.head?).Chain (xs ++ ys) := by
  induction xs with
  | nil => exact h.2
  | cons x xs ih =>
    rw [List.cons_append, List.nodup_cons] at hl
    cases xs with
    | nil =>
      have hx : x ∉ ys := fun hmem ↦ hl.1 (by simp [hmem])
      exact ⟨next.get_put_self x _, h.2.2.put hx _⟩
    | cons y xs =>
      -- the slot that is written stands behind `x`, so the link of `x` stays
      refine ⟨?_, by simpa using ih h.2 hl.2⟩
      rw [List.getLast?_cons_cons]
      cases hz : (y :: xs).getLast? with
      | none => simp at hz
      | some z =>
        have hne : z ≠ x := by
          rintro rfl
          exact hl.1 (List.mem_append_left _ (List.mem_of_getLast? hz))
        rw [relink_some, Slots.get_put_of_ne _ hne]
        exact h.1

/-! ### Walks -/

/-- **A walk sees the list of a chain**, if it may take enough steps. -/
theorem walk_eq (h : next.Chain l) {fuel : Nat} (hfuel : l.length ≤ fuel) :
    next.walk fuel l.head? = l := by
  induction l generalizing fuel with
  | nil => cases fuel <;> rfl
  | cons slot l ih =>
    obtain ⟨fuel, rfl⟩ : ∃ k, fuel = k + 1 := ⟨fuel - 1, by simp at hfuel; omega⟩
    rw [List.head?_cons, walk, h.1, ih h.2 (by simpa using hfuel)]

end Chain

/-! ### Loops -/

/-- **A loop along the links ends.** It was begun at a slot, with another one before it or none, and
goes on to a slot at which it stops or to the end of the links. There it ends, with the slot before
it in hand. -/
inductive Seeks (next : Links n) (stop : Fin n → Prop) :
    (previous current previous' current' : Option (Fin n)) → Prop where
  /-- There is no slot left. -/
  | ended (previous : Option (Fin n)) : Seeks next stop previous none previous none
  /-- The loop stops at a slot. -/
  | found {slot : Fin n} (stops : stop slot) (previous : Option (Fin n)) :
    Seeks next stop previous (some slot) previous (some slot)
  /-- The loop goes on from a slot. -/
  | step {slot : Fin n} {previous' current' : Option (Fin n)} (passes : ¬ stop slot)
    (previous : Option (Fin n))
    (rest : Seeks next stop (some slot) (next.get slot) previous' current') :
    Seeks next stop previous (some slot) previous' current'

/-- What stands before the end of a list, or before the list where it is empty, for one slot more in
front. -/
theorem getLast?_cons_or (x : Fin n) (xs : List (Fin n)) (previous : Option (Fin n)) :
    (x :: xs).getLast?.or previous = xs.getLast?.or (some x) := by
  rw [List.getLast?_cons, Option.some_or, Option.or_some]

/-- A loop stops at the first slot of a chain at which it may. -/
theorem Chain.seeks_found {stop : Fin n → Prop} (h : next.Chain (xs ++ slot :: ys))
    (hpasses : ∀ x ∈ xs, ¬ stop x) (hstops : stop slot) (previous : Option (Fin n)) :
    next.Seeks stop previous (xs ++ slot :: ys).head? (xs.getLast?.or previous) (some slot) := by
  induction xs generalizing previous with
  | nil => exact .found hstops previous
  | cons x xs ih =>
    rw [List.forall_mem_cons] at hpasses
    have hlink : next.get x = (xs ++ slot :: ys).head? := h.1
    have hrest := ih h.2 hpasses.2 (some x)
    rw [← hlink] at hrest
    rw [getLast?_cons_or]
    exact .step hpasses.1 previous hrest

/-- A loop that stops at no slot of a chain comes to its end. -/
theorem Chain.seeks_end {stop : Fin n → Prop} (h : next.Chain l) (hpasses : ∀ x ∈ l, ¬ stop x)
    (previous : Option (Fin n)) :
    next.Seeks stop previous l.head? (l.getLast?.or previous) none := by
  induction l generalizing previous with
  | nil => exact .ended previous
  | cons x l ih =>
    rw [List.forall_mem_cons] at hpasses
    have hrest := ih h.2 hpasses.2 (some x)
    rw [← h.1] at hrest
    rw [getLast?_cons_or]
    exact .step hpasses.1 previous hrest

/-- There are no more slots in a list without repetition than there are slots. -/
theorem length_le_of_nodup (hl : l.Nodup) : l.length ≤ n := by
  have h := List.Nodup.length_le_card hl
  rwa [Fintype.card_fin] at h

/-- In a list without repetition a slot stands neither before nor after itself. -/
theorem not_mem_of_append_cons (hl : (xs ++ slot :: ys).Nodup) : slot ∉ xs ∧ slot ∉ ys := by
  obtain ⟨-, hys, hdisjoint⟩ := List.nodup_append.1 hl
  exact ⟨fun hmem ↦ hdisjoint slot hmem slot List.mem_cons_self rfl, (List.nodup_cons.1 hys).1⟩

/-- Erasing a slot from a list without repetition leaves what stands before it and after it. -/
theorem erase_append_cons (hl : (xs ++ slot :: ys).Nodup) :
    (xs ++ slot :: ys).erase slot = xs ++ ys := by
  rw [List.erase_append_right _ (not_mem_of_append_cons hl).1, List.erase_cons_head]

/-- A walk of as many steps as there are slots sees the whole list. -/
theorem Chain.chain_eq (h : next.Chain l) (hl : l.Nodup) : next.chain l.head? = l :=
  h.walk_eq (length_le_of_nodup hl)

end BeaconGateway.Links
