import BeaconGateway.Proofs.Table.Chain
import BeaconGateway.Table.PendingQueue

/-!
# The queue of pending slots is a queue

`PendingQueue.Holds q l` says that the five parts of a queue agree on the slots `l` that wait, and
each operation is read as an operation on that list:

* `push` appends a slot that does not wait, and leaves one that waits in its place
  (`Holds.push`), and answers which it did (`Holds.push_of_mem`, `Holds.push_of_not_mem`);
* `pop?` takes the first slot (`Holds.pop?_cons`), and nothing from an empty queue
  (`Holds.pop?_nil`);
* popping until nothing waits ends after as many pops as slots wait, and leaves a queue that holds
  nothing (`Holds.popMany_eq`). The bound on the number of pops in `popAll` is therefore never
  reached with a slot still waiting (`Holds.popAll_eq`).

The flags are what a push asks, so it does not walk the queue; they and the links are written in the
same step, so that they cannot disagree. Nothing is said of the links of slots that do not wait: a
push writes the link of its slot before anything leads there.
-/

namespace BeaconGateway.PendingQueue

variable {n : Nat} {q : PendingQueue n} {slot : Fin n} {l : List (Fin n)}

/-- The slots of a list wait in a queue, the first one next. -/
structure Holds (q : PendingQueue n) (l : List (Fin n)) : Prop where
  /-- No slot waits twice. -/
  nodup : l.Nodup
  /-- The links lead from each waiting slot to the next. -/
  chain : q.next.Chain l
  /-- The head is the first waiting slot. -/
  head : q.head = l.head?
  /-- The tail is the last waiting slot. -/
  tail : q.tail = l.getLast?
  /-- The flags mark the waiting slots. -/
  queued : ∀ slot, q.queued.get slot = true ↔ slot ∈ l
  /-- The size counts the waiting slots. -/
  size : q.size = l.length

/-- No slot is queued at first. -/
theorem holds_empty : (empty : PendingQueue n).Holds [] where
  nodup := List.nodup_nil
  chain := Links.Chain.nil
  head := rfl
  tail := rfl
  queued slot := by simp [empty]
  size := rfl

namespace Holds

/-- Following the links from the head gives the queue. -/
theorem toList_eq (h : q.Holds l) : q.toList = l := by
  rw [toList, h.head]
  exact h.chain.chain_eq h.nodup

/-- The flags tell what is queued, without a walk. -/
theorem contains_iff (h : q.Holds l) : q.contains slot = true ↔ slot ∈ l :=
  h.queued slot

/-! ### Push -/

/-- A queued slot is not queued again, and keeps its place. -/
theorem push_of_mem (h : q.Holds l) (hslot : slot ∈ l) : q.push slot = (false, q) := by
  rw [PendingQueue.push, if_pos ((h.queued slot).2 hslot)]

/-- Any other is appended. -/
theorem push_of_not_mem (h : q.Holds l) (hslot : slot ∉ l) :
    (q.push slot).1 = true ∧ (q.push slot).2.Holds (l ++ [slot]) := by
  have hfree : ¬q.queued.get slot = true := fun hq ↦ hslot ((h.queued slot).1 hq)
  rw [PendingQueue.push, if_neg hfree]
  refine ⟨rfl, ?_⟩
  constructor
  case nodup => exact h.nodup.append (List.nodup_singleton slot) (by simpa using hslot)
  case chain =>
    rw [h.tail]
    exact h.chain.append h.nodup hslot
  case head =>
    simp only [h.tail, h.head]
    cases l <;> simp
  case tail => simp
  case queued =>
    intro other
    rw [Slots.get_put, List.mem_append, List.mem_singleton, ← h.queued other]
    by_cases hother : slot = other
    · simp [hother]
    · simp [hother, Ne.symm hother]
  case size => simp [h.size]

/-- **A push appends a slot unless it waits already.** -/
theorem push (h : q.Holds l) (slot : Fin n) :
    (q.push slot).2.Holds (if slot ∈ l then l else l ++ [slot]) := by
  by_cases hslot : slot ∈ l
  · rw [if_pos hslot, h.push_of_mem hslot]
    exact h
  · rw [if_neg hslot]
    exact (h.push_of_not_mem hslot).2

/-! ### Pop -/

/-- Nothing comes off an empty queue. -/
theorem pop?_nil (h : q.Holds []) : q.pop? = none := by
  rw [pop?, h.head]
  rfl

/-- **A pop takes the slot that has waited longest.** -/
theorem pop?_cons (h : q.Holds (slot :: l)) : ∃ q', q.pop? = some (slot, q') ∧ q'.Holds l := by
  have hslot : slot ∉ l := (List.nodup_cons.1 h.nodup).1
  have hafter : q.next.get slot = l.head? := h.chain.1
  refine ⟨_, by rw [pop?, h.head]; rfl, ?_⟩
  constructor
  case nodup => exact (List.nodup_cons.1 h.nodup).2
  case chain => exact h.chain.2.put hslot none
  case head => exact hafter
  case tail =>
    simp only [hafter, h.tail]
    cases l <;> simp
  case queued =>
    intro other
    rw [Slots.get_put]
    by_cases hother : slot = other
    · simp [← hother, hslot]
    · simp [hother, h.queued other, Ne.symm hother]
  case size => simp [h.size]

/-- **Popping until nothing waits** takes every slot in order, and leaves nothing. Steps that are
allowed beyond the number of waiting slots are not taken. -/
theorem popMany_eq (h : q.Holds l) {fuel : Nat} (hfuel : l.length ≤ fuel) :
    (popMany fuel q).1 = l ∧ (popMany fuel q).2.Holds [] := by
  induction l generalizing q fuel with
  | nil => cases fuel <;> simp [popMany, h, h.pop?_nil]
  | cons slot l ih =>
    obtain ⟨fuel, rfl⟩ : ∃ k, fuel = k + 1 := ⟨fuel - 1, by simp at hfuel; omega⟩
    obtain ⟨q', hpop, hq'⟩ := h.pop?_cons
    obtain ⟨hslots, hlast⟩ := ih hq' (by simpa using hfuel)
    simp only [popMany, hpop]
    exact ⟨congrArg (slot :: ·) hslots, hlast⟩

/-- **Popping until nothing is left** gives the whole queue. -/
theorem popAll_eq (h : q.Holds l) : q.popAll.1 = l ∧ q.popAll.2.Holds [] :=
  h.popMany_eq (Links.length_le_of_nodup h.nodup)

end Holds

end BeaconGateway.PendingQueue
