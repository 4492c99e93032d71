import BeaconGateway.Proofs.Table.PackedLinks
import BeaconGateway.Proofs.Table.PendingQueue
import BeaconGateway.Table.PackedQueue

/-!
# The queue of pending slots is a line

What is asked of the queue is data (`QueueRequest`), and a line serves it beside the queue: a list
of slots that are let in at its end, unless they stand in it already, and leave at its front
(`serveLine`). A queue and a line that were both empty answer the same, whatever they are asked
(`Rests.answers_eq`).

To hold the slots of a line is not enough for a queue that is emptied to be as good as new: a link
that was left behind in a slot that does not wait might come back when the slot is pushed again.
`Rests` adds that no such slot has a link, so that an emptied queue is the new one, link by link
(`Rests.eq_empty`).

The queue in words answers as the queue does and keeps its packed form (`Rests.serve?_pack`). Here
the invariant is needed: the size is taken down with each pop, and must not be zero before.

## Main results

* `PackedQueue.answers_as_line` — any requests are answered as the line answers them, and a loop of
  pops ends after as many pops as slots wait, with the new queue.
-/

namespace BeaconGateway

open PackedLinks (ofLink nowhere toSlot)

variable {n : Nat}

/-! ### Requests -/

/-- What is asked of a queue. -/
inductive QueueRequest (n : Nat) where
  /-- Append a slot. -/
  | push (slot : Fin n)
  /-- Take the slot that has waited longest. -/
  | pop
  /-- Tell whether a slot waits. -/
  | contains (slot : Fin n)
  /-- Tell how many slots wait. -/
  | size
  deriving DecidableEq

/-- What is answered. -/
inductive QueueAnswer where
  /-- Whether a slot was appended, or whether it waits. -/
  | flag (value : Bool)
  /-- The number of the slot that was taken, if one waited. -/
  | slot (number : Option Nat)
  /-- How many slots wait. -/
  | count (number : Nat)
  deriving DecidableEq

/-- A line serves a request. -/
def serveLine (line : List (Fin n)) : QueueRequest n → QueueAnswer × List (Fin n)
  | .push slot =>
    if line.contains slot then (.flag false, line) else (.flag true, line ++ [slot])
  | .pop => (.slot (line.head?.map Fin.val), line.tail)
  | .contains slot => (.flag (line.contains slot), line)
  | .size => (.count line.length, line)

/-- The answers to requests in turn, and what serves the next one. -/
def queueAnswers {σ : Type} (serve : σ → QueueRequest n → QueueAnswer × σ) :
    σ → List (QueueRequest n) → List QueueAnswer × σ
  | state, [] => ([], state)
  | state, request :: rest =>
    let (answer, next) := serve state request
    let (answers, last) := queueAnswers serve next rest
    (answer :: answers, last)

namespace PendingQueue

variable {q : PendingQueue n} {slot : Fin n} {l : List (Fin n)}

/-- A queue serves a request. -/
def serve (q : PendingQueue n) : QueueRequest n → QueueAnswer × PendingQueue n
  | .push slot => (.flag (q.push slot).1, (q.push slot).2)
  | .pop =>
    match q.pop? with
    | none => (.slot none, q)
    | some (slot, rest) => (.slot (some slot), rest)
  | .contains slot => (.flag (q.contains slot), q)
  | .size => (.count q.size, q)

/-! ### Slots that do not wait have no link -/

/-- The slots of a list wait in a queue, and no other slot has a link. -/
structure Rests (q : PendingQueue n) (l : List (Fin n)) : Prop extends q.Holds l where
  /-- A slot that does not wait has no link. -/
  idle : ∀ slot, slot ∉ l → q.next.get slot = none

theorem rests_empty : (empty : PendingQueue n).Rests [] where
  toHolds := holds_empty
  idle slot _ := Slots.get_fill none slot

/-- Relinking a slot changes its link only. -/
theorem get_relink_of_ne {next : Links n} {before after : Option (Fin n)}
    (h : ∀ x ∈ before, x ≠ slot) : (next.relink before after).get slot = next.get slot := by
  cases before with
  | none => rfl
  | some x => exact Slots.get_put_of_ne next (h x rfl) after

namespace Rests

/-- A slot that is pushed comes last in the line. -/
theorem push_of_not_mem (h : q.Rests l) (hslot : slot ∉ l) :
    (q.push slot).2.Rests (l ++ [slot]) := by
  refine ⟨(h.toHolds.push_of_not_mem hslot).2, fun other hother ↦ ?_⟩
  rw [List.mem_append, List.mem_singleton, not_or] at hother
  have hfree : ¬q.queued.get slot = true := fun hq ↦ hslot ((h.queued slot).1 hq)
  have hnext : (q.push slot).2.next = Links.relink (q.next.put slot none) q.tail (some slot) := by
    rw [PendingQueue.push, if_neg hfree]
    rfl
  -- the slots that are written are the new one and the one that came last
  have hlast : ∀ x ∈ q.tail, x ≠ other := by
    rintro x hx rfl
    rw [h.tail] at hx
    exact hother.1 (List.mem_of_getLast? hx)
  rw [hnext, get_relink_of_ne hlast, Slots.get_put_of_ne _ (Ne.symm hother.2)]
  exact h.idle other hother.1

/-- The first in the line is popped, and the others move up. -/
theorem pop?_cons (h : q.Rests (slot :: l)) : ∃ q', q.pop? = some (slot, q') ∧ q'.Rests l := by
  obtain ⟨q', hpop, hholds⟩ := h.toHolds.pop?_cons
  refine ⟨q', hpop, hholds, fun other hother ↦ ?_⟩
  have hnext : q'.next = q.next.put slot none := by
    rw [PendingQueue.pop?, h.head] at hpop
    cases hpop
    rfl
  rw [hnext, Slots.get_put]
  split
  case isTrue => rfl
  case isFalse hne =>
    refine h.idle other fun hmem ↦ ?_
    rcases List.mem_cons.1 hmem with heq | hmem
    · exact hne heq.symm
    · exact hother hmem

/-- **An emptied queue is the new one.** -/
theorem eq_empty (h : q.Rests []) : q = empty := by
  have hnext : q.next = Links.empty := by
    refine Vector.ext fun number hnumber ↦ ?_
    rw [Links.empty, Slots.fill, Vector.getElem_replicate]
    exact h.idle ⟨number, hnumber⟩ List.not_mem_nil
  have hqueued : q.queued = Slots.fill false := by
    refine Vector.ext fun number hnumber ↦ ?_
    rw [Slots.fill, Vector.getElem_replicate, ← Bool.not_eq_true]
    exact fun hq ↦ List.not_mem_nil ((h.queued ⟨number, hnumber⟩).1 hq)
  have hhead := h.head
  have htail := h.tail
  have hsize := h.size
  obtain ⟨next, queued, head, tail, size⟩ := q
  subst hnext hqueued hhead htail hsize
  rfl

/-- **To pop every slot leaves the new queue.** -/
theorem popMany_eq (h : q.Rests l) {fuel : Nat} (hfuel : l.length ≤ fuel) :
    popMany fuel q = (l, empty) := by
  induction l generalizing q fuel with
  | nil =>
    cases fuel with
    | zero => rw [popMany, h.eq_empty]
    | succ fuel => rw [popMany, h.toHolds.pop?_nil, h.eq_empty]
  | cons slot l ih =>
    cases fuel with
    | zero => exact absurd hfuel (Nat.not_succ_le_zero l.length)
    | succ fuel =>
      obtain ⟨q', hpop, hrests⟩ := h.pop?_cons
      have hrest := ih hrests (Nat.le_of_succ_le_succ hfuel)
      simp only [popMany, hpop, hrest]

/-- Popping all gives the line, and leaves the queue as it was new. -/
theorem popAll_eq (h : q.Rests l) : q.popAll = (l, empty) :=
  h.popMany_eq (Links.length_le_of_nodup h.nodup)

/-! ### The queue and the line -/

/-- **A queue serves a request as the line of its slots does.** -/
theorem serve (h : q.Rests l) (request : QueueRequest n) :
    (q.serve request).1 = (serveLine l request).1 ∧
      (q.serve request).2.Rests (serveLine l request).2 := by
  cases request with
  | push slot =>
    by_cases hslot : slot ∈ l
    · rw [serveLine, if_pos (List.contains_iff_mem.2 hslot), PendingQueue.serve,
        h.toHolds.push_of_mem hslot]
      exact ⟨rfl, h⟩
    · rw [serveLine, if_neg (mt List.contains_iff_mem.1 hslot), PendingQueue.serve,
        (h.toHolds.push_of_not_mem hslot).1]
      exact ⟨rfl, h.push_of_not_mem hslot⟩
  | pop =>
    cases l with
    | nil =>
      simp only [PendingQueue.serve, h.toHolds.pop?_nil]
      exact ⟨rfl, h⟩
    | cons slot l =>
      obtain ⟨q', hpop, hrests⟩ := h.pop?_cons
      simp only [PendingQueue.serve, hpop]
      exact ⟨rfl, hrests⟩
  | contains slot =>
    have hcontains : q.contains slot = l.contains slot := by
      rw [Bool.eq_iff_iff, h.toHolds.contains_iff, List.contains_iff_mem]
    exact ⟨congrArg QueueAnswer.flag hcontains, h⟩
  | size => exact ⟨congrArg QueueAnswer.count h.size, h⟩

/-- **Requests in turn** are answered as the line answers them. -/
theorem answers_eq (h : q.Rests l) (requests : List (QueueRequest n)) :
    (queueAnswers PendingQueue.serve q requests).1 = (queueAnswers serveLine l requests).1 ∧
      (queueAnswers PendingQueue.serve q requests).2.Rests
        (queueAnswers serveLine l requests).2 := by
  induction requests generalizing q l with
  | nil => exact ⟨rfl, h⟩
  | cons request rest ih =>
    obtain ⟨hanswer, hrests⟩ := h.serve request
    obtain ⟨hanswers, hlast⟩ := ih hrests
    exact ⟨congrArg₂ List.cons hanswer hanswers, hlast⟩

end Rests

/-! ### In words -/

/-- A queue in words. -/
def pack (q : PendingQueue n) : PackedQueue n :=
  ⟨q.next.pack, q.queued, ofLink q.head, ofLink q.tail, q.size⟩

theorem pack_empty : (empty : PendingQueue n).pack = .empty := by
  rw [pack, empty, Links.pack_empty]
  rfl

/-- In words as in links, a flag says whether a slot is queued. -/
theorem contains?_pack (q : PendingQueue n) (slot : Fin n) :
    q.pack.contains? slot = some (q.contains slot) :=
  Slots.read?_val q.queued slot

/-- **To push is the same in words**, and no access misses. -/
theorem push?_pack (hn : n < 65535) (q : PendingQueue n) (slot : Fin n) :
    q.pack.push? slot = some ((q.push slot).1, (q.push slot).2.pack) := by
  have hwaits : Slots.read? q.pack.queued slot = some (q.queued.get slot) := Slots.read?_val ..
  rw [PackedQueue.push?, hwaits, PendingQueue.push]
  by_cases hqueued : q.queued.get slot = true
  · simp only [hqueued, Option.bind_eq_bind, Option.bind_some, if_true]
    rfl
  · have hlast : Slots.write? q.pack.next slot nowhere = some (Links.pack (q.next.put slot none)) :=
      Links.write?_pack q.next slot none
    have hnext : PackedLinks.relink? (Links.pack (q.next.put slot none)) q.pack.tail (toSlot slot) =
        some (Links.pack (Links.relink (q.next.put slot none) q.tail (some slot))) :=
      Links.relink?_pack hn (q.next.put slot none) q.tail (some slot)
    have hflags : Slots.write? q.pack.queued slot true = some (q.queued.put slot true) :=
      Slots.write?_val q.queued slot true
    have hhead : (if q.pack.tail = nowhere then toSlot slot else q.pack.head) =
        ofLink (if q.tail.isNone then some slot else q.head) := by
      rw [apply_ite ofLink]
      exact PackedLinks.if_ofLink_eq_nowhere hn ..
    simp only [hqueued, hlast, hnext, hflags, hhead, Option.bind_eq_bind, Option.bind_some]
    rfl

/-- Nothing comes off an empty queue in words either. -/
theorem pop?_pack_none (h : q.pop? = none) : q.pack.pop? = some (none, q.pack) := by
  have hhead : q.head = none := Option.map_eq_none_iff.1 h
  rw [PackedQueue.pop?, if_pos]
  exact congrArg ofLink hhead

/-- **To pop is the same in words.** -/
theorem pop?_pack_some (hn : n < 65535) {q' : PendingQueue n} (h : q.pop? = some (slot, q'))
    (hsize : 0 < q.size) : q.pack.pop? = some (some (slot : Nat), q'.pack) := by
  obtain ⟨first, hhead, hq'⟩ := Option.map_eq_some_iff.1 h
  cases hq'
  have hfront : q.pack.head = toSlot slot := congrArg ofLink hhead
  have hafter : Slots.read? q.pack.next slot = some (ofLink (q.next.get slot)) :=
    Links.read?_pack q.next slot
  have hnext : Slots.write? q.pack.next slot nowhere = some (Links.pack (q.next.put slot none)) :=
    Links.write?_pack q.next slot none
  have hflags : Slots.write? q.pack.queued slot false = some (q.queued.put slot false) :=
    Slots.write?_val q.queued slot false
  have hcount : ¬ q.pack.size = 0 := Nat.ne_of_gt hsize
  have htail : (if ofLink (q.next.get slot) = nowhere then nowhere else q.pack.tail) =
      ofLink (if (q.next.get slot).isNone then none else q.tail) := by
    rw [apply_ite ofLink]
    exact PackedLinks.if_ofLink_eq_nowhere hn ..
  rw [PackedQueue.pop?, hfront, if_neg (PackedLinks.toSlot_ne_nowhere hn slot)]
  simp only [PackedLinks.toNat_toSlot hn, hafter, hnext, hflags, hcount, htail, Option.bind_eq_bind,
    Option.bind_some, if_false]
  rfl

end PendingQueue

namespace PackedQueue

/-- A queue in words serves a request, `none` if one of the accesses misses. -/
def serve? (q : PackedQueue n) : QueueRequest n → Option (QueueAnswer × PackedQueue n)
  | .push slot => (q.push? slot).map fun (fresh, q) ↦ (.flag fresh, q)
  | .pop => q.pop?.map fun (slot, q) ↦ (.slot slot, q)
  | .contains slot => (q.contains? slot).map fun waits ↦ (.flag waits, q)
  | .size => some (.count q.size, q)

/-- The answers to requests in turn, and the queue for the next one. -/
def answers? (q : PackedQueue n) : List (QueueRequest n) → Option (List QueueAnswer × PackedQueue n)
  | [] => some ([], q)
  | request :: rest =>
    (q.serve? request).bind fun (answer, q) ↦
      (answers? q rest).map fun (answers, q) ↦ (answer :: answers, q)

end PackedQueue

namespace PendingQueue.Rests

variable {q : PendingQueue n} {l : List (Fin n)}

/-- **A queue in words serves a request as the queue does**, and no access misses. -/
theorem serve?_pack (hn : n < 65535) (h : q.Rests l) (request : QueueRequest n) :
    q.pack.serve? request = some ((q.serve request).1, (q.serve request).2.pack) := by
  cases request with
  | push slot =>
    rw [PackedQueue.serve?, push?_pack hn]
    rfl
  | pop =>
    rw [PackedQueue.serve?]
    cases l with
    | nil =>
      have hpop := h.toHolds.pop?_nil
      simp only [pop?_pack_none hpop, PendingQueue.serve, hpop]
      rfl
    | cons slot l =>
      obtain ⟨q', hpop, -⟩ := h.pop?_cons
      have hsize : 0 < q.size := h.size ▸ Nat.succ_pos _
      simp only [pop?_pack_some hn hpop hsize, PendingQueue.serve, hpop]
      rfl
  | contains slot =>
    rw [PackedQueue.serve?, contains?_pack]
    rfl
  | size => rfl

/-- **Requests are answered the same in words**, all of them. -/
theorem answers?_pack (hn : n < 65535) (h : q.Rests l) (requests : List (QueueRequest n)) :
    q.pack.answers? requests = some ((queueAnswers PendingQueue.serve q requests).1,
      (queueAnswers PendingQueue.serve q requests).2.pack) := by
  induction requests generalizing q l with
  | nil => rfl
  | cons request rest ih =>
    rw [PackedQueue.answers?, h.serve?_pack hn request]
    show (PackedQueue.answers? _ rest).map _ = _
    rw [ih (h.serve request).2]
    rfl

/-- **A loop of pops ends**, with every slot in order and the new queue. -/
theorem exhausts_pack (hn : n < 65535) (h : q.Rests l) :
    Exhausts PackedQueue.pop? q.pack (l.map Fin.val) PackedQueue.empty := by
  induction l generalizing q with
  | nil =>
    rw [← PendingQueue.pack_empty, ← h.eq_empty]
    exact .ended (pop?_pack_none h.toHolds.pop?_nil)
  | cons slot l ih =>
    obtain ⟨q', hpop, hrests⟩ := h.pop?_cons
    have hsize : 0 < q.size := h.size ▸ Nat.succ_pos _
    exact .taken (pop?_pack_some hn hpop hsize) (ih hrests)

end PendingQueue.Rests

namespace PackedQueue

/-- **A queue answers as a line does**, whatever it is asked, and in words of sixteen bits no access
misses. No slot stands twice in the line. The loop of pops ends after as many pops as slots wait,
takes them in the order of the line, and leaves the new queue, so that whatever is asked then is
answered as at first. -/
theorem answers_as_line (hn : n < 65535) (requests : List (QueueRequest n)) :
    let answers := (queueAnswers serveLine [] requests).1
    let line := (queueAnswers serveLine [] requests).2
    line.Nodup ∧
      (queueAnswers PendingQueue.serve .empty requests).1 = answers ∧
      (queueAnswers PendingQueue.serve .empty requests).2.popAll = (line, .empty) ∧
      ∃ q : PackedQueue n, (empty : PackedQueue n).answers? requests = some (answers, q) ∧
        q.size = line.length ∧ (∀ slot : Fin n, q.contains? slot = some (line.contains slot)) ∧
        ∀ slots last, Exhausts pop? q slots last ↔ slots = line.map Fin.val ∧ last = empty := by
  intro answers line
  obtain ⟨hanswers, hrests⟩ := PendingQueue.rests_empty.answers_eq requests
  refine ⟨hrests.nodup, hanswers, hrests.popAll_eq, _, ?_, hrests.size, fun slot ↦ ?_,
    fun slots last ↦ (hrests.exhausts_pack hn).iff⟩
  · rw [← PendingQueue.pack_empty, PendingQueue.rests_empty.answers?_pack hn, hanswers]
  · rw [PendingQueue.contains?_pack, Option.some_inj, Bool.eq_iff_iff, hrests.contains_iff,
      List.contains_iff_mem]

/-- Of two slots that wait the first one is pushed again in vain, is taken, and is pushed once more
behind the other one. -/
theorem answers_as_line_of_four :
    4 < 65535 ∧ ∃ q : PackedQueue 4,
      (empty : PackedQueue 4).answers?
          [.push 2, .push 0, .push 2, .size, .pop, .contains 2, .push 2] =
        some ([.flag true, .flag true, .flag false, .count 2, .slot (some 2), .flag false,
          .flag true], q) ∧
      q.size = 2 ∧
        ∀ slots last, Exhausts pop? q slots last ↔ slots = [0, 2] ∧ last = empty := by
  have hn : 4 < 65535 := by decide
  obtain ⟨-, -, -, q, hanswered, hsize, -, hdrained⟩ :=
    answers_as_line hn [.push 2, .push 0, .push 2, .size, .pop, .contains 2, .push 2]
  exact ⟨hn, q, hanswered, hsize, hdrained⟩

end PackedQueue

end BeaconGateway
