import BeaconGateway.Proofs.Table.AddressIndex
import Mathlib.Data.List.FinRange

/-!
# The address index under a sequence of requests

`AddressIndex.Holds` says what one operation does to an index that holds a list of entries. Here an
index that begins empty serves any sequence of requests: a slot that is not linked is linked under
an address, under which other slots may be linked as well, or a slot is unlinked, linked or not
(`Request`, `AddressIndex.after`). Beside it a list of entries is kept, to which a linked slot is
appended and from which an unlinked one is taken out (`held`).

The index holds that list after each request (`Holds.serve`), so after all of them
(`Holds.after`), and what an index that holds a list of entries tells about them is collected in
`Mirrors`: the answers of its operations, and the shape of its 101 chains.

The two loops of the index run along the links without a count of their steps. `Mirrors` says of
both that they end: the one of `find?` where the answer is, and the one of `remove` at the slot that
is to be unlinked, so that no slot whose flag is set is ever missing from its chain.
-/

namespace BeaconGateway.AddressIndex

variable {n : Nat} {t : AddressIndex n} {slot : Fin n}
variable {entries : List (Fin n × Address)}

/-! ### Requests -/

/-- What an index is asked to do. -/
inductive Request (n : Nat) where
  /-- Link a slot under an address. -/
  | insert (slot : Fin n) (a : Address)
  /-- Unlink a slot. -/
  | remove (slot : Fin n)

/-- The index after a request. -/
def serve (t : AddressIndex n) : Request n → AddressIndex n
  | .insert slot a => t.insert slot a
  | .remove slot => (t.remove slot).2

/-- The index after a sequence of requests. -/
def after (t : AddressIndex n) (requests : List (Request n)) : AddressIndex n :=
  requests.foldl serve t

/-- What a request asks for is allowed: a slot that is to be linked is not linked yet. -/
def Request.Allowed (t : AddressIndex n) : Request n → Prop
  | .insert slot _ => t.contains slot = false
  | .remove _ => True

/-- Each request of a sequence is allowed when its turn comes. -/
def Orderly (t : AddressIndex n) : List (Request n) → Prop
  | [] => True
  | request :: requests => request.Allowed t ∧ Orderly (t.serve request) requests

/-- The entries after a request: a slot that is linked comes last. -/
def Request.apply (entries : List (Fin n × Address)) : Request n → List (Fin n × Address)
  | .insert slot a => entries ++ [(slot, a)]
  | .remove slot => without entries slot

/-- The slots that are linked after a sequence of requests, each with its address, in the order in
which they were linked. -/
def held (requests : List (Request n)) : List (Fin n × Address) :=
  requests.foldl Request.apply []

theorem without_of_not_mem (h : slot ∉ entries.map Prod.fst) : without entries slot = entries := by
  refine List.filter_eq_self.2 fun e he ↦ decide_eq_true ?_
  rintro rfl
  exact h (List.mem_map_of_mem he)

namespace Holds

/-- **One request**: the index does with its chains what is done with the entries. -/
theorem serve (h : t.Holds entries) {request : Request n} (hallowed : request.Allowed t) :
    (t.serve request).Holds (request.apply entries) := by
  cases request with
  | insert slot a =>
    have hslot : slot ∉ entries.map Prod.fst := by
      rw [← h.linked slot, Bool.not_eq_true]
      exact hallowed
    exact h.insert hslot a
  | remove slot =>
    by_cases hslot : slot ∈ entries.map Prod.fst
    · obtain ⟨⟨_, a⟩, he, rfl⟩ := List.mem_map.1 hslot
      exact (h.remove_of_mem he).2
    · rw [AddressIndex.serve, Request.apply, h.remove_of_not_mem hslot, without_of_not_mem hslot]
      exact h

/-- **A sequence of requests.** -/
theorem after (h : t.Holds entries) {requests : List (Request n)} (horderly : Orderly t requests) :
    (t.after requests).Holds (requests.foldl Request.apply entries) := by
  induction requests generalizing t entries with
  | nil => exact h
  | cons request requests ih => exact ih (h.serve horderly.1) horderly.2

/-! ### What an index tells -/

theorem remove_fst_iff (h : t.Holds entries) :
    (t.remove slot).1 = true ↔ slot ∈ entries.map Prod.fst := by
  by_cases hslot : slot ∈ entries.map Prod.fst
  · obtain ⟨⟨_, a⟩, he, rfl⟩ := List.mem_map.1 hslot
    exact iff_of_true (h.remove_of_mem he).1 hslot
  · simp [h.remove_of_not_mem hslot, hslot]

/-- The size counts the slots whose flag is set. -/
theorem size_eq_countP (h : t.Holds entries) :
    t.size = (List.finRange n).countP fun slot ↦ t.contains slot := by
  have hperm :
      ((List.finRange n).filter fun slot ↦ t.contains slot).Perm (entries.map Prod.fst) := by
    refine (List.perm_ext_iff_of_nodup ((List.nodup_finRange n).filter _) h.nodup).2 fun slot ↦ ?_
    rw [List.mem_filter, contains, h.linked]
    exact and_iff_right (List.mem_finRange slot)
  rw [List.countP_eq_length_filter, hperm.length_eq, List.length_map, h.size]

/-- **The loop of `find?` ends**, at the slot that is found or at the end of the chain. -/
theorem find?_ends (h : t.Holds entries) (a : Address) :
    ∃ previous, t.next.Seeks (fun slot ↦ t.keys.get slot = a) none (t.heads.get a.bucket) previous
      (t.find? a) := by
  rw [AddressIndex.find?, h.bucketSlots_eq, h.heads]
  cases hfind : (slotsIn entries a.bucket).find? fun slot ↦ t.keys.get slot == a with
  | none =>
    have hpasses : ∀ x ∈ slotsIn entries a.bucket, ¬ t.keys.get x = a := by
      simpa using hfind
    exact ⟨_, (h.chain a.bucket).seeks_end hpasses none⟩
  | some slot =>
    obtain ⟨hstops, xs, ys, hsplit, hpasses⟩ := List.find?_eq_some_iff_append.1 hfind
    have hchain : t.next.Chain (xs ++ slot :: ys) := hsplit ▸ h.chain a.bucket
    rw [hsplit]
    exact ⟨_, hchain.seeks_found (by simpa using hpasses) (by simpa using hstops) none⟩

/-- **The loop of `remove` ends at the slot**, with what stands before it. -/
theorem remove_ends (h : t.Holds entries) {e : Fin n × Address} (he : e ∈ entries) :
    ∃ previous, before? e.1 none (t.bucketSlots (t.keys.get e.1).bucket) = some previous ∧
      t.next.Seeks (fun slot ↦ slot = e.1) none (t.heads.get (t.keys.get e.1).bucket) previous
        (some e.1) := by
  have hmem : e.1 ∈ slotsIn entries e.2.bucket := mem_slotsIn.2 ⟨e.2, he, rfl⟩
  obtain ⟨xs, ys, hsplit⟩ := List.append_of_mem hmem
  have hnodup : (xs ++ e.1 :: ys).Nodup := hsplit ▸ nodup_slotsIn h.nodup e.2.bucket
  have hchain : t.next.Chain (xs ++ e.1 :: ys) := hsplit ▸ h.chain e.2.bucket
  have hbefore : e.1 ∉ xs := (Links.not_mem_of_append_cons hnodup).1
  have hpasses : ∀ x ∈ xs, ¬ x = e.1 := by
    rintro x hx rfl
    exact hbefore hx
  rw [h.keys e he, h.bucketSlots_eq, h.heads, hsplit]
  exact ⟨_, before?_append hbefore none, hchain.seeks_found hpasses rfl none⟩

end Holds

/-- An index mirrors a list of entries, each a slot with its address, in the order in which they
were linked: its answers and its chains are those of the list. -/
structure Mirrors (t : AddressIndex n) (entries : List (Fin n × Address)) : Prop where
  /-- Under an address the slot is found that was linked first, of those that are linked. -/
  find : ∀ a, t.find? a = (entries.find? fun e ↦ e.2 = a).map Prod.fst
  /-- None is found exactly if none is linked under the address. -/
  find_none : ∀ a, t.find? a = none ↔ ∀ slot, (slot, a) ∉ entries
  /-- The loop that looks for an address ends with that answer. -/
  find_ends : ∀ a, ∃ previous,
    t.next.Seeks (fun slot ↦ t.keys.get slot = a) none (t.heads.get a.bucket) previous (t.find? a)
  /-- To unlink a slot succeeds exactly if it is linked. -/
  remove : ∀ slot, (t.remove slot).1 = true ↔ slot ∈ entries.map Prod.fst
  /-- The loop that looks for the slot to be unlinked ends at the slot: no slot that is linked is
  missing from its chain. -/
  remove_ends : ∀ e ∈ entries, ∃ previous,
    before? e.1 none (t.bucketSlots (t.keys.get e.1).bucket) = some previous ∧
      t.next.Seeks (fun slot ↦ slot = e.1) none (t.heads.get (t.keys.get e.1).bucket) previous
        (some e.1)
  /-- The flags mark the slots that are linked. -/
  contains : ∀ slot, t.contains slot = true ↔ slot ∈ entries.map Prod.fst
  /-- No slot is linked twice. -/
  nodup : (entries.map Prod.fst).Nodup
  /-- The size counts the slots that are linked. -/
  size : t.size = entries.length ∧ t.size = (List.finRange n).countP fun slot ↦ t.contains slot
  /-- From its head each bucket leads through the slots that are linked under its addresses, in the
  order in which they were linked and each once, and ends at its tail. -/
  bucket : ∀ b, t.heads.get b = (slotsIn entries b).head? ∧ t.next.Chain (slotsIn entries b) ∧
    (slotsIn entries b).Nodup ∧ t.tails.get b = (slotsIn entries b).getLast?

theorem Holds.mirrors (h : t.Holds entries) : t.Mirrors entries where
  find := h.find?_eq
  find_none _ := h.find?_eq_none_iff
  find_ends := h.find?_ends
  remove _ := h.remove_fst_iff
  remove_ends _ he := h.remove_ends he
  contains := h.linked
  nodup := h.nodup
  size := ⟨h.size, h.size_eq_countP⟩
  bucket b := ⟨h.heads b, h.chain b, nodup_slotsIn h.nodup b, h.tails b⟩

/-- **An index that began empty mirrors the slots that are linked**, whatever it was asked to do, as
long as no slot is linked twice. -/
theorem mirrors_held (requests : List (Request n)) (horderly : Orderly empty requests) :
    ((empty : AddressIndex n).after requests).Mirrors (held requests) :=
  (holds_empty.after horderly).mirrors

/-- Three slots share a chain, two of them under one address. The middle one is unlinked and another
slot linked under its address, after which the first one is unlinked, and once more in vain. -/
theorem mirrors_held_of_collision :
    let a : Address := ⟨0x00, 0x00, 0x00, 0x01, 0x02, 0x03⟩
    let b : Address := ⟨0x01, 0x02, 0x03, 0x00, 0x00, 0x00⟩
    let requests : List (Request 4) :=
      [.insert 0 a, .insert 1 b, .insert 2 a, .remove 1, .insert 3 b, .remove 0, .remove 0]
    a.bucket = b.bucket ∧ Orderly empty requests ∧ held requests = [(2, a), (3, b)] ∧
      ((empty : AddressIndex 4).after requests).Mirrors (held requests) := by
  intro a b requests
  have horderly : Orderly empty requests := by
    simp only [requests, Orderly, Request.Allowed, and_true]
    decide
  exact ⟨by decide, horderly, by decide, mirrors_held requests horderly⟩

end BeaconGateway.AddressIndex
