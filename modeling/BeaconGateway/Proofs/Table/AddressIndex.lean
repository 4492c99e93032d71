import BeaconGateway.Proofs.Table.Chain
import BeaconGateway.Table.AddressIndex

/-!
# The address index is a list of entries

`AddressIndex.Holds t entries` says that the index holds a list of entries, each a slot with its
address, in the order in which they were linked. The slots are distinct; the addresses need not be.
A bucket holds the slots whose address falls into it, in the same order (`slotsIn`), so there is one
list for the whole index and 101 chains that share one array of links.

Each operation is read as an operation on the entries:

* `insert` appends an entry (`Holds.insert`);
* `remove` takes the entry of a slot out, and the answer says whether there was one
  (`Holds.remove_of_mem`, `Holds.remove_of_not_mem`). In particular a slot whose flag is set is
  always found in its bucket;
* `find?` gives the slot of the first entry under an address (`Holds.find?_eq`).

An edit touches one bucket. That the others stay as they are rests on two facts: a slot is linked
once, so it lies in one bucket only (`not_mem_slotsIn`), and a chain is not changed by a write to
a slot outside of it.
-/

namespace BeaconGateway.AddressIndex

variable {n : Nat} {t : AddressIndex n} {slot : Fin n} {a : Address} {b : Fin bucketCount}
variable {entries : List (Fin n × Address)}

/-! ### Entries by bucket -/

/-- The slots of those entries whose address falls into a bucket. -/
def slotsIn (entries : List (Fin n × Address)) (b : Fin bucketCount) : List (Fin n) :=
  (entries.filter fun e ↦ e.2.bucket = b).map Prod.fst

/-- The entries of the other slots. -/
def without (entries : List (Fin n × Address)) (slot : Fin n) : List (Fin n × Address) :=
  entries.filter fun e ↦ e.1 ≠ slot

/-- A bucket holds the slots that have an entry in it. -/
theorem mem_slotsIn : slot ∈ slotsIn entries b ↔ ∃ a, (slot, a) ∈ entries ∧ a.bucket = b := by
  simp [slotsIn]

/-- A new entry comes last in its own bucket. -/
theorem slotsIn_append_self (entries : List (Fin n × Address)) (slot : Fin n) (a : Address) :
    slotsIn (entries ++ [(slot, a)]) a.bucket = slotsIn entries a.bucket ++ [slot] := by
  simp [slotsIn]

/-- A new entry does not show in any other bucket. -/
theorem slotsIn_append_of_ne (entries : List (Fin n × Address)) (slot : Fin n)
    (h : a.bucket ≠ b) : slotsIn (entries ++ [(slot, a)]) b = slotsIn entries b := by
  simp [slotsIn, h]

/-- No slot stands twice in a bucket. -/
theorem nodup_slotsIn (h : (entries.map Prod.fst).Nodup) (b : Fin bucketCount) :
    (slotsIn entries b).Nodup :=
  h.sublist (List.filter_sublist.map Prod.fst)

/-- A slot has one entry. -/
theorem eq_of_mem {a' : Address} (h : (entries.map Prod.fst).Nodup) (ha : (slot, a) ∈ entries)
    (ha' : (slot, a') ∈ entries) : a = a' :=
  congrArg Prod.snd (List.inj_on_of_nodup_map h ha ha' rfl)

/-- **A slot lies in the bucket of its address only.** -/
theorem not_mem_slotsIn (h : (entries.map Prod.fst).Nodup) (ha : (slot, a) ∈ entries)
    (hb : a.bucket ≠ b) : slot ∉ slotsIn entries b := by
  rw [mem_slotsIn]
  rintro ⟨a', ha', rfl⟩
  exact hb (congrArg Address.bucket (eq_of_mem h ha ha'))

/-- To take out the entry of a slot is to take the slot out of its bucket. -/
theorem slotsIn_without (h : (entries.map Prod.fst).Nodup) (slot : Fin n) (b : Fin bucketCount) :
    slotsIn (without entries slot) b = (slotsIn entries b).erase slot := by
  rw [(nodup_slotsIn h b).erase_eq_filter, slotsIn, slotsIn, without, List.filter_map,
    List.filter_filter, List.filter_filter]
  congr 2
  funext e
  by_cases he : e.1 = slot <;> simp [he]

/-- The other slots stay linked, in the same order. -/
theorem map_fst_without (h : (entries.map Prod.fst).Nodup) (slot : Fin n) :
    (without entries slot).map Prod.fst = (entries.map Prod.fst).erase slot := by
  rw [h.erase_eq_filter, without, List.filter_map]
  congr 2
  funext e
  by_cases he : e.1 = slot <;> simp [he]

/-- Walking a bucket for a slot finds what stands before it. -/
theorem before?_append {xs ys : List (Fin n)} (hslot : slot ∉ xs) (previous : Option (Fin n)) :
    before? slot previous (xs ++ slot :: ys) = some (xs.getLast?.or previous) := by
  induction xs generalizing previous with
  | nil => simp [before?]
  | cons x xs ih =>
    rw [List.mem_cons, not_or] at hslot
    rw [List.cons_append, before?, if_neg (Ne.symm hslot.1), ih hslot.2, Links.getLast?_cons_or]

/-! ### The index -/

/-- The index holds a list of entries, the one that was linked first in front. -/
structure Holds (t : AddressIndex n) (entries : List (Fin n × Address)) : Prop where
  /-- No slot is linked twice. -/
  nodup : (entries.map Prod.fst).Nodup
  /-- The links lead through each bucket. -/
  chain : ∀ b, t.next.Chain (slotsIn entries b)
  /-- The heads are the first slots of the buckets. -/
  heads : ∀ b, t.heads.get b = (slotsIn entries b).head?
  /-- The tails are the last slots of the buckets. -/
  tails : ∀ b, t.tails.get b = (slotsIn entries b).getLast?
  /-- The flags mark the slots that are held. -/
  linked : ∀ slot, t.linked.get slot = true ↔ slot ∈ entries.map Prod.fst
  /-- The index keeps the address of each slot that is held. -/
  keys : ∀ e ∈ entries, t.keys.get e.1 = e.2
  /-- The size counts the entries. -/
  size : t.size = entries.length

/-- A new index has no entries. -/
theorem holds_empty : (empty : AddressIndex n).Holds [] where
  nodup := List.nodup_nil
  chain _ := Links.Chain.nil
  heads b := by simp [empty, slotsIn]
  tails b := by simp [empty, slotsIn]
  linked slot := by simp [empty]
  keys _ h := by simp at h
  size := rfl

namespace Holds

/-- The flag of a slot says whether it has an entry. -/
theorem contains_iff (h : t.Holds entries) :
    t.contains slot = true ↔ ∃ a, (slot, a) ∈ entries := by
  rw [contains, h.linked]
  simp

/-- Following the links of a bucket gives its slots. -/
theorem bucketSlots_eq (h : t.Holds entries) (b : Fin bucketCount) :
    t.bucketSlots b = slotsIn entries b := by
  rw [bucketSlots, h.heads]
  exact (h.chain b).chain_eq (nodup_slotsIn h.nodup b)

/-! ### Find -/

/-- **The index finds the slot that was linked first under an address.** -/
theorem find?_eq (h : t.Holds entries) (a : Address) :
    t.find? a = (entries.find? fun e ↦ e.2 = a).map Prod.fst := by
  rw [AddressIndex.find?, h.bucketSlots_eq, slotsIn, List.find?_map, List.find?_filter,
    ← List.head?_filter, ← List.head?_filter]
  congr 2
  refine List.filter_congr fun e he ↦ ?_
  -- an entry under the address lies in its bucket, so the restriction to the bucket loses nothing
  rw [Function.comp_apply, h.keys e he]
  by_cases ha : e.2 = a <;> simp [ha]

/-- Nothing is found exactly for an address without entries. -/
theorem find?_eq_none_iff (h : t.Holds entries) :
    t.find? a = none ↔ ∀ slot, (slot, a) ∉ entries := by
  rw [h.find?_eq, Option.map_eq_none_iff, List.find?_eq_none]
  constructor
  · intro hnone slot hmem
    simpa using hnone _ hmem
  · rintro hnone ⟨slot, a'⟩ hmem
    rw [decide_eq_true_eq]
    rintro rfl
    exact hnone slot hmem

/-- What is found has an entry under the address. -/
theorem mem_of_find?_eq_some (h : t.Holds entries) (hfind : t.find? a = some slot) :
    (slot, a) ∈ entries := by
  rw [h.find?_eq, Option.map_eq_some_iff] at hfind
  obtain ⟨⟨s, a'⟩, hentry, rfl⟩ := hfind
  have ha' : a' = a := by simpa using List.find?_some hentry
  exact ha' ▸ List.mem_of_find?_eq_some hentry

/-! ### Insert -/

/-- **Linking a slot appends an entry.** -/
theorem insert (h : t.Holds entries) (hslot : slot ∉ entries.map Prod.fst) (a : Address) :
    (t.insert slot a).Holds (entries ++ [(slot, a)]) := by
  have hbucket : ∀ b, slot ∉ slotsIn entries b := by
    intro b hmem
    obtain ⟨a', ha', -⟩ := mem_slotsIn.1 hmem
    exact hslot (List.mem_map_of_mem ha')
  have hlinks : (t.insert slot a).next =
      Links.relink (t.next.put slot none) (t.tails.get a.bucket) (some slot) := rfl
  constructor
  case nodup =>
    rw [List.map_append]
    exact h.nodup.append (List.nodup_singleton slot) (by simpa using hslot)
  case chain =>
    intro b
    rw [hlinks, h.tails]
    by_cases hb : a.bucket = b
    · subst hb
      rw [slotsIn_append_self]
      exact (h.chain _).append (nodup_slotsIn h.nodup _) (hbucket _)
    · rw [slotsIn_append_of_ne _ _ hb]
      -- both writes go to slots outside of this bucket: the new slot, and the last of another one
      refine ((h.chain b).put (hbucket b) none).relink (fun last hlast ↦ ?_) _
      obtain ⟨a', ha', hlastb⟩ := mem_slotsIn.1 (List.mem_of_getLast? hlast)
      exact not_mem_slotsIn h.nodup ha' (hlastb ▸ hb)
  case heads =>
    intro b
    simp only [AddressIndex.insert, h.tails]
    by_cases hb : a.bucket = b
    · subst hb
      rw [slotsIn_append_self]
      cases hs : slotsIn entries a.bucket <;> simp [h.heads, hs]
    · rw [slotsIn_append_of_ne _ _ hb]
      split <;> simp [Slots.get_put_of_ne _ hb, h.heads]
  case tails =>
    intro b
    simp only [AddressIndex.insert]
    by_cases hb : a.bucket = b
    · subst hb
      simp [slotsIn_append_self]
    · rw [slotsIn_append_of_ne _ _ hb, Slots.get_put_of_ne _ hb, h.tails]
  case linked =>
    intro other
    simp only [AddressIndex.insert, Slots.get_put, List.map_append, List.mem_append]
    rw [← h.linked other]
    by_cases hother : slot = other
    · simp [hother]
    · simp [hother, Ne.symm hother]
  case keys =>
    intro e he
    simp only [AddressIndex.insert]
    rcases List.mem_append.1 he with he | he
    · have hne : slot ≠ e.1 := fun heq ↦ hslot (heq ▸ List.mem_map_of_mem he)
      rw [Slots.get_put_of_ne _ hne, h.keys e he]
    · rw [List.mem_singleton.1 he, Slots.get_put_self]
  case size => simp [AddressIndex.insert, h.size]

/-! ### Remove -/

/-- A slot without an entry cannot be taken out, and nothing changes. -/
theorem remove_of_not_mem (h : t.Holds entries) (hslot : slot ∉ entries.map Prod.fst) :
    t.remove slot = (false, t) := by
  rw [AddressIndex.remove, if_neg fun hlinked ↦ hslot ((h.linked slot).1 hlinked)]

/-- What unlinking a slot writes, where its bucket has the slots `xs` before it and `ys` after
it. -/
theorem remove_eq {xs ys : List (Fin n)} (h : t.Holds entries) (hslot : (slot, a) ∈ entries)
    (hsplit : slotsIn entries a.bucket = xs ++ slot :: ys) :
    t.remove slot = (true,
      { t with
        heads := if xs.getLast?.isNone then t.heads.put a.bucket ys.head? else t.heads
        tails := if t.tails.get a.bucket = some slot then t.tails.put a.bucket xs.getLast?
          else t.tails
        next := Slots.put (t.next.relink xs.getLast? ys.head?) slot none
        linked := t.linked.put slot false
        size := t.size - 1 }) := by
  have hkey : t.keys.get slot = a := h.keys _ hslot
  have hlinked : t.linked.get slot = true := (h.linked slot).2 (List.mem_map_of_mem hslot)
  have hnodup : (xs ++ slot :: ys).Nodup := hsplit ▸ nodup_slotsIn h.nodup a.bucket
  have hchain : t.next.Chain (xs ++ slot :: ys) := hsplit ▸ h.chain a.bucket
  have hbefore : before? slot none (xs ++ slot :: ys) = some xs.getLast? := by
    rw [before?_append (Links.not_mem_of_append_cons hnodup).1, Option.or_none]
  simp only [AddressIndex.remove, hlinked, if_true, hkey, h.bucketSlots_eq, hsplit, hbefore,
    hchain.get_eq]
  rfl

/-- **Unlinking a slot takes its entry out.** -/
theorem remove_of_mem (h : t.Holds entries) (hslot : (slot, a) ∈ entries) :
    (t.remove slot).1 = true ∧ (t.remove slot).2.Holds (without entries slot) := by
  obtain ⟨xs, ys, hsplit⟩ := List.append_of_mem (mem_slotsIn.2 ⟨a, hslot, rfl⟩)
  have hnodup : (xs ++ slot :: ys).Nodup := hsplit ▸ nodup_slotsIn h.nodup a.bucket
  have hchain : t.next.Chain (xs ++ slot :: ys) := hsplit ▸ h.chain a.bucket
  have hrest : slot ∉ xs ++ ys := by
    rw [List.mem_append, not_or]
    exact Links.not_mem_of_append_cons hnodup
  -- what is left of the bucket of the slot, and of the others
  have hself : slotsIn (without entries slot) a.bucket = xs ++ ys := by
    rw [slotsIn_without h.nodup, hsplit, Links.erase_append_cons hnodup]
  have hother : ∀ b, a.bucket ≠ b → slotsIn (without entries slot) b = slotsIn entries b := by
    intro b hb
    rw [slotsIn_without h.nodup, List.erase_of_not_mem (not_mem_slotsIn h.nodup hslot hb)]
  rw [h.remove_eq hslot hsplit]
  refine ⟨rfl, ?_⟩
  constructor
  case nodup => exact h.nodup.sublist (List.filter_sublist.map Prod.fst)
  case chain =>
    intro b
    by_cases hb : a.bucket = b
    · subst hb
      rw [hself]
      exact (hchain.bypass hnodup).put hrest none
    · rw [hother b hb]
      -- the slot that is relinked lies in the bucket of the one taken out, so not in this one
      refine ((h.chain b).relink (fun last hlast ↦ ?_) _).put ?_ none
      · have hmem : last ∈ slotsIn entries a.bucket :=
          hsplit ▸ List.mem_append_left _ (List.mem_of_getLast? hlast)
        obtain ⟨a', ha', hlastb⟩ := mem_slotsIn.1 hmem
        exact not_mem_slotsIn h.nodup ha' (hlastb ▸ hb)
      · exact not_mem_slotsIn h.nodup hslot hb
  case heads =>
    intro b
    by_cases hb : a.bucket = b
    · subst hb
      rw [hself]
      cases xs <;> simp [h.heads, hsplit]
    · rw [hother b hb]
      cases xs <;> simp [Slots.get_put_of_ne _ hb, h.heads]
  case tails =>
    intro b
    by_cases hb : a.bucket = b
    · subst hb
      rw [hself]
      cases ys with
      | nil => simp [h.tails, hsplit]
      | cons y ys =>
        -- another slot is the last one, and it stays the last one
        obtain ⟨last, hlast⟩ : ∃ last, (y :: ys).getLast? = some last :=
          ⟨_, List.getLast?_eq_some_getLast (List.cons_ne_nil y ys)⟩
        have hne : last ≠ slot := by
          rintro rfl
          exact hrest (List.mem_append_right _ (List.mem_of_getLast? hlast))
        simp [h.tails, hsplit, hlast, hne]
    · rw [hother b hb, ← h.tails b]
      dsimp only
      split
      · exact Slots.get_put_of_ne _ hb _
      · rfl
  case linked =>
    intro other
    rw [Slots.get_put, map_fst_without h.nodup, h.nodup.mem_erase_iff, ← h.linked other]
    by_cases hother : slot = other
    · simp [hother]
    · simp [hother, Ne.symm hother]
  case keys =>
    exact fun e he ↦ h.keys e (List.mem_of_mem_filter he)
  case size =>
    have hlength := congrArg List.length (map_fst_without h.nodup slot)
    rw [List.length_erase_of_mem (List.mem_map_of_mem hslot), List.length_map,
      List.length_map] at hlength
    exact (congrArg (· - 1) h.size).trans hlength.symm

end Holds

end BeaconGateway.AddressIndex
