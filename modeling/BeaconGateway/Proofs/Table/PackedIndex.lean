import BeaconGateway.Proofs.Table.Buckets
import BeaconGateway.Proofs.Table.PackedLinks
import BeaconGateway.Table.PackedIndex

/-!
# The address index in words is the address index

`AddressIndex.pack` writes an index into words. As long as there are fewer than 65535 slots, each
operation does with the words what it does with the links, and no access misses (`insert?_pack`,
`Holds.find?_pack`, `Holds.remove?_pack`). The two loops along a bucket count no steps. That they
end is what `Holds.find?_ends` and `Holds.remove_ends` say of the links, and a loop along packed
links ends where the one along the links does (`Links.Seeks.seek?_pack`).

So an index in words serves any requests in which no slot is linked twice, and afterwards it tells
of the slots that are linked what a list of them tells.

## Main definitions

* `AddressIndex.pack` — an index in words;
* `PackedIndex.after?` — an index in words after a sequence of requests;
* `PackedIndex.Tells` — what an index in words tells of a list of entries.

## Main results

* `AddressIndex.Holds.after?_pack` — a sequence of requests;
* `PackedIndex.tells_held` — what an index in words tells after any requests.
-/

namespace BeaconGateway

open PackedLinks (nowhere ofLink toSlot)

variable {n : Nat} {slot : Fin n}

namespace AddressIndex

variable {t : AddressIndex n} {entries : List (Fin n × Address)}

/-- An index in words. -/
def pack (t : AddressIndex n) : PackedIndex n where
  heads := t.heads.map ofLink
  tails := t.tails.map ofLink
  next := Links.pack t.next
  linked := t.linked
  keys := t.keys
  size := t.size

theorem pack_empty : (empty : AddressIndex n).pack = .empty := by
  have hends : (Slots.fill none : Slots bucketCount (Option (Fin n))).map ofLink =
      Slots.fill nowhere := Vector.map_replicate
  have hnext : Links.pack (Links.empty : Links n) = .empty := Links.pack_empty
  rw [pack, PackedIndex.empty, ← hends, ← hnext]
  rfl

/-! ### Ends of buckets -/

/-- The end of a bucket as a word. -/
theorem get_map_ofLink (ends : Slots bucketCount (Option (Fin n))) (b : Fin bucketCount) :
    (ends.map ofLink).get b = ofLink (ends.get b) :=
  Vector.getElem_map ofLink b.isLt

theorem map_ofLink_put (ends : Slots bucketCount (Option (Fin n))) (b : Fin bucketCount)
    (link : Option (Fin n)) :
    (ends.put b link).map ofLink = Slots.put (ends.map ofLink) b (ofLink link) :=
  Vector.map_set

/-- A bucket gets a new head where nothing comes before it. -/
theorem map_ofLink_put_head (hn : n < 65535) (ends : Slots bucketCount (Option (Fin n)))
    (b : Fin bucketCount) (before link : Option (Fin n)) :
    (if ofLink before = nowhere then Slots.put (ends.map ofLink) b (ofLink link)
      else ends.map ofLink) =
      (if before.isNone then ends.put b link else ends).map ofLink := by
  rw [PackedLinks.if_ofLink_eq_nowhere hn, apply_ite (Vector.map ofLink), map_ofLink_put]

/-- A bucket gets a new tail where a slot was its tail. -/
theorem map_ofLink_put_tail (hn : n < 65535) (ends : Slots bucketCount (Option (Fin n)))
    (b : Fin bucketCount) (slot : Fin n) (link : Option (Fin n)) :
    (if (ends.map ofLink).get b = toSlot slot then Slots.put (ends.map ofLink) b (ofLink link)
      else ends.map ofLink) =
      (if ends.get b = some slot then ends.put b link else ends).map ofLink := by
  rw [get_map_ofLink, apply_ite (Vector.map ofLink), map_ofLink_put]
  simp only [PackedLinks.ofLink_eq_toSlot_iff hn]

/-! ### Operations -/

theorem contains?_pack (t : AddressIndex n) (slot : Fin n) :
    t.pack.contains? slot = some (t.contains slot) :=
  Slots.read?_val t.linked slot

/-- **Linking a slot**, in words. -/
theorem insert?_pack (hn : n < 65535) (hfree : t.contains slot = false) (a : Address) :
    t.pack.insert? slot a = some (t.insert slot a).pack := by
  have hlinked : Slots.read? t.pack.linked slot = some false :=
    (Slots.read?_val t.linked slot).trans (congrArg some hfree)
  have hkeys : Slots.write? t.pack.keys slot a = some (t.keys.put slot a) :=
    Slots.write?_val t.keys slot a
  have hflags : Slots.write? t.pack.linked slot true = some (t.linked.put slot true) :=
    Slots.write?_val t.linked slot true
  have htail : t.pack.tails.get a.bucket = ofLink (t.tails.get a.bucket) := get_map_ofLink _ _
  have hlast : Slots.write? t.pack.next slot nowhere = some (Links.pack (t.next.put slot none)) :=
    Links.write?_pack t.next slot none
  have hnext : PackedLinks.relink? (Links.pack (t.next.put slot none))
      (ofLink (t.tails.get a.bucket)) (toSlot slot) =
      some (Links.pack (Links.relink (t.next.put slot none) (t.tails.get a.bucket) (some slot))) :=
    Links.relink?_pack hn (t.next.put slot none) (t.tails.get a.bucket) (some slot)
  have hheads : (if ofLink (t.tails.get a.bucket) = nowhere
        then t.pack.heads.put a.bucket (toSlot slot) else t.pack.heads) =
      Vector.map ofLink (if (t.tails.get a.bucket).isNone
        then t.heads.put a.bucket (some slot) else t.heads) :=
    map_ofLink_put_head hn t.heads a.bucket (t.tails.get a.bucket) (some slot)
  have htails : t.pack.tails.put a.bucket (toSlot slot) =
      Vector.map ofLink (t.tails.put a.bucket (some slot)) :=
    (map_ofLink_put t.tails a.bucket (some slot)).symm
  simp only [PackedIndex.insert?, hlinked, hkeys, hflags, htail, hlast, hnext, hheads, htails,
    Option.bind_eq_bind, Option.bind_some]
  rfl

namespace Holds

/-- **Looking for an address**, in words. -/
theorem find?_pack (hn : n < 65535) (h : t.Holds entries) (a : Address) :
    t.pack.find? a = some ((t.find? a).map Fin.val) := by
  -- the loop compares keys, which the index has beside the words of the links
  let stop? (link : UInt16) : Option Bool :=
    (Slots.read? t.pack.keys link.toNat).map fun key ↦ key == a
  obtain ⟨previous, hends⟩ := h.find?_ends a
  have hstop (slot : Fin n) : stop? (toSlot slot) = some (decide (t.keys.get slot = a)) := by
    show ((Slots.read? t.keys (toSlot slot).toNat).map fun key ↦ key == a) = _
    rw [PackedLinks.toNat_toSlot hn, Slots.read?_val]
    rfl
  have hseek : t.pack.next.seek? stop? nowhere (t.pack.heads.get a.bucket) =
      some (ofLink previous, ofLink (t.find? a)) := by
    have hhead : t.pack.heads.get a.bucket = ofLink (t.heads.get a.bucket) := get_map_ofLink _ _
    rw [hhead]
    exact hends.seek?_pack hn hstop
  rw [PackedIndex.find?]
  simp only [stop?] at hseek
  simp only [hseek, Option.bind_eq_bind, Option.bind_some, Option.pure_def,
    PackedLinks.slotAt?_ofLink hn]

theorem remove?_pack_of_not_mem (h : t.Holds entries) (hslot : slot ∉ entries.map Prod.fst) :
    t.pack.remove? slot = some (false, t.pack) := by
  have hflag : t.linked.get slot = false := by
    rw [← Bool.not_eq_true, h.linked]
    exact hslot
  have hlinked : Slots.read? t.pack.linked slot = some false :=
    (Slots.read?_val t.linked slot).trans (congrArg some hflag)
  simp only [PackedIndex.remove?, hlinked, Option.bind_eq_bind, Option.bind_some]
  rfl

theorem remove?_pack_of_mem (hn : n < 65535) (h : t.Holds entries) {e : Fin n × Address}
    (he : e ∈ entries) :
    t.pack.remove? e.1 = some (true, (t.remove e.1).2.pack) := by
  obtain ⟨previous, hbefore, hends⟩ := h.remove_ends he
  have hflag : t.linked.get e.1 = true := (h.linked _).2 (List.mem_map_of_mem he)
  have hsize : ¬ t.pack.size = 0 := by
    show ¬ t.size = 0
    rw [h.size]
    exact Nat.ne_of_gt (List.length_pos_of_mem he)
  -- the bucket is named, so that the walk along it does not mention the key that leads there
  obtain ⟨b, hb⟩ : ∃ b, (t.keys.get e.1).bucket = b := ⟨_, rfl⟩
  rw [hb] at hbefore hends
  have hlinked : Slots.read? t.pack.linked e.1 = some true :=
    (Slots.read?_val t.linked e.1).trans (congrArg some hflag)
  have hkey : Slots.read? t.pack.keys e.1 = some (t.keys.get e.1) := Slots.read?_val t.keys e.1
  have hflags : Slots.write? t.pack.linked e.1 false = some (t.linked.put e.1 false) :=
    Slots.write?_val t.linked e.1 false
  have hseek : t.pack.next.seek? (fun link ↦ some (link == toSlot e.1)) nowhere
      (t.pack.heads.get b) = some (ofLink previous, toSlot e.1) := by
    have hhead : t.pack.heads.get b = ofLink (t.heads.get b) := get_map_ofLink _ _
    rw [hhead]
    refine hends.seek?_pack hn fun slot ↦ congrArg some (Bool.eq_iff_iff.2 ?_)
    rw [beq_iff_eq, decide_eq_true_iff, PackedLinks.toSlot_inj hn]
  have hafter : Slots.read? t.pack.next e.1 = some (ofLink (t.next.get e.1)) :=
    Links.read?_pack t.next e.1
  have hrelinked : PackedLinks.relink? t.pack.next (ofLink previous) (ofLink (t.next.get e.1)) =
      some (Links.pack (t.next.relink previous (t.next.get e.1))) :=
    Links.relink?_pack hn t.next previous (t.next.get e.1)
  have hnext : Slots.write? (Links.pack (t.next.relink previous (t.next.get e.1))) e.1 nowhere =
      some (Links.pack (Slots.put (t.next.relink previous (t.next.get e.1)) e.1 none)) :=
    Links.write?_pack (t.next.relink previous (t.next.get e.1)) e.1 none
  have hheads : (if ofLink previous = nowhere
        then t.pack.heads.put b (ofLink (t.next.get e.1)) else t.pack.heads) =
      Vector.map ofLink (if previous.isNone then t.heads.put b (t.next.get e.1) else t.heads) :=
    map_ofLink_put_head hn t.heads b previous (t.next.get e.1)
  have htails : (if t.pack.tails.get b = toSlot e.1
        then t.pack.tails.put b (ofLink previous) else t.pack.tails) =
      Vector.map ofLink (if t.tails.get b = some e.1 then t.tails.put b previous else t.tails) :=
    map_ofLink_put_tail hn t.tails b e.1 previous
  simp only [PackedIndex.remove?, hlinked, hkey, hb, hseek, hflags, hafter, hrelinked, hnext,
    hheads, htails, hsize, PackedLinks.toSlot_ne_nowhere hn, AddressIndex.remove, hflag, hbefore,
    Option.bind_eq_bind, Option.bind_some, if_true, if_false]
  rfl

/-- **Unlinking a slot**, in words. -/
theorem remove?_pack (hn : n < 65535) (h : t.Holds entries) (slot : Fin n) :
    t.pack.remove? slot = some ((t.remove slot).1, (t.remove slot).2.pack) := by
  by_cases hslot : slot ∈ entries.map Prod.fst
  · obtain ⟨e, he, rfl⟩ := List.mem_map.1 hslot
    rw [h.remove?_pack_of_mem hn he, (h.remove_of_mem (a := e.2) he).1]
  · rw [h.remove?_pack_of_not_mem hslot, h.remove_of_not_mem hslot]

end Holds

end AddressIndex

/-! ### Requests -/

open AddressIndex (Request held)

namespace PackedIndex

/-- An index in words after a request, `none` if one of the accesses misses. -/
def serve? (t : PackedIndex n) : Request n → Option (PackedIndex n)
  | .insert slot a => t.insert? slot a
  | .remove slot => (t.remove? slot).map Prod.snd

/-- An index in words after a sequence of requests. -/
def after? (t : PackedIndex n) (requests : List (Request n)) : Option (PackedIndex n) :=
  requests.foldlM serve? t

end PackedIndex

namespace AddressIndex.Holds

variable {t : AddressIndex n} {entries : List (Fin n × Address)}

/-- **One request**: an index in words does what the index does. -/
theorem serve?_pack (hn : n < 65535) (h : t.Holds entries) {request : Request n}
    (hallowed : request.Allowed t) : t.pack.serve? request = some (t.serve request).pack := by
  cases request with
  | insert slot a => exact insert?_pack hn hallowed a
  | remove slot =>
    rw [PackedIndex.serve?, h.remove?_pack hn]
    rfl

/-- **A sequence of requests**, in words. -/
theorem after?_pack (hn : n < 65535) (h : t.Holds entries) {requests : List (Request n)}
    (horderly : Orderly t requests) : t.pack.after? requests = some (t.after requests).pack := by
  induction requests generalizing t entries with
  | nil => rfl
  | cons request rest ih =>
    rw [PackedIndex.after?, List.foldlM_cons, h.serve?_pack hn horderly.1]
    exact ih (h.serve horderly.1) horderly.2

end AddressIndex.Holds

namespace PackedIndex

/-- **An index in words tells of a list of entries**, each a slot with its address, in the order in
which they were linked. No access misses, and no loop runs on. -/
structure Tells (t : PackedIndex n) (entries : List (Fin n × Address)) : Prop where
  /-- Under an address the slot is found that was linked first, of those that are linked. -/
  find : ∀ a, t.find? a = some ((entries.find? fun e ↦ e.2 = a).map fun e ↦ (e.1 : Nat))
  /-- The flags mark the slots that are linked. -/
  contains : ∀ slot : Fin n, ∃ flag, t.contains? slot = some flag ∧
    (flag = true ↔ slot ∈ entries.map Prod.fst)
  /-- To unlink a slot succeeds exactly if it is linked. -/
  remove : ∀ slot : Fin n, ∃ done after, t.remove? slot = some (done, after) ∧
    (done = true ↔ slot ∈ entries.map Prod.fst)
  /-- The size counts the slots that are linked. -/
  size : t.size = entries.length

theorem tells_pack (hn : n < 65535) {t : AddressIndex n} {entries : List (Fin n × Address)}
    (h : t.Holds entries) : t.pack.Tells entries where
  find a := by
    rw [h.find?_pack hn, h.find?_eq, Option.map_map]
    rfl
  contains slot := ⟨_, t.contains?_pack slot, h.linked slot⟩
  remove slot := ⟨_, _, h.remove?_pack hn slot, h.remove_fst_iff⟩
  size := h.size

/-- **An index in words tells of the slots that are linked**, whatever it was asked to do since it
was empty, as long as no slot is linked twice: each request is carried out, and after them every
question has the answer that the list of entries gives. -/
theorem tells_held (hn : n < 65535) (requests : List (Request n))
    (horderly : AddressIndex.Orderly .empty requests) :
    ∃ t : PackedIndex n, (empty : PackedIndex n).after? requests = some t ∧
      t.Tells (held requests) := by
  refine ⟨_, ?_, tells_pack hn (AddressIndex.holds_empty.after horderly)⟩
  rw [← AddressIndex.pack_empty, AddressIndex.holds_empty.after?_pack hn horderly]

end PackedIndex

end BeaconGateway
