import BeaconGateway.Proofs.Table.AddressIndex
import BeaconGateway.Proofs.Table.Latest
import BeaconGateway.Proofs.Table.PendingQueue
import BeaconGateway.Proofs.Table.Recency
import BeaconGateway.Table.Basic

/-!
# How the slots of a table are used

The invariant of the report table. In the order of recency the slots fall into three runs, one
after the other (`Layout`):

* the **pending** ones, whose report has not been drained since it was put;
* the **settled** ones, whose report has been drained and is kept for look-ups;
* the **free** ones, which have never held a report.

No operation of the table says so. It follows because a put moves its slot to the front of the
order and makes it pending at once, and because a drain makes all pending slots settled at once.

`ReportTable.Holds t L` ties the four parts of a table to a layout. Besides the order it keeps the
order of the queue, which is the order of the *first* put since the last drain, where the order of
recency is that of the last one; both list the same slots.

## Main results

* `Holds.put` — a put keeps the invariant and does one of four things (`Placement`), which depend
  on whether the device is known and on which of the runs are empty;
* `Holds.put_touches` — so it touches the one slot that takes the report, or changes nothing;
* `Holds.drain` — a drain answers with the reports in the order of the queue and makes every
  pending slot settled;
* `holds_new` — a new table has free slots only.
-/

namespace BeaconGateway

variable {n : Nat}

/-- How the slots of a table are used. -/
structure Layout (n : Nat) where
  /-- The slots whose report waits to be drained, by recency. -/
  pending : List (Fin n)
  /-- The slots whose report has been drained, by recency. -/
  settled : List (Fin n)
  /-- The slots that have never held a report. -/
  free : List (Fin n)
  /-- The pending slots, in the order in which they came to wait. -/
  queue : List (Fin n)

namespace Layout

variable {L : Layout n} {slot : Fin n}

/-- The slots that hold a report, by recency. -/
def held (L : Layout n) : List (Fin n) :=
  L.pending ++ L.settled

/-- All slots, by recency. -/
def order (L : Layout n) : List (Fin n) :=
  L.held ++ L.free

/-- The layout after a report has been put into a slot. -/
def touch (L : Layout n) (slot : Fin n) : Layout n where
  pending := slot :: L.pending.erase slot
  settled := L.settled.erase slot
  free := L.free.erase slot
  queue := if slot ∈ L.queue then L.queue else L.queue ++ [slot]

/-- The layout after a drain. -/
def drained (L : Layout n) : Layout n where
  pending := []
  settled := L.held
  free := L.free
  queue := []

/-- A slot is in one of two runs at most, so erasing it from both erases it. -/
theorem erase_append {xs ys : List (Fin n)} (h : (xs ++ ys).Nodup) (slot : Fin n) :
    (xs ++ ys).erase slot = xs.erase slot ++ ys.erase slot := by
  have hxs := (List.nodup_append.1 h).1
  have hys := (List.nodup_append.1 h).2.1
  rw [h.erase_eq_filter, hxs.erase_eq_filter, hys.erase_eq_filter, List.filter_append]

/-- No slot holds two reports. -/
theorem nodup_held (h : L.order.Nodup) : L.held.Nodup :=
  (List.nodup_append.1 h).1

/-- The touched slot comes first among those that hold a report. -/
theorem held_touch (h : L.order.Nodup) (slot : Fin n) :
    (L.touch slot).held = slot :: L.held.erase slot := by
  rw [held, touch, List.cons_append, held, erase_append (nodup_held h)]

/-- A touch moves a slot to the front of the order. -/
theorem order_touch (h : L.order.Nodup) (slot : Fin n) :
    (L.touch slot).order = slot :: L.order.erase slot := by
  rw [order, held_touch h, order, erase_append h]
  rfl

end Layout

namespace ReportTable

variable {t : ReportTable n} {L : Layout n} {slot : Fin n} {a : Address} {r : Report}

/-- The device whose report a slot holds. -/
def addressAt (t : ReportTable n) (slot : Fin n) : Address :=
  (t.records.get slot).address

/-- Give a slot away: unlink it, link it under the device of a report, and put the report there. -/
def replace (t : ReportTable n) (slot : Fin n) (r : Report) : ReportTable n :=
  { t with index := (t.index.remove slot).2.insert slot r.address }.store slot r

/-- The parts of a table agree on how its slots are used. -/
structure Holds (t : ReportTable n) (L : Layout n) : Prop where
  /-- The order of recency goes through the pending slots, the settled ones and the free ones. -/
  recency : t.recency.Orders L.order
  /-- The queue holds the slots that wait. -/
  queue : t.queue.Holds L.queue
  /-- The slots that wait are the pending ones. -/
  pending : L.pending.Perm L.queue
  /-- The index holds the slots that hold a report, under the device of that report. -/
  index : ∃ entries, t.index.Holds entries ∧
    ∀ slot a, (slot, a) ∈ entries ↔ slot ∈ L.held ∧ t.addressAt slot = a
  /-- No device has two slots. -/
  distinct : (L.held.map t.addressAt).Nodup
  /-- A free slot is as it was at first. -/
  blank : ∀ slot ∈ L.free, t.records.get slot = .blank

/-! ### A new table -/

/-- **A new table has free slots only.** -/
theorem holds_new : (new : ReportTable n).Holds ⟨[], [], List.finRange n, []⟩ where
  recency := Recency.orders_new
  queue := PendingQueue.holds_empty
  pending := List.Perm.refl _
  index := ⟨[], AddressIndex.holds_empty, by simp [Layout.held]⟩
  distinct := List.nodup_nil
  blank slot _ := by simp [new]

namespace Holds

/-! ### Reading -/

/-- Every slot has one place in the order of recency. -/
theorem nodup_order (h : t.Holds L) : L.order.Nodup :=
  h.recency.nodup

/-- No slot holds two reports. -/
theorem nodup_held (h : t.Holds L) : L.held.Nodup :=
  Layout.nodup_held h.nodup_order

/-- All slots are in the order. -/
theorem length_order (h : t.Holds L) : L.order.length = n := by
  have hperm : L.order.Perm (List.finRange n) :=
    (List.perm_ext_iff_of_nodup h.nodup_order (List.nodup_finRange n)).2 fun slot ↦
      ⟨fun _ ↦ List.mem_finRange slot, fun _ ↦ h.recency.complete slot⟩
  rw [hperm.length_eq, List.length_finRange]

/-- A device has one slot. -/
theorem eq_of_addressAt_eq (h : t.Holds L) {other : Fin n} (hslot : slot ∈ L.held)
    (hother : other ∈ L.held) (haddress : t.addressAt slot = t.addressAt other) : slot = other :=
  List.inj_on_of_nodup_map h.distinct hslot hother haddress

/-- The index tells which slots hold a report. -/
theorem contains_iff (h : t.Holds L) : t.index.contains slot = true ↔ slot ∈ L.held := by
  obtain ⟨entries, hindex, hentries⟩ := h.index
  rw [hindex.contains_iff]
  simp [hentries]

/-- **A look-up finds the slot of a device**, if it has one. -/
theorem find?_eq_some_iff (h : t.Holds L) :
    t.index.find? a = some slot ↔ slot ∈ L.held ∧ t.addressAt slot = a := by
  obtain ⟨entries, hindex, hentries⟩ := h.index
  constructor
  · intro hfind
    exact (hentries slot a).1 (hindex.mem_of_find?_eq_some hfind)
  · rintro ⟨hslot, ha⟩
    cases hfind : t.index.find? a with
    | none => exact absurd ((hentries slot a).2 ⟨hslot, ha⟩) (hindex.find?_eq_none_iff.1 hfind slot)
    | some other =>
      obtain ⟨hother, ha'⟩ := (hentries other a).1 (hindex.mem_of_find?_eq_some hfind)
      rw [h.eq_of_addressAt_eq hother hslot (ha'.trans ha.symm)]

/-- A look-up finds nothing for a device that is not tracked. -/
theorem find?_eq_none_iff (h : t.Holds L) :
    t.index.find? a = none ↔ ∀ slot ∈ L.held, t.addressAt slot ≠ a := by
  obtain ⟨entries, hindex, hentries⟩ := h.index
  rw [hindex.find?_eq_none_iff]
  simp [hentries]

/-- As many devices are tracked as slots hold a report. -/
theorem tracked_eq (h : t.Holds L) : t.tracked = L.held.length := by
  obtain ⟨entries, hindex, hentries⟩ := h.index
  have hperm : (entries.map Prod.fst).Perm L.held :=
    (List.perm_ext_iff_of_nodup hindex.nodup h.nodup_held).2 fun slot ↦ by simp [hentries]
  rw [tracked, hindex.size, ← hperm.length_eq, List.length_map]

/-- As many reports are pending as slots are queued. -/
theorem pending_eq (h : t.Holds L) : t.pending = L.queue.length :=
  h.queue.size

/-- The queue and the pending run hold the same slots. -/
theorem mem_queue_iff (h : t.Holds L) : slot ∈ L.queue ↔ slot ∈ L.pending :=
  h.pending.mem_iff.symm

/-- What is queued holds a report. -/
theorem mem_held_of_mem_queue (h : t.Holds L) (hslot : slot ∈ L.queue) : slot ∈ L.held :=
  List.mem_append_left _ (h.mem_queue_iff.1 hslot)

/-- A free slot holds no report. -/
theorem not_mem_held_of_mem_free (h : t.Holds L) (hslot : slot ∈ L.free) : slot ∉ L.held :=
  fun hmem ↦ (List.nodup_append.1 h.nodup_order).2.2 slot hmem slot hslot rfl

/-- A free slot is not queued, as only what holds a report is. -/
theorem not_mem_queue_of_mem_free (h : t.Holds L) (hslot : slot ∈ L.free) : slot ∉ L.queue :=
  fun hmem ↦ h.not_mem_held_of_mem_free hslot (h.mem_held_of_mem_queue hmem)

/-- A settled slot is not queued, although it holds a report. -/
theorem not_mem_queue_of_mem_settled (h : t.Holds L) (hslot : slot ∈ L.settled) :
    slot ∉ L.queue := fun hmem ↦
  (List.nodup_append.1 h.nodup_held).2.2 slot (h.mem_queue_iff.1 hmem) slot hslot rfl

/-! ### Putting a report into a slot -/

/-- **Putting a report into a slot touches the slot.** The index that goes with it must hold the
slot under the device of the report, and every other slot as before. -/
theorem store (h : t.Holds L) {index : AddressIndex n} {entries : List (Fin n × Address)}
    (hindex : index.Holds entries)
    (hentries : ∀ other a, (other, a) ∈ entries ↔
      (other = slot ∧ r.address = a) ∨ (other ∈ L.held.erase slot ∧ t.addressAt other = a))
    (hnew : ∀ other ∈ L.held.erase slot, t.addressAt other ≠ r.address) :
    ({ t with index := index }.store slot r).Holds (L.touch slot) := by
  have hself : ({ t with index := index }.store slot r).addressAt slot = r.address :=
    congrArg Report.address (t.records.get_put_self slot r)
  have hother : ∀ {other}, other ≠ slot →
      ({ t with index := index }.store slot r).addressAt other = t.addressAt other := fun hne ↦
    congrArg Report.address (t.records.get_put_of_ne hne.symm r)
  have hne : ∀ {other}, other ∈ L.held.erase slot → other ≠ slot := fun hmem ↦
    (h.nodup_held.mem_erase_iff.1 hmem).1
  constructor
  case recency =>
    rw [Layout.order_touch h.nodup_order]
    exact h.recency.touch slot
  case queue => exact h.queue.push slot
  case pending =>
    rw [Layout.touch]
    split
    case isTrue hmem =>
      exact (List.perm_cons_erase (h.mem_queue_iff.1 hmem)).symm.trans h.pending
    case isFalse hmem =>
      rw [List.erase_of_not_mem (mt h.mem_queue_iff.2 hmem)]
      exact (h.pending.cons slot).trans (List.perm_append_singleton slot L.queue).symm
  case index =>
    -- the entries are given for the slots without the touched one, the layout puts it in front
    refine ⟨entries, hindex, fun other a ↦ ?_⟩
    rw [hentries, Layout.held_touch h.nodup_order, List.mem_cons]
    by_cases hslot : other = slot
    · subst hslot
      simp [hself, h.nodup_held.mem_erase_iff]
    · simp [hother hslot, hslot]
  case distinct =>
    rw [Layout.held_touch h.nodup_order, List.map_cons, hself, List.nodup_cons,
      List.map_congr_left fun other hmem ↦ hother (hne hmem)]
    refine ⟨fun hmem ↦ ?_, h.distinct.sublist (List.erase_sublist.map _)⟩
    obtain ⟨other, hmem, ha⟩ := List.mem_map.1 hmem
    exact hnew other hmem ha
  case blank =>
    intro other hmem
    have hfree := (List.nodup_append.1 h.nodup_order).2.1.mem_erase_iff.1 hmem
    exact (t.records.get_put_of_ne hfree.1.symm r).trans (h.blank other hfree.2)

/-- A report of a known device goes into the slot of the device. -/
theorem update (h : t.Holds L) (hslot : slot ∈ L.held) (ha : t.addressAt slot = r.address) :
    (t.store slot r).Holds (L.touch slot) := by
  obtain ⟨entries, hindex, hentries⟩ := h.index
  refine h.store hindex (fun other a ↦ ?_) fun other hmem heq ↦ ?_
  · rw [hentries, h.nodup_held.mem_erase_iff]
    by_cases hother : other = slot
    · subst hother
      simp [hslot, ha]
    · simp [hother]
  · obtain ⟨hne, hother⟩ := h.nodup_held.mem_erase_iff.1 hmem
    exact hne (h.eq_of_addressAt_eq hother hslot (heq.trans ha.symm))

/-- A report of a new device goes into a slot that is given away. -/
theorem replace (h : t.Holds L) (hnew : ∀ other ∈ L.held, t.addressAt other ≠ r.address)
    (slot : Fin n) : (t.replace slot r).Holds (L.touch slot) := by
  obtain ⟨entries, hindex, hentries⟩ := h.index
  -- unlinking the slot leaves the entries of the other slots, whether it was linked or not
  obtain ⟨rest, hrest, hmem⟩ : ∃ rest, (t.index.remove slot).2.Holds rest ∧
      ∀ other a, (other, a) ∈ rest ↔ other ∈ L.held.erase slot ∧ t.addressAt other = a := by
    by_cases hslot : slot ∈ L.held
    · refine ⟨_, (hindex.remove_of_mem ((hentries slot _).2 ⟨hslot, rfl⟩)).2, fun other a ↦ ?_⟩
      simp only [AddressIndex.without, List.mem_filter, hentries, h.nodup_held.mem_erase_iff,
        decide_eq_true_eq]
      tauto
    · have hunlinked : slot ∉ entries.map Prod.fst := by simpa [hentries] using hslot
      rw [hindex.remove_of_not_mem hunlinked, List.erase_of_not_mem hslot]
      exact ⟨entries, hindex, hentries⟩
  have hfresh : slot ∉ rest.map Prod.fst := by
    simp [hmem, h.nodup_held.mem_erase_iff]
  refine h.store (hrest.insert hfresh r.address) (fun other a ↦ ?_)
    fun other hother ↦ hnew other (List.mem_of_mem_erase hother)
  rw [List.mem_append, hmem, List.mem_singleton, Prod.mk.injEq, or_comm, eq_comm (a := a)]

end Holds

/-! ### Put -/

/-- What a put does, by what is known of the device and which slots may be given away. A slot is
given away from the end of the order of recency, unless that slot is pending. -/
inductive Placement (t : ReportTable n) (L : Layout n) (r : Report) :
    Except TableError PutOutcome → ReportTable n → Layout n → Prop
  /-- The device is known: its slot takes the report. -/
  | updated (slot : Fin n) (hslot : slot ∈ L.held) (ha : t.addressAt slot = r.address) :
    Placement t L r (.ok .updated) (t.store slot r) (L.touch slot)
  /-- The device is new, and the last free slot takes the report. -/
  | inserted (slot : Fin n) (hnew : ∀ other ∈ L.held, t.addressAt other ≠ r.address)
      (hslot : L.free.getLast? = some slot) :
    Placement t L r (.ok .inserted) (t.replace slot r) (L.touch slot)
  /-- The device is new and no slot is free: the last settled slot takes the report. -/
  | evicted (slot : Fin n) (hnew : ∀ other ∈ L.held, t.addressAt other ≠ r.address)
      (hfree : L.free = []) (hslot : L.settled.getLast? = some slot) :
    Placement t L r (.ok (.evicted (t.addressAt slot))) (t.replace slot r) (L.touch slot)
  /-- The device is new and every slot is pending: the report is refused. -/
  | refused (hnew : ∀ other ∈ L.held, t.addressAt other ≠ r.address)
      (hfree : L.free = []) (hsettled : L.settled = []) :
    Placement t L r (.error .full) t L

/-- A put that gives a slot away. -/
theorem put_eq_replace (hfind : t.index.find? r.address = none)
    (hback : t.recency.back? = some slot) (hqueue : ¬t.queue.contains slot = true) :
    t.put r = (.ok (if (t.index.remove slot).1 then .evicted (t.addressAt slot) else .inserted),
      t.replace slot r) := by
  rw [put, hfind]
  dsimp only
  rw [hback]
  dsimp only
  rw [if_neg hqueue]
  rfl

namespace Holds

/-- **A put does one of four things**, and keeps the invariant. -/
theorem put (h : t.Holds L) (r : Report) :
    ∃ L', Placement t L r (t.put r).1 (t.put r).2 L' ∧ (t.put r).2.Holds L' := by
  have hback : t.recency.back? = L.order.getLast? := h.recency.back?_eq
  obtain ⟨entries, hindex, hentries⟩ := h.index
  rcases hfind : t.index.find? r.address with - | slot
  case some =>
    obtain ⟨hslot, ha⟩ := h.find?_eq_some_iff.1 hfind
    have hput : t.put r = (.ok .updated, t.store slot r) := by rw [ReportTable.put, hfind]
    rw [hput]
    exact ⟨_, .updated slot hslot ha, h.update hslot ha⟩
  case none =>
    have hnew := h.find?_eq_none_iff.1 hfind
    rcases hfree : L.free.getLast? with - | slot
    case some =>
      have hlast : t.recency.back? = some slot := by
        rw [hback, Layout.order, List.getLast?_append, hfree]
        rfl
      -- a free slot does not hold a report, so it neither waits nor is linked
      have hmem : slot ∈ L.free := List.mem_of_getLast? hfree
      have hunlinked : slot ∉ entries.map Prod.fst := by
        simpa [hentries] using h.not_mem_held_of_mem_free hmem
      have hqueue : ¬t.queue.contains slot = true :=
        mt h.queue.contains_iff.1 (h.not_mem_queue_of_mem_free hmem)
      rw [put_eq_replace hfind hlast hqueue, hindex.remove_of_not_mem hunlinked]
      exact ⟨_, .inserted slot hnew hfree, h.replace hnew slot⟩
    case none =>
      have hfree : L.free = [] := List.getLast?_eq_none_iff.1 hfree
      rw [Layout.order, hfree, List.append_nil, Layout.held, List.getLast?_append] at hback
      rcases hsettled : L.settled.getLast? with - | slot
      case some =>
        have hlast : t.recency.back? = some slot := by
          rw [hback, hsettled]
          rfl
        have hmem : slot ∈ L.settled := List.mem_of_getLast? hsettled
        have hheld : slot ∈ L.held := List.mem_append_right _ hmem
        have hqueue : ¬t.queue.contains slot = true :=
          mt h.queue.contains_iff.1 (h.not_mem_queue_of_mem_settled hmem)
        rw [put_eq_replace hfind hlast hqueue,
          (hindex.remove_of_mem ((hentries slot _).2 ⟨hheld, rfl⟩)).1]
        exact ⟨_, .evicted slot hnew hfree hsettled, h.replace hnew slot⟩
      case none =>
        have hsettled : L.settled = [] := List.getLast?_eq_none_iff.1 hsettled
        have hput : t.put r = (.error .full, t) := by
          rw [ReportTable.put, hfind]
          dsimp only
          rw [hback, hsettled]
          cases hlast : L.pending.getLast? with
          | none => rfl
          | some slot =>
            have hqueue : t.queue.contains slot = true :=
              h.queue.contains_iff.2 (h.mem_queue_iff.2 (List.mem_of_getLast? hlast))
            simp [hqueue]
        rw [hput]
        exact ⟨L, .refused hnew hfree hsettled, h⟩

end Holds

/-! ### Reports before and after a put -/

/-- A slot is the only one in the queue whose device is that of a report, if there is any: then the
report may take the place of the one in the slot. -/
def Takes (t : ReportTable n) (L : Layout n) (r : Report) (slot : Fin n) : Prop :=
  ∀ other ∈ L.queue, t.addressAt other = r.address ↔ other = slot

/-- The slot of a known device takes its report. -/
theorem Holds.takes_of_mem (h : t.Holds L) (hslot : slot ∈ L.held)
    (ha : t.addressAt slot = r.address) : t.Takes L r slot := by
  refine fun other hother ↦ ⟨fun ha' ↦ ?_, fun heq ↦ heq ▸ ha⟩
  exact h.eq_of_addressAt_eq (h.mem_held_of_mem_queue hother) hslot (ha'.trans ha.symm)

/-- A slot that does not wait takes the report of a new device. -/
theorem Holds.takes_of_new (h : t.Holds L) (hnew : ∀ other ∈ L.held, t.addressAt other ≠ r.address)
    (hslot : slot ∉ L.queue) : t.Takes L r slot := by
  refine fun other hother ↦ iff_of_false (hnew other (h.mem_held_of_mem_queue hother)) ?_
  rintro rfl
  exact hslot hother

/-- **A put touches one slot**, which takes the report, or changes nothing. -/
theorem Holds.put_touches (h : t.Holds L) (r : Report) :
    (∃ outcome slot, (t.put r).1 = .ok outcome ∧ (t.put r).2.Holds (L.touch slot) ∧
      (t.put r).2.records = t.records.put slot r ∧ t.Takes L r slot) ∨
    t.put r = (.error .full, t) := by
  obtain ⟨L', hput, h'⟩ := h.put r
  generalize t.put r = result at hput h'
  obtain ⟨outcome, t'⟩ := result
  cases hput with
  | updated slot hslot ha => exact .inl ⟨_, slot, rfl, h', rfl, h.takes_of_mem hslot ha⟩
  | inserted slot hnew hslot =>
    have hqueue := h.not_mem_queue_of_mem_free (List.mem_of_getLast? hslot)
    exact .inl ⟨_, slot, rfl, h', rfl, h.takes_of_new hnew hqueue⟩
  | evicted slot hnew hfree hslot =>
    have hqueue := h.not_mem_queue_of_mem_settled (List.mem_of_getLast? hslot)
    exact .inl ⟨_, slot, rfl, h', rfl, h.takes_of_new hnew hqueue⟩
  | refused => exact .inr rfl

/-- The reports by recency, after a slot has been touched. -/
theorem Holds.map_held_touch (h : t.Holds L) (slot : Fin n) (r : Report) :
    (L.touch slot).held.map (t.records.put slot r).get =
      r :: (L.held.erase slot).map t.records.get := by
  rw [Layout.held_touch h.nodup_order, List.map_cons, Slots.get_put_self]
  congr 1
  refine List.map_congr_left fun other hother ↦ Slots.get_put_of_ne _ ?_ _
  exact (h.nodup_held.mem_erase_iff.1 hother).1.symm

/-- The reports in the order of the queue, after a slot has been touched. -/
theorem Takes.map_queue_touch (hslot : t.Takes L r slot) :
    (L.touch slot).queue.map (t.records.put slot r).get =
      renew (L.queue.map t.records.get) r := by
  have haddress : r.address ∈ (L.queue.map t.records.get).map Report.address ↔ slot ∈ L.queue := by
    rw [List.map_map, List.mem_map]
    constructor
    · rintro ⟨other, hother, ha⟩
      exact (hslot other hother).1 ha ▸ hother
    · intro hmem
      exact ⟨slot, hmem, (hslot slot hmem).2 rfl⟩
  by_cases hmem : slot ∈ L.queue
  · rw [renew, if_pos (haddress.2 hmem), Layout.touch, if_pos hmem, List.map_map]
    refine List.map_congr_left fun other hother ↦ ?_
    rw [Slots.get_put, Function.comp_apply]
    exact if_congr (eq_comm.trans (hslot other hother).symm) rfl rfl
  · rw [renew, if_neg (mt haddress.1 hmem), Layout.touch, if_neg hmem, List.map_append,
      List.map_singleton, Slots.get_put_self]
    congr 1
    refine List.map_congr_left fun other hother ↦ Slots.get_put_of_ne _ ?_ _
    rintro rfl
    exact hmem hother

namespace Holds

/-! ### Drain -/

/-- **A drain empties the queue** and makes every pending slot settled. -/
theorem drain (h : t.Holds L) (capacity : Nat) :
    (t.drain capacity).1 =
        (L.queue.length, (L.queue.map t.records.get).take capacity) ∧
      (t.drain capacity).2.Holds L.drained := by
  obtain ⟨hslots, hempty⟩ := h.queue.popAll_eq
  have hdrain : t.drain capacity = ((t.queue.popAll.1.length,
      (t.queue.popAll.1.map fun slot ↦ t.records.get slot).take capacity),
      { t with queue := t.queue.popAll.2 }) := rfl
  rw [hdrain, hslots]
  refine ⟨rfl, ?_⟩
  exact
    { recency := h.recency
      queue := hempty
      pending := List.Perm.refl _
      index := h.index
      distinct := h.distinct
      blank := h.blank }

end Holds

end ReportTable

end BeaconGateway
