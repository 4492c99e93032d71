import BeaconGateway.Proofs.Table.Requests

/-!
# The table as two lists

A description of the report table without slots and links: the reports by recency, and the devices
whose report waits to be drained, in the order in which they came to wait. `Roster` is this pair of
lists, with the operations of the table written on lists.

`ReportTable.roster` reads a table as a roster. For every operation there is one square, which says
that the table answers as its roster does and that the roster after the operation is what the
operation makes of the roster before (`Holds.serve_eq_roster`). The main result,
`answerAll_eq_roster`, pastes the squares of a run together: however many devices a table has
slots for, it answers every list of requests as the two lists do.

The squares of a put are the four cases of `Placement`. What ties the two sides in each of them is
counting: the slots that hold a report and the free ones are as many as there are slots, so a
roster is short of the capacity exactly if a slot is free.
-/

namespace BeaconGateway

variable {n : Nat}

/-- The reports of a table by recency, and the devices whose report waits. -/
structure Roster where
  /-- The last report of each device that is known, the one put last first. -/
  reports : List Report
  /-- The devices whose report waits to be drained, the one that has waited longest first. -/
  waiting : List Address

namespace Roster

/-- No device is known. -/
def empty : Roster :=
  ⟨[], []⟩

/-- A device joins the queue unless it waits already. -/
def enqueue (waiting : List Address) (a : Address) : List Address :=
  if a ∈ waiting then waiting else waiting ++ [a]

/-- Take a report, where at most `capacity` devices can be known. -/
def put (capacity : Nat) (m : Roster) (r : Report) : Except TableError PutOutcome × Roster :=
  if r.address ∈ m.reports.map Report.address then
    (.ok .updated,
      ⟨r :: m.reports.filter fun other ↦ other.address ≠ r.address, enqueue m.waiting r.address⟩)
  else if m.reports.length < capacity then
    (.ok .inserted, ⟨r :: m.reports, enqueue m.waiting r.address⟩)
  else
    match m.reports.getLast? with
    | none => (.error .full, m)
    | some last =>
      if last.address ∈ m.waiting then (.error .full, m)
      else
        (.ok (.evicted last.address),
          ⟨r :: m.reports.dropLast, enqueue m.waiting r.address⟩)

/-- The reports of the devices that wait, in the order of the queue. -/
def waitingReports (m : Roster) : List Report :=
  m.waiting.filterMap fun a ↦ m.reports.find? fun r ↦ r.address = a

/-- Hand over the reports that wait, at most `capacity` of them. The queue is emptied. -/
def drain (m : Roster) (capacity : Nat) : (Nat × List Report) × Roster :=
  ((m.waiting.length, m.waitingReports.take capacity), { m with waiting := [] })

/-- The reports up to the first one that has no stamp or is older than the limit, and at most
`capacity` of them. The age of a report is counted from its stamp, and is zero if the stamp lies in
the future. -/
def history (m : Roster) (now : UInt32) (maxAge : Option UInt32) (capacity : Nat) : List Report :=
  (m.reports.takeWhile fun r ↦ r.timestamp ≠ 0 &&
    maxAge.all fun limit ↦ now.toNat - r.timestamp.toNat ≤ limit.toNat).take capacity

/-- Serve one request, where at most `capacity` devices can be known. -/
def serve (capacity : Nat) (m : Roster) : TableRequest → TableAnswer × Roster
  | .put r => (.put (m.put capacity r).1, (m.put capacity r).2)
  | .drain limit => (.drain (m.drain limit).1.1 (m.drain limit).1.2, (m.drain limit).2)
  | .history now maxAge limit => (.history (m.history now maxAge limit), m)
  | .tracked => (.count m.reports.length, m)
  | .pending => (.count m.waiting.length, m)

/-- No device is listed twice or waits twice, those that wait are known, and no more are known than
there is room for. -/
structure WellFormed (capacity : Nat) (m : Roster) : Prop where
  /-- Each device has one report. -/
  distinct : (m.reports.map Report.address).Nodup
  /-- There is room for each report. -/
  length_le : m.reports.length ≤ capacity
  /-- No device waits twice. -/
  nodup_waiting : m.waiting.Nodup
  /-- Each device that waits has a report. -/
  waiting_subset : m.waiting ⊆ m.reports.map Report.address

end Roster

namespace ReportTable

variable {t : ReportTable n} {L : Layout n} {slot : Fin n} {r : Report}

/-- A table read as a roster: the reports of the slots that are linked, by recency, and the devices
of the slots that wait. -/
def roster (t : ReportTable n) : Roster where
  reports := (t.recency.toList.filter t.index.contains).map t.records.get
  waiting := t.queue.toList.map t.addressAt

namespace Holds

theorem roster_eq (h : t.Holds L) :
    t.roster = ⟨L.held.map t.records.get, L.queue.map t.addressAt⟩ := by
  have hheld : L.order.filter t.index.contains = L.held := by
    have hfree : L.free.filter t.index.contains = [] := by
      refine List.filter_eq_nil_iff.2 fun slot hslot hmem ↦ ?_
      exact (List.nodup_append.1 h.nodup_order).2.2 slot (h.contains_iff.1 hmem) slot hslot rfl
    rw [Layout.order, List.filter_append, hfree, List.append_nil]
    exact List.filter_eq_self.2 fun slot hslot ↦ h.contains_iff.2 hslot
  rw [roster, h.recency.toList_eq, h.queue.toList_eq, hheld]

theorem addresses_eq (h : t.Holds L) :
    t.roster.reports.map Report.address = L.held.map t.addressAt := by
  rw [h.roster_eq, List.map_map]
  rfl

/-- The roster of a table is well formed. -/
theorem wellFormed_roster (h : t.Holds L) : t.roster.WellFormed n where
  distinct := h.addresses_eq ▸ h.distinct
  length_le := by
    rw [h.roster_eq, List.length_map]
    exact Links.length_le_of_nodup h.nodup_held
  nodup_waiting := by
    rw [h.roster_eq]
    refine h.queue.nodup.map_on fun slot hslot other hother ha ↦ ?_
    exact h.eq_of_addressAt_eq (h.mem_held_of_mem_queue hslot) (h.mem_held_of_mem_queue hother) ha
  waiting_subset := by
    rw [h.addresses_eq, h.roster_eq]
    exact List.map_subset _ fun slot ↦ h.mem_held_of_mem_queue

/-! ### Put -/

/-- There is room for one more device exactly if a slot is free. -/
theorem length_held_lt_iff (h : t.Holds L) : L.held.length < n ↔ L.free ≠ [] := by
  have hlength := h.length_order
  rw [Layout.order, List.length_append] at hlength
  rw [← List.length_pos_iff]
  omega

/-- The devices of the reports that wait, after one more has been put. -/
theorem map_address_renew (waiting : List Report) (r : Report) :
    (renew waiting r).map Report.address =
      Roster.enqueue (waiting.map Report.address) r.address := by
  rw [renew, Roster.enqueue]
  split
  · rw [List.map_map]
    refine List.map_congr_left fun other _ ↦ ?_
    rw [Function.comp_apply]
    split
    case isTrue heq => exact heq.symm
    case isFalse => rfl
  · rw [List.map_append]
    rfl

/-- The roster after a slot has been touched. -/
theorem roster_touch {t' : ReportTable n} (h : t.Holds L) (h' : t'.Holds (L.touch slot))
    (hrecords : t'.records = t.records.put slot r) (hslot : t.Takes L r slot) :
    t'.roster = ⟨r :: (L.held.erase slot).map t.records.get,
      Roster.enqueue (L.queue.map t.addressAt) r.address⟩ := by
  have hwaiting : (L.touch slot).queue.map t'.addressAt =
      ((L.touch slot).queue.map (t.records.put slot r).get).map Report.address := by
    rw [List.map_map, ← hrecords]
    rfl
  rw [h'.roster_eq, hwaiting, hslot.map_queue_touch, map_address_renew, List.map_map, hrecords,
    h.map_held_touch]
  rfl

/-- Taking a slot out of those that hold a report is taking out the report of its device. -/
theorem map_erase_eq_filter (h : t.Holds L) (hslot : slot ∈ L.held) :
    (L.held.erase slot).map t.records.get =
      (L.held.map t.records.get).filter fun other ↦ other.address ≠ t.addressAt slot := by
  rw [h.nodup_held.erase_eq_filter, List.filter_map]
  refine congrArg _ (List.filter_congr fun other hother ↦ ?_)
  rw [Function.comp_apply, Bool.eq_iff_iff, bne_iff_ne, decide_eq_true_iff]
  exact not_congr ⟨fun heq ↦ heq ▸ rfl, h.eq_of_addressAt_eq hother hslot⟩

/-- **The square of a put.** -/
theorem put_eq_roster (h : t.Holds L) (r : Report) :
    (t.put r).1 = (t.roster.put n r).1 ∧ (t.put r).2.roster = (t.roster.put n r).2 := by
  obtain ⟨L', hput, h'⟩ := h.put r
  have hknown : r.address ∈ t.roster.reports.map Report.address ↔
      ∃ slot ∈ L.held, t.addressAt slot = r.address := by
    rw [h.addresses_eq, List.mem_map]
  have hroom : t.roster.reports.length < n ↔ L.free ≠ [] := by
    rw [h.roster_eq, List.length_map, h.length_held_lt_iff]
  have hlast : t.roster.reports.getLast? = L.held.getLast?.map t.records.get := by
    rw [h.roster_eq, List.getLast?_map]
  have hwaiting : ∀ slot ∈ L.held,
      (t.records.get slot).address ∈ t.roster.waiting ↔ slot ∈ L.queue := by
    intro slot hslot
    rw [h.roster_eq, List.mem_map]
    refine ⟨fun ⟨other, hother, ha⟩ ↦ ?_, fun hmem ↦ ⟨slot, hmem, rfl⟩⟩
    exact h.eq_of_addressAt_eq (h.mem_held_of_mem_queue hother) hslot ha ▸ hother
  generalize t.put r = result at hput h'
  obtain ⟨outcome, t'⟩ := result
  rw [Roster.put]
  cases hput with
  | updated slot hslot ha =>
    rw [if_pos (hknown.2 ⟨slot, hslot, ha⟩)]
    refine ⟨rfl, ?_⟩
    rw [h.roster_touch h' rfl (h.takes_of_mem hslot ha), h.map_erase_eq_filter hslot, ha,
      h.roster_eq]
  | inserted slot hnew hslot =>
    have hfree : slot ∈ L.free := List.mem_of_getLast? hslot
    rw [if_neg fun hmem ↦ (hknown.1 hmem).elim fun other ho ↦ hnew other ho.1 ho.2,
      if_pos (hroom.2 (List.ne_nil_of_mem hfree))]
    refine ⟨rfl, ?_⟩
    rw [h.roster_touch h' rfl (h.takes_of_new hnew (h.not_mem_queue_of_mem_free hfree)),
      List.erase_of_not_mem (h.not_mem_held_of_mem_free hfree), h.roster_eq]
  | evicted slot hnew hfree hslot =>
    have hsettled : slot ∈ L.settled := List.mem_of_getLast? hslot
    have hheld : slot ∈ L.held := List.mem_append_right _ hsettled
    have hqueue := h.not_mem_queue_of_mem_settled hsettled
    have hlast' : L.held.getLast? = some slot := by
      rw [Layout.held, List.getLast?_append, hslot]
      rfl
    rw [if_neg fun hmem ↦ (hknown.1 hmem).elim fun other ho ↦ hnew other ho.1 ho.2,
      if_neg (by rw [hroom]; exact not_not_intro hfree), hlast, hlast']
    dsimp only [Option.map_some]
    rw [if_neg (mt (hwaiting slot hheld).1 hqueue)]
    refine ⟨rfl, ?_⟩
    -- the slot given away is the last one that holds a report
    have herase : L.held.erase slot = L.held.dropLast := by
      obtain ⟨rest, hrest⟩ := List.getLast?_eq_some_iff.1 hlast'
      have hnodup := h.nodup_held
      rw [hrest] at hnodup ⊢
      rw [Links.erase_append_cons hnodup, List.append_nil, List.dropLast_concat]
    rw [h.roster_touch h' rfl (h.takes_of_new hnew hqueue), h.roster_eq, herase,
      List.map_dropLast]
  | refused hnew hfree hsettled =>
    rw [if_neg fun hmem ↦ (hknown.1 hmem).elim fun other ho ↦ hnew other ho.1 ho.2,
      if_neg (by rw [hroom]; exact not_not_intro hfree), hlast]
    cases hslot : L.held.getLast? with
    | none => exact ⟨rfl, rfl⟩
    | some slot =>
      -- nothing is settled, so the last slot that holds a report waits
      have hpending : slot ∈ L.pending := by
        have hmem := List.mem_of_getLast? hslot
        rwa [Layout.held, hsettled, List.append_nil] at hmem
      have hqueue : slot ∈ L.queue := h.mem_queue_iff.2 hpending
      dsimp only [Option.map_some]
      rw [if_pos ((hwaiting slot (h.mem_held_of_mem_queue hqueue)).2 hqueue)]
      exact ⟨rfl, rfl⟩

/-! ### The other operations -/

/-- Looking a device up among the reports finds the report of its slot. -/
theorem find?_addressAt (h : t.Holds L) (hslot : slot ∈ L.held) :
    (L.held.map t.records.get).find? (fun r ↦ r.address = t.addressAt slot) =
      some (t.records.get slot) := by
  cases hfind : (L.held.map t.records.get).find? fun r ↦ r.address = t.addressAt slot with
  | none =>
    have hnone := List.find?_eq_none.1 hfind _ (List.mem_map_of_mem hslot)
    exact absurd (decide_eq_true rfl) hnone
  | some r =>
    obtain ⟨other, hother, rfl⟩ := List.mem_map.1 (List.mem_of_find?_eq_some hfind)
    have ha := List.find?_some hfind
    rw [decide_eq_true_iff] at ha
    rw [h.eq_of_addressAt_eq hother hslot ha]

/-- **The square of a drain.** -/
theorem drain_eq_roster (h : t.Holds L) (capacity : Nat) :
    (t.drain capacity).1 = (t.roster.drain capacity).1 ∧
      (t.drain capacity).2.roster = (t.roster.drain capacity).2 := by
  obtain ⟨hanswer, h'⟩ := h.drain capacity
  have hwaiting : t.roster.waitingReports = L.queue.map t.records.get := by
    have hfind : ∀ slot ∈ L.queue, (L.held.map t.records.get).find?
        (fun r ↦ r.address = t.addressAt slot) = some (t.records.get slot) :=
      fun slot hslot ↦ h.find?_addressAt (h.mem_held_of_mem_queue hslot)
    rw [Roster.waitingReports, h.roster_eq, List.filterMap_map]
    exact (List.filterMap_congr hfind).trans (congrFun List.filterMap_eq_map L.queue)
  rw [hanswer, h'.roster_eq, Roster.drain, hwaiting, h.roster_eq, List.length_map]
  exact ⟨rfl, rfl⟩

/-- A history of the table stops where one of the roster does. -/
theorem listed_eq (now : UInt32) (maxAge : Option UInt32) :
    (fun r : Report ↦ !r.isBlank && maxAge.all fun limit ↦ !isStale now limit r) =
      fun r ↦ decide (r.timestamp ≠ 0) &&
        maxAge.all fun limit ↦ decide (now.toNat - r.timestamp.toNat ≤ limit.toNat) := by
  funext r
  have hblank : (!r.isBlank) = decide (r.timestamp ≠ 0) := by
    rw [Bool.eq_iff_iff, Report.isBlank, Bool.not_eq_true', beq_eq_false_iff_ne,
      decide_eq_true_iff]
  have hstale : ∀ limit, (!isStale now limit r) =
      decide (now.toNat - r.timestamp.toNat ≤ limit.toNat) := by
    intro limit
    rw [isStale, ← decide_not, decide_eq_decide]
    exact not_lt
  simp only [hblank, hstale]

/-- The answer of a history: it stops at the first free slot, if not before. -/
theorem history_eq_roster (h : t.Holds L) (now : UInt32) (maxAge : Option UInt32)
    (capacity : Nat) : t.history now maxAge capacity = t.roster.history now maxAge capacity := by
  have hfree : (L.free.map t.records.get).takeWhile (fun r ↦ decide (r.timestamp ≠ 0) &&
      maxAge.all fun limit ↦ decide (now.toNat - r.timestamp.toNat ≤ limit.toNat)) = [] := by
    cases hslots : L.free with
    | nil => rfl
    | cons slot rest =>
      have hblank : t.records.get slot = .blank := h.blank slot (hslots ▸ List.mem_cons_self)
      rw [List.map_cons, hblank]
      rfl
  rw [history, Roster.history, h.recency.toList_eq, h.roster_eq, Layout.order, List.map_append,
    listed_eq, List.takeWhile_append, hfree, List.append_nil]
  congr 1
  split
  case isTrue hlength => exact ((List.takeWhile_prefix _).eq_of_length hlength).symm
  case isFalse => rfl

/-- **A table serves a request as its roster does.** -/
theorem serve_eq_roster (h : t.Holds L) (request : TableRequest) :
    (t.serve request).1 = (t.roster.serve n request).1 ∧
      (t.serve request).2.roster = (t.roster.serve n request).2 := by
  cases request with
  | put r =>
    obtain ⟨hanswer, hroster⟩ := h.put_eq_roster r
    exact ⟨congrArg TableAnswer.put hanswer, hroster⟩
  | drain capacity =>
    obtain ⟨hanswer, hroster⟩ := h.drain_eq_roster capacity
    refine ⟨?_, hroster⟩
    simp only [ReportTable.serve, Roster.serve, hanswer]
  | history now maxAge capacity =>
    exact ⟨congrArg TableAnswer.history (h.history_eq_roster now maxAge capacity), rfl⟩
  | tracked =>
    refine ⟨congrArg TableAnswer.count ?_, rfl⟩
    rw [h.tracked_eq, h.roster_eq, List.length_map]
  | pending =>
    refine ⟨congrArg TableAnswer.count ?_, rfl⟩
    rw [h.pending_eq, h.roster_eq, List.length_map]

/-- A run of a table is the run of its roster. -/
theorem answerAll_eq (h : t.Holds L) (requests : List TableRequest) :
    (answerAll ReportTable.serve t requests).1 =
        (answerAll (Roster.serve n) t.roster requests).1 ∧
      (t.after requests).roster = (answerAll (Roster.serve n) t.roster requests).2 := by
  induction requests generalizing t L with
  | nil => exact ⟨rfl, rfl⟩
  | cons request rest ih =>
    obtain ⟨hanswer, hroster⟩ := h.serve_eq_roster request
    obtain ⟨L', h'⟩ := h.serve request
    obtain ⟨hanswers, hlast⟩ := ih h'
    rw [hroster] at hanswers hlast
    simp only [answerAll, after_cons]
    exact ⟨congrArg₂ List.cons hanswer hanswers, hlast⟩

end Holds

/-- **A table answers every list of requests as two lists do**, and the two lists stay well
formed. -/
theorem answerAll_eq_roster (n : Nat) (requests : List TableRequest) :
    (answerAll serve (new : ReportTable n) requests).1 =
        (answerAll (Roster.serve n) Roster.empty requests).1 ∧
      (answerAll (Roster.serve n) Roster.empty requests).2.WellFormed n := by
  have hnew : (new : ReportTable n).roster = Roster.empty := holds_new.roster_eq
  obtain ⟨hanswers, hlast⟩ := holds_new.answerAll_eq (n := n) requests
  obtain ⟨L, hL⟩ := exists_holds_after (n := n) requests
  rw [hnew] at hanswers hlast
  exact ⟨hanswers, hlast ▸ hL.wellFormed_roster⟩

end ReportTable

end BeaconGateway
