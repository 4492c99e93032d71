import BeaconGateway.Proofs.Table.Requests

/-!
# What a drain hands over

A run shows in its transcript which reports the table has taken since its last drain
(`takenSinceDrain`); a report that was refused is not among them. Of these reports a drain owes the
last one of each device, in the order in which the devices first put one (`latest`).

The step from one report to the next is `latest_append`: one more report takes the place of the
one of its device, or comes last. This is what a put does to the queue and the records
(`Takes.map_queue_touch`), so the reports that wait are the latest ones throughout a run
(`Holds.serve_latest`, `Holds.after_latest`).

## Main results

* `ReportTable.drain_answers_latest` — wherever a drain stands in a run, it answers with the last
  report of each device since the drain before. Until then the report is in the slot of its
  device, no put moves the device to another slot, and none evicts it.
-/

namespace BeaconGateway

variable {n : Nat}

/-! ### Transcripts -/

/-- The reports taken since the last drain, after one more request. -/
def takenAfter (taken : List Report) : TableRequest × TableAnswer → List Report
  | (.put r, .put (.ok _)) => taken ++ [r]
  | (.drain _, _) => []
  | _ => taken

/-- The reports that were taken since the last drain of a run. -/
def takenSinceDrain (transcript : List (TableRequest × TableAnswer)) : List Report :=
  transcript.foldl takenAfter []

namespace ReportTable

variable {t : ReportTable n} {L : Layout n} {rs : List Report}

/-- What was asked in a run and what was answered. -/
def transcript (t : ReportTable n) (requests : List TableRequest) :
    List (TableRequest × TableAnswer) :=
  requests.zip (answerAll serve t requests).1

namespace Holds

/-- **One request** keeps the reports that wait the latest of those taken. -/
theorem serve_latest (h : t.Holds L) (hlatest : L.queue.map t.records.get = latest rs)
    (request : TableRequest) :
    ∃ L', (t.serve request).2.Holds L' ∧ L'.queue.map (t.serve request).2.records.get =
      latest (takenAfter rs (request, (t.serve request).1)) := by
  cases request with
  | put r =>
    show ∃ L', (t.put r).2.Holds L' ∧ L'.queue.map (t.put r).2.records.get =
      latest (takenAfter rs (.put r, .put (t.put r).1))
    rcases h.put_touches r with ⟨outcome, slot, hok, h', hrecords, htakes⟩ | hrefused
    · refine ⟨_, h', ?_⟩
      rw [hok, takenAfter, hrecords, htakes.map_queue_touch, hlatest, latest_append]
    · rw [hrefused]
      exact ⟨L, h, hlatest⟩
  | drain capacity => exact ⟨_, (h.drain capacity).2, rfl⟩
  | history | tracked | pending => exact ⟨L, h, hlatest⟩

/-- **A run** keeps the reports that wait the latest of those taken. -/
theorem after_latest (h : t.Holds L) (hlatest : L.queue.map t.records.get = latest rs)
    (requests : List TableRequest) :
    ∃ L', (t.after requests).Holds L' ∧ L'.queue.map (t.after requests).records.get =
      latest ((t.transcript requests).foldl takenAfter rs) := by
  induction requests generalizing t L rs with
  | nil => exact ⟨L, h, hlatest⟩
  | cons request rest ih =>
    obtain ⟨L', h', hlatest'⟩ := h.serve_latest hlatest request
    exact ih h' hlatest'

/-- No put moves a device whose report waits to another slot. -/
theorem find?_put (h : t.Holds L) {slot : Fin n} (hslot : slot ∈ L.queue) (r : Report) :
    (t.put r).2.index.find? (t.addressAt slot) = some slot := by
  have hheld := h.mem_held_of_mem_queue hslot
  rcases h.put_touches r with ⟨outcome, touched, -, h', hrecords, htakes⟩ | hrefused
  · rw [h'.find?_eq_some_iff]
    constructor
    · rw [Layout.held_touch h.nodup_order, List.mem_cons, h.nodup_held.mem_erase_iff]
      tauto
    · show ((t.put r).2.records.get slot).address = t.addressAt slot
      rw [hrecords, Slots.get_put]
      split
      case isTrue heq => exact ((htakes slot hslot).2 heq.symm).symm
      case isFalse => rfl
  · rw [hrefused]
    exact h.find?_eq_some_iff.2 ⟨hheld, rfl⟩

/-- No put evicts a device whose report waits. -/
theorem not_mem_of_evicted (h : t.Holds L) {r : Report} {a : Address}
    (hevicted : (t.put r).1 = .ok (.evicted a)) : a ∉ L.queue.map t.addressAt := by
  obtain ⟨L', hput, -⟩ := h.put r
  generalize t.put r = result at hput hevicted
  obtain ⟨outcome, t'⟩ := result
  cases hput with
  | evicted slot hnew hfree hslot =>
    cases hevicted
    have hsettled : slot ∈ L.settled := List.mem_of_getLast? hslot
    intro hmem
    obtain ⟨other, hother, ha⟩ := List.mem_map.1 hmem
    have heq := h.eq_of_addressAt_eq (h.mem_held_of_mem_queue hother)
      (List.mem_append_right _ hsettled) ha
    exact h.not_mem_queue_of_mem_settled hsettled (heq ▸ hother)
  | updated | inserted | refused => cases hevicted

end Holds

/-- **A drain answers with the last report of each device** that put one since the drain before,
wherever it stands in a run. Until then the report is in the slot of its device, no put moves the
device, and none evicts it. -/
theorem drain_answers_latest {capacity : Nat} (hcapacity : n ≤ capacity)
    (requests rest : List TableRequest) :
    let t := (new : ReportTable n).after requests
    let rs := takenSinceDrain ((new : ReportTable n).transcript requests)
    let answers := (answerAll serve (new : ReportTable n) (requests ++ .drain capacity :: rest)).1
    answers[requests.length]? = some (.drain (latest rs).length (latest rs)) ∧
      (∀ r ∈ latest rs, ∃ slot, t.index.find? r.address = some slot ∧ t.records.get slot = r ∧
        ∀ other, (t.put other).2.index.find? r.address = some slot) ∧
      ∀ other a, (t.put other).1 = .ok (.evicted a) → a ∉ rs.map Report.address := by
  intro t rs answers
  have hnew : ([] : List (Fin n)).map (new : ReportTable n).records.get = latest [] := rfl
  obtain ⟨L, h, hlatest⟩ := holds_new.after_latest hnew requests
  have hlatest : L.queue.map t.records.get = latest rs := hlatest
  have haddresses : L.queue.map t.addressAt = (latest rs).map Report.address := by
    rw [← hlatest, List.map_map]
    rfl
  refine ⟨?_, fun r hr ↦ ?_, fun other a hevicted ↦ ?_⟩
  -- a drain that may give as many as there are slots leaves nothing out
  · have hdrain : (t.drain capacity).1 = ((latest rs).length, latest rs) := by
      have hlength : L.queue.length ≤ n := Links.length_le_of_nodup h.queue.nodup
      rw [(h.drain capacity).1, ← hlatest, List.length_map, List.take_of_length_le]
      rw [List.length_map]
      exact hlength.trans hcapacity
    show (answerAll serve new (requests ++ .drain capacity :: rest)).1[requests.length]? = _
    rw [answerAll_append, List.getElem?_append_right (length_answerAll ..).le, length_answerAll,
      Nat.sub_self]
    show some (TableAnswer.drain (t.drain capacity).1.1 (t.drain capacity).1.2) = _
    rw [hdrain]
  · rw [← hlatest] at hr
    obtain ⟨slot, hslot, rfl⟩ := List.mem_map.1 hr
    exact ⟨slot, h.find?_eq_some_iff.2 ⟨h.mem_held_of_mem_queue hslot, rfl⟩, rfl,
      h.find?_put hslot⟩
  · rw [← mem_map_address_latest, ← haddresses]
    exact h.not_mem_of_evicted hevicted

/-- Two devices put one report each, and the first one puts a second report. -/
theorem drain_answers_second_report :
    2 ≤ 2 ∧ (answerAll serve (new : ReportTable 2)
      [.put .blank, .put { Report.blank with address := ⟨0, 0, 0, 0, 0, 1⟩ },
        .put { Report.blank with timestamp := 1 }, .drain 2]).1[3]? =
      some (.drain 2 [{ Report.blank with timestamp := 1 },
        { Report.blank with address := ⟨0, 0, 0, 0, 0, 1⟩ }]) :=
  ⟨le_rfl, (drain_answers_latest le_rfl
    [.put .blank, .put { Report.blank with address := ⟨0, 0, 0, 0, 0, 1⟩ },
      .put { Report.blank with timestamp := 1 }] []).1.trans rfl⟩

end ReportTable

end BeaconGateway
