import BeaconGateway.History.Query
import BeaconGateway.Proofs.Lists
import BeaconGateway.Proofs.Scanner.Stamps
import Mathlib.Data.List.TakeWhile

/-!
# Histories are complete

A history walks the records from the device heard last and ends at the first one that is not asked
for. So it is a beginning of what is asked for, and of a table at large nothing more can be said. It
is all of it if no record that is asked for stands behind one that is not, and this is so where the
stamps descend: a record further back is older, or has a lower running number.

That the stamps descend along the table is what a course that goes right is worth
(`Intake.Course.Ascends`). The current time of the query has no part in this: a stamp in the future
has no age, and is asked for whatever the limit.

## Main results

* `HistoryRequest.asksFor` — whether a query asks for a record;
* `ReportTable.Holds.records_answer` — where an answer ends;
* `HistoryRequest.records_answer_of_orderly` — that nothing is behind its end.
-/

namespace BeaconGateway

/-! ### What is asked for -/

namespace HistoryRequest

/-- How many seconds a query goes back. -/
def seconds (q : HistoryRequest) : UInt32 :=
  ((after? "time=".toList (q.params.getD "").toList).map leadingNumber).getD defaultHistorySeconds

/-- The running number after which a query begins, if it names one. -/
def counter? (q : HistoryRequest) : Option UInt32 :=
  (after? "counter=".toList (q.params.getD "").toList).map leadingNumber

/-- **Whether a query asks for a record.** Where stamps are times and the clock is synchronised, it
asks for those not too old; where they are running numbers, for those after the number that it
names; and otherwise for all. -/
def asksFor (q : HistoryRequest) (r : Report) : Bool :=
  if q.useTimestamps then
    q.unixTime.all fun now ↦ (now.toNat : Int) - r.timestamp.toNat ≤ q.seconds.toNat
  else q.counter?.all fun counter ↦ counter < r.timestamp

/-- What is asked for would be asked for under a later stamp. -/
theorem asksFor_of_le {q : HistoryRequest} {r later : Report} (hle : r.timestamp ≤ later.timestamp)
    (hasked : q.asksFor r = true) : q.asksFor later = true := by
  rw [asksFor] at hasked ⊢
  split_ifs at hasked ⊢ <;> rw [Option.all_eq_true] at hasked ⊢
  · intro now hshown
    have hyoung := of_decide_eq_true (hasked now hshown)
    rw [UInt32.le_iff_toNat_le] at hle
    exact decide_eq_true (by omega)
  · intro counter hnamed
    exact decide_eq_true (UInt32.lt_of_lt_of_le (of_decide_eq_true (hasked counter hnamed)) hle)

theorem filter_eq (q : HistoryRequest) :
    HistoryFilter.ofParams q.params q.useTimestamps q.unixTime.isSome =
      if q.useTimestamps then if q.unixTime.isSome then .maxAge q.seconds else .all
      else q.counter?.elim .all .sinceCounter := by
  rw [HistoryFilter.ofParams, seconds, counter?]
  split_ifs
  · rfl
  · rfl
  · cases after? "counter=".toList (q.params.getD "").toList <;> rfl

end HistoryRequest

/-! ### Where an answer ends -/

namespace ReportTable.Holds

variable {n : Nat}

/-- A history ends at the first record older than its limit. -/
theorem history_eq_takeWhile {t : ReportTable n} {L : Layout n} (hholds : t.Holds L)
    (hstamped : ∀ r ∈ t.roster.reports, r.timestamp ≠ 0) (now : UInt32) (maxAge : Option UInt32) :
    t.history now maxAge n = t.roster.reports.takeWhile fun r ↦
      maxAge.all fun limit ↦ (now.toNat : Int) - r.timestamp.toNat ≤ limit.toNat := by
  -- a stamp in the future has age zero in the table and a negative one here: both are in time
  have hage (r : Report) (limit : UInt32) :
      decide ((now.toNat : Int) - r.timestamp.toNat ≤ limit.toNat) =
        decide (now.toNat - r.timestamp.toNat ≤ limit.toNat) := by
    rw [decide_eq_decide]
    omega
  have hwhole : t.roster.reports.takeWhile (fun r ↦ decide (r.timestamp ≠ 0)) = t.roster.reports :=
    List.takeWhile_eq_self_iff.2 fun r hmem ↦ decide_eq_true (hstamped r hmem)
  have hroom : (t.roster.reports.takeWhile fun r ↦ maxAge.all fun limit ↦
      decide (now.toNat - r.timestamp.toNat ≤ limit.toNat)).length ≤ n :=
    (List.takeWhile_prefix _).length_le.trans hholds.wellFormed_roster.length_le
  simp only [hage]
  rw [hholds.history_eq_roster, Roster.history]
  conv_rhs => rw [← List.take_of_length_le hroom, ← hwhole, List.takeWhile_takeWhile]
  simp only [Bool.decide_and, Bool.decide_eq_true, Bool.and_comm]

/-- **An answer ends** at the first record that is not asked for. -/
theorem records_answer {t : ReportTable gatewayCapacity} {L : Layout gatewayCapacity}
    (hholds : t.Holds L) (hstamped : ∀ r ∈ t.roster.reports, r.timestamp ≠ 0) (q : HistoryRequest)
    (gateway : Address) :
    (q.answer gateway t).records = t.roster.reports.takeWhile q.asksFor := by
  have hall (now : UInt32) : t.history now none gatewayCapacity = t.roster.reports :=
    (hholds.history_eq_takeWhile hstamped now none).trans
    (List.takeWhile_eq_self_iff.2 fun _ _ ↦ rfl)
  have heverything : t.roster.reports = t.roster.reports.takeWhile fun _ ↦ true :=
    (List.takeWhile_eq_self_iff.2 fun _ _ ↦ rfl).symm
  show HistoryFilter.select (.ofParams q.params q.useTimestamps q.unixTime.isSome)
    (q.unixTime.getD 0) t = _
  -- the filter is chosen by the same questions by which a record is asked for
  unfold HistoryRequest.asksFor
  rw [q.filter_eq]
  split_ifs with htimes hsynced
  · obtain ⟨now, hshown⟩ := Option.isSome_iff_exists.1 hsynced
    rw [hshown]
    exact hholds.history_eq_takeWhile hstamped now (some q.seconds)
  · have hshown : q.unixTime = none := by simpa using hsynced
    rw [hshown]
    exact (hall _).trans heverything
  · cases q.counter? with
    | none => exact (hall _).trans heverything
    | some counter => exact congrArg (List.takeWhile _) (hall _)

end ReportTable.Holds

/-! ### What is behind the end -/

namespace HistoryRequest

open Intake

/-- **An answer holds exactly the records that are asked for.** After every course of frames, drains
and new settings that goes right and does not change whether times are wanted, the table tracks the
last report that it took of each device, the device heard last first, as far as there is room; and a
query is answered with those of them that it asks for, each once and in this order. The document
lists these records under the gateway's header, and they are counted right. -/
theorem records_answer_of_orderly (company : UInt16) (useTimestamps : Bool) {turns : List Turn}
    (hleaves : ∀ t ∈ turns, t.Leaves useTimestamps)
    (horderly : ((Course.start company useTimestamps : Course gatewayCapacity).follow turns).Orderly
      useTimestamps)
    (q : HistoryRequest) (gateway : Address) :
    let c := (Course.start company useTimestamps : Course gatewayCapacity).follow turns
    let tracked := (recent c.taken).take gatewayCapacity
    let header : RecordsHeader := {
      coordinates := q.coordinates
      gateway := gateway.text
      timestamp := q.unixTime
      nonce := none
      useTimestamps := q.useTimestamps }
    c.intake.table.tracked = tracked.length ∧ (tracked.map Report.address).Nodup ∧
      (q.answer gateway c.intake.table).records = tracked.filter q.asksFor ∧
      (q.answer gateway c.intake.table).records.length = tracked.countP q.asksFor ∧
      (q.answer gateway c.intake.table).count = tracked.countP q.asksFor ∧
      (q.answer gateway c.intake.table).document =
        recordsDocument header (tracked.filter q.asksFor) := by
  intro c tracked header
  have htells : c.Tells := (Course.tells_start company useTimestamps).follow turns
  have hascends : c.Ascends useTimestamps :=
    (Course.ascends_start company useTimestamps).follow hleaves horderly
  obtain ⟨L, hholds⟩ := htells.holds
  have hreports : c.intake.table.roster.reports = tracked := htells.remembers
  have hdescend := htells.pairwise_reports hascends.ascend
  have hcomplete : (q.answer gateway c.intake.table).records = tracked.filter q.asksFor := by
    rw [hholds.records_answer (fun r ↦ htells.timestamp_ne_zero), ← hreports]
    exact takeWhile_eq_filter (hdescend.imp asksFor_of_le)
  have hcounted : (q.answer gateway c.intake.table).records.length = tracked.countP q.asksFor := by
    rw [hcomplete, List.countP_eq_length_filter]
  refine ⟨?_, ?_, hcomplete, hcounted, hcounted, ?_⟩
  · rw [hholds.tracked_eq, ← hreports, hholds.roster_eq, List.length_map]
  · exact hreports ▸ hholds.wellFormed_roster.distinct
  · exact congrArg (recordsDocument header) hcomplete

/-- Two devices: one is heard before the clock shows a time, then the other, and an hour and a
second later the first again. A query for the last hour is answered with the first alone. -/
theorem records_answer_of_two :
    let body (b : UInt8) : Option (List UInt8) :=
      some (Sighting.body ⟨⟨b, 0, 0, 0, 0, 0⟩, -60, .empty⟩)
    let turns : List Turn := [.frame none (body 1), .frame (some 1700000000) (body 2), .drain 2,
      .frame (some 1700003601) (body 1)]
    let c := (Course.start 0x0499 true : Course gatewayCapacity).follow turns
    let q : HistoryRequest := ⟨none, true, some 1700003601, ""⟩
    (∀ t ∈ turns, t.Leaves true) ∧ c.Orderly true ∧
      (q.answer .zero c.intake.table).records.map (fun r ↦ (r.address.b0, r.timestamp)) =
        [(1, 1700003601)] := by
  intro body turns c q
  have hleaves : ∀ t ∈ turns, t.Leaves true := by simp [turns, Turn.Leaves]
  have hstamped : c.stamped = [⟨none, 1, true⟩, ⟨some 1700000000, 1700000000, false⟩,
      ⟨some 1700003601, 1700003601, false⟩] := by decide +kernel
  have horderly : c.Orderly true := by
    constructor
    · rw [Course.numbered, hstamped]
      decide
    · intro _
      rw [hstamped]
      simp [Stamping.Precedes]
  refine ⟨hleaves, horderly, ?_⟩
  rw [(records_answer_of_orderly 0x0499 true hleaves horderly q .zero).2.2.1]
  decide +kernel

end HistoryRequest

end BeaconGateway
