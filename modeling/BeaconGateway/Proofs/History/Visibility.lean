import BeaconGateway.Proofs.Scanner.Stamps
import Mathlib.Data.List.TakeWhile

/-!
# Whom a history shows

A stamp of zero marks a slot that holds no report, and a history ends at the first such slot. So a
report under a stamp of zero would be hidden, and would hide every device heard before it. No frame
brings one: running numbers that come round go on with one, and a clock that shows zero counts as
showing nothing. And the slots that hold no report stand behind those that do. So a history without
a limit of age shows every device that is known.

A stamp is a time or a running number, whichever the settings of the moment ask for, and neither is
ever zero. The table has no part in this: it keeps the stamps that it is given.

## Main results

* `ReportTable.Holds.history_eq_reports`, `Intake.Course.Tells.history_eq_recent` — what a history
  without a limit lists;
* `Intake.Course.history_shows_all` — that these are all devices that are known, after any course.
-/

namespace BeaconGateway

variable {n : Nat}

namespace ReportTable.Holds

variable {t : ReportTable n} {L : Layout n}

/-- The roster lists the reports of the slots in use. -/
theorem mem_reports_iff (hholds : t.Holds L) {r : Report} :
    r ∈ t.roster.reports ↔ ∃ slot, t.index.contains slot = true ∧ t.records.get slot = r := by
  simp only [hholds.roster_eq, List.mem_map, hholds.contains_iff]

/-- **A history without a limit** lists the roster, if no stamp is zero and there is room. -/
theorem history_eq_reports (hholds : t.Holds L)
    (hstamped : ∀ r ∈ t.roster.reports, r.timestamp ≠ 0) (now : UInt32) (spare : Nat) :
    t.history now none (n + spare) = t.roster.reports := by
  have hwhole : t.roster.reports.takeWhile (fun r ↦ decide (r.timestamp ≠ 0) && true) =
      t.roster.reports :=
    List.takeWhile_eq_self_iff.2 fun r hknown ↦ by simpa using hstamped r hknown
  have hroom : t.roster.reports.length ≤ n + spare :=
    hholds.wellFormed_roster.length_le.trans (Nat.le_add_right n spare)
  simp only [hholds.history_eq_roster, Roster.history, Option.all_none, hwhole,
    List.take_of_length_le hroom]

end ReportTable.Holds

namespace Intake.Course

/-- An intake whose table is new, after it has given out running numbers up to one. -/
def startFrom (company : UInt16) (useTimestamps : Bool) (counter : UInt32) : Course n where
  intake := { Intake.new company useTimestamps with counter }
  stamped := []
  taken := []

theorem tells_startFrom (company : UInt16) (useTimestamps : Bool) (counter : UInt32) :
    (startFrom company useTimestamps counter : Course n).Tells :=
  have hfresh := tells_start (n := n) company useTimestamps
  ⟨hfresh.holds, hfresh.remembers, hfresh.stamps, hfresh.stamp_ne_zero⟩

/-- A history without a limit lists the last reports that the table took. -/
theorem Tells.history_eq_recent {c : Course n} (htells : c.Tells) (now : UInt32) :
    c.intake.table.history now none n = (recent c.taken).take n := by
  obtain ⟨L, hholds⟩ := htells.holds
  rw [← htells.remembers]
  exact hholds.history_eq_reports (fun r ↦ htells.timestamp_ne_zero) now 0

/-- **No frame hides a device.** An intake has a new table and has given out any running number;
frames come at any time the clock shows or none, and the table is drained and the settings change in
between. Then no slot in use has a stamp of zero, and a history without a limit of age, into as much
room as the table has or more, shows the report of every slot in use, as many as there are devices
known, and no device twice. -/
theorem history_shows_all (company : UInt16) (useTimestamps : Bool) (counter : UInt32)
    (turns : List Turn) (now : UInt32) (spare : Nat) :
    let start : Course n := { Course.start company useTimestamps with intake.counter := counter }
    let t := (start.follow turns).intake.table
    let shown := t.history now none (n + spare)
    (∀ slot, t.index.contains slot = true → (t.records.get slot).timestamp ≠ 0) ∧
      (∀ r, r ∈ shown ↔ ∃ slot, t.index.contains slot = true ∧ t.records.get slot = r) ∧
      shown.length = t.tracked ∧ (shown.map Report.address).Nodup := by
  intro start t shown
  have hbegins : start.Tells := tells_startFrom company useTimestamps counter
  have htells : (start.follow turns).Tells := hbegins.follow turns
  obtain ⟨L, hholds⟩ := htells.holds
  have hlisted : shown = t.roster.reports :=
    hholds.history_eq_reports (fun r ↦ htells.timestamp_ne_zero) now spare
  refine ⟨fun slot hused ↦ ?_, fun r ↦ ?_, ?_, ?_⟩
  · exact htells.timestamp_ne_zero (hholds.mem_reports_iff.2 ⟨slot, hused, rfl⟩)
  · rw [hlisted]
    exact hholds.mem_reports_iff
  · rw [hlisted, hholds.roster_eq, List.length_map]
    exact hholds.tracked_eq.symm
  · rw [hlisted]
    exact hholds.wellFormed_roster.distinct

end Intake.Course

end BeaconGateway
