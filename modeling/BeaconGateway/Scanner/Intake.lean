import BeaconGateway.Metrics
import BeaconGateway.Report.Body
import BeaconGateway.Table.Basic

/-!
# Intake of reports

Report frames from the scanner become records of the table. A frame is checked in full first, so a
rejected one leaves no trace but its count, and uses up no running number. When the table refuses a
report it is counted and dropped; the scanner is never held up.

The stamp of a record is the clock's time if stamps are wanted and the clock is synchronised, and
a running number otherwise. A running number is never zero, and neither is a time that is taken.

## Main definitions

* `Intake` — the table, the counters and the settings of the intake;
* `Intake.nextStamp` — the stamp of the next record;
* `Intake.onFrame` — one frame.
-/

namespace BeaconGateway

/-- The receiving side over a table of `n` slots. -/
structure Intake (n : Nat) where
  /-- The table that reports go to. -/
  table : ReportTable n
  /-- The counters. -/
  metrics : Metrics
  /-- The company whose manufacturer data counts as sensor samples. -/
  company : UInt16
  /-- Whether records are stamped with the clock's time. -/
  useTimestamps : Bool
  /-- The last running number given out. -/
  counter : UInt32

namespace Intake

variable {n : Nat}

/-- An intake that has seen nothing. -/
def new (company : UInt16) (useTimestamps : Bool) : Intake n where
  table := .new
  metrics := .zero
  company := company
  useTimestamps := useTimestamps
  counter := 0

/-- Take over new settings. -/
def reconfigure (i : Intake n) (company : UInt16) (useTimestamps : Bool) : Intake n :=
  { i with company, useTimestamps }

/-- The running number after another: it wraps to one. -/
def following (counter : UInt32) : UInt32 :=
  if counter + 1 = 0 then 1 else counter + 1

/-- The stamp of the next record, given the clock's time if it is synchronised. A clock that shows
zero counts as not synchronised. -/
def nextStamp (i : Intake n) (unixTime : Option UInt32) : UInt32 × Intake n :=
  let running := (following i.counter, { i with counter := following i.counter })
  match unixTime with
  | some now => if i.useTimestamps ∧ now ≠ 0 then (now, i) else running
  | none => running

/-- Put a checked report into the table under the next stamp. -/
def accept (i : Intake n) (unixTime : Option UInt32) (report : Report) :
    Except Error PutOutcome × Intake n :=
  let (timestamp, i) := i.nextStamp unixTime
  match i.table.put { report with timestamp } with
  | (.ok outcome, table) => (.ok outcome, { i with table })
  | (.error cause, table) =>
    (.error (.table cause), { i with table, metrics := i.metrics.addDropped })

/-- One frame, or the lack of one, at the clock's time. -/
def onFrame (i : Intake n) (unixTime : Option UInt32) (body : Option (List UInt8)) :
    Except Error PutOutcome × Intake n :=
  let i := { i with metrics := i.metrics.addReceived }
  match Report.ofBody (body.getD []) 0 i.company with
  | .error cause => (.error (.frame cause), { i with metrics := i.metrics.addMalformed })
  | .ok report => i.accept unixTime report

end Intake

end BeaconGateway
