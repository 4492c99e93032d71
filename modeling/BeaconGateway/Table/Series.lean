import BeaconGateway.Table.Basic

/-!
# Reports of many devices

To fill a table without a scanner, the same report is put for one device after another.

## Main definitions

* `Address.next` — the device after another;
* `ReportTable.putSeries` — reports of so many devices.
-/

namespace BeaconGateway

/-- The device after another: the last two bytes count up and wrap. -/
def Address.next (a : Address) : Address :=
  let n := a.b4.toNat * 256 + a.b5.toNat + 1
  { a with b4 := UInt8.ofNat (n / 256), b5 := UInt8.ofNat n }

/-- Put a report for each of `count` devices in a row. The answer is how many were taken. -/
def ReportTable.putSeries {n : Nat} (t : ReportTable n) : (count : Nat) → Report →
    Nat × ReportTable n
  | 0, _ => (0, t)
  | count + 1, r =>
    let (outcome, t) := t.put r
    let (taken, t) := t.putSeries count { r with address := r.address.next }
    (taken + if outcome.isOk then 1 else 0, t)

end BeaconGateway
