import BeaconGateway.Address

/-!
# Reports

A report is one sighting of a device: its address, when it was seen, how strong the signal was,
and the advertisement that it sent. The stamp is wall-clock time in seconds while the clock is
synchronised and a running number otherwise; a stamp of zero marks a slot that holds no report.

## Main definitions

* `Payload` — the bytes of an advertisement, at most 62 of them;
* `Report` — a sighting;
* `minSyncedTime` — the earliest stamp that can be wall-clock time.
-/

namespace BeaconGateway

/-- The most bytes that an advertisement may have. -/
def maxPayload : Nat := 62

/-- The bytes of an advertisement, at most 62 of them. -/
structure Payload where
  /-- The bytes. -/
  bytes : List UInt8
  /-- They fit into a record. -/
  fits : bytes.length ≤ maxPayload
  deriving DecidableEq

namespace Payload

/-- An advertisement with no bytes. -/
def empty : Payload :=
  ⟨[], Nat.zero_le _⟩

/-- Accept bytes if they fit. -/
def ofBytes? (bytes : List UInt8) : Option Payload :=
  if h : bytes.length ≤ maxPayload then some ⟨bytes, h⟩ else none

end Payload

/-- One sighting of a device. -/
structure Report where
  /-- The device that was seen. -/
  address : Address
  /-- Seconds since 1970, or a running number while the clock is not synchronised. -/
  timestamp : UInt32
  /-- How many sensor samples the advertisement carries. -/
  samples : UInt16
  /-- The strength of the signal. -/
  rssi : Int8
  /-- The advertisement. -/
  payload : Payload
  deriving DecidableEq

namespace Report

/-- What a slot holds before its first report. -/
def blank : Report :=
  ⟨.zero, 0, 0, 0, .empty⟩

/-- A stamp of zero marks a slot that holds no report. -/
def isBlank (r : Report) : Bool :=
  r.timestamp == 0

end Report

/-- The start of 2020 in seconds since 1970: an earlier stamp is no wall-clock time. -/
def minSyncedTime : UInt32 := 1577836800

end BeaconGateway
