import BeaconGateway.Document.Records

/-!
# Status documents

A status report says how the gateway does and lists the devices that it tracks: those whose last
advertisement carried sensor samples as active, with the number of samples, and the others as
inactive. Before its first batch on a connection the gateway says only that it is online.

## Main definitions

* `StatusReport` — a status report;
* `StatusReport.active`, `StatusReport.inactive` — its two lists;
* `StatusReport.document`, `onlineDocument` — the documents.
-/

namespace BeaconGateway

/-- How the gateway does, and the devices that it tracks. -/
structure StatusReport where
  /-- The scanner's address. -/
  scanner : String
  /-- The version of the gateway's firmware. -/
  gatewayFirmware : String
  /-- The version of the scanner's firmware. -/
  scannerFirmware : String
  /-- The seconds since the start. -/
  uptime : UInt32
  /-- The number of the latest batch. -/
  nonce : UInt32
  /-- The connection in use. -/
  connection : String
  /-- How often the network was lost. -/
  connectionsLost : UInt32
  /-- The tracked devices. -/
  records : List Report

namespace StatusReport

/-- The devices whose last advertisement carried sensor samples. -/
def active (s : StatusReport) : List Report :=
  s.records.filter fun r ↦ r.samples != 0

/-- The other devices. -/
def inactive (s : StatusReport) : List Report :=
  s.records.filter fun r ↦ r.samples == 0

/-- An active device with its number of samples. -/
def activeDocument (r : Report) : Json :=
  .object [("MAC", .string r.address.text), ("COUNTER", .nat r.samples.toNat)]

/-- The document of a status report. -/
def document (s : StatusReport) : Json :=
  .object [("DEVICE_ADDR", .string s.scanner),
    ("ESP_FW", .string s.gatewayFirmware),
    ("NRF_FW", .string s.scannerFirmware),
    ("UPTIME", .word s.uptime),
    ("NONCE", .word s.nonce),
    ("CONNECTION", .string s.connection),
    ("NUM_CONN_LOST", .word s.connectionsLost),
    ("SENSORS_SEEN", .nat s.active.length),
    ("ACTIVE_SENSORS", .array (s.active.map activeDocument)),
    ("INACTIVE_SENSORS", .array (s.inactive.map fun r ↦ .string r.address.text))]

end StatusReport

/-- The document that says that a gateway is online. -/
def onlineDocument (gateway : Address) : Json :=
  .object [("status", .string "online"), ("gw_mac", .string gateway.text)]

end BeaconGateway
