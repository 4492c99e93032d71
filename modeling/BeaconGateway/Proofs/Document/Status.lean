import BeaconGateway.Document.Status
import BeaconGateway.Proofs.Document.Records

/-!
# What a status report tells

The backend reads a status report like a batch: as JSON, each member by its name. It finds how the
gateway does, and the devices in two lists, the active ones with their numbers of samples. Both
lists keep the order of the records, and each record is in one of them.

## Main definitions

* `StatusContents` — what a status report says;
* `StatusContents.ofDocument?` — reading it;
* `StatusContents.ofReport` — what the gateway means to say.

## Main results

* `StatusContents.ofDocument?_document` — a status report is read back;
* `StatusContents.devices_ofReport_perm` — its lists have each record once.
-/

namespace BeaconGateway

/-! ### Reading a status report -/

namespace Json

/-- The items of an array. -/
def items? : Json → Option (List Json)
  | .array items => some items
  | _ => none

/-- A natural number of any size. -/
def natural? : Json → Option Nat
  | .number (.ofNat n) => some n
  | _ => none

/-- A number of samples. -/
def samples? (j : Json) : Option UInt16 :=
  (j.nat? (UInt16.size - 1)).map UInt16.ofNat

/-- The address that a text shows. -/
def address? (j : Json) : Option Address :=
  j.string? >>= Address.ofText?

theorem samples?_nat (samples : UInt16) : (nat samples.toNat).samples? = some samples := by
  have hbound : samples.toNat ≤ UInt16.size - 1 := by
    have := samples.toNat_lt_size
    omega
  rw [Json.samples?, nat?_nat hbound]
  exact congrArg some UInt16.ofNat_toNat

theorem address?_text (a : Address) : (string a.text).address? = some a := by
  simp only [address?, string?, Option.bind_eq_bind, Option.bind_some, Address.ofText?_text]

end Json

/-- What a status report says of an active device. -/
structure ActiveContents where
  /-- The device. -/
  address : Address
  /-- How many samples its last advertisement carried. -/
  samples : UInt16
  deriving DecidableEq

/-- Read an active device. -/
def ActiveContents.ofItem? (j : Json) : Option ActiveContents := do
  let members ← j.members?
  let address ← members.lookup "MAC" >>= Json.address?
  let samples ← members.lookup "COUNTER" >>= Json.samples?
  return { address, samples }

/-- What a status report says. -/
structure StatusContents where
  /-- The scanner's address as text. -/
  scanner : String
  /-- The version of the gateway's firmware. -/
  gatewayFirmware : String
  /-- The version of the scanner's firmware. -/
  scannerFirmware : String
  /-- The seconds since the start. -/
  uptime : UInt32
  /-- The number of the latest batch. -/
  nonce : UInt32
  /-- The connection in use. -/
  connection : String
  /-- How often the network was lost. -/
  connectionsLost : UInt32
  /-- How many devices are active. -/
  seen : Nat
  /-- The active devices in order. -/
  active : List ActiveContents
  /-- The other devices in order. -/
  inactive : List Address

namespace StatusContents

/-- **Read a status report.** -/
def ofDocument? (j : Json) : Option StatusContents := do
  let document ← j.members?
  let scanner ← document.lookup "DEVICE_ADDR" >>= Json.string?
  let gatewayFirmware ← document.lookup "ESP_FW" >>= Json.string?
  let scannerFirmware ← document.lookup "NRF_FW" >>= Json.string?
  let uptime ← document.lookup "UPTIME" >>= Json.word?
  let nonce ← document.lookup "NONCE" >>= Json.word?
  let connection ← document.lookup "CONNECTION" >>= Json.string?
  let connectionsLost ← document.lookup "NUM_CONN_LOST" >>= Json.word?
  let seen ← document.lookup "SENSORS_SEEN" >>= Json.natural?
  let actives ← document.lookup "ACTIVE_SENSORS" >>= Json.items?
  let active ← actives.mapM ActiveContents.ofItem?
  let others ← document.lookup "INACTIVE_SENSORS" >>= Json.items?
  let inactive ← others.mapM Json.address?
  return {
    scanner, gatewayFirmware, scannerFirmware, uptime, nonce, connection, connectionsLost, seen
    active, inactive }

/-- What a status report is meant to say. -/
def ofReport (s : StatusReport) : StatusContents where
  scanner := s.scanner
  gatewayFirmware := s.gatewayFirmware
  scannerFirmware := s.scannerFirmware
  uptime := s.uptime
  nonce := s.nonce
  connection := s.connection
  connectionsLost := s.connectionsLost
  seen := s.active.length
  active := s.active.map fun r ↦ ⟨r.address, r.samples⟩
  inactive := s.inactive.map Report.address

/-- The devices that a status report lists. -/
def devices (c : StatusContents) : List Address :=
  c.active.map ActiveContents.address ++ c.inactive

end StatusContents

/-! ### Status reports are read back -/

/-- **An active device is read back.** -/
theorem ActiveContents.ofItem?_activeDocument (r : Report) :
    ofItem? (StatusReport.activeDocument r) = some ⟨r.address, r.samples⟩ := by
  simp [ofItem?, StatusReport.activeDocument, Json.members?, List.lookup_cons, Json.address?_text,
    Json.samples?_nat]

namespace StatusContents

/-- **A status report is read back.** -/
theorem ofDocument?_document (s : StatusReport) : ofDocument? s.document = some (ofReport s) := by
  have hactive : (s.active.map StatusReport.activeDocument).mapM ActiveContents.ofItem? =
      some (s.active.map fun r ↦ ⟨r.address, r.samples⟩) := by
    simp only [List.mapM_map, Function.comp_def, ActiveContents.ofItem?_activeDocument]
    exact List.mapM_pure
  have hinactive : (s.inactive.map fun r ↦ Json.string r.address.text).mapM Json.address? =
      some (s.inactive.map Report.address) := by
    simp only [List.mapM_map, Function.comp_def, Json.address?_text]
    exact List.mapM_pure
  have hdistinct : ["DEVICE_ADDR", "ESP_FW", "NRF_FW", "UPTIME", "NONCE", "CONNECTION",
      "NUM_CONN_LOST", "SENSORS_SEEN", "ACTIVE_SENSORS", "INACTIVE_SENSORS"].Nodup := by decide
  have hread : s.document.members? = some _ := Json.members?_object hdistinct
  rw [ofDocument?, hread]
  -- the texts and the number of active devices are there as they are
  show ((Json.word s.uptime).word?.bind fun uptime ↦ (Json.word s.nonce).word?.bind fun nonce ↦
    (Json.word s.connectionsLost).word?.bind fun connectionsLost ↦
      ((s.active.map StatusReport.activeDocument).mapM ActiveContents.ofItem?).bind fun active ↦
        ((s.inactive.map fun r ↦ Json.string r.address.text).mapM Json.address?).bind
          fun inactive ↦
            some { ofReport s with uptime, nonce, connectionsLost, active, inactive }) =
    _
  rw [Json.word?_word, Json.word?_word, Json.word?_word, hactive, hinactive]
  rfl

/-- **The two lists** have the device of each record once. -/
theorem devices_ofReport_perm (s : StatusReport) :
    (ofReport s).devices.Perm (s.records.map Report.address) := by
  have hothers : s.inactive = s.records.filter fun r ↦ !(r.samples != 0) :=
    List.filter_congr fun r _ ↦ (Bool.not_not _).symm
  have hparts : (s.active ++ s.inactive).Perm s.records := by
    rw [hothers]
    exact List.filter_append_perm (fun r ↦ r.samples != 0) s.records
  have hlisted : (ofReport s).devices = (s.active ++ s.inactive).map Report.address := by
    rw [devices, List.map_append]
    exact congrArg (· ++ _) List.map_map
  rw [hlisted]
  exact hparts.map Report.address

end StatusContents

end BeaconGateway
