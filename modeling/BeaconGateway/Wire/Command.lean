import BeaconGateway.Address

/-!
# Commands of the serial link

The first byte of a frame's body is its command. The gateway sends settings and asks for the
scanner's identity; the scanner sends reports, its identity and acknowledgements.

## Main definitions

* `Command` — the commands, with `Command.byte` and `Command.ofByte?`;
* `scannerAddress?` — the scanner's address in the body of an identity frame.
-/

namespace BeaconGateway

/-- What a frame is about. -/
inductive Command where
  /-- To the scanner: let only one company's advertisements through. -/
  | setFilter
  /-- To the scanner: let everything through. -/
  | clearFilter
  /-- To the scanner: filter and scan settings at once. -/
  | allFilters
  /-- From the scanner: one advertisement report. -/
  | advReport
  /-- From the scanner: its device id and address. -/
  | deviceId
  /-- From the scanner: settings were taken. -/
  | ack
  /-- To the scanner: ask for its device id and address. -/
  | getDeviceId
  deriving DecidableEq

namespace Command

/-- The byte of a command. -/
def byte : Command → UInt8
  | setFilter => 0x01
  | clearFilter => 0x02
  | allFilters => 0x03
  | advReport => 0x10
  | deviceId => 0x11
  | ack => 0x12
  | getDeviceId => 0x13

/-- Every command. -/
def all : List Command :=
  [setFilter, clearFilter, allFilters, advReport, deviceId, ack, getDeviceId]

/-- The command that a byte stands for. -/
def ofByte? (b : UInt8) : Option Command :=
  all.find? fun c ↦ c.byte == b

theorem ofByte?_byte (c : Command) : ofByte? c.byte = some c := by
  cases c <;> decide

end Command

/-! ### The scanner's identity -/

/-- The bytes of a device id, which stands before the address. -/
def deviceIdLength : Nat := 8

/-- The scanner's address in the body of an identity frame: after the command byte come the device
id and the six bytes of the address, and whatever follows is ignored. -/
def scannerAddress? (body : List UInt8) : Option Address :=
  Address.ofBytes? ((body.drop (1 + deviceIdLength)).take 6)

end BeaconGateway
