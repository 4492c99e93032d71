import BeaconGateway.Config.Basic
import BeaconGateway.Wire.Command
import BeaconGateway.Wire.Frame

/-!
# What the gateway sends to the scanner

Filter and scan settings go out in one frame: the company, low byte first, and a byte of flags.
Without a payload goes the question for the scanner's identity.

## Main definitions

* `scanFlags` — the byte of flags;
* `settingsFrame` — the frame of the settings;
* `identityRequest` — the frame that asks for the scanner's identity.
-/

namespace BeaconGateway

/-- The flags of the filter and scan settings, one bit each from the lowest up: filtering, coded
PHY, one-megabit PHY, extended payload, and the three channels. -/
def scanFlags (filter : Config.Filter) (scan : Config.Scan) : UInt8 :=
  [(filter.enabled, 0x01), (scan.codedPhy, 0x02), (scan.oneMbitPhy, 0x04),
    (scan.extendedPayload, 0x08), (scan.channel37, 0x10), (scan.channel38, 0x20),
    (scan.channel39, 0x40)].foldl (fun flags (on, flag) ↦ if on then flags ||| flag else flags) 0

/-- The frame of the filter and scan settings. -/
def settingsFrame (filter : Config.Filter) (scan : Config.Scan) : List UInt8 :=
  Frame.bytes Command.allFilters.byte
    [Checksum.lowByte filter.company, Checksum.highByte filter.company, scanFlags filter scan]

/-- The frame that asks for the scanner's identity. -/
def identityRequest : List UInt8 :=
  Frame.bytes Command.getDeviceId.byte []

end BeaconGateway
