import BeaconGateway.Error
import BeaconGateway.Report.Basic
import BeaconGateway.Report.Samples
import BeaconGateway.Wire.Command

/-!
# Report bodies

The body of a report frame has a fixed head of nine bytes and then the advertisement:

| command | address | signal | length | advertisement  |
|---------|---------|--------|--------|----------------|
| 1 byte  | 6 bytes | 1 byte | 1 byte | length bytes   |

A body is checked in full before anything is made of it. Bytes after the advertisement are ignored.

## Main definitions

* `Report.ofBody` — the report in a body, or why there is none;
* `reportBody` — the body that announces a sighting.
-/

namespace BeaconGateway

/-- The bytes before the advertisement. -/
def bodyHead : Nat := 9

/-- The report in the body of a frame, stamped as told. Of several faults the first counts: no
bytes, another command, a head cut short, a declared length over the limit, an advertisement cut
short. -/
def Report.ofBody (body : List UInt8) (timestamp : UInt32) (company : UInt16) :
    Except FrameError Report :=
  match body with
  | [] => .error .missing
  | command :: rest =>
    if command ≠ Command.advReport.byte then .error (.wrongCommand command)
    else
      match rest with
      | b0 :: b1 :: b2 :: b3 :: b4 :: b5 :: signal :: size :: data =>
        if h : size.toNat ≤ maxPayload then
          if data.length < size.toNat then
            .error (.truncated body.length (bodyHead + size.toNat))
          else
            .ok {
              address := ⟨b0, b1, b2, b3, b4, b5⟩
              timestamp
              samples := countSamples company (data.take size.toNat)
              rssi := signal.toInt8
              payload := ⟨data.take size.toNat, Nat.le_trans (List.length_take_le ..) h⟩ }
        else .error (.payloadTooLong size.toNat maxPayload)
      | _ => .error (.truncated body.length bodyHead)

/-- The body that announces a sighting. The length byte keeps the low eight bits of the length. -/
def reportBody (address : Address) (rssi : Int8) (advertisement : List UInt8) : List UInt8 :=
  Command.advReport.byte :: (address.toList ++
    rssi.toUInt8 :: UInt8.ofNat advertisement.length :: advertisement)

end BeaconGateway
