import BeaconGateway.Json
import BeaconGateway.Report.Basic

/-!
# Documents about records

A batch of records is one document: a header about the gateway, and under `tags` one member a
record, named for the device. A record published to the broker is a document of its own.

Whether the stamp of a record is a time or a running number shows in the name under which it
stands. The gateway's own time is given only where stamps are times.

## Main definitions

* `RecordsHeader` — what a document says about the gateway;
* `recordsDocument` — the document of a batch;
* `recordDocument` — the document of one record for the broker;
* `payloadText` — an advertisement as text.
-/

namespace BeaconGateway

/-- What a document says about the gateway. -/
structure RecordsHeader where
  /-- Where the gateway stands. -/
  coordinates : String
  /-- The gateway's address. -/
  gateway : String
  /-- The gateway's time, if its clock is synchronised. -/
  timestamp : Option UInt32
  /-- The number of the batch; answers to local clients have none. -/
  nonce : Option UInt32
  /-- Whether the stamps of records are times. -/
  useTimestamps : Bool

/-- The gateway's time where stamps are times. -/
def RecordsHeader.shownTime (h : RecordsHeader) : Option UInt32 :=
  if h.useTimestamps then h.timestamp else none

/-- A word of thirty-two bits as a number. -/
def Json.word (w : UInt32) : Json :=
  .nat w.toNat

/-- The bytes of an advertisement in upper-case hexadecimal digits; no more than a record holds. -/
def payloadText (bytes : List UInt8) : String :=
  Hex.upper (bytes.take maxPayload)

/-- A record inside a batch. -/
def tagDocument (useTimestamps : Bool) (r : Report) : Json :=
  .object [("rssi", .number r.rssi.toInt),
    (if useTimestamps then "timestamp" else "counter", .word r.timestamp),
    ("data", .string (payloadText r.payload.bytes))]

/-- The document of a batch, its records in order. -/
def recordsDocument (h : RecordsHeader) (records : List Report) : Json :=
  .object [("data", .object (
    ("coordinates", .string h.coordinates) ::
    (Json.optional "timestamp" (h.shownTime.map .word) ++
      Json.optional "nonce" (h.nonce.map .word) ++
      [("gw_mac", .string h.gateway),
       ("tags", .object (records.map fun r ↦
          (r.address.text, tagDocument h.useTimestamps r)))])))]

/-- The document of one record for the broker. -/
def recordDocument (h : RecordsHeader) (r : Report) : Json :=
  .object (
    [("gw_mac", .string h.gateway), ("rssi", .number r.rssi.toInt)] ++
      Json.optional "gwts" (h.shownTime.map .word) ++
      [(if h.useTimestamps then "ts" else "cnt", .word r.timestamp),
       ("data", .string (payloadText r.payload.bytes)),
       ("coords", .string h.coordinates)])

end BeaconGateway
