import BeaconGateway.Document.Records
import BeaconGateway.History.Filter
import BeaconGateway.Table.Basic

/-!
# History queries

A local client asks for the records that the table remembers and gets them as a document, the
device seen last first.

## Main definitions

* `HistoryRequest`, `HistoryResponse` — a query and its answer;
* `HistoryFilter.select` — the records that a filter lets through;
* `HistoryRequest.answer` — the answer to a query.
-/

namespace BeaconGateway

/-- A query of a local client. -/
structure HistoryRequest where
  /-- Its parameter. -/
  params : Option String
  /-- Whether the stamps of records are times. -/
  useTimestamps : Bool
  /-- The clock's time, if it is synchronised. -/
  unixTime : Option UInt32
  /-- Where the gateway stands. -/
  coordinates : String

/-- The answer to a query. -/
structure HistoryResponse where
  /-- The document. -/
  document : Json
  /-- The records in it. -/
  records : List Report
  /-- How many records are in it. -/
  count : Nat
  /-- What was asked for. -/
  filter : HistoryFilter

/-- The records that a filter lets through. The device seen last comes first, so that running
numbers descend, and the first number that is not above the wanted one ends the list. -/
def HistoryFilter.select (f : HistoryFilter) (now : UInt32) (t : ReportTable gatewayCapacity) :
    List Report :=
  match f with
  | .all => t.history now none gatewayCapacity
  | .maxAge seconds => t.history now (some seconds) gatewayCapacity
  | .sinceCounter counter =>
    (t.history now none gatewayCapacity).takeWhile fun r ↦ counter < r.timestamp

/-- The answer to a query to a gateway with an address. -/
def HistoryRequest.answer (q : HistoryRequest) (gateway : Address)
    (t : ReportTable gatewayCapacity) : HistoryResponse :=
  let filter := HistoryFilter.ofParams q.params q.useTimestamps q.unixTime.isSome
  let records := filter.select (q.unixTime.getD 0) t
  let header : RecordsHeader := {
    coordinates := q.coordinates
    gateway := gateway.text
    timestamp := q.unixTime
    nonce := none
    useTimestamps := q.useTimestamps }
  { document := recordsDocument header records, records, count := records.length, filter }

end BeaconGateway
