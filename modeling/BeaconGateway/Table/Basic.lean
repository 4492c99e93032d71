import BeaconGateway.Error
import BeaconGateway.Report.Basic
import BeaconGateway.Table.AddressIndex
import BeaconGateway.Table.PendingQueue
import BeaconGateway.Table.Recency

/-!
# The report table

The table remembers the last report of each of up to `n` devices and which of them still have to
be relayed. Its slots are one pool that three structures order: the address index finds the slot of
a device, the order of recency says which slot to give away, and the queue holds the slots whose
report is pending.

| operation                           | index           | recency | queue            |
|-------------------------------------|-----------------|---------|------------------|
| `put`, device known                 |                 | touched | pushed if absent |
| `put`, device new                   | slot given away | touched | pushed if absent |
| `put`, slot to give away is pending |                 |         |                  |
| `drain`                             |                 |         | emptied          |
| `history`                           |                 | walked  |                  |

## Main definitions

* `ReportTable` — the table;
* `PutOutcome` — what became of a report that was taken;
* `ReportTable.put`, `ReportTable.drain`, `ReportTable.history` — its operations.
-/

namespace BeaconGateway

/-- What became of a report that the table took. -/
inductive PutOutcome where
  /-- The device was known, and its report replaced. -/
  | updated
  /-- The device took a slot that had never been used. -/
  | inserted
  /-- The device took the slot of another one, which is forgotten. -/
  | evicted (previous : Address)
  deriving DecidableEq

/-- How many devices the gateway remembers. -/
def gatewayCapacity : Nat := 128

/-- The last reports of up to `n` devices. -/
structure ReportTable (n : Nat) where
  /-- The report in each slot. -/
  records : Slots n Report
  /-- The slot of each device. -/
  index : AddressIndex n
  /-- The slots by recency. -/
  recency : Recency n
  /-- The slots whose report is pending. -/
  queue : PendingQueue n

namespace ReportTable

variable {n : Nat}

/-- A table that has taken no report. -/
def new : ReportTable n where
  records := Slots.fill .blank
  index := .empty
  recency := .new
  queue := .empty

/-- Put a report into the slot of its device: touch the slot, and let it wait to be relayed. -/
def store (t : ReportTable n) (slot : Fin n) (r : Report) : ReportTable n :=
  { t with
    records := t.records.put slot r
    recency := t.recency.touch slot
    queue := (t.queue.push slot).2 }

/-- Take a report. A device that is not known gets the slot touched longest ago, unless that slot
still waits to be relayed: then the report is refused and nothing changes. -/
def put (t : ReportTable n) (r : Report) : Except TableError PutOutcome × ReportTable n :=
  match t.index.find? r.address with
  | some slot => (.ok .updated, t.store slot r)
  | none =>
    match t.recency.back? with
    | none => (.error .full, t)
    | some victim =>
      if t.queue.contains victim then (.error .full, t)
      else
        let (held, index) := t.index.remove victim
        let outcome := if held then .evicted (t.records.get victim).address else .inserted
        (.ok outcome, { t with index := index.insert victim r.address }.store victim r)

/-- Take every pending report off the queue, the one that has waited longest first. The answer is
how many there were and the first `capacity` of them. -/
def drain (t : ReportTable n) (capacity : Nat) : (Nat × List Report) × ReportTable n :=
  let (slots, queue) := t.queue.popAll
  ((slots.length, (slots.map fun slot ↦ t.records.get slot).take capacity), { t with queue })

/-- Whether a report is older than a limit; a stamp in the future is not. -/
def isStale (now limit : UInt32) (r : Report) : Bool :=
  limit.toNat < now.toNat - r.timestamp.toNat

/-- The reports by recency, up to the first slot never used, the first report older than the
limit if there is one, and the capacity. -/
def history (t : ReportTable n) (now : UInt32) (maxAge : Option UInt32) (capacity : Nat) :
    List Report :=
  let fresh (r : Report) : Bool :=
    !r.isBlank && maxAge.all fun limit ↦ !isStale now limit r
  ((t.recency.toList.map fun slot ↦ t.records.get slot).takeWhile fresh).take capacity

/-- How many devices are known. -/
def tracked (t : ReportTable n) : Nat :=
  t.index.size

/-- How many reports are pending. -/
def pending (t : ReportTable n) : Nat :=
  t.queue.size

/-- How many devices can be known. -/
def capacity (_ : ReportTable n) : Nat :=
  n

end ReportTable

end BeaconGateway
