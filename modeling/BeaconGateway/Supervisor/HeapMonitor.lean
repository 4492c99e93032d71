/-!
# The watch on free memory

Free memory is sampled ten times a second, and a hundred samples make a window. A window whose
largest sample stays under the limit is low; the third low window in a row, and every low one after
it, is taken for a leak.

## Main definitions

* `HeapMonitor` — the window in progress and the low windows in a row;
* `HeapVerdict` — what a sample leads to;
* `HeapMonitor.sample` — one sample.
-/

namespace BeaconGateway

/-- What a sample of free memory leads to. -/
inductive HeapVerdict where
  /-- The window is not full. -/
  | sampling
  /-- The window is full, and not low. -/
  | windowOk (min max : UInt32)
  /-- The window is low, the `consecutive`-th in a row. -/
  | windowLow (min max consecutive : UInt32)
  /-- Too many low windows in a row; `min` is the least sample of the last one. -/
  | reboot (min : UInt32)
  deriving DecidableEq

/-- The window in progress and the low windows in a row. -/
structure HeapMonitor where
  /-- The samples in the window. -/
  samples : Nat
  /-- The least of them. -/
  min : UInt32
  /-- The largest of them. -/
  max : UInt32
  /-- The low windows in a row. -/
  lowWindows : UInt32
  /-- A window under this limit is low. -/
  limit : UInt32
  deriving DecidableEq

namespace HeapMonitor

/-- The time between samples, in milliseconds. -/
def samplePeriod : Nat := 100

/-- The samples in a window of ten seconds. -/
def windowSize : Nat := 100

/-- The limit of the gateway: fifty kibibytes. -/
def defaultLimit : UInt32 := 50 * 1024

/-- The low windows in a row that are taken for a leak. -/
def maxLowWindows : UInt32 := 3

/-- An empty window, after some low ones in a row. -/
def fresh (limit lowWindows : UInt32) : HeapMonitor :=
  ⟨0, 0xFFFFFFFF, 0, lowWindows, limit⟩

/-- A monitor that has seen nothing. -/
def new (limit : UInt32) : HeapMonitor :=
  .fresh limit 0

/-- Judge a full window. -/
def judge (m : HeapMonitor) : HeapVerdict × HeapMonitor :=
  if m.limit ≤ m.max then (.windowOk m.min m.max, .fresh m.limit 0)
  else
    let low := m.lowWindows + 1
    let verdict := if maxLowWindows ≤ low then .reboot m.min else .windowLow m.min m.max low
    (verdict, .fresh m.limit low)

/-- One sample. -/
def sample (m : HeapMonitor) (free : UInt32) : HeapVerdict × HeapMonitor :=
  let m := { m with
    samples := m.samples + 1
    min := if free < m.min then free else m.min
    max := if m.max < free then free else m.max }
  if m.samples < windowSize then (.sampling, m) else m.judge

/-- Samples in order, with the verdict of each. -/
def sampleAll (m : HeapMonitor) : List UInt32 → List HeapVerdict × HeapMonitor
  | [] => ([], m)
  | free :: rest =>
    let (verdict, m) := m.sample free
    let (verdicts, m) := m.sampleAll rest
    (verdict :: verdicts, m)

end HeapMonitor

end BeaconGateway
