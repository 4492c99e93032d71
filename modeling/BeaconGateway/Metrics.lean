import BeaconGateway.Text.Decimal

/-!
# Counters

The gateway counts the report frames it received, those whose report the full table refused, and
those that were malformed. The counters have 32 bits and wrap. They are shown in the text format
of metric scrapers: for each counter a line of help, a line with its type, and a line with its
value.

## Main definitions

* `Metrics` — the counters;
* `Metrics.render` — their text.
-/

namespace BeaconGateway

/-- The counters of the receiving side. -/
structure Metrics where
  /-- Report frames received, whatever became of them. -/
  received : UInt32
  /-- Reports that the full table refused. -/
  dropped : UInt32
  /-- Report frames that were malformed. -/
  malformed : UInt32
  deriving DecidableEq

namespace Metrics

/-- Nothing counted. -/
def zero : Metrics :=
  ⟨0, 0, 0⟩

/-- Count a report frame received. -/
def addReceived (m : Metrics) : Metrics :=
  { m with received := m.received + 1 }

/-- Count a report refused by the full table. -/
def addDropped (m : Metrics) : Metrics :=
  { m with dropped := m.dropped + 1 }

/-- Count a malformed report frame. -/
def addMalformed (m : Metrics) : Metrics :=
  { m with malformed := m.malformed + 1 }

/-- The three lines of a counter. -/
def counterText (name help : String) (value : UInt32) : String :=
  "# HELP " ++ name ++ " " ++ help ++ "\n# TYPE " ++ name ++ " counter\n" ++ name ++ " "
    ++ Decimal.ofNat value.toNat ++ "\n"

/-- The text of all counters. -/
def render (m : Metrics) : String :=
  counterText "blegw_received_advertisements"
      "Advertisement frames received from the BLE co-processor" m.received
    ++ counterText "blegw_dropped_advertisements"
      "Advertisements dropped because the table was full" m.dropped
    ++ counterText "blegw_malformed_frames"
      "Advertisement frames rejected by validation" m.malformed

end Metrics

end BeaconGateway
