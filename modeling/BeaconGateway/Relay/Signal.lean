import BeaconGateway.Signal.Set

/-!
# The signals of the relay

## Main definitions

* `RelaySignal` — what the relay reacts to, in the order in which it does.
-/

namespace BeaconGateway

/-- What the relay reacts to, in the order in which it does within one wake-up. -/
inductive RelaySignal where
  /-- End the task. -/
  | stop
  /-- Relay what is pending. -/
  | retransmit
  /-- Stop relaying. -/
  | disable
  /-- Go on relaying. -/
  | enable
  /-- Look whether anything has been delivered lately. -/
  | networkWatchdog
  /-- Feed the watchdog. -/
  | feedWatchdog
  /-- Send a status report. -/
  | sendStatistics
  deriving DecidableEq

namespace RelaySignal

/-- The number of a signal. -/
def index : RelaySignal → Nat
  | stop => 0
  | retransmit => 1
  | disable => 2
  | enable => 3
  | networkWatchdog => 4
  | feedWatchdog => 5
  | sendStatistics => 6

/-- The name of a signal. -/
def name : RelaySignal → String
  | stop => "Stop"
  | retransmit => "Retransmit"
  | disable => "DisableRetransmission"
  | enable => "EnableRetransmission"
  | networkWatchdog => "NetworkWatchdog"
  | feedWatchdog => "TaskWatchdogFeed"
  | sendStatistics => "SendStatistics"

instance : SignalKind RelaySignal where
  all := [stop, retransmit, disable, enable, networkWatchdog, feedWatchdog, sendStatistics]
  index := index
  name := name
  mem_all s := by cases s <;> simp
  index_lt s := by cases s <;> decide
  ascending := by decide

end RelaySignal

end BeaconGateway
