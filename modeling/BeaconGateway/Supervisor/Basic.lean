import BeaconGateway.Config.Basic
import BeaconGateway.Signal.Timer
import BeaconGateway.Supervisor.HeapMonitor
import BeaconGateway.Supervisor.Signal

/-!
# The supervisor's own state

## Main definitions

* `Supervisor` — the state of the supervisor;
* `Supervisor.Timers` — its timers;
* `Supervisor.delayAfterStart`, `Supervisor.historyTimeout` and their like — the periods.
-/

namespace BeaconGateway

namespace Supervisor

/-! ### Periods, in milliseconds -/

/-- From the start, or from a restart of the services, to the first look for new firmware: ten
minutes. -/
def delayAfterStart : Nat := 10 * 60 * 1000

/-- From a look for new firmware that failed or was skipped to the next: an hour. -/
def delayBeforeRetry : Nat := 60 * 60 * 1000

/-- From a look for new firmware that succeeded to the next: two weeks. -/
def delayAfterSuccess : Nat := 14 * 24 * 60 * 60 * 1000

/-- The time between two fetches of the remote configuration until it is configured: an hour. -/
def defaultRemotePeriod : Nat := 60 * 60 * 1000

/-- After so long without a query the lamp shows that no local client polls: seventy seconds. -/
def historyTimeout : Nat := 70 * 1000

/-- The time between two feeds of the task watchdog: a second. -/
def feedPeriod : Nat := 1000

/-- The time between two fetches of the remote configuration, given in minutes. -/
def remotePeriod (minutes : UInt16) : Nat :=
  minutes.toNat * 60 * 1000

/-- The timers of the supervisor. -/
structure Timers where
  /-- Time to sample the free memory. -/
  heap : Timer SupervisorSignal
  /-- Time to look for new firmware. -/
  updates : Timer SupervisorSignal
  /-- Time to fetch the remote configuration. -/
  remote : Timer SupervisorSignal
  /-- No local client has asked for history for too long. -/
  history : Timer SupervisorSignal
  /-- Time to feed the task watchdog. -/
  feedWatchdog : Timer SupervisorSignal

namespace Timers

/-- The timers, none of them armed. -/
def new : Timers where
  heap := .new "heap_usage" .periodic .logHeapUsage HeapMonitor.samplePeriod (by decide)
  updates := .new "fw_updates" .oneShot .checkForUpdates delayAfterStart (by decide)
  remote := .new "remote_cfg" .periodic .checkForRemoteConfig defaultRemotePeriod (by decide)
  history := .new "history_timeout" .oneShot .historyTimeout historyTimeout (by decide)
  feedWatchdog := .new "main_task_wdt" .periodic .feedWatchdog feedPeriod (by decide)

/-- Disarm all timers. -/
def stopAll (t : Timers) : Timers where
  heap := t.heap.stop
  updates := t.updates.stop
  remote := t.remote.stop
  history := t.history.stop
  feedWatchdog := t.feedWatchdog.stop

end Timers

end Supervisor

/-- The state of the supervisor. -/
structure Supervisor where
  /-- The configuration in force. -/
  config : Config
  /-- Its timers. -/
  timers : Supervisor.Timers
  /-- The watch on free memory. -/
  heap : HeapMonitor
  /-- Whether the gateway is in configuration mode. -/
  configMode : Bool
  /-- Whether the remote configuration was fetched, or was about to be, when the network first came
  up. -/
  remoteFetched : Bool
  /-- Whether it was asked to end. -/
  stopRequested : Bool

/-- The supervisor of a configured gateway. -/
def Supervisor.new (c : Config) : Supervisor where
  config := c
  timers := .new
  heap := .new HeapMonitor.defaultLimit
  configMode := false
  remoteFetched := false
  stopRequested := false

end BeaconGateway
