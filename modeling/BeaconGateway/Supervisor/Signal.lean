import BeaconGateway.Signal.Set

/-!
# The signals of the supervisor

## Main definitions

* `SupervisorSignal` — what the supervisor reacts to, in the order in which it does.
-/

namespace BeaconGateway

/-- What the supervisor reacts to, in the order in which it does within one wake-up. -/
inductive SupervisorSignal where
  /-- Sample the free memory. -/
  | logHeapUsage
  /-- Look for new firmware if it may be looked for now. -/
  | checkForUpdates
  /-- Look again in two weeks. -/
  | scheduleNextCheck
  /-- Look again in an hour. -/
  | scheduleRetry
  /-- Enter configuration mode. -/
  | activateConfigMode
  /-- Leave configuration mode. -/
  | deactivateConfigMode
  /-- Restart what depends on the configuration. -/
  | restartServices
  /-- Ask for the remote configuration. -/
  | checkForRemoteConfig
  /-- The first link came up. -/
  | networkConnected
  /-- The last link went down. -/
  | networkDisconnected
  /-- Connect to the network again. -/
  | reconnectNetwork
  /-- Go back to the default configuration. -/
  | setDefaultConfig
  /-- A local client asked for history. -/
  | historyServed
  /-- No local client has asked for history for too long. -/
  | historyTimeout
  /-- Relaying was suspended or resumed. -/
  | relayingModeChanged
  /-- Feed the watchdog. -/
  | feedWatchdog
  /-- End the task. -/
  | stop
  deriving DecidableEq

namespace SupervisorSignal

/-- The number of a signal. -/
def index : SupervisorSignal → Nat
  | logHeapUsage => 0
  | checkForUpdates => 1
  | scheduleNextCheck => 2
  | scheduleRetry => 3
  | activateConfigMode => 4
  | deactivateConfigMode => 5
  | restartServices => 6
  | checkForRemoteConfig => 7
  | networkConnected => 8
  | networkDisconnected => 9
  | reconnectNetwork => 10
  | setDefaultConfig => 11
  | historyServed => 12
  | historyTimeout => 13
  | relayingModeChanged => 14
  | feedWatchdog => 15
  | stop => 16

/-- The name of a signal. -/
def name : SupervisorSignal → String
  | logHeapUsage => "LogHeapUsage"
  | checkForUpdates => "CheckForFwUpdates"
  | scheduleNextCheck => "ScheduleNextCheckForFwUpdates"
  | scheduleRetry => "ScheduleRetryCheckForFwUpdates"
  | activateConfigMode => "ActivateCfgMode"
  | deactivateConfigMode => "DeactivateCfgMode"
  | restartServices => "RestartServices"
  | checkForRemoteConfig => "CheckForRemoteCfg"
  | networkConnected => "NetworkConnected"
  | networkDisconnected => "NetworkDisconnected"
  | reconnectNetwork => "ReconnectNetwork"
  | setDefaultConfig => "SetDefaultConfig"
  | historyServed => "OnGetHistory"
  | historyTimeout => "OnGetHistoryTimeout"
  | relayingModeChanged => "RelayingModeChanged"
  | feedWatchdog => "TaskWatchdogFeed"
  | stop => "Stop"

instance : SignalKind SupervisorSignal where
  all := [logHeapUsage, checkForUpdates, scheduleNextCheck, scheduleRetry, activateConfigMode,
    deactivateConfigMode, restartServices, checkForRemoteConfig, networkConnected,
    networkDisconnected, reconnectNetwork, setDefaultConfig, historyServed, historyTimeout,
    relayingModeChanged, feedWatchdog, stop]
  index := index
  name := name
  mem_all s := by cases s <;> simp
  index_lt s := by cases s <;> decide
  ascending := by decide

end SupervisorSignal

end BeaconGateway
