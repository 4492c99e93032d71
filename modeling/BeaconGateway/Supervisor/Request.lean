import BeaconGateway.Config.Basic
import BeaconGateway.Outside
import BeaconGateway.Restart
import BeaconGateway.Watchdog

/-!
# What the supervisor asks of the outside

## Main definitions

* `Supervisor.Request` — a question of the supervisor;
* `Supervisor.Contact` — how its questions are answered, with the clock and the free memory that it
  looks at;
* `Supervisor.Contact.recorded` — the same answers, with a record of the questions.
-/

namespace BeaconGateway.Supervisor

/-- What the lamp is to show. -/
inductive LampCall where
  /-- A local client has polled. -/
  | pollOk
  /-- No local client has polled for too long. -/
  | pollTimeout
  /-- Configuration mode begins or ends. -/
  | configMode (active : Bool)
  deriving DecidableEq

/-- A question of the supervisor. The answer says whether what was asked for was done. -/
inductive Request where
  /-- Connect to the broker. -/
  | startMqtt (c : Config)
  /-- Drop the connection to the broker. -/
  | stopMqtt
  /-- Announce the gateway on the local network. -/
  | startMdns
  /-- Announce it no longer. -/
  | stopMdns
  /-- Fetch the remote configuration. -/
  | requestRemoteConfig (c : Config)
  /-- Look for new firmware. -/
  | checkForUpdates
  /-- Connect to the network again. -/
  | reconnectNetwork
  /-- Open the configuration access point. -/
  | startAccessPoint
  /-- Close it. -/
  | stopAccessPoint
  /-- Send the filter and scan settings to the scanner. -/
  | sendScanSettings (c : Config)
  /-- Store a configuration. -/
  | saveConfig (c : Config)
  /-- Show something on the lamp. -/
  | lamp (call : LampCall)
  /-- Restart the gateway. -/
  | restart (reason : RestartReason)
  /-- Ask something of the task watchdog. -/
  | watchdog (call : WatchdogCall)

/-- How the supervisor's questions are answered, with the clock and the free memory. -/
structure Contact (ω : Type) where
  /-- How questions are answered. -/
  ask : Ask Request Bool ω
  /-- The clock's time, if it is synchronised. -/
  unixTime : ω → Option UInt32
  /-- The free memory in bytes. -/
  freeHeap : ω → UInt32

/-- The same answers, with a record of questions and answers beside the outside. -/
def Contact.recorded {ω : Type} (contact : Contact ω) : Contact (ω × List (Request × Bool)) where
  ask := contact.ask.recorded
  unixTime := fun (outside, _) ↦ contact.unixTime outside
  freeHeap := fun (outside, _) ↦ contact.freeHeap outside

end BeaconGateway.Supervisor
