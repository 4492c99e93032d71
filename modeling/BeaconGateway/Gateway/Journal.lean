import BeaconGateway.Http.Client
import BeaconGateway.Indicator
import BeaconGateway.Mqtt.Publisher
import BeaconGateway.Restart
import BeaconGateway.Supervisor.Request
import BeaconGateway.Watchdog

/-!
# The journal

What the gateway does to the outside is written into a journal, in order.

## Main definitions

* `Gateway.Entry` — an entry of the journal;
* `Gateway.Service` — the services as the journal names them.
-/

namespace BeaconGateway.Gateway

/-- A service that the supervisor calls. -/
inductive Service where
  | startMqtt
  | stopMqtt
  | startMdns
  | stopMdns
  | requestRemoteConfig
  | checkForUpdates
  | reconnectNetwork
  | startAccessPoint
  | stopAccessPoint
  | sendScanSettings
  deriving DecidableEq

/-- The tasks that subscribe to the watchdog. -/
inductive Task where
  | relay
  | main
  deriving DecidableEq

/-- An entry of the journal. -/
inductive Entry where
  /-- A document was posted, whatever the answer. -/
  | posted (request : Http.Request)
  /-- The broker took a message. -/
  | published (message : Mqtt.Message)
  /-- A connection to the broker was tried. -/
  | connecting (address : String)
  /-- The serial link took a frame. -/
  | sent (frame : List UInt8)
  /-- The supervisor called a service. -/
  | called (service : Service)
  /-- A task called the watchdog, whose subscription is now this. -/
  | watched (task : Task) (call : WatchdogCall) (after : Watchdog)
  /-- The gateway was to restart. -/
  | restarted (reason : RestartReason)
  /-- The supervisor called the lamp, which now shows this. -/
  | showed (call : Supervisor.LampCall) (after : Indication)
  /-- A configuration was to be stored. -/
  | saved (outcome : Except ConfigError Unit)

end BeaconGateway.Gateway
