import BeaconGateway.Network.Status
import BeaconGateway.Supervisor.Signal

/-!
# Links going up and down

A link going up or down moves its bit of the network status. When that brings the first link up or
takes the last one down, the supervisor is told; when the Wi-Fi link goes down, it is also asked to
connect again.

## Main definitions

* `Link`, `LinkEvent` — the links and what happens to them;
* `NetworkStatus.onLink` — an event, with the signals that it sends to the supervisor.
-/

namespace BeaconGateway

/-- A link to the network. -/
inductive Link where
  | wifi
  | ethernet
  deriving DecidableEq

/-- The bit of a link. -/
def Link.mask : Link → UInt32
  | .wifi => NetworkStatus.wifi
  | .ethernet => NetworkStatus.ethernet

/-- What happens to a link. -/
inductive LinkEvent where
  /-- The link has come up. -/
  | up (link : Link)
  /-- The link has gone down. -/
  | down (link : Link)
  deriving DecidableEq

namespace LinkEvent

/-- Move the bit of the link. -/
def apply : LinkEvent → NetworkStatus → NetworkStatus
  | up link, s => s.set link.mask
  | down link, s => s.clear link.mask

/-- The signal for the network as a whole having come up or gone down. -/
def edge (before after : Bool) : List SupervisorSignal :=
  match before, after with
  | false, true => [.networkConnected]
  | true, false => [.networkDisconnected]
  | _, _ => []

/-- The wish to connect again, when the Wi-Fi link goes down. -/
def reconnect (e : LinkEvent) : List SupervisorSignal :=
  if e = down .wifi then [.reconnectNetwork] else []

end LinkEvent

/-- A link goes up or down: the new status, and the signals to the supervisor in order. -/
def NetworkStatus.onLink (s : NetworkStatus) (e : LinkEvent) :
    NetworkStatus × List SupervisorSignal :=
  let s' := e.apply s
  (s', LinkEvent.edge s.isConnected s'.isConnected ++ e.reconnect)

end BeaconGateway
