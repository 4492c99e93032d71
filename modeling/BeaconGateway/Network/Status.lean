/-!
# Network status

One word says how the gateway is connected: a bit each for the Wi-Fi link, the broker connection,
the Ethernet link, and for relaying being suspended. Beside it stands how often the network was
lost, that is, how often the last link went down.

## Main definitions

* `NetworkStatus` — the word and the count of losses;
* `NetworkStatus.set`, `NetworkStatus.clear` — raise and lower bits;
* `NetworkStatus.isConnected`, `NetworkStatus.isBrokerConnected`, `NetworkStatus.isSuspended` —
  what the bits say;
* `Connection` — the connection that status reports name.
-/

namespace BeaconGateway

/-- How the gateway is connected. -/
structure NetworkStatus where
  /-- The bits. -/
  bits : UInt32
  /-- How often the last link went down; the count wraps. -/
  lost : UInt32
  deriving DecidableEq

/-- A connection as status reports name it. -/
inductive Connection where
  | wifi
  | ethernet
  | none
  deriving DecidableEq

/-- The name of a connection. -/
def Connection.text : Connection → String
  | .wifi => "WIFI"
  | .ethernet => "ETHERNET"
  | .none => "NONE"

namespace NetworkStatus

/-- The bit of the Wi-Fi link. -/
def wifi : UInt32 := 1

/-- The bit of the broker connection. -/
def broker : UInt32 := 2

/-- The bit of the Ethernet link. -/
def ethernet : UInt32 := 4

/-- The bit of relaying being suspended. -/
def suspended : UInt32 := 8

/-- The bits of both links. -/
def links : UInt32 := wifi ||| ethernet

/-- Nothing is connected, and nothing was lost. -/
def down : NetworkStatus :=
  ⟨0, 0⟩

/-- Raise the bits of a mask. -/
def set (s : NetworkStatus) (mask : UInt32) : NetworkStatus :=
  { s with bits := s.bits ||| mask }

/-- Lower the bits of a mask. A loss is counted if that takes down the last link. -/
def clear (s : NetworkStatus) (mask : UInt32) : NetworkStatus :=
  let bits := s.bits &&& ~~~mask
  let loses := mask &&& links ≠ 0 ∧ s.bits &&& links ≠ 0 ∧ bits &&& links = 0
  ⟨bits, if loses then s.lost + 1 else s.lost⟩

/-- Whether a bit of a mask is up. -/
def isSet (s : NetworkStatus) (mask : UInt32) : Bool :=
  s.bits &&& mask != 0

/-- Whether a link is up. -/
def isConnected (s : NetworkStatus) : Bool :=
  s.isSet links

/-- Whether the broker connection is up. -/
def isBrokerConnected (s : NetworkStatus) : Bool :=
  s.isSet broker

/-- Whether relaying is suspended. -/
def isSuspended (s : NetworkStatus) : Bool :=
  s.isSet suspended

/-- The connection that status reports name: Ethernet before Wi-Fi. -/
def connection (s : NetworkStatus) : Connection :=
  if s.isSet ethernet then .ethernet
  else if s.isSet wifi then .wifi
  else .none

/-- The broker connection has come up or gone down. -/
def onBroker (s : NetworkStatus) (connected : Bool) : NetworkStatus :=
  if connected then s.set broker else s.clear broker

end NetworkStatus

end BeaconGateway
