/-!
# Services

The gateway's announcement on the local network and its access point are up or down; fetches of the
remote configuration, looks for new firmware and new connections to the network are counted.

## Main definitions

* `Services` — what is up, and the counts.
-/

namespace BeaconGateway

/-- What is up, and the counts. -/
structure Services where
  /-- Whether the gateway is announced on the local network. -/
  mdns : Bool
  /-- Whether the configuration access point is open. -/
  accessPoint : Bool
  /-- How often the remote configuration was fetched; the count wraps. -/
  remoteRequests : UInt32
  /-- How often new firmware was looked for; the count wraps. -/
  updateChecks : UInt32
  /-- How often the network was connected to again; the count wraps. -/
  reconnects : UInt32
  deriving DecidableEq

/-- Nothing is up, and nothing was counted. -/
def Services.idle : Services :=
  ⟨false, false, 0, 0, 0⟩

end BeaconGateway
