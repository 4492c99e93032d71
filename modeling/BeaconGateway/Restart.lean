/-!
# Restarts

## Main definitions

* `RestartReason` — why the gateway restarts, with its wording.
-/

namespace BeaconGateway

/-- Why the gateway restarts. -/
inductive RestartReason where
  /-- Nothing has been delivered for too long. -/
  | networkWatchdog
  /-- Free memory stayed low. -/
  | lowMemory
  deriving DecidableEq

/-- The wording of a reason. -/
def RestartReason.message : RestartReason → String
  | networkWatchdog => "network watchdog"
  | lowMemory => "Low memory"

end BeaconGateway
