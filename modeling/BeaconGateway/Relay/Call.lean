import BeaconGateway.Document.Status
import BeaconGateway.Outside
import BeaconGateway.Restart
import BeaconGateway.Watchdog

/-!
# What the relay asks of the outside

## Main definitions

* `Relay.Call` — a question of the relay;
* `Relay.Contact` — how its questions are answered, and the clock that it looks at;
* `Relay.Contact.recorded` — the same answers, with a record of the questions.
-/

namespace BeaconGateway.Relay

/-- A question of the relay. The answer says whether what was asked for was done. -/
inductive Call where
  /-- Tell the backend that the gateway is online. -/
  | online (nonce : UInt32)
  /-- Post a batch to the backend under a number. -/
  | batch (records : List Report) (nonce : UInt32)
  /-- Publish a batch through the broker. -/
  | publish (records : List Report)
  /-- Post a status report. -/
  | statistics (report : StatusReport)
  /-- Restart the gateway. -/
  | restart (reason : RestartReason)
  /-- Ask something of the task watchdog. -/
  | watchdog (call : WatchdogCall)

/-- How the relay's questions are answered, and the clock that it looks at. -/
structure Contact (ω : Type) where
  /-- How questions are answered. -/
  ask : Ask Call Bool ω
  /-- The milliseconds since the start; the clock wraps. -/
  uptime : ω → UInt32

/-- The same answers, with a record of questions and answers beside the outside. -/
def Contact.recorded {ω : Type} (contact : Contact ω) : Contact (ω × List (Call × Bool)) where
  ask := contact.ask.recorded
  uptime := fun (outside, _) ↦ contact.uptime outside

end BeaconGateway.Relay
