import BeaconGateway.Gateway.Basic
import BeaconGateway.Proofs.Relay.Handling

/-!
# Runs of the gateway

A run is any sequence of what can happen to the gateway while its tasks rest. Each task handles its
signals in one go; between two wake-ups anything may arrive, from anywhere and in any order. The
commands to the relay are the supervisor's alone: nobody else sends them.

A task that was asked to end only makes a note of it, so those signals are not excluded.

The events are what the gateway is open to and not what some surroundings do: any bytes may come
from the scanner, any link may go up or down, and the outside may change between two wake-ups to
whatever it likes. So what holds of all runs holds in all surroundings.

## Main definitions

* `Gateway.Event` — what can happen;
* `Gateway.step`, `Gateway.run` — the gateway after it;
* `Gateway.exists_eq_of_create` — what a run begins with.
-/

namespace BeaconGateway.Gateway

variable {ω : Type}

/-- What can happen to the gateway while its tasks rest. -/
inductive Event (ω : Type) where
  /-- The supervisor begins. -/
  | start
  /-- The supervisor handles signals, whichever they are. -/
  | supervise (signals : SignalSet SupervisorSignal)
  /-- The relay takes what is pending and handles it. -/
  | relay
  /-- The relay is sent a signal that is no command of the supervisor's. -/
  | tell (signal : RelaySignal) (free : signal.command = none)
  /-- A link goes up or down. -/
  | link (event : LinkEvent)
  /-- The broker connection comes up or goes down. -/
  | broker (connected : Bool)
  /-- The table takes a report. -/
  | put (report : Report)
  /-- Bytes arrive from the scanner. -/
  | receive (bytes : List UInt8)
  /-- A local client asks for history. -/
  | query (request : HistoryRequest)
  /-- The outside moves on by itself: time passes, a server goes down. -/
  | outside (move : ω → ω)

/-- The gateway after something has happened to it. -/
def step (w : Wiring ω) (g : Gateway ω) : Event ω → Gateway ω
  | .start => (g.supervisorStart w).2
  | .supervise signals => (g.supervisorHandle w signals).2
  | .relay => (g.relayWake w).2
  | .tell signal _ => (g.tellRelay signal).2
  | .link event => g.onLink event
  | .broker connected => g.onBroker connected
  | .put report =>
    { g with receiver.intake.table := (g.receiver.intake.table.put report).2 }
  | .receive bytes => (g.receive w bytes).2
  | .query request => (g.query request).2
  | .outside move => { g with around.outside := move g.around.outside }

/-- The gateway after a run. -/
def run (w : Wiring ω) (g : Gateway ω) (events : List (Event ω)) : Gateway ω :=
  events.foldl (step w) g

/-- A new gateway is at rest, and its relay is enabled. -/
theorem exists_eq_of_create {w : Wiring ω} {g : Gateway ω} {c : Config} {address : Address}
    {gatewayFirmware scannerFirmware : ShortText} {outside : ω}
    (hcreated : create w c address gatewayFirmware scannerFirmware outside = .ok g) :
    ∃ relay : Relay, relay.enabled = true ∧ g = {
      address
      relay := some relay
      supervisor := some (.new c)
      receiver := .new (.new c.filter.company c.time.useTimestamps)
      net := .down
      historyServed := false
      relayMailbox := Mailbox.new.register
      supervisorMailbox := Mailbox.new.register
      around := .new c address outside } := by
  rcases htimed : Relay.Timers.create c.relay with _ | timers
  · simp [create, Relay.create, htimed, bind, Except.bind] at hcreated
  · simp only [create, Relay.create, htimed, bind, Except.bind, pure, Except.pure,
      Except.ok.injEq] at hcreated
    exact ⟨_, rfl, hcreated.symm⟩

theorem exists_relay_of_create {w : Wiring ω} {g : Gateway ω} {c : Config} {address : Address}
    {gatewayFirmware scannerFirmware : ShortText} {outside : ω}
    (hcreated : create w c address gatewayFirmware scannerFirmware outside = .ok g) :
    ∃ relay : Relay, relay.enabled = true ∧ g.relay = some relay ∧
      g.supervisor = some (.new c) ∧ g.net = .down ∧ g.relayMailbox = Mailbox.new.register := by
  obtain ⟨relay, henabled, rfl⟩ := exists_eq_of_create hcreated
  exact ⟨relay, henabled, rfl, rfl, rfl, rfl⟩

end BeaconGateway.Gateway
