import BeaconGateway.Gateway.Surroundings
import BeaconGateway.History.Query
import BeaconGateway.Network.Link
import BeaconGateway.Relay.System
import BeaconGateway.Scanner.Receiver
import BeaconGateway.Supervisor.System

/-!
# The gateway

The receiver, the relay and the supervisor over one table, one network status and one outside. Each
operation is one thing that happens to the gateway while the tasks rest: a task wakes up, bytes
arrive, a link goes up or down, a local client asks for history.

A task that has ended takes no more part; what is asked of it then comes to nothing.

## Main definitions

* `Gateway` — everything together;
* `Gateway.create` — a configured gateway at rest;
* `Gateway.withRelay`, `Gateway.withSupervisor` — a task does something;
* `Gateway.receive`, `Gateway.onLink`, `Gateway.query` and their like — what happens to it.
-/

namespace BeaconGateway

/-- Everything together. -/
structure Gateway (ω : Type) where
  /-- The gateway's own address. -/
  address : Address
  /-- The relay, until it has ended. -/
  relay : Option Relay
  /-- The supervisor, until it has ended. -/
  supervisor : Option Supervisor
  /-- The receiver, with the intake and the table. -/
  receiver : Receiver gatewayCapacity
  /-- The network status. -/
  net : NetworkStatus
  /-- Whether a local client was served history since the network watchdog last looked. -/
  historyServed : Bool
  /-- Where the relay's signals arrive. -/
  relayMailbox : Mailbox RelaySignal
  /-- Where the supervisor's signals arrive. -/
  supervisorMailbox : Mailbox SupervisorSignal
  /-- What surrounds the tasks. -/
  around : Gateway.Surroundings ω

namespace Gateway

variable {ω : Type} {α : Type}

/-- A configured gateway at rest. It is refused if a timer of the relay has no period. -/
def create (w : Wiring ω) (c : Config) (address : Address)
    (gatewayFirmware scannerFirmware : ShortText) (outside : ω) : Except Error (Gateway ω) := do
  let relay ← Relay.create c gatewayFirmware scannerFirmware (w.uptime outside)
  return {
    address
    relay := some relay
    supervisor := some (.new c)
    receiver := .new (.new c.filter.company c.time.useTimestamps)
    net := .down
    historyServed := false
    relayMailbox := Mailbox.new.register
    supervisorMailbox := Mailbox.new.register
    around := .new c address outside }

/-! ### The tasks -/

/-- The relay with all that it touches. -/
def relaySystem (g : Gateway ω) (relay : Relay) : Relay.System (Surroundings ω) where
  relay
  table := g.receiver.intake.table
  net := g.net
  historyServed := g.historyServed
  scanner := g.receiver.scanner
  mailbox := g.relayMailbox
  outside := g.around

/-- Take over what the relay has changed. -/
def fromRelay (g : Gateway ω) (s : Relay.System (Surroundings ω)) : Gateway ω :=
  { g with
    relay := some s.relay
    receiver.intake.table := s.table
    historyServed := s.historyServed
    relayMailbox := s.mailbox
    around := s.outside }

/-- The relay does something, unless it has ended. -/
def withRelay (g : Gateway ω)
    (act : Relay.System (Surroundings ω) → α × Relay.System (Surroundings ω)) :
    Option α × Gateway ω :=
  match g.relay with
  | none => (none, g)
  | some relay =>
    let (result, s) := act (g.relaySystem relay)
    (some result, g.fromRelay s)

/-- The supervisor with all that it touches. -/
def supervisorSystem (g : Gateway ω) (supervisor : Supervisor) :
    Supervisor.System (Surroundings ω) where
  supervisor
  net := g.net
  relayMailbox := g.relayMailbox
  mailbox := g.supervisorMailbox
  outside := g.around

/-- Take over what the supervisor has changed. -/
def fromSupervisor (g : Gateway ω) (s : Supervisor.System (Surroundings ω)) : Gateway ω :=
  { g with
    supervisor := some s.supervisor
    net := s.net
    relayMailbox := s.relayMailbox
    supervisorMailbox := s.mailbox
    around := s.outside }

/-- The supervisor does something, unless it has ended. -/
def withSupervisor (g : Gateway ω)
    (act : Supervisor.System (Surroundings ω) → α × Supervisor.System (Surroundings ω)) :
    Option α × Gateway ω :=
  match g.supervisor with
  | none => (none, g)
  | some supervisor =>
    let (result, s) := act (g.supervisorSystem supervisor)
    (some result, g.fromSupervisor s)

/-! ### What the relay does -/

/-- The relay handles signals. The answer is whether it was asked to end. -/
def relayHandle (w : Wiring ω) (signals : SignalSet RelaySignal) (g : Gateway ω) :
    Option Bool × Gateway ω :=
  g.withRelay fun s ↦
    let s := s.handleAll w.relayContact signals
    (s.relay.stopRequested, s)

/-- The relay takes what is pending and handles it. The answer is what it took, and whether it was
asked to end. -/
def relayWake (w : Wiring ω) (g : Gateway ω) :
    Option (SignalSet RelaySignal × Bool) × Gateway ω :=
  g.withRelay fun s ↦
    let (signals, s) := s.wake w.relayContact
    ((signals, s.relay.stopRequested), s)

/-- Send a signal to the relay. -/
def tellRelay (signal : RelaySignal) (g : Gateway ω) : Bool × Gateway ω :=
  let (sent, relayMailbox) := g.relayMailbox.send signal
  (sent, { g with relayMailbox })

/-- Ask the relay to end, and let it live out its life. -/
def relayRun (w : Wiring ω) (g : Gateway ω) : Option Unit × Gateway ω :=
  match (g.tellRelay .stop).2.withRelay fun s ↦ ((), s.run w.relayContact) with
  | (some (), g) => (some (), { g with relay := none })
  | (none, g) => (none, g)

/-! ### What the supervisor does -/

/-- The supervisor handles signals. The answer is whether it was asked to end. -/
def supervisorHandle (w : Wiring ω) (signals : SignalSet SupervisorSignal) (g : Gateway ω) :
    Option Bool × Gateway ω :=
  g.withSupervisor fun s ↦
    let s := s.handleAll w.supervisorContact signals
    (s.supervisor.stopRequested, s)

/-- The supervisor takes what is pending and handles it. The answer is what it took, and whether it
was asked to end. -/
def supervisorWake (w : Wiring ω) (g : Gateway ω) :
    Option (SignalSet SupervisorSignal × Bool) × Gateway ω :=
  g.withSupervisor fun s ↦
    let (signals, s) := s.wake w.supervisorContact
    ((signals, s.supervisor.stopRequested), s)

/-- The supervisor begins. -/
def supervisorStart (w : Wiring ω) (g : Gateway ω) : Option Unit × Gateway ω :=
  g.withSupervisor fun s ↦ ((), s.start w.supervisorContact)

/-- Connect to the broker as the supervisor's configuration says. -/
def startMqtt (w : Wiring ω) (g : Gateway ω) : Option Unit × Gateway ω :=
  g.withSupervisor fun s ↦
    ((), s.request w.supervisorContact (.startMqtt s.supervisor.config))

/-- Send a signal to the supervisor. -/
def tellSupervisor (signal : SupervisorSignal) (g : Gateway ω) : Bool × Gateway ω :=
  let (sent, supervisorMailbox) := g.supervisorMailbox.send signal
  (sent, { g with supervisorMailbox })

/-- Ask the supervisor to end, and let it live out its life. -/
def supervisorRun (w : Wiring ω) (g : Gateway ω) : Option Unit × Gateway ω :=
  match (g.tellSupervisor .stop).2.withSupervisor fun s ↦ ((), s.run w.supervisorContact) with
  | (some (), g) => (some (), { g with supervisor := none })
  | (none, g) => (none, g)

/-! ### What arrives -/

/-- Bytes arrive from the scanner. The answer is the number of bodies routed. -/
def receive (w : Wiring ω) (bytes : List UInt8) (g : Gateway ω) : Nat × Gateway ω :=
  let (routed, receiver) := g.receiver.feed (w.unixTime g.around.outside) bytes
  (routed, { g with receiver })

/-- A link goes up or down. -/
def onLink (event : LinkEvent) (g : Gateway ω) : Gateway ω :=
  let (net, signals) := g.net.onLink event
  { g with net, supervisorMailbox := g.supervisorMailbox.sendAll signals }

/-- The broker connection comes up or goes down. -/
def onBroker (connected : Bool) (g : Gateway ω) : Gateway ω :=
  { g with net := g.net.onBroker connected }

/-- A local client asks for history. A query puts off the supervisor's timeout, and one that is not
answered with an empty list counts as a delivery for the relay. -/
def query (q : HistoryRequest) (g : Gateway ω) : HistoryResponse × Gateway ω :=
  let response := q.answer g.address g.receiver.intake.table
  let g := if response.records.isEmpty then g else { g with historyServed := true }
  (response, (g.tellSupervisor .historyServed).2)

end Gateway

end BeaconGateway
