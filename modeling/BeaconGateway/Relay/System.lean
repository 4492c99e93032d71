import BeaconGateway.Network.Status
import BeaconGateway.Relay.Basic
import BeaconGateway.Relay.Call
import BeaconGateway.Table.Basic

/-!
# The relay at work

The relay wakes up when signals are pending, takes all of them, and handles each once in the order
of their numbers.

* **Relaying.** It first looks at the network; when that has come up, it tells the backend that the
  gateway is online. Then, unless relaying is disabled, suspended or not configured at all, it takes
  everything that is pending off the table and sends it as one batch by each configured transport.
  A batch that is not delivered is not sent again: the next one brings what is new.
* **Network watchdog.** When nothing has been delivered for too long, although it should have been,
  the gateway restarts. A local client that was served history counts as a delivery.
* **Statistics.** While the network is up, a status report lists the tracked devices.

## Main definitions

* `Relay.System` — the relay with all that it touches;
* `Relay.System.handle` — one signal; `Relay.System.handleAll` — the signals of one wake-up;
* `Relay.System.wake`, `Relay.System.start`, `Relay.System.finish`, `Relay.System.run` — the life
  of the task.
-/

namespace BeaconGateway.Relay

/-- The relay with all that it touches. -/
structure System (ω : Type) where
  /-- The state of the relay. -/
  relay : Relay
  /-- The table that it relays from. -/
  table : ReportTable gatewayCapacity
  /-- The network status. -/
  net : NetworkStatus
  /-- Whether a local client was served history since the network watchdog last looked. -/
  historyServed : Bool
  /-- The scanner's address, as last told. -/
  scanner : Option Address
  /-- Where its signals arrive. -/
  mailbox : Mailbox RelaySignal
  /-- The outside. -/
  outside : ω

namespace System

variable {ω : Type}

/-! ### Asking and noting -/

/-- Ask something of the outside. -/
def ask (contact : Contact ω) (call : Call) (s : System ω) : Bool × System ω :=
  let (done, outside) := contact.ask call s.outside
  (done, { s with outside })

/-- Note that something was delivered just now, or that nothing had to be. -/
def noteDelivery (contact : Contact ω) (s : System ω) : System ω :=
  { s with relay.quietSince := contact.uptime s.outside }

/-- Ask for a delivery, and note it if it succeeds. -/
def deliver (contact : Contact ω) (call : Call) (s : System ω) : System ω :=
  match s.ask contact call with
  | (true, s) => s.noteDelivery contact
  | (false, s) => s

/-- Ask for a delivery under the next number. -/
def deliverNumbered (contact : Contact ω) (call : UInt32 → Call) (s : System ω) : System ω :=
  let nonce := s.relay.nonce + 1
  { s with relay.nonce := nonce }.deliver contact (call nonce)

/-! ### Relaying -/

/-- Whether records are to be relayed now. -/
def relayingAllowed (s : System ω) : Bool :=
  s.relay.config.relayingConfigured && s.relay.enabled && !s.net.isSuspended

/-- Look at the network. When it has come up, the backend is told, whether it hears it or not. -/
def updateConnection (contact : Contact ω) (s : System ω) : System ω :=
  if s.relay.connected then
    if s.net.isConnected then s else { s with relay.connected := false }
  else if !s.net.isConnected then s
  else if s.relay.config.http.enabled then
    { s with relay.connected := true }.deliverNumbered contact .online
  else if s.relay.config.mqtt.enabled then { s with relay.connected := true }
  else s

/-- Whether the stamps of a batch can be shown to the backend: if they are to be times, the first
one must look like a time. -/
def stampsKnown (c : Config) (batch : List Report) : Bool :=
  !c.time.useTimestamps || batch.head?.any fun r ↦ minSyncedTime ≤ r.timestamp

/-- Post a batch to the backend, if it is in use. -/
def postBatch (contact : Contact ω) (batch : List Report) (s : System ω) : System ω :=
  if s.relay.config.http.enabled && stampsKnown s.relay.config batch then
    s.deliverNumbered contact (.batch batch)
  else s

/-- Publish a batch through the broker, if it is in use and connected. -/
def publishBatch (contact : Contact ω) (batch : List Report) (s : System ω) : System ω :=
  if s.relay.config.mqtt.enabled && s.net.isBrokerConnected then
    s.deliver contact (.publish batch)
  else s

/-- Relay what is pending: take it off the table, and send it if the network is up. -/
def relayPending (contact : Contact ω) (s : System ω) : System ω :=
  let ((_, batch), table) := s.table.drain gatewayCapacity
  let s := { s with table }
  if batch.isEmpty || !s.relay.connected then s
  else (s.postBatch contact batch).publishBatch contact batch

/-- Time to relay. -/
def onRetransmit (contact : Contact ω) (s : System ω) : System ω :=
  let s := s.updateConnection contact
  if s.relayingAllowed then s.relayPending contact else s

/-! ### The network watchdog -/

/-- A local client that was served history counts as a delivery, once. -/
def noteHistoryServed (contact : Contact ω) (s : System ω) : System ω :=
  if s.historyServed then { s with historyServed := false }.noteDelivery contact else s

/-- Whether nothing has been delivered for more than so many seconds. -/
def overdue (now quietSince timeout : UInt32) : Bool :=
  timeout.toNat * 1000 < (now - quietSince).toNat

/-- Time to look whether anything has been delivered lately. While nothing is expected to be, the
time does not count. -/
def onNetworkWatchdog (contact : Contact ω) (s : System ω) : System ω :=
  let s := s.noteHistoryServed contact
  let timeout := s.relay.config.relay.watchdogTimeout
  if timeout = 0 || !s.relayingAllowed then s.noteDelivery contact
  else if overdue (contact.uptime s.outside) s.relay.quietSince timeout then
    (s.ask contact (.restart .networkWatchdog)).2
  else s

/-! ### Statistics -/

/-- How the gateway does now. -/
def statusReport (contact : Contact ω) (s : System ω) : StatusReport where
  scanner := (s.scanner.getD .zero).text
  gatewayFirmware := s.relay.gatewayFirmware.text
  scannerFirmware := s.relay.scannerFirmware.text
  uptime := contact.uptime s.outside / 1000
  nonce := s.relay.nonce
  connection := s.net.connection.text
  connectionsLost := s.net.lost
  records := s.table.history 0 none gatewayCapacity

/-- Time to send a status report. -/
def onStatistics (contact : Contact ω) (s : System ω) : System ω :=
  if s.relay.config.statistics.enabled && s.net.isConnected then
    s.deliver contact (.statistics (s.statusReport contact))
  else s

/-! ### Signals -/

/-- One signal. -/
def handle (contact : Contact ω) (s : System ω) : RelaySignal → System ω
  | .stop => { s with relay.stopRequested := true }
  | .retransmit => s.onRetransmit contact
  | .disable => { s with relay.enabled := false }
  | .enable => { s with relay.enabled := true }
  | .networkWatchdog => s.onNetworkWatchdog contact
  | .feedWatchdog => (s.ask contact (.watchdog .feed)).2
  | .sendStatistics => s.onStatistics contact

/-- The signals of one wake-up, each once, in the order of their numbers. -/
def handleAll (contact : Contact ω) (s : System ω) (signals : SignalSet RelaySignal) : System ω :=
  signals.toList.foldl (fun s signal ↦ s.handle contact signal) s

/-- Take what is pending and handle it. The answer is what was taken. -/
def wake (contact : Contact ω) (s : System ω) : SignalSet RelaySignal × System ω :=
  let (signals, mailbox) := s.mailbox.takeAll
  (signals, { s with mailbox }.handleAll contact signals)

/-! ### The life of the task -/

/-- Begin: subscribe to the watchdog and arm the timers. -/
def start (contact : Contact ω) (s : System ω) : System ω :=
  let s := (s.ask contact (.watchdog .register)).2.noteDelivery contact
  { s with relay.timers := s.relay.timers.startAll s.relay.config.statistics.enabled }

/-- End: unsubscribe, disarm the timers, and take no more signals. -/
def finish (contact : Contact ω) (s : System ω) : System ω :=
  let s := (s.ask contact (.watchdog .unregister)).2
  { s with
    relay.timers := s.relay.timers.stopAll
    mailbox := s.mailbox.unregister }

/-- The whole life of a task that is asked to end before it begins: it handles what is pending in
one wake-up, unless it had already been asked in an earlier one. -/
def run (contact : Contact ω) (s : System ω) : System ω :=
  let s := s.start contact
  let s := if s.relay.stopRequested then s else (s.wake contact).2
  s.finish contact

end System

end BeaconGateway.Relay
