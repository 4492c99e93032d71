import BeaconGateway.Gateway.Journal
import BeaconGateway.Relay.Call
import BeaconGateway.Storage
import BeaconGateway.Supervisor.Services
import BeaconGateway.Wire.ScanSettings

/-!
# What surrounds the tasks

Between the two tasks and the outside stand the client of the backend, the publisher to the broker,
the services, the store, the watchdog and the lamp. They answer the questions of the tasks, some by
themselves and some with a question of their own to the outside.

## Main definitions

* `Gateway.Wiring` — how the outside answers;
* `Gateway.Surroundings` — all that surrounds the tasks, and the journal;
* `Gateway.Wiring.relayContact`, `Gateway.Wiring.supervisorContact` — how the surroundings answer
  the tasks.
-/

namespace BeaconGateway.Gateway

/-- How the outside answers. -/
structure Wiring (ω : Type) where
  /-- How the backend answers requests. -/
  post : Http.Poster ω
  /-- How the broker answers messages. -/
  publish : Mqtt.Client ω
  /-- How a connection to the broker goes. -/
  connect : Ask Config.Mqtt (Except CommsError Unit) ω
  /-- How the serial link takes frames. -/
  write : Ask (List UInt8) (Except CommsError Unit) ω
  /-- Whether the release server tells about new firmware. -/
  releases : Ask Unit Bool ω
  /-- Whether the watchdog is ready for a subscription. -/
  watchdogReady : ω → Bool
  /-- The milliseconds since the start; the clock wraps. -/
  uptime : ω → UInt32
  /-- The clock's time, if it is synchronised. -/
  unixTime : ω → Option UInt32
  /-- The free memory in bytes. -/
  freeHeap : ω → UInt32

/-- All that surrounds the tasks. -/
structure Surroundings (ω : Type) where
  /-- The client of the backend. -/
  client : Http.Client
  /-- The publisher to the broker. -/
  publisher : Mqtt.Publisher
  /-- Where the connection to the broker is, while there is one. -/
  slot : Mqtt.Slot
  /-- The services. -/
  services : Services
  /-- The store. -/
  storage : Storage
  /-- The relay's subscription to the watchdog. -/
  relayWatchdog : Watchdog
  /-- The supervisor's subscription to the watchdog. -/
  mainWatchdog : Watchdog
  /-- The lamp. -/
  indicator : Indicator
  /-- What was done so far. -/
  journal : List Entry
  /-- The outside. -/
  outside : ω

/-! ### The outside with the journal -/

/-- Requests are written into the journal. -/
def Wiring.postNoted {ω : Type} (w : Wiring ω) : Http.Poster (ω × List Entry) :=
  fun request (outside, journal) ↦
    let (answer, outside) := w.post request outside
    (answer, outside, journal ++ [.posted request])

/-- Messages that the broker takes are written into the journal. -/
def Wiring.publishNoted {ω : Type} (w : Wiring ω) : Mqtt.Client (ω × List Entry) :=
  fun message (outside, journal) ↦
    let (answer, outside) := w.publish message outside
    (answer, outside, if answer.isOk then journal ++ [.published message] else journal)

namespace Surroundings

variable {ω : Type}

/-- The surroundings of a configured gateway that has done nothing. -/
def new (c : Config) (gateway : Address) (outside : ω) : Surroundings ω where
  client := .new c gateway
  publisher := .new c gateway
  slot := .empty
  services := .idle
  storage := .empty
  relayWatchdog := .new
  mainWatchdog := .new
  indicator := .new
  journal := []
  outside := outside

/-- Write into the journal. -/
def note (s : Surroundings ω) (entry : Entry) : Surroundings ω :=
  { s with journal := s.journal ++ [entry] }

/-! ### The backend and the broker -/

/-- Let the client post something. -/
def withClient (s : Surroundings ω)
    (send : Http.Client → ω × List Entry → Bool × Http.Client × (ω × List Entry)) :
    Bool × Surroundings ω :=
  let (delivered, client, outside, journal) := send s.client (s.outside, s.journal)
  (delivered, { s with client, outside, journal })

/-- Publish a batch through the slot. -/
def publish (w : Wiring ω) (records : List Report) (s : Surroundings ω) :
    Bool × Surroundings ω :=
  let (delivered, outside, journal) :=
    s.publisher.publishBatch (s.slot.through w.publishNoted) (w.unixTime s.outside) records
      (s.outside, s.journal)
  (delivered, { s with outside, journal })

/-! ### The watchdog -/

/-- A task calls the watchdog. -/
def watch (w : Wiring ω) (task : Task) (call : WatchdogCall) (s : Surroundings ω) :
    Bool × Surroundings ω :=
  match task with
  | .relay =>
    let (done, after) := s.relayWatchdog.answer (w.watchdogReady s.outside) call
    (done, { s with relayWatchdog := after }.note (.watched task call after))
  | .main =>
    let (done, after) := s.mainWatchdog.answer (w.watchdogReady s.outside) call
    (done, { s with mainWatchdog := after }.note (.watched task call after))

/-! ### Services -/

/-- Connect to the broker, if the configuration says so. A connection that fails leaves the slot as
it is. -/
def startMqtt (w : Wiring ω) (c : Config) (s : Surroundings ω) : Bool × Surroundings ω :=
  let s := s.note (.called .startMqtt)
  if c.mqtt.enabled then
    let s := s.note (.connecting (Mqtt.brokerAddress c.mqtt))
    match w.connect c.mqtt s.outside with
    | (.ok (), outside) => (true, { s with outside, slot := s.slot.fill })
    | (.error _, outside) => (false, { s with outside })
  else (false, s)

/-- Send a frame to the scanner. -/
def transmit (w : Wiring ω) (frame : List UInt8) (s : Surroundings ω) : Bool × Surroundings ω :=
  match w.write frame s.outside with
  | (.ok (), outside) => (true, { s with outside }.note (.sent frame))
  | (.error _, outside) => (false, { s with outside })

/-- Look for new firmware. -/
def checkForUpdates (w : Wiring ω) (s : Surroundings ω) : Bool × Surroundings ω :=
  let s := { s with services.updateChecks := s.services.updateChecks + 1 }.note
    (.called .checkForUpdates)
  let (told, outside) := w.releases () s.outside
  (told, { s with outside })

/-! ### The lamp and the store -/

/-- Show something on the lamp. -/
def lamp (call : Supervisor.LampCall) (s : Surroundings ω) : Surroundings ω :=
  let after :=
    match call with
    | .pollOk => s.indicator.pollOk
    | .pollTimeout => s.indicator.pollTimeout
    | .configMode active => s.indicator.configMode active
  { s with indicator := after }.note (.showed call after.current)

/-- Store a configuration. -/
def save (c : Config) (s : Surroundings ω) : Bool × Surroundings ω :=
  let (outcome, storage) := s.storage.saveConfig c
  (outcome.isOk, { s with storage }.note (.saved outcome))

/-! ### Answers to the tasks -/

/-- How the relay's questions are answered. -/
def answerRelay (w : Wiring ω) : Ask Relay.Call Bool (Surroundings ω)
  | .online _, s => s.withClient fun client ↦ client.sendOnline w.postNoted
  | .batch records nonce, s =>
    s.withClient fun client ↦
      client.sendBatch w.postNoted (w.unixTime s.outside) records nonce
  | .publish records, s => s.publish w records
  | .statistics report, s =>
    s.withClient fun client ↦ client.sendStatistics w.postNoted report.document.render
  | .restart reason, s => (true, s.note (.restarted reason))
  | .watchdog call, s => s.watch w .relay call

/-- How the supervisor's questions are answered. -/
def answerSupervisor (w : Wiring ω) : Ask Supervisor.Request Bool (Surroundings ω)
  | .startMqtt c, s => s.startMqtt w c
  | .stopMqtt, s => (true, { s with slot := s.slot.clear.2 }.note (.called .stopMqtt))
  | .startMdns, s => (true, { s with services.mdns := true }.note (.called .startMdns))
  | .stopMdns, s => (true, { s with services.mdns := false }.note (.called .stopMdns))
  | .requestRemoteConfig _, s =>
    (true, { s with services.remoteRequests := s.services.remoteRequests + 1 }.note
      (.called .requestRemoteConfig))
  | .checkForUpdates, s => s.checkForUpdates w
  | .reconnectNetwork, s =>
    (true, { s with services.reconnects := s.services.reconnects + 1 }.note
      (.called .reconnectNetwork))
  | .startAccessPoint, s =>
    (true, { s with services.accessPoint := true }.note (.called .startAccessPoint))
  | .stopAccessPoint, s =>
    (true, { s with services.accessPoint := false }.note (.called .stopAccessPoint))
  | .sendScanSettings c, s =>
    (s.note (.called .sendScanSettings)).transmit w (settingsFrame c.filter c.scan)
  | .saveConfig c, s => s.save c
  | .lamp call, s => (true, s.lamp call)
  | .restart reason, s => (true, s.note (.restarted reason))
  | .watchdog call, s => s.watch w .main call

end Surroundings

/-- How the surroundings answer the relay. -/
def Wiring.relayContact {ω : Type} (w : Wiring ω) : Relay.Contact (Surroundings ω) where
  ask := Surroundings.answerRelay w
  uptime s := w.uptime s.outside

/-- How the surroundings answer the supervisor. -/
def Wiring.supervisorContact {ω : Type} (w : Wiring ω) : Supervisor.Contact (Surroundings ω) where
  ask := Surroundings.answerSupervisor w
  unixTime s := w.unixTime s.outside
  freeHeap s := w.freeHeap s.outside

end BeaconGateway.Gateway
