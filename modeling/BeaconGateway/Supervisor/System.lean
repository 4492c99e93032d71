import BeaconGateway.Network.Status
import BeaconGateway.Relay.Signal
import BeaconGateway.Supervisor.Basic
import BeaconGateway.Supervisor.Request
import BeaconGateway.Supervisor.UpdateWindow

/-!
# The supervisor at work

The supervisor does everything but relaying. It wakes up when signals are pending, takes all of
them, and handles each once in the order of their numbers.

* **Free memory.** Samples go to the heap monitor; when that takes the trend for a leak, the gateway
  restarts.
* **New firmware.** It is looked for when the update window allows, again two weeks after a success,
  and again an hour after a failure or a look that was not allowed.
* **Configuration mode.** While it lasts, an access point is open, relaying is suspended, and
  neither new firmware nor the remote configuration is waited for. Leaving it restarts the services.
* **Network.** When the network comes up the gateway is announced, and the remote configuration is
  fetched for the first time.
* **Local clients.** The lamp shows whether they poll for history.

## Main definitions

* `Supervisor.System` — the supervisor with all that it touches;
* `Supervisor.System.handle` — one signal; `Supervisor.System.handleAll` — the signals of one
  wake-up;
* `Supervisor.System.start`, `Supervisor.System.wake`, `Supervisor.System.finish`,
  `Supervisor.System.run` — the life of the task.
-/

namespace BeaconGateway.Supervisor

/-- The supervisor with all that it touches. -/
structure System (ω : Type) where
  /-- The state of the supervisor. -/
  supervisor : Supervisor
  /-- The network status. -/
  net : NetworkStatus
  /-- Where the relay's signals arrive. -/
  relayMailbox : Mailbox RelaySignal
  /-- Where its own signals arrive. -/
  mailbox : Mailbox SupervisorSignal
  /-- The outside. -/
  outside : ω

namespace System

variable {ω : Type}

/-! ### Asking and telling -/

/-- Ask something of the outside. -/
def ask (contact : Contact ω) (request : Request) (s : System ω) : Bool × System ω :=
  let (done, outside) := contact.ask request s.outside
  (done, { s with outside })

/-- Ask for something, whether it is done or not. -/
def request (contact : Contact ω) (request : Request) (s : System ω) : System ω :=
  (s.ask contact request).2

/-- Send a signal to the relay. -/
def tellRelay (signal : RelaySignal) (s : System ω) : System ω :=
  { s with relayMailbox := (s.relayMailbox.send signal).2 }

/-- Send a signal to itself, to be handled in a later wake-up. -/
def post (signal : SupervisorSignal) (s : System ω) : System ω :=
  { s with mailbox := (s.mailbox.send signal).2 }

/-- Drop the connection to the broker. -/
def stopMqtt (contact : Contact ω) (s : System ω) : System ω :=
  let s := s.request contact .stopMqtt
  { s with net := s.net.onBroker false }

/-- Connect to the broker, if the configuration says so. -/
def startMqtt (contact : Contact ω) (s : System ω) : System ω :=
  if s.supervisor.config.mqtt.enabled then s.request contact (.startMqtt s.supervisor.config) else s

/-! ### Free memory -/

/-- Sample the free memory. -/
def onHeapSample (contact : Contact ω) (s : System ω) : System ω :=
  let (verdict, heap) := s.supervisor.heap.sample (contact.freeHeap s.outside)
  let s := { s with supervisor.heap := heap }
  match verdict with
  | .reboot _ => s.request contact (.restart .lowMemory)
  | _ => s

/-! ### New firmware and the remote configuration -/

/-- Look for new firmware after a delay. -/
def scheduleCheck (delay : Nat) (s : System ω) : System ω :=
  { s with supervisor.timers.updates := s.supervisor.timers.updates.restart delay }

/-- Look for new firmware if that is allowed now, and schedule the next look. -/
def onCheckForUpdates (contact : Contact ω) (s : System ω) : System ω :=
  match checkAllowed s.supervisor.config.autoUpdate s.net.isConnected
      (contact.unixTime s.outside) with
  | .ok () =>
    match s.ask contact .checkForUpdates with
    | (true, s) => s.scheduleCheck delayAfterSuccess
    | (false, s) => s.scheduleCheck delayBeforeRetry
  | .error _ => s.scheduleCheck delayBeforeRetry

/-- Look for new firmware some time after the start, unless the update cycle is manual: then what
`manual` says. -/
def scheduleFirstCheck (manual : Timer SupervisorSignal → Timer SupervisorSignal) (s : System ω) :
    System ω :=
  if s.supervisor.config.autoUpdate.cycle = .manual then
    { s with supervisor.timers.updates := manual s.supervisor.timers.updates }
  else s.scheduleCheck delayAfterStart

/-- Whether the remote configuration is fetched again and again. -/
def fetchesRemote (c : Config.Remote) : Bool :=
  c.enabled && c.refreshMinutes != 0

/-- Arm or disarm the timer of the remote configuration as the configuration says. -/
def scheduleRemote (s : System ω) : System ω :=
  let remote := s.supervisor.config.remote
  let timer := s.supervisor.timers.remote
  { s with
    supervisor.timers.remote :=
      if fetchesRemote remote then timer.restart (remotePeriod remote.refreshMinutes)
      else timer.stop }

/-- Fetch the remote configuration, if there is one. -/
def onCheckForRemoteConfig (contact : Contact ω) (s : System ω) : System ω :=
  if s.supervisor.config.remote.enabled then
    s.request contact (.requestRemoteConfig s.supervisor.config)
  else s

/-! ### Local clients -/

/-- A local client asked for history. -/
def onHistoryServed (contact : Contact ω) (s : System ω) : System ω :=
  { s with supervisor.timers.history := s.supervisor.timers.history.start }.request contact
    (.lamp .pollOk)

/-! ### Services and configuration mode -/

/-- Restart what depends on the configuration. -/
def onRestartServices (contact : Contact ω) (s : System ω) : System ω :=
  let s := s.stopMqtt contact
  let s := if s.net.isSuspended then s else s.startMqtt contact
  let s := s.request contact (.sendScanSettings s.supervisor.config)
  s.scheduleRemote.scheduleFirstCheck Timer.stop

/-- Enter configuration mode. -/
def onActivateConfigMode (contact : Contact ω) (s : System ω) : System ω :=
  if s.supervisor.configMode then s
  else
    let s := { s with
      supervisor.configMode := true
      supervisor.timers.remote := s.supervisor.timers.remote.stop
      supervisor.timers.updates := s.supervisor.timers.updates.stop
      net := s.net.set NetworkStatus.suspended }
    let s := s.tellRelay .disable
    (s.request contact .startAccessPoint).request contact (.lamp (.configMode true))

/-- Leave configuration mode. The services are restarted while relaying is still suspended. -/
def onDeactivateConfigMode (contact : Contact ω) (s : System ω) : System ω :=
  if s.supervisor.configMode then
    let s := { s with supervisor.configMode := false }
    let s := (s.request contact .stopAccessPoint).request contact (.lamp (.configMode false))
    let s := (s.onHistoryServed contact).onRestartServices contact
    { s with net := s.net.clear NetworkStatus.suspended }.tellRelay .enable
  else s

/-- Go back to the default configuration, and leave configuration mode in a later wake-up. -/
def onSetDefaultConfig (contact : Contact ω) (s : System ω) : System ω :=
  let s := { s with supervisor.config := .default }
  (s.request contact (.saveConfig s.supervisor.config)).post .deactivateConfigMode

/-- Relaying was suspended or resumed. -/
def onRelayingModeChanged (contact : Contact ω) (s : System ω) : System ω :=
  if s.net.isSuspended then (s.stopMqtt contact).tellRelay .disable
  else if s.supervisor.config.mqtt.enabled then (s.startMqtt contact).tellRelay .enable
  else (s.stopMqtt contact).tellRelay .enable

/-! ### The network -/

/-- The first link came up. -/
def onNetworkConnected (contact : Contact ω) (s : System ω) : System ω :=
  let s := s.request contact .startMdns
  if s.supervisor.config.remote.enabled && !s.supervisor.remoteFetched
      && !s.supervisor.configMode then
    { s with supervisor.remoteFetched := true }.post .checkForRemoteConfig
  else s

/-! ### Signals -/

/-- One signal. -/
def handle (contact : Contact ω) (s : System ω) : SupervisorSignal → System ω
  | .logHeapUsage => s.onHeapSample contact
  | .checkForUpdates => s.onCheckForUpdates contact
  | .scheduleNextCheck => s.scheduleCheck delayAfterSuccess
  | .scheduleRetry => s.scheduleCheck delayBeforeRetry
  | .activateConfigMode => s.onActivateConfigMode contact
  | .deactivateConfigMode => s.onDeactivateConfigMode contact
  | .restartServices => s.onRestartServices contact
  | .checkForRemoteConfig => s.onCheckForRemoteConfig contact
  | .networkConnected => s.onNetworkConnected contact
  | .networkDisconnected => s.request contact .stopMdns
  | .reconnectNetwork => s.request contact .reconnectNetwork
  | .setDefaultConfig => s.onSetDefaultConfig contact
  | .historyServed => s.onHistoryServed contact
  | .historyTimeout => s.request contact (.lamp .pollTimeout)
  | .relayingModeChanged => s.onRelayingModeChanged contact
  | .feedWatchdog => s.request contact (.watchdog .feed)
  | .stop => { s with supervisor.stopRequested := true }

/-- The signals of one wake-up, each once, in the order of their numbers. -/
def handleAll (contact : Contact ω) (s : System ω) (signals : SignalSet SupervisorSignal) :
    System ω :=
  signals.toList.foldl (fun s signal ↦ s.handle contact signal) s

/-- Take what is pending and handle it. The answer is what was taken. -/
def wake (contact : Contact ω) (s : System ω) : SignalSet SupervisorSignal × System ω :=
  let (signals, mailbox) := s.mailbox.takeAll
  (signals, { s with mailbox }.handleAll contact signals)

/-! ### The life of the task -/

/-- Begin: subscribe to the watchdog, connect to the broker, and arm the timers. -/
def start (contact : Contact ω) (s : System ω) : System ω :=
  let s := s.request contact (.watchdog .register)
  let s := { s with
    supervisor.timers.feedWatchdog := s.supervisor.timers.feedWatchdog.start }
  let s := s.startMqtt contact
  let s := { s with
    supervisor.timers.heap := s.supervisor.timers.heap.start
    supervisor.timers.history := s.supervisor.timers.history.start }
  s.scheduleRemote.scheduleFirstCheck id

/-- End: unsubscribe, disarm the timers, and take no more signals. -/
def finish (contact : Contact ω) (s : System ω) : System ω :=
  let s := s.request contact (.watchdog .unregister)
  { s with
    supervisor.timers := s.supervisor.timers.stopAll
    mailbox := s.mailbox.unregister }

/-- The whole life of a task that is asked to end before it begins: it handles what is pending in
one wake-up, unless it had already been asked in an earlier one. -/
def run (contact : Contact ω) (s : System ω) : System ω :=
  let s := s.start contact
  let s := if s.supervisor.stopRequested then s else (s.wake contact).2
  s.finish contact

end System

end BeaconGateway.Supervisor
