import BeaconGateway.Proofs.Supervisor.Handling

/-!
# Which signal asks what

Most of the supervisor's questions belong to one signal: only a network that has come up is
announced, only an update check looks for new firmware. Connecting to the broker, settings for the
scanner, the lamp and the watchdog are asked for from several places and belong to none.

Whatever it handles, the supervisor brings no link up or down, and it posts no signal to itself
but two.

## Main results

* `Request.signal?` — the signal that a question belongs to;
* `Supervisor.System.Leaves` — what every signal leaves alone, with one lemma for each handler up to
  `Supervisor.System.handle_leaves`: no signal asks a question that belongs to another.
-/

namespace BeaconGateway.Supervisor

/-- The signal that a question belongs to, if it belongs to one. -/
def Request.signal? : Request → Option SupervisorSignal
  | .startMdns => some .networkConnected
  | .stopMdns => some .networkDisconnected
  | .requestRemoteConfig _ => some .checkForRemoteConfig
  | .checkForUpdates => some .checkForUpdates
  | .reconnectNetwork => some .reconnectNetwork
  | .startAccessPoint => some .activateConfigMode
  | .stopAccessPoint => some .deactivateConfigMode
  | .saveConfig _ => some .setDefaultConfig
  | .restart _ => some .logHeapUsage
  | .startMqtt _ | .stopMqtt | .sendScanSettings _ | .lamp _ | .watchdog _ => none

/-- Whether a question may be asked on behalf of a signal: it belongs to that one or to none. -/
def Request.Suits (signal : SupervisorSignal) (r : Request) : Prop :=
  ∀ own, r.signal? = some own → own = signal

/-- A question that belongs to no signal may be asked on behalf of any. -/
theorem Request.suits_of_common {signal : SupervisorSignal} {r : Request}
    (hcommon : r.signal? = none) : r.Suits signal := by
  simp [Suits, hcommon]

/-- A question may be asked on behalf of the signal that it belongs to. -/
theorem Request.suits_of_own {signal : SupervisorSignal} {r : Request}
    (hown : r.signal? = some signal) : r.Suits signal := by
  simp [Suits, hown]

namespace System

variable {ω : Type} {contact : Contact ω} {s s' s'' : System ω} {asked : Request → Prop}

/-- **What a handler leaves alone**, and what kind of questions it asks. -/
structure Leaves (contact : Contact ω) (asked : Request → Prop) (s s' : System ω) : Prop where
  /-- No link goes up or down. -/
  connected : s'.net.isConnected = s.net.isConnected
  /-- The supervisor goes on to take signals, or goes on not to. -/
  registered : s'.mailbox.registered = s.mailbox.registered
  /-- It sends itself no signals but these. -/
  pending : ∀ signal, signal ≠ .checkForRemoteConfig → signal ≠ .deactivateConfigMode →
    s'.mailbox.isPending signal = s.mailbox.isPending signal
  /-- The outside is asked nothing else. -/
  outside : contact.ask.Reaches asked s.outside s'.outside

namespace Leaves

theorem refl (s : System ω) : Leaves contact asked s s :=
  ⟨rfl, rfl, fun _ _ _ ↦ rfl, .refl _⟩

theorem trans (hfirst : Leaves contact asked s s') (hsecond : Leaves contact asked s' s'') :
    Leaves contact asked s s'' where
  connected := hsecond.connected.trans hfirst.connected
  registered := hsecond.registered.trans hfirst.registered
  pending signal hother hother' :=
    (hsecond.pending signal hother hother').trans (hfirst.pending signal hother hother')
  outside := hfirst.outside.trans hsecond.outside

theorem mono {asked' : Request → Prop} (hwider : ∀ r, asked r → asked' r)
    (hleaves : Leaves contact asked s s') : Leaves contact asked' s s' :=
  { hleaves with outside := hleaves.outside.mono hwider }

/-- What concerns the supervisor's own state alone. -/
theorem supervisor (s : System ω) (after : Supervisor) :
    Leaves contact asked s { s with supervisor := after } :=
  ⟨rfl, rfl, fun _ _ _ ↦ rfl, .refl _⟩

/-- A question reaches the outside and changes nothing else. -/
theorem request {r : Request} (hkind : asked r) (s : System ω) :
    Leaves contact asked s (s.request contact r) :=
  ⟨rfl, rfl, fun _ _ _ ↦ rfl, .single hkind s.outside⟩

theorem tellRelay (signal : RelaySignal) (s : System ω) :
    Leaves contact asked s (s.tellRelay signal) :=
  ⟨rfl, rfl, fun _ _ _ ↦ rfl, .refl _⟩

/-- A signal that the supervisor sends itself is one of two, so the others stay as they were in the
mailbox. -/
theorem post {signal : SupervisorSignal}
    (hown : signal = .checkForRemoteConfig ∨ signal = .deactivateConfigMode) (s : System ω) :
    Leaves contact asked s (s.post signal) where
  connected := rfl
  registered := Mailbox.registered_send _ _
  pending signal' hother hother' := by
    refine Mailbox.isPending_send_of_ne _ ?_
    obtain rfl | rfl := hown
    · exact hother.symm
    · exact hother'.symm
  outside := .refl _

/-- The broker's bit in the network status is not one of the links. -/
theorem stopMqtt (hkind : asked .stopMqtt) (s : System ω) :
    Leaves contact asked s (s.stopMqtt contact) :=
  ⟨NetworkStatus.isConnected_onBroker _ _, rfl, fun _ _ _ ↦ rfl, .single hkind s.outside⟩

theorem startMqtt (hkind : ∀ c, asked (.startMqtt c)) (s : System ω) :
    Leaves contact asked s (s.startMqtt contact) := by
  rw [System.startMqtt]
  split_ifs
  · exact .request (hkind _) s
  · exact .refl s

end Leaves

/-! ### The handlers -/

variable {signal : SupervisorSignal}

/-- A handler asks nothing that belongs to another signal. -/
abbrev LeavesTo (contact : Contact ω) (signal : SupervisorSignal) : System ω → System ω → Prop :=
  Leaves contact (Request.Suits signal)

/-- Common questions may be asked by any handler. -/
theorem request_leaves {r : Request} (hcommon : r.signal? = none) (s : System ω) :
    LeavesTo contact signal s (s.request contact r) :=
  .request (Request.suits_of_common hcommon) s

theorem stopMqtt_leaves (s : System ω) : LeavesTo contact signal s (s.stopMqtt contact) :=
  .stopMqtt (Request.suits_of_common rfl) s

theorem startMqtt_leaves (s : System ω) : LeavesTo contact signal s (s.startMqtt contact) :=
  .startMqtt (fun _ ↦ Request.suits_of_common rfl) s

theorem scheduleRemote_leaves (s : System ω) : LeavesTo contact signal s s.scheduleRemote :=
  .supervisor s _

theorem scheduleFirstCheck_leaves (manual : Timer SupervisorSignal → Timer SupervisorSignal)
    (s : System ω) : LeavesTo contact signal s (s.scheduleFirstCheck manual) := by
  rw [scheduleFirstCheck]
  split_ifs
  · exact .supervisor s _
  · exact .supervisor s _

/-- A sample of the free memory restarts the gateway or asks nothing. -/
theorem onHeapSample_leaves (s : System ω) :
    LeavesTo contact .logHeapUsage s (s.onHeapSample contact) := by
  rcases hsampled : s.supervisor.heap.sample (contact.freeHeap s.outside) with ⟨verdict, heap⟩
  have hnoted : LeavesTo contact .logHeapUsage s { s with supervisor.heap := heap } :=
    .supervisor s _
  rw [onHeapSample, hsampled]
  dsimp only
  split
  · exact hnoted.trans (.request (Request.suits_of_own rfl) _)
  · exact hnoted

/-- A look for new firmware asks for that and arms a timer. -/
theorem onCheckForUpdates_leaves (s : System ω) :
    LeavesTo contact .checkForUpdates s (s.onCheckForUpdates contact) := by
  have hlooked : LeavesTo contact .checkForUpdates s (s.ask contact .checkForUpdates).2 :=
    .request (Request.suits_of_own rfl) s
  rw [onCheckForUpdates]
  split
  · rcases hanswer : s.ask contact .checkForUpdates with ⟨done, s'⟩
    rw [hanswer] at hlooked
    cases done with
    | true => exact hlooked.trans (.supervisor s' _)
    | false => exact hlooked.trans (.supervisor s' _)
  · exact .supervisor s _

/-- Fetching the remote configuration asks for that alone, if it is in use. -/
theorem onCheckForRemoteConfig_leaves (s : System ω) :
    LeavesTo contact .checkForRemoteConfig s (s.onCheckForRemoteConfig contact) := by
  rw [onCheckForRemoteConfig]
  split_ifs
  · exact .request (Request.suits_of_own rfl) s
  · exact .refl s

theorem onHistoryServed_leaves (s : System ω) :
    LeavesTo contact signal s (s.onHistoryServed contact) :=
  (Leaves.supervisor s _).trans (request_leaves rfl _)

/-- The broker is dropped, and connected anew unless relaying is suspended. -/
theorem reconnect_leaves (s : System ω) : LeavesTo contact signal s (s.reconnect contact) := by
  have hdropped : LeavesTo contact signal s (s.stopMqtt contact) := stopMqtt_leaves s
  rw [reconnect]
  split_ifs
  · exact hdropped
  · exact hdropped.trans (startMqtt_leaves _)

/-- Restarting the services asks common questions only: about the broker, and for the settings of
the scanner. -/
theorem onRestartServices_leaves (s : System ω) :
    LeavesTo contact signal s (s.onRestartServices contact) := by
  have hreconnected : LeavesTo contact signal s (s.reconnect contact) := reconnect_leaves s
  have hrescheduled : LeavesTo contact signal (s.reconnect contact) (s.onRestartServices contact) :=
    ((request_leaves rfl _).trans (scheduleRemote_leaves _)).trans (scheduleFirstCheck_leaves _ _)
  exact hreconnected.trans hrescheduled

/-- Entering configuration mode opens the access point and lights the lamp. -/
theorem onActivateConfigMode_leaves (s : System ω) :
    LeavesTo contact .activateConfigMode s (s.onActivateConfigMode contact) := by
  have hentered : LeavesTo contact .activateConfigMode s s.enterConfigMode :=
    ⟨NetworkStatus.isConnected_set_suspended _, rfl, fun _ _ _ ↦ rfl, .refl _⟩
  rw [onActivateConfigMode]
  split_ifs
  · exact .refl s
  · exact (hentered.trans (.request (Request.suits_of_own rfl) _)).trans (request_leaves rfl _)

/-- Leaving configuration mode closes the access point and lights the lamp. -/
theorem leaveConfigMode_leaves (s : System ω) :
    LeavesTo contact .deactivateConfigMode s (s.leaveConfigMode contact) := by
  have hleft : LeavesTo contact .deactivateConfigMode s
      { s with supervisor.configMode := false } := .supervisor s _
  have hclosed := hleft.trans (.request (r := .stopAccessPoint) (Request.suits_of_own rfl) _)
  exact (hclosed.trans (request_leaves rfl _)).trans (onHistoryServed_leaves _)

/-- Leaving configuration mode restarts the services as well, but these questions are common. -/
theorem onDeactivateConfigMode_leaves (s : System ω) :
    LeavesTo contact .deactivateConfigMode s (s.onDeactivateConfigMode contact) := by
  cases hactive : s.supervisor.configMode with
  | false =>
    rw [onDeactivateConfigMode, hactive]
    exact .refl s
  | true =>
    have hrestarted : LeavesTo contact .deactivateConfigMode s
        ((s.leaveConfigMode contact).onRestartServices contact) :=
      (leaveConfigMode_leaves s).trans (onRestartServices_leaves _)
    have hresumed : LeavesTo contact .deactivateConfigMode
        ((s.leaveConfigMode contact).onRestartServices contact)
        ((s.leaveConfigMode contact).onRestartServices contact).resume :=
      ⟨NetworkStatus.isConnected_clear_suspended _, rfl, fun _ _ _ ↦ rfl, .refl _⟩
    rw [onDeactivateConfigMode_eq hactive]
    exact hrestarted.trans hresumed

/-- Going back to the default configuration saves it, and the mode is left in a later wake-up. -/
theorem onSetDefaultConfig_leaves (s : System ω) :
    LeavesTo contact .setDefaultConfig s (s.onSetDefaultConfig contact) := by
  have hreplaced : LeavesTo contact .setDefaultConfig s { s with supervisor.config := .default } :=
    .supervisor s _
  have hsaved := hreplaced.trans (.request (r := .saveConfig .default) (Request.suits_of_own rfl) _)
  exact hsaved.trans (.post (.inr rfl) _)

/-- A change of the relaying mode concerns the broker and the relay. -/
theorem onRelayingModeChanged_leaves (s : System ω) :
    LeavesTo contact signal s (s.onRelayingModeChanged contact) := by
  have hdropped : LeavesTo contact signal s (s.stopMqtt contact) := stopMqtt_leaves s
  have hconnected : LeavesTo contact signal s (s.startMqtt contact) := startMqtt_leaves s
  rw [onRelayingModeChanged]
  split_ifs
  · exact hdropped.trans (.tellRelay _ _)
  · exact hconnected.trans (.tellRelay _ _)
  · exact hdropped.trans (.tellRelay _ _)

/-- A network that comes up is announced, and the remote configuration may be fetched in a later
wake-up. -/
theorem onNetworkConnected_leaves (s : System ω) :
    LeavesTo contact .networkConnected s (s.onNetworkConnected contact) := by
  have hannounced : LeavesTo contact .networkConnected s (s.request contact .startMdns) :=
    .request (Request.suits_of_own rfl) s
  rw [onNetworkConnected]
  dsimp only
  split_ifs
  · exact (hannounced.trans (.supervisor _ _)).trans (.post (.inl rfl) _)
  · exact hannounced

/-- **No signal asks a question that belongs to another**, brings a link up or down, or has the
supervisor send itself a signal but two. -/
theorem handle_leaves (signal : SupervisorSignal) (s : System ω) :
    LeavesTo contact signal s (s.handle contact signal) := by
  cases signal with
  | logHeapUsage => exact onHeapSample_leaves s
  | checkForUpdates => exact onCheckForUpdates_leaves s
  | scheduleNextCheck | scheduleRetry => exact .supervisor s _
  | activateConfigMode => exact onActivateConfigMode_leaves s
  | deactivateConfigMode => exact onDeactivateConfigMode_leaves s
  | restartServices => exact onRestartServices_leaves s
  | checkForRemoteConfig => exact onCheckForRemoteConfig_leaves s
  | networkConnected => exact onNetworkConnected_leaves s
  | networkDisconnected | reconnectNetwork => exact .request (Request.suits_of_own rfl) s
  | setDefaultConfig => exact onSetDefaultConfig_leaves s
  | historyServed => exact onHistoryServed_leaves s
  | historyTimeout | feedWatchdog => exact request_leaves rfl s
  | relayingModeChanged => exact onRelayingModeChanged_leaves s
  | stop => exact .supervisor s _

/-- Whatever signals the supervisor handles. -/
theorem handleAll_leaves (signals : SignalSet SupervisorSignal) (s : System ω) :
    Leaves contact (fun _ ↦ True) s (s.handleAll contact signals) := by
  rw [handleAll]
  induction signals.toList generalizing s with
  | nil => exact .refl s
  | cons signal rest ih =>
    exact ((handle_leaves signal s).mono fun _ _ ↦ trivial).trans (ih (s.handle contact signal))

/-- When the supervisor begins. -/
theorem start_leaves (s : System ω) : LeavesTo contact .feedWatchdog s (s.start contact) := by
  let s' := (s.subscribe contact).startMqtt contact
  have hsubscribed : LeavesTo contact .feedWatchdog s (s.subscribe contact) :=
    (request_leaves rfl s).trans (.supervisor _ _)
  have harmed : LeavesTo contact .feedWatchdog s' { s' with
      supervisor.timers.heap := s'.supervisor.timers.heap.start
      supervisor.timers.history := s'.supervisor.timers.history.start } := .supervisor s' _
  have hscheduled : LeavesTo contact .feedWatchdog s' (s.start contact) :=
    (harmed.trans (scheduleRemote_leaves _)).trans (scheduleFirstCheck_leaves _ _)
  exact (hsubscribed.trans (startMqtt_leaves _)).trans hscheduled

end System

end BeaconGateway.Supervisor
