import BeaconGateway.Proofs.Supervisor.Handling

/-!
# When the supervisor is connected to the broker

The supervisor connects to the broker at the start, whenever the services are restarted, and
whenever the relaying mode changes, unless relaying is suspended then. It disconnects when
configuration mode is left: the services are restarted while relaying is still suspended, so the
connection is dropped and not made again, and only then is relaying resumed. From then on there is
no connection until the services are restarted once more or the relaying mode changes.

So a supervisor that uses the broker and does not suspend relaying is connected exactly if
configuration mode was not left since. All that decides this are three bits, on which the signals
act by `BrokerState.step`.

## Main results

* `Contact.Connects` — an outside where connections never fail;
* `Supervisor.System.brokerState_handle`, `Supervisor.System.brokerState_handleAll` — signals act on
  the three bits;
* `Supervisor.LeftSince` — configuration mode was left and nothing has connected since;
* `Supervisor.BrokerState.connected_iff` — when there is a connection.
-/

namespace BeaconGateway.Supervisor

variable {ω : Type} {contact : Contact ω} {connected : ω → Bool}

/-- An outside that is connected to the broker or not, and where no connection fails. -/
structure Contact.Connects (contact : Contact ω) (connected : ω → Bool) : Prop where
  /-- A dropped connection is gone. -/
  stops : ∀ o, connected (contact.ask .stopMqtt o).2 = false
  /-- A connection that the configuration asks for is made. -/
  starts : ∀ (c : Config) (o), c.mqtt.enabled = true →
    connected (contact.ask (.startMqtt c) o).2 = true
  /-- Nothing else makes or drops one. -/
  others : ∀ r o, r.concernsBroker = false → connected (contact.ask r o).2 = connected o

/-! ### Three bits -/

/-- What decides whether there is a connection to the broker. -/
structure BrokerState where
  /-- Whether configuration mode is on. -/
  configMode : Bool
  /-- Whether the configuration uses the broker. -/
  used : Bool
  /-- Whether there is a connection. -/
  connected : Bool
  deriving DecidableEq

namespace BrokerState

/-- How a signal acts. -/
def step (b : BrokerState) : SupervisorSignal → BrokerState
  | .activateConfigMode => { b with configMode := true }
  | .deactivateConfigMode =>
    if b.configMode then { b with configMode := false, connected := false } else b
  | .restartServices | .relayingModeChanged =>
    { b with connected := !b.configMode && b.used }
  | .setDefaultConfig => { b with used := Config.default.mqtt.enabled }
  | _ => b

/-- How signals act one after another. -/
def run (b : BrokerState) (signals : List SupervisorSignal) : BrokerState :=
  signals.foldl step b

/-- Signals act in order. -/
theorem run_append (b : BrokerState) (signals signals' : List SupervisorSignal) :
    b.run (signals ++ signals') = (b.run signals).run signals' :=
  List.foldl_append

/-- One more signal acts last. -/
theorem run_concat (b : BrokerState) (signals : List SupervisorSignal)
    (signal : SupervisorSignal) : b.run (signals ++ [signal]) = (b.run signals).step signal :=
  List.foldl_concat step b signal signals

end BrokerState

namespace System

variable {s s' : System ω}

/-- The three bits of a supervisor. -/
def brokerState (connected : ω → Bool) (s : System ω) : BrokerState where
  configMode := s.supervisor.configMode
  used := s.supervisor.config.mqtt.enabled
  connected := connected s.outside

/-- What does not concern the broker leaves the three bits. -/
theorem Keeps.brokerState (hconnects : contact.Connects connected)
    (hkeeps : KeepsApart contact s s') : s'.brokerState connected = s.brokerState connected := by
  have hsame : connected s'.outside = connected s.outside :=
    hkeeps.outside.preserves (P := fun o ↦ connected o = connected s.outside)
      (fun r o hapart hheld ↦ (hconnects.others r o hapart).trans hheld) rfl
  rw [System.brokerState, System.brokerState, hkeeps.configMode, hkeeps.config, hsame]

/-- Disconnecting drops the connection. -/
theorem brokerState_stopMqtt (hconnects : contact.Connects connected) (s : System ω) :
    (s.stopMqtt contact).brokerState connected =
      { s.brokerState connected with connected := false } :=
  congrArg (BrokerState.mk s.supervisor.configMode s.supervisor.config.mqtt.enabled)
    (hconnects.stops s.outside)

/-- Connecting makes one, where the broker is used. -/
theorem brokerState_startMqtt (hconnects : contact.Connects connected)
    (hused : s.supervisor.config.mqtt.enabled = true) :
    (s.startMqtt contact).brokerState connected =
      { s.brokerState connected with connected := true } := by
  rw [startMqtt, if_pos hused]
  exact congrArg (BrokerState.mk s.supervisor.configMode s.supervisor.config.mqtt.enabled)
    (hconnects.starts s.supervisor.config s.outside hused)

/-- Reconnecting makes a connection where one is used and relaying is not suspended. -/
theorem brokerState_reconnect (hconnects : contact.Connects connected) (s : System ω) :
    (s.reconnect contact).brokerState connected =
      { s.brokerState connected with
        connected := !s.net.isSuspended && s.supervisor.config.mqtt.enabled } := by
  have hsame : (s.stopMqtt contact).net.isSuspended = s.net.isSuspended :=
    NetworkStatus.isSuspended_onBroker _ _
  have hdropped := brokerState_stopMqtt hconnects s
  rw [reconnect]
  simp only [hsame]
  cases hsuspended : s.net.isSuspended with
  | true => exact hdropped
  | false =>
    cases hused : s.supervisor.config.mqtt.enabled with
    | true =>
      have hmade := brokerState_startMqtt (s := s.stopMqtt contact) hconnects hused
      rw [hdropped] at hmade
      exact hmade
    | false =>
      have hunused : (s.stopMqtt contact).startMqtt contact = s.stopMqtt contact :=
        if_neg (by simp [stopMqtt, request, ask, hused])
      simpa [hunused] using hdropped

/-- Restarting the services makes a connection anew, or drops it while relaying is suspended. -/
theorem brokerState_onRestartServices (hconnects : contact.Connects connected) (s : System ω) :
    (s.onRestartServices contact).brokerState connected =
      { s.brokerState connected with
        connected := !s.net.isSuspended && s.supervisor.config.mqtt.enabled } :=
  ((onRestartServices_keepsApart s).brokerState hconnects).trans (brokerState_reconnect hconnects s)

/-! ### Signals act on the bits -/

/-- Entering configuration mode leaves the connection as it is, although relaying is suspended. -/
theorem brokerState_onActivateConfigMode (hconnects : contact.Connects connected) (s : System ω) :
    (s.onActivateConfigMode contact).brokerState connected =
      (s.brokerState connected).step .activateConfigMode := by
  cases hactive : s.supervisor.configMode with
  | true =>
    rw [onActivateConfigMode, if_pos hactive]
    simp [System.brokerState, BrokerState.step, hactive]
  | false => exact (onActivateConfigMode_keepsApart hactive).brokerState hconnects

/-- Configuration mode is left with the connection dropped: the services are restarted while
relaying is still suspended. -/
theorem brokerState_onDeactivateConfigMode (hconnects : contact.Connects connected)
    (hmode : s.supervisor.configMode = s.net.isSuspended) :
    (s.onDeactivateConfigMode contact).brokerState connected =
      (s.brokerState connected).step .deactivateConfigMode := by
  cases hactive : s.supervisor.configMode with
  | false =>
    rw [onDeactivateConfigMode, hactive]
    simp [System.brokerState, BrokerState.step, hactive]
  | true =>
    have hleft : KeepsApart contact { s with supervisor.configMode := false }
        (s.leaveConfigMode contact) := leaveConfigMode_keepsApart s
    have hsuspended : (s.leaveConfigMode contact).net.isSuspended = true :=
      hleft.suspended.trans (hmode.symm.trans hactive)
    calc (s.onDeactivateConfigMode contact).brokerState connected
      _ = ((s.leaveConfigMode contact).onRestartServices contact).brokerState connected := by
        rw [onDeactivateConfigMode_eq hactive]
        rfl
      _ = { (s.leaveConfigMode contact).brokerState connected with connected := false } := by
        rw [brokerState_onRestartServices hconnects, hsuspended]
        rfl
      _ = { s.brokerState connected with configMode := false, connected := false } := by
        rw [hleft.brokerState hconnects]
        rfl
      _ = (s.brokerState connected).step .deactivateConfigMode := by
        simp [System.brokerState, BrokerState.step, hactive]

/-- The default configuration does not use the broker, but the connection is left as it is. -/
theorem brokerState_onSetDefaultConfig (hconnects : contact.Connects connected) (s : System ω) :
    (s.onSetDefaultConfig contact).brokerState connected =
      (s.brokerState connected).step .setDefaultConfig := by
  let s' : System ω := { s with supervisor.config := .default }
  have htold : KeepsApart contact s' (s.onSetDefaultConfig contact) :=
    (request_keepsApart rfl s').trans (post_keeps _ _)
  exact htold.brokerState hconnects

/-- A change of the relaying mode connects or disconnects as the mode now says. -/
theorem brokerState_onRelayingModeChanged (hconnects : contact.Connects connected)
    (hmode : s.supervisor.configMode = s.net.isSuspended) :
    (s.onRelayingModeChanged contact).brokerState connected =
      (s.brokerState connected).step .relayingModeChanged := by
  have htold (signal : RelaySignal) (s : System ω) :
      (s.tellRelay signal).brokerState connected = s.brokerState connected := rfl
  have hdropped := brokerState_stopMqtt hconnects s
  rw [onRelayingModeChanged]
  split_ifs with hsuspended hused
  · rw [htold, hdropped]
    simp [System.brokerState, BrokerState.step, hmode, hsuspended]
  · rw [htold, brokerState_startMqtt hconnects hused]
    simp [System.brokerState, BrokerState.step, hmode, hsuspended, hused]
  · rw [htold, hdropped]
    simp [System.brokerState, BrokerState.step, hused]

/-- **A signal acts on the three bits** and on them alone. -/
theorem brokerState_handle (hconnects : contact.Connects connected)
    (hmode : s.supervisor.configMode = s.net.isSuspended) (signal : SupervisorSignal) :
    (s.handle contact signal).brokerState connected = (s.brokerState connected).step signal := by
  -- five signals concern the broker or configuration mode, and the others keep apart from both
  by_cases hother : signal ∈ [.activateConfigMode, .deactivateConfigMode, .restartServices,
      .setDefaultConfig, .relayingModeChanged]
  · simp only [List.mem_cons, List.not_mem_nil, or_false] at hother
    obtain rfl | rfl | rfl | rfl | rfl := hother
    · exact brokerState_onActivateConfigMode hconnects s
    · exact brokerState_onDeactivateConfigMode hconnects hmode
    · rw [handle, brokerState_onRestartServices hconnects, ← hmode]
      rfl
    · exact brokerState_onSetDefaultConfig hconnects s
    · exact brokerState_onRelayingModeChanged hconnects hmode
  · have hunmoved : (s.brokerState connected).step signal = s.brokerState connected := by
      cases signal with
      | activateConfigMode | deactivateConfigMode | restartServices | setDefaultConfig
      | relayingModeChanged => exact absurd (by decide) hother
      | _ => rfl
    rw [hunmoved, (handle_keeps signal s hother).brokerState hconnects]

/-- All signals of a wake-up act in turn. -/
theorem brokerState_handleAll {enabled : Bool} (hconnects : contact.Connects connected)
    (hsettled : Settled enabled s) (signals : SignalSet SupervisorSignal) :
    (s.handleAll contact signals).brokerState connected =
      (s.brokerState connected).run signals.toList := by
  rw [handleAll, BrokerState.run]
  induction signals.toList generalizing s with
  | nil => rfl
  | cons signal rest ih =>
    have hfirst := brokerState_handle hconnects hsettled.mode signal
    rw [List.foldl_cons, ih (settled_handle hsettled signal), hfirst, List.foldl_cons]

/-- A supervisor that begins connects, where the broker is used. -/
theorem brokerState_start (hconnects : contact.Connects connected)
    (hused : s.supervisor.config.mqtt.enabled = true) :
    (s.start contact).brokerState connected =
      { s.brokerState connected with connected := true } := by
  have hsubscribed : KeepsApart contact s (s.subscribe contact) := subscribe_keepsApart s
  have hused' : (s.subscribe contact).supervisor.config.mqtt.enabled = true :=
    (congrArg (·.mqtt.enabled) hsubscribed.config).trans hused
  rw [(start_keepsApart s).brokerState hconnects, brokerState_startMqtt hconnects hused',
    hsubscribed.brokerState hconnects]

end System

/-! ### When there is a connection -/

/-- What a signal makes of configuration mode. -/
def modeAfter (on : Bool) : SupervisorSignal → Bool
  | .activateConfigMode => true
  | .deactivateConfigMode => false
  | _ => on

/-- Whether configuration mode is on after signals were handled: the last of those that enter and
leave it says so. -/
def inConfigMode (handled : List SupervisorSignal) : Bool :=
  handled.foldl modeAfter false

/-- **Configuration mode was left**, and since then neither were the services restarted nor did the
relaying mode change. -/
def LeftSince (handled : List SupervisorSignal) : Prop :=
  ∃ before since, handled = before ++ .deactivateConfigMode :: since ∧
    inConfigMode before = true ∧ .restartServices ∉ since ∧ .relayingModeChanged ∉ since

/-- The last signal has its say after all others. -/
theorem inConfigMode_concat (handled : List SupervisorSignal) (signal : SupervisorSignal) :
    inConfigMode (handled ++ [signal]) = modeAfter (inConfigMode handled) signal :=
  List.foldl_concat modeAfter false signal handled

/-- **A mode is on as the signals say**, of whatever it is a part, if each signal enters it, leaves
it or keeps it. -/
theorem mode_foldl_eq {σ : Type} {step : σ → SupervisorSignal → σ} {mode : σ → Bool}
    (hstep : ∀ s signal, mode (step s signal) = modeAfter (mode s) signal) {s : σ}
    (hoff : mode s = false) (handled : List SupervisorSignal) :
    mode (handled.foldl step s) = inConfigMode handled := by
  rw [← List.foldl_hom mode fun s signal ↦ (hstep s signal).symm, hoff]
  rfl

/-- Configuration mode is off at the start, so it was not left. -/
theorem not_leftSince_nil : ¬ LeftSince [] := by
  rintro ⟨before, since, hnone, -⟩
  exact absurd hnone (by simp)

/-- One more signal: configuration mode was left just now, or before and nothing has connected. -/
theorem leftSince_concat {handled : List SupervisorSignal} {signal : SupervisorSignal} :
    LeftSince (handled ++ [signal]) ↔
      signal = .deactivateConfigMode ∧ inConfigMode handled = true ∨
        signal ≠ .restartServices ∧ signal ≠ .relayingModeChanged ∧ LeftSince handled := by
  constructor
  · rintro ⟨before, since, hsplit, hactive, hrestarted, hchanged⟩
    obtain ⟨rfl, rfl, rfl⟩ | ⟨since, rfl, rfl⟩ := split_concat hsplit
    · exact .inl ⟨rfl, hactive⟩
    · simp only [List.mem_append, List.mem_singleton, not_or] at hrestarted hchanged
      exact .inr ⟨Ne.symm hrestarted.2, Ne.symm hchanged.2, before, since, rfl, hactive,
        hrestarted.1, hchanged.1⟩
  · rintro (⟨rfl, hactive⟩ | ⟨hrestarted, hchanged, before, since, rfl, hactive, hnone, hnone'⟩)
    · exact ⟨handled, [], rfl, hactive, List.not_mem_nil, List.not_mem_nil⟩
    · refine ⟨before, since ++ [signal], by simp, hactive, ?_, ?_⟩
      · simp [hnone, hrestarted.symm]
      · simp [hnone', hchanged.symm]

namespace BrokerState

/-- The three bits follow configuration mode as the signals say. -/
theorem configMode_step (b : BrokerState) (signal : SupervisorSignal) :
    (b.step signal).configMode = modeAfter b.configMode signal := by
  cases signal with
  | deactivateConfigMode =>
    rw [step]
    split_ifs with hon
    · rfl
    · exact Bool.eq_false_iff.2 hon
  | _ => rfl

/-- **When there is a connection.** Outside configuration mode, a supervisor that was connected at
the start and uses the broker is connected exactly if configuration mode was not left since. -/
theorem connected_iff (handled : List SupervisorSignal) {b : BrokerState}
    (hoff : b.configMode = false) (hstart : b.connected = true)
    (hinactive : (b.run handled).configMode = false) (hused : (b.run handled).used = true) :
    (b.run handled).connected = true ↔ ¬ LeftSince handled := by
  -- from the end: the last signal connects, disconnects, or leaves the connection as it was
  induction handled using List.reverseRecOn with
  | nil => exact iff_of_true hstart not_leftSince_nil
  | append_singleton handled signal ih =>
    have hmode : (b.run handled).configMode = inConfigMode handled :=
      mode_foldl_eq configMode_step hoff handled
    rw [run_concat] at hinactive hused ⊢
    rw [leftSince_concat, ← hmode]
    cases signal with
    | activateConfigMode => cases hinactive
    | setDefaultConfig =>
      have hdefault_used : Config.default.mqtt.enabled = true := hused
      exact absurd hdefault_used (by decide)
    | deactivateConfigMode =>
      cases hactive : (b.run handled).configMode with
      | true => simp [step, hactive]
      | false =>
        rw [step, hactive] at hused
        simpa [step, hactive] using ih hactive hused
    | restartServices | relayingModeChanged =>
      have hoff' : (b.run handled).configMode = false := hinactive
      have hused' : (b.run handled).used = true := hused
      simp [step, hoff', hused']
    | _ => simpa [step] using ih hinactive hused

end BrokerState

end BeaconGateway.Supervisor
