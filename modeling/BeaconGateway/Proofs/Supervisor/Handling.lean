import BeaconGateway.Proofs.Log
import BeaconGateway.Proofs.Network.Status
import BeaconGateway.Proofs.Outside
import BeaconGateway.Proofs.Relay.Handling
import BeaconGateway.Supervisor.System

/-!
# What the supervisor does with its signals

Of the supervisor's signals five matter to relaying: entering and leaving configuration mode, going
back to the default configuration, restarting the services, and a change of the relaying mode. All
others keep the configuration, the mode, and what the relay was told, and do not touch the
connection to the broker.

The supervisor is in configuration mode exactly while relaying is suspended. Commands to the relay
may coalesce with earlier ones, but outside configuration mode the latest command was to go on, and
that one wins. So whatever the relay has been told in between, it relays once it has taken what is
pending.

## Main results

* `Supervisor.System.Keeps` — what the other signals keep, with one lemma for each handler up to
  `Supervisor.System.handle_keeps`;
* `Supervisor.System.Settled` — the mode, the suspension and the pending commands fit together;
* `Supervisor.System.settled_handle`, `Supervisor.System.settled_handleAll` — they do so after any
  signals.
-/

namespace BeaconGateway

/-! ### Commands that are pending -/

/-- A signal that is no command to the relay decides nothing. -/
theorem SignalSet.enabledAfter_insert {signal : RelaySignal} (signals : SignalSet RelaySignal)
    (enabled : Bool) (hother : signal ≠ .disable) (hother' : signal ≠ .enable) :
    (signals.insert signal).enabledAfter enabled = signals.enabledAfter enabled := by
  simp [enabledAfter, contains_insert, hother, hother']

/-- Among pending commands the one to go on wins. -/
theorem SignalSet.enabledAfter_insert_enable (signals : SignalSet RelaySignal) (enabled : Bool) :
    (signals.insert .enable).enabledAfter enabled = true := by
  simp [enabledAfter, contains_insert]

namespace Supervisor

/-- Whether a question is about the connection to the broker. -/
def Request.concernsBroker : Request → Bool
  | .startMqtt _ | .stopMqtt => true
  | _ => false

namespace System

variable {ω : Type} {contact : Contact ω} {s s' s'' : System ω} {asked asked' : Request → Prop}

/-! ### All but the five -/

/-- **What a handler keeps**, and what kind of questions it asks. -/
structure Keeps (contact : Contact ω) (asked : Request → Prop) (s s' : System ω) : Prop where
  /-- The configuration stays. -/
  config : s'.supervisor.config = s.supervisor.config
  /-- Configuration mode goes on, or goes on to be off. -/
  configMode : s'.supervisor.configMode = s.supervisor.configMode
  /-- Relaying is neither suspended nor resumed. -/
  suspended : s'.net.isSuspended = s.net.isSuspended
  /-- The relay is told nothing. -/
  relayMailbox : s'.relayMailbox = s.relayMailbox
  /-- The outside is asked nothing else. -/
  outside : contact.ask.Reaches asked s.outside s'.outside

namespace Keeps

theorem refl (s : System ω) : Keeps contact asked s s :=
  ⟨rfl, rfl, rfl, rfl, .refl _⟩

theorem trans (hfirst : Keeps contact asked s s') (hsecond : Keeps contact asked s' s'') :
    Keeps contact asked s s'' where
  config := hsecond.config.trans hfirst.config
  configMode := hsecond.configMode.trans hfirst.configMode
  suspended := hsecond.suspended.trans hfirst.suspended
  relayMailbox := hsecond.relayMailbox.trans hfirst.relayMailbox
  outside := hfirst.outside.trans hsecond.outside

theorem mono (hkeeps : Keeps contact asked s s') (hwider : ∀ r, asked r → asked' r) :
    Keeps contact asked' s s' :=
  { hkeeps with outside := hkeeps.outside.mono hwider }

end Keeps

/-- To ask the outside touches nothing but the outside. -/
theorem request_keeps {r : Request} (hkind : asked r) (s : System ω) :
    Keeps contact asked s (s.request contact r) :=
  ⟨rfl, rfl, rfl, rfl, .single hkind s.outside⟩

theorem post_keeps (signal : SupervisorSignal) (s : System ω) :
    Keeps contact asked s (s.post signal) :=
  ⟨rfl, rfl, rfl, rfl, .refl _⟩

theorem stopMqtt_keeps (hkind : asked .stopMqtt) (s : System ω) :
    Keeps contact asked s (s.stopMqtt contact) :=
  ⟨rfl, rfl, NetworkStatus.isSuspended_onBroker _ _, rfl, .single hkind s.outside⟩

/-- Connecting to the broker asks for that alone, and only where the broker is in use. -/
theorem startMqtt_keeps (s : System ω) (hkind : asked (.startMqtt s.supervisor.config)) :
    Keeps contact asked s (s.startMqtt contact) := by
  rw [startMqtt]
  split_ifs
  · exact request_keeps hkind s
  · exact .refl s

/-- Timers are no part of what is kept, so arming them keeps all of it. -/
theorem scheduleRemote_keeps (s : System ω) : Keeps contact asked s s.scheduleRemote :=
  ⟨rfl, rfl, rfl, rfl, .refl _⟩

theorem scheduleCheck_keeps (delay : Nat) (s : System ω) :
    Keeps contact asked s (s.scheduleCheck delay) :=
  ⟨rfl, rfl, rfl, rfl, .refl _⟩

theorem scheduleFirstCheck_keeps (manual : Timer SupervisorSignal → Timer SupervisorSignal)
    (s : System ω) : Keeps contact asked s (s.scheduleFirstCheck manual) := by
  rw [scheduleFirstCheck]
  split_ifs
  · exact ⟨rfl, rfl, rfl, rfl, .refl _⟩
  · exact scheduleCheck_keeps delayAfterStart s

/-- A handler that leaves the broker alone keeps all that matters to relaying. -/
abbrev KeepsApart (contact : Contact ω) : System ω → System ω → Prop :=
  Keeps contact fun r ↦ r.concernsBroker = false

/-- A question that is not about the broker may be asked by every handler but the five. -/
theorem request_keepsApart {r : Request} (hapart : r.concernsBroker = false) (s : System ω) :
    KeepsApart contact s (s.request contact r) :=
  request_keeps hapart s

theorem onHeapSample_keeps (s : System ω) : KeepsApart contact s (s.onHeapSample contact) := by
  rcases hsampled : s.supervisor.heap.sample (contact.freeHeap s.outside) with ⟨verdict, heap⟩
  have hnoted : KeepsApart contact s { s with supervisor.heap := heap } :=
    ⟨rfl, rfl, rfl, rfl, .refl _⟩
  rw [onHeapSample, hsampled]
  dsimp only
  split
  · exact hnoted.trans (request_keepsApart rfl _)
  · exact hnoted

/-- A look for new firmware changes when the next one is due, and nothing else. -/
theorem onCheckForUpdates_keeps (s : System ω) :
    KeepsApart contact s (s.onCheckForUpdates contact) := by
  rw [onCheckForUpdates]
  split
  · have htold : KeepsApart contact s (s.ask contact .checkForUpdates).2 :=
      request_keepsApart rfl s
    rcases hanswer : s.ask contact .checkForUpdates with ⟨done, s'⟩
    rw [hanswer] at htold
    cases done with
    | true => exact htold.trans (scheduleCheck_keeps _ s')
    | false => exact htold.trans (scheduleCheck_keeps _ s')
  · exact scheduleCheck_keeps _ s

theorem onCheckForRemoteConfig_keeps (s : System ω) :
    KeepsApart contact s (s.onCheckForRemoteConfig contact) := by
  rw [onCheckForRemoteConfig]
  split_ifs
  · exact request_keepsApart rfl s
  · exact .refl s

/-- A poll of a local client starts a timer and lights the lamp. -/
theorem onHistoryServed_keeps (s : System ω) :
    KeepsApart contact s (s.onHistoryServed contact) := by
  have harmed : KeepsApart contact s
      { s with supervisor.timers.history := s.supervisor.timers.history.start } :=
    ⟨rfl, rfl, rfl, rfl, .refl _⟩
  exact harmed.trans (request_keepsApart rfl _)

/-- A network that comes up is announced. The supervisor may send itself the signal to fetch the
remote configuration, which is not one of the five. -/
theorem onNetworkConnected_keeps (s : System ω) :
    KeepsApart contact s (s.onNetworkConnected contact) := by
  have hannounced : KeepsApart contact s (s.request contact .startMdns) := request_keepsApart rfl s
  rw [onNetworkConnected]
  dsimp only
  split_ifs
  · have hfetched : KeepsApart contact (s.request contact .startMdns)
        { s.request contact .startMdns with supervisor.remoteFetched := true } :=
      ⟨rfl, rfl, rfl, rfl, .refl _⟩
    exact (hannounced.trans hfetched).trans (post_keeps _ _)
  · exact hannounced


/-- **All but five signals** keep what matters to relaying. -/
theorem handle_keeps (signal : SupervisorSignal) (s : System ω)
    (hother : signal ∉ [.activateConfigMode, .deactivateConfigMode, .restartServices,
      .setDefaultConfig, .relayingModeChanged]) :
    KeepsApart contact s (s.handle contact signal) := by
  cases signal with
  | logHeapUsage => exact onHeapSample_keeps s
  | checkForUpdates => exact onCheckForUpdates_keeps s
  | scheduleNextCheck | scheduleRetry => exact scheduleCheck_keeps _ s
  | checkForRemoteConfig => exact onCheckForRemoteConfig_keeps s
  | networkConnected => exact onNetworkConnected_keeps s
  | historyServed => exact onHistoryServed_keeps s
  | networkDisconnected | reconnectNetwork | historyTimeout | feedWatchdog =>
    exact request_keepsApart rfl s
  | stop => exact ⟨rfl, rfl, rfl, rfl, .refl _⟩
  | activateConfigMode | deactivateConfigMode | restartServices | setDefaultConfig
  | relayingModeChanged => exact absurd hother (by decide)

/-! ### Restarting the services -/

/-- Drop the connection to the broker, and connect again unless relaying is suspended. -/
def reconnect (contact : Contact ω) (s : System ω) : System ω :=
  let s := s.stopMqtt contact
  if s.net.isSuspended then s else s.startMqtt contact

/-- Restarting the services leaves the broker alone once it has reconnected. -/
theorem onRestartServices_keepsApart (s : System ω) :
    KeepsApart contact (s.reconnect contact) (s.onRestartServices contact) :=
  ((request_keepsApart rfl _).trans (scheduleRemote_keeps _)).trans (scheduleFirstCheck_keeps _ _)

/-- Restarting the services keeps what the signals keep, although it asks about the broker. -/
theorem onRestartServices_keeps (s : System ω) :
    Keeps contact (fun _ ↦ True) s (s.onRestartServices contact) := by
  have hdropped : Keeps contact (fun _ ↦ True) s (s.stopMqtt contact) := stopMqtt_keeps trivial s
  have hreconnected : Keeps contact (fun _ ↦ True) s (s.reconnect contact) := by
    rw [reconnect]
    split_ifs
    · exact hdropped
    · exact hdropped.trans (startMqtt_keeps _ trivial)
  exact hreconnected.trans ((onRestartServices_keepsApart s).mono fun _ _ ↦ trivial)

/-! ### Configuration mode -/

/-- Enter configuration mode, as far as relaying is concerned. -/
def enterConfigMode (s : System ω) : System ω :=
  { s with
    supervisor.configMode := true
    supervisor.timers.remote := s.supervisor.timers.remote.stop
    supervisor.timers.updates := s.supervisor.timers.updates.stop
    net := s.net.set NetworkStatus.suspended }.tellRelay .disable

/-- Leave configuration mode, but for the services and for relaying. -/
def leaveConfigMode (contact : Contact ω) (s : System ω) : System ω :=
  (({ s with supervisor.configMode := false }.request contact .stopAccessPoint).request contact
    (.lamp (.configMode false))).onHistoryServed contact

/-- Go on relaying. -/
def resume (s : System ω) : System ω :=
  { s with net := s.net.clear NetworkStatus.suspended }.tellRelay .enable

/-- To enter configuration mode is to change the mode and suspend relaying (`enterConfigMode`); the
rest of the handler keeps both. -/
theorem onActivateConfigMode_keepsApart (hinactive : s.supervisor.configMode = false) :
    KeepsApart contact s.enterConfigMode (s.onActivateConfigMode contact) := by
  rw [onActivateConfigMode, hinactive]
  exact (request_keepsApart rfl _).trans (request_keepsApart rfl _)

/-- To leave configuration mode begins with the mode; relaying is resumed later. -/
theorem leaveConfigMode_keepsApart (s : System ω) :
    KeepsApart contact { s with supervisor.configMode := false } (s.leaveConfigMode contact) :=
  ((request_keepsApart rfl _).trans (request_keepsApart rfl _)).trans (onHistoryServed_keeps _)

/-- What is done on leaving configuration mode, in order: the mode, the services, and relaying last.
The services are restarted while relaying is still suspended. -/
theorem onDeactivateConfigMode_eq (hactive : s.supervisor.configMode = true) :
    s.onDeactivateConfigMode contact =
      ((s.leaveConfigMode contact).onRestartServices contact).resume := by
  rw [onDeactivateConfigMode, if_pos hactive]
  rfl

/-! ### The mode, the suspension and the pending commands -/

/-- **The mode, the suspension and the pending commands fit together**, seen from a relay that is
enabled or not. -/
structure Settled (enabled : Bool) (s : System ω) : Prop where
  /-- The supervisor is in configuration mode exactly while relaying is suspended. -/
  mode : s.supervisor.configMode = s.net.isSuspended
  /-- The relay takes signals. -/
  registered : s.relayMailbox.registered = true
  /-- Outside configuration mode the relay will relay once it has taken what is pending. -/
  resumes : s.supervisor.configMode = false →
    s.relayMailbox.pending.enabledAfter enabled = true

variable {enabled : Bool}

/-- What a handler keeps is all that the agreement between mode, suspension and commands is about.
-/
theorem Keeps.settled (hkeeps : Keeps contact asked s s') (hsettled : Settled enabled s) :
    Settled enabled s' where
  mode := by rw [hkeeps.configMode, hkeeps.suspended, hsettled.mode]
  registered := by rw [hkeeps.relayMailbox, hsettled.registered]
  resumes := by rw [hkeeps.configMode, hkeeps.relayMailbox]; exact hsettled.resumes

/-- In configuration mode the relay may be told to pause: what it was told matters outside of it
only. -/
theorem settled_tellRelay_disable (hsettled : Settled enabled s)
    (hactive : s.supervisor.configMode = true) : Settled enabled (s.tellRelay .disable) where
  mode := hsettled.mode
  registered := (Mailbox.registered_send _ _).trans hsettled.registered
  resumes hinactive := absurd (hactive.symm.trans hinactive) (by decide)

/-- The command to go on settles the matter, whatever was pending. -/
theorem settled_tellRelay_enable (hmode : s.supervisor.configMode = s.net.isSuspended)
    (hregistered : s.relayMailbox.registered = true) : Settled enabled (s.tellRelay .enable) where
  mode := hmode
  registered := (Mailbox.registered_send _ _).trans hregistered
  resumes _ := by
    rw [tellRelay, Mailbox.pending_send hregistered, SignalSet.enabledAfter_insert_enable]

/-- Entering configuration mode suspends relaying along with it. -/
theorem settled_onActivateConfigMode (hsettled : Settled enabled s) :
    Settled enabled (s.onActivateConfigMode contact) := by
  cases hactive : s.supervisor.configMode with
  | true => rwa [onActivateConfigMode, if_pos hactive]
  | false =>
    have hentered : Settled enabled s.enterConfigMode :=
      settled_tellRelay_disable
        ⟨(NetworkStatus.isSuspended_set_suspended _).symm, hsettled.registered, nofun⟩ rfl
    exact (onActivateConfigMode_keepsApart hactive).settled hentered

/-- Leaving configuration mode resumes relaying and tells the relay to go on, which wins over what
is still pending. -/
theorem settled_onDeactivateConfigMode (hsettled : Settled enabled s) :
    Settled enabled (s.onDeactivateConfigMode contact) := by
  cases hactive : s.supervisor.configMode with
  | false => rwa [onDeactivateConfigMode, hactive]
  | true =>
    rw [onDeactivateConfigMode_eq hactive]
    have hleft : Keeps contact (fun _ ↦ True) { s with supervisor.configMode := false }
        ((s.leaveConfigMode contact).onRestartServices contact) :=
      ((leaveConfigMode_keepsApart s).mono fun _ _ ↦ trivial).trans (onRestartServices_keeps _)
    apply settled_tellRelay_enable
    · exact hleft.configMode.trans (NetworkStatus.isSuspended_clear_suspended _).symm
    · exact (congrArg Mailbox.registered hleft.relayMailbox).trans hsettled.registered

/-- Going back to the default configuration leaves the mode to a later signal. -/
theorem settled_onSetDefaultConfig (hsettled : Settled enabled s) :
    Settled enabled (s.onSetDefaultConfig contact) := by
  have hreplaced : Settled enabled { s with supervisor.config := .default } :=
    ⟨hsettled.mode, hsettled.registered, hsettled.resumes⟩
  exact ((request_keepsApart rfl _).trans (post_keeps _ _)).settled hreplaced

/-- A change of the relaying mode tells the relay what the suspension says. -/
theorem settled_onRelayingModeChanged (hsettled : Settled enabled s) :
    Settled enabled (s.onRelayingModeChanged contact) := by
  have hdrops : Keeps contact (fun _ ↦ True) s (s.stopMqtt contact) := stopMqtt_keeps trivial s
  have hconnects : Keeps contact (fun _ ↦ True) s (s.startMqtt contact) :=
    startMqtt_keeps s trivial
  have hdropped : Settled enabled (s.stopMqtt contact) := hdrops.settled hsettled
  have hconnected : Settled enabled (s.startMqtt contact) := hconnects.settled hsettled
  rw [onRelayingModeChanged]
  split_ifs with hsuspended
  · exact settled_tellRelay_disable hdropped
      (hdropped.mode.trans ((NetworkStatus.isSuspended_onBroker _ _).trans hsuspended))
  · exact settled_tellRelay_enable hconnected.mode hconnected.registered
  · exact settled_tellRelay_enable hdropped.mode hdropped.registered

/-- **After any signal** the mode, the suspension and the pending commands still fit together. -/
theorem settled_handle (hsettled : Settled enabled s) (signal : SupervisorSignal) :
    Settled enabled (s.handle contact signal) := by
  by_cases hother : signal ∈ [.activateConfigMode, .deactivateConfigMode, .restartServices,
      .setDefaultConfig, .relayingModeChanged]
  · simp only [List.mem_cons, List.not_mem_nil, or_false] at hother
    obtain rfl | rfl | rfl | rfl | rfl := hother
    · exact settled_onActivateConfigMode hsettled
    · exact settled_onDeactivateConfigMode hsettled
    · exact (onRestartServices_keeps s).settled hsettled
    · exact settled_onSetDefaultConfig hsettled
    · exact settled_onRelayingModeChanged hsettled
  · exact (handle_keeps signal s hother).settled hsettled

/-- Mode, suspension and commands agree after any set of signals. -/
theorem settled_handleAll (hsettled : Settled enabled s) (signals : SignalSet SupervisorSignal) :
    Settled enabled (s.handleAll contact signals) := by
  rw [handleAll]
  induction signals.toList generalizing s with
  | nil => exact hsettled
  | cons signal rest ih => exact ih (settled_handle hsettled signal)

/-! ### The start -/

/-- Subscribe to the watchdog, and feed it. -/
def subscribe (contact : Contact ω) (s : System ω) : System ω :=
  let s := s.request contact (.watchdog .register)
  { s with supervisor.timers.feedWatchdog := s.supervisor.timers.feedWatchdog.start }

theorem subscribe_keepsApart (s : System ω) : KeepsApart contact s (s.subscribe contact) :=
  (request_keepsApart rfl s).trans ⟨rfl, rfl, rfl, rfl, .refl _⟩

/-- The supervisor leaves the broker alone once it has connected at the start. -/
theorem start_keepsApart (s : System ω) :
    KeepsApart contact ((s.subscribe contact).startMqtt contact) (s.start contact) := by
  let s' := (s.subscribe contact).startMqtt contact
  have harmed : KeepsApart contact s' { s' with
      supervisor.timers.heap := s'.supervisor.timers.heap.start
      supervisor.timers.history := s'.supervisor.timers.history.start } :=
    ⟨rfl, rfl, rfl, rfl, .refl _⟩
  exact (harmed.trans (scheduleRemote_keeps _)).trans (scheduleFirstCheck_keeps _ _)

/-- The beginning of the task keeps what the signals keep. -/
theorem start_keeps (s : System ω) : Keeps contact (fun _ ↦ True) s (s.start contact) := by
  have hsubscribed : Keeps contact (fun _ ↦ True) s (s.subscribe contact) :=
    (subscribe_keepsApart s).mono fun _ _ ↦ trivial
  have hconnected : Keeps contact (fun _ ↦ True) (s.subscribe contact)
      ((s.subscribe contact).startMqtt contact) := startMqtt_keeps _ trivial
  exact (hsubscribed.trans hconnected).trans ((start_keepsApart s).mono fun _ _ ↦ trivial)

end System

end Supervisor

end BeaconGateway
