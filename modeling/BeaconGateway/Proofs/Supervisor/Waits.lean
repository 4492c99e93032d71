import BeaconGateway.Proofs.Supervisor.Recording

/-!
# What the supervisor waits for

Two of the supervisor's timers wait for the time to fetch the remote configuration and to look for
new firmware. Entering configuration mode disarms both; restarting the services, which is also part
of leaving it, arms them as the configuration says. Looking for new firmware arms the second timer
for the next look, and so do the two signals that schedule one. All that decides which of the two is
armed are four facts, on which the signals act by `WaitState.step`.

A fetch and a look are each asked for on behalf of one signal, and of the configuration in force.

## Main results

* `Supervisor.WaitState` — the four facts, and how signals act on them;
* `Supervisor.System.waitState_handle`, `Supervisor.System.waitState_follow` — the supervisor's
  signals act so, whatever happens around it;
* `Supervisor.System.requestRemoteConfig_mem_requests`,
  `Supervisor.System.checkForUpdates_mem_requests` — which signals fetch and look.
-/

namespace BeaconGateway

/-! ### Armed timers -/

namespace Timer

variable {σ : Type}

@[simp] theorem isArmed_stop (t : Timer σ) : t.stop.isArmed = false := rfl

/-- A timer that is restarted with a period is armed. -/
theorem isArmed_restart (t : Timer σ) {period : Nat} (htakesTime : 0 < period) :
    (t.restart period).isArmed = true := by
  rw [restart, dif_pos htakesTime]
  rfl

end Timer

namespace Supervisor

/-! ### Four facts -/

/-- What decides which timers are armed. -/
structure WaitState where
  /-- The configuration in force. -/
  config : Config
  /-- Whether configuration mode is on. -/
  configMode : Bool
  /-- Whether the timer of the remote configuration is armed. -/
  remote : Bool
  /-- Whether the timer of the update checks is armed. -/
  updates : Bool

namespace WaitState

/-- Arm or disarm both timers as the configuration says. -/
def rearm (b : WaitState) : WaitState :=
  { b with
    remote := System.fetchesRemote b.config.remote
    updates := b.config.autoUpdate.cycle != .manual }

/-- How a signal acts. -/
def step (b : WaitState) : SupervisorSignal → WaitState
  | .checkForUpdates | .scheduleNextCheck | .scheduleRetry => { b with updates := true }
  | .activateConfigMode =>
    if b.configMode then b else { b with configMode := true, remote := false, updates := false }
  | .deactivateConfigMode => if b.configMode then { b with configMode := false }.rearm else b
  | .restartServices => b.rearm
  | .setDefaultConfig => { b with config := .default }
  | _ => b

/-- How signals act one after another. -/
def run (b : WaitState) (signals : List SupervisorSignal) : WaitState :=
  signals.foldl step b

/-- One more signal acts last. -/
theorem run_concat (b : WaitState) (signals : List SupervisorSignal) (signal : SupervisorSignal) :
    b.run (signals ++ [signal]) = (b.run signals).step signal :=
  List.foldl_concat step b signal signals

end WaitState

namespace System

variable {ω : Type} {contact : Contact ω} {s : System ω}

/-- The four facts about a supervisor. -/
def waitState (s : System ω) : WaitState where
  config := s.supervisor.config
  configMode := s.supervisor.configMode
  remote := s.supervisor.timers.remote.isArmed
  updates := s.supervisor.timers.updates.isArmed

@[simp] theorem waitState_request (r : Request) (s : System ω) :
    (s.request contact r).waitState = s.waitState := rfl

/-- Connecting to the broker is no matter of the timers. -/
@[simp] theorem waitState_startMqtt (s : System ω) :
    (s.startMqtt contact).waitState = s.waitState := by
  rw [startMqtt]
  split_ifs <;> rfl

/-- A look that is scheduled ahead arms the timer of the update checks. -/
theorem waitState_scheduleCheck {delay : Nat} (htakesTime : 0 < delay) (s : System ω) :
    (s.scheduleCheck delay).waitState = { s.waitState with updates := true } :=
  congrArg (WaitState.mk s.supervisor.config s.supervisor.configMode _)
    (Timer.isArmed_restart _ htakesTime)

/-- Where the remote configuration is fetched repeatedly, there is time between two fetches. -/
theorem remotePeriod_pos {c : Config.Remote} (hfetches : fetchesRemote c = true) :
    0 < remotePeriod c.refreshMinutes := by
  have hsome : c.refreshMinutes ≠ 0 := by
    simp only [fetchesRemote, Bool.and_eq_true, bne_iff_ne] at hfetches
    exact hfetches.2
  have hpositive : 0 < c.refreshMinutes.toNat :=
    Nat.pos_of_ne_zero fun hzero ↦ hsome (UInt16.toNat_inj.1 hzero)
  rw [remotePeriod]
  omega

/-- The timer of the remote configuration is armed where it is to be fetched repeatedly. -/
theorem waitState_scheduleRemote (s : System ω) :
    s.scheduleRemote.waitState =
      { s.waitState with remote := fetchesRemote s.supervisor.config.remote } := by
  rw [scheduleRemote]
  cases hfetches : fetchesRemote s.supervisor.config.remote with
  | false => simp [System.waitState]
  | true => simp [System.waitState, Timer.isArmed_restart _ (remotePeriod_pos hfetches)]

/-- The first look is scheduled unless looks are manual, in which case the timer is left as `manual`
has it. -/
theorem waitState_scheduleFirstCheck (manual : Timer SupervisorSignal → Timer SupervisorSignal)
    (hidle : (manual s.supervisor.timers.updates).isArmed = false) :
    (s.scheduleFirstCheck manual).waitState =
      { s.waitState with updates := s.supervisor.config.autoUpdate.cycle != .manual } := by
  rw [scheduleFirstCheck]
  split_ifs with hmanual
  · simp [System.waitState, hmanual, hidle]
  · rw [waitState_scheduleCheck (by decide)]
    simp [System.waitState, hmanual]

/-- Both timers are armed or disarmed as the configuration says, where the timer of the update
checks is left idle if they are manual. -/
theorem waitState_schedule {manual : Timer SupervisorSignal → Timer SupervisorSignal}
    (hidle : (manual s.supervisor.timers.updates).isArmed = false) :
    (s.scheduleRemote.scheduleFirstCheck manual).waitState = s.waitState.rearm := by
  have hidle' : (manual s.scheduleRemote.supervisor.timers.updates).isArmed = false := hidle
  rw [waitState_scheduleFirstCheck manual hidle', waitState_scheduleRemote]
  rfl

/-! ### Signals act on the four facts -/

/-- A look schedules the next one whether it found something, found nothing, or was not allowed. -/
theorem waitState_onCheckForUpdates (s : System ω) :
    (s.onCheckForUpdates contact).waitState = { s.waitState with updates := true } := by
  have hasked : (s.ask contact .checkForUpdates).2.waitState = s.waitState :=
    waitState_request .checkForUpdates s
  rw [onCheckForUpdates]
  -- the delay to the next look differs from case to case, but it is never zero
  split
  · rcases hanswer : s.ask contact .checkForUpdates with ⟨done, s'⟩
    rw [hanswer] at hasked
    rw [← hasked]
    cases done with
    | true => exact waitState_scheduleCheck (by decide) s'
    | false => exact waitState_scheduleCheck (by decide) s'
  · exact waitState_scheduleCheck (by decide) s

/-- Restarting the services arms both timers as the configuration says, in configuration mode too.
-/
theorem waitState_onRestartServices (s : System ω) :
    (s.onRestartServices contact).waitState = s.waitState.rearm := by
  have hreconnected : (s.reconnect contact).waitState = s.waitState := by
    rw [reconnect]
    split_ifs
    · rfl
    · exact waitState_startMqtt _
  rw [← hreconnected]
  exact waitState_schedule (Timer.isArmed_stop _)

/-- Entering configuration mode disarms both timers; to enter it again does nothing. -/
theorem waitState_onActivateConfigMode (s : System ω) :
    (s.onActivateConfigMode contact).waitState = s.waitState.step .activateConfigMode := by
  rw [onActivateConfigMode, WaitState.step]
  exact (apply_ite System.waitState _ _ _).trans (ite_congr rfl (fun _ ↦ rfl) fun _ ↦ rfl)

/-- Leaving configuration mode restarts the services; to leave it again does nothing. -/
theorem waitState_onDeactivateConfigMode (s : System ω) :
    (s.onDeactivateConfigMode contact).waitState = s.waitState.step .deactivateConfigMode := by
  cases hactive : s.supervisor.configMode with
  | false =>
    have hoff : s.waitState.configMode = false := hactive
    rw [onDeactivateConfigMode, WaitState.step, hactive, hoff]
    rfl
  | true =>
    have hon : s.waitState.configMode = true := hactive
    rw [onDeactivateConfigMode_eq hactive, WaitState.step, if_pos hon]
    exact waitState_onRestartServices (s.leaveConfigMode contact)

/-- A change of the relaying mode is a matter of the broker and the relay. -/
theorem waitState_onRelayingModeChanged (s : System ω) :
    (s.onRelayingModeChanged contact).waitState = s.waitState := by
  rw [onRelayingModeChanged]
  split_ifs
  · rfl
  · exact waitState_startMqtt s
  · rfl

theorem waitState_onHeapSample (s : System ω) :
    (s.onHeapSample contact).waitState = s.waitState := by
  rw [onHeapSample]
  dsimp only
  split <;> rfl

theorem waitState_onNetworkConnected (s : System ω) :
    (s.onNetworkConnected contact).waitState = s.waitState := by
  rw [onNetworkConnected]
  dsimp only
  split_ifs <;> rfl

/-- A fetch leaves the timers alone: the timer of the remote configuration comes round by itself. -/
theorem waitState_onCheckForRemoteConfig (s : System ω) :
    (s.onCheckForRemoteConfig contact).waitState = s.waitState := by
  rw [onCheckForRemoteConfig]
  split_ifs <;> rfl

/-- **A signal acts on the four facts** and on them alone. -/
theorem waitState_handle (s : System ω) (signal : SupervisorSignal) :
    (s.handle contact signal).waitState = s.waitState.step signal := by
  cases signal with
  | checkForUpdates => exact waitState_onCheckForUpdates s
  | scheduleNextCheck | scheduleRetry => exact waitState_scheduleCheck (by decide) s
  | activateConfigMode => exact waitState_onActivateConfigMode s
  | deactivateConfigMode => exact waitState_onDeactivateConfigMode s
  | restartServices => exact waitState_onRestartServices s
  | setDefaultConfig => rfl
  | logHeapUsage => exact waitState_onHeapSample s
  | checkForRemoteConfig => exact waitState_onCheckForRemoteConfig s
  | networkConnected => exact waitState_onNetworkConnected s
  | relayingModeChanged => exact waitState_onRelayingModeChanged s
  | networkDisconnected | reconnectNetwork | historyServed | historyTimeout | feedWatchdog
  | stop => rfl

/-- A supervisor that begins arms both timers as its configuration says. -/
theorem waitState_start (c : Config) (s : System ω) :
    ({ s with supervisor := .new c }.start contact).waitState =
      WaitState.rearm ⟨c, false, false, false⟩ := by
  have hconnected : (({ s with supervisor := .new c }.subscribe contact).startMqtt
      contact).waitState = ⟨c, false, false, false⟩ := waitState_startMqtt _
  rw [← hconnected]
  exact waitState_schedule (congrArg WaitState.updates hconnected)

/-! ### Runs -/

/-- What the supervisor handles, and what happens around it. -/
inductive Turn (ω : Type) where
  /-- The supervisor handles a signal. -/
  | handle (signal : SupervisorSignal)
  /-- Meanwhile all that it touches has become this. -/
  | meanwhile (net : NetworkStatus) (relayMailbox : Mailbox RelaySignal)
    (mailbox : Mailbox SupervisorSignal) (outside : ω)

/-- The signals of a wake-up, one after another. -/
def Turn.wake (signals : SignalSet SupervisorSignal) : List (Turn ω) :=
  signals.toList.map .handle

/-- The signal that is handled in a turn. -/
def Turn.signal? : Turn ω → Option SupervisorSignal
  | .handle signal => some signal
  | .meanwhile .. => none

/-- One turn. -/
def turn (contact : Contact ω) (s : System ω) : Turn ω → System ω
  | .handle signal => s.handle contact signal
  | .meanwhile net relayMailbox mailbox outside => { s with net, relayMailbox, mailbox, outside }

/-- Turns in order. -/
def follow (contact : Contact ω) (s : System ω) (turns : List (Turn ω)) : System ω :=
  turns.foldl (turn contact) s

/-- The turns of a wake-up are the wake-up. -/
theorem follow_wake (s : System ω) (signals : SignalSet SupervisorSignal) :
    s.follow contact (Turn.wake signals) = s.handleAll contact signals :=
  List.foldl_map

/-- **The signals of a run act on the four facts**, whatever happens around the supervisor. -/
theorem waitState_follow (s : System ω) (turns : List (Turn ω)) :
    (s.follow contact turns).waitState = s.waitState.run (turns.filterMap Turn.signal?) := by
  rw [follow]
  induction turns generalizing s with
  | nil => rfl
  | cons t rest ih =>
    rw [List.foldl_cons, ih]
    cases t with
    | handle signal => exact congrArg (WaitState.run · _) (waitState_handle s signal)
    | meanwhile => rfl

/-! ### Which signals fetch and check -/

/-- **The remote configuration is fetched** on behalf of one signal alone, configuration mode or
not. -/
theorem requestRemoteConfig_mem_requests {signal : SupervisorSignal} {c : Config} :
    .requestRemoteConfig c ∈ s.requests contact signal ↔
      signal = .checkForRemoteConfig ∧ s.supervisor.config.remote.enabled = true ∧
        c = s.supervisor.config := by
  have hfetches : s.requests contact .checkForRemoteConfig =
      if s.supervisor.config.remote.enabled then [.requestRemoteConfig s.supervisor.config]
      else [] := by
    have hsame : s.recording.supervisor = s.supervisor := rfl
    rw [requests, handle, onCheckForRemoteConfig, hsame]
    split_ifs <;> rfl
  constructor
  · intro hmem
    obtain rfl := suits_of_mem_requests hmem .checkForRemoteConfig rfl
    rw [hfetches] at hmem
    split_ifs at hmem with henabled
    · simpa [henabled] using hmem
    · exact absurd hmem List.not_mem_nil
  · rintro ⟨rfl, henabled, rfl⟩
    simp [hfetches, henabled]

/-- **New firmware is looked for** on behalf of one signal alone, configuration mode or not. -/
theorem checkForUpdates_mem_requests {signal : SupervisorSignal} :
    .checkForUpdates ∈ s.requests contact signal ↔
      signal = .checkForUpdates ∧ checkAllowed s.supervisor.config.autoUpdate s.net.isConnected
        (contact.unixTime s.outside) = .ok () := by
  have hsame : checkAllowed s.recording.supervisor.config.autoUpdate s.recording.net.isConnected
      (contact.recorded.unixTime s.recording.outside) =
      checkAllowed s.supervisor.config.autoUpdate s.net.isConnected
        (contact.unixTime s.outside) := rfl
  have hlooks (hallowed : checkAllowed s.supervisor.config.autoUpdate s.net.isConnected
      (contact.unixTime s.outside) = .ok ()) :
      s.requests contact .checkForUpdates = [.checkForUpdates] := by
    have hasked : (s.recording.ask contact.recorded .checkForUpdates).2.outside.2.map Prod.fst =
        [.checkForUpdates] := rfl
    rw [requests, handle, onCheckForUpdates, hsame, hallowed]
    rcases hanswer : s.recording.ask contact.recorded .checkForUpdates with ⟨done, s'⟩
    rw [hanswer] at hasked
    cases done with
    | true => exact hasked
    | false => exact hasked
  -- who asks does so on behalf of a look, and then the look was allowed
  constructor
  · intro hmem
    obtain rfl := suits_of_mem_requests hmem .checkForUpdates rfl
    refine ⟨rfl, ?_⟩
    cases hrefused : checkAllowed s.supervisor.config.autoUpdate s.net.isConnected
        (contact.unixTime s.outside) with
    | ok => rfl
    | error reason =>
      rw [requests, handle, onCheckForUpdates, hsame, hrefused] at hmem
      exact absurd hmem List.not_mem_nil
  · rintro ⟨rfl, hallowed⟩
    rw [hlooks hallowed]
    exact List.mem_singleton_self _

end System

end Supervisor

end BeaconGateway
