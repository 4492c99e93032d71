import BeaconGateway.Proofs.Supervisor.Broker
import BeaconGateway.Proofs.Supervisor.Waits

/-!
# Timers in configuration mode

Entering configuration mode disarms the timers of the remote configuration and of the update checks.
Nothing keeps them disarmed: restarting the services arms both as the configuration says, and each
look for new firmware and each of the two signals that schedule one arms the second, configuration
mode or not. Nor does the mode hold back a fetch of the remote configuration or a look for new
firmware whose signal was already pending. Only the announcement of the network looks at the mode
before it asks for a fetch.

| in configuration mode  | timer of the remote configuration | timer of the update checks |
|------------------------|-----------------------------------|----------------------------|
| entered                | disarmed                          | disarmed                   |
| services restarted     | armed if fetched repeatedly       | armed unless manual        |
| looked, or scheduled   | as before                         | armed                      |
| any other signal       | as before                         | as before                  |

## Main results

* `Supervisor.ArmedSince` — one of some signals armed a timer, and none after it touched the timer;
* `Supervisor.WaitState.armed_iff` — which timers are armed in configuration mode;
* `Supervisor.waits_in_configMode` — the timers and the questions in configuration mode, in every
  run from the start;
* `Supervisor.waits_although_in_configMode` — a supervisor in configuration mode that waits for
  both.
-/

namespace BeaconGateway.Supervisor

/-! ### The timers in configuration mode -/

/-- What a signal makes of the timer of the remote configuration while configuration mode lasts,
under a configuration: it arms the timer, disarms it, or leaves it. -/
def armsRemote (c : Config) : SupervisorSignal → Option Bool
  | .restartServices => some (System.fetchesRemote c.remote)
  | _ => none

/-- What a signal makes of the timer of the update checks then. -/
def armsUpdates (c : Config) : SupervisorSignal → Option Bool
  | .checkForUpdates | .scheduleNextCheck | .scheduleRetry => some true
  | .restartServices => some (c.autoUpdate.cycle != .manual)
  | _ => none

/-- The configuration in force after signals were handled. -/
def configAfter (c : Config) (handled : List SupervisorSignal) : Config :=
  if .setDefaultConfig ∈ handled then .default else c

/-- **A timer was armed since**: by one of the signals `since`, under the configuration in force
then, and none of those after it touched the timer. -/
def ArmedSince (arms : Config → SupervisorSignal → Option Bool) (c : Config)
    (before since : List SupervisorSignal) : Prop :=
  ∃ earlier signal later, since = earlier ++ signal :: later ∧
    arms (configAfter c (before ++ earlier)) signal = some true ∧
    ∀ other ∈ later, ∀ c', arms c' other = none

section ArmedSince

variable {arms : Config → SupervisorSignal → Option Bool} {c : Config}
  {before since : List SupervisorSignal} {signal : SupervisorSignal}

theorem not_armedSince_nil : ¬ ArmedSince arms c before [] := by
  rintro ⟨earlier, signal, later, hnone, -⟩
  exact absurd hnone (by simp)

/-- One more signal that leaves the timer. -/
theorem armedSince_concat_of_none (hleaves : ∀ c', arms c' signal = none) :
    ArmedSince arms c before (since ++ [signal]) ↔ ArmedSince arms c before since := by
  constructor
  · rintro ⟨earlier, last, later, hsplit, harmed, hrest⟩
    obtain ⟨rfl, rfl, rfl⟩ | ⟨later, rfl, rfl⟩ := split_concat hsplit
    · simp [hleaves] at harmed
    · exact ⟨earlier, last, later, rfl, harmed,
        fun other hmem ↦ hrest other (List.mem_append_left _ hmem)⟩
  · rintro ⟨earlier, last, later, rfl, harmed, hrest⟩
    refine ⟨earlier, last, later ++ [signal], by simp, harmed, fun other hmem ↦ ?_⟩
    obtain hmem | rfl : other ∈ later ∨ other = signal := by simpa using hmem
    · exact hrest other hmem
    · exact hleaves

/-- One more signal that arms the timer or disarms it. -/
theorem armedSince_concat_of_some {armed : Bool}
    (hdecides : arms (configAfter c (before ++ since)) signal = some armed) :
    ArmedSince arms c before (since ++ [signal]) ↔ armed = true := by
  constructor
  · rintro ⟨earlier, last, later, hsplit, harmed', hrest⟩
    obtain ⟨rfl, rfl, rfl⟩ | ⟨later, rfl, -⟩ := split_concat hsplit
    · exact Option.some.inj (hdecides.symm.trans harmed')
    · simp [hrest signal (by simp)] at hdecides
  · rintro rfl
    exact ⟨since, signal, [], rfl, hdecides, fun other hmem ↦ absurd hmem List.not_mem_nil⟩

/-- One more signal, where it does not depend on the configuration whether it leaves the timer. -/
theorem armedSince_concat (huniform : ∀ c c', arms c signal = none → arms c' signal = none)
    {armed : Bool} (hnow : armed = true ↔ ArmedSince arms c before since) :
    (arms (configAfter c (before ++ since)) signal).getD armed = true ↔
      ArmedSince arms c before (since ++ [signal]) := by
  cases hdecides : arms (configAfter c (before ++ since)) signal with
  | none => exact hnow.trans (armedSince_concat_of_none fun c' ↦ huniform _ c' hdecides).symm
  | some armed' => exact (armedSince_concat_of_some hdecides).symm

end ArmedSince

theorem configAfter_concat (c : Config) (handled : List SupervisorSignal)
    (signal : SupervisorSignal) :
    configAfter c (handled ++ [signal]) =
      if signal = .setDefaultConfig then .default else configAfter c handled := by
  by_cases hlast : signal = .setDefaultConfig
  · simp [configAfter, hlast]
  · simp [configAfter, hlast, Ne.symm hlast]

namespace WaitState

variable {b : WaitState}

theorem config_step (b : WaitState) (signal : SupervisorSignal) :
    (b.step signal).config = if signal = .setDefaultConfig then .default else b.config := by
  cases signal with
  | activateConfigMode | deactivateConfigMode =>
    simp only [step, reduceCtorEq, if_false]
    split_ifs <;> rfl
  | _ => rfl

theorem config_run (b : WaitState) (handled : List SupervisorSignal) :
    (b.run handled).config = configAfter b.config handled := by
  induction handled using List.reverseRecOn with
  | nil => rfl
  | append_singleton handled signal ih => rw [run_concat, config_step, ih, configAfter_concat]

/-- What a signal makes of the timer of the remote configuration in configuration mode. -/
theorem remote_step (hactive : b.configMode = true) {signal : SupervisorSignal}
    (hstays : signal ≠ .deactivateConfigMode) :
    (b.step signal).remote = (armsRemote b.config signal).getD b.remote := by
  cases signal with
  | activateConfigMode => rw [step, if_pos hactive]; rfl
  | deactivateConfigMode => exact absurd rfl hstays
  | _ => rfl

/-- What a signal makes of the timer of the update checks in configuration mode. -/
theorem updates_step (hactive : b.configMode = true) {signal : SupervisorSignal}
    (hstays : signal ≠ .deactivateConfigMode) :
    (b.step signal).updates = (armsUpdates b.config signal).getD b.updates := by
  cases signal with
  | activateConfigMode => rw [step, if_pos hactive]; rfl
  | deactivateConfigMode => exact absurd rfl hstays
  | _ => rfl

theorem configMode_step (b : WaitState) (signal : SupervisorSignal) :
    (b.step signal).configMode = modeAfter b.configMode signal := by
  cases signal with
  | activateConfigMode =>
    rw [step]
    split_ifs with hon
    · exact hon
    · rfl
  | deactivateConfigMode =>
    rw [step]
    split_ifs with hon
    · rfl
    · exact Bool.eq_false_iff.2 hon
  | _ => rfl

theorem configMode_step_eq {handled : List SupervisorSignal} {signal : SupervisorSignal}
    (hmode : b.configMode = inConfigMode handled) :
    (b.step signal).configMode = inConfigMode (handled ++ [signal]) := by
  rw [configMode_step, inConfigMode_concat, hmode]

/-- **Which timers are armed in configuration mode**: those that were armed since it was last
entered. -/
theorem armed_iff (handled : List SupervisorSignal) (hoff : b.configMode = false)
    (hactive : (b.run handled).configMode = true) :
    ∃ before since, handled = before ++ .activateConfigMode :: since ∧
      inConfigMode before = false ∧ .deactivateConfigMode ∉ since ∧
      ((b.run handled).remote = true ↔ ArmedSince armsRemote b.config before since) ∧
      ((b.run handled).updates = true ↔ ArmedSince armsUpdates b.config before since) := by
  induction handled using List.reverseRecOn with
  | nil => exact absurd (hoff.symm.trans hactive) Bool.false_ne_true
  | append_singleton handled signal ih =>
    rw [run_concat] at hactive ⊢
    cases hbefore_active : (b.run handled).configMode with
    | false =>
      -- the mode was entered just now
      have hentered : signal = .activateConfigMode := by
        rw [configMode_step, hbefore_active] at hactive
        cases signal with
        | activateConfigMode => rfl
        | _ => cases hactive
      subst hentered
      refine ⟨handled, [], rfl,
        (mode_foldl_eq configMode_step hoff handled).symm.trans hbefore_active,
        List.not_mem_nil, ?_, ?_⟩
      · simp [step, hbefore_active, not_armedSince_nil]
      · simp [step, hbefore_active, not_armedSince_nil]
    | true =>
      -- the mode goes on
      have hstays : signal ≠ .deactivateConfigMode := by
        rintro rfl
        rw [configMode_step] at hactive
        cases hactive
      obtain ⟨before, since, rfl, hout, hgoesOn, hremote, hupdates⟩ := ih hbefore_active
      have hconfig : (b.run (before ++ .activateConfigMode :: since)).config =
          configAfter b.config (before ++ since) := by
        rw [config_run]
        simp [configAfter]
      refine ⟨before, since ++ [signal], by simp, hout, by simp [hgoesOn, hstays.symm], ?_, ?_⟩
      · rw [remote_step hbefore_active hstays, hconfig]
        exact armedSince_concat (by cases signal <;> simp [armsRemote]) hremote
      · rw [updates_step hbefore_active hstays, hconfig]
        exact armedSince_concat (by cases signal <;> simp [armsUpdates]) hupdates

end WaitState

/-! ### Runs from the start -/

/-- **What the supervisor waits for in configuration mode**, in every run from the start: over any
configuration and any signals, whatever happens around the supervisor in between, and whatever it is
answered. Each of the two timers is armed exactly if it was armed since the mode was last entered.
And a next signal fetches the remote configuration, or looks for new firmware, exactly if it is the
signal to do so and the configuration allows it, as it would outside configuration mode. -/
theorem waits_in_configMode {ω : Type} (contact : Contact ω) (c : Config) (s : System ω)
    (turns : List (System.Turn ω)) :
    let handled := turns.filterMap System.Turn.signal?
    let after := ({ s with supervisor := .new c }.start contact).follow contact turns
    after.supervisor.configMode = true →
      (∃ before since, handled = before ++ .activateConfigMode :: since ∧
        inConfigMode before = false ∧ .deactivateConfigMode ∉ since ∧
        (after.supervisor.timers.remote.isArmed = true ↔ ArmedSince armsRemote c before since) ∧
        (after.supervisor.timers.updates.isArmed = true ↔
          ArmedSince armsUpdates c before since)) ∧
      ∀ signal,
        ((∃ c', .requestRemoteConfig c' ∈ after.requests contact signal) ↔
          signal = .checkForRemoteConfig ∧ (configAfter c handled).remote.enabled = true) ∧
        (.checkForUpdates ∈ after.requests contact signal ↔
          signal = .checkForUpdates ∧ checkAllowed (configAfter c handled).autoUpdate
            after.net.isConnected (contact.unixTime after.outside) = .ok ()) := by
  intro handled after hactive
  let b := WaitState.rearm ⟨c, false, false, false⟩
  have hbits : after.waitState = b.run handled := by
    rw [System.waitState_follow, System.waitState_start]
  have hconfig : after.supervisor.config = configAfter c handled :=
    (congrArg WaitState.config hbits).trans (WaitState.config_run b handled)
  refine ⟨?_, fun signal ↦ ⟨?_, ?_⟩⟩
  · have hremote : after.supervisor.timers.remote.isArmed = (b.run handled).remote :=
      congrArg WaitState.remote hbits
    have hupdates : after.supervisor.timers.updates.isArmed = (b.run handled).updates :=
      congrArg WaitState.updates hbits
    rw [hremote, hupdates]
    exact WaitState.armed_iff handled rfl ((congrArg WaitState.configMode hbits).symm.trans hactive)
  · simp only [System.requestRemoteConfig_mem_requests, hconfig, exists_and_left, exists_eq,
      and_true]
  · rw [System.checkForUpdates_mem_requests, hconfig]

/-! ### A gateway in configuration mode -/

/-- The configuration of a new gateway, but with the remote configuration in use. -/
def remoteConfig : Config :=
  { Config.default with remote := { Config.default.remote with enabled := true } }

/-- An outside where all that is asked for is done, and the clock is set. -/
def willing : Contact Unit where
  ask _ _ := (true, ())
  unixTime _ := some 1700000000
  freeHeap _ := 160 * 1024

/-- A supervisor at rest while a link is up. -/
def online (c : Config) : System Unit where
  supervisor := .new c
  net := NetworkStatus.down.set NetworkStatus.ethernet
  relayMailbox := Mailbox.new.register
  mailbox := Mailbox.new.register
  outside := ()

/-- In configuration mode a pending check for the remote configuration is carried out, and no timer
is armed. -/
theorem waits_after_activation :
    let after := ((online remoteConfig).start willing).follow willing [.handle .activateConfigMode]
    after.supervisor.configMode = true ∧
      after.supervisor.timers.remote.isArmed = false ∧
      after.supervisor.timers.updates.isArmed = false ∧
      ∃ c, .requestRemoteConfig c ∈ after.requests willing .checkForRemoteConfig := by
  intro after
  have hactive : after.supervisor.configMode = true := rfl
  obtain ⟨-, hasks⟩ := waits_in_configMode willing remoteConfig (online remoteConfig)
    [.handle .activateConfigMode] hactive
  exact ⟨rfl, rfl, rfl, (hasks .checkForRemoteConfig).1.2 ⟨rfl, rfl⟩⟩

/-- **A supervisor in configuration mode** whose timers are both armed since the services were
restarted, and which fetches the remote configuration and looks for new firmware when the signals
for it are pending. -/
theorem waits_although_in_configMode :
    let after := ((online remoteConfig).start willing).follow willing
      (System.Turn.wake (.ofList [.activateConfigMode]) ++
        System.Turn.wake (.ofList [.restartServices]))
    after.supervisor.configMode = true ∧
      after.supervisor.timers.remote.isArmed = true ∧
      after.supervisor.timers.updates.isArmed = true ∧
      after.requests willing .checkForRemoteConfig = [.requestRemoteConfig remoteConfig] ∧
      after.requests willing .checkForUpdates = [.checkForUpdates] :=
  ⟨rfl, rfl, rfl, rfl, rfl⟩

end BeaconGateway.Supervisor
