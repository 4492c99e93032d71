import BeaconGateway.Proofs.Gateway.Suspension
import BeaconGateway.Proofs.Supervisor.Broker

/-!
# The broker connection of the gateway

The supervisor makes and drops the connection to the broker through the gateway's surroundings,
where the slot holds the client while there is one. Where no connection fails, the slot is filled
as the supervisor's signals say, and stays empty after configuration mode was left.

What the supervisor knows of the connection are three bits, and signals act on them wherever the
supervisor stands. Here the outside is the gateway's own, so the bit that says whether there is a
connection is the slot: it is filled by the call that connects and emptied by the one that
disconnects, and no other call of the supervisor touches it (`connects_supervisorContact`). That
configuration mode and the suspension of relaying go together comes from the gateway, for all runs.

## Main results

* `Gateway.slot_filled_iff` — when the slot is filled, in every run from the start;
* `Gateway.slot_empty_after_configMode` — a gateway that uses the broker and has left configuration
  mode has no client.
-/

namespace BeaconGateway.Gateway

variable {ω : Type} {w : Wiring ω} {g : Gateway ω}

/-- Where no connection fails, the slot is filled and emptied as the supervisor asks. -/
theorem connects_supervisorContact (hreachable : ∀ c o, (w.connect c o).1 = .ok ()) :
    w.supervisorContact.Connects (·.slot.filled) where
  stops _ := rfl
  starts c s hused := by
    rcases hanswer : w.connect c.mqtt s.outside with ⟨outcome, outside⟩
    have hmade : outcome = .ok () := by simpa [hanswer] using hreachable c.mqtt s.outside
    subst hmade
    show (Surroundings.startMqtt w c s).2.slot.filled = true
    rw [Surroundings.startMqtt, if_pos hused]
    simp [Surroundings.note, hanswer, Mqtt.Slot.fill]
  others r s hapart := by
    cases r with
    | startMqtt | stopMqtt => cases hapart
    | sendScanSettings c =>
      show (Surroundings.transmit w _ (s.note (.called .sendScanSettings))).2.slot.filled = _
      rw [Surroundings.transmit]
      split <;> rfl
    | _ => rfl

/-- The supervisor handles signals: they act on the three bits. -/
theorem brokerState_supervisorHandle (hreachable : ∀ c o, (w.connect c o).1 = .ok ())
    {supervisor : Supervisor} (hsupervisor : g.supervisor = some supervisor)
    (hsettled : g.Settled) (signals : SignalSet SupervisorSignal) :
    ∃ supervisor', (g.supervisorHandle w signals).2.supervisor = some supervisor' ∧
      ((g.supervisorHandle w signals).2.supervisorSystem supervisor').brokerState
          (·.slot.filled) =
        ((g.supervisorSystem supervisor).brokerState (·.slot.filled)).run signals.toList := by
  obtain ⟨relay, held, -, hheld, hfits⟩ := hsettled
  obtain rfl : held = supervisor := Option.some.inj (hheld.symm.trans hsupervisor)
  rw [supervisorHandle, withSupervisor, hsupervisor]
  exact ⟨_, rfl, Supervisor.System.brokerState_handleAll
    (connects_supervisorContact hreachable) hfits signals⟩

theorem brokerState_run (hreachable : ∀ c o, (w.connect c o).1 = .ok ())
    {supervisor : Supervisor} (hsupervisor : g.supervisor = some supervisor)
    (hsettled : g.Settled) (sets : List (SignalSet SupervisorSignal)) :
    ∃ supervisor', (g.run w (sets.map .supervise)).supervisor = some supervisor' ∧
      ((g.run w (sets.map .supervise)).supervisorSystem supervisor').brokerState
          (·.slot.filled) =
        ((g.supervisorSystem supervisor).brokerState (·.slot.filled)).run
          (sets.flatMap SignalSet.toList) := by
  induction sets generalizing g supervisor with
  | nil => exact ⟨supervisor, hsupervisor, rfl⟩
  | cons signals rest ih =>
    obtain ⟨next, hnext, hfirst⟩ :=
      brokerState_supervisorHandle hreachable hsupervisor hsettled signals
    obtain ⟨last, hlast, hlater⟩ := ih hnext (settled_step (w := w) hsettled (.supervise signals))
    refine ⟨last, hlast, hlater.trans ?_⟩
    rw [hfirst, List.flatMap_cons, Supervisor.BrokerState.run_append]

/-- A supervisor that begins with a configuration that uses the broker is connected. -/
theorem brokerState_supervisorStart (hreachable : ∀ c o, (w.connect c o).1 = .ok ()) {c : Config}
    (hused : c.mqtt.enabled = true) (hsupervisor : g.supervisor = some (.new c)) :
    ∃ supervisor, (g.supervisorStart w).2.supervisor = some supervisor ∧
      ((g.supervisorStart w).2.supervisorSystem supervisor).brokerState (·.slot.filled) =
        ⟨false, true, true⟩ := by
  have hbegun : ((g.supervisorSystem (.new c)).start w.supervisorContact).brokerState
      (·.slot.filled) = ⟨false, c.mqtt.enabled, true⟩ :=
    Supervisor.System.brokerState_start (connects_supervisorContact hreachable) hused
  rw [hused] at hbegun
  rw [supervisorStart, withSupervisor, hsupervisor]
  exact ⟨_, rfl, hbegun⟩

/-- **When the slot is filled**: in every run of a supervisor that begins with a configuration that
uses the broker, over any sets of signals and where no connection fails, as long as the
configuration uses the broker and relaying is not suspended, the slot holds a client exactly if
configuration mode was not left since the services were last restarted or the relaying mode last
changed. -/
theorem slot_filled_iff (hreachable : ∀ c o, (w.connect c o).1 = .ok ()) {c : Config}
    (hused : c.mqtt.enabled = true) {address : Address}
    {gatewayFirmware scannerFirmware : ShortText} {outside : ω}
    (hcreated : create w c address gatewayFirmware scannerFirmware outside = .ok g)
    (sets : List (SignalSet SupervisorSignal)) :
    let after := g.run w (.start :: sets.map .supervise)
    ∃ supervisor, after.supervisor = some supervisor ∧
      (supervisor.config.mqtt.enabled = true → after.net.isSuspended = false →
        (after.around.slot.filled = true ↔
          ¬ Supervisor.LeftSince (sets.flatMap SignalSet.toList))) := by
  intro after
  obtain ⟨-, -, -, hnew, -, -⟩ := exists_relay_of_create hcreated
  have hsettled : (g.step w .start).Settled := settled_step (settled_create hcreated) .start
  obtain ⟨first, hfirst, hbegun⟩ := brokerState_supervisorStart hreachable hused hnew
  obtain ⟨supervisor, hlast, hbits⟩ := brokerState_run hreachable hfirst hsettled sets
  rw [hbegun] at hbits
  obtain ⟨_, held, _, hheld, hfits⟩ : after.Settled := settled_run hsettled (sets.map .supervise)
  obtain rfl : held = supervisor := Option.some.inj (hheld.symm.trans hlast)
  refine ⟨held, hheld, fun hused' hresumed ↦ ?_⟩
  have hfilled : after.around.slot.filled =
      (Supervisor.BrokerState.run ⟨false, true, true⟩ (sets.flatMap SignalSet.toList)).connected :=
    congrArg (·.connected) hbits
  rw [hfilled]
  apply Supervisor.BrokerState.connected_iff _ rfl rfl
  · exact (congrArg (·.configMode) hbits).symm.trans (hfits.mode.trans hresumed)
  · exact (congrArg (·.used) hbits).symm.trans hused'

/-- The configuration of a new gateway, but with the broker in use. -/
def brokerConfig : Config :=
  { Config.default with mqtt := { Config.default.mqtt with enabled := true } }

/-- A rehearsal where no connection to the broker fails. -/
def steadyWiring : Wiring Rehearsal :=
  { Rehearsal.wiring with connect := fun _ r ↦ (.ok (), r) }

/-- Restarting the services after configuration mode was left fills the slot again. -/
theorem slot_filled_after_restart :
    ∃ g, create steadyWiring brokerConfig .zero .empty .empty (.fair 0 none) = .ok g ∧
      let after := g.run steadyWiring (.start :: List.map .supervise
        [.ofList [.activateConfigMode], .ofList [.deactivateConfigMode, .restartServices]])
      after.around.slot.filled = true := by
  refine ⟨_, rfl, ?_⟩
  intro after
  have huses : after.supervisor.map (·.config.mqtt.enabled) = some true := rfl
  obtain ⟨supervisor, hsupervisor, hfilled⟩ :=
    slot_filled_iff (fun _ _ ↦ rfl) (c := brokerConfig) rfl
      (show create steadyWiring brokerConfig .zero .empty .empty (.fair 0 none) = .ok _ from rfl)
      [.ofList [.activateConfigMode], .ofList [.deactivateConfigMode, .restartServices]]
  rw [hsupervisor] at huses
  have hrestarted : ¬ Supervisor.LeftSince
      ([.activateConfigMode, .deactivateConfigMode] ++ [.restartServices]) := by
    rw [Supervisor.leftSince_concat]
    simp
  exact (hfilled (Option.some.inj huses) rfl).2 hrestarted

/-- **A gateway that has left configuration mode has no client**, although it uses the broker and
relaying is not suspended. -/
theorem slot_empty_after_configMode :
    ∃ g, create steadyWiring brokerConfig .zero .empty .empty (.fair 0 none) = .ok g ∧
      let after := g.run steadyWiring [.start, .supervise (.ofList [.activateConfigMode]),
        .supervise (.ofList [.deactivateConfigMode])]
      after.supervisor.map (·.config.mqtt.enabled) = some true ∧
        after.net.isSuspended = false ∧ after.around.slot.filled = false :=
  ⟨_, rfl, rfl, rfl, rfl⟩

end BeaconGateway.Gateway
