import BeaconGateway.Proofs.Gateway.Run
import BeaconGateway.Proofs.Supervisor.Handling
import BeaconGateway.Rehearsal

/-!
# Configuration mode and relaying

The supervisor and the relay share one bit of the network status, which says that relaying is
suspended, and the relay's mailbox, in which commands coalesce. The bit follows configuration mode
at once; the commands take effect when the relay wakes up, and the one to go on comes last even
where it was sent first. The two together give what neither gives alone:

| configuration mode | the bit   | the relay's own flag         | the relay                    |
|--------------------|-----------|------------------------------|------------------------------|
| on                 | up        | may say anything             | rests, because of the bit    |
| off                | down      | says so once nothing pends   | relays                       |

## Main results

* `Gateway.Settled` — the invariant, kept by everything that can happen (`Gateway.settled_step`);
* `Gateway.relaying_follows_configMode` — what follows for every run of a new gateway.
-/

namespace BeaconGateway.Gateway

variable {ω : Type} {w : Wiring ω} {g : Gateway ω}

/-- **Both tasks are there, and the mode, the suspension and the pending commands fit together.** -/
def Settled (g : Gateway ω) : Prop :=
  ∃ relay supervisor, g.relay = some relay ∧ g.supervisor = some supervisor ∧
    (g.supervisorSystem supervisor).Settled relay.enabled

theorem settled_create {c : Config} {address : Address}
    {gatewayFirmware scannerFirmware : ShortText} {outside : ω}
    (hcreated : create w c address gatewayFirmware scannerFirmware outside = .ok g) :
    g.Settled := by
  obtain ⟨relay, henabled, hrelay, hsupervisor, hdown, hregistered⟩ :=
    exists_relay_of_create hcreated
  have hunsuspended : g.net.isSuspended = false := by
    rw [hdown]
    decide
  have hnothing : g.relayMailbox.pending = .empty := congrArg Mailbox.pending hregistered
  refine ⟨relay, _, hrelay, hsupervisor, hunsuspended.symm,
    congrArg Mailbox.registered hregistered, fun _ ↦ ?_⟩
  exact (congrArg (SignalSet.enabledAfter · relay.enabled) hnothing).trans
    ((SignalSet.enabledAfter_empty relay.enabled).trans henabled)

/-! ### The tasks -/

/-- The supervisor does something that keeps the mode, the suspension and the pending commands
fitting together. -/
theorem settled_withSupervisor {α : Type}
    {act : Supervisor.System (Surroundings ω) → α × Supervisor.System (Surroundings ω)}
    (hkeeps : ∀ enabled s, Supervisor.System.Settled enabled s → (act s).2.Settled enabled)
    (hsettled : g.Settled) : (g.withSupervisor act).2.Settled := by
  obtain ⟨relay, supervisor, hrelay, hsupervisor, hfits⟩ := hsettled
  rw [withSupervisor, hsupervisor]
  exact ⟨relay, _, hrelay, rfl, hkeeps relay.enabled _ hfits⟩

/-- The relay carries out what was pending, and nothing pends any more. -/
theorem settled_relayWake (hsettled : g.Settled) : (g.relayWake w).2.Settled := by
  obtain ⟨relay, supervisor, hrelay, hsupervisor, hmode, hregistered, hresumes⟩ := hsettled
  let s := ((g.relaySystem relay).wake w.relayContact).2
  have hwoken : (g.relayWake w).2 = g.fromRelay s := by rw [relayWake, withRelay, hrelay]
  obtain ⟨hemptied, hcarriedOut⟩ : s.mailbox = { g.relayMailbox with pending := .empty } ∧
      s.relay.enabled = g.relayMailbox.pending.enabledAfter relay.enabled :=
    Relay.System.wake_carries_out _
  rw [hwoken]
  refine ⟨s.relay, supervisor, rfl, hsupervisor, hmode, ?_, fun hinactive ↦ ?_⟩
  · exact (congrArg Mailbox.registered hemptied).trans hregistered
  · have hnothing : s.mailbox.pending = .empty := congrArg Mailbox.pending hemptied
    calc s.mailbox.pending.enabledAfter s.relay.enabled
      _ = s.relay.enabled := by rw [hnothing, SignalSet.enabledAfter_empty]
      _ = true := hcarriedOut.trans (hresumes hinactive)

theorem settled_tellRelay {signal : RelaySignal} (hfree : signal.command = none)
    (hsettled : g.Settled) : (g.tellRelay signal).2.Settled := by
  obtain ⟨relay, supervisor, hrelay, hsupervisor, hmode, hregistered, hresumes⟩ := hsettled
  have htaken : (g.relayMailbox.send signal).2.pending = g.relayMailbox.pending.insert signal :=
    Mailbox.pending_send hregistered signal
  refine ⟨relay, supervisor, hrelay, hsupervisor, hmode,
    (Mailbox.registered_send _ _).trans hregistered, fun hinactive ↦ ?_⟩
  calc (g.relayMailbox.send signal).2.pending.enabledAfter relay.enabled
    _ = g.relayMailbox.pending.enabledAfter relay.enabled := by
      rw [htaken, SignalSet.enabledAfter_insert] <;> rintro rfl <;> cases hfree
    _ = true := hresumes hinactive

/-! ### Everything that can happen -/

/-- **Whatever happens**, the mode, the suspension and the pending commands still fit together. -/
theorem settled_step (hsettled : g.Settled) (event : Event ω) : (g.step w event).Settled := by
  cases event with
  | start =>
    exact settled_withSupervisor (fun _ s ↦ (Supervisor.System.start_keeps s).settled) hsettled
  | supervise signals =>
    exact settled_withSupervisor
      (fun _ _ hfits ↦ Supervisor.System.settled_handleAll hfits signals) hsettled
  | relay => exact settled_relayWake hsettled
  | tell signal hfree => exact settled_tellRelay hfree hsettled
  -- links and the broker share the word of the network status with the suspension, and spare its
  -- bit
  | link event =>
    obtain ⟨relay, supervisor, hrelay, hsupervisor, hmode, hregistered, hresumes⟩ := hsettled
    exact ⟨relay, supervisor, hrelay, hsupervisor,
      hmode.trans (NetworkStatus.isSuspended_onLink g.net event).symm, hregistered, hresumes⟩
  | broker connected =>
    obtain ⟨relay, supervisor, hrelay, hsupervisor, hmode, hregistered, hresumes⟩ := hsettled
    exact ⟨relay, supervisor, hrelay, hsupervisor,
      hmode.trans (NetworkStatus.isSuspended_onBroker g.net connected).symm, hregistered, hresumes⟩
  | query request =>
    obtain ⟨relay, supervisor, hrelay, hsupervisor, hmode, hregistered, hresumes⟩ := hsettled
    rw [step, query]
    dsimp only
    split_ifs
    · exact ⟨relay, supervisor, hrelay, hsupervisor, hmode, hregistered, hresumes⟩
    · exact ⟨relay, supervisor, hrelay, hsupervisor, hmode, hregistered, hresumes⟩
  | put | receive | outside =>
    obtain ⟨relay, supervisor, hrelay, hsupervisor, hmode, hregistered, hresumes⟩ := hsettled
    exact ⟨relay, supervisor, hrelay, hsupervisor, hmode, hregistered, hresumes⟩

theorem settled_run (hsettled : g.Settled) (events : List (Event ω)) :
    (g.run w events).Settled := by
  induction events generalizing g with
  | nil => exact hsettled
  | cons event rest ih => exact ih (settled_step hsettled event)

/-- **Relaying follows configuration mode** in every run of a new gateway. The supervisor is in
configuration mode exactly while relaying is suspended. Then, whatever signals the relay handles,
the table stays as it is, no batch is sent, and the gateway does not restart. Otherwise a relay for
which nothing pends is enabled, however the commands to it have coalesced. -/
theorem relaying_follows_configMode {c : Config} {address : Address}
    {gatewayFirmware scannerFirmware : ShortText} {outside : ω}
    (hcreated : create w c address gatewayFirmware scannerFirmware outside = .ok g)
    (events : List (Event ω)) :
    let after := g.run w events
    ∃ relay supervisor, after.relay = some relay ∧ after.supervisor = some supervisor ∧
      supervisor.configMode = after.net.isSuspended ∧
      (supervisor.configMode = true → ∀ signals,
        ((after.relaySystem relay).handleAll w.relayContact signals).table =
            after.receiver.intake.table ∧
          ∀ call ∈ (after.relaySystem relay).calls w.relayContact signals,
            call.needsRelaying = false) ∧
      (supervisor.configMode = false → after.relayMailbox.pending.isEmpty = true →
        relay.enabled = true) := by
  intro after
  obtain ⟨relay, supervisor, hrelay, hsupervisor, hfits⟩ : after.Settled :=
    settled_run (settled_create hcreated) events
  refine ⟨relay, supervisor, hrelay, hsupervisor, hfits.mode, ?_, ?_⟩
  · intro hactive signals
    have hsuspended : (after.relaySystem relay).net.isSuspended = true :=
      hfits.mode.symm.trans hactive
    exact ⟨(Relay.System.rests_handleAll hsuspended signals).table,
      Relay.System.calls_suspended hsuspended signals⟩
  · intro hinactive hnothing
    have hresumes : after.relayMailbox.pending.enabledAfter relay.enabled = true :=
      hfits.resumes hinactive
    rwa [SignalSet.isEmpty_iff.1 hnothing, SignalSet.enabledAfter_empty] at hresumes

/-- Configuration mode is entered, left and entered again before the relay wakes up once. The relay
then holds itself to be enabled, and rests all the same, although a report is pending. -/
theorem relaying_follows_configMode_reentered :
    ∃ g, create Rehearsal.wiring .default .zero .empty .empty (.fair 0 none) = .ok g ∧
      let after := g.run Rehearsal.wiring [.put ⟨.simulated, 1, 0, 0, .empty⟩, .link (.up .wifi),
        .supervise (.ofList [.activateConfigMode]), .supervise (.ofList [.deactivateConfigMode]),
        .supervise (.ofList [.activateConfigMode]), .relay]
      ∃ relay, after.relay = some relay ∧ relay.enabled = true ∧
        after.receiver.intake.table.pending = 1 ∧
        ∀ signals, ((after.relaySystem relay).handleAll Rehearsal.wiring.relayContact
            signals).table = after.receiver.intake.table ∧
          ∀ call ∈ (after.relaySystem relay).calls Rehearsal.wiring.relayContact signals,
            call.needsRelaying = false := by
  refine ⟨_, rfl, ?_⟩
  intro after
  have hflag : after.relay.map (·.enabled) = some true := rfl
  have hmode : after.supervisor.map (·.configMode) = some true := rfl
  obtain ⟨relay, supervisor, hrelay, hsupervisor, -, hrests, -⟩ :=
    relaying_follows_configMode
      (show create Rehearsal.wiring .default .zero .empty .empty (.fair 0 none) = .ok _ from rfl) _
  rw [hrelay] at hflag
  rw [hsupervisor] at hmode
  exact ⟨relay, hrelay, Option.some.inj hflag, rfl, hrests (Option.some.inj hmode)⟩

end BeaconGateway.Gateway
