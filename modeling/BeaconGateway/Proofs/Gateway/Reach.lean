import BeaconGateway.Proofs.Gateway.Run
import BeaconGateway.Proofs.Relay.Sending
import BeaconGateway.Proofs.Scanner.Sightings

/-!
# What a gateway can come to

Beside the events of a run, anything else may be done to a gateway: its tasks may handle any signals
and live out their lives, frames may come past the decoder, the settings of the intake may change,
and the network status may be anything. Whatever is done, the table keeps its shape, since reports
go in by puts and come out by drains alone.

A theorem about what happens next can so begin anywhere: it takes a gateway that was created and to
which operations were done, in any order, and need not say how its table came to be what it is. What
else it needs of the state, such as that nothing waits, it asks of the state and not of the way
there.

## Main results

* `Gateway.Operation`, `Gateway.performAll` — whatever can be done to a gateway;
* `Gateway.Sound`, `Gateway.sound_performAll` — the table of a gateway keeps its shape.
-/

namespace BeaconGateway

/-! ### The tasks and the receiver -/

namespace Relay.System

variable {ω : Type} {contact : Contact ω}

/-- Whatever signals the relay handles, the table keeps its shape. -/
theorem exists_holds_handleAll {s : System ω} {L : Layout gatewayCapacity}
    (hholds : s.table.Holds L) (signals : SignalSet RelaySignal) :
    ∃ L', (s.handleAll contact signals).table.Holds L' := by
  rw [table_handleAll]
  split_ifs
  · exact ⟨_, (hholds.drain gatewayCapacity).2⟩
  · exact ⟨L, hholds⟩

/-- A wake-up of the relay keeps the shape of the table. -/
theorem exists_holds_wake {s : System ω} {L : Layout gatewayCapacity} (hholds : s.table.Holds L) :
    ∃ L', (s.wake contact).2.table.Holds L' :=
  exists_holds_handleAll (s := { s with mailbox := s.mailbox.takeAll.2 }) hholds s.mailbox.takeAll.1

/-- So does the relay's task, from its beginning to its end. -/
theorem exists_holds_run {s : System ω} {L : Layout gatewayCapacity} (hholds : s.table.Holds L) :
    ∃ L', (s.run contact).table.Holds L' := by
  have hstarted : (s.start contact).table = s.table := rfl
  have hfinished (s : System ω) : (s.finish contact).table = s.table := rfl
  have hwoken : ∃ L', ((s.start contact).wake contact).2.table.Holds L' :=
    exists_holds_wake (hstarted ▸ hholds)
  rw [run, hfinished]
  split_ifs
  · exact ⟨L, hstarted ▸ hholds⟩
  · exact hwoken

end Relay.System

namespace Gateway

variable {ω : Type} {w : Wiring ω} {g : Gateway ω}

/-! ### Operations -/

/-- Whatever can be done to a gateway. -/
inductive Operation (ω : Type) where
  /-- An event of a run. -/
  | event (event : Event ω)
  /-- The relay handles signals, whichever they are. -/
  | relayHandle (signals : SignalSet RelaySignal)
  /-- The relay is asked to end, and lives out its life. -/
  | relayRun
  /-- The supervisor takes what is pending and handles it. -/
  | supervisorWake
  /-- The supervisor is asked to end, and lives out its life. -/
  | supervisorRun
  /-- The services connect to the broker. -/
  | startMqtt
  /-- The relay is sent any signal. -/
  | tellRelay (signal : RelaySignal)
  /-- The supervisor is sent any signal. -/
  | tellSupervisor (signal : SupervisorSignal)
  /-- A frame comes past the decoder, or the lack of one. -/
  | frame (body : Option (List UInt8))
  /-- The intake takes over new settings. -/
  | reconfigure (company : UInt16) (useTimestamps : Bool)
  /-- The decoder drops the frame in progress. -/
  | dropFrame
  /-- Bits of the network status are raised and then others lowered. -/
  | network (raised lowered : UInt32)

/-- The gateway after an operation. -/
def perform (w : Wiring ω) (g : Gateway ω) : Operation ω → Gateway ω
  | .event event => g.step w event
  | .relayHandle signals => (g.relayHandle w signals).2
  | .relayRun => (g.relayRun w).2
  | .supervisorWake => (g.supervisorWake w).2
  | .supervisorRun => (g.supervisorRun w).2
  | .startMqtt => (g.startMqtt w).2
  | .tellRelay signal => (g.tellRelay signal).2
  | .tellSupervisor signal => (g.tellSupervisor signal).2
  | .frame body =>
    { g with receiver.intake := (g.receiver.intake.onFrame (w.unixTime g.around.outside) body).2 }
  | .reconfigure company useTimestamps =>
    { g with receiver.intake := g.receiver.intake.reconfigure company useTimestamps }
  | .dropFrame => { g with receiver.decoder := g.receiver.decoder.reset }
  | .network raised lowered => { g with net := (g.net.set raised).clear lowered }

/-- The gateway after operations in order. -/
def performAll (w : Wiring ω) (g : Gateway ω) (operations : List (Operation ω)) : Gateway ω :=
  operations.foldl (perform w) g

/-! ### The table -/

/-- The table of the gateway has the shape of a table. -/
def Sound (g : Gateway ω) : Prop :=
  ∃ L, g.receiver.intake.table.Holds L

/-- The table of a new gateway is new. -/
theorem sound_create {c : Config} {address : Address} {gatewayFirmware scannerFirmware : ShortText}
    {outside : ω}
    (hcreated : create w c address gatewayFirmware scannerFirmware outside = .ok g) : g.Sound := by
  obtain ⟨relay, -, rfl⟩ := exists_eq_of_create hcreated
  exact ⟨_, ReportTable.holds_new⟩

/-- The supervisor leaves the table alone. -/
theorem receiver_withSupervisor {α : Type}
    (act : Supervisor.System (Surroundings ω) → α × Supervisor.System (Surroundings ω)) :
    (g.withSupervisor act).2.receiver = g.receiver := by
  rw [withSupervisor]
  cases g.supervisor with
  | none => rfl
  | some supervisor => rfl

/-- Whatever the supervisor does, the table keeps its shape. -/
theorem sound_withSupervisor {α : Type} (hsound : g.Sound)
    (act : Supervisor.System (Surroundings ω) → α × Supervisor.System (Surroundings ω)) :
    (g.withSupervisor act).2.Sound := by
  rwa [Sound, receiver_withSupervisor]

/-- What keeps the shape for the relay alone keeps it for the gateway. -/
theorem sound_withRelay {α : Type}
    {act : Relay.System (Surroundings ω) → α × Relay.System (Surroundings ω)}
    (hkeeps : ∀ s L, s.table.Holds L → ∃ L', (act s).2.table.Holds L') (hsound : g.Sound) :
    (g.withRelay act).2.Sound := by
  obtain ⟨L, hholds⟩ := hsound
  rw [withRelay]
  cases g.relay with
  | none => exact ⟨L, hholds⟩
  | some relay => exact hkeeps (g.relaySystem relay) L hholds

/-- **Each event** keeps the shape of the table. -/
theorem sound_step (hsound : g.Sound) (event : Event ω) : (g.step w event).Sound := by
  cases event with
  | start | supervise => exact sound_withSupervisor hsound _
  | relay =>
    have hkeeps (s : Relay.System (Surroundings ω)) (L : Layout gatewayCapacity)
        (hholds : s.table.Holds L) : ∃ L', (s.wake w.relayContact).2.table.Holds L' :=
      Relay.System.exists_holds_wake hholds
    exact sound_withRelay hkeeps hsound
  | tell | link | broker | outside => exact hsound
  | put report =>
    obtain ⟨L, hholds⟩ := hsound
    obtain ⟨L', -, hholds'⟩ := hholds.put report
    exact ⟨L', hholds'⟩
  | receive bytes =>
    obtain ⟨L, hholds⟩ := hsound
    exact Receiver.exists_holds_feed hholds _ bytes
  | query request =>
    rw [step, query]
    dsimp only
    split_ifs
    · exact hsound
    · exact hsound

/-- **Whatever is done to a gateway**, its table keeps its shape. -/
theorem sound_perform (hsound : g.Sound) (operation : Operation ω) :
    (g.perform w operation).Sound := by
  cases operation with
  | event event => exact sound_step hsound event
  | relayHandle signals =>
    exact sound_withRelay
      (fun _ _ hholds ↦ Relay.System.exists_holds_handleAll hholds signals) hsound
  | relayRun =>
    have hran : ((g.tellRelay .stop).2.withRelay fun s ↦ ((), s.run w.relayContact)).2.Sound :=
      sound_withRelay (fun _ _ hholds ↦ Relay.System.exists_holds_run hholds) hsound
    rw [perform, relayRun]
    generalize (g.tellRelay .stop).2.withRelay (fun s ↦ ((), s.run w.relayContact)) = result
      at hran ⊢
    obtain ⟨_ | _, g'⟩ := result
    · exact hran
    · exact hran
  | supervisorWake | startMqtt => exact sound_withSupervisor hsound _
  | supervisorRun =>
    have htold : (g.tellSupervisor .stop).2.Sound := hsound
    have hran := sound_withSupervisor htold fun s ↦ ((), s.run w.supervisorContact)
    rw [perform, supervisorRun]
    generalize (g.tellSupervisor .stop).2.withSupervisor
      (fun s ↦ ((), s.run w.supervisorContact)) = result at hran ⊢
    obtain ⟨_ | _, g'⟩ := result
    · exact hran
    · exact hran
  | tellRelay | tellSupervisor | reconfigure | dropFrame | network => exact hsound
  | frame body =>
    obtain ⟨L, hholds⟩ := hsound
    exact Intake.exists_holds_onFrame hholds _ body

/-- **Whatever is done to a gateway**, one operation after another, its table keeps its shape. -/
theorem sound_performAll (hsound : g.Sound) (operations : List (Operation ω)) :
    (g.performAll w operations).Sound := by
  induction operations generalizing g with
  | nil => exact hsound
  | cons operation rest ih => exact ih (sound_perform hsound operation)

end Gateway

end BeaconGateway
