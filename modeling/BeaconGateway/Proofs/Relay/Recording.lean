import BeaconGateway.Proofs.Outside
import BeaconGateway.Relay.System

/-!
# Watching the relay

An outside that lies over another (`Ask.LiesOver`) and shows the same clock is the same to the
relay: each of its steps does with the one what it does with the other. An outside with a record is
such an outside, so the record of what the relay asks is that of its own run.

There is one lemma for each step of the relay, and each follows the definition of its step:
questions are answered the same, choices are made by what is no part of the outside, and the rest is
the same by computation. Nothing is said of what the outside does beyond that.

## Main results

* `Contact.LiesOver` — an outside that carries more, and answers the same;
* `Relay.System.map_handleAll` — the relay does the same over both;
* `Relay.System.calls` — what the relay asks while it handles signals;
* `Relay.System.recording_handleAll` — the run from which the record is taken is the relay's own.
-/

namespace BeaconGateway.Relay

variable {ω ω' : Type} {f : ω' → ω} {contact : Contact ω} {contact' : Contact ω'}

/-- An outside that carries more than another and answers the same. -/
structure Contact.LiesOver (contact' : Contact ω') (contact : Contact ω) (f : ω' → ω) : Prop where
  /-- The answers are the same, and so is what they leave behind. -/
  ask : contact'.ask.LiesOver contact.ask f
  /-- The clocks agree. -/
  uptime : ∀ o, contact'.uptime o = contact.uptime (f o)

/-- An outside with a record lies over the one without. -/
theorem Contact.recorded_liesOver (contact : Contact ω) :
    contact.recorded.LiesOver contact Prod.fst :=
  ⟨contact.ask.recorded_liesOver, fun _ ↦ rfl⟩

namespace System

/-- The relay stands over an outside. -/
instance : Task System where
  outside := System.outside
  onto s outside := { s with outside }
  outside_onto _ _ := rfl
  onto_onto _ _ _ := rfl

/-- The same relay, seen over a plainer outside. -/
abbrev map (f : ω' → ω) (s : System ω') : System ω :=
  Task.map f s

/-- A question is answered the same over both outsides, and leaves the same behind. -/
theorem map_ask (hlies : contact'.LiesOver contact f) (call : Call) (s : System ω') :
    ((s.ask contact' call).1, (s.ask contact' call).2.map f) = (s.map f).ask contact call :=
  Task.map_asks hlies.ask call s

/-- What the question leaves behind, without its answer. -/
theorem map_ask_snd (hlies : contact'.LiesOver contact f) (call : Call) (s : System ω') :
    (s.ask contact' call).2.map f = ((s.map f).ask contact call).2 :=
  congrArg Prod.snd (map_ask hlies call s)

/-- The two clocks agree, so the same time is noted. -/
theorem map_noteDelivery (hlies : contact'.LiesOver contact f) (s : System ω') :
    (s.noteDelivery contact').map f = (s.map f).noteDelivery contact := by
  rw [noteDelivery, noteDelivery, hlies.uptime]
  rfl

/-- A delivery succeeds over both or over neither, and is noted over both or over neither. -/
theorem map_deliver (hlies : contact'.LiesOver contact f) (call : Call) (s : System ω') :
    (s.deliver contact' call).map f = (s.map f).deliver contact call := by
  have hsame := map_ask hlies call s
  rcases hanswer : s.ask contact' call with ⟨done, s'⟩
  rw [hanswer] at hsame
  rw [deliver, deliver, hanswer, ← hsame]
  cases done with
  | true => exact map_noteDelivery hlies s'
  | false => rfl

/-- The number is the relay's own, hence the same over both. -/
theorem map_deliverNumbered (hlies : contact'.LiesOver contact f) (call : UInt32 → Call)
    (s : System ω') :
    (s.deliverNumbered contact' call).map f = (s.map f).deliverNumbered contact call :=
  map_deliver hlies (call (s.relay.nonce + 1)) { s with relay.nonce := s.relay.nonce + 1 }

/-- A look at the network asks nothing but whether to tell the backend. -/
theorem map_updateConnection (hlies : contact'.LiesOver contact f) (s : System ω') :
    (s.updateConnection contact').map f = (s.map f).updateConnection contact := by
  have hannounced : (({ s with relay.connected := true } : System ω').deliverNumbered contact'
      .online).map f = { s.map f with relay.connected := true }.deliverNumbered contact .online :=
    map_deliverNumbered hlies .online _
  rw [updateConnection, updateConnection]
  exact Task.map_ite (Task.map_ite rfl rfl)
    (Task.map_ite rfl (Task.map_ite hannounced (Task.map_ite rfl rfl)))

theorem map_postBatch (hlies : contact'.LiesOver contact f) (batch : List Report)
    (s : System ω') : (s.postBatch contact' batch).map f = (s.map f).postBatch contact batch := by
  rw [postBatch, postBatch]
  exact Task.map_ite (map_deliverNumbered hlies (.batch batch) s) rfl

theorem map_publishBatch (hlies : contact'.LiesOver contact f) (batch : List Report)
    (s : System ω') :
    (s.publishBatch contact' batch).map f = (s.map f).publishBatch contact batch := by
  rw [publishBatch, publishBatch]
  exact Task.map_ite (map_deliver hlies (.publish batch) s) rfl

/-- The table is no part of the outside: the same batch is taken off it. -/
theorem map_relayPending (hlies : contact'.LiesOver contact f) (s : System ω') :
    (s.relayPending contact').map f = (s.map f).relayPending contact := by
  have hsame : (s.map f).table = s.table := rfl
  rw [relayPending, relayPending, hsame]
  rcases s.table.drain gatewayCapacity with ⟨⟨count, batch⟩, table⟩
  have hsent := map_publishBatch hlies batch ({ s with table }.postBatch contact' batch)
  rw [map_postBatch hlies] at hsent
  exact Task.map_ite rfl hsent

theorem map_onRetransmit (hlies : contact'.LiesOver contact f) (s : System ω') :
    (s.onRetransmit contact').map f = (s.map f).onRetransmit contact := by
  rw [onRetransmit, onRetransmit, ← map_updateConnection hlies]
  exact Task.map_ite (map_relayPending hlies _) rfl

/-- That history was served is read off the shared state. -/
theorem map_noteHistoryServed (hlies : contact'.LiesOver contact f) (s : System ω') :
    (s.noteHistoryServed contact').map f = (s.map f).noteHistoryServed contact := by
  rw [noteHistoryServed, noteHistoryServed]
  exact Task.map_ite (map_noteDelivery hlies { s with historyServed := false }) rfl

/-- The watchdog compares the clock with what the relay noted, and both agree. -/
theorem map_onNetworkWatchdog (hlies : contact'.LiesOver contact f) (s : System ω') :
    (s.onNetworkWatchdog contact').map f = (s.map f).onNetworkWatchdog contact := by
  rw [onNetworkWatchdog, onNetworkWatchdog, ← map_noteHistoryServed hlies, hlies.uptime]
  exact Task.map_ite (map_noteDelivery hlies _) (Task.map_ite (map_ask_snd hlies _ _) rfl)

/-- A status report is made from the clock and the shared state, so it is the same report. -/
theorem map_onStatistics (hlies : contact'.LiesOver contact f) (s : System ω') :
    (s.onStatistics contact').map f = (s.map f).onStatistics contact := by
  have hsame : (s.map f).statusReport contact = s.statusReport contact' := by
    rw [statusReport, statusReport, hlies.uptime]
    rfl
  rw [onStatistics, onStatistics, hsame]
  exact Task.map_ite (map_deliver hlies _ s) rfl

/-- Each signal is handled the same over both. -/
theorem map_handle (hlies : contact'.LiesOver contact f) (s : System ω') (signal : RelaySignal) :
    (s.handle contact' signal).map f = (s.map f).handle contact signal := by
  cases signal with
  | stop | disable | enable => rfl
  | retransmit => exact map_onRetransmit hlies s
  | networkWatchdog => exact map_onNetworkWatchdog hlies s
  | feedWatchdog => exact map_ask_snd hlies _ s
  | sendStatistics => exact map_onStatistics hlies s

/-- **The relay does the same** over an outside that carries more. -/
theorem map_handleAll (hlies : contact'.LiesOver contact f) (s : System ω')
    (signals : SignalSet RelaySignal) :
    (s.handleAll contact' signals).map f = (s.map f).handleAll contact signals := by
  rw [handleAll, handleAll]
  induction signals.toList generalizing s with
  | nil => rfl
  | cons signal rest ih => rw [List.foldl_cons, ih, map_handle hlies, List.foldl_cons]

/-! ### The record of a wake-up -/

/-- The relay with an empty record beside its outside. -/
abbrev recording (s : System ω) : System (ω × List (Call × Bool)) :=
  Task.recording s

/-- The record begins empty. -/
@[simp]
theorem outside_recording (s : System ω) : s.recording.outside = (s.outside, []) :=
  rfl

/-- **The record is that of the relay's own run.** -/
theorem recording_handleAll (s : System ω) (signals : SignalSet RelaySignal) :
    (s.recording.handleAll contact.recorded signals).map Prod.fst = s.handleAll contact signals :=
  map_handleAll contact.recorded_liesOver s.recording signals

/-- What the relay asks while it handles signals, in order. -/
def calls (contact : Contact ω) (signals : SignalSet RelaySignal) (s : System ω) : List Call :=
  (s.recording.handleAll contact.recorded signals).outside.2.map Prod.fst

end System

end BeaconGateway.Relay
