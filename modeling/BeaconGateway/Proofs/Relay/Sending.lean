import BeaconGateway.Proofs.Relay.Handling

/-!
# What the relay sends

Among the relay's signals one alone takes reports off the table, the one to retransmit. It takes all
that are pending as one batch, and hands this batch to each transport that can take it. All other
signals leave the table alone and send no batch, and none comes in between: the one signal that is
handled before it only asks the task to end.

So a wake-up sends a transport one batch or none, and which of the two can be told from the relay as
it was when the wake-up began.

## Main results

* `Transport`, `Call.batchBy` — the two ways to send a batch;
* `Relay.System.relays` — whether a transport would be sent what is pending;
* `Relay.System.table_handleAll` — what signals make of the table;
* `Relay.System.batches_calls` — which batches they send.
-/

namespace BeaconGateway.Relay

/-- A way to send a batch. -/
inductive Transport where
  /-- Post it to the backend. -/
  | backend
  /-- Publish it through the broker. -/
  | broker
  deriving DecidableEq

/-- The batch that a question sends by a transport, if it sends one. -/
def Call.batchBy : Transport → Call → Option (List Report)
  | .backend, .batch records _ => some records
  | .broker, .publish records => some records
  | _, _ => none

/-- Whether a question sends a batch. -/
def Call.sends : Call → Bool
  | .batch _ _ | .publish _ => true
  | .online _ | .statistics _ | .restart _ | .watchdog _ => false

/-- A question that sends nothing has no batch for either transport. -/
theorem Call.batchBy_of_not_sends {call : Call} (hother : call.sends = false) (t : Transport) :
    call.batchBy t = none := by
  cases t <;> cases call <;> first | rfl | cases hother

namespace System

variable {ω : Type} {contact : Contact ω} {s s' s'' : System ω}

/-! ### What sends nothing -/

/-- **What sends nothing** and takes nothing off the table. -/
structure Idles (contact : Contact ω) (s s' : System ω) : Prop where
  /-- The table stays. -/
  table : s'.table = s.table
  /-- No batch is sent. -/
  outside : contact.ask.Reaches (fun call ↦ call.sends = false) s.outside s'.outside

namespace Idles

/-- To do nothing sends nothing. -/
theorem refl (s : System ω) : Idles contact s s :=
  ⟨rfl, .refl _⟩

/-- Two steps that send nothing send nothing together. -/
theorem trans (hfirst : Idles contact s s') (hsecond : Idles contact s' s'') :
    Idles contact s s'' :=
  ⟨hsecond.table.trans hfirst.table, hfirst.outside.trans hsecond.outside⟩

/-- What concerns the relay's own state alone. -/
theorem relay (s : System ω) (after : Relay) : Idles contact s { s with relay := after } :=
  ⟨rfl, .refl _⟩

/-- A question that is not a batch sends nothing, whatever the answer. -/
theorem ask {call : Call} (hother : call.sends = false) (s : System ω) :
    Idles contact s (s.ask contact call).2 := by
  refine ⟨rfl, .single ?_ s.outside⟩
  exact hother

/-- To note a delivery is a matter of the relay's own state. -/
theorem noteDelivery (s : System ω) : Idles contact s (s.noteDelivery contact) :=
  .relay s _

/-- A delivery other than a batch sends nothing, and neither does the note of its success. -/
theorem deliver {call : Call} (hother : call.sends = false) (s : System ω) :
    Idles contact s (s.deliver contact call) := by
  have hasked : Idles contact s (s.ask contact call).2 := .ask hother s
  rcases hanswer : s.ask contact call with ⟨done, s'⟩
  rw [hanswer] at hasked
  rw [System.deliver, hanswer]
  cases done with
  | true => exact hasked.trans (.noteDelivery s')
  | false => exact hasked

/-- The same holds where the delivery is numbered first. -/
theorem deliverNumbered {call : UInt32 → Call} (hother : ∀ nonce, (call nonce).sends = false)
    (s : System ω) : Idles contact s (s.deliverNumbered contact call) :=
  (Idles.relay s _).trans (.deliver (hother _) _)

end Idles

/-- A look at the network sends nothing: at most it tells that the gateway is online. -/
theorem updateConnection_idles (s : System ω) : Idles contact s (s.updateConnection contact) := by
  rw [updateConnection]
  split_ifs
  · exact .refl s
  · exact .relay s _
  · exact .refl s
  · exact (Idles.relay s _).trans (.deliverNumbered (fun _ ↦ rfl) _)
  · exact .relay s _
  · exact .refl s

/-- That history was served is noted without a question. -/
theorem noteHistoryServed_idles (s : System ω) :
    Idles contact s (s.noteHistoryServed contact) := by
  rw [noteHistoryServed]
  split_ifs
  · exact ⟨rfl, .refl _⟩
  · exact .refl s

/-- The network watchdog asks for a restart at most. -/
theorem onNetworkWatchdog_idles (s : System ω) :
    Idles contact s (s.onNetworkWatchdog contact) := by
  have hnoted : Idles contact s (s.noteHistoryServed contact) := noteHistoryServed_idles s
  rw [onNetworkWatchdog]
  split_ifs
  · exact hnoted.trans (.noteDelivery _)
  · exact hnoted.trans (.ask rfl _)
  · exact hnoted

/-- A status report is a delivery, and none of a batch. -/
theorem onStatistics_idles (s : System ω) : Idles contact s (s.onStatistics contact) := by
  rw [onStatistics]
  split_ifs
  · exact .deliver rfl s
  · exact .refl s

/-- **All signals but one** send nothing and take nothing off the table. -/
theorem handle_idles {signal : RelaySignal} (hother : signal ≠ .retransmit) (s : System ω) :
    Idles contact s (s.handle contact signal) := by
  cases signal with
  | stop | disable | enable => exact .relay s _
  | retransmit => exact absurd rfl hother
  | networkWatchdog => exact onNetworkWatchdog_idles s
  | feedWatchdog => exact .ask rfl s
  | sendStatistics => exact onStatistics_idles s

/-- So whole runs of the other signals send nothing. -/
theorem foldl_idles {signals : List RelaySignal} (hothers : .retransmit ∉ signals)
    (s : System ω) :
    Idles contact s (signals.foldl (fun s signal ↦ s.handle contact signal) s) := by
  induction signals generalizing s with
  | nil => exact .refl s
  | cons signal rest ih =>
    obtain ⟨hother, hothers⟩ := not_or.1 (mt List.mem_cons.2 hothers)
    exact (handle_idles (Ne.symm hother) s).trans (ih hothers _)

/-! ### The batch -/

/-- The reports that are pending, the one that has waited longest first. -/
def batch (s : System ω) : List Report :=
  (s.table.drain gatewayCapacity).1.2

/-- Whether a transport is in use and can take a batch now. -/
def takes (s : System ω) (batch : List Report) : Transport → Bool
  | .backend => s.relay.config.http.enabled && stampsKnown s.relay.config batch
  | .broker => s.relay.config.mqtt.enabled && s.net.isBrokerConnected

/-- Whether a transport would be sent what is pending now. -/
def relays (s : System ω) (t : Transport) : Bool :=
  s.relayingAllowed && s.net.isConnected && !s.batch.isEmpty && s.takes s.batch t

/-- A delivery changes nothing but the outside and the time of the last delivery. -/
theorem exists_deliver_eq (contact : Contact ω) (call : Call) (s : System ω) :
    ∃ quietSince, s.deliver contact call =
      { s with
        relay.quietSince := quietSince
        outside := (contact.ask call s.outside).2 } := by
  have hasked : (s.ask contact call).2 = { s with outside := (contact.ask call s.outside).2 } := rfl
  rcases hanswer : s.ask contact call with ⟨done, s'⟩
  obtain rfl : s' = _ := (congrArg Prod.snd hanswer).symm.trans hasked
  rw [deliver, hanswer]
  cases done with
  | true => exact ⟨contact.uptime (contact.ask call s.outside).2, rfl⟩
  | false => exact ⟨s.relay.quietSince, rfl⟩

/-- Where relaying is allowed, the relay sees the network up or down as it is. -/
theorem connected_updateConnection (hallowed : s.relayingAllowed = true) :
    (s.updateConnection contact).relay.connected = s.net.isConnected := by
  have hconfigured : s.relay.config.http.enabled = true ∨ s.relay.config.mqtt.enabled = true := by
    simp only [relayingAllowed, Config.relayingConfigured, Bool.and_eq_true, Bool.or_eq_true]
      at hallowed
    exact hallowed.1.1
  -- the branches: still up, down, still down, and up with the backend, the broker or neither in use
  rw [updateConnection]
  split_ifs with hknown hup hdown http hmqtt
  · exact hknown.trans hup.symm
  · exact (Bool.eq_false_iff.2 hup).symm
  · rw [Bool.not_eq_true'] at hdown
    exact (Bool.eq_false_iff.2 hknown).trans hdown.symm
  · have hup : s.net.isConnected = true := by simpa using hdown
    have htold (s : System ω) (call : Call) :
        (s.deliver contact call).relay.connected = s.relay.connected := by
      obtain ⟨quietSince, hdelivered⟩ := exists_deliver_eq contact call s
      rw [hdelivered]
    exact (htold _ _).trans hup.symm
  · have hup : s.net.isConnected = true := by simpa using hdown
    exact hup.symm
  · exact absurd hconfigured (not_or.2 ⟨http, hmqtt⟩)

/-- A look at the network does not change what is pending. -/
theorem batch_updateConnection (s : System ω) :
    (s.updateConnection contact).batch = s.batch := by
  rw [batch, (updateConnection_idles s).table, batch]

/-- Nor does it change which transports can take it. -/
theorem takes_updateConnection (batch : List Report) (s : System ω) :
    (s.updateConnection contact).takes batch = s.takes batch := by
  have hlooked : Keeps contact s (s.updateConnection contact) := updateConnection_keeps s
  funext t
  cases t <;> simp only [takes, hlooked.config, hlooked.net]

/-- What is pending is taken off the table, and sent if the relay sees the network up. -/
theorem relayPending_eq (contact : Contact ω) (s : System ω) :
    s.relayPending contact =
      let drained := { s with table := (s.table.drain gatewayCapacity).2 }
      if s.batch.isEmpty || !s.relay.connected then drained
      else (drained.postBatch contact s.batch).publishBatch contact s.batch :=
  rfl

/-! ### What relaying leaves alone -/

/-- A delivery leaves the table alone. -/
theorem table_deliver (call : Call) (s : System ω) :
    (s.deliver contact call).table = s.table := by
  obtain ⟨quietSince, hdelivered⟩ := exists_deliver_eq contact call s
  rw [hdelivered]

/-- Posting a batch leaves the table alone: the batch was taken off before. -/
theorem table_postBatch (batch : List Report) (s : System ω) :
    (s.postBatch contact batch).table = s.table := by
  rw [postBatch]
  split_ifs
  · exact table_deliver _ _
  · rfl

/-- So does publishing it. -/
theorem table_publishBatch (batch : List Report) (s : System ω) :
    (s.publishBatch contact batch).table = s.table := by
  rw [publishBatch]
  split_ifs
  · exact table_deliver _ s
  · rfl

/-- All that is pending is taken off, whether or not any of it can be sent. -/
theorem table_relayPending (s : System ω) :
    (s.relayPending contact).table = (s.table.drain gatewayCapacity).2 := by
  rw [relayPending_eq]
  dsimp only
  split_ifs
  · rfl
  · rw [table_publishBatch, table_postBatch]

/-- To retransmit takes off all that is pending, where relaying is allowed. -/
theorem table_onRetransmit (s : System ω) :
    (s.onRetransmit contact).table =
      if s.relayingAllowed then (s.table.drain gatewayCapacity).2 else s.table := by
  have hlooked : Keeps contact s (s.updateConnection contact) := updateConnection_keeps s
  have hsame : (s.updateConnection contact).table = s.table := (updateConnection_idles s).table
  rw [onRetransmit, hlooked.relayingAllowed]
  split_ifs
  · rw [table_relayPending, hsame]
  · exact hsame

/-! ### Which batches a record holds -/

section Recorded

variable {s s' : System (ω × List (Call × Bool))} {t : Transport}

/-- The batches that were sent by a transport, as the record shows. -/
def sent (t : Transport) (s : System (ω × List (Call × Bool))) : List (List Report) :=
  s.outside.2.filterMap fun entry ↦ entry.1.batchBy t

/-- What sends nothing adds no batch. -/
theorem Idles.sent (hidles : Idles contact.recorded s s') : s'.sent t = s.sent t := by
  apply hidles.outside.preserves
    (P := fun o ↦ o.2.filterMap (fun entry ↦ entry.1.batchBy t) = s.sent t)
  · intro call o hother hheld
    have hentry : (contact.recorded.ask call o).2.2 = o.2 ++ [(call, (contact.ask call o.1).1)] :=
      rfl
    rw [hentry, List.filterMap_append, hheld]
    simp [Call.batchBy_of_not_sends hother]
  · rfl

/-- A delivery adds its batch to the record, if it has one. -/
theorem sent_deliver (call : Call) (s : System (ω × List (Call × Bool))) :
    (s.deliver contact.recorded call).sent t = s.sent t ++ (call.batchBy t).toList := by
  obtain ⟨quietSince, hdelivered⟩ := exists_deliver_eq contact.recorded call s
  have hentry : (contact.recorded.ask call s.outside).2.2 =
      s.outside.2 ++ [(call, (contact.ask call s.outside.1).1)] := rfl
  rw [hdelivered, System.sent, hentry, List.filterMap_append]
  cases hbatch : call.batchBy t <;> simp [hbatch, System.sent]

/-- What is sent by each transport in turn: `takes` says by which. -/
theorem sent_postBatch (batch : List Report) (s : System (ω × List (Call × Bool))) :
    (s.postBatch contact.recorded batch).sent t =
      s.sent t ++ if t = .backend ∧ s.takes batch .backend = true then [batch] else [] := by
  have hnumbered (nonce : UInt32) : Call.batchBy t (.batch batch nonce) =
      if t = .backend then some batch else none := by
    cases t <;> rfl
  rw [postBatch]
  split_ifs with hinUse hbyBackend hbyBackend
  · rw [deliverNumbered, sent_deliver, hnumbered, if_pos hbyBackend.1]
    rfl
  · have hother : t ≠ .backend := fun hbackend ↦ hbyBackend ⟨hbackend, hinUse⟩
    rw [deliverNumbered, sent_deliver, hnumbered, if_neg hother]
    rfl
  · exact absurd hbyBackend.2 hinUse
  · exact (List.append_nil _).symm

/-- Publishing is to the broker what posting is to the backend. -/
theorem sent_publishBatch (batch : List Report) (s : System (ω × List (Call × Bool))) :
    (s.publishBatch contact.recorded batch).sent t =
      s.sent t ++ if t = .broker ∧ s.takes batch .broker = true then [batch] else [] := by
  have hpublished : Call.batchBy t (.publish batch) =
      if t = .broker then some batch else none := by
    cases t <;> rfl
  rw [publishBatch]
  split_ifs with hinUse hbyBroker hbyBroker
  · rw [sent_deliver, hpublished, if_pos hbyBroker.1]
    rfl
  · have hother : t ≠ .broker := fun hbroker ↦ hbyBroker ⟨hbroker, hinUse⟩
    rw [sent_deliver, hpublished, if_neg hother]
    rfl
  · exact absurd hbyBroker.2 hinUse
  · exact (List.append_nil _).symm

/-- Posting a batch does not change which transports can take it. -/
theorem takes_postBatch {ω : Type} {contact : Contact ω} (batch : List Report) (s : System ω) :
    (s.postBatch contact batch).takes batch = s.takes batch := by
  have hsame (s : System ω) (call : Call) :
      (s.deliver contact call).takes batch = s.takes batch := by
    obtain ⟨quietSince, hdelivered⟩ := exists_deliver_eq contact call s
    rw [hdelivered]
    funext t
    cases t <;> rfl
  rw [postBatch]
  split_ifs
  · rw [deliverNumbered, hsame]
    funext t
    cases t <;> rfl
  · rfl

/-- **A batch is sent by each transport that can take it**, if the relay sees the network up. -/
theorem sent_relayPending (contact : Contact ω) (t : Transport)
    (s : System (ω × List (Call × Bool))) :
    (s.relayPending contact.recorded).sent t =
      s.sent t ++ if s.relay.connected && !s.batch.isEmpty && s.takes s.batch t then [s.batch]
        else [] := by
  let drained := { s with table := (s.table.drain gatewayCapacity).2 }
  have hsends : ((drained.postBatch contact.recorded s.batch).publishBatch contact.recorded
      s.batch).sent t = s.sent t ++ if s.takes s.batch t then [s.batch] else [] := by
    have hsame : drained.takes s.batch = s.takes s.batch := by
      funext t
      cases t <;> rfl
    have hbefore : drained.sent t = s.sent t := rfl
    rw [sent_publishBatch, takes_postBatch, sent_postBatch, hsame, hbefore]
    cases t <;> simp
  rw [relayPending_eq]
  cases hempty : s.batch.isEmpty <;> cases hconnected : s.relay.connected <;>
    simp only [Bool.or_false, Bool.or_true, Bool.not_true, Bool.not_false, Bool.and_true,
      Bool.and_false, Bool.true_and, Bool.false_and, if_true, Bool.false_eq_true, if_false,
      List.append_nil]
  case false.true => exact hsends
  all_goals rfl

/-- The one signal to retransmit sends what is pending by each transport that relays. -/
theorem sent_onRetransmit (contact : Contact ω) (t : Transport)
    (s : System (ω × List (Call × Bool))) :
    (s.onRetransmit contact.recorded).sent t =
      s.sent t ++ if s.relays t then [s.batch] else [] := by
  have hlooked : Keeps contact.recorded s (s.updateConnection contact.recorded) :=
    updateConnection_keeps s
  have hidles : Idles contact.recorded s (s.updateConnection contact.recorded) :=
    updateConnection_idles s
  rw [onRetransmit, hlooked.relayingAllowed, relays]
  cases hallowed : s.relayingAllowed with
  | false => simpa using hidles.sent
  | true =>
    have hsent := sent_relayPending contact t (s.updateConnection contact.recorded)
    rw [connected_updateConnection hallowed, batch_updateConnection, takes_updateConnection,
      hidles.sent] at hsent
    simpa using hsent

end Recorded

/-! ### A wake-up -/

/-- **A wake-up retransmits once or not at all**: the signal to end, which alone comes before, is
only noted, and those after it send nothing. -/
theorem exists_idles_handleAll (contact : Contact ω) (s : System ω)
    (signals : SignalSet RelaySignal) :
    ∃ stopRequested, let noted : System ω := { s with relay.stopRequested := stopRequested }
      Idles contact (if signals.contains .retransmit then noted.onRetransmit contact else noted)
        (s.handleAll contact signals) := by
  let others : List RelaySignal := [.disable, .enable, .networkWatchdog, .feedWatchdog,
    .sendStatistics]
  -- signals are handled in the order of their bits: that to end, that to retransmit, the others
  have hsplit : signals.toList = [RelaySignal.stop].filter signals.contains ++
      [RelaySignal.retransmit].filter signals.contains ++ others.filter signals.contains := by
    rw [← List.filter_append, ← List.filter_append]
    rfl
  have hidle (s : System ω) : Idles contact s ((others.filter signals.contains).foldl
      (fun s signal ↦ s.handle contact signal) s) :=
    foldl_idles (fun hmem ↦ absurd (List.mem_filter.1 hmem).1 (by decide)) s
  refine ⟨s.relay.stopRequested || signals.contains .stop, ?_⟩
  rw [handleAll, hsplit, List.foldl_append, List.foldl_append]
  have hended : ([RelaySignal.stop].filter signals.contains).foldl
      (fun s signal ↦ s.handle contact signal) s =
      { s with relay.stopRequested := s.relay.stopRequested || signals.contains .stop } := by
    cases hpending : signals.contains .stop with
    | true =>
      rw [List.filter_singleton, hpending, Bool.or_true]
      rfl
    | false =>
      rw [List.filter_singleton, hpending, Bool.or_false]
      rfl
  have honce (s : System ω) : ([RelaySignal.retransmit].filter signals.contains).foldl
      (fun s signal ↦ s.handle contact signal) s =
      if signals.contains .retransmit then s.onRetransmit contact else s := by
    cases hpending : signals.contains .retransmit with
    | true =>
      rw [List.filter_singleton, hpending]
      rfl
    | false =>
      rw [List.filter_singleton, hpending]
      rfl
  rw [hended, honce]
  exact hidle _

/-- **What signals make of the table**: the one to retransmit takes off all that is pending, where
relaying is allowed, and nothing else changes it. -/
theorem table_handleAll (s : System ω) (signals : SignalSet RelaySignal) :
    (s.handleAll contact signals).table =
      if signals.contains .retransmit && s.relayingAllowed then (s.table.drain gatewayCapacity).2
      else s.table := by
  obtain ⟨stopRequested, hidles⟩ := exists_idles_handleAll contact s signals
  rw [hidles.table]
  cases signals.contains .retransmit with
  | true => exact table_onRetransmit _
  | false => rfl

/-- **Which batches a wake-up sends** by a transport: what is pending when it retransmits and the
transport relays, and otherwise none. -/
theorem batches_calls (s : System ω) (signals : SignalSet RelaySignal) (t : Transport) :
    (s.calls contact signals).filterMap (Call.batchBy t) =
      if signals.contains .retransmit && s.relays t then [s.batch] else [] := by
  have hrecord : (s.calls contact signals).filterMap (Call.batchBy t) =
      (s.recording.handleAll contact.recorded signals).sent t := List.filterMap_map
  obtain ⟨stopRequested, hidles⟩ := exists_idles_handleAll contact.recorded s.recording signals
  have hnothing (stopRequested : Bool) :
      ({ s.recording with relay.stopRequested := stopRequested } :
        System (ω × List (Call × Bool))).sent t = [] := rfl
  have hsame : ({ s.recording with relay.stopRequested := stopRequested } :
      System (ω × List (Call × Bool))).relays t = s.relays t := by
    cases t <;> rfl
  rw [hrecord, hidles.sent]
  cases signals.contains .retransmit with
  | true =>
    have hsent := sent_onRetransmit contact t
      { s.recording with relay.stopRequested := stopRequested }
    rw [hsame, hnothing, List.nil_append] at hsent
    exact hsent
  | false => simpa using hnothing stopRequested

end System

end BeaconGateway.Relay
