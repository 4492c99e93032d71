import BeaconGateway.Proofs.Relay.Connection
import BeaconGateway.Proofs.Relay.Delivery
import BeaconGateway.Proofs.Relay.Watchdog
import BeaconGateway.Proofs.Table.Requests

/-!
# One signal to retransmit

What the signal to retransmit asks is settled before the first question: whether the gateway is to
be announced, whether the backend is sent what is pending, and whether the broker is. No answer has
an influence on what is asked next. The answers matter for one word only, the time since which it is
quiet, and there the last success counts, whichever question it answers.

The questions and this word are followed together through the handlers (`Relay.System.Delivers`), so
that deliveries one after another are one list of questions with one last success.

## Main results

* `Relay.quietAfter` — since when it is quiet after some answers;
* `Relay.System.Delivers` — deliveries in order, with one lemma for each handler;
* `Relay.System.retransmits_exactly` — the whole event.
-/

namespace BeaconGateway.Relay

variable {ω : Type} {contact : Contact ω}

/-- The clock as the relay sees it. -/
def Contact.seen (contact : Contact ω) (o : ω) : Nat :=
  (contact.uptime o).toNat

/-- Since when it is quiet after some answers: since the last success, or else as long as before. -/
def quietAfter (since : UInt32) (record : List Answered) : UInt32 :=
  ((record.filter Answered.done).getLast?.map fun entry ↦ UInt32.ofNat entry.time).getD since

theorem quietAfter_append (since : UInt32) (record more : List Answered) :
    quietAfter since (record ++ more) = quietAfter (quietAfter since record) more := by
  simp only [quietAfter, List.filter_append, List.getLast?_append]
  cases (more.filter Answered.done).getLast? <;> rfl

namespace System

section Timed

variable {s s' s'' : System (ω × List Answered)} {calls more : List Call}

/-- **Deliveries in order**: these questions are asked, and the last success ends the silence. -/
def Delivers (calls : List Call) (s s' : System (ω × List Answered)) : Prop :=
  ∃ record, s'.outside.2 = s.outside.2 ++ record ∧ record.map Answered.call = calls ∧
    s'.relay.quietSince = quietAfter s.relay.quietSince record

namespace Delivers

/-- What asks nothing and notes nothing. -/
theorem nothing (houtside : s'.outside = s.outside)
    (hsince : s'.relay.quietSince = s.relay.quietSince) : Delivers [] s s' :=
  ⟨[], by rw [houtside, List.append_nil], rfl, hsince⟩

theorem trans (hfirst : Delivers calls s s') (hsecond : Delivers more s' s'') :
    Delivers (calls ++ more) s s'' := by
  obtain ⟨record, houtside, hasked, hsince⟩ := hfirst
  obtain ⟨record', houtside', hasked', hsince'⟩ := hsecond
  refine ⟨record ++ record', ?_, ?_, ?_⟩
  · rw [houtside', houtside, List.append_assoc]
  · rw [List.map_append, hasked, hasked']
  · rw [hsince', hsince, quietAfter_append]

/-- A delivery ends the silence if it succeeds. -/
theorem deliver (call : Call) (s : System (ω × List Answered)) :
    Delivers [call] s (s.deliver (contact.timed contact.seen) call) := by
  have houtside : (s.ask (contact.timed contact.seen) call).2.outside.2 = s.outside.2 ++
      [⟨call, (s.ask (contact.timed contact.seen) call).1,
        contact.seen (s.ask (contact.timed contact.seen) call).2.outside.1⟩] := rfl
  have hsince : (s.ask (contact.timed contact.seen) call).2.relay.quietSince =
      s.relay.quietSince := rfl
  rw [System.deliver]
  generalize s.ask (contact.timed contact.seen) call = answer at houtside hsince ⊢
  obtain ⟨done, s'⟩ := answer
  refine ⟨[⟨call, done, contact.seen s'.outside.1⟩], ?_, rfl, ?_⟩
  · cases done <;> exact houtside
  · cases done with
    | true => exact UInt32.ofNat_toNat.symm
    | false => exact hsince

theorem deliverNumbered (contact : Contact ω) (call : UInt32 → Call)
    (s : System (ω × List Answered)) :
    ∃ nonce, Delivers [call nonce] s
      (s.deliverNumbered (contact.timed contact.seen) call) := by
  have hnumbered : Delivers [] s { s with relay.nonce := s.relay.nonce + 1 } := .nothing rfl rfl
  exact ⟨_, hnumbered.trans (.deliver _ _)⟩

/-- A look at the network announces the gateway or asks nothing. -/
theorem updateConnection (contact : Contact ω) (s : System (ω × List Answered)) :
    ∃ nonce, Delivers (if s.announces then [.online nonce] else []) s
      (s.updateConnection (contact.timed contact.seen)) := by
  have hseen : Delivers [] s { s with relay.connected := true } := .nothing rfl rfl
  obtain ⟨nonce, htold⟩ := deliverNumbered contact .online
    { s with relay.connected := true }
  refine ⟨nonce, ?_⟩
  rw [System.updateConnection, announces]
  cases s.relay.connected <;> cases s.net.isConnected <;> cases s.relay.config.http.enabled
  case false.true.true => exact hseen.trans htold
  case false.true.false => cases s.relay.config.mqtt.enabled <;> exact .nothing rfl rfl
  all_goals exact .nothing rfl rfl

theorem postBatch (contact : Contact ω) (batch : List Report)
    (s : System (ω × List Answered)) :
    ∃ nonce, Delivers (if s.takes batch .backend then [.batch batch nonce] else []) s
      (s.postBatch (contact.timed contact.seen) batch) := by
  obtain ⟨nonce, hposted⟩ := deliverNumbered contact (.batch batch) s
  refine ⟨nonce, ?_⟩
  rw [System.postBatch, takes]
  split_ifs
  · exact hposted
  · exact .nothing rfl rfl

theorem publishBatch (contact : Contact ω) (batch : List Report)
    (s : System (ω × List Answered)) :
    Delivers (if s.takes batch .broker then [.publish batch] else []) s
      (s.publishBatch (contact.timed contact.seen) batch) := by
  rw [System.publishBatch, takes]
  split_ifs
  · exact .deliver _ s
  · exact .nothing rfl rfl

/-- What is pending goes to each transport that takes it, if the relay sees the network up. -/
theorem relayPending (contact : Contact ω) (s : System (ω × List Answered)) :
    let goes (t : Transport) : Bool :=
      s.relay.connected && !s.batch.isEmpty && s.takes s.batch t
    ∃ nonce, Delivers ((if goes .backend then [.batch s.batch nonce] else []) ++
      if goes .broker then [.publish s.batch] else []) s
      (s.relayPending (contact.timed contact.seen)) := by
  let drained := { s with table := (s.table.drain gatewayCapacity).2 }
  have htaken : Delivers [] s drained := .nothing rfl rfl
  have hsame (t : Transport) : drained.takes s.batch t = s.takes s.batch t := by
    cases t <;> rfl
  obtain ⟨nonce, hposted⟩ := postBatch contact s.batch drained
  have hpublished := publishBatch contact s.batch
    (drained.postBatch (contact.timed contact.seen) s.batch)
  rw [takes_postBatch, hsame] at hpublished
  rw [hsame] at hposted
  refine ⟨nonce, ?_⟩
  rw [relayPending_eq]
  cases s.batch.isEmpty <;> cases s.relay.connected
  case false.true => exact htaken.trans (hposted.trans hpublished)
  all_goals exact htaken

/-- **The signal to retransmit** announces the gateway if the network has come up, and sends what is
pending by each transport that relays. -/
theorem onRetransmit (contact : Contact ω) (s : System (ω × List Answered)) :
    ∃ nonce nonce', Delivers ((if s.announces then [.online nonce] else []) ++
      ((if s.relays .backend then [.batch s.batch nonce'] else []) ++
        if s.relays .broker then [.publish s.batch] else [])) s
      (s.onRetransmit (contact.timed contact.seen)) := by
  have hlooked : Keeps (contact.timed contact.seen) s
      (s.updateConnection (contact.timed contact.seen)) := updateConnection_keeps s
  obtain ⟨nonce, htold⟩ := updateConnection contact s
  obtain ⟨nonce', hsent⟩ := relayPending contact
    (s.updateConnection (contact.timed contact.seen))
  refine ⟨nonce, nonce', ?_⟩
  rw [System.onRetransmit, hlooked.relayingAllowed, relays, relays]
  cases hallowed : s.relayingAllowed with
  | false => simpa using htold
  | true =>
    rw [connected_updateConnection hallowed, batch_updateConnection, takes_updateConnection]
      at hsent
    exact htold.trans hsent

end Delivers

end Timed

/-- **One signal to retransmit**, whatever the relay, the network and the outside are like, and
whatever the table was asked before. The gateway is announced if the backend is in use and the
network has come up. Where relaying is allowed, all that is pending is taken off the table, which
stays as it is otherwise, and over a network that is up it goes as one batch to the backend, if that
is in use and the stamps can be shown, and to the broker, if that is in use and connected. Nothing
else is asked. The time since which it is quiet is that of the last success, if there was one. -/
theorem retransmits_exactly (contact : Contact ω) (any : System ω)
    (requests : List TableRequest) :
    let s := { any with table := ReportTable.new.after requests }
    let after := s.handle contact .retransmit
    let pending := s.table.queue.toList.map s.table.records.get
    let record := s.answers contact contact.seen .retransmit
    let c := s.relay.config
    let allowed := (c.http.enabled || c.mqtt.enabled) && s.relay.enabled && !s.net.isSuspended
    let sends := allowed && s.net.isConnected && !pending.isEmpty
    let known := !c.time.useTimestamps || pending.head?.any fun r ↦ minSyncedTime ≤ r.timestamp
    (∃ nonce nonce', record.map Answered.call =
      (if c.http.enabled && s.net.isConnected && !s.relay.connected then [.online nonce] else []) ++
      ((if sends && (c.http.enabled && known) then [.batch pending nonce'] else []) ++
        if sends && (c.mqtt.enabled && s.net.isBrokerConnected) then [.publish pending] else [])) ∧
    (allowed = false → after.table = s.table) ∧
    (allowed = true →
      after.table.queue.toList = [] ∧ after.table.pending = 0 ∧
      after.table.records = s.table.records ∧ after.table.index = s.table.index ∧
      after.table.recency = s.table.recency) ∧
    after.relay.quietSince = quietAfter s.relay.quietSince record := by
  intro s after pending record c allowed sends known
  obtain ⟨L, hholds⟩ : ∃ L, s.table.Holds L := ReportTable.exists_holds_after requests
  have hbatch : s.batch = pending := by
    rw [batch_eq hholds, ← hholds.queue.toList_eq]
  have htable : after.table = if allowed then (s.table.drain gatewayCapacity).2 else s.table :=
    table_onRetransmit s
  -- the record of the answers begins beside the outside and decides nothing
  have hrelays (t : Transport) : s.timing.relays t = (sends && s.takes pending t) := by
    have htold : s.timing.relays t =
        (allowed && s.net.isConnected && !s.batch.isEmpty && s.takes s.batch t) := by
      cases t <;> rfl
    rw [htold, hbatch]
  obtain ⟨nonce, nonce', entries, houtside, hasked, hsince⟩ :=
    Delivers.onRetransmit contact s.timing
  obtain rfl : record = entries := houtside.trans (List.nil_append _)
  have hsame : s.timing.batch = s.batch := rfl
  rw [hsame, hrelays, hrelays, hbatch] at hasked
  have hown : (s.timing.handle (contact.timed contact.seen) .retransmit).relay = after.relay :=
    congrArg System.relay (timing_handle contact contact.seen s .retransmit)
  refine ⟨⟨nonce, nonce', hasked⟩, fun hforbidden ↦ ?_, fun hpermitted ↦ ?_, ?_⟩
  · rw [htable, hforbidden]
    rfl
  · have hemptied := (hholds.drain gatewayCapacity).2
    rw [htable, if_pos hpermitted]
    exact ⟨hemptied.queue.toList_eq, hemptied.pending_eq, rfl, rfl, rfl⟩
  · rw [← hown]
    exact hsince

end System

end BeaconGateway.Relay
