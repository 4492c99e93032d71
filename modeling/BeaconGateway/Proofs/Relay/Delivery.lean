import BeaconGateway.Proofs.Relay.Sending
import BeaconGateway.Proofs.Table.Delivery

/-!
# At most once, in order

What the relay sends of a device, by one transport and over all its batches, is what the table took
of the device, with some reports left out: none is sent twice, none comes before an earlier one, and
none is made up. This survives refused puts, failures of the outside, and any change of the
configuration or the network, for it rests on the table and the batch alone.

The reports taken so far fall into two parts. Those `before` the last drain are done with: whatever
was sent is among them. Of those `since`, the last one of each device is pending. A drain makes one
batch of these, and moves the line between the two parts to the end.

## Main results

* `Relay.Course` — what the table took and what the relay asked, in any course of events;
* `Relay.Course.Fits` — the two parts, kept by everything that can happen
  (`Relay.Course.fits_turn`);
* `Relay.Course.sent_sublist_taken` — what follows for every course.
-/

namespace BeaconGateway.Relay

variable {ω : Type} {contact : Contact ω}

/-! ### The batch of a wake-up -/

namespace System

variable {s : System ω} {L : Layout gatewayCapacity}

/-- The batch holds every report that waits. -/
theorem batch_eq (hholds : s.table.Holds L) : s.batch = L.queue.map s.table.records.get := by
  have hroom : (L.queue.map s.table.records.get).length ≤ gatewayCapacity := by
    rw [List.length_map]
    exact Links.length_le_of_nodup hholds.queue.nodup
  rw [batch, (hholds.drain gatewayCapacity).1, List.take_of_length_le hroom]

/-- **A wake-up sends a transport one batch or none**, and it is the same for both. -/
theorem batches_eq_nil_or_singleton (s : System ω) (signals : SignalSet RelaySignal)
    (t : Transport) :
    (s.calls contact signals).filterMap (Call.batchBy t) = [] ∨
      (s.calls contact signals).filterMap (Call.batchBy t) = [s.batch] := by
  rw [batches_calls]
  split_ifs
  · exact .inr rfl
  · exact .inl rfl

end System

/-! ### Courses -/

/-- What can happen to the table and the relay. -/
inductive Turn (ω : Type) where
  /-- The table takes a report, or refuses it. -/
  | put (r : Report)
  /-- The relay handles signals. -/
  | handle (signals : SignalSet RelaySignal)
  /-- Meanwhile the relay and all that it touches but the table have become this. -/
  | meanwhile (relay : Relay) (net : NetworkStatus) (historyServed : Bool)
    (scanner : Option Address) (mailbox : Mailbox RelaySignal) (outside : ω)

/-- What the table took and what the relay asked. -/
structure Course (ω : Type) where
  /-- The relay with all that it touches. -/
  system : System ω
  /-- The reports that the table has taken, in order. -/
  taken : List Report
  /-- What the relay has asked, wake-up by wake-up. -/
  calls : List (List Call)

namespace Course

/-- Any relay with an empty table. -/
def start (s : System ω) : Course ω where
  system := { s with table := .new }
  taken := []
  calls := []

/-- One turn. -/
def turn (contact : Contact ω) (c : Course ω) : Turn ω → Course ω
  | .put r =>
    let (outcome, table) := c.system.table.put r
    { c with
      system := { c.system with table }
      taken := if outcome.isOk then c.taken ++ [r] else c.taken }
  | .handle signals =>
    { c with
      system := c.system.handleAll contact signals
      calls := c.calls ++ [c.system.calls contact signals] }
  | .meanwhile relay net historyServed scanner mailbox outside =>
    { c with
      system := { c.system with relay, net, historyServed, scanner, mailbox, outside } }

/-- Turns in order. -/
def follow (contact : Contact ω) (c : Course ω) (turns : List (Turn ω)) : Course ω :=
  turns.foldl (turn contact) c

/-- The batches that were sent by a transport. -/
def sent (c : Course ω) (t : Transport) : List (List Report) :=
  c.calls.flatMap fun calls ↦ calls.filterMap (Call.batchBy t)

/-- **The two parts of what was taken**: those before the last drain, to which all that was sent
belongs, and those since, of which the latest are pending. -/
structure Fits (c : Course ω) (before since : List Report) : Prop where
  /-- The two parts are all that was taken. -/
  taken : c.taken = before ++ since
  /-- Of the second part, the latest reports are pending. -/
  pending : ∃ L, c.system.table.Holds L ∧ L.queue.map c.system.table.records.get = latest since
  /-- Of each device, what was sent is in the first part, in the same order. -/
  sublist : ∀ t a, ((c.sent t).flatten.filter fun r ↦ r.address = a).Sublist
    (before.filter fun r ↦ r.address = a)
  /-- No batch has two reports of one device. -/
  distinct : ∀ t, ∀ batch ∈ c.sent t, (batch.map Report.address).Nodup
  /-- A wake-up sends one batch or none by each transport, and the same by both. -/
  together : ∀ calls ∈ c.calls, ∃ batch, ∀ t,
    calls.filterMap (Call.batchBy t) = [] ∨ calls.filterMap (Call.batchBy t) = [batch]

variable {c : Course ω} {before since : List Report}

theorem fits_start (s : System ω) : (start s).Fits [] [] where
  taken := rfl
  pending := ⟨_, ReportTable.holds_new, rfl⟩
  sublist _ _ := .slnil
  distinct _ _ hmem := absurd hmem List.not_mem_nil
  together _ hmem := absurd hmem List.not_mem_nil

/-- A report that is taken belongs to the second part. -/
theorem fits_put (hfits : c.Fits before since) (r : Report) :
    ∃ since, (c.turn contact (.put r)).Fits before since := by
  obtain ⟨L, hholds, hwaiting⟩ := hfits.pending
  obtain ⟨L', hholds', hwaiting'⟩ := hholds.serve_latest hwaiting (.put r)
  refine ⟨_, ?_, ⟨L', hholds', hwaiting'⟩, hfits.sublist, hfits.distinct, hfits.together⟩
  have hserved : (c.system.table.serve (.put r)).1 = .put (c.system.table.put r).1 := rfl
  have hgrown : (c.turn contact (.put r)).taken =
      if (c.system.table.put r).1.isOk then c.taken ++ [r] else c.taken := rfl
  rw [hgrown, hserved]
  cases (c.system.table.put r).1 with
  | ok outcome => exact (congrArg (· ++ [r]) hfits.taken).trans (List.append_assoc _ _ _)
  | error refusal => exact hfits.taken

/-- A wake-up that drains the table makes one batch of what is pending, and moves the line between
the two parts. -/
theorem fits_handle (hfits : c.Fits before since) (signals : SignalSet RelaySignal) :
    ∃ before since, (c.turn contact (.handle signals)).Fits before since := by
  obtain ⟨L, hholds, hwaiting⟩ := hfits.pending
  have hsent (t : Transport) : (c.turn contact (.handle signals)).sent t =
      c.sent t ++ if signals.contains .retransmit && c.system.relays t then [latest since]
        else [] := by
    rw [← hwaiting, ← System.batch_eq hholds, ← System.batches_calls]
    exact List.flatMap_append.trans (congrArg (c.sent t ++ ·) (List.flatMap_singleton ..))
  have hdistinct (t : Transport) : ∀ batch ∈ (c.turn contact (.handle signals)).sent t,
      (batch.map Report.address).Nodup := by
    intro batch hmem
    rw [hsent, List.mem_append] at hmem
    obtain hmem | hmem := hmem
    · exact hfits.distinct t batch hmem
    · split_ifs at hmem
      · exact List.mem_singleton.1 hmem ▸ nodup_latest since
      · exact absurd hmem List.not_mem_nil
  have htogether : ∀ calls ∈ (c.turn contact (.handle signals)).calls, ∃ batch, ∀ t,
      calls.filterMap (Call.batchBy t) = [] ∨ calls.filterMap (Call.batchBy t) = [batch] := by
    intro calls hmem
    obtain hmem | hmem := List.mem_append.1 hmem
    · exact hfits.together calls hmem
    · rw [List.mem_singleton.1 hmem]
      exact ⟨_, System.batches_eq_nil_or_singleton c.system signals⟩
  have htable : (c.turn contact (.handle signals)).system.table = _ :=
    System.table_handleAll c.system signals
  -- the table is drained or left alone, and only a drain moves the line
  cases hdrains : signals.contains .retransmit && c.system.relayingAllowed with
  | false =>
    rw [hdrains, if_neg Bool.false_ne_true] at htable
    have hsame (t : Transport) : (c.turn contact (.handle signals)).sent t = c.sent t := by
      -- a transport relays only where relaying is allowed, so nothing is sent either
      have hidle : (signals.contains .retransmit && c.system.relays t) = false := by
        rw [System.relays, ← Bool.and_assoc, ← Bool.and_assoc, ← Bool.and_assoc, hdrains]
        rfl
      rw [hsent, hidle, if_neg Bool.false_ne_true, List.append_nil]
    exact ⟨before, since, hfits.taken, htable ▸ ⟨L, hholds, hwaiting⟩,
      fun t a ↦ hsame t ▸ hfits.sublist t a, hdistinct, htogether⟩
  | true =>
    rw [hdrains, if_pos rfl] at htable
    refine ⟨before ++ since, [], ?_, ?_, fun t a ↦ ?_, hdistinct, htogether⟩
    · exact hfits.taken.trans (List.append_nil _).symm
    · exact htable ▸ ⟨_, (hholds.drain gatewayCapacity).2, rfl⟩
    · rw [hsent, List.flatten_append, List.filter_append, List.filter_append]
      refine (hfits.sublist t a).append ?_
      split_ifs
      · rw [List.flatten_singleton]
        exact filter_latest_sublist since a
      · exact List.nil_sublist _

/-- **Whatever happens**, what was taken falls into the two parts. -/
theorem fits_turn (contact : Contact ω) (hfits : c.Fits before since) (t : Turn ω) :
    ∃ before since, (c.turn contact t).Fits before since := by
  cases t with
  | put r => exact ⟨before, fits_put hfits r⟩
  | handle signals => exact fits_handle hfits signals
  | meanwhile =>
    exact ⟨before, since, hfits.taken, hfits.pending, hfits.sublist, hfits.distinct, hfits.together⟩

theorem fits_follow (hfits : c.Fits before since) (turns : List (Turn ω)) :
    ∃ before since, (c.follow contact turns).Fits before since := by
  induction turns generalizing c before since with
  | nil => exact ⟨before, since, hfits⟩
  | cons t rest ih =>
    obtain ⟨before, since, hfits⟩ := fits_turn contact hfits t
    exact ih hfits

/-- **At most once, in order**: in every course of puts and wake-ups, whatever the configuration,
the network and the answers of the outside, what a transport was sent of a device is what the table
took of the device with some reports left out; the devices of a batch are distinct; and a wake-up
sends each transport one batch or none, the same for both. -/
theorem sent_sublist_taken (contact : Contact ω) (s : System ω) (turns : List (Turn ω)) :
    let c := (start s).follow contact turns
    (∀ t a, ((c.sent t).flatten.filter fun r ↦ r.address = a).Sublist
        (c.taken.filter fun r ↦ r.address = a)) ∧
      (∀ t, ∀ batch ∈ c.sent t, (batch.map Report.address).Nodup) ∧
      ∀ calls ∈ c.calls, ∃ batch, ∀ t,
        calls.filterMap (Call.batchBy t) = [] ∨ calls.filterMap (Call.batchBy t) = [batch] := by
  intro c
  obtain ⟨before, since, hfits⟩ : ∃ before since, c.Fits before since :=
    fits_follow (fits_start s) turns
  refine ⟨fun t a ↦ (hfits.sublist t a).trans ?_, hfits.distinct, hfits.together⟩
  rw [hfits.taken, List.filter_append]
  exact List.sublist_append_left _ _

end Course

end BeaconGateway.Relay
