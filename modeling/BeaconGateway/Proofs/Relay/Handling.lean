import BeaconGateway.Proofs.Outside
import BeaconGateway.Proofs.Relay.Recording
import BeaconGateway.Proofs.Signal.Set
import Mathlib.Tactic.SplitIfs

/-!
# What the relay does with its signals

No signal makes the relay touch the network status or its mailbox, and only the two commands of
the supervisor change whether it relays. While relaying is not allowed, it leaves the table alone
and asks none of the questions that belong to relaying: it sends no batch, and it does not restart
the gateway because none was delivered.

Of the two commands the one to go on is handled last, whichever was sent last. So a set that holds
both enables the relay.

## Main results

* `Relay.System.Keeps` — what every signal but the two commands keeps, with one lemma for each
  handler up to `Relay.System.handle_keeps`;
* `Relay.System.rests_handleAll` — any signals, while relaying is suspended;
* `Relay.System.calls_suspended` — what the relay asks meanwhile;
* `Relay.System.enabled_handleAll`, `Relay.System.wake_carries_out` — whether it relays after a
  wake-up.
-/

namespace BeaconGateway

/-- What a signal tells the relay: to relay, not to, or nothing about it. -/
def RelaySignal.command : RelaySignal → Option Bool
  | disable => some false
  | enable => some true
  | stop | retransmit | networkWatchdog | feedWatchdog | sendStatistics => none

/-- Whether the relay relays after it has handled a set of signals. The command to go on comes
after the one to stop. -/
def SignalSet.enabledAfter (signals : SignalSet RelaySignal) (enabled : Bool) : Bool :=
  signals.contains .enable || !signals.contains .disable && enabled

/-- Without a command the relay goes on as it is. -/
@[simp] theorem SignalSet.enabledAfter_empty (enabled : Bool) :
    (empty : SignalSet RelaySignal).enabledAfter enabled = enabled := by
  simp [enabledAfter]

namespace Relay

/-- Whether a question belongs to relaying: to send a batch, or to restart because none was
delivered. -/
def Call.needsRelaying : Call → Bool
  | .batch _ _ | .publish _ | .restart _ => true
  | .online _ | .statistics _ | .watchdog _ => false

namespace System

variable {ω : Type} {contact : Contact ω} {s s' s'' : System ω}

/-! ### All but the commands of the supervisor -/

/-- **What a handler keeps.** The table and the questions of relaying come in only where relaying
is allowed. -/
structure Keeps (contact : Contact ω) (s s' : System ω) : Prop where
  /-- The network status is only looked at. -/
  net : s'.net = s.net
  /-- The relay sends itself no signals. -/
  mailbox : s'.mailbox = s.mailbox
  /-- The configuration stays. -/
  config : s'.relay.config = s.relay.config
  /-- The relay goes on to relay, or goes on not to. -/
  enabled : s'.relay.enabled = s.relay.enabled
  /-- Nothing is taken off the table unless it may be relayed. -/
  table : s.relayingAllowed = false → s'.table = s.table
  /-- Nothing is sent unless it may be relayed. -/
  outside : contact.ask.Reaches (fun call ↦ s.relayingAllowed = false → call.needsRelaying = false)
    s.outside s'.outside

namespace Keeps

theorem refl (s : System ω) : Keeps contact s s :=
  ⟨rfl, rfl, rfl, rfl, fun _ ↦ rfl, .refl _⟩

/-- Whether relaying is allowed depends on nothing that a handler changes. -/
theorem relayingAllowed (hkeeps : Keeps contact s s') :
    s'.relayingAllowed = s.relayingAllowed := by
  rw [System.relayingAllowed, hkeeps.config, hkeeps.enabled, hkeeps.net, System.relayingAllowed]

theorem trans (hfirst : Keeps contact s s') (hsecond : Keeps contact s' s'') :
    Keeps contact s s'' where
  net := hsecond.net.trans hfirst.net
  mailbox := hsecond.mailbox.trans hfirst.mailbox
  config := hsecond.config.trans hfirst.config
  enabled := hsecond.enabled.trans hfirst.enabled
  table hidle := (hsecond.table (hfirst.relayingAllowed.trans hidle)).trans (hfirst.table hidle)
  outside := hfirst.outside.trans (hfirst.relayingAllowed ▸ hsecond.outside)

end Keeps

/-- A question is asked if it needs no relaying, or if relaying is allowed. -/
theorem ask_keeps {call : Call} (s : System ω)
    (hdue : s.relayingAllowed = false → call.needsRelaying = false) :
    Keeps contact s (s.ask contact call).2 :=
  ⟨rfl, rfl, rfl, rfl, fun _ ↦ rfl, .single hdue s.outside⟩

theorem noteDelivery_keeps (s : System ω) : Keeps contact s (s.noteDelivery contact) :=
  ⟨rfl, rfl, rfl, rfl, fun _ ↦ rfl, .refl _⟩

/-- A delivery is noted, and it needs relaying as its question does. -/
theorem deliver_keeps {call : Call} (s : System ω)
    (hdue : s.relayingAllowed = false → call.needsRelaying = false) :
    Keeps contact s (s.deliver contact call) := by
  have hasked : Keeps contact s (s.ask contact call).2 := ask_keeps s hdue
  rcases hanswer : s.ask contact call with ⟨done, s'⟩
  rw [hanswer] at hasked
  rw [deliver, hanswer]
  cases done with
  | true => exact hasked.trans (noteDelivery_keeps s')
  | false => exact hasked

/-- A number is taken for a delivery whatever becomes of it, and numbers are not kept. -/
theorem deliverNumbered_keeps {call : UInt32 → Call} (s : System ω)
    (hdue : s.relayingAllowed = false → ∀ nonce, (call nonce).needsRelaying = false) :
    Keeps contact s (s.deliverNumbered contact call) := by
  have hnumbered : Keeps contact s { s with relay.nonce := s.relay.nonce + 1 } :=
    ⟨rfl, rfl, rfl, rfl, fun _ ↦ rfl, .refl _⟩
  exact hnumbered.trans (deliver_keeps _ fun hidle ↦ hdue hidle _)

/-- The relay looks whether the network is up and says that the gateway is online. That needs no
relaying. -/
theorem updateConnection_keeps (s : System ω) :
    Keeps contact s (s.updateConnection contact) := by
  have hnoted (connected : Bool) : Keeps contact s { s with relay.connected := connected } :=
    ⟨rfl, rfl, rfl, rfl, fun _ ↦ rfl, .refl _⟩
  rw [updateConnection]
  split_ifs
  · exact .refl s
  · exact hnoted false
  · exact .refl s
  · exact (hnoted true).trans (deliverNumbered_keeps _ fun _ _ ↦ rfl)
  · exact hnoted true
  · exact .refl s

/-- A batch is posted only where relaying is allowed. -/
theorem postBatch_keeps (hallowed : s.relayingAllowed = true) (batch : List Report) :
    Keeps contact s (s.postBatch contact batch) := by
  rw [postBatch]
  split_ifs
  · exact deliverNumbered_keeps s (by simp [hallowed])
  · exact .refl s

/-- A batch is published only where relaying is allowed. -/
theorem publishBatch_keeps (hallowed : s.relayingAllowed = true) (batch : List Report) :
    Keeps contact s (s.publishBatch contact batch) := by
  rw [publishBatch]
  split_ifs
  · exact deliver_keeps s (by simp [hallowed])
  · exact .refl s

/-- Pending reports are taken from the table and sent only where relaying is allowed. -/
theorem relayPending_keeps (hallowed : s.relayingAllowed = true) :
    Keeps contact s (s.relayPending contact) := by
  rcases hdrained : s.table.drain gatewayCapacity with ⟨⟨count, batch⟩, table⟩
  have htaken : Keeps contact s { s with table } :=
    ⟨rfl, rfl, rfl, rfl, by simp [hallowed], .refl _⟩
  rw [relayPending, hdrained]
  dsimp only
  split_ifs
  · exact htaken
  · have hposted := htaken.trans (postBatch_keeps (htaken.relayingAllowed.trans hallowed) batch)
    exact hposted.trans (publishBatch_keeps (hposted.relayingAllowed.trans hallowed) batch)

/-- A retransmission looks whether relaying is allowed before anything is sent. -/
theorem onRetransmit_keeps (s : System ω) : Keeps contact s (s.onRetransmit contact) := by
  have hlooked : Keeps contact s (s.updateConnection contact) := updateConnection_keeps s
  rw [onRetransmit]
  split_ifs with hallowed
  · exact hlooked.trans (relayPending_keeps hallowed)
  · exact hlooked

theorem noteHistoryServed_keeps (s : System ω) :
    Keeps contact s (s.noteHistoryServed contact) := by
  rw [noteHistoryServed]
  split_ifs
  · exact ⟨rfl, rfl, rfl, rfl, fun _ ↦ rfl, .refl _⟩
  · exact .refl s

/-- The gateway is restarted only where relaying is allowed: otherwise nothing is expected to be
delivered, and the watchdog of the network starts anew. -/
theorem onNetworkWatchdog_keeps (s : System ω) :
    Keeps contact s (s.onNetworkWatchdog contact) := by
  have hnoted : Keeps contact s (s.noteHistoryServed contact) := noteHistoryServed_keeps s
  rw [onNetworkWatchdog]
  split_ifs with hunwatched _
  · exact hnoted.trans (noteDelivery_keeps _)
  · have hallowed : (s.noteHistoryServed contact).relayingAllowed = true := by
      simp only [Bool.or_eq_true, decide_eq_true_eq, Bool.not_eq_true', not_or,
        Bool.not_eq_false] at hunwatched
      exact hunwatched.2
    exact hnoted.trans (ask_keeps _ (by simp [hallowed]))
  · exact hnoted

/-- A status report is posted whether relaying is allowed or not. -/
theorem onStatistics_keeps (s : System ω) : Keeps contact s (s.onStatistics contact) := by
  rw [onStatistics]
  split_ifs
  · exact deliver_keeps s fun _ ↦ rfl
  · exact .refl s

/-- All signals but the two commands keep what a handler keeps. -/
theorem handle_keeps {signal : RelaySignal} (s : System ω) (hother : signal ≠ .disable)
    (hother' : signal ≠ .enable) : Keeps contact s (s.handle contact signal) := by
  cases signal with
  | stop => exact ⟨rfl, rfl, rfl, rfl, fun _ ↦ rfl, .refl _⟩
  | retransmit => exact onRetransmit_keeps s
  | disable => exact absurd rfl hother
  | enable => exact absurd rfl hother'
  | networkWatchdog => exact onNetworkWatchdog_keeps s
  | feedWatchdog => exact ask_keeps s fun _ ↦ rfl
  | sendStatistics => exact onStatistics_keeps s

/-! ### While relaying is suspended -/

/-- **What the relay keeps while relaying is suspended.** -/
structure Rests (contact : Contact ω) (s s' : System ω) : Prop where
  /-- Relaying stays suspended. -/
  net : s'.net = s.net
  /-- Nothing is taken off the table. -/
  table : s'.table = s.table
  /-- Nothing is sent, and the gateway is not restarted. -/
  outside : contact.ask.Reaches (fun call ↦ call.needsRelaying = false) s.outside s'.outside

theorem Rests.trans (hfirst : Rests contact s s') (hsecond : Rests contact s' s'') :
    Rests contact s s'' :=
  ⟨hsecond.net.trans hfirst.net, hsecond.table.trans hfirst.table,
    hfirst.outside.trans hsecond.outside⟩

/-- While relaying is suspended it is not allowed, so what a handler keeps includes that nothing is
relayed. -/
theorem Keeps.rests (hkeeps : Keeps contact s s') (hsuspended : s.net.isSuspended = true) :
    Rests contact s s' := by
  have hidle : s.relayingAllowed = false := by simp [System.relayingAllowed, hsuspended]
  exact ⟨hkeeps.net, hkeeps.table hidle, hkeeps.outside.mono fun _ hdue ↦ hdue hidle⟩

/-- **While relaying is suspended** the relay rests, whichever signal it handles. The two commands
decide whether it relays afterwards, but suspension comes before them. -/
theorem rests_handle (hsuspended : s.net.isSuspended = true) (signal : RelaySignal) :
    Rests contact s (s.handle contact signal) := by
  by_cases hcommand : signal = .disable ∨ signal = .enable
  · obtain rfl | rfl := hcommand <;> exact ⟨rfl, rfl, .refl _⟩
  · obtain ⟨hother, hother'⟩ := not_or.1 hcommand
    exact (handle_keeps s hother hother').rests hsuspended

/-- **Suspended, the relay rests** whatever signals it handles. -/
theorem rests_handleAll (hsuspended : s.net.isSuspended = true)
    (signals : SignalSet RelaySignal) : Rests contact s (s.handleAll contact signals) := by
  rw [handleAll]
  induction signals.toList generalizing s with
  | nil => exact ⟨rfl, rfl, .refl _⟩
  | cons signal rest ih =>
    have hfirst : Rests contact s (s.handle contact signal) := rests_handle hsuspended signal
    exact hfirst.trans (ih (hfirst.net.symm ▸ hsuspended))

/-- **Suspended, the relay sends nothing** and does not restart the gateway. -/
theorem calls_suspended (hsuspended : s.net.isSuspended = true) (signals : SignalSet RelaySignal) :
    ∀ call ∈ s.calls contact signals, call.needsRelaying = false := by
  have hrests : Rests contact.recorded s.recording
      (s.recording.handleAll contact.recorded signals) :=
    rests_handleAll (s := s.recording) hsuspended signals
  intro call hmem
  obtain ⟨entry, hrecorded, rfl⟩ := List.mem_map.1 hmem
  exact (hrests.outside.record entry hrecorded).resolve_left List.not_mem_nil

/-! ### Whether the relay relays after a wake-up -/

/-- The relay pauses and goes on as its commands say. -/
theorem enabled_handle (s : System ω) (signal : RelaySignal) :
    (s.handle contact signal).relay.enabled = signal.command.getD s.relay.enabled := by
  cases signal with
  | disable | enable => rfl
  | stop | retransmit | networkWatchdog | feedWatchdog | sendStatistics =>
    exact (handle_keeps s (by simp) (by simp)).enabled

/-- **Whether the relay relays after handling signals** is said by the commands among them. -/
theorem enabled_handleAll (s : System ω) (signals : SignalSet RelaySignal) :
    (s.handleAll contact signals).relay.enabled = signals.enabledAfter s.relay.enabled := by
  have hcommands (l : List RelaySignal) (s : System ω) :
      (l.foldl (fun s signal ↦ s.handle contact signal) s).relay.enabled =
        l.foldl (fun enabled signal ↦ signal.command.getD enabled) s.relay.enabled := by
    induction l generalizing s with
    | nil => rfl
    | cons signal rest ih => rw [List.foldl_cons, ih, enabled_handle, List.foldl_cons]
  rw [handleAll, hcommands, SignalSet.toList, List.foldl_filter]
  simp only [SignalKind.all, List.foldl_cons, List.foldl_nil, RelaySignal.command,
    Option.getD_none, Option.getD_some, ite_self, SignalSet.enabledAfter]
  cases signals.contains .enable <;> cases signals.contains .disable <;> simp

/-- Handling signals leaves the mailbox alone: the relay sends itself none. -/
theorem mailbox_handleAll (s : System ω) (signals : SignalSet RelaySignal) :
    (s.handleAll contact signals).mailbox = s.mailbox := by
  rw [handleAll]
  induction signals.toList generalizing s with
  | nil => rfl
  | cons signal rest ih =>
    have hfirst : (s.handle contact signal).mailbox = s.mailbox := by
      cases signal with
      | disable | enable => rfl
      | stop | retransmit | networkWatchdog | feedWatchdog | sendStatistics =>
        exact (handle_keeps s (by simp) (by simp)).mailbox
    exact (ih (s.handle contact signal)).trans hfirst

/-- **A wake-up** leaves nothing pending, and carries out the commands that were. -/
theorem wake_carries_out (s : System ω) :
    (s.wake contact).2.mailbox = { s.mailbox with pending := .empty } ∧
      (s.wake contact).2.relay.enabled = s.mailbox.pending.enabledAfter s.relay.enabled :=
  ⟨mailbox_handleAll _ _, enabled_handleAll _ _⟩

end System

end Relay

end BeaconGateway
