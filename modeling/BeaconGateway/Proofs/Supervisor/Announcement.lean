import BeaconGateway.Proofs.Supervisor.Questions

/-!
# When the supervisor announces the gateway

The supervisor announces the gateway on the local network when it is told that the network has come
up, and takes the announcement back when it is told that the network has gone down. It does not look
at the network itself. Within one wake-up the news that the network has gone down is handled last,
whichever came last: a wake-up that finds both takes the announcement back.

The order is that of the bits of the signals, and not that in which the news came. This is what
makes the announcement differ from what it announces: of a network that goes down and comes up
between two wake-ups, the supervisor finds both pieces of news, and what it does last is right for
the first.

## Main results

* `Contact.Announces` — an outside where announcing works;
* `SignalSet.announcedAfter` — what a set of signals makes of the announcement;
* `Supervisor.System.announced_handleAll`, `Supervisor.System.wake_announces` — that the supervisor
  does so.
-/

namespace BeaconGateway

/-- What a signal tells the supervisor to do about the announcement: to make it, to take it back, or
nothing. -/
def SupervisorSignal.announcement : SupervisorSignal → Option Bool
  | networkConnected => some true
  | networkDisconnected => some false
  | _ => none

/-- Whether the gateway is announced after the supervisor has handled a set of signals. The news
that the network has gone down comes after the news that it has come up. -/
def SignalSet.announcedAfter (signals : SignalSet SupervisorSignal) (announced : Bool) : Bool :=
  !signals.contains .networkDisconnected && (signals.contains .networkConnected || announced)

namespace Supervisor

/-- What a question does about the announcement. -/
def Request.announcement : Request → Option Bool
  | .startMdns => some true
  | .stopMdns => some false
  | _ => none

/-- An outside where the gateway is announced or not, as it was asked last. -/
def Contact.Announces {ω : Type} (contact : Contact ω) (announced : ω → Bool) : Prop :=
  ∀ r o, announced (contact.ask r o).2 = r.announcement.getD (announced o)

/-- Only the signal that tells of the announcement suits a question about it. -/
theorem Request.Suits.announcement_eq_none {signal : SupervisorSignal} {r : Request}
    (hsuits : r.Suits signal) (hsilent : signal.announcement = none) : r.announcement = none := by
  cases r with
  | startMdns =>
    obtain rfl := hsuits .networkConnected rfl
    cases hsilent
  | stopMdns =>
    obtain rfl := hsuits .networkDisconnected rfl
    cases hsilent
  | _ => rfl

namespace System

variable {ω : Type} {contact : Contact ω} {announced : ω → Bool}

/-- **A signal makes the announcement or takes it back** if it tells so, and otherwise leaves it. -/
theorem announced_handle (hannounces : contact.Announces announced) (s : System ω)
    (signal : SupervisorSignal) :
    announced (s.handle contact signal).outside =
      signal.announcement.getD (announced s.outside) := by
  have hsilent (hnone : signal.announcement = none) :
      announced (s.handle contact signal).outside = announced s.outside := by
    apply (handle_leaves signal s).outside.preserves
      (P := fun o ↦ announced o = announced s.outside)
    · intro r o hsuits hheld
      rw [hannounces, hsuits.announcement_eq_none hnone]
      exact hheld
    · rfl
  cases signal with
  | networkConnected =>
    have hasked : (s.onNetworkConnected contact).outside =
        (s.request contact .startMdns).outside := by
      rw [onNetworkConnected]
      dsimp only
      split_ifs
      · rfl
      · rfl
    rw [handle, hasked]
    exact hannounces .startMdns s.outside
  | networkDisconnected => exact hannounces .stopMdns s.outside
  | _ => exact hsilent rfl

/-- **Whether the gateway is announced after handling signals** is said by the news among them. -/
theorem announced_handleAll (hannounces : contact.Announces announced) (s : System ω)
    (signals : SignalSet SupervisorSignal) :
    announced (s.handleAll contact signals).outside =
      signals.announcedAfter (announced s.outside) := by
  have hnews (l : List SupervisorSignal) (s : System ω) :
      announced (l.foldl (fun s signal ↦ s.handle contact signal) s).outside =
        l.foldl (fun on signal ↦ signal.announcement.getD on) (announced s.outside) := by
    induction l generalizing s with
    | nil => rfl
    | cons signal rest ih =>
      rw [List.foldl_cons, ih, announced_handle hannounces, List.foldl_cons]
  rw [handleAll, hnews, SignalSet.toList, List.foldl_filter]
  simp only [SignalKind.all, List.foldl_cons, List.foldl_nil, SupervisorSignal.announcement,
    Option.getD_none, Option.getD_some, ite_self, SignalSet.announcedAfter]
  cases signals.contains .networkDisconnected <;> cases signals.contains .networkConnected <;> simp

/-- **A wake-up** makes or takes back the announcement as the pending news say, after which none
pends. It brings no link up or down. -/
theorem wake_announces (hannounces : contact.Announces announced) (s : System ω) :
    let s' := (s.wake contact).2
    announced s'.outside = s.mailbox.pending.announcedAfter (announced s.outside) ∧
      s'.net.isConnected = s.net.isConnected ∧
      s'.mailbox.registered = s.mailbox.registered ∧
      s'.mailbox.isPending .networkConnected = false ∧
      s'.mailbox.isPending .networkDisconnected = false := by
  intro s'
  have hleaves : Leaves contact (fun _ ↦ True)
      { s with mailbox := { s.mailbox with pending := .empty } } s' :=
    handleAll_leaves s.mailbox.pending _
  refine ⟨announced_handleAll hannounces _ _, hleaves.connected, hleaves.registered, ?_, ?_⟩
  · exact (hleaves.pending .networkConnected (by decide) (by decide)).trans
      (SignalSet.contains_empty _)
  · exact (hleaves.pending .networkDisconnected (by decide) (by decide)).trans
      (SignalSet.contains_empty _)

end System

end Supervisor

end BeaconGateway
