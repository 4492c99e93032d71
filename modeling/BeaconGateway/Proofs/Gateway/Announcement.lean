import BeaconGateway.Proofs.Gateway.Run
import BeaconGateway.Proofs.Network.Status
import BeaconGateway.Proofs.Supervisor.Announcement
import BeaconGateway.Rehearsal

/-!
# The announcement of the gateway

A link that brings the network up or down tells the supervisor so at once, and the supervisor makes
or takes back the announcement when it wakes up. Between two wake-ups the news coalesce: of a
network that was lost and came back no more is left than that it did both, and the supervisor, which
takes the loss for the last of the two, takes the announcement back. Nobody tells it otherwise until
the network is lost again and comes back.

So a gateway for which nothing pends is announced exactly if its network is up and the last loss did
not go by in this way. The invariant looks at the announcement that the pending news foretell:

| network | announcement foretold     | loss pending              |
|---------|---------------------------|---------------------------|
| up      | unless a loss went by     | may be either             |
| down    | no                        | exactly if none looked    |

## Main results

* `Gateway.follow` — the gateway after links, signals and wake-ups in any order;
* `Gateway.Overlooked` — the network was lost, and each wake-up since found it up again;
* `Gateway.announced_iff` — when a new gateway is announced;
* `Gateway.unannounced_after_return` — a network that went and came back between two wake-ups leaves
  the gateway unannounced.
-/

namespace BeaconGateway.Gateway

variable {ω : Type} {w : Wiring ω} {g : Gateway ω}

/-- The surroundings announce the gateway, or no longer, as the supervisor asks. -/
theorem announces_supervisorContact (w : Wiring ω) :
    w.supervisorContact.Announces (·.services.mdns) := by
  intro r s
  cases r with
  | startMqtt c =>
    show (Surroundings.startMqtt w c s).2.services.mdns = _
    rw [Surroundings.startMqtt]
    split_ifs
    · dsimp only
      split <;> rfl
    · rfl
  | sendScanSettings c =>
    show (Surroundings.transmit w _ (s.note (.called .sendScanSettings))).2.services.mdns = _
    rw [Surroundings.transmit]
    split <;> rfl
  | _ => rfl

/-! ### Links, signals and wake-ups -/

/-- Something that happens around the supervisor. -/
inductive SupervisorStep where
  /-- A link goes up or down. -/
  | link (event : LinkEvent)
  /-- The supervisor is sent a signal that is no news of the network. -/
  | tell (signal : SupervisorSignal) (other : signal.announcement = none)
  /-- The supervisor takes what is pending and handles it. -/
  | wake

/-- The gateway after something has happened around the supervisor. -/
def advance (w : Wiring ω) (g : Gateway ω) : SupervisorStep → Gateway ω
  | .link event => g.onLink event
  | .tell signal _ => (g.tellSupervisor signal).2
  | .wake => (g.supervisorWake w).2

/-- The gateway after links, signals and wake-ups in any order. -/
def follow (w : Wiring ω) (g : Gateway ω) (steps : List SupervisorStep) : Gateway ω :=
  steps.foldl (advance w) g

theorem follow_concat (steps : List SupervisorStep) (step : SupervisorStep) :
    g.follow w (steps ++ [step]) = (g.follow w steps).advance w step :=
  List.foldl_concat _ _ _ _

/-- **A loss went by**: the network was lost, and each wake-up since found it up again. -/
def Overlooked (w : Wiring ω) (g : Gateway ω) (steps : List SupervisorStep) : Prop :=
  ∃ before event since, steps = before ++ .link event :: since ∧
    (g.follow w before).net.isConnected = true ∧
    (g.follow w (before ++ [.link event])).net.isConnected = false ∧
    ∀ between rest, since = between ++ .wake :: rest →
      (g.follow w (before ++ .link event :: between)).net.isConnected = true

theorem not_overlooked_nil : ¬ g.Overlooked w [] := by
  rintro ⟨before, event, since, hnone, -⟩
  exact absurd hnone (by simp)

/-- One more step: it takes the network down, or it is not a wake-up that finds the network down. -/
theorem overlooked_concat {steps : List SupervisorStep} {step : SupervisorStep} :
    g.Overlooked w (steps ++ [step]) ↔
      (∃ event, step = .link event ∧ (g.follow w steps).net.isConnected = true ∧
        ((g.follow w steps).onLink event).net.isConnected = false) ∨
      (step = .wake → (g.follow w steps).net.isConnected = true) ∧ g.Overlooked w steps := by
  constructor
  · rintro ⟨before, event, since, hsplit, hup, hdown, hfound⟩
    obtain ⟨rfl, rfl, rfl⟩ | ⟨since, rfl, rfl⟩ := split_concat hsplit
    · rw [follow_concat] at hdown
      exact .inl ⟨event, rfl, hup, hdown⟩
    · refine .inr ⟨?_, before, event, since, rfl, hup, hdown, ?_⟩
      · rintro rfl
        exact hfound since [] rfl
      · rintro between rest rfl
        exact hfound between (rest ++ [step]) (by simp)
  · rintro (⟨event, rfl, hup, hdown⟩ | ⟨hawake, before, event, since, rfl, hup, hdown, hfound⟩)
    · refine ⟨steps, event, [], rfl, hup, (follow_concat steps _).symm ▸ hdown, ?_⟩
      intro between rest hnone
      exact absurd hnone (by simp)
    · refine ⟨before, event, since ++ [step], by simp, hup, hdown, ?_⟩
      intro between rest hsplit
      obtain ⟨-, rfl, hlast⟩ | ⟨rest, -, hearlier⟩ := split_concat hsplit
      · exact hawake hlast
      · exact hfound between rest hearlier

/-! ### What the pending news foretell -/

/-- Whether the gateway will be announced after the next wake-up. -/
def foretold (g : Gateway ω) : Bool :=
  g.supervisorMailbox.pending.announcedAfter g.around.services.mdns

/-- **The announcement, the network and the pending news fit together**, where a loss went by or
not. -/
structure Announcing (overlooked : Prop) (g : Gateway ω) : Prop where
  /-- The supervisor is there. -/
  present : g.supervisor.isSome = true
  /-- It takes signals. -/
  registered : g.supervisorMailbox.registered = true
  /-- While the network is up, the announcement is foretold unless a loss went by. -/
  up : g.net.isConnected = true → (g.foretold = true ↔ ¬ overlooked)
  /-- While the network is down, no announcement is foretold. -/
  down : g.net.isConnected = false → g.foretold = false
  /-- A loss went by unless a wake-up found it. -/
  pending : g.net.isConnected = false →
    (g.supervisorMailbox.isPending .networkDisconnected = true ↔ overlooked)

namespace Announcing

variable {overlooked : Prop}

/-- Signals that are no news of the network foretell nothing. -/
theorem tell {signal : SupervisorSignal} (hother : signal.announcement = none)
    (hfits : g.Announcing overlooked) : (g.tellSupervisor signal).2.Announcing overlooked := by
  have hsame (news : SupervisorSignal) (hnews : news.announcement ≠ none) :
      (g.supervisorMailbox.send signal).2.isPending news = g.supervisorMailbox.isPending news :=
    Mailbox.isPending_send_of_ne _ fun hequal ↦ hnews (hequal ▸ hother)
  have hforetold : (g.tellSupervisor signal).2.foretold = g.foretold :=
    congrArg₂ (fun lost found ↦ !lost && (found || g.around.services.mdns))
      (hsame .networkDisconnected nofun) (hsame .networkConnected nofun)
  exact {
    present := hfits.present
    registered := (Mailbox.registered_send _ _).trans hfits.registered
    up := fun hup ↦ hforetold ▸ hfits.up hup
    down := fun hdown ↦ hforetold.trans (hfits.down hdown)
    pending := fun hdown ↦ (hsame .networkDisconnected nofun).symm ▸ hfits.pending hdown }

/-- A link goes up or down: what pends afterwards. -/
theorem isPending_onLink (hfits : g.Announcing overlooked) (event : LinkEvent)
    (signal : SupervisorSignal) (hother : signal ≠ .reconnectNetwork) :
    (g.onLink event).supervisorMailbox.isPending signal =
      (g.supervisorMailbox.isPending signal ||
        decide (signal ∈ LinkEvent.edge g.net.isConnected (g.onLink event).net.isConnected)) := by
  have hnone : signal ∉ event.reconnect := by
    rw [LinkEvent.reconnect]
    split <;> simp [hother]
  have hsent : signal ∈ (g.net.onLink event).2 ↔
      signal ∈ LinkEvent.edge g.net.isConnected (g.onLink event).net.isConnected := by
    rw [NetworkStatus.onLink, List.mem_append, or_iff_left hnone]
    rfl
  exact (Mailbox.isPending_sendAll hfits.registered _ signal).trans
    (congrArg (g.supervisorMailbox.isPending signal || ·) (decide_eq_decide.2 hsent))

/-- A link that takes the network down makes a loss that went by, until a wake-up finds it. -/
theorem link (hfits : g.Announcing overlooked) (event : LinkEvent) :
    (g.onLink event).Announcing
      ((g.net.isConnected = true ∧ (g.onLink event).net.isConnected = false) ∨ overlooked) := by
  have hlost := hfits.isPending_onLink event .networkDisconnected nofun
  have hfound := hfits.isPending_onLink event .networkConnected nofun
  have hregistered : (g.onLink event).supervisorMailbox.registered = true :=
    (Mailbox.registered_sendAll _ _).trans hfits.registered
  have hforetold : (g.onLink event).foretold =
      (!(g.onLink event).supervisorMailbox.isPending .networkDisconnected &&
        ((g.onLink event).supervisorMailbox.isPending .networkConnected ||
          g.around.services.mdns)) := rfl
  have hforetold' : g.foretold =
      (!g.supervisorMailbox.isPending .networkDisconnected &&
        (g.supervisorMailbox.isPending .networkConnected || g.around.services.mdns)) := rfl
  -- the four cases of an edge: still down, up, down, still up
  cases hbefore : g.net.isConnected <;> cases hafter : (g.onLink event).net.isConnected <;>
    simp only [hbefore, hafter, LinkEvent.edge, List.not_mem_nil, List.mem_singleton, decide_false,
      Bool.or_false, decide_true, Bool.or_true, reduceCtorEq] at hlost hfound <;>
    rw [hlost, hfound] at hforetold
  case false.false =>
    have hsame : (g.onLink event).foretold = g.foretold := hforetold.trans hforetold'.symm
    refine ⟨hfits.present, hregistered, by simp [hafter],
      fun _ ↦ hsame.trans (hfits.down hbefore), ?_⟩
    simpa [hlost] using fun _ ↦ hfits.pending hbefore
  case false.true =>
    have hfound : (g.onLink event).foretold =
        !g.supervisorMailbox.isPending .networkDisconnected := by simpa using hforetold
    refine ⟨hfits.present, hregistered, fun _ ↦ ?_, by simp [hafter], by simp [hafter]⟩
    simp [hfound, ← hfits.pending hbefore]
  case true.false =>
    refine ⟨hfits.present, hregistered, by simp [hafter], fun _ ↦ by simpa using hforetold, ?_⟩
    simp [hlost]
  case true.true =>
    have hsame : (g.onLink event).foretold = g.foretold := hforetold.trans hforetold'.symm
    refine ⟨hfits.present, hregistered, fun _ ↦ ?_, by simp [hafter], by simp [hafter]⟩
    simpa [hsame] using hfits.up hbefore

/-- A wake-up makes or takes back the announcement as foretold, and finds the network down or up. -/
theorem wake (w : Wiring ω) (hfits : g.Announcing overlooked) :
    (g.supervisorWake w).2.Announcing (g.net.isConnected = true ∧ overlooked) := by
  obtain ⟨supervisor, hsupervisor⟩ := Option.isSome_iff_exists.1 hfits.present
  let s := ((g.supervisorSystem supervisor).wake w.supervisorContact).2
  have hwoken : (g.supervisorWake w).2 = g.fromSupervisor s := by
    rw [supervisorWake, withSupervisor, hsupervisor]
  obtain ⟨hannounced, hconnected, hregistered, hnoneFound, hnoneLost⟩ :=
    Supervisor.System.wake_announces (announces_supervisorContact w)
      (g.supervisorSystem supervisor)
  have hkept : (g.fromSupervisor s).foretold = g.foretold := by
    have hnow : (g.fromSupervisor s).foretold = (!s.mailbox.isPending .networkDisconnected &&
        (s.mailbox.isPending .networkConnected || s.outside.services.mdns)) := rfl
    rw [hnow, hnoneFound, hnoneLost]
    exact hannounced
  have hsame : (g.fromSupervisor s).net.isConnected = g.net.isConnected := hconnected
  rw [hwoken]
  refine ⟨rfl, hregistered.trans hfits.registered, fun hup ↦ ?_, fun hdown ↦ ?_, fun hdown ↦ ?_⟩
  · have hup' : g.net.isConnected = true := hsame.symm.trans hup
    simpa [hkept, hup'] using hfits.up hup'
  · exact hkept.trans (hfits.down (hsame.symm.trans hdown))
  · have hdown' : g.net.isConnected = false := hsame.symm.trans hdown
    have hnone : (g.fromSupervisor s).supervisorMailbox.isPending .networkDisconnected = false :=
      hnoneLost
    simp [hnone, hdown']

end Announcing

/-! ### When a gateway is announced -/

/-- Nothing has happened to a new gateway, so no loss went by. -/
theorem announcing_create {c : Config} {address : Address}
    {gatewayFirmware scannerFirmware : ShortText} {outside : ω}
    (hcreated : create w c address gatewayFirmware scannerFirmware outside = .ok g) :
    g.Announcing False := by
  obtain ⟨relay, -, rfl⟩ := exists_eq_of_create hcreated
  have hdown : NetworkStatus.down.isConnected = false := by decide
  exact {
    present := rfl
    registered := rfl
    up := fun hup ↦ absurd (hdown.symm.trans hup) Bool.false_ne_true
    down := fun _ ↦ by
      simp [foretold, SignalSet.announcedAfter, Mailbox.register, Surroundings.new, Services.idle]
    pending := fun _ ↦ by simp [Mailbox.isPending, Mailbox.register] }

/-- **Whatever happens around the supervisor**, the announcement, the network and the pending news
fit together. -/
theorem announcing_follow (hfits : g.Announcing False) (steps : List SupervisorStep) :
    (g.follow w steps).Announcing (g.Overlooked w steps) := by
  induction steps using List.reverseRecOn with
  | nil =>
    rw [eq_false not_overlooked_nil]
    exact hfits
  | append_singleton steps step ih =>
    rw [follow_concat, propext overlooked_concat]
    cases step with
    | link event => simpa [advance] using ih.link event
    | tell signal hother => simpa [advance] using ih.tell hother
    | wake => simpa [advance] using ih.wake w

/-- **When a gateway is announced**: after any links, signals and wake-ups of a new gateway, and
with no news of the network pending, it is announced exactly if the network is up, unless it was
lost before and each wake-up since found it up again. -/
theorem announced_iff {c : Config} {address : Address}
    {gatewayFirmware scannerFirmware : ShortText} {outside : ω}
    (hcreated : create w c address gatewayFirmware scannerFirmware outside = .ok g)
    (steps : List SupervisorStep)
    (hnoneFound : (g.follow w steps).supervisorMailbox.isPending .networkConnected = false)
    (hnoneLost : (g.follow w steps).supervisorMailbox.isPending .networkDisconnected = false) :
    (g.follow w steps).around.services.mdns = true ↔
      (g.follow w steps).net.isConnected = true ∧ ¬ g.Overlooked w steps := by
  have hfits : (g.follow w steps).Announcing (g.Overlooked w steps) :=
    announcing_follow (announcing_create hcreated) steps
  have hnow : (g.follow w steps).foretold = (g.follow w steps).around.services.mdns := by
    have hforetold : (g.follow w steps).foretold =
        (!(g.follow w steps).supervisorMailbox.isPending .networkDisconnected &&
          ((g.follow w steps).supervisorMailbox.isPending .networkConnected ||
            (g.follow w steps).around.services.mdns)) := rfl
    simpa [hnoneFound, hnoneLost] using hforetold
  rw [← hnow]
  cases hconnected : (g.follow w steps).net.isConnected with
  | true => simpa using hfits.up hconnected
  | false => simp [hfits.down hconnected]

/-- A network that is lost, found lost by a wake-up, and comes back is announced again: no loss went
by. -/
theorem announced_after_return :
    ∃ g, create Rehearsal.wiring .default .zero .empty .empty (.fair 0 none) = .ok g ∧
      let steps := [.link (.up .ethernet), .wake, .link (.down .ethernet), .wake,
        .link (.up .ethernet), .wake]
      (g.follow Rehearsal.wiring steps).around.services.mdns = true ∧
        ¬ g.Overlooked Rehearsal.wiring steps := by
  refine ⟨_, rfl, rfl, ?_⟩
  have hannounced := announced_iff (show create Rehearsal.wiring .default .zero .empty .empty
    (.fair 0 none) = .ok _ from rfl) [.link (.up .ethernet), .wake, .link (.down .ethernet), .wake,
      .link (.up .ethernet), .wake] rfl rfl
  exact (hannounced.1 rfl).2

/-- **A network that went and came back between two wake-ups** leaves the gateway unannounced,
although nothing pends. -/
theorem unannounced_after_return :
    ∃ g, create Rehearsal.wiring .default .zero .empty .empty (.fair 0 none) = .ok g ∧
      let after := g.follow Rehearsal.wiring [.link (.up .ethernet), .wake,
        .link (.down .ethernet), .link (.up .ethernet), .wake]
      after.supervisorMailbox.pending.isEmpty = true ∧ after.net.isConnected = true ∧
        after.around.services.mdns = false :=
  ⟨_, rfl, rfl, rfl, rfl⟩

end BeaconGateway.Gateway
