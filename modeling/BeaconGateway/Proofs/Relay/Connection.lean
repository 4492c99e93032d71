import BeaconGateway.Proofs.Network.Status
import BeaconGateway.Proofs.Relay.Diary
import BeaconGateway.Proofs.Relay.Sending
import BeaconGateway.Proofs.Relay.Silence

/-!
# When the relay sees the network

The relay looks at the network when it is time to retransmit, and at no other time. What it saw
then is all that it knows until it looks again, however often the network goes down and comes up in
between, and whether or not relaying is allowed. So it tells the backend that the gateway is online
once for each time that it finds the network up after it had found it down, before it sends anything
else, and it sends nothing where it found the network down.

The diary is taken apart at one entry. What the relay knew before it is what the entries in front of
it say, by induction from the end of the course, and what it does then is one act. Of each act it is
shown which questions it asks (`System.Asks`), and of the one to retransmit also in which order.

## Main results

* `Relay.System.connected_act`, `Relay.System.exists_asks_retransmit`,
  `Relay.System.asks_aside` — what one act does;
* `Relay.Diary.connected_follow` — what the relay knows of the network;
* `Relay.Diary.tells_once_per_connection` — the whole diary.
-/

namespace BeaconGateway

namespace Relay

variable {ω : Type} {contact : Contact ω}

/-- Whether a question belongs to the signal to retransmit: to tell that the gateway is online, or
to send a batch. -/
def Call.ofRetransmit : Call → Bool
  | .online _ | .batch _ _ | .publish _ => true
  | .statistics _ | .restart _ | .watchdog _ => false

/-- A question that has no part in retransmission sends no batch. -/
theorem Call.sends_eq_false {call : Call} (haside : call.ofRetransmit = false) :
    call.sends = false := by
  cases call with
  | online | batch | publish => cases haside
  | statistics | restart | watchdog => rfl

namespace System

/-! ### Looking at the network -/

/-- No delivery changes what the relay knows of the network, not even one that fails. -/
theorem connected_deliver (call : Call) (s : System ω) :
    (s.deliver contact call).relay.connected = s.relay.connected := by
  obtain ⟨quietSince, hdelivered⟩ := exists_deliver_eq contact call s
  rw [hdelivered]

/-- Nor does one with a number. -/
theorem connected_deliverNumbered (call : UInt32 → Call) (s : System ω) :
    (s.deliverNumbered contact call).relay.connected = s.relay.connected :=
  connected_deliver _ _

/-- Where a transport is in use, the relay sees the network up or down as it is. -/
theorem connected_updateConnection_eq (contact : Contact ω) {s : System ω}
    (hinUse : s.relay.connected = true → s.relay.config.relayingConfigured = true) :
    (s.updateConnection contact).relay.connected =
      (s.net.isConnected && s.relay.config.relayingConfigured) := by
  rw [updateConnection]
  split_ifs with hknown hup hdown http hmqtt
  · rw [hup, hinUse hknown]
    exact hknown
  · rw [Bool.not_eq_true] at hup
    rw [hup]
    rfl
  · rw [Bool.not_eq_true'] at hdown
    rw [Bool.not_eq_true] at hknown
    rw [hdown]
    exact hknown
  · simp only [Bool.not_eq_true', Bool.not_eq_false] at hdown
    simp [connected_deliverNumbered, Config.relayingConfigured, hdown, http]
  · simp_all [Config.relayingConfigured]
  · simp_all [Config.relayingConfigured]

/-- Whether the relay would tell the backend that the gateway is online. -/
def announces (s : System ω) : Bool :=
  s.relay.config.http.enabled && s.net.isConnected && !s.relay.connected

/-- Relaying what is pending does not look at the network again. -/
theorem connected_relayPending (s : System ω) :
    (s.relayPending contact).relay.connected = s.relay.connected := by
  rw [relayPending_eq]
  dsimp only
  split_ifs
  · rfl
  · rw [publishBatch, postBatch]
    split_ifs <;> simp only [connected_deliver, connected_deliverNumbered]

/-- After it was time to retransmit, the relay knows the network as it was then, whether or not
relaying is allowed. -/
theorem connected_onRetransmit (contact : Contact ω) {s : System ω}
    (hinUse : s.relay.connected = true → s.relay.config.relayingConfigured = true) :
    (s.onRetransmit contact).relay.connected =
      (s.net.isConnected && s.relay.config.relayingConfigured) := by
  rw [onRetransmit]
  split_ifs
  · rw [connected_relayPending, connected_updateConnection_eq contact hinUse]
  · exact connected_updateConnection_eq contact hinUse

/-! ### What is asked meanwhile -/

section Recorded

variable {s s' s'' : System (ω × List (Call × Bool))} {kind kind' : Call → Prop}

/-- **What asks questions of a kind** and no others. -/
def Asks (kind : Call → Prop) (s s' : System (ω × List (Call × Bool))) : Prop :=
  ∃ calls, s'.asked = s.asked ++ calls ∧ ∀ call ∈ calls, kind call

namespace Asks

/-- Where the outside stays as it was, nothing was asked. -/
theorem nothing (houtside : s'.outside = s.outside) : Asks kind s s' :=
  ⟨[], by rw [asked, houtside, List.append_nil, asked], List.forall_mem_nil _⟩

/-- Questions of one step and then of another. -/
theorem trans (hfirst : Asks kind s s') (hsecond : Asks kind s' s'') : Asks kind s s'' := by
  obtain ⟨calls, hasked, hall⟩ := hfirst
  obtain ⟨more, hasked', hall'⟩ := hsecond
  exact ⟨calls ++ more, by rw [hasked', hasked, List.append_assoc],
    List.forall_mem_append.2 ⟨hall, hall'⟩⟩

/-- One question. -/
theorem ask {call : Call} (hkind : kind call) :
    Asks kind s (s.ask contact.recorded call).2 :=
  ⟨[call], asked_ask call s, List.forall_mem_singleton.2 hkind⟩

/-- A delivery asks once; what it notes afterwards is no question. -/
theorem deliver {call : Call} (hkind : kind call) :
    Asks kind s (s.deliver contact.recorded call) := by
  obtain ⟨quietSince, hasked, -⟩ := exists_deliver contact call s
  exact ⟨[call], hasked, List.forall_mem_singleton.2 hkind⟩

/-- A numbered delivery asks once as well, whatever its number. -/
theorem deliverNumbered {call : UInt32 → Call} (hkind : ∀ nonce, kind (call nonce)) :
    Asks kind s (s.deliverNumbered contact.recorded call) :=
  (nothing rfl : Asks kind s { s with relay.nonce := s.relay.nonce + 1 }).trans
    (.deliver (hkind _))

/-- Posting a batch asks for that, or for nothing. -/
theorem postBatch {batch : List Report} (hkind : ∀ nonce, kind (.batch batch nonce)) :
    Asks kind s (s.postBatch contact.recorded batch) := by
  rw [System.postBatch]
  split_ifs
  · exact .deliverNumbered hkind
  · exact .nothing rfl

/-- Publishing a batch asks for that, or for nothing. -/
theorem publishBatch {batch : List Report} (hkind : kind (.publish batch)) :
    Asks kind s (s.publishBatch contact.recorded batch) := by
  rw [System.publishBatch]
  split_ifs
  · exact .deliver hkind
  · exact .nothing rfl

/-- Relaying sends batches, and only where the relay sees the network up. -/
theorem relayPending (contact : Contact ω) (s : System (ω × List (Call × Bool))) :
    Asks (fun call ↦ call.sends = true ∧ s.relay.connected = true) s
      (s.relayPending contact.recorded) := by
  rw [System.relayPending]
  rcases s.table.drain gatewayCapacity with ⟨⟨count, batch⟩, table⟩
  have hdrained : Asks (fun call ↦ call.sends = true ∧ s.relay.connected = true) s
      { s with table } := .nothing rfl
  dsimp only
  split_ifs with hidle
  · exact hdrained
  · have hseen : s.relay.connected = true := by
      simp only [Bool.or_eq_true, Bool.not_eq_true', not_or, Bool.not_eq_false] at hidle
      exact hidle.2
    exact (hdrained.trans (.postBatch fun _ ↦ ⟨rfl, hseen⟩)).trans (.publishBatch ⟨rfl, hseen⟩)

/-- The network watchdog asks for a restart at most. -/
theorem onNetworkWatchdog (s : System (ω × List (Call × Bool))) :
    Asks (fun call ↦ call.ofRetransmit = false) s (s.onNetworkWatchdog contact.recorded) := by
  rw [onNetworkWatchdog_eq]
  split_ifs
  · exact .nothing rfl
  · exact .ask rfl
  · exact .nothing rfl

/-- Statistics are sent on their own signal. -/
theorem onStatistics (s : System (ω × List (Call × Bool))) :
    Asks (fun call ↦ call.ofRetransmit = false) s (s.onStatistics contact.recorded) := by
  rw [System.onStatistics]
  split_ifs
  · exact .deliver rfl
  · exact .nothing rfl

/-- **All acts but one** neither tell that the gateway is online nor send a batch. -/
theorem act (contact : Contact ω) {a : Act} (hother : a ≠ .handle .retransmit)
    (s : System (ω × List (Call × Bool))) :
    Asks (fun call ↦ call.ofRetransmit = false) s (s.act contact.recorded a) := by
  cases a with
  | start =>
    have hasked : Asks (fun call ↦ call.ofRetransmit = false) s
        (s.ask contact.recorded (.watchdog .register)).2 := .ask rfl
    exact hasked.trans (.nothing rfl)
  | finish =>
    have hasked : Asks (fun call ↦ call.ofRetransmit = false) s
        (s.ask contact.recorded (.watchdog .unregister)).2 := .ask rfl
    exact hasked.trans (.nothing rfl)
  | handle signal =>
    cases signal with
    | stop | disable | enable => exact .nothing rfl
    | retransmit => exact absurd rfl hother
    | networkWatchdog => exact .onNetworkWatchdog s
    | feedWatchdog => exact .ask rfl
    | sendStatistics => exact .onStatistics s

end Asks

/-- A look tells that the gateway is online, or asks nothing. -/
theorem exists_asked_updateConnection (contact : Contact ω)
    (s : System (ω × List (Call × Bool))) :
    ∃ nonce, (s.updateConnection contact.recorded).asked =
      s.asked ++ if s.announces then [.online nonce] else [] := by
  obtain ⟨quietSince, hasked, -⟩ := exists_deliver contact (.online (s.relay.nonce + 1))
    { s with relay.connected := true, relay.nonce := s.relay.nonce + 1 }
  refine ⟨s.relay.nonce + 1, ?_⟩
  rw [updateConnection, announces]
  cases s.relay.connected <;> cases s.net.isConnected <;> cases s.relay.config.http.enabled
  case false.true.true => exact hasked
  case false.true.false =>
    cases s.relay.config.mqtt.enabled <;> exact (List.append_nil _).symm
  all_goals exact (List.append_nil _).symm

end Recorded

/-! ### One act -/

/-- **To retransmit** is to tell that the gateway is online, if the network has come up, and then to
send batches, if it is up. -/
theorem exists_asks_retransmit (contact : Contact ω) {s : System ω}
    (hinUse : s.relay.connected = true → s.relay.config.relayingConfigured = true) :
    ∃ nonce sent, s.asks contact (.handle .retransmit) =
        (if s.announces then [.online nonce] else []) ++ sent ∧
      ∀ call ∈ sent, call.sends = true ∧ s.net.isConnected = true := by
  obtain ⟨nonce, htold⟩ := exists_asked_updateConnection contact s.recording
  have hbegun : s.recording.announces = s.announces := rfl
  have hempty : s.recording.asked = [] := rfl
  rw [hbegun, hempty, List.nil_append] at htold
  have hseen : (s.recording.updateConnection contact.recorded).relay.connected = true →
      s.net.isConnected = true := by
    intro hconnected
    have hsame := connected_updateConnection_eq contact.recorded (s := s.recording) hinUse
    exact (Bool.and_eq_true_iff.1 (hsame.symm.trans hconnected)).1
  have hrelayed : (s.recording.onRetransmit contact.recorded).asked =
    s.asks contact (.handle .retransmit) := rfl
  rw [← hrelayed, onRetransmit]
  -- the look comes first, so what is sent is sent over the network that it saw
  by_cases hallowed : (s.recording.updateConnection contact.recorded).relayingAllowed = true
  · obtain ⟨sent, hasked, hall⟩ := Asks.relayPending contact
      (s.recording.updateConnection contact.recorded)
    rw [htold] at hasked
    refine ⟨nonce, sent, (if_pos hallowed).symm ▸ hasked, fun call hmem ↦ ?_⟩
    exact ⟨(hall call hmem).1, hseen (hall call hmem).2⟩
  · refine ⟨nonce, [], ?_, List.forall_mem_nil _⟩
    rw [List.append_nil, ← htold]
    exact congrArg asked (if_neg hallowed)

/-- All acts but one leave what the relay knows of the network. -/
theorem connected_act {a : Act} (hother : a ≠ .handle .retransmit) (s : System ω) :
    (s.act contact a).relay.connected = s.relay.connected := by
  cases a with
  | start | finish => rfl
  | handle signal =>
    cases signal with
    | stop | disable | enable | feedWatchdog => rfl
    | retransmit => exact absurd rfl hother
    | networkWatchdog =>
      show (s.onNetworkWatchdog contact).relay.connected = _
      rw [onNetworkWatchdog_eq]
      split_ifs <;> rfl
    | sendStatistics =>
      show (s.onStatistics contact).relay.connected = _
      rw [onStatistics]
      split_ifs
      · exact connected_deliver _ s
      · rfl

/-- All acts but one ask nothing that has to do with retransmission. -/
theorem asks_aside (contact : Contact ω) {a : Act} (hother : a ≠ .handle .retransmit)
    (s : System ω) :
    ∀ call ∈ s.asks contact a, call.ofRetransmit = false := by
  obtain ⟨calls, hasked, hall⟩ := Asks.act contact hother s.recording
  rw [asks, hasked]
  exact hall

/-- The relay keeps the configuration that it was created with. -/
theorem config_act (s : System ω) (a : Act) :
    (s.act contact a).relay.config = s.relay.config := by
  cases a with
  | start | finish => rfl
  | handle signal => exact config_handle s signal

end System

/-! ### The diary -/

namespace Diary

/-- Whether an entry is about a look at the network. -/
def Entry.looks (e : Entry) : Bool :=
  e.act = .handle .retransmit

/-- Whether a link was up. -/
def Entry.linkUp (e : Entry) : Bool :=
  e.net.isSet NetworkStatus.wifi || e.net.isSet NetworkStatus.ethernet

/-- Whether a link was up at the latest look; before the first one there was none. -/
def sawUp (before : List Entry) : Bool :=
  (before.filter Entry.looks).getLast?.any Entry.linkUp

/-- An entry that is a look decides what was seen last, and any other leaves it. -/
theorem sawUp_concat (before : List Entry) (e : Entry) :
    sawUp (before ++ [e]) = if e.looks then e.linkUp else sawUp before := by
  rw [sawUp, List.filter_append]
  cases hlooks : e.looks <;> simp [hlooks, sawUp]

/-- **What the relay knows of the network** is what it saw at the latest look. -/
theorem connected_follow (contact : Contact ω) {s : System ω} (hunseen : s.relay.connected = false)
    (turns : List (Turn ω)) :
    (follow contact s turns).relay.config = s.relay.config ∧
      (follow contact s turns).relay.connected =
        (sawUp (entries contact s turns) && s.relay.config.relayingConfigured) := by
  -- from the end: the latest look is the last entry, or one before it
  induction turns using List.reverseRecOn with
  | nil => exact ⟨rfl, hunseen⟩
  | append_singleton turns t ih =>
    obtain ⟨hconfig, hconnected⟩ := ih
    rw [follow_append, entries_append]
    cases t with
    | meanwhile =>
      rw [entries, entries, List.append_nil]
      exact ⟨hconfig, hconnected⟩
    | act a =>
      refine ⟨(System.config_act _ a).trans hconfig, ?_⟩
      rw [entries, entries, sawUp_concat]
      show (System.act contact (follow contact s turns) a).relay.connected = _
      by_cases hlook : a = .handle .retransmit
      · subst hlook
        have hinUse : (follow contact s turns).relay.connected = true →
            (follow contact s turns).relay.config.relayingConfigured = true := by
          rw [hconfig, hconnected, Bool.and_eq_true]
          exact And.right
        have hseen := System.connected_onRetransmit contact hinUse
        rw [hconfig, NetworkStatus.isConnected_eq] at hseen
        exact hseen
      · rw [System.connected_act hlook, hconnected]
        simp [Entry.looks, entry, hlook]

/-- **The relay tells once for each connection that it is online.** It was created under any
configuration; its task begins, handles signals and ends in any order, and around this anything
happens. Of every act its diary says:

* at a look, that the relay sees the network up afterwards if a link is up and a transport is in
  use;
* at a look, that it first tells that the gateway is online, if the backend is in use, a link is up,
  and none was at the look before or there was no look before, and that all else it asks is to send
  batches;
* otherwise, that it asks neither of these;
* and where no link is up, that no batch is sent. -/
theorem tells_once_per_connection {c : Config} {gatewayFirmware scannerFirmware : ShortText}
    {uptime : UInt32} {s : System ω}
    (hcreated : Relay.create c gatewayFirmware scannerFirmware uptime = .ok s.relay)
    (contact : Contact ω) (turns : List (Turn ω)) :
    ∀ before e after, entries contact s turns = before ++ e :: after →
      (e.act = .handle .retransmit →
        e.connected = (e.linkUp && (c.http.enabled || c.mqtt.enabled)) ∧
        ∃ nonce sent, e.calls = (if c.http.enabled && e.linkUp && !sawUp before then
            [.online nonce] else []) ++ sent ∧ ∀ call ∈ sent, call.sends = true) ∧
      (e.act ≠ .handle .retransmit → ∀ call ∈ e.calls, call.ofRetransmit = false) ∧
      (e.linkUp = false → ∀ call ∈ e.calls, call.sends = false) := by
  intro before e after hsplit
  obtain ⟨timers, hrelay⟩ := exists_eq_of_create hcreated
  obtain ⟨earlier, a, -, -, rfl, rfl⟩ := exists_of_entries_eq hsplit
  have hconfigured : s.relay.config = c := by rw [hrelay]
  obtain ⟨hconfig, hconnected⟩ := connected_follow contact (s := s) (by rw [hrelay]) earlier
  rw [hconfigured] at hconfig hconnected
  generalize follow contact s earlier = s' at hconfig hconnected
  have hup : s'.net.isConnected = (entry contact s' a).linkUp := NetworkStatus.isConnected_eq _
  have hinUse : s'.relay.connected = true → s'.relay.config.relayingConfigured = true := by
    rw [hconfig, hconnected, Bool.and_eq_true]
    exact And.right
  -- the diary up to the entry says what the relay knew when it looked
  by_cases hlook : a = .handle .retransmit
  · subst hlook
    have hseen := System.connected_onRetransmit contact hinUse
    obtain ⟨nonce, sent, hcalls, hall⟩ := System.exists_asks_retransmit contact hinUse
    have hannounces : s'.announces = (c.http.enabled && s'.net.isConnected &&
        !sawUp (entries contact s earlier)) := by
      rw [System.announces, hconfig, hconnected, Config.relayingConfigured]
      cases c.http.enabled <;> simp
    rw [hannounces, hup] at hcalls
    rw [hconfig, hup] at hseen
    refine ⟨fun _ ↦ ⟨hseen, nonce, sent, hcalls, fun call hmem ↦ (hall call hmem).1⟩,
      absurd rfl, ?_⟩
    intro hdown call hmem
    have hmem : call ∈ s'.asks contact (.handle .retransmit) := hmem
    rw [hcalls, hdown, Bool.and_false, Bool.false_and, if_neg Bool.false_ne_true,
      List.nil_append] at hmem
    rw [hup, hdown] at hall
    exact absurd (hall call hmem).2 Bool.false_ne_true
  · have haside := System.asks_aside contact hlook s'
    refine ⟨fun hsame ↦ absurd hsame hlook, fun _ ↦ haside, fun _ call hmem ↦ ?_⟩
    exact Call.sends_eq_false (haside call hmem)

/-- Over a loss of the network, the last look of all finds it up again: the relay tells that the
gateway is online, as it did at the first look, and not at the look between them. -/
theorem tells_again_after_loss :
    ∃ relay, Relay.create .default .empty .empty 0 = .ok relay ∧
      ∃ before e, entries .idle ⟨relay, .new, .down, false, none, .new, 0⟩ loss = before ++ [e] ∧
        before.length = 4 ∧ e.act = .handle .retransmit ∧ e.connected = true ∧
          ∃ nonce sent, e.calls = [.online nonce] ++ sent ∧ ∀ call ∈ sent, call.sends = true := by
  have hcreated : Relay.create .default .empty .empty 0 = .ok _ := rfl
  have htold :=
    tells_once_per_connection (s := ⟨_, .new, .down, false, none, .new, 0⟩) hcreated .idle
    loss
  obtain ⟨hconnected, honline⟩ := (htold [_, _, _, _] _ [] rfl).1 rfl
  exact ⟨_, hcreated, [_, _, _, _], _, rfl, rfl, rfl, hconnected, honline⟩

end Diary

end Relay

end BeaconGateway
