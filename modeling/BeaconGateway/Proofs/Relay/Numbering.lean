import BeaconGateway.Proofs.Document.Records
import BeaconGateway.Proofs.Relay.Diary
import BeaconGateway.Proofs.Relay.Silence

/-!
# The numbers that the backend sees

The relay numbers what it posts to the backend: that the gateway is online, and each batch. The
backend tells from the numbers what it got twice and what it missed, so they must go up by one from
one question to the next, whatever becomes of the questions and whatever is asked in between. A
status report shows the number of the latest question, and does not take one itself.

All this is one law of the relay's questions in their order, `Relay.CountsUp`. Each handler obeys it
from the number that it found to the one that it leaves.

The law is an inductive one, along the questions: a question takes the next number, or takes none
and shows none but the one taken last. What follows from the other, that the numbers taken are one,
two, three, and that a status report shows the last of them, are consequences of the law alone and
do not mention the relay.

## Main results

* `Relay.CountsUp` — the law;
* `Relay.System.Numbers` — what obeys it, with one lemma for each handler;
* `Relay.Diary.numbers_eq_range` — the numbers of a relay since it was created.
-/

namespace BeaconGateway

/-- The number that the document of a status report shows. -/
def StatusReport.shownNonce? (document : Json) : Option UInt32 := do
  let members ← document.members?
  members.lookup "NONCE" >>= Json.word?

/-- A status report shows its number under its own name. -/
theorem StatusReport.shownNonce?_document (report : StatusReport) :
    shownNonce? report.document = some report.nonce := by
  simp [shownNonce?, document, Json.members?, List.lookup_cons, Json.word?_word]

namespace Relay

variable {ω : Type} {contact : Contact ω}

/-! ### Counting up -/

/-- The number of a question to the backend. -/
def Call.number? : Call → Option UInt32
  | .online nonce | .batch _ nonce => some nonce
  | .publish _ | .statistics _ | .restart _ | .watchdog _ => none

/-- The number that a question shows without taking it. -/
def Call.shown? : Call → Option UInt32
  | .statistics report => some report.nonce
  | .online _ | .batch _ _ | .publish _ | .restart _ | .watchdog _ => none

/-- **Questions that count up** from a number to another. -/
inductive CountsUp : UInt32 → List Call → UInt32 → Prop where
  /-- Nothing is asked. -/
  | nil (n : UInt32) : CountsUp n [] n
  /-- A question takes the next number. -/
  | next {n m : UInt32} {call : Call} {calls : List Call} :
    call.number? = some (n + 1) → CountsUp (n + 1) calls m → CountsUp n (call :: calls) m
  /-- A question takes no number, and shows no other than the one that is taken. -/
  | stay {n m : UInt32} {call : Call} {calls : List Call} :
    call.number? = none → (∀ shown ∈ call.shown?, shown = n) → CountsUp n calls m →
    CountsUp n (call :: calls) m

namespace CountsUp

variable {n m k : UInt32} {calls more : List Call}

/-- Counting up to a number and on from there. -/
theorem append (hfirst : CountsUp n calls m) (hsecond : CountsUp m more k) :
    CountsUp n (calls ++ more) k := by
  induction hfirst with
  | nil => exact hsecond
  | next hnumber _ ih => exact .next hnumber (ih hsecond)
  | stay hunnumbered hshows _ ih => exact .stay hunnumbered hshows (ih hsecond)

/-- The number reached is the last one taken. -/
theorem eq_getLastD (hup : CountsUp n calls m) : m = (calls.filterMap Call.number?).getLastD n := by
  induction hup with
  | nil => rfl
  | next hnumber _ ih => rw [List.filterMap_cons_some hnumber, List.getLastD_cons, ih]
  | stay hunnumbered _ _ ih => rw [List.filterMap_cons_none hunnumbered, ih]

/-- **The numbers taken** are the next ones in order. -/
theorem filterMap_number? (hup : CountsUp n calls m) :
    calls.filterMap Call.number? = (List.range (calls.filterMap Call.number?).length).map
      fun i ↦ n + UInt32.ofNat (i + 1) := by
  induction hup with
  | nil => rfl
  | stay hunnumbered _ _ ih => rw [List.filterMap_cons_none hunnumbered, ← ih]
  -- the first number is the next one, and the others count up from it
  | next hnumber _ ih =>
    rw [List.filterMap_cons_some hnumber, List.length_cons, List.range_succ_eq_map, List.map_cons,
      List.map_map]
    refine congrArg₂ List.cons rfl (ih.trans (List.map_congr_left fun i _ ↦ ?_))
    show _ + 1 + UInt32.ofNat (i + 1) = _ + UInt32.ofNat (i + 1 + 1)
    rw [UInt32.add_assoc, UInt32.add_comm 1, ← UInt32.ofNat_one, ← UInt32.ofNat_add]

/-- Counting up to a question, the number reached there is the last one taken before it. -/
theorem of_append (hup : CountsUp n (calls ++ more) k) :
    ∃ m, CountsUp n calls m ∧ CountsUp m more k := by
  induction calls generalizing n with
  | nil => exact ⟨n, .nil n, hup⟩
  | cons call calls ih =>
    cases hup with
    | next hnumber hup =>
      obtain ⟨m, hfirst, hsecond⟩ := ih hup
      exact ⟨m, .next hnumber hfirst, hsecond⟩
    | stay hunnumbered hshows hup =>
      obtain ⟨m, hfirst, hsecond⟩ := ih hup
      exact ⟨m, .stay hunnumbered hshows hfirst, hsecond⟩

/-- **A question shows the last number taken before it.** -/
theorem shown?_eq {earlier later : List Call} {call : Call} {shown : UInt32}
    (hup : CountsUp n (earlier ++ call :: later) k) (hshows : call.shown? = some shown) :
    shown = (earlier.filterMap Call.number?).getLastD n := by
  obtain ⟨m, hfirst, hsecond⟩ := hup.of_append
  rw [← hfirst.eq_getLastD]
  cases hsecond with
  | next hnumber _ =>
    cases call with
    | statistics => cases hnumber
    | online | batch | publish | restart | watchdog => cases hshows
  | stay _ hothers _ => exact hothers shown hshows

end CountsUp

/-! ### What counts up -/

namespace System

section Numbers

variable {s s' s'' : System (ω × List (Call × Bool))}

/-- **What asks questions that count up** from the relay's number to the one that it leaves. -/
def Numbers (s s' : System (ω × List (Call × Bool))) : Prop :=
  ∃ calls, s'.asked = s.asked ++ calls ∧ CountsUp s.relay.nonce calls s'.relay.nonce

namespace Numbers

/-- What asks nothing and leaves the number. -/
theorem keep (houtside : s'.outside = s.outside) (hnonce : s'.relay.nonce = s.relay.nonce) :
    Numbers s s' := by
  refine ⟨[], ?_, hnonce ▸ .nil _⟩
  rw [asked, houtside, List.append_nil, asked]

/-- To do nothing takes no number. -/
theorem refl (s : System (ω × List (Call × Bool))) : Numbers s s :=
  keep rfl rfl

/-- One step counts up to where the next begins. -/
theorem trans (hfirst : Numbers s s') (hsecond : Numbers s' s'') : Numbers s s'' := by
  obtain ⟨calls, hasked, hup⟩ := hfirst
  obtain ⟨more, hasked', hup'⟩ := hsecond
  exact ⟨calls ++ more, by rw [hasked', hasked, List.append_assoc], hup.append hup'⟩

/-- A question that neither takes nor shows a number may be asked at any time. -/
theorem ask {call : Call} (hunnumbered : call.number? = none) (hsilent : call.shown? = none)
    (s : System (ω × List (Call × Bool))) : Numbers s (s.ask contact.recorded call).2 :=
  ⟨[call], asked_ask call s, .stay hunnumbered (by simp [hsilent]) (.nil _)⟩

/-- A delivery without a number shows no other than the relay's. -/
theorem deliver {call : Call} (hunnumbered : call.number? = none)
    {s : System (ω × List (Call × Bool))} (hshows : ∀ shown ∈ call.shown?, shown = s.relay.nonce) :
    Numbers s (s.deliver contact.recorded call) := by
  obtain ⟨quietSince, hasked, hrelay⟩ := exists_deliver contact call s
  refine ⟨[call], hasked, ?_⟩
  rw [hrelay]
  exact .stay hunnumbered hshows (.nil _)

/-- **A numbered delivery** takes the next number, whether it succeeds or not. -/
theorem deliverNumbered {call : UInt32 → Call}
    (hnumbered : ∀ nonce, (call nonce).number? = some nonce) (s : System (ω × List (Call × Bool))) :
    Numbers s (s.deliverNumbered contact.recorded call) := by
  obtain ⟨quietSince, hasked, hrelay⟩ := exists_deliver contact (call (s.relay.nonce + 1))
    { s with relay.nonce := s.relay.nonce + 1 }
  refine ⟨[call (s.relay.nonce + 1)], hasked, ?_⟩
  rw [System.deliverNumbered, hrelay]
  exact .next (hnumbered _) (.nil _)

/-- A look at the network takes a number if it tells the backend, and otherwise none. -/
theorem updateConnection (s : System (ω × List (Call × Bool))) :
    Numbers s (s.updateConnection contact.recorded) := by
  rw [System.updateConnection]
  split_ifs
  · exact .refl s
  · exact .keep rfl rfl
  · exact .refl s
  · have hseen : Numbers s { s with relay.connected := true } := .keep rfl rfl
    exact hseen.trans (.deliverNumbered (fun _ ↦ rfl) _)
  · exact .keep rfl rfl
  · exact .refl s

/-- Posting a batch takes a number, if the backend is in use. -/
theorem postBatch (batch : List Report) (s : System (ω × List (Call × Bool))) :
    Numbers s (s.postBatch contact.recorded batch) := by
  rw [System.postBatch]
  split_ifs
  · exact .deliverNumbered (fun _ ↦ rfl) s
  · exact .refl s

/-- Publishing a batch takes none: the numbers are for the backend. -/
theorem publishBatch (batch : List Report) (s : System (ω × List (Call × Bool))) :
    Numbers s (s.publishBatch contact.recorded batch) := by
  rw [System.publishBatch]
  split_ifs
  · exact .deliver rfl (by simp [Call.shown?])
  · exact .refl s

/-- The batch that is relayed takes one number at most. -/
theorem relayPending (s : System (ω × List (Call × Bool))) :
    Numbers s (s.relayPending contact.recorded) := by
  rw [System.relayPending]
  rcases s.table.drain gatewayCapacity with ⟨⟨count, batch⟩, table⟩
  have hdrained : Numbers s { s with table } := .keep rfl rfl
  dsimp only
  split_ifs
  · exact hdrained
  · exact (hdrained.trans (.postBatch batch _)).trans (.publishBatch batch _)

/-- To retransmit takes two numbers at most: one to tell that the gateway is online, one for the
batch. -/
theorem onRetransmit (s : System (ω × List (Call × Bool))) :
    Numbers s (s.onRetransmit contact.recorded) := by
  rw [System.onRetransmit]
  split_ifs
  · exact (Numbers.updateConnection s).trans (.relayPending _)
  · exact .updateConnection s

/-- The watchdog asks for a restart without a number. -/
theorem onNetworkWatchdog (s : System (ω × List (Call × Bool))) :
    Numbers s (s.onNetworkWatchdog contact.recorded) := by
  rw [onNetworkWatchdog_eq]
  split_ifs
  · exact .keep rfl rfl
  · exact .ask rfl rfl s
  · exact .refl s

/-- A status report shows the relay's number. -/
theorem onStatistics (s : System (ω × List (Call × Bool))) :
    Numbers s (s.onStatistics contact.recorded) := by
  rw [System.onStatistics]
  split_ifs
  · exact .deliver rfl fun shown hsame ↦ (Option.some.inj hsame).symm
  · exact .refl s

/-- **Each signal** counts up. -/
theorem handle (s : System (ω × List (Call × Bool))) (signal : RelaySignal) :
    Numbers s (s.handle contact.recorded signal) := by
  cases signal with
  | stop | disable | enable => exact .keep rfl rfl
  | retransmit => exact .onRetransmit s
  | networkWatchdog => exact .onNetworkWatchdog s
  | feedWatchdog => exact .ask rfl rfl s
  | sendStatistics => exact .onStatistics s

end Numbers

end Numbers

/-- **What the relay asks in an act counts up.** -/
theorem countsUp_asks (contact : Contact ω) (s : System ω) (a : Act) :
    CountsUp s.relay.nonce (s.asks contact a) (s.act contact a).relay.nonce := by
  have hnumbers : Numbers s.recording (s.recording.act contact.recorded a) := by
    cases a with
    | start =>
      have hasked :
          Numbers s.recording (s.recording.ask contact.recorded (.watchdog .register)).2 :=
        .ask rfl rfl _
      exact hasked.trans (.keep rfl rfl)
    | handle signal => exact .handle _ signal
    | finish =>
      have hasked : Numbers s.recording
          (s.recording.ask contact.recorded (.watchdog .unregister)).2 := .ask rfl rfl _
      exact hasked.trans (.keep rfl rfl)
  obtain ⟨calls, hasked, hup⟩ := hnumbers
  rw [relay_recording_act] at hup
  rw [asks, hasked]
  exact hup

end System

/-! ### The numbers in a diary -/

namespace Diary

/-- **Over every course, the relay's questions count up.** -/
theorem countsUp_calls (contact : Contact ω) (s : System ω) (turns : List (Turn ω)) :
    CountsUp s.relay.nonce (calls contact s turns) (follow contact s turns).relay.nonce := by
  induction turns generalizing s with
  | nil => exact .nil _
  | cons t rest ih =>
    have hothers := ih (turn contact s t)
    cases t with
    | act a => exact (System.countsUp_asks contact s a).append hothers
    | meanwhile => exact hothers

/-- **The numbers of a relay since it was created**, under any configuration, with any answers and
whatever happens around it: those that its questions to the backend take are one, two, three and so
on, and come round with the word. The document of each status report is one JSON value, and the
number in it is that of the latest such question, or zero before the first. -/
theorem numbers_eq_range {c : Config} {gatewayFirmware scannerFirmware : ShortText}
    {uptime : UInt32} {s : System ω}
    (hcreated : Relay.create c gatewayFirmware scannerFirmware uptime = .ok s.relay)
    (contact : Contact ω) (turns : List (Turn ω)) :
    let asked := calls contact s turns
    let numbers := asked.filterMap Call.number?
    numbers = (List.range numbers.length).map (fun i ↦ UInt32.ofNat (i + 1)) ∧
      ∀ earlier report later, asked = earlier ++ .statistics report :: later →
        ∃ document, (∀ j, Json.Denotes report.document.render j ↔ j = document) ∧
          StatusReport.shownNonce? document =
            some ((earlier.filterMap Call.number?).getLastD 0) := by
  intro asked numbers
  have hup := countsUp_calls contact s turns
  have hzero : s.relay.nonce = 0 := by
    obtain ⟨timers, hrelay⟩ := exists_eq_of_create hcreated
    rw [hrelay]
  rw [hzero] at hup
  refine ⟨?_, fun earlier report later hsplit ↦ ?_⟩
  · simpa only [UInt32.zero_add] using hup.filterMap_number?
  · refine ⟨report.document, fun j ↦ Json.denotes_render_iff, ?_⟩
    have hup : CountsUp 0 asked (follow contact s turns).relay.nonce := hup
    rw [hsplit] at hup
    rw [StatusReport.shownNonce?_document, hup.shown?_eq rfl]

/-- Over a loss of the network and with a backend that hears nothing, the gateway says twice that it
is online, and shows the first number between. -/
theorem numbers_over_loss :
    ∃ relay, Relay.create .default .empty .empty 0 = .ok relay ∧
      ∃ asked, calls .idle ⟨relay, .new, .down, false, none, .new, 0⟩ loss = asked ∧
        asked.filterMap Call.number? = [1, 2] ∧
        ∃ report later, asked = [.watchdog .register, .online 1] ++ .statistics report :: later ∧
          ∃ document, (∀ j, Json.Denotes report.document.render j ↔ j = document) ∧
            StatusReport.shownNonce? document = some 1 := by
  refine ⟨_, rfl, _, rfl, ?_⟩
  obtain ⟨hrange, hshows⟩ := numbers_eq_range (c := .default)
    (s := ⟨_, .new, .down, false, none, .new, 0⟩) rfl .idle loss
  exact ⟨hrange, _, _, rfl, hshows [.watchdog .register, .online 1] _ _ rfl⟩

end Diary

end Relay

end BeaconGateway
