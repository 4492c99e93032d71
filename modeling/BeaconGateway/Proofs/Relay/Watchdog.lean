import BeaconGateway.Proofs.Relay.Recording
import Mathlib.Order.Bounds.Basic
import Mathlib.Tactic.SplitIfs
import Mathlib.Tactic.Tauto

/-!
# The network watchdog

The relay restarts the gateway after too long a silence. Since when it has been silent is one word,
written by every handler that delivers something and by the watchdog itself, and what the word holds
is the uptime of the latest of them, cut to thirty-two bits. So the silence that the watchdog sees
is the true one, as long as that is shorter than the clock takes to come round.

Which times count is said beside the relay: the beginning of the task, each delivery that succeeds,
and each look of the watchdog while no delivery is expected or history was served. A delivery that
fails counts for nothing, and neither does a batch that is taken off the table and goes nowhere.

## Main results

* `Contact.Shows` — a clock that never comes round, of which the relay sees a part;
* `Relay.Watch` — the relay at work, with the times that count;
* `Relay.System.Counts` — the relay counts from the latest of these, with one lemma for each
  handler;
* `Relay.Watch.asked_networkWatchdog` — when the watchdog restarts the gateway.
-/

namespace BeaconGateway.Relay

variable {ω : Type} {contact : Contact ω} {clock : ω → Nat}

/-! ### The clock -/

/-- **A clock that never comes round** and never turns back, of which the relay sees the last
thirty-two bits. -/
structure Contact.Shows (contact : Contact ω) (clock : ω → Nat) : Prop where
  /-- The relay sees the last bits. -/
  uptime : ∀ o, contact.uptime o = UInt32.ofNat (clock o)
  /-- A question takes time. -/
  ask : ∀ call o, clock o ≤ clock (contact.ask call o).2

/-- The time between two moments, as far as thirty-two bits tell. -/
theorem toNat_sub_ofNat {earlier now : Nat} (hle : earlier ≤ now) :
    (UInt32.ofNat now - UInt32.ofNat earlier).toNat = (now - earlier) % UInt32.size := by
  rw [← UInt32.ofNat_sub hle, UInt32.toNat_ofNat']

/-- **The silence is overdue** if its true length is, unless the clock has come round. -/
theorem System.overdue_iff {earlier now : Nat} (hle : earlier ≤ now)
    (hsoon : now - earlier < UInt32.size) (timeout : UInt32) :
    System.overdue (UInt32.ofNat now) (UInt32.ofNat earlier) timeout = true ↔
      timeout.toNat * 1000 < now - earlier := by
  rw [System.overdue, toNat_sub_ofNat hle, Nat.mod_eq_of_lt hsoon, decide_eq_true_iff]

/-- An outside that does nothing and shows the time that it is. -/
def Contact.idle : Contact Nat where
  ask := fun _ time ↦ (false, time)
  uptime := UInt32.ofNat

/-- Its clock is the outside itself. -/
theorem Contact.idle_shows : Contact.idle.Shows fun time ↦ time :=
  ⟨fun _ ↦ rfl, fun _ _ ↦ Nat.le_refl _⟩

/-! ### The times of deliveries -/

/-- Whether a question is a delivery. -/
def Call.delivers : Call → Bool
  | .online _ | .batch _ _ | .publish _ | .statistics _ => true
  | .restart _ | .watchdog _ => false

/-- A question, its answer, and the time of the answer. -/
structure Answered where
  /-- The question. -/
  call : Call
  /-- Whether it was done. -/
  done : Bool
  /-- When it was answered. -/
  time : Nat

/-- The times of the deliveries that succeeded. -/
def deliveries (record : List Answered) : List Nat :=
  (record.filter fun entry ↦ entry.call.delivers && entry.done).map Answered.time

/-- The same answers, with a record of when they came beside the outside. -/
def Contact.timed (contact : Contact ω) (clock : ω → Nat) : Contact (ω × List Answered) where
  ask := fun call (outside, record) ↦
    let (done, outside) := contact.ask call outside
    (done, outside, record ++ [⟨call, done, clock outside⟩])
  uptime := fun (outside, _) ↦ contact.uptime outside

/-- The times are noted beside the outside, so a record of them changes no answer. -/
theorem Contact.timed_liesOver (contact : Contact ω) (clock : ω → Nat) :
    (contact.timed clock).LiesOver contact Prod.fst :=
  ⟨fun _ _ ↦ rfl, fun _ ↦ rfl⟩

/-- Deliveries of one stretch and then of another. -/
theorem deliveries_append (record more : List Answered) :
    deliveries (record ++ more) = deliveries record ++ deliveries more := by
  rw [deliveries, List.filter_append, List.map_append]
  rfl

namespace System

/-! ### What the watchdog does -/

/-- Whether no delivery is expected now, or history was served. -/
def excused (s : System ω) : Bool :=
  s.historyServed || s.relay.config.relay.watchdogTimeout = 0 || !s.relayingAllowed

/-- A silence is not excused if the watchdog is in use, relaying is allowed, and no history was
served. -/
theorem excused_eq_false_iff (s : System ω) :
    s.excused = false ↔ s.relay.config.relay.watchdogTimeout ≠ 0 ∧ s.relayingAllowed = true ∧
      s.historyServed = false := by
  simp [excused, and_comm, and_left_comm, and_assoc]

/-- **The watchdog** begins to count anew where the silence is excused, and otherwise restarts the
gateway if it is overdue. -/
theorem onNetworkWatchdog_eq (contact : Contact ω) (s : System ω) :
    s.onNetworkWatchdog contact =
      if s.excused then { s with historyServed := false }.noteDelivery contact
      else if overdue (contact.uptime s.outside) s.relay.quietSince
          s.relay.config.relay.watchdogTimeout then
        (s.ask contact (.restart .networkWatchdog)).2
      else s := by
  have hnever (now timeout : UInt32) : overdue now now timeout = false := by
    simp [overdue]
  rw [onNetworkWatchdog, noteHistoryServed, excused]
  cases hserved : s.historyServed with
  | true =>
    -- the silence is counted anew before it is looked at, so that it is not overdue
    have hexpected : ({ s with historyServed := false }.noteDelivery contact).relayingAllowed =
        s.relayingAllowed := rfl
    rw [if_pos rfl, Bool.true_or, Bool.true_or, if_pos rfl, hexpected]
    split_ifs with hidle hlate
    · rfl
    · exact absurd (hnever _ _ ▸ hlate) Bool.false_ne_true
    · rfl
  | false =>
    have hsame : ({ s with historyServed := false } : System ω) = s := by rw [← hserved]
    rw [if_neg Bool.false_ne_true, Bool.false_or, hsame]

/-- The time of a look of the watchdog that is excused. -/
def excuses (clock : ω → Nat) (s : System ω) (signal : RelaySignal) : List Nat :=
  if signal = .networkWatchdog ∧ s.excused = true then [clock s.outside] else []

/-! ### Since when the relay counts -/

section Counts

variable {s : System (ω × List Answered)} {counted : List Nat}

/-- The latest of several times, and now. -/
theorem isGreatest_now {times later : List Nat} {latest now : Nat}
    (hgreatest : IsGreatest {time | time ∈ times} latest) (hle : latest ≤ now) (hmem : now ∈ later)
    (hothers : ∀ time ∈ later, time = now ∨ time ∈ times) :
    IsGreatest {time | time ∈ later} now := by
  refine ⟨hmem, fun time hof_later ↦ ?_⟩
  obtain rfl | hearlier := hothers time hof_later
  · exact Nat.le_refl _
  · exact Nat.le_trans (hgreatest.2 hearlier) hle

/-- A question adds the time of its answer, if it is a delivery and succeeded. -/
theorem deliveries_ask (call : Call) (s : System (ω × List Answered)) :
    deliveries (s.ask (contact.timed clock) call).2.outside.2 = deliveries s.outside.2 ++
      bif call.delivers && (s.ask (contact.timed clock) call).1 then
        [clock (s.ask (contact.timed clock) call).2.outside.1] else [] := by
  refine (deliveries_append _ _).trans (congrArg (deliveries s.outside.2 ++ ·) ?_)
  show deliveries [⟨call, (s.ask (contact.timed clock) call).1, _⟩] = _
  rw [deliveries, List.filter_cons]
  cases call.delivers && (s.ask (contact.timed clock) call).1 <;> rfl

/-- **The relay counts its silence from the latest time that counts**: of those given, and of the
deliveries on record. -/
def Counts (clock : ω → Nat) (counted : List Nat) (s : System (ω × List Answered)) : Prop :=
  ∃ latest, IsGreatest {time | time ∈ counted ++ deliveries s.outside.2} latest ∧
    latest ≤ clock s.outside.1 ∧ s.relay.quietSince = UInt32.ofNat latest

namespace Counts

/-- What asks nothing and notes nothing. -/
theorem keep (hcounts : Counts clock counted s) {s' : System (ω × List Answered)}
    (houtside : s'.outside = s.outside) (hsince : s'.relay.quietSince = s.relay.quietSince) :
    Counts clock counted s' := by
  rw [Counts, houtside, hsince]
  exact hcounts

/-- A question that delivers nothing. -/
theorem ask (hcounts : Counts clock counted s) (hshows : contact.Shows clock) {call : Call}
    (hnothing : (call.delivers && (s.ask (contact.timed clock) call).1) = false) :
    Counts clock counted (s.ask (contact.timed clock) call).2 := by
  obtain ⟨latest, hgreatest, hle, hsince⟩ := hcounts
  refine ⟨latest, ?_, Nat.le_trans hle (hshows.ask call _), hsince⟩
  rw [deliveries_ask, hnothing, cond_false, List.append_nil]
  exact hgreatest

/-- **A delivery counts if it succeeds**, and then it is the latest. -/
theorem deliver (hcounts : Counts clock counted s) (hshows : contact.Shows clock) {call : Call}
    (hdelivery : call.delivers = true) :
    Counts clock counted (s.deliver (contact.timed clock) call) := by
  have hlater : clock s.outside.1 ≤ clock (s.ask (contact.timed clock) call).2.outside.1 :=
    hshows.ask call _
  have htimes : deliveries (s.ask (contact.timed clock) call).2.outside.2 = _ :=
    deliveries_ask call s
  have hfailed (hundone : (call.delivers && (s.ask (contact.timed clock) call).1) = false) :
      Counts clock counted (s.ask (contact.timed clock) call).2 := hcounts.ask hshows hundone
  rw [hdelivery, Bool.true_and] at htimes hfailed
  rw [System.deliver]
  -- all that matters of the question is when it was answered and what that left on record
  generalize s.ask (contact.timed clock) call = answer at hlater htimes hfailed ⊢
  obtain ⟨done, s'⟩ := answer
  cases done with
  | false => exact hfailed rfl
  | true =>
    obtain ⟨latest, hgreatest, hle, -⟩ := hcounts
    refine ⟨clock s'.outside.1, ?_, Nat.le_refl _, hshows.uptime _⟩
    show IsGreatest {time | time ∈ counted ++ deliveries s'.outside.2} _
    rw [htimes]
    refine isGreatest_now hgreatest (Nat.le_trans hle hlater) (by simp) fun time hmem ↦ ?_
    simp only [cond_true, List.mem_append, List.mem_singleton] at hmem ⊢
    tauto

/-- Now is noted. -/
theorem noteDelivery (hcounts : Counts clock counted s) (hshows : contact.Shows clock) :
    Counts clock (counted ++ [clock s.outside.1]) (s.noteDelivery (contact.timed clock)) := by
  obtain ⟨latest, hgreatest, hle, -⟩ := hcounts
  refine ⟨clock s.outside.1, ?_, Nat.le_refl _, hshows.uptime _⟩
  show IsGreatest {time | time ∈ counted ++ [clock s.outside.1] ++ deliveries s.outside.2} _
  refine isGreatest_now hgreatest hle (by simp) fun time hmem ↦ ?_
  simp only [List.mem_append, List.mem_singleton] at hmem ⊢
  tauto

/-- The number of a delivery is no time. -/
theorem deliverNumbered (hcounts : Counts clock counted s) (hshows : contact.Shows clock)
    {call : UInt32 → Call} (hdelivery : ∀ nonce, (call nonce).delivers = true) :
    Counts clock counted (s.deliverNumbered (contact.timed clock) call) :=
  (hcounts.keep rfl rfl : Counts clock counted { s with relay.nonce := s.relay.nonce + 1 }).deliver
    hshows (hdelivery _)

/-- A look at the network counts if it tells the backend and the backend answers. -/
theorem updateConnection (hcounts : Counts clock counted s) (hshows : contact.Shows clock) :
    Counts clock counted (s.updateConnection (contact.timed clock)) := by
  rw [System.updateConnection]
  split_ifs
  · exact hcounts
  · exact hcounts.keep rfl rfl
  · exact hcounts
  · have hseen : Counts clock counted { s with relay.connected := true } := hcounts.keep rfl rfl
    exact hseen.deliverNumbered hshows fun _ ↦ rfl
  · exact hcounts.keep rfl rfl
  · exact hcounts

theorem postBatch (hcounts : Counts clock counted s) (hshows : contact.Shows clock)
    (batch : List Report) : Counts clock counted (s.postBatch (contact.timed clock) batch) := by
  rw [System.postBatch]
  split_ifs
  · exact hcounts.deliverNumbered hshows fun _ ↦ rfl
  · exact hcounts

theorem publishBatch (hcounts : Counts clock counted s) (hshows : contact.Shows clock)
    (batch : List Report) : Counts clock counted (s.publishBatch (contact.timed clock) batch) := by
  rw [System.publishBatch]
  split_ifs
  · exact hcounts.deliver hshows rfl
  · exact hcounts

/-- A batch that is taken off the table counts only if it is delivered. -/
theorem relayPending (hcounts : Counts clock counted s) (hshows : contact.Shows clock) :
    Counts clock counted (s.relayPending (contact.timed clock)) := by
  rw [System.relayPending]
  rcases s.table.drain gatewayCapacity with ⟨⟨count, batch⟩, table⟩
  have hdrained : Counts clock counted { s with table } := hcounts.keep rfl rfl
  dsimp only
  split_ifs
  · exact hdrained
  · exact (hdrained.postBatch hshows batch).publishBatch hshows batch

theorem onRetransmit (hcounts : Counts clock counted s) (hshows : contact.Shows clock) :
    Counts clock counted (s.onRetransmit (contact.timed clock)) := by
  have hlooked := hcounts.updateConnection hshows
  rw [System.onRetransmit]
  split_ifs
  · exact hlooked.relayPending hshows
  · exact hlooked

theorem onStatistics (hcounts : Counts clock counted s) (hshows : contact.Shows clock) :
    Counts clock counted (s.onStatistics (contact.timed clock)) := by
  rw [System.onStatistics]
  split_ifs
  · exact hcounts.deliver hshows rfl
  · exact hcounts

/-- The watchdog's own look counts where the silence is excused: it is the latest then. -/
theorem onNetworkWatchdog (hcounts : Counts clock counted s) (hshows : contact.Shows clock) :
    Counts clock (counted ++ s.excuses (fun o ↦ clock o.1) .networkWatchdog)
      (s.onNetworkWatchdog (contact.timed clock)) := by
  rw [onNetworkWatchdog_eq, excuses]
  cases s.excused with
  | true =>
    have hunserved : Counts clock counted { s with historyServed := false } := hcounts.keep rfl rfl
    exact hunserved.noteDelivery hshows
  | false =>
    rw [if_neg (by simp), if_neg Bool.false_ne_true, List.append_nil]
    split_ifs
    · exact hcounts.ask hshows rfl
    · exact hcounts

/-- **Whatever the relay handles**, it counts from the latest time. -/
theorem handle (hcounts : Counts clock counted s) (hshows : contact.Shows clock)
    (signal : RelaySignal) :
    Counts clock (counted ++ s.excuses (fun o ↦ clock o.1) signal)
      (s.handle (contact.timed clock) signal) := by
  by_cases hlooks : signal = .networkWatchdog
  · subst hlooks
    exact hcounts.onNetworkWatchdog hshows
  · rw [excuses, if_neg fun hboth ↦ hlooks hboth.1, List.append_nil]
    cases signal with
    | stop | disable | enable => exact hcounts.keep rfl rfl
    | retransmit => exact hcounts.onRetransmit hshows
    | networkWatchdog => exact absurd rfl hlooks
    | feedWatchdog => exact hcounts.ask hshows rfl
    | sendStatistics => exact hcounts.onStatistics hshows

end Counts

end Counts

/-! ### One signal on record -/

/-- The relay with an empty record beside its outside. -/
def timing (s : System ω) : System (ω × List Answered) :=
  { s with outside := (s.outside, []) }

/-- What the relay asks while it handles a signal, and what it is answered when. -/
def answers (contact : Contact ω) (clock : ω → Nat) (s : System ω) (signal : RelaySignal) :
    List Answered :=
  (s.timing.handle (contact.timed clock) signal).outside.2

/-- **The record is that of the relay's own run.** -/
theorem timing_handle (contact : Contact ω) (clock : ω → Nat) (s : System ω)
    (signal : RelaySignal) :
    (s.timing.handle (contact.timed clock) signal).map Prod.fst = s.handle contact signal :=
  map_handle (contact.timed_liesOver clock) s.timing signal

/-- What the watchdog asks. -/
theorem answers_networkWatchdog (s : System ω) :
    (s.answers contact clock .networkWatchdog).map Answered.call =
      if s.excused = false ∧ overdue (contact.uptime s.outside) s.relay.quietSince
          s.relay.config.relay.watchdogTimeout = true then [.restart .networkWatchdog]
      else [] := by
  -- the record is beside the outside, so the watchdog looks at the same relay and clock
  have hseen : s.timing.onNetworkWatchdog (contact.timed clock) =
      if s.excused then { s.timing with historyServed := false }.noteDelivery (contact.timed clock)
      else if overdue (contact.uptime s.outside) s.relay.quietSince
          s.relay.config.relay.watchdogTimeout then
        (s.timing.ask (contact.timed clock) (.restart .networkWatchdog)).2
      else s.timing := onNetworkWatchdog_eq _ _
  rw [answers, handle, hseen]
  cases s.excused with
  | true => rfl
  | false =>
    cases overdue (contact.uptime s.outside) s.relay.quietSince
      s.relay.config.relay.watchdogTimeout <;> rfl

end System

/-! ### The relay at work -/

/-- The relay at work, with what it asked and the times that count. -/
structure Watch (ω : Type) where
  /-- The relay with all that it touches. -/
  system : System ω
  /-- What it asked on behalf of signals, and what it was answered when. -/
  answered : List Answered
  /-- The times that count: those at which the task began, at which something was delivered, and
  at which the watchdog looked and the silence was excused. -/
  counted : List Nat

namespace Watch

/-- What can happen to the relay. -/
inductive Turn (clock : ω → Nat) where
  /-- Its task begins. -/
  | start
  /-- It handles a signal. -/
  | handle (signal : RelaySignal)
  /-- Meanwhile all that it touches has become this, and time has passed. -/
  | meanwhile (table : ReportTable gatewayCapacity) (net : NetworkStatus) (historyServed : Bool)
    (scanner : Option Address) (mailbox : Mailbox RelaySignal) (pass : ω → ω)
    (later : ∀ o, clock o ≤ clock (pass o))

/-- The signals of a wake-up, one after another. -/
def Turn.wake (signals : SignalSet RelaySignal) : List (Turn clock) :=
  signals.toList.map .handle

/-- A relay that was created just now. -/
def create (clock : ω → Nat) (s : System ω) : Watch ω where
  system := s
  answered := []
  counted := [clock s.outside]

/-- One turn. -/
def turn (contact : Contact ω) (w : Watch ω) : Turn clock → Watch ω
  | .start =>
    { w with
      system := w.system.start contact
      counted := w.counted ++ [clock (w.system.start contact).outside] }
  | .handle signal =>
    { system := w.system.handle contact signal
      answered := w.answered ++ w.system.answers contact clock signal
      counted := w.counted ++ w.system.excuses clock signal ++
        deliveries (w.system.answers contact clock signal) }
  | .meanwhile table net historyServed scanner mailbox pass _ =>
    { w with
      system :=
        { w.system with
          table, net, historyServed, scanner, mailbox
          outside := pass w.system.outside } }

/-- Turns in order. -/
def follow (contact : Contact ω) (w : Watch ω) (turns : List (Turn clock)) : Watch ω :=
  turns.foldl (turn contact) w

/-- The turns of a wake-up are the wake-up. -/
theorem system_follow_wake (contact : Contact ω) (clock : ω → Nat) (w : Watch ω)
    (signals : SignalSet RelaySignal) :
    (w.follow contact (Turn.wake signals : List (Turn clock))).system =
      w.system.handleAll contact signals := by
  rw [follow, Turn.wake, System.handleAll]
  induction signals.toList generalizing w with
  | nil => rfl
  | cons signal rest ih => exact ih _

/-- **The relay counts from the latest time that counts.** -/
def Counts (clock : ω → Nat) (w : Watch ω) : Prop :=
  ∃ latest, IsGreatest {time | time ∈ w.counted} latest ∧ latest ≤ clock w.system.outside ∧
    w.system.relay.quietSince = UInt32.ofNat latest

variable {w : Watch ω}

/-- A relay counts from when it was created. -/
theorem counts_create (hshows : contact.Shows clock) {s : System ω}
    (hcreated : s.relay.quietSince = contact.uptime s.outside) : Counts clock (create clock s) := by
  refine ⟨clock s.outside, ⟨List.mem_singleton_self _, fun time hmem ↦ ?_⟩, Nat.le_refl _,
    hcreated.trans (hshows.uptime _)⟩
  exact Nat.le_of_eq (List.mem_singleton.1 hmem)

/-- **One turn** keeps the relay counting from the latest time. -/
theorem Counts.turn (hcounts : Counts clock w) (hshows : contact.Shows clock) (t : Turn clock) :
    Counts clock (w.turn contact t) := by
  obtain ⟨latest, hgreatest, hle, hsince⟩ := hcounts
  cases t with
  | start =>
    have hlater : latest ≤ clock (w.system.start contact).outside :=
      Nat.le_trans hle (hshows.ask (.watchdog .register) _)
    refine ⟨_, ?_, Nat.le_refl _, hshows.uptime _⟩
    refine System.isGreatest_now hgreatest hlater ?_ fun time hmem ↦ ?_
    · exact List.mem_append_right _ (List.mem_singleton_self _)
    · exact (List.mem_append.1 hmem).symm.imp_left List.mem_singleton.1
  | handle signal =>
    -- the record of one signal begins empty, beside the times that counted up to then
    have htimed : System.Counts clock w.counted w.system.timing := by
      rw [System.Counts]
      exact ⟨latest, by simpa [System.timing, deliveries] using hgreatest, hle, hsince⟩
    obtain ⟨latest, hgreatest, hle, hsince⟩ := htimed.handle hshows signal
    have hsame : (w.turn contact (.handle signal : Turn clock)).system =
        (w.system.timing.handle (contact.timed clock) signal).map Prod.fst :=
      (System.timing_handle contact clock w.system signal).symm
    refine ⟨latest, hgreatest, ?_, ?_⟩
    · rw [hsame]
      exact hle
    · rw [hsame]
      exact hsince
  | meanwhile table net historyServed scanner mailbox pass hlater =>
    exact ⟨latest, hgreatest, Nat.le_trans hle (hlater _), hsince⟩

/-- **A course of turns** keeps the relay counting from the latest time. -/
theorem Counts.follow (hcounts : Counts clock w) (hshows : contact.Shows clock)
    (turns : List (Turn clock)) : Counts clock (w.follow contact turns) := by
  induction turns generalizing w with
  | nil => exact hcounts
  | cons t rest ih => exact ih (hcounts.turn hshows t)

/-- What the watchdog asks, if less time has gone by since the latest of the times that count than
the relay's clock takes to come round. -/
theorem Counts.answered_networkWatchdog (hcounts : Counts clock w) (hshows : contact.Shows clock)
    {latest : Nat} (hgreatest : IsGreatest {time | time ∈ w.counted} latest)
    (hsoon : clock w.system.outside - latest < UInt32.size) :
    let timeout := w.system.relay.config.relay.watchdogTimeout
    (w.turn contact (.handle .networkWatchdog : Turn clock)).answered.map Answered.call =
      w.answered.map Answered.call ++
        if timeout ≠ 0 ∧ w.system.relayingAllowed = true ∧ w.system.historyServed = false ∧
          timeout.toNat * 1000 < clock w.system.outside - latest then [.restart .networkWatchdog]
        else [] := by
  intro timeout
  obtain ⟨since, hgreatest', hle, hcounts⟩ := hcounts
  obtain rfl : since = latest := hgreatest'.unique hgreatest
  refine List.map_append.trans (congrArg (w.answered.map Answered.call ++ ·) ?_)
  rw [System.answers_networkWatchdog]
  refine if_congr ?_ rfl rfl
  rw [hshows.uptime, hcounts, System.overdue_iff hle hsoon, System.excused_eq_false_iff, and_assoc,
    and_assoc]

/-- **When the watchdog restarts the gateway.** In every course of signals and of whatever happens
around them, let the watchdog look while less time has gone by since the latest of the times that
count than the relay's clock takes to come round. Then it asks for one restart, or nothing: a
restart if the watchdog is in use, relaying is allowed, no history was served, and that time is
longer than the timeout. -/
theorem asked_networkWatchdog (hshows : contact.Shows clock) {s : System ω}
    (hcreated : s.relay.quietSince = contact.uptime s.outside) (turns : List (Turn clock))
    {latest : Nat} :
    let w := (create clock s).follow contact turns
    let silence := clock w.system.outside - latest
    let timeout := w.system.relay.config.relay.watchdogTimeout
    IsGreatest {time | time ∈ w.counted} latest → silence < UInt32.size →
      (w.turn contact (.handle .networkWatchdog : Turn clock)).answered.map Answered.call =
        w.answered.map Answered.call ++
          if timeout ≠ 0 ∧ w.system.relayingAllowed = true ∧ w.system.historyServed = false ∧
            timeout.toNat * 1000 < silence then [.restart .networkWatchdog] else [] := by
  intro w silence timeout hgreatest hsoon
  have hcounts : Counts clock w := (counts_create hshows hcreated).follow hshows turns
  exact hcounts.answered_networkWatchdog hshows hgreatest hsoon

/-- A relay with the default configuration is created shortly before its clock comes round, and
hears of nothing for an hour and a millisecond. -/
theorem asked_after_hour :
    ∃ relay, Relay.create .default .empty .empty (UInt32.ofNat 4294967000) = .ok relay ∧
      let s : System Nat := ⟨relay, .new, .down, false, none, .new, 4294967000⟩
      let turns : List (Turn fun time : Nat ↦ time) :=
        [.meanwhile .new .down false none .new (· + 3600001) fun _ ↦ Nat.le_add_right _ _,
          .handle .networkWatchdog]
      ((create (fun time ↦ time) s).follow .idle turns).answered.map Answered.call =
        [.restart .networkWatchdog] := by
  refine ⟨_, rfl, ?_⟩
  intro s turns
  have hlatest : IsGreatest {time | time ∈ ((create (fun time ↦ time) s).follow .idle
      (turns.take 1)).counted} 4294967000 :=
    ⟨List.mem_singleton_self _, fun time hmem ↦ Nat.le_of_eq (List.mem_singleton.1 hmem)⟩
  have hasked := asked_networkWatchdog Contact.idle_shows rfl (turns.take 1) hlatest (by decide)
  rw [if_pos (by decide)] at hasked
  exact hasked

end Watch

end BeaconGateway.Relay
