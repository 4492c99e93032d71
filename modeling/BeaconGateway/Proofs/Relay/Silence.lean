import BeaconGateway.Config.Validation
import BeaconGateway.Proofs.Relay.Handling
import BeaconGateway.Proofs.Relay.Watchdog
import Mathlib.Data.List.Range

/-!
# Which settings of the network watchdog work

A silence is noticed when the watchdog looks, which is not at the end of the timeout but later, by
no more than the time between two looks. Up to then the clock must not have come round, for what the
watchdog sees would begin again at nothing. So the settings work if the timeout and the time between
two looks are together shorter than the clock takes to come round, and only then: otherwise the
watchdog may look at the last moment before the timeout is over and again after the clock has come
round, and the gateway stays silent.

No rule of validity asks for this. A timeout of fifty days, which the clock cannot show, is as valid
as any other, and turns the watchdog off without a word (`silence_of_fifty_days`).

In one direction the looks are followed up to the first after the timeout, which comes before the
clock is round. In the other a course is built in which it does not: the relay rests, the looks come
as late as the settings allow, and each finds the clock where it shows too little (`Fresh.silence`).

## Main results

* `Relay.Watch.Silence` — the relay has been silent for too long, and the watchdog is about to look;
* `Relay.Watch.endsSilence_iff` — which settings let it restart the gateway.
-/

namespace BeaconGateway

/-! ### Valid configurations -/

/-- The periods of a valid configuration take time. -/
theorem Config.IsValid.periods_pos {c : Config} (hvalid : c.IsValid) :
    0 < c.relay.retransmitPeriod.toNat ∧ 0 < c.relay.watchdogCheck.toNat ∧
      0 < c.relay.feedPeriod.toNat ∧ 0 < c.relay.statisticsPeriod.toNat := by
  rw [Config.isValid_iff] at hvalid
  simp only [Config.rules, List.forall_mem_cons, Bool.or_eq_false_iff, beq_eq_false_iff_ne,
    decide_eq_false_iff_not, UInt32.not_lt] at hvalid
  obtain ⟨-, -, -, -, ⟨hretransmit, -⟩, ⟨hcheck, hfeed⟩, hstatistics, -⟩ := hvalid
  have hpositive {period : UInt32} (htaken : period ≠ 0) : 0 < period.toNat :=
    UInt32.lt_iff_toNat_lt.1 (UInt32.pos_iff_ne_zero.2 htaken)
  exact ⟨Nat.lt_of_lt_of_le (by decide) (UInt32.le_iff_toNat_le.1 hretransmit), hpositive hcheck,
    hpositive hfeed, hpositive hstatistics⟩

/-- A valid configuration has a relay. -/
theorem Config.IsValid.exists_create {c : Config} (hvalid : c.IsValid)
    (gatewayFirmware scannerFirmware : ShortText) (uptime : UInt32) :
    ∃ relay, Relay.create c gatewayFirmware scannerFirmware uptime = .ok relay := by
  obtain ⟨hretransmit, hcheck, hfeed, hstatistics⟩ := hvalid.periods_pos
  have hseconds : 0 < c.relay.statisticsPeriod.toNat * 1000 := Nat.mul_pos hstatistics (by decide)
  simp only [Relay.create, Relay.Timers.create, Timer.create, dif_pos hretransmit, dif_pos hcheck,
    dif_pos hfeed, dif_pos hseconds, bind, Except.bind, pure, Except.pure]
  exact ⟨_, rfl⟩

namespace Relay

variable {ω : Type} {contact : Contact ω} {clock : ω → Nat}

/-- **A relay that was created** has numbered nothing and seen no network. -/
theorem exists_eq_of_create {c : Config} {gatewayFirmware scannerFirmware : ShortText}
    {uptime : UInt32} {relay : BeaconGateway.Relay}
    (hcreated : Relay.create c gatewayFirmware scannerFirmware uptime = .ok relay) :
    ∃ timers, relay =
      { config := c, gatewayFirmware, scannerFirmware, timers
        connected := false, enabled := true, stopRequested := false
        nonce := 0, quietSince := uptime } := by
  rcases htimed : Relay.Timers.create c.relay with _ | timers
  · simp [Relay.create, htimed, bind, Except.bind] at hcreated
  · simp only [Relay.create, htimed, bind, Except.bind, pure, Except.pure, Except.ok.injEq]
      at hcreated
    exact ⟨timers, hcreated.symm⟩

namespace System

/-- No signal changes the configuration that the relay was created with. -/
theorem config_handle (s : System ω) (signal : RelaySignal) :
    (s.handle contact signal).relay.config = s.relay.config := by
  cases signal with
  | disable | enable => rfl
  | stop | retransmit | networkWatchdog | feedWatchdog | sendStatistics =>
    exact (handle_keeps s (by simp) (by simp)).config

end System

namespace Watch

variable {w : Watch ω}

/-! ### Silences -/

/-- The time of a turn in which the watchdog looks. -/
def look (w : Watch ω) : Turn clock → List Nat
  | .handle .networkWatchdog => [clock w.system.outside]
  | _ => []

/-- The times at which the watchdog looks in a course. -/
def looks (contact : Contact ω) (w : Watch ω) : List (Turn clock) → List Nat
  | [] => []
  | t :: rest => w.look t ++ looks contact (w.turn contact t) rest

/-- A relay that was created, and begins its task. -/
def begin (contact : Contact ω) (clock : ω → Nat) (s : System ω) : Watch ω :=
  (create clock s).turn contact (.start : Turn clock)

/-- The milliseconds after which a silence is too long. -/
def limit (c : Config) : Nat :=
  c.relay.watchdogTimeout.toNat * 1000

/-- **The relay has been silent for too long**, and the watchdog is about to look for the first time
since. Up to now it has looked as often as it is to. -/
structure Silence (contact : Contact ω) (c : Config) (s : System ω) (turns : List (Turn clock)) :
    Prop where
  /-- The relay was created under the configuration. -/
  created : ∃ gatewayFirmware scannerFirmware,
    Relay.create c gatewayFirmware scannerFirmware (contact.uptime s.outside) = .ok s.relay
  /-- It begins its task once. -/
  once : .start ∉ turns
  /-- All the time relaying is allowed, and no history is served. -/
  waiting : ∀ begun, begun <+: turns →
    ((begin contact clock s).follow contact begun).system.relayingAllowed = true ∧
      ((begin contact clock s).follow contact begun).system.historyServed = false
  /-- Nothing is delivered. -/
  undelivered : deliveries ((begin contact clock s).follow contact turns).answered = []
  /-- From one look to the next goes by no more than the configured time. -/
  spaced : (clock (begin contact clock s).system.outside ::
      (begin contact clock s).looks contact turns ++
        [clock ((begin contact clock s).follow contact turns).system.outside]).IsChain
    fun earlier later ↦ later ≤ earlier + c.relay.watchdogCheck.toNat
  /-- The looks so far came before the end of the timeout. -/
  early : ∀ time ∈ (begin contact clock s).looks contact turns,
    time ≤ clock (begin contact clock s).system.outside + limit c
  /-- This one comes after it. -/
  late : clock (begin contact clock s).system.outside + limit c <
    clock ((begin contact clock s).follow contact turns).system.outside

/-- **Every silence ends in a restart** under a configuration. -/
def EndsSilence (c : Config) : Prop :=
  ∀ (ω : Type) (contact : Contact ω) (clock : ω → Nat) (s : System ω) (turns : List (Turn clock)),
    contact.Shows clock → Silence contact c s turns →
    .restart .networkWatchdog ∈ (((begin contact clock s).follow contact turns).turn contact
      (.handle .networkWatchdog : Turn clock)).answered.map Answered.call

/-! ### Where the clock does not come round -/

/-- One more turn comes after all others. -/
theorem follow_concat (contact : Contact ω) (w : Watch ω) (turns : List (Turn clock))
    (t : Turn clock) :
    w.follow contact (turns ++ [t]) = (w.follow contact turns).turn contact t :=
  List.foldl_concat _ _ _ _

/-- The configuration stays over a turn, whatever happens around the relay. -/
theorem config_turn (contact : Contact ω) (w : Watch ω) (t : Turn clock) :
    (w.turn contact t).system.relay.config = w.system.relay.config := by
  cases t with
  | start => rfl
  | handle signal => exact System.config_handle w.system signal
  | meanwhile => rfl

/-- The configuration stays over a course. -/
theorem config_follow (contact : Contact ω) (w : Watch ω) (turns : List (Turn clock)) :
    (w.follow contact turns).system.relay.config = w.system.relay.config := by
  induction turns generalizing w with
  | nil => rfl
  | cons t rest ih => exact (ih _).trans (config_turn contact w t)

/-- What was answered stays on record. -/
theorem answered_prefix (contact : Contact ω) (w : Watch ω) (t : Turn clock) :
    w.answered <+: (w.turn contact t).answered := by
  cases t with
  | start | meanwhile => exact List.prefix_refl _
  | handle signal => exact List.prefix_append _ _

/-- While relaying is allowed, no history is served and nothing is delivered, no time counts. -/
theorem counted_follow {turns : List (Turn clock)}
    (hinUse : w.system.relay.config.relay.watchdogTimeout ≠ 0) (honce : .start ∉ turns)
    (hwaiting : ∀ begun, begun <+: turns → (w.follow contact begun).system.relayingAllowed = true ∧
      (w.follow contact begun).system.historyServed = false)
    (hundelivered : deliveries (w.follow contact turns).answered = []) :
    (w.follow contact turns).counted = w.counted := by
  -- from the end: the silence is excused or not by the state before the last turn
  induction turns using List.reverseRecOn with
  | nil => rfl
  | append_singleton turns t ih =>
    rw [follow_concat] at hundelivered ⊢
    obtain ⟨more, hanswered⟩ := answered_prefix contact (w.follow contact turns) t
    rw [← hanswered, deliveries_append, List.append_eq_nil_iff] at hundelivered
    have hbefore : (w.follow contact turns).counted = w.counted :=
      ih (fun hmem ↦ honce (List.mem_append_left _ hmem))
        (fun begun hbegins ↦ hwaiting begun (hbegins.trans (List.prefix_append _ _))) hundelivered.1
    cases t with
    | start => exact absurd (List.mem_append_right _ (List.mem_singleton_self _)) honce
    | handle signal =>
      obtain ⟨hallowed, hunserved⟩ := hwaiting turns (List.prefix_append _ _)
      have hexpected : (w.follow contact turns).system.excused = false := by
        rw [System.excused_eq_false_iff, config_follow]
        exact ⟨hinUse, hallowed, hunserved⟩
      have hnothing :
          deliveries ((w.follow contact turns).system.answers contact clock signal) = [] := by
        have hsame : (w.follow contact turns).answered ++ more =
            (w.follow contact turns).answered ++
          (w.follow contact turns).system.answers contact clock signal := hanswered
        rw [← List.append_cancel_left hsame]
        exact hundelivered.2
      show (w.follow contact turns).counted ++ System.excuses clock _ signal ++ deliveries _ = _
      rw [hnothing, System.excuses, hexpected, if_neg (by simp), List.append_nil, List.append_nil,
        hbefore]
    | meanwhile => exact hbefore

/-- What matters of a relay that was created: its configuration, that it is allowed to relay, and
that it counts its silence from then. -/
theorem eq_of_create {c : Config} {gatewayFirmware scannerFirmware : ShortText} {uptime : UInt32}
    {relay : BeaconGateway.Relay}
    (hcreated : Relay.create c gatewayFirmware scannerFirmware uptime = .ok relay) :
    relay.config = c ∧ relay.enabled = true ∧ relay.quietSince = uptime := by
  obtain ⟨timers, rfl⟩ := exists_eq_of_create hcreated
  exact ⟨rfl, rfl, rfl⟩

/-- The look that notices a silence comes after the timeout by no more than the time between two
looks. -/
theorem Silence.near {c : Config} {s : System ω} {turns : List (Turn clock)}
    (hsilence : Silence contact c s turns) :
    clock ((begin contact clock s).follow contact turns).system.outside ≤
      clock (begin contact clock s).system.outside + limit c + c.relay.watchdogCheck.toNat := by
  obtain ⟨-, -, hgap⟩ := List.isChain_append.1 hsilence.spaced
  -- the look before, or the beginning if there was none
  obtain ⟨last, hlast⟩ : ∃ last, last ∈ (clock (begin contact clock s).system.outside ::
      (begin contact clock s).looks contact turns).getLast? :=
    ⟨_, List.getLast_mem_getLast? (List.cons_ne_nil _ _)⟩
  have hgap := hgap last hlast _ rfl
  have hearly : last ≤ clock (begin contact clock s).system.outside + limit c := by
    obtain rfl | hmem := List.mem_cons.1 (List.mem_of_getLast? hlast)
    · exact Nat.le_add_right _ _
    · exact hsilence.early last hmem
  omega

/-- **A silence ends in a restart** where the clock does not come round before it is noticed. -/
theorem Silence.restarts {c : Config} {s : System ω} {turns : List (Turn clock)}
    (hsilence : Silence contact c s turns) (hshows : contact.Shows clock)
    (hinUse : c.relay.watchdogTimeout ≠ 0)
    (hfits : limit c + c.relay.watchdogCheck.toNat < UInt32.size) :
    .restart .networkWatchdog ∈ (((begin contact clock s).follow contact turns).turn contact
      (.handle .networkWatchdog : Turn clock)).answered.map Answered.call := by
  obtain ⟨gatewayFirmware, scannerFirmware, hcreated⟩ := hsilence.created
  obtain ⟨hconfig, -, hsince⟩ := eq_of_create hcreated
  have hconfigured : ((begin contact clock s).follow contact turns).system.relay.config = c :=
    (config_follow contact _ turns).trans hconfig
  have hcounts : Counts clock ((begin contact clock s).follow contact turns) :=
    ((counts_create hshows hsince).turn hshows .start).follow hshows turns
  have hcounted : ((begin contact clock s).follow contact turns).counted =
      [clock s.outside, clock (begin contact clock s).system.outside] :=
    counted_follow (hconfig ▸ hinUse) hsilence.once hsilence.waiting hsilence.undelivered
  have hgreatest : IsGreatest {time | time ∈ ((begin contact clock s).follow contact turns).counted}
      (clock (begin contact clock s).system.outside) := by
    have hbegun : clock s.outside ≤ clock (begin contact clock s).system.outside :=
      hshows.ask (.watchdog .register) s.outside
    rw [hcounted]
    refine ⟨by simp, fun time hmem ↦ ?_⟩
    obtain rfl | hmem := List.mem_cons.1 hmem
    · exact hbegun
    · exact Nat.le_of_eq (List.mem_singleton.1 hmem)
  -- late enough to be overdue, and too soon for the clock to have come round
  have hnear := hsilence.near
  have hlate := hsilence.late
  obtain ⟨hallowed, hunserved⟩ := hsilence.waiting turns (List.prefix_refl _)
  rw [hcounts.answered_networkWatchdog hshows hgreatest (by omega), hconfigured,
    if_pos ⟨hinUse, hallowed, hunserved, by rw [← limit]; omega⟩]
  exact List.mem_append_right _ (List.mem_singleton_self _)

/-! ### Where it does -/

/-- A look that finds the silence neither excused nor overdue changes nothing. -/
theorem turn_of_not_overdue (hexpected : w.system.excused = false)
    (hearly : System.overdue (contact.uptime w.system.outside) w.system.relay.quietSince
      w.system.relay.config.relay.watchdogTimeout = false) :
    w.turn contact (.handle .networkWatchdog : Turn clock) = w := by
  have hhandled : w.system.handle contact .networkWatchdog = w.system := by
    rw [System.handle, System.onNetworkWatchdog_eq, hexpected, hearly]
    rfl
  have hsilent : w.system.answers contact clock .networkWatchdog = [] := by
    rw [← List.map_eq_nil_iff, System.answers_networkWatchdog, if_neg (by simp [hearly])]
  rw [turn, hhandled, hsilent, System.excuses, if_neg (by simp [hexpected]), List.append_nil,
    List.append_nil]
  exact congrArg (Watch.mk _ _) (List.append_nil _)

section Resting

variable {relay : BeaconGateway.Relay} {c : Config}

/-- A relay to which nothing happens, from time zero on. -/
def resting (relay : BeaconGateway.Relay) : System Nat :=
  ⟨relay, .new, .down, false, none, .new, 0⟩

/-- The same relay at work, so many milliseconds later. -/
def restingAt (relay : BeaconGateway.Relay) (time : Nat) : Watch Nat :=
  let begun := begin .idle (fun time ↦ time) (resting relay)
  { begun with system := { begun.system with outside := time } }

/-- Time passes. -/
def wait (milliseconds : Nat) : Turn fun time : Nat ↦ time :=
  .meanwhile .new .down false none .new (· + milliseconds) fun _ ↦ Nat.le_add_right _ _

/-- The watchdog looks after each of some times, and then more time passes. -/
def course (extra : Nat) : List Nat → List (Turn fun time : Nat ↦ time)
  | [] => [wait extra]
  | gap :: rest => wait gap :: .handle .networkWatchdog :: course extra rest

/-- To wait moves the clock and nothing else. -/
theorem turn_wait (time milliseconds : Nat) :
    (restingAt relay time).turn .idle (wait milliseconds) = restingAt relay (time + milliseconds) :=
  rfl

/-- A relay that was created at time zero, and whose watchdog is in use. -/
structure Fresh (c : Config) (relay : BeaconGateway.Relay) : Prop where
  /-- It was created under the configuration. -/
  created : ∃ gatewayFirmware scannerFirmware,
    Relay.create c gatewayFirmware scannerFirmware 0 = .ok relay
  /-- It is to relay. -/
  configured : c.relayingConfigured = true
  /-- Its watchdog is in use. -/
  inUse : c.relay.watchdogTimeout ≠ 0

namespace Fresh

/-- It is under the configuration that it was created with. -/
theorem config_eq (hfresh : Fresh c relay) : relay.config = c := by
  obtain ⟨_, _, hcreated⟩ := hfresh.created
  exact (eq_of_create hcreated).1

/-- It is allowed to relay at all times, as nothing happens around it. -/
theorem relayingAllowed (hfresh : Fresh c relay) (time : Nat) :
    (restingAt relay time).system.relayingAllowed = true := by
  obtain ⟨_, _, hcreated⟩ := hfresh.created
  obtain ⟨hconfig, henabled, -⟩ := eq_of_create hcreated
  show (relay.config.relayingConfigured && relay.enabled && !NetworkStatus.down.isSuspended) = true
  rw [hconfig, hfresh.configured, henabled]
  decide

/-- **The relay does not see that it is late** once its clock has come round. -/
theorem turn_look (hfresh : Fresh c relay) {time : Nat} (hearly : time % UInt32.size ≤ limit c) :
    (restingAt relay time).turn .idle
      (.handle .networkWatchdog : Turn fun time : Nat ↦ time) = restingAt relay time := by
  refine turn_of_not_overdue ?_ ?_
  · rw [System.excused_eq_false_iff]
    refine ⟨?_, hfresh.relayingAllowed time, rfl⟩
    show relay.config.relay.watchdogTimeout ≠ 0
    rw [hfresh.config_eq]
    exact hfresh.inUse
  · show System.overdue (UInt32.ofNat time) (UInt32.ofNat 0) relay.config.relay.watchdogTimeout = _
    rw [hfresh.config_eq, System.overdue, toNat_sub_ofNat (Nat.zero_le time), Nat.sub_zero,
      decide_eq_false_iff_not, Nat.not_lt]
    exact hearly

section Course

variable {extra time : Nat} {gaps : List Nat}

/-- As long as no look is late, a course leaves the relay as it was, only later. -/
theorem follow_course (hfresh : Fresh c relay) (hearly : time + gaps.sum ≤ limit c) :
    (restingAt relay time).follow .idle (course extra gaps) =
      restingAt relay (time + gaps.sum + extra) := by
  induction gaps generalizing time with
  | nil => rfl
  | cons gap rest ih =>
    rw [List.sum_cons, ← Nat.add_assoc] at hearly ⊢
    rw [← ih hearly, course, follow, List.foldl_cons, List.foldl_cons, turn_wait,
      hfresh.turn_look ((Nat.mod_le _ _).trans (by omega))]
    rfl

/-- The first look, and those after it. -/
theorem looks_course_cons (hfresh : Fresh c relay) {gap : Nat} (hearly : time + gap ≤ limit c) :
    (restingAt relay time).looks .idle (course extra (gap :: gaps)) =
      (time + gap) :: (restingAt relay (time + gap)).looks .idle (course extra gaps) := by
  rw [course, looks, looks, turn_wait, hfresh.turn_look ((Nat.mod_le _ _).trans hearly)]
  rfl

/-- No look of the course comes after the timeout. -/
theorem le_of_mem_looks (hfresh : Fresh c relay) (hearly : time + gaps.sum ≤ limit c) :
    ∀ look ∈ (restingAt relay time).looks .idle (course extra gaps), look ≤ limit c := by
  induction gaps generalizing time with
  | nil => exact fun look hmem ↦ absurd hmem List.not_mem_nil
  | cons gap rest ih =>
    rw [List.sum_cons, ← Nat.add_assoc] at hearly
    have hfirst : time + gap ≤ limit c := (Nat.le_add_right _ _).trans hearly
    rw [hfresh.looks_course_cons hfirst]
    exact List.forall_mem_cons.2 ⟨hfirst, ih hearly⟩

/-- The looks come in time: no later after each other than the watchdog is set to look. -/
theorem isChain_looks (hfresh : Fresh c relay) (hearly : time + gaps.sum ≤ limit c) {check : Nat}
    (hsoon : extra ≤ check) (hspaced : ∀ gap ∈ gaps, gap ≤ check) :
    (time :: (restingAt relay time).looks .idle (course extra gaps) ++
      [time + gaps.sum + extra]).IsChain fun earlier later ↦ later ≤ earlier + check := by
  -- along the gaps, each of which ends with a look
  induction gaps generalizing time with
  | nil => exact .cons_cons (Nat.add_le_add_left hsoon time) (.singleton _)
  | cons gap rest ih =>
    obtain ⟨hstep, hspaced⟩ := List.forall_mem_cons.1 hspaced
    rw [List.sum_cons, ← Nat.add_assoc] at hearly ⊢
    rw [hfresh.looks_course_cons ((Nat.le_add_right _ _).trans hearly)]
    exact .cons_cons (Nat.add_le_add_left hstep time) (ih hearly hspaced)

/-- All the time the relay only rests. -/
theorem exists_restingAt (hfresh : Fresh c relay) (hearly : time + gaps.sum ≤ limit c)
    {begun : List (Turn fun time : Nat ↦ time)} (hbegins : begun <+: course extra gaps) :
    ∃ later, (restingAt relay time).follow .idle begun = restingAt relay later := by
  induction gaps generalizing time begun with
  | nil =>
    obtain rfl | ⟨none, rfl, hwithin⟩ := List.prefix_cons_iff.1 hbegins
    · exact ⟨time, rfl⟩
    · rw [List.prefix_nil.1 hwithin]
      exact ⟨time + extra, rfl⟩
  | cons gap rest ih =>
    rw [List.sum_cons, ← Nat.add_assoc] at hearly
    obtain rfl | ⟨waited, rfl, hwithin⟩ := List.prefix_cons_iff.1 hbegins
    · exact ⟨time, rfl⟩
    · obtain rfl | ⟨looked, rfl, hbehind⟩ := List.prefix_cons_iff.1 hwithin
      · exact ⟨time + gap, rfl⟩
      · rw [follow, List.foldl_cons, List.foldl_cons, turn_wait,
          hfresh.turn_look ((Nat.mod_le _ _).trans (by omega))]
        exact ih hearly hbehind

/-- The task does not begin anew on the way. -/
theorem start_not_mem_course (extra : Nat) (gaps : List Nat) : .start ∉ course extra gaps := by
  induction gaps with
  | nil => simp [course, wait]
  | cons gap rest ih => simpa [course, wait] using ih

/-- **A silence**: the watchdog looks in time up to the end of the timeout, and is about to look
again in time after it. -/
theorem silence (hfresh : Fresh c relay) (hearly : gaps.sum ≤ limit c)
    (hlate : limit c < gaps.sum + extra) (hsoon : extra ≤ c.relay.watchdogCheck.toNat)
    (hspaced : ∀ gap ∈ gaps, gap ≤ c.relay.watchdogCheck.toNat) :
    Silence .idle c (resting relay) (course extra gaps) := by
  have hearly : 0 + gaps.sum ≤ limit c := (Nat.zero_add _).trans_le hearly
  have hfollowed : (restingAt relay 0).follow .idle (course extra gaps) =
      restingAt relay (0 + gaps.sum + extra) := hfresh.follow_course hearly
  refine ⟨hfresh.created, start_not_mem_course extra gaps, fun begun hbegins ↦ ?_, ?_, ?_, ?_, ?_⟩
  · obtain ⟨later, hrests⟩ := hfresh.exists_restingAt hearly hbegins
    show ((restingAt relay 0).follow .idle begun).system.relayingAllowed = true ∧
      ((restingAt relay 0).follow .idle begun).system.historyServed = false
    rw [hrests]
    exact ⟨hfresh.relayingAllowed later, rfl⟩
  · show deliveries ((restingAt relay 0).follow .idle _).answered = []
    rw [hfollowed]
    rfl
  · show List.IsChain _ (0 :: (restingAt relay 0).looks .idle _ ++
      [((restingAt relay 0).follow .idle _).system.outside])
    rw [hfollowed]
    exact hfresh.isChain_looks hearly hsoon hspaced
  · show ∀ time ∈ (restingAt relay 0).looks .idle _, time ≤ 0 + limit c
    rw [Nat.zero_add]
    exact hfresh.le_of_mem_looks hearly
  · show 0 + limit c < ((restingAt relay 0).follow .idle _).system.outside
    rw [hfollowed, Nat.zero_add]
    exact hlate.trans_eq (congrArg (· + extra) (Nat.zero_add _).symm)

/-- **The silence goes on** where the clock has come round in the meantime. -/
theorem unanswered (hfresh : Fresh c relay) (hearly : gaps.sum ≤ limit c)
    (hround : (gaps.sum + extra) % UInt32.size ≤ limit c) :
    (((begin .idle (fun time ↦ time) (resting relay)).follow .idle (course extra gaps)).turn .idle
        (.handle .networkWatchdog : Turn fun time : Nat ↦ time)).answered = [] := by
  have hearly : 0 + gaps.sum ≤ limit c := (Nat.zero_add _).trans_le hearly
  show (((restingAt relay 0).follow .idle _).turn .idle _).answered = []
  rw [hfresh.follow_course hearly, Nat.zero_add, hfresh.turn_look hround]
  rfl

end Course

end Fresh

end Resting

/-! ### Which settings work -/

/-- **Which settings of the network watchdog work.** Under a valid configuration with a timeout, and
with something to relay to, every silence that is too long ends in a restart at the first look that
notices it, if and only if the timeout and the time between two looks are together shorter than the
clock takes to come round. -/
theorem endsSilence_iff {c : Config} (hvalid : c.IsValid)
    (hconfigured : c.relayingConfigured = true)
    (hinUse : c.relay.watchdogTimeout ≠ 0) :
    EndsSilence c ↔ limit c + c.relay.watchdogCheck.toNat < UInt32.size := by
  constructor
  · intro hends
    by_contra hcomes_round
    obtain ⟨relay, hcreated⟩ := hvalid.exists_create .empty .empty 0
    have hfresh : Fresh c relay := ⟨⟨_, _, hcreated⟩, hconfigured, hinUse⟩
    have hcheck := hvalid.periods_pos.2.1
    -- up to the clock's zero, or by one millisecond if that has passed within the timeout
    obtain ⟨extra, hlater, hsoon, hround⟩ : ∃ extra, 0 < extra ∧
        extra ≤ c.relay.watchdogCheck.toNat ∧ (limit c + extra) % UInt32.size ≤ limit c := by
      by_cases hwithin : limit c < UInt32.size
      · refine ⟨UInt32.size - limit c, by omega, by omega, ?_⟩
        rw [Nat.add_sub_cancel' (Nat.le_of_lt hwithin), Nat.mod_self]
        exact Nat.zero_le _
      · refine ⟨1, Nat.one_pos, hcheck, ?_⟩
        exact (Nat.le_of_lt (Nat.mod_lt _ (by decide))).trans (Nat.le_of_not_lt hwithin)
    -- the watchdog looks every millisecond
    let gaps := List.replicate (limit c) 1
    have hsum : gaps.sum = limit c := by simp [gaps]
    have hspaced : ∀ gap ∈ gaps, gap ≤ c.relay.watchdogCheck.toNat := fun gap hmem ↦
      List.eq_of_mem_replicate hmem ▸ hcheck
    have hsilence : Silence .idle c (resting relay) (course extra gaps) :=
      hfresh.silence (Nat.le_of_eq hsum) (hsum ▸ Nat.lt_add_of_pos_right hlater) hsoon hspaced
    have hrestarts :=
      hends Nat .idle (fun time ↦ time) (resting relay) _ Contact.idle_shows hsilence
    rw [hfresh.unanswered (Nat.le_of_eq hsum) (hsum ▸ hround)] at hrestarts
    exact absurd hrestarts List.not_mem_nil
  · intro hfits ω contact clock s turns hshows hsilence
    exact hsilence.restarts hshows hinUse hfits

/-- The default settings work. -/
theorem endsSilence_default : Config.default.IsValid ∧ EndsSilence .default :=
  have hvalid : Config.default.IsValid := by decide
  ⟨hvalid, (endsSilence_iff hvalid rfl (by decide)).2 (by decide)⟩

/-- The default configuration, with a timeout that is longer than the clock can show, and the
longest time between two looks. -/
def fiftyDays : Config :=
  { Config.default with
    relay.watchdogTimeout := 4294968
    relay.watchdogCheck := 4294967295 }

/-- **A valid timeout that is never reached**: the watchdog looks in the last millisecond before its
clock comes round, and a second later, when the silence is too long; it sees one of less than a
second, and lets it go on. -/
theorem silence_of_fifty_days :
    ∃ relay, let turns := [wait 4294967295, .handle .networkWatchdog, wait 1000]
      fiftyDays.IsValid ∧ fiftyDays.relay.watchdogTimeout ≠ 0 ∧
        Silence .idle fiftyDays (resting relay) turns ∧
        (((begin .idle (fun time ↦ time) (resting relay)).follow .idle turns).turn .idle
          (.handle .networkWatchdog : Turn fun time : Nat ↦ time)).answered = [] := by
  have hvalid : fiftyDays.IsValid := by decide
  obtain ⟨relay, hcreated⟩ := hvalid.exists_create .empty .empty 0
  have hfresh : Fresh fiftyDays relay := ⟨⟨_, _, hcreated⟩, rfl, by decide⟩
  have hsilence : Silence .idle fiftyDays (resting relay) (course 1000 [4294967295]) :=
    hfresh.silence (by decide) (by decide) (by decide) (by decide)
  have hunanswered : (((begin .idle (fun time ↦ time) (resting relay)).follow .idle
      (course 1000 [4294967295])).turn .idle
        (.handle .networkWatchdog : Turn fun time : Nat ↦ time)).answered = [] :=
    hfresh.unanswered (by decide) (by decide)
  exact ⟨relay, hvalid, hfresh.inUse, hsilence, hunanswered⟩

end Watch

end Relay

end BeaconGateway
