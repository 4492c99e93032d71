import BeaconGateway.Proofs.Log
import BeaconGateway.Proofs.Signal.Set
import BeaconGateway.Signal.Timer
import BeaconGateway.Supervisor.Signal
import Mathlib.Algebra.Group.Nat.Defs
import Mathlib.Data.List.Count
import Mathlib.Logic.Function.Basic
import Mathlib.Tactic.SplitIfs

/-!
# The life of a timer

A timer is started and stopped by anybody, and each start sends off a helper that looks at the
clockwork now and then, and last when its period is over. A start is two steps, for it disarms the
timer before it arms it, and calls may overlap; a helper may look at any time, though its period is
not over, and long after the timer was stopped or started anew.

A helper of an old generation does nothing. So only the helper of the latest start ever sends the
signal, and only as long as the timer was not stopped since; the helper of a timer that is not
periodic does so once. The timer says that it is armed exactly as long as that helper has something
to send.

All this rests on the generations being different, which they are as long as the counter does not
wrap: a start counts twice and a stop once.

## Main definitions

* `Timer.Life` — a timer with its helpers, with `Timer.Life.run`;
* `Timer.Life.Sound` — the invariant.

## Main results

* `Timer.Life.timer_run_start`, `Timer.Life.timer_run_restart`, `Timer.Life.elapse_of_look` — calls
  and the end of a period with nobody in between;
* `Timer.Life.sound_run` — the invariant holds for fewer than `2 ^ 62` calls;
* `Timer.Life.helpers_in_order` — who sends the signal, how often, and when the timer is armed.
-/

namespace BeaconGateway.Timer

/-! ### Calls and helpers -/

/-- What is worth remembering of a timer. -/
inductive Entry where
  /-- A start disarmed the timer, to arm it next. -/
  | disarmed
  /-- The timer was stopped. -/
  | stopped
  /-- The timer was armed for the time `n`. -/
  | started (n : Nat)
  /-- The helper of start `n` sent the signal. -/
  | posted (n : Nat)
  deriving DecidableEq

namespace Entry

/-- Whether it is a step of a call. -/
def isCall : Entry → Bool
  | .posted _ => false
  | _ => true

/-- Whether the signal was sent. -/
def isPost : Entry → Bool
  | .posted _ => true
  | _ => false

/-- An entry is of a signal or of a call. -/
theorem isPost_eq (e : Entry) : e.isPost = !e.isCall := by
  cases e <;> rfl

/-- Whether no earlier start counts any more: the timer was disarmed, or armed anew, or it sent the
only signal that it had to send. -/
def ends (kind : TimerKind) : Entry → Bool
  | .posted _ => decide (kind = .oneShot)
  | _ => true

/-- A signal ends what a one-shot timer has to do, and a periodic timer goes on. -/
theorem ends_posted {kind : TimerKind} {n : Nat} :
    (Entry.posted n).ends kind = false ↔ kind = .periodic := by
  cases kind <;> simp [ends]

/-- Whether no earlier start counts any more, where a start is looked at as a whole. -/
def endsCall (kind : TimerKind) : Entry → Bool
  | .disarmed => false
  | e => e.ends kind

end Entry

/-- A step of a call or of a helper. -/
inductive Event where
  /-- A start disarms the timer. -/
  | start
  /-- A start with a new period disarms the timer; a period of zero is ignored. -/
  | restart (period : Nat)
  /-- A start that has disarmed the timer arms it. -/
  | arm
  /-- The timer is stopped. -/
  | stop
  /-- The helper of start `n` looks at the clockwork, its period being over or not. -/
  | look (n : Nat) (elapsed : Bool)

/-- Whether a call begins. -/
def Event.isCall : Event → Bool
  | .start | .stop => true
  | .restart period => decide (0 < period)
  | .arm | .look _ _ => false

/-- A timer with its helpers. -/
structure Life (σ : Type) where
  /-- The timer. -/
  timer : Timer σ
  /-- Where it sends its signal. -/
  mailbox : Mailbox σ
  /-- How many starts have disarmed the timer and not armed it yet. -/
  starting : Nat
  /-- How often the timer was armed. -/
  starts : Nat
  /-- The helper of each start, until it ends. -/
  helpers : Nat → Option Clockwork.Helper
  /-- What happened so far. -/
  log : List Entry

namespace Life

variable {σ : Type} [SignalKind σ] {t : Timer σ} {m : Mailbox σ} {l : Life σ}

/-- A timer without helpers. -/
def begin (t : Timer σ) (m : Mailbox σ) : Life σ :=
  ⟨t, m, 0, 0, fun _ ↦ none, []⟩

/-- The timer is disarmed. -/
def disarm (l : Life σ) (e : Entry) : Life σ :=
  { l with timer := l.timer.stop, log := l.log ++ [e] }

/-- The timer is armed, and a helper sent off. When it looks first is open, so to send it off needs
no step of its own. -/
def arm (l : Life σ) : Life σ :=
  let timer := { l.timer with clockwork := l.timer.clockwork.start }
  { l with
    timer
    starting := l.starting - 1
    starts := l.starts + 1
    helpers := Function.update l.helpers l.starts (some timer.helper)
    log := l.log ++ [.started l.starts] }

/-- A helper ends. -/
def dismiss (l : Life σ) (n : Nat) : Life σ :=
  { l with helpers := Function.update l.helpers n none }

/-- A helper sends the signal. -/
def post (l : Life σ) (n : Nat) : Life σ :=
  { l with mailbox := (l.mailbox.send l.timer.signal).2, log := l.log ++ [.posted n] }

/-- A helper looks at the clockwork. -/
def look (l : Life σ) (n : Nat) (helper : Clockwork.Helper) (elapsed : Bool) : Life σ :=
  let (outcome, clockwork) := l.timer.clockwork.wake helper elapsed
  let l := { l with timer.clockwork := clockwork }
  match outcome with
  | .gone => l.dismiss n
  | .waiting => l
  | .firedAgain => l.post n
  | .firedLast => (l.post n).dismiss n

/-- A step is made. There is nothing to arm where no start has disarmed the timer, and nobody looks
where the helper has ended. -/
def step (l : Life σ) : Event → Life σ
  | .start => { l.disarm .disarmed with starting := l.starting + 1 }
  | .restart period =>
    if h : 0 < period then
      let l := { l with timer := { l.timer with period, period_pos := h } }
      { l.disarm .disarmed with starting := l.starting + 1 }
    else l
  | .arm => if 0 < l.starting then l.arm else l
  | .stop => l.disarm .stopped
  | .look n elapsed =>
    match l.helpers n with
    | some helper => l.look n helper elapsed
    | none => l

/-- Steps are made in order. -/
def run (l : Life σ) (events : List Event) : Life σ :=
  events.foldl step l

/-! ### Nobody in between -/

/-- **To start with nobody in between** is to start. -/
theorem timer_run_start (l : Life σ) : (l.run [.start, .arm]).timer = l.timer.start := by
  simp [run, step, disarm, arm, Timer.start, Timer.stop]

/-- **To start with a new period and nobody in between** is to do so. -/
theorem timer_run_restart (hidle : l.starting = 0) (period : Nat) :
    (l.run [.restart period, .arm]).timer = l.timer.restart period := by
  rw [Timer.restart]
  split_ifs with hpositive
  · simp [run, step, hpositive, disarm, arm, Timer.start, Timer.stop]
  · simp [run, step, hpositive, hidle]

/-- **The end of a period** is what the helper of the last start makes of it. -/
theorem elapse_of_look {n : Nat} (hhelper : l.helpers n = some l.timer.helper)
    (harmed : l.timer.isArmed = true) :
    ((l.step (.look n true)).timer, (l.step (.look n true)).mailbox) =
      l.timer.elapse l.mailbox := by
  rw [Timer.elapse, if_pos harmed, step, hhelper]
  cases hkind : l.timer.kind <;> simp [look, Clockwork.wake, Timer.helper, hkind, post, dismiss]

/-! ### One look -/

section Look

variable {n : Nat} {h : Clockwork.Helper} {elapsed : Bool}

/-- A helper of an old generation ends. -/
theorem look_old (hold : l.timer.clockwork.generation ≠ h.generation) :
    l.look n h elapsed = l.dismiss n := by
  simp [look, Clockwork.wake, hold]

/-- A helper whose period is not over changes nothing. -/
theorem look_early (hlatest : l.timer.clockwork.generation = h.generation) :
    l.look n h false = l := by
  simp [look, Clockwork.wake, hlatest]

/-- A helper that goes on sends the signal. -/
theorem look_periodic (hlatest : l.timer.clockwork.generation = h.generation)
    (hkind : h.kind = .periodic) : l.look n h true = l.post n := by
  simp [look, Clockwork.wake, hlatest, hkind]

/-- A helper that does not go on sends the signal, disarms the timer, and ends. -/
theorem look_oneShot (hlatest : l.timer.clockwork.generation = h.generation)
    (hkind : h.kind = .oneShot) :
    l.look n h true =
      { l.post n with
        timer.clockwork := { l.timer.clockwork with armed := false }
        helpers := Function.update l.helpers n none } := by
  simp [look, Clockwork.wake, hlatest, hkind, post, dismiss]

end Look

/-! ### Which start counts -/

/-- **The start that counts**: the timer was not disarmed since, and has still something to send. -/
def Current (kind : TimerKind) (log : List Entry) (n : Nat) : Prop :=
  Log.Lasts (Entry.ends kind) log (.started n)

section Current

variable {kind : TimerKind} {log : List Entry} {n k : Nat} {e : Entry}

/-- The latest start counts, and it alone. -/
theorem current_started : Current kind (log ++ [.started k]) n ↔ n = k := by
  simp [Current, Log.lasts_concat, Entry.ends]

/-- After a signal a start still counts if the timer is periodic. -/
theorem current_posted :
    Current kind (log ++ [.posted k]) n ↔ kind = .periodic ∧ Current kind log n := by
  simp [Current, Log.lasts_concat, Entry.ends_posted]

/-- To disarm or to stop a timer is a call. -/
theorem isCall_of_disarm (hdisarms : e = .disarmed ∨ e = .stopped) : e.isCall = true := by
  obtain rfl | rfl := hdisarms <;> rfl

/-- After either no start counts. -/
theorem not_current_of_disarm (hdisarms : e = .disarmed ∨ e = .stopped) :
    ¬ Current kind (log ++ [e]) n := by
  obtain rfl | rfl := hdisarms <;> simp [Current, Log.lasts_concat, Entry.ends]

/-- Only one start counts. -/
theorem Current.unique (hcurrent : Current kind log n) (hcurrent' : Current kind log k) :
    n = k := by
  simpa using Log.Lasts.unique hcurrent hcurrent' rfl rfl

end Current

/-! ### Generations -/

/-- How many generations were opened. -/
def opened (log : List Entry) : Nat :=
  log.countP Entry.isCall

/-- **The helper of a start**: it is of the latest generation only if that start counts. -/
def Hired (kind : TimerKind) (log : List Entry) (n : Nat) (h : Clockwork.Helper) : Prop :=
  h.kind = kind ∧
    ∃ g ≤ opened log, h.generation = .ofNat g ∧ (g = opened log → Current kind log n)

section Generations

variable {kind : TimerKind} {log : List Entry} {n k : Nat} {e : Entry} {h : Clockwork.Helper}

/-- A call opens a generation. -/
theorem opened_of_call (hcall : e.isCall = true) : opened (log ++ [e]) = opened log + 1 := by
  simp [opened, List.countP_append, hcall]

/-- A signal opens none. -/
theorem opened_posted : opened (log ++ [.posted k]) = opened log := by
  simp [opened, List.countP_append, Entry.isCall]

/-- A call opens a generation, so that earlier helpers are of an old one. -/
theorem Hired.call (hhired : Hired kind log n h) (hcall : e.isCall = true) :
    Hired kind (log ++ [e]) n h := by
  obtain ⟨hsame, g, hbefore, hgeneration, -⟩ := hhired
  refine ⟨hsame, g, ?_, hgeneration, fun hlatest ↦ ?_⟩
  · rw [opened_of_call hcall]
    omega
  · rw [opened_of_call hcall] at hlatest
    omega

/-- When the start that counts sends its signal, it counts on or its helper ends. -/
theorem Hired.posted (hhired : Hired kind log n h) (hcurrent : Current kind log k)
    (hgoesOn : n = k → kind = .periodic) : Hired kind (log ++ [.posted k]) n h := by
  obtain ⟨hsame, g, hbefore, hgeneration, hlatest⟩ := hhired
  refine ⟨hsame, g, by rwa [opened_posted], hgeneration, fun hlast ↦ ?_⟩
  obtain rfl : n = k := (hlatest (hlast.trans opened_posted)).unique hcurrent
  exact current_posted.2 ⟨hgoesOn rfl, hcurrent⟩

/-- **A helper of the latest generation** is that of the start that counts, as the counter has not
wrapped. -/
theorem Hired.current (hhired : Hired kind log n h) (hfew : opened log < 2 ^ 64)
    (hlatest : UInt64.ofNat (opened log) = h.generation) : Current kind log n := by
  obtain ⟨-, g, hbefore, hgeneration, hcurrent⟩ := hhired
  have hsame : opened log % 2 ^ 64 = g % 2 ^ 64 := by
    simpa [UInt64.toNat_ofNat'] using congrArg UInt64.toNat (hlatest.trans hgeneration)
  exact hcurrent (by omega)

end Generations

/-! ### The invariant -/

/-- **Who sends the signal** is the helper of the start that counts. -/
def Follows (kind : TimerKind) (before : List Entry) : Entry → Prop
  | .posted n => Current kind before n
  | _ => True

/-- **The life of a timer is sound**: of the timer `t`, which sends to the mailbox `m`. -/
structure Sound (t : Timer σ) (m : Mailbox σ) (l : Life σ) : Prop where
  /-- The timer stays of its kind. -/
  kind : l.timer.kind = t.kind
  /-- It sends what it always sent. -/
  signal : l.timer.signal = t.signal
  /-- Nothing comes to the mailbox but from helpers. -/
  mailbox : l.mailbox = m.sendAll (List.replicate (l.log.countP Entry.isPost) t.signal)
  /-- Each step of a call opens a generation. -/
  generation : l.timer.clockwork.generation = .ofNat (opened l.log)
  /-- Only the helper of the start that counts is of the latest generation. -/
  hired : ∀ n h, l.helpers n = some h → Hired t.kind l.log n h
  /-- The timer is armed as long as a start counts. -/
  armed : l.timer.isArmed = true ↔ ∃ n, Current t.kind l.log n
  /-- Where no start is under way, starts may be looked at as a whole. -/
  whole : l.starting = 0 →
    ∀ n, Log.Lasts (Entry.endsCall t.kind) l.log (.started n) → Current t.kind l.log n
  /-- The starts are numbered. -/
  numbers : ∀ n, l.log.count (.started n) = if n < l.starts then 1 else 0
  /-- Each entry follows. -/
  log : Log.Each (Follows t.kind) l.log

/-- An idle timer begins a sound life: no helper was hired yet. -/
theorem sound_begin (hidle : t.clockwork = .idle) : (begin t m).Sound t m where
  kind := rfl
  signal := rfl
  mailbox := rfl
  generation := congrArg Clockwork.generation hidle
  hired n h hnone := by simp [begin] at hnone
  armed := by
    have hunarmed : t.isArmed = false := congrArg Clockwork.armed hidle
    simp [begin, hunarmed, Current, Log.not_lasts_nil]
  whole _ n hlasts := absurd hlasts Log.not_lasts_nil
  numbers n := by simp [begin]
  log := Log.each_nil

namespace Sound

variable (hsound : l.Sound t m)
include hsound

/-- A call opens a generation. -/
theorem generation_of_call {e : Entry} (hcall : e.isCall = true) :
    l.timer.clockwork.generation + 1 = .ofNat (opened (l.log ++ [e])) := by
  rw [hsound.generation, opened_of_call hcall, UInt64.ofNat_add]
  rfl

/-- A call sends nothing. -/
theorem mailbox_of_call {e : Entry} (hcall : e.isCall = true) :
    l.mailbox = m.sendAll (List.replicate ((l.log ++ [e]).countP Entry.isPost) t.signal) := by
  have hsilent : e.isPost = false := by simpa [Entry.isPost_eq] using hcall
  rw [hsound.mailbox, List.countP_append, List.countP_singleton, hsilent]
  rfl

/-- **A timer is disarmed**, to be armed next or not. -/
theorem disarm {e : Entry} {starting : Nat} (hdisarms : e = .disarmed ∨ e = .stopped)
    (hstops : starting = 0 → e = .stopped) : ({ l.disarm e with starting } : Life σ).Sound t m where
  kind := hsound.kind
  signal := hsound.signal
  mailbox := hsound.mailbox_of_call (isCall_of_disarm hdisarms)
  generation := hsound.generation_of_call (isCall_of_disarm hdisarms)
  hired n h hhired := (hsound.hired n h hhired).call (isCall_of_disarm hdisarms)
  armed := by
    have hnone : ¬ ∃ n, Current t.kind (l.log ++ [e]) n := fun ⟨_, hcurrent⟩ ↦
      not_current_of_disarm hdisarms hcurrent
    exact iff_of_false Bool.false_ne_true hnone
  whole hsettled n hlasts := by
    obtain rfl := hstops hsettled
    exact absurd hlasts (by simp [Life.disarm, Log.lasts_concat, Entry.endsCall, Entry.ends])
  numbers n := by
    have hsame : (l.log ++ [e]).count (.started n) = l.log.count (.started n) := by
      obtain rfl | rfl := hdisarms <;> simp
    exact hsame.trans (hsound.numbers n)
  log := Log.each_concat.2 ⟨hsound.log, by obtain rfl | rfl := hdisarms <;> trivial⟩

/-- **A timer is armed**, and a helper of the new generation sent off. -/
theorem arm : l.arm.Sound t m where
  kind := hsound.kind
  signal := hsound.signal
  mailbox := hsound.mailbox_of_call rfl
  generation := hsound.generation_of_call rfl
  hired n h hhired := by
    obtain ⟨rfl, hnew⟩ | ⟨-, hhired⟩ := ite_eq_iff.1 ((Function.update_apply ..).symm.trans hhired)
    · obtain rfl := Option.some.inj hnew
      exact ⟨hsound.kind, _, Nat.le_refl _, hsound.generation_of_call rfl,
        fun _ ↦ current_started.2 rfl⟩
    · exact (hsound.hired n h hhired).call rfl
  armed := iff_of_true rfl ⟨l.starts, current_started.2 rfl⟩
  whole _ n hlasts := by
    have hlatest : n = l.starts := by
      simpa [Life.arm, Log.lasts_concat, Entry.endsCall, Entry.ends] using hlasts
    exact current_started.2 hlatest
  numbers n := by
    have hmore : l.arm.log.count (.started n) =
        l.log.count (.started n) + if l.starts = n then 1 else 0 := by
      simp [Life.arm, List.count_append, List.count_singleton]
    have hnext : l.arm.starts = l.starts + 1 := rfl
    rw [hmore, hnext, hsound.numbers]
    split_ifs <;> omega
  log := Log.each_concat.2 ⟨hsound.log, trivial⟩

/-- **A helper ends.** -/
theorem dismiss (n : Nat) : (l.dismiss n).Sound t m where
  kind := hsound.kind
  signal := hsound.signal
  mailbox := hsound.mailbox
  generation := hsound.generation
  hired k h hhired := by
    obtain ⟨-, hended⟩ | ⟨-, hhired⟩ := ite_eq_iff.1 ((Function.update_apply ..).symm.trans hhired)
    · simp at hended
    · exact hsound.hired k h hhired
  armed := hsound.armed
  whole := hsound.whole
  numbers := hsound.numbers
  log := hsound.log

/-- **The helper of the start that counts sends the signal**, and waits again or ends. -/
theorem fire {n : Nat} {clockwork : Clockwork} {helpers : Nat → Option Clockwork.Helper}
    (hcurrent : Current t.kind l.log n)
    (hsame : clockwork.generation = l.timer.clockwork.generation)
    (harmed : clockwork.armed = true ↔ t.kind = .periodic)
    (hkept : ∀ k h, helpers k = some h → l.helpers k = some h ∧ (k = n → t.kind = .periodic)) :
    ({ l.post n with timer.clockwork := clockwork, helpers } : Life σ).Sound t m where
  kind := hsound.kind
  signal := hsound.signal
  -- one more signal was posted, and one more entry says so
  mailbox := by
    have hmore : (l.log ++ [Entry.posted n]).countP Entry.isPost =
        l.log.countP Entry.isPost + 1 := by
      simp [List.countP_append, Entry.isPost]
    have hsent : (l.mailbox.send l.timer.signal).2 =
        m.sendAll (List.replicate (l.log.countP Entry.isPost + 1) t.signal) := by
      rw [List.replicate_succ', Mailbox.sendAll_concat, ← hsound.mailbox, hsound.signal]
    exact hsent.trans (by rw [← hmore]; rfl)
  generation := hsame.trans (hsound.generation.trans (congrArg UInt64.ofNat opened_posted.symm))
  hired k h hhired :=
    (hsound.hired k h (hkept k h hhired).1).posted hcurrent (hkept k h hhired).2
  armed := by
    have hgoesOn : (∃ k, Current t.kind (l.log ++ [.posted n]) k) ↔ t.kind = .periodic := by
      simp only [current_posted, exists_and_left]
      exact and_iff_left ⟨n, hcurrent⟩
    exact harmed.trans hgoesOn.symm
  whole hsettled k hlasts := by
    obtain hsame | ⟨hstays, hlasts⟩ := Log.lasts_concat.1 hlasts
    · simp at hsame
    · have hcounts : (Entry.posted n).ends t.kind = false := hstays
      exact current_posted.2 ⟨Entry.ends_posted.1 hcounts, hsound.whole hsettled k hlasts⟩
  numbers k := by
    have hsame : (l.log ++ [Entry.posted n]).count (.started k) = l.log.count (.started k) := by
      simp
    exact hsame.trans (hsound.numbers k)
  log := Log.each_concat.2 ⟨hsound.log, hcurrent⟩

/-- **A helper looks at the clockwork**, as long as the counter has not wrapped. -/
theorem look {n : Nat} {h : Clockwork.Helper} (hfew : opened l.log < 2 ^ 64)
    (hhired : l.helpers n = some h) (elapsed : Bool) : (l.look n h elapsed).Sound t m := by
  by_cases hlatest : l.timer.clockwork.generation = h.generation
  · have hcurrent : Current t.kind l.log n :=
      (hsound.hired n h hhired).current hfew (hsound.generation.symm.trans hlatest)
    have hkind : h.kind = t.kind := (hsound.hired n h hhired).1
    cases elapsed with
    | false =>
      rw [look_early hlatest]
      exact hsound
    | true =>
      cases hgoesOn : h.kind with
      | periodic =>
        have hperiodic : t.kind = .periodic := hkind.symm.trans hgoesOn
        have harmed : l.timer.isArmed = true := hsound.armed.2 ⟨n, hcurrent⟩
        rw [look_periodic hlatest hgoesOn]
        exact hsound.fire hcurrent rfl (iff_of_true harmed hperiodic)
          fun k h hhired ↦ ⟨hhired, fun _ ↦ hperiodic⟩
      | oneShot =>
        have honce : t.kind ≠ .periodic := by simp [← hkind, hgoesOn]
        rw [look_oneShot hlatest hgoesOn]
        refine hsound.fire hcurrent rfl (iff_of_false Bool.false_ne_true honce) fun k h hhired ↦ ?_
        obtain ⟨-, hended⟩ | ⟨hother, hhired⟩ :=
          ite_eq_iff.1 ((Function.update_apply ..).symm.trans hhired)
        · simp at hended
        · exact ⟨hhired, fun hsame ↦ absurd hsame hother⟩
  · rw [look_old hlatest]
    exact hsound.dismiss n

/-- **Every step keeps the life sound**, as long as the counter has not wrapped. -/
theorem step (hfew : opened l.log < 2 ^ 64) (event : Event) : (l.step event).Sound t m := by
  cases event with
  | start => exact hsound.disarm (.inl rfl) (by simp)
  | restart period =>
    rw [Life.step]
    split_ifs with hpositive
    · let l' : Life σ := { l with timer := { l.timer with period, period_pos := hpositive } }
      have hchanged : l'.Sound t m := { hsound with }
      exact hchanged.disarm (.inl rfl) (by simp)
    · exact hsound
  | arm =>
    rw [Life.step]
    split_ifs
    · exact hsound.arm
    · exact hsound
  | stop => exact hsound.disarm (.inr rfl) fun _ ↦ rfl
  | look n elapsed =>
    rw [Life.step]
    split
    · next h hhired => exact hsound.look hfew hhired elapsed
    · exact hsound

end Sound

/-! ### All calls -/

/-- A look of a helper opens no generation. -/
theorem opened_look (l : Life σ) (n : Nat) (h : Clockwork.Helper) (elapsed : Bool) :
    opened (l.look n h elapsed).log = opened l.log ∧
      (l.look n h elapsed).starting = l.starting := by
  rw [look]
  rcases l.timer.clockwork.wake h elapsed with ⟨outcome, clockwork⟩
  cases outcome with
  | gone | waiting => exact ⟨rfl, rfl⟩
  | firedAgain | firedLast => exact ⟨opened_posted, rfl⟩

/-- A call opens two generations at most, be it now or when it arms the timer. -/
theorem opened_step_le (l : Life σ) (event : Event) :
    opened (l.step event).log + (l.step event).starting ≤
      opened l.log + l.starting + 2 * [event].countP Event.isCall := by
  have hdisarmed : opened (l.log ++ [.disarmed]) = opened l.log + 1 := opened_of_call rfl
  have hstopped : opened (l.log ++ [.stopped]) = opened l.log + 1 := opened_of_call rfl
  have hstarted : opened (l.log ++ [.started l.starts]) = opened l.log + 1 := opened_of_call rfl
  cases event with
  | start =>
    simp only [step, disarm, hdisarmed, Event.isCall, List.countP_singleton, if_true]
    omega
  | restart period =>
    by_cases hpositive : 0 < period
    · simp only [step, hpositive, dite_true, disarm, hdisarmed, Event.isCall, List.countP_singleton,
        decide_true, if_true]
      omega
    · simp [step, hpositive]
  | arm =>
    by_cases hwaits : 0 < l.starting
    · simp only [step, hwaits, if_true, arm, hstarted]
      omega
    · simp [step, hwaits]
  | stop =>
    simp only [step, disarm, hstopped, Event.isCall, List.countP_singleton, if_true]
    omega
  | look n elapsed =>
    rw [step]
    split
    · obtain ⟨hsame, hsame'⟩ := l.opened_look n _ elapsed
      rw [hsame, hsame']
      exact Nat.le_add_right _ _
    · exact Nat.le_add_right _ _

/-- One more event comes after all others. -/
theorem run_concat (l : Life σ) (events : List Event) (event : Event) :
    l.run (events ++ [event]) = (l.run events).step event :=
  List.foldl_concat _ _ _ _

/-- **Calls open two generations each** at most. -/
theorem opened_run_le (t : Timer σ) (m : Mailbox σ) (events : List Event) :
    opened ((begin t m).run events).log + ((begin t m).run events).starting ≤
      2 * events.countP Event.isCall := by
  induction events using List.reverseRecOn with
  | nil => exact Nat.le_refl _
  | append_singleton events event ih =>
    have hone := ((begin t m).run events).opened_step_le event
    rw [run_concat, List.countP_append]
    omega

/-- **The life of a timer is sound** for fewer than `2 ^ 62` calls. -/
theorem sound_run (hidle : t.clockwork = .idle) {events : List Event}
    (hfew : events.countP Event.isCall < 2 ^ 62) : ((begin t m).run events).Sound t m := by
  -- from the end: events before the last have no more calls, so the counter did not wrap there
  induction events using List.reverseRecOn with
  | nil => exact sound_begin hidle
  | append_singleton events event ih =>
    rw [List.countP_append] at hfew
    have hbound := opened_run_le t m events
    rw [run_concat]
    exact (ih (by omega)).step (by omega) event

/-! ### Helpers in order -/

namespace Sound

variable (hsound : l.Sound t m)
include hsound

/-- **After a stop nothing is sent** until the next start. -/
theorem posted_not_mem {before quiet since : List Entry}
    (hsplit : l.log = before ++ .stopped :: quiet ++ since) (hnone : ∀ n, .started n ∉ quiet)
    (n : Nat) : .posted n ∉ quiet := by
  intro hmem
  obtain ⟨first, rest, rfl⟩ := List.append_of_mem hmem
  have hcurrent : Current t.kind (before ++ .stopped :: first) n :=
    hsound.log (before ++ .stopped :: first) (.posted n) (rest ++ since) (by simp [hsplit])
  have hlater : .started n ∈ first := Log.Lasts.mem_since hcurrent rfl (by simp)
  exact hnone n (List.mem_append_left _ hlater)

/-- **A timer that is not periodic** sends its signal once for a start. -/
theorem count_posted_le (honce : t.kind = .oneShot) (n : Nat) : l.log.count (.posted n) ≤ 1 := by
  by_contra hmore
  have htwice : (List.replicate 2 (Entry.posted n)).Sublist l.log :=
    List.replicate_sublist_iff.2 (by omega)
  -- each time the start `n` counts, and what was sent ended it, so it would have been made twice
  obtain ⟨first, rest, hsplit, hmem, hsub⟩ := List.cons_sublist_iff.1 htwice
  obtain ⟨a, b, rfl⟩ := List.append_of_mem hmem
  obtain ⟨c, d, rfl⟩ := List.append_of_mem (List.singleton_sublist.1 hsub)
  have hbefore : Current t.kind a n :=
    hsound.log a (.posted n) (b ++ c ++ .posted n :: d) (by simp [hsplit])
  have hagain : Current t.kind (a ++ .posted n :: (b ++ c)) n :=
    hsound.log (a ++ .posted n :: (b ++ c)) (.posted n) d (by simp [hsplit])
  have hsent : (Entry.posted n).ends t.kind = true := decide_eq_true honce
  have hearly : 0 < a.count (.started n) := List.count_pos_iff.2 (Log.Lasts.mem hbefore)
  have hlate : 0 < (b ++ c).count (.started n) :=
    List.count_pos_iff.2 (Log.Lasts.mem_since hagain hsent (by simp))
  have hsingle : l.log.count (.started n) ≤ 1 := by
    rw [hsound.numbers]
    split_ifs <;> omega
  rw [hsplit] at hsingle
  simp only [List.count_append, List.count_cons] at hsingle hlate
  omega

/-- Where no start is under way, the timer is armed by the last call, if that was a start. -/
theorem armed_whole (hsettled : l.starting = 0) :
    l.timer.isArmed = true ↔ ∃ n, Log.Lasts (Entry.endsCall t.kind) l.log (.started n) := by
  rw [hsound.armed]
  constructor
  · rintro ⟨n, hcurrent⟩
    refine ⟨n, hcurrent.mono fun e hcounts ↦ ?_⟩
    cases e with
    | disarmed => rfl
    | _ => exact hcounts
  · rintro ⟨n, hlasts⟩
    exact ⟨n, hsound.whole hsettled n hlasts⟩

end Sound

/-- **Helpers keep in order**, whatever calls overlap and whenever helpers look, for fewer than
`2 ^ 62` calls. The signal is sent only by the helper of the latest start, if the timer was not
disarmed since. After a stop nothing is sent until the next start. A timer that is not periodic
sends its signal at most once for a start. The timer is armed exactly if it was not disarmed since
the latest start, and is periodic or has not sent its signal since; where no start is under way,
exactly if the latest call was a start, and the timer is periodic or has not sent its signal since.
What comes to the mailbox is the signal, once for each time that a helper sends it. -/
theorem helpers_in_order {σ : Type} [SignalKind σ] (name : String) (kind : TimerKind) (signal : σ)
    (period : Nat) (hpositive : 0 < period) (m : Mailbox σ) {events : List Event}
    (hfew : events.countP Event.isCall < 2 ^ 62) :
    let l := (begin (.new name kind signal period hpositive) m).run events
    (∀ before n since, l.log = before ++ .posted n :: since → Current kind before n) ∧
    (∀ before quiet since, l.log = before ++ .stopped :: quiet ++ since →
      (∀ n, .started n ∉ quiet) → ∀ n, .posted n ∉ quiet) ∧
    (kind = .oneShot → ∀ n, l.log.count (.posted n) ≤ 1) ∧
    (l.timer.isArmed = true ↔ ∃ n, Current kind l.log n) ∧
    (l.starting = 0 →
      (l.timer.isArmed = true ↔ ∃ n, Log.Lasts (Entry.endsCall kind) l.log (.started n))) ∧
    l.mailbox = m.sendAll (List.replicate (l.log.countP Entry.isPost) signal) := by
  intro l
  have hsound : l.Sound (.new name kind signal period hpositive) m := sound_run rfl hfew
  exact ⟨fun before n since ↦ hsound.log before (.posted n) since,
    fun _ _ _ ↦ hsound.posted_not_mem, hsound.count_posted_le, hsound.armed, hsound.armed_whole,
    hsound.mailbox⟩

/-- A start that is overtaken by a stop while the helper of the start before is late. -/
def overtakenStart : List Event :=
  [.start, .arm, .start, .stop, .look 0 true, .arm, .look 1 true]

/-- **A late helper sends nothing**, though its period is over. -/
theorem late_helper_silent :
    let l := (begin (.new "late" .oneShot SupervisorSignal.historyTimeout 70000 (by decide))
      Mailbox.new.register).run overtakenStart
    overtakenStart.countP Event.isCall < 2 ^ 62 ∧
      l.log = [.disarmed, .started 0, .disarmed, .stopped, .started 1, .posted 1] ∧
      l.timer.isArmed = false ∧ ∀ n, l.log.count (.posted n) ≤ 1 := by
  have hfew : overtakenStart.countP Event.isCall < 2 ^ 62 := by decide
  have horder := helpers_in_order "late" .oneShot SupervisorSignal.historyTimeout 70000 (by decide)
    Mailbox.new.register hfew
  exact ⟨hfew, rfl, rfl, horder.2.2.1 rfl⟩

end Life

end BeaconGateway.Timer
