import BeaconGateway.Proofs.Supervisor.Questions

/-!
# Courses of the supervisor

The supervisor has a mailbox and five timers. Others send it signals at any time, and a timer whose
period ends sends one too, in the middle of a wake-up as well as between two. A wake-up takes what
is pending and handles it signal by signal. So a course of the supervisor goes on by turns smaller
than a wake-up, and what was taken and not yet handled belongs to its state.

## Main definitions

* `Supervisor.TimerId`, `Supervisor.System.expire` — the period of a timer ends;
* `Supervisor.Course` — a supervisor at work, with `Supervisor.Course.follow`;
* `Supervisor.Course.waits` — whether a signal is pending, or taken and not yet handled.

## Main results

* `Timer.isPending_elapse`, `Timer.schedule_elapse`, `Timer.isArmed_elapse_oneShot` — what becomes
  of a timer whose period ends;
* `Supervisor.System.schedule_expire`, `Supervisor.System.isArmed_expire`,
  `Supervisor.System.isPending_expire` — what the end of a period makes of the timers and of what is
  pending;
* `Supervisor.Course.system_follow_wake` — a wake-up is a course.
-/

namespace BeaconGateway

/-! ### One timer -/

namespace Timer

variable {σ : Type}

/-- What kind a timer is, and what it sends. -/
def sort (t : Timer σ) : TimerKind × σ :=
  (t.kind, t.signal)

@[simp] theorem sort_stop (t : Timer σ) : t.stop.sort = t.sort := rfl

@[simp] theorem sort_start (t : Timer σ) : t.start.sort = t.sort := rfl

@[simp] theorem sort_restart (t : Timer σ) (period : Nat) : (t.restart period).sort = t.sort := by
  rw [restart]
  split <;> rfl

section Elapse

variable [SignalKind σ] (t : Timer σ) (m : Mailbox σ)

@[simp] theorem sort_elapse : (t.elapse m).1.sort = t.sort := by
  rw [elapse]
  split <;> rfl

@[simp] theorem registered_elapse : (t.elapse m).2.registered = m.registered := by
  rw [elapse]
  split
  · exact Mailbox.registered_send m t.signal
  · rfl

/-- A periodic timer goes on. -/
theorem schedule_elapse (hperiodic : t.kind = .periodic) :
    (t.elapse m).1.schedule = t.schedule := by
  rw [elapse]
  split
  · have hgoesOn : (t.clockwork.wake t.helper true).2 = t.clockwork := by
      simp [Clockwork.wake, helper, hperiodic]
    simp only [schedule, isArmed, hgoesOn]
    rfl
  · rfl

/-- A timer that is not periodic is disarmed. -/
theorem isArmed_elapse_oneShot (honeShot : t.kind = .oneShot) : (t.elapse m).1.isArmed = false := by
  rw [elapse]
  split
  · simp [isArmed, Clockwork.wake, helper, honeShot]
  · next hidle => simpa using hidle

/-- **An armed timer sends its signal**, and one that is not armed sends nothing. -/
theorem isPending_elapse [DecidableEq σ] {m : Mailbox σ} (hregistered : m.registered = true)
    (signal : σ) :
    (t.elapse m).2.isPending signal =
      (m.isPending signal || t.isArmed && decide (t.signal = signal)) := by
  rw [elapse]
  split
  · next harmed =>
    rw [Mailbox.isPending, Mailbox.pending_send hregistered, SignalSet.contains_insert, harmed,
      Bool.true_and, Mailbox.isPending]
  · next hidle => simp [hidle]

end Elapse

end Timer

namespace Supervisor

/-! ### Five timers -/

/-- The timers of the supervisor by name. -/
inductive TimerId where
  | heap
  | updates
  | remote
  | history
  | feedWatchdog
  deriving DecidableEq

namespace Timers

/-- The timer with a name. -/
def get (t : Timers) : TimerId → Timer SupervisorSignal
  | .heap => t.heap
  | .updates => t.updates
  | .remote => t.remote
  | .history => t.history
  | .feedWatchdog => t.feedWatchdog

/-- Put a timer in the place of the one with a name. -/
def set (t : Timers) (id : TimerId) (timer : Timer SupervisorSignal) : Timers :=
  match id with
  | .heap => { t with heap := timer }
  | .updates => { t with updates := timer }
  | .remote => { t with remote := timer }
  | .history => { t with history := timer }
  | .feedWatchdog => { t with feedWatchdog := timer }

theorem get_set (t : Timers) (id other : TimerId) (timer : Timer SupervisorSignal) :
    (t.set id timer).get other = if other = id then timer else t.get other := by
  cases id <;> cases other <;> rfl

/-- What kinds the timers are, and what they send. -/
def sorts (t : Timers) (id : TimerId) : TimerKind × SupervisorSignal :=
  (t.get id).sort

theorem sorts_set (t : Timers) (id : TimerId) {timer : Timer SupervisorSignal}
    (hsame : timer.sort = (t.get id).sort) : (t.set id timer).sorts = t.sorts := by
  funext other
  rw [sorts, get_set]
  split_ifs with hitself
  · rw [hitself]
    exact hsame
  · rfl

end Timers

namespace System

variable {ω : Type} {contact : Contact ω} {s : System ω}

/-- **The period of a timer ends.** -/
def expire (s : System ω) (id : TimerId) : System ω :=
  let (timer, mailbox) := (s.supervisor.timers.get id).elapse s.mailbox
  { s with supervisor.timers := s.supervisor.timers.set id timer, mailbox }

theorem expire_leaves (s : System ω) (id : TimerId) :
    (s.expire id).supervisor.config = s.supervisor.config ∧
      (s.expire id).supervisor.configMode = s.supervisor.configMode ∧
      (s.expire id).mailbox.registered = s.mailbox.registered ∧
      (s.expire id).supervisor.timers.sorts = s.supervisor.timers.sorts :=
  ⟨rfl, rfl, Timer.registered_elapse _ _, Timers.sorts_set _ _ (Timer.sort_elapse _ _)⟩

theorem get_expire (s : System ω) (id other : TimerId) :
    (s.expire id).supervisor.timers.get other =
      if other = id then ((s.supervisor.timers.get id).elapse s.mailbox).1
      else s.supervisor.timers.get other :=
  Timers.get_set _ _ _ _

/-- A periodic timer goes on, whichever period ends. -/
theorem schedule_expire (s : System ω) (id other : TimerId)
    (hperiodic : (s.supervisor.timers.get other).kind = .periodic) :
    ((s.expire id).supervisor.timers.get other).schedule =
      (s.supervisor.timers.get other).schedule := by
  rw [get_expire]
  split_ifs with hitself
  · rw [← hitself]
    exact Timer.schedule_elapse _ _ hperiodic
  · rfl

/-- A timer that is not periodic is disarmed when its own period ends. -/
theorem isArmed_expire (s : System ω) (id other : TimerId)
    (honeShot : (s.supervisor.timers.get other).kind = .oneShot) :
    ((s.expire id).supervisor.timers.get other).isArmed =
      (decide (other ≠ id) && (s.supervisor.timers.get other).isArmed) := by
  rw [get_expire]
  split_ifs with hitself
  · subst hitself
    simp [Timer.isArmed_elapse_oneShot _ _ honeShot]
  · simp [hitself]

/-- **What is pending when a period ends**: what was pending before, and what an armed timer
sends. -/
theorem isPending_expire (hregistered : s.mailbox.registered = true) (id : TimerId)
    (signal : SupervisorSignal) :
    (s.expire id).mailbox.isPending signal =
      (s.mailbox.isPending signal || (s.supervisor.timers.get id).isArmed &&
        decide ((s.supervisor.timers.get id).signal = signal)) :=
  Timer.isPending_elapse _ hregistered signal

theorem isPending_post (hregistered : s.mailbox.registered = true)
    (signal other : SupervisorSignal) :
    (s.post signal).mailbox.isPending other =
      (s.mailbox.isPending other || decide (signal = other)) := by
  rw [Mailbox.isPending, post, Mailbox.pending_send hregistered, SignalSet.contains_insert,
    Mailbox.isPending]

/-! ### The broker -/

/-- Connecting to the broker leaves the supervisor's own state. -/
@[simp] theorem supervisor_startMqtt (s : System ω) :
    (s.startMqtt contact).supervisor = s.supervisor := by
  rw [startMqtt]
  split_ifs <;> rfl

@[simp] theorem supervisor_reconnect (s : System ω) :
    (s.reconnect contact).supervisor = s.supervisor := by
  rw [reconnect]
  split_ifs
  · rfl
  · exact supervisor_startMqtt (s.stopMqtt contact)

end System

/-! ### Courses -/

/-- A supervisor at work. -/
structure Course (ω : Type) where
  /-- The supervisor with all that it touches. -/
  system : System ω
  /-- What was taken and is not yet handled, in order. -/
  taken : List SupervisorSignal
  /-- What was handled, in order. -/
  handled : List SupervisorSignal

namespace Course

variable {ω : Type} {contact : Contact ω}

/-- What can happen to the supervisor. -/
inductive Turn (ω : Type) where
  /-- It is sent a signal. -/
  | send (signal : SupervisorSignal)
  /-- The period of a timer ends. -/
  | expire (id : TimerId)
  /-- It takes what is pending, if it has handled all that it took before. -/
  | take
  /-- It is given signals to handle, whatever is pending, if it has handled all that it took. -/
  | give (signals : SignalSet SupervisorSignal)
  /-- It handles the next signal that it took. -/
  | handle
  /-- Meanwhile the network, the relay's mailbox and the outside have become these. -/
  | meanwhile (net : NetworkStatus) (relayMailbox : Mailbox RelaySignal) (outside : ω)

/-- A supervisor that begins under a configuration, with nothing pending. -/
def begin (contact : Contact ω) (c : Config) (s : System ω) : Course ω where
  system := { s with supervisor := .new c, mailbox := Mailbox.new.register }.start contact
  taken := []
  handled := []

/-- One turn. -/
def turn (contact : Contact ω) (c : Course ω) : Turn ω → Course ω
  | .send signal => { c with system := c.system.post signal }
  | .expire id => { c with system := c.system.expire id }
  | .take =>
    match c.taken with
    | [] =>
      { c with
        system := { c.system with mailbox := c.system.mailbox.takeAll.2 }
        taken := c.system.mailbox.pending.toList }
    | _ :: _ => c
  | .give signals =>
    match c.taken with
    | [] => { c with taken := signals.toList }
    | _ :: _ => c
  | .handle =>
    match c.taken with
    | [] => c
    | signal :: rest =>
      { system := c.system.handle contact signal
        taken := rest
        handled := c.handled ++ [signal] }
  | .meanwhile net relayMailbox outside =>
    { c with system := { c.system with net, relayMailbox, outside } }

/-- Turns in order. -/
def follow (contact : Contact ω) (c : Course ω) (turns : List (Turn ω)) : Course ω :=
  turns.foldl (turn contact) c

/-- Whether a signal is pending, or taken and not yet handled. -/
def waits (c : Course ω) (signal : SupervisorSignal) : Bool :=
  decide (signal ∈ c.taken) || c.system.mailbox.isPending signal

/-- The turns in which all that was taken is handled. -/
theorem follow_replicate_handle (contact : Contact ω) (c : Course ω) :
    c.follow contact (List.replicate c.taken.length .handle) =
      { system := c.taken.foldl (fun s signal ↦ s.handle contact signal) c.system
        taken := []
        handled := c.handled ++ c.taken } := by
  obtain ⟨system, taken, handled⟩ := c
  induction taken generalizing system handled with
  | nil => simp [follow]
  | cons signal rest ih =>
    rw [List.length_cons, List.replicate_succ]
    refine (ih (system.handle contact signal) (handled ++ [signal])).trans ?_
    simp

/-- **A wake-up is a course**: what is pending is taken and then handled. -/
theorem system_follow_wake (contact : Contact ω) {c : Course ω} (hrests : c.taken = []) :
    (c.follow contact (.take :: List.replicate c.system.mailbox.pending.toList.length
      .handle)).system = (c.system.wake contact).2 := by
  have htaken : c.turn contact .take =
      { c with
        system := { c.system with mailbox := c.system.mailbox.takeAll.2 }
        taken := c.system.mailbox.pending.toList } := by
    simp only [turn, hrests]
  show (Course.follow contact (c.turn contact .take) _).system = _
  rw [htaken, follow_replicate_handle]
  rfl

end Course

end Supervisor

end BeaconGateway
