import BeaconGateway.Error
import BeaconGateway.Signal.Mailbox

/-!
# Timers

A timer sends its signal when its period is over: again and again if it is periodic, once
otherwise. Starting it again restarts the period, and once it has been stopped it sends nothing
until it is started.

Behind an armed timer a helper waits for the end of the period. Each start and each stop opens a
new generation; a helper belongs to the generation of its start and ends without a trace when the
clockwork has moved on.

## Main definitions

* `Clockwork` — the generation and whether the timer is armed;
* `Clockwork.Helper` — what waits for the end of a period, with `Clockwork.wake` as one look at
  the clockwork;
* `Timer` — a timer for a signal;
* `Timer.start`, `Timer.stop`, `Timer.restart`, `Timer.elapse` — its operations.
-/

namespace BeaconGateway

/-- Whether a timer goes on after its first signal. -/
inductive TimerKind where
  | periodic
  | oneShot
  deriving DecidableEq

/-! ### The clockwork -/

/-- What a timer and its helpers share. -/
structure Clockwork where
  /-- Counts the starts and stops so far. -/
  generation : UInt64
  /-- Whether the timer is armed. -/
  armed : Bool
  deriving DecidableEq

namespace Clockwork

/-- A timer that was never started. -/
def idle : Clockwork :=
  ⟨0, false⟩

/-- Waits for the end of a period, on behalf of one start. -/
structure Helper where
  /-- The generation of its start. -/
  generation : UInt64
  /-- Whether it waits again afterwards. -/
  kind : TimerKind
  deriving DecidableEq

/-- Arm the timer in a new generation. The helper of that generation has still to be sent off. -/
def start (c : Clockwork) : Clockwork :=
  ⟨c.generation + 1, true⟩

/-- Disarm the timer, so that no helper on the way does anything. -/
def stop (c : Clockwork) : Clockwork :=
  ⟨c.generation + 1, false⟩

/-- What a helper does when it looks at the clockwork. -/
inductive Outcome where
  /-- It ends without a trace, for its generation is over. -/
  | gone
  /-- It goes on waiting, for its period is not over. -/
  | waiting
  /-- It sends the signal and waits for the next period. -/
  | firedAgain
  /-- It sends the signal and ends. -/
  | firedLast
  deriving DecidableEq

/-- A helper looks at the clockwork, its period being over or not. -/
def wake (c : Clockwork) (h : Helper) (elapsed : Bool) : Outcome × Clockwork :=
  if c.generation ≠ h.generation then (.gone, c)
  else if !elapsed then (.waiting, c)
  else
    match h.kind with
    | .periodic => (.firedAgain, c)
    | .oneShot => (.firedLast, { c with armed := false })

end Clockwork

/-! ### Timers -/

/-- A timer that sends a signal `σ`. -/
structure Timer (σ : Type) where
  /-- What it is called. -/
  name : String
  /-- Whether it goes on after its first signal. -/
  kind : TimerKind
  /-- The period in milliseconds. -/
  period : Nat
  /-- A period takes time. -/
  period_pos : 0 < period
  /-- What it sends. -/
  signal : σ
  /-- Whether it is armed, and since when. -/
  clockwork : Clockwork

namespace Timer

variable {σ : Type}

/-- A timer that is not armed. -/
def new (name : String) (kind : TimerKind) (signal : σ) (period : Nat) (h : 0 < period) :
    Timer σ :=
  ⟨name, kind, period, h, signal, .idle⟩

/-- A timer that is not armed; a period of zero is refused. -/
def create (name : String) (kind : TimerKind) (signal : σ) (period : Nat) :
    Except Error (Timer σ) :=
  if h : 0 < period then .ok (new name kind signal period h)
  else .error (.init "timer period must be non-zero")

/-- Disarm the timer. -/
def stop (t : Timer σ) : Timer σ :=
  { t with clockwork := t.clockwork.stop }

/-- Arm the timer for a whole period, whether it was armed or not. -/
def start (t : Timer σ) : Timer σ :=
  { t with clockwork := t.clockwork.stop.start }

/-- Arm the timer with a new period; a period of zero changes nothing. -/
def restart (t : Timer σ) (period : Nat) : Timer σ :=
  if h : 0 < period then { t with period, period_pos := h }.start else t

/-- Whether the timer is armed. -/
def isArmed (t : Timer σ) : Bool :=
  t.clockwork.armed

/-- The period of an armed timer. -/
def schedule (t : Timer σ) : Option Nat :=
  if t.isArmed then some t.period else none

/-- The helper of the last start. -/
def helper (t : Timer σ) : Clockwork.Helper :=
  ⟨t.clockwork.generation, t.kind⟩

/-- The period of an armed timer ends: its helper sends the signal, and a timer that is not
periodic is disarmed. Nothing comes of a timer that is not armed. -/
def elapse [SignalKind σ] (t : Timer σ) (m : Mailbox σ) : Timer σ × Mailbox σ :=
  if t.isArmed then
    ({ t with clockwork := (t.clockwork.wake t.helper true).2 }, (m.send t.signal).2)
  else (t, m)

end Timer

end BeaconGateway
