import BeaconGateway.Signal.Set

/-!
# Mailboxes

A task waits on its mailbox. A sender marks its signal as pending and then rings; the task takes
all pending signals at once. A signal sent twice before the task looks is pending once. A mailbox
that no task has registered takes nothing.

Sending and waiting are each more than one step, and other tasks may come in between; the steps
are named here (`mark`, `ring`, `takeAll`, `hear`) so that their interleavings can be spoken of.

## Main definitions

* `Mailbox` — pending signals, the bell, and whether a task is registered;
* `Mailbox.mark`, `Mailbox.ring`, `Mailbox.takeAll`, `Mailbox.hear` — the single steps;
* `Mailbox.send`, `Mailbox.wait?` — sending and waiting with nobody in between.
-/

namespace BeaconGateway

/-- The mailbox of a task with signals `σ`. -/
structure Mailbox (σ : Type) where
  /-- The signals that are pending. -/
  pending : SignalSet σ
  /-- Whether the bell has rung since it was last heard. -/
  bell : Bool
  /-- Whether a task takes signals here. -/
  registered : Bool
  deriving DecidableEq

namespace Mailbox

variable {σ : Type} [SignalKind σ]

/-- A mailbox that no task has registered. -/
def new : Mailbox σ :=
  ⟨.empty, false, false⟩

/-- Start to take signals; none is pending. -/
def register (_ : Mailbox σ) : Mailbox σ :=
  ⟨.empty, false, true⟩

/-- Stop to take signals, and forget those that are pending. -/
def unregister (m : Mailbox σ) : Mailbox σ :=
  { m with pending := .empty, registered := false }

/-! ### Single steps -/

/-- Mark a signal as pending. -/
def mark (m : Mailbox σ) (s : σ) : Mailbox σ :=
  { m with pending := m.pending.insert s }

/-- Ring the bell. -/
def ring (m : Mailbox σ) : Mailbox σ :=
  { m with bell := true }

/-- Take every pending signal. -/
def takeAll (m : Mailbox σ) : SignalSet σ × Mailbox σ :=
  (m.pending, { m with pending := .empty })

/-- Hear the bell, which is silent then. -/
def hear (m : Mailbox σ) : Mailbox σ :=
  { m with bell := false }

/-! ### Whole operations -/

/-- Send a signal. The answer is `false` if no task is registered. -/
def send (m : Mailbox σ) (s : σ) : Bool × Mailbox σ :=
  if m.registered then (true, (m.mark s).ring) else (false, m)

/-- Send signals in order. -/
def sendAll (m : Mailbox σ) (signals : List σ) : Mailbox σ :=
  signals.foldl (fun m s ↦ (m.send s).2) m

/-- Whether a signal is pending. -/
def isPending (m : Mailbox σ) (s : σ) : Bool :=
  m.pending.contains s

/-- Take every pending signal if there is one; `none` where a task would have to wait. -/
def wait? (m : Mailbox σ) : Option (SignalSet σ × Mailbox σ) :=
  if m.pending.isEmpty then none else some m.takeAll

end Mailbox

end BeaconGateway
