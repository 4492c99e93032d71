/-!
# The task watchdog

Each long-running task subscribes to the watchdog and feeds it from then on. Feeding without a
subscription does nothing.

## Main definitions

* `Watchdog` — the subscription of one task, and how often it has fed;
* `WatchdogCall` — what a task asks of it, with `Watchdog.answer`.
-/

namespace BeaconGateway

/-- The subscription of one task. -/
structure Watchdog where
  /-- Whether the task is subscribed. -/
  subscribed : Bool
  /-- How often it has fed; the count wraps. -/
  feeds : UInt32
  deriving DecidableEq

namespace Watchdog

/-- A task that has not subscribed. -/
def new : Watchdog :=
  ⟨false, 0⟩

/-- Subscribe. -/
def register (w : Watchdog) : Watchdog :=
  { w with subscribed := true }

/-- Show that the task is alive. -/
def feed (w : Watchdog) : Watchdog :=
  if w.subscribed then { w with feeds := w.feeds + 1 } else w

/-- Give up the subscription. -/
def unregister (w : Watchdog) : Watchdog :=
  { w with subscribed := false }

end Watchdog

/-- What a task asks of the watchdog. -/
inductive WatchdogCall where
  | register
  | feed
  | unregister
  deriving DecidableEq

/-- What comes of a call. While the watchdog is not ready it refuses to subscribe, and nothing
changes; the answer says whether it did what it was asked. -/
def Watchdog.answer (w : Watchdog) (ready : Bool) : WatchdogCall → Bool × Watchdog
  | .register => if ready then (true, w.register) else (false, w)
  | .feed => (true, w.feed)
  | .unregister => (true, w.unregister)

end BeaconGateway
