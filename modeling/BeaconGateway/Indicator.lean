/-!
# The indicator

A lamp shows whether local clients poll for history. Configuration mode has a pattern of its own;
what was shown before it, or would have been shown since, comes back afterwards.

## Main definitions

* `Indication` — what can be shown;
* `Indicator` — what is shown, and what comes back after configuration mode.
-/

namespace BeaconGateway

/-- What the lamp can show. -/
inductive Indication where
  | idle
  | pollOk
  | pollTimeout
  | configMode
  deriving DecidableEq

/-- What the lamp shows. -/
structure Indicator where
  /-- What is shown. -/
  current : Indication
  /-- What comes back after configuration mode. -/
  beforeConfig : Indication
  deriving DecidableEq

namespace Indicator

/-- Nothing has happened. -/
def new : Indicator :=
  ⟨.idle, .idle⟩

/-- Show something, now or after configuration mode. -/
def poll (i : Indicator) (next : Indication) : Indicator :=
  if i.current = .configMode then { i with beforeConfig := next } else { i with current := next }

/-- A local client has polled. -/
def pollOk (i : Indicator) : Indicator :=
  i.poll .pollOk

/-- No local client has polled for too long. -/
def pollTimeout (i : Indicator) : Indicator :=
  i.poll .pollTimeout

/-- Configuration mode begins or ends. -/
def configMode (i : Indicator) (active : Bool) : Indicator :=
  if active then
    { current := .configMode
      beforeConfig := if i.current = .configMode then i.beforeConfig else i.current }
  else if i.current = .configMode then { i with current := i.beforeConfig }
  else i

end Indicator

end BeaconGateway
