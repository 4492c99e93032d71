import BeaconGateway.Proofs.Supervisor.Course

/-!
# What signals leave alone

Few signals touch the supervisor's own state. Free memory is watched on one signal alone, and each
timer is touched by a handful of signals, some of them only in configuration mode or out of it. What
kind a timer is and what it sends stays as it is even then. All else that a handler does goes to the
outside, to the relay, to the network status or to the supervisor's mailbox.

| signal                                 | timers that it touches                          |
|----------------------------------------|-------------------------------------------------|
| looked for new firmware, or scheduled  | update checks                                   |
| configuration mode entered             | remote configuration, update checks             |
| services restarted                     | remote configuration, update checks             |
| configuration mode left                | the same, and that of the polls                 |
| history served                         | that of the polls                               |
| any other                              | none                                            |

## Main results

* `Supervisor.touches` — the timers that a signal touches;
* `Supervisor.System.Spares` — what is left of the supervisor's own state, with one lemma for each
  handler up to `Supervisor.System.handle_spares`;
* `Supervisor.System.get_handle` — a timer that a signal does not touch stays as it is;
* `Supervisor.System.sorts_handle` — all timers keep their kinds and signals.
-/

namespace BeaconGateway.Supervisor

/-- The timers that a signal touches, in configuration mode or out of it. -/
def touches (configMode : Bool) : SupervisorSignal → List TimerId
  | .checkForUpdates | .scheduleNextCheck | .scheduleRetry => [.updates]
  | .activateConfigMode => if configMode then [] else [.remote, .updates]
  | .deactivateConfigMode => if configMode then [.history, .remote, .updates] else []
  | .restartServices => [.remote, .updates]
  | .historyServed => [.history]
  | _ => []

namespace System

variable {ω : Type} {contact : Contact ω} {s s' s'' : System ω} {touched : List TimerId}

/-- **What is left of the supervisor's own state**: the watch on free memory, all timers but some,
and the kinds and signals of all. -/
structure Spares (touched : List TimerId) (s s' : System ω) : Prop where
  /-- No free memory is sampled. -/
  heap : s'.supervisor.heap = s.supervisor.heap
  /-- The other timers stay as they are. -/
  timers : ∀ id ∉ touched, s'.supervisor.timers.get id = s.supervisor.timers.get id
  /-- All timers keep their kinds and signals. -/
  sorts : s'.supervisor.timers.sorts = s.supervisor.timers.sorts

namespace Spares

/-- What leaves the supervisor's own state spares everything. -/
theorem of_supervisor_eq (hsame : s'.supervisor = s.supervisor) : Spares touched s s' := by
  refine ⟨?_, fun id _ ↦ ?_, ?_⟩ <;> rw [hsame]

/-- What is spared by one step and by the next. -/
theorem trans (hfirst : Spares touched s s') (hsecond : Spares touched s' s'') :
    Spares touched s s'' where
  heap := hsecond.heap.trans hfirst.heap
  timers id hother := (hsecond.timers id hother).trans (hfirst.timers id hother)
  sorts := hsecond.sorts.trans hfirst.sorts

/-- One timer is replaced by one of its kind. -/
theorem set {id : TimerId} {timer : Timer SupervisorSignal} (hmem : id ∈ touched)
    (hheap : s'.supervisor.heap = s.supervisor.heap)
    (htimers : s'.supervisor.timers = s.supervisor.timers.set id timer)
    (hsame : timer.sort = (s.supervisor.timers.get id).sort) : Spares touched s s' where
  heap := hheap
  timers other hapart := by
    rw [htimers, Timers.get_set, if_neg]
    rintro rfl
    exact hapart hmem
  sorts := by rw [htimers, Timers.sorts_set _ id hsame]

end Spares

/-- A question goes to the outside. -/
theorem request_spares (r : Request) (s : System ω) : Spares touched s (s.request contact r) :=
  .of_supervisor_eq rfl

/-- Connecting to the broker goes to the outside and the network status. -/
theorem startMqtt_spares (s : System ω) : Spares touched s (s.startMqtt contact) :=
  .of_supervisor_eq (supervisor_startMqtt s)

/-- To schedule a look restarts the timer of the update checks. -/
theorem scheduleCheck_spares (hmem : .updates ∈ touched) (delay : Nat) (s : System ω) :
    Spares touched s (s.scheduleCheck delay) :=
  .set hmem rfl rfl (Timer.sort_restart _ _)

/-- The timer of the remote configuration is restarted or stopped, and keeps its kind either way. -/
theorem scheduleRemote_spares (hmem : .remote ∈ touched) (s : System ω) :
    Spares touched s s.scheduleRemote := by
  refine .set hmem rfl rfl ?_
  split_ifs
  · exact Timer.sort_restart _ _
  · rfl

/-- The first look is scheduled on the timer of the update checks, or handled by `manual` if looks
are manual. -/
theorem scheduleFirstCheck_spares {manual : Timer SupervisorSignal → Timer SupervisorSignal}
    (hmem : .updates ∈ touched) (hsame : ∀ timer, (manual timer).sort = timer.sort) (s : System ω) :
    Spares touched s (s.scheduleFirstCheck manual) := by
  rw [scheduleFirstCheck]
  split_ifs
  · exact .set hmem rfl rfl (hsame _)
  · exact scheduleCheck_spares hmem _ s

/-- Serving history starts the timer of the polls anew. -/
theorem onHistoryServed_spares (hmem : .history ∈ touched) (s : System ω) :
    Spares touched s (s.onHistoryServed contact) :=
  .set hmem rfl rfl (Timer.sort_start _)

/-- Restarting the services reconnects, which is no matter of the timers, and then arms two of them.
-/
theorem onRestartServices_spares (hremote : .remote ∈ touched) (hupdates : .updates ∈ touched)
    (s : System ω) : Spares touched s (s.onRestartServices contact) := by
  have hreconnected : Spares touched s (s.reconnect contact) :=
    .of_supervisor_eq (supervisor_reconnect s)
  have hscheduled : Spares touched (s.reconnect contact) (s.onRestartServices contact) :=
    ((request_spares _ _).trans (scheduleRemote_spares hremote _)).trans
      (scheduleFirstCheck_spares hupdates Timer.sort_stop _)
  exact hreconnected.trans hscheduled

/-- A look schedules the next one, however it ends. -/
theorem onCheckForUpdates_spares (s : System ω) :
    Spares [.updates] s (s.onCheckForUpdates contact) := by
  have hasked : Spares [.updates] s (s.ask contact .checkForUpdates).2 := .of_supervisor_eq rfl
  rw [onCheckForUpdates]
  split
  · rcases hanswer : s.ask contact .checkForUpdates with ⟨done, s'⟩
    rw [hanswer] at hasked
    cases done with
    | true => exact hasked.trans (scheduleCheck_spares (by simp) _ s')
    | false => exact hasked.trans (scheduleCheck_spares (by simp) _ s')
  · exact scheduleCheck_spares (by simp) _ s

/-- Entering configuration mode stops two timers. -/
theorem onActivateConfigMode_spares (hinactive : s.supervisor.configMode = false) :
    Spares [.remote, .updates] s (s.onActivateConfigMode contact) := by
  have hentered : Spares [.remote, .updates] s s.enterConfigMode := by
    refine ⟨rfl, fun id hother ↦ ?_, ?_⟩
    · cases id with
      | remote | updates => exact absurd hother (by decide)
      | heap | history | feedWatchdog => rfl
    · funext id
      cases id <;> rfl
  rw [onActivateConfigMode, hinactive]
  exact hentered.trans (.of_supervisor_eq rfl)

/-- Leaving it arms the two again, and that of the polls. -/
theorem onDeactivateConfigMode_spares (hactive : s.supervisor.configMode = true) :
    Spares [.history, .remote, .updates] s (s.onDeactivateConfigMode contact) := by
  have hleft : Spares [.history, .remote, .updates] s (s.leaveConfigMode contact) :=
    .set (show .history ∈ _ by simp) rfl rfl (Timer.sort_start _)
  have hresumed : Spares [.history, .remote, .updates]
      ((s.leaveConfigMode contact).onRestartServices contact)
      ((s.leaveConfigMode contact).onRestartServices contact).resume := .of_supervisor_eq rfl
  rw [onDeactivateConfigMode_eq hactive]
  exact (hleft.trans (onRestartServices_spares (by simp) (by simp) _)).trans hresumed

/-- **All signals but that to sample free memory** leave the watch on it, and the timers that they
do not touch. -/
theorem handle_spares {signal : SupervisorSignal} (hother : signal ≠ .logHeapUsage)
    (s : System ω) :
    Spares (touches s.supervisor.configMode signal) s (s.handle contact signal) := by
  cases signal with
  | logHeapUsage => exact absurd rfl hother
  | checkForUpdates => exact onCheckForUpdates_spares s
  | scheduleNextCheck | scheduleRetry => exact scheduleCheck_spares (by simp [touches]) _ s
  | activateConfigMode =>
    cases hactive : s.supervisor.configMode with
    | true =>
      rw [handle, onActivateConfigMode, if_pos hactive]
      exact .of_supervisor_eq rfl
    | false => exact onActivateConfigMode_spares hactive
  | deactivateConfigMode =>
    cases hactive : s.supervisor.configMode with
    | true => exact onDeactivateConfigMode_spares hactive
    | false =>
      rw [handle, onDeactivateConfigMode, hactive]
      exact .of_supervisor_eq rfl
  | restartServices => exact onRestartServices_spares (by simp [touches]) (by simp [touches]) s
  | checkForRemoteConfig =>
    rw [handle, onCheckForRemoteConfig]
    split_ifs <;> exact .of_supervisor_eq rfl
  -- besides the outside, the supervisor may send itself a signal
  | networkConnected =>
    rw [handle, onNetworkConnected]
    dsimp only
    split_ifs <;> exact ⟨rfl, fun _ _ ↦ rfl, rfl⟩
  | historyServed => exact onHistoryServed_spares (by simp [touches]) s
  | relayingModeChanged =>
    have hconnected : Spares [] s (s.startMqtt contact) := startMqtt_spares s
    rw [handle, onRelayingModeChanged]
    split_ifs
    · exact .of_supervisor_eq rfl
    · exact hconnected.trans (.of_supervisor_eq rfl)
    · exact .of_supervisor_eq rfl
  | setDefaultConfig | networkDisconnected | reconnectNetwork | historyTimeout | feedWatchdog
  | stop => exact ⟨rfl, fun _ _ ↦ rfl, rfl⟩

/-- To sample free memory touches no timer. -/
@[simp] theorem timers_onHeapSample (s : System ω) :
    (s.onHeapSample contact).supervisor.timers = s.supervisor.timers := by
  rw [onHeapSample]
  dsimp only
  split <;> rfl

/-- **A timer that a signal does not touch** stays as it is. -/
theorem get_handle {signal : SupervisorSignal} {id : TimerId} (s : System ω)
    (huntouched : id ∉ touches s.supervisor.configMode signal) :
    (s.handle contact signal).supervisor.timers.get id = s.supervisor.timers.get id := by
  by_cases hsamples : signal = .logHeapUsage
  · rw [hsamples, handle, timers_onHeapSample]
  · exact (handle_spares hsamples s).timers id huntouched

/-- **Timers keep their kinds and signals**, whatever is handled. -/
theorem sorts_handle (s : System ω) (signal : SupervisorSignal) :
    (s.handle contact signal).supervisor.timers.sorts = s.supervisor.timers.sorts := by
  by_cases hsamples : signal = .logHeapUsage
  · rw [hsamples, handle, timers_onHeapSample]
  · exact (handle_spares hsamples s).sorts

/-- To begin touches every timer, and samples no free memory. -/
theorem start_spares (s : System ω) :
    Spares [.heap, .updates, .remote, .history, .feedWatchdog] s (s.start contact) := by
  let s' := (s.subscribe contact).startMqtt contact
  let armed := { s' with
    supervisor.timers.heap := s'.supervisor.timers.heap.start
    supervisor.timers.history := s'.supervisor.timers.history.start }
  have hsubscribed : Spares [.heap, .updates, .remote, .history, .feedWatchdog] s
      (s.subscribe contact) :=
    .set (show .feedWatchdog ∈ _ by simp) rfl rfl (Timer.sort_start _)
  have harms : Spares [.heap, .updates, .remote, .history, .feedWatchdog] s' armed := by
    refine ⟨rfl, fun id hother ↦ ?_, ?_⟩
    · exact absurd hother (by cases id <;> decide)
    · funext id
      cases id <;> rfl
  have hscheduled : Spares [.heap, .updates, .remote, .history, .feedWatchdog] armed
      (s.start contact) :=
    (scheduleRemote_spares (by simp) _).trans (scheduleFirstCheck_spares (by simp) (fun _ ↦ rfl) _)
  exact ((hsubscribed.trans (startMqtt_spares _)).trans harms).trans hscheduled

end System

end BeaconGateway.Supervisor
