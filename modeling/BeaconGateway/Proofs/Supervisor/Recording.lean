import BeaconGateway.Proofs.Supervisor.Questions

/-!
# Watching the supervisor

An outside that lies over another (`Ask.LiesOver`) and shows the same clock and the same free memory
is the same to the supervisor: the handling of each signal does with the one what it does with the
other. An outside with a record is such an outside, so the record of what the supervisor asks is
that of its own run.

## Main results

* `Contact.LiesOver` — an outside that carries more, and answers the same;
* `Supervisor.System.map_handle` — the supervisor does the same over both;
* `Supervisor.System.requests` — what the supervisor asks while it handles a signal;
* `Supervisor.System.recording_handle` — the run from which the record is taken is the supervisor's
  own;
* `Supervisor.System.suits_of_mem_requests` — none of the questions belongs to another signal;
* `Supervisor.System.startRequests` — what the supervisor asks as it begins, with
  `Supervisor.System.suits_of_mem_startRequests`.
-/

namespace BeaconGateway.Supervisor

variable {ω ω' : Type} {f : ω' → ω} {contact : Contact ω} {contact' : Contact ω'}

/-- An outside that carries more than another and answers the same. -/
structure Contact.LiesOver (contact' : Contact ω') (contact : Contact ω) (f : ω' → ω) : Prop where
  /-- The answers are the same, and so is what they leave behind. -/
  ask : contact'.ask.LiesOver contact.ask f
  /-- The clocks agree. -/
  unixTime : ∀ o, contact'.unixTime o = contact.unixTime (f o)
  /-- The free memory is the same. -/
  freeHeap : ∀ o, contact'.freeHeap o = contact.freeHeap (f o)

/-- An outside with a record lies over the one without. -/
theorem Contact.recorded_liesOver (contact : Contact ω) :
    contact.recorded.LiesOver contact Prod.fst :=
  ⟨contact.ask.recorded_liesOver, fun _ ↦ rfl, fun _ ↦ rfl⟩

namespace System

/-- The supervisor stands over an outside. -/
instance : Task System where
  outside := System.outside
  onto s outside := { s with outside }
  outside_onto _ _ := rfl
  onto_onto _ _ _ := rfl

/-- The same supervisor, seen over a plainer outside. -/
abbrev map (f : ω' → ω) (s : System ω') : System ω :=
  Task.map f s

/-- A question is answered the same over both outsides, and leaves the same behind. -/
theorem map_ask (hlies : contact'.LiesOver contact f) (r : Request) (s : System ω') :
    ((s.ask contact' r).1, (s.ask contact' r).2.map f) = (s.map f).ask contact r :=
  Task.map_asks hlies.ask r s

/-- What the question leaves behind, without its answer. -/
theorem map_request (hlies : contact'.LiesOver contact f) (r : Request) (s : System ω') :
    (s.request contact' r).map f = (s.map f).request contact r :=
  congrArg Prod.snd (map_ask hlies r s)

theorem map_stopMqtt (hlies : contact'.LiesOver contact f) (s : System ω') :
    (s.stopMqtt contact').map f = (s.map f).stopMqtt contact :=
  congrArg (fun s : System ω ↦ { s with net := s.net.onBroker false })
    (map_request hlies .stopMqtt s)

theorem map_startMqtt (hlies : contact'.LiesOver contact f) (s : System ω') :
    (s.startMqtt contact').map f = (s.map f).startMqtt contact := by
  rw [startMqtt, startMqtt]
  exact Task.map_ite (map_request hlies _ s) rfl

/-- The free memory is the same, hence so is the verdict on it. -/
theorem map_onHeapSample (hlies : contact'.LiesOver contact f) (s : System ω') :
    (s.onHeapSample contact').map f = (s.map f).onHeapSample contact := by
  have hsame : (s.map f).supervisor.heap.sample (contact.freeHeap (s.map f).outside) =
      s.supervisor.heap.sample (contact'.freeHeap s.outside) := by
    rw [hlies.freeHeap]
    rfl
  rw [onHeapSample, onHeapSample, hsame]
  rcases s.supervisor.heap.sample (contact'.freeHeap s.outside) with ⟨verdict, heap⟩
  cases verdict with
  | reboot => exact map_request hlies _ _
  | sampling | windowOk | windowLow => rfl

/-- Whether a look is allowed now hangs on the clock, which is the same over both. -/
theorem map_onCheckForUpdates (hlies : contact'.LiesOver contact f) (s : System ω') :
    (s.onCheckForUpdates contact').map f = (s.map f).onCheckForUpdates contact := by
  have hanswered := map_ask hlies .checkForUpdates s
  have hsame : checkAllowed (s.map f).supervisor.config.autoUpdate (s.map f).net.isConnected
      (contact.unixTime (s.map f).outside) =
      checkAllowed s.supervisor.config.autoUpdate s.net.isConnected
        (contact'.unixTime s.outside) := by
    rw [hlies.unixTime]
    rfl
  rw [onCheckForUpdates, onCheckForUpdates, hsame, ← hanswered]
  cases checkAllowed s.supervisor.config.autoUpdate s.net.isConnected
      (contact'.unixTime s.outside) with
  | error => rfl
  | ok =>
    rcases s.ask contact' .checkForUpdates with ⟨done, s'⟩
    cases done <;> rfl

theorem map_onCheckForRemoteConfig (hlies : contact'.LiesOver contact f) (s : System ω') :
    (s.onCheckForRemoteConfig contact').map f = (s.map f).onCheckForRemoteConfig contact := by
  rw [onCheckForRemoteConfig, onCheckForRemoteConfig]
  exact Task.map_ite (map_request hlies _ s) rfl

theorem map_onHistoryServed (hlies : contact'.LiesOver contact f) (s : System ω') :
    (s.onHistoryServed contact').map f = (s.map f).onHistoryServed contact :=
  map_request hlies _ _

/-- To arm a timer asks nothing. -/
theorem map_scheduleFirstCheck (manual : Timer SupervisorSignal → Timer SupervisorSignal)
    (s : System ω') :
    (s.scheduleFirstCheck manual).map f = (s.map f).scheduleFirstCheck manual := by
  rw [scheduleFirstCheck, scheduleFirstCheck]
  exact Task.map_ite rfl rfl

/-- Restarting the services reconnects as the suspension says, which is no part of the outside. -/
theorem map_onRestartServices (hlies : contact'.LiesOver contact f) (s : System ω') :
    (s.onRestartServices contact').map f = (s.map f).onRestartServices contact := by
  have hreconnected : (if (s.stopMqtt contact').net.isSuspended then s.stopMqtt contact'
        else (s.stopMqtt contact').startMqtt contact').map f =
      if ((s.map f).stopMqtt contact).net.isSuspended then (s.map f).stopMqtt contact
      else ((s.map f).stopMqtt contact).startMqtt contact := by
    rw [← map_stopMqtt hlies]
    exact Task.map_ite rfl (map_startMqtt hlies _)
  rw [onRestartServices, onRestartServices, ← hreconnected, map_scheduleFirstCheck]
  exact congrArg (fun s : System ω ↦ s.scheduleRemote.scheduleFirstCheck Timer.stop)
    (map_request hlies _ _)

theorem map_onActivateConfigMode (hlies : contact'.LiesOver contact f) (s : System ω') :
    (s.onActivateConfigMode contact').map f = (s.map f).onActivateConfigMode contact := by
  rw [onActivateConfigMode, onActivateConfigMode]
  refine Task.map_ite rfl ?_
  show map f _ = _
  rw [map_request hlies, map_request hlies]
  rfl

/-- Configuration mode is left in three steps, each of which is the same over both. -/
theorem map_onDeactivateConfigMode (hlies : contact'.LiesOver contact f) (s : System ω') :
    (s.onDeactivateConfigMode contact').map f = (s.map f).onDeactivateConfigMode contact := by
  cases hactive : s.supervisor.configMode with
  | false =>
    have hactive' : (s.map f).supervisor.configMode = false := hactive
    rw [onDeactivateConfigMode, onDeactivateConfigMode, hactive, hactive']
    rfl
  | true =>
    have hactive' : (s.map f).supervisor.configMode = true := hactive
    have hleft : (s.leaveConfigMode contact').map f = (s.map f).leaveConfigMode contact := by
      rw [leaveConfigMode, map_onHistoryServed hlies, map_request hlies, map_request hlies]
      rfl
    rw [onDeactivateConfigMode_eq hactive, onDeactivateConfigMode_eq hactive', ← hleft,
      ← map_onRestartServices hlies]
    rfl

theorem map_onSetDefaultConfig (hlies : contact'.LiesOver contact f) (s : System ω') :
    (s.onSetDefaultConfig contact').map f = (s.map f).onSetDefaultConfig contact :=
  congrArg (fun s : System ω ↦ s.post .deactivateConfigMode)
    (map_request hlies (.saveConfig .default) { s with supervisor.config := .default })

/-- What the relay is told, and whether the broker is used, is read off the shared state. -/
theorem map_onRelayingModeChanged (hlies : contact'.LiesOver contact f) (s : System ω') :
    (s.onRelayingModeChanged contact').map f = (s.map f).onRelayingModeChanged contact := by
  rw [onRelayingModeChanged, onRelayingModeChanged]
  refine Task.map_ite ?_ (Task.map_ite ?_ ?_)
  · exact congrArg (tellRelay .disable) (map_stopMqtt hlies s)
  · exact congrArg (tellRelay .enable) (map_startMqtt hlies s)
  · exact congrArg (tellRelay .enable) (map_stopMqtt hlies s)

theorem map_onNetworkConnected (hlies : contact'.LiesOver contact f) (s : System ω') :
    (s.onNetworkConnected contact').map f = (s.map f).onNetworkConnected contact := by
  rw [onNetworkConnected, onNetworkConnected, ← map_request hlies]
  exact Task.map_ite rfl rfl

/-- **The supervisor does the same** over an outside that carries more. -/
theorem map_handle (hlies : contact'.LiesOver contact f) (s : System ω')
    (signal : SupervisorSignal) :
    (s.handle contact' signal).map f = (s.map f).handle contact signal := by
  cases signal with
  | logHeapUsage => exact map_onHeapSample hlies s
  | checkForUpdates => exact map_onCheckForUpdates hlies s
  | scheduleNextCheck | scheduleRetry | stop => rfl
  | activateConfigMode => exact map_onActivateConfigMode hlies s
  | deactivateConfigMode => exact map_onDeactivateConfigMode hlies s
  | restartServices => exact map_onRestartServices hlies s
  | checkForRemoteConfig => exact map_onCheckForRemoteConfig hlies s
  | networkConnected => exact map_onNetworkConnected hlies s
  | networkDisconnected | reconnectNetwork | historyTimeout | feedWatchdog =>
    exact map_request hlies _ s
  | setDefaultConfig => exact map_onSetDefaultConfig hlies s
  | historyServed => exact map_onHistoryServed hlies s
  | relayingModeChanged => exact map_onRelayingModeChanged hlies s

/-- The beginning of the task is the same over both. -/
theorem map_start (hlies : contact'.LiesOver contact f) (s : System ω') :
    (s.start contact').map f = (s.map f).start contact := by
  -- the timers that are armed on the way are no part of the outside
  have hsubscribed : (s.subscribe contact').map f = (s.map f).subscribe contact :=
    congrArg (fun s : System ω ↦ { s with
      supervisor.timers.feedWatchdog := s.supervisor.timers.feedWatchdog.start })
      (map_request hlies (.watchdog .register) s)
  have hconnected : ((s.subscribe contact').startMqtt contact').map f =
      ((s.map f).subscribe contact).startMqtt contact := by
    rw [map_startMqtt hlies, hsubscribed]
  have harmed := congrArg (fun s : System ω ↦ ({ s with
      supervisor.timers.heap := s.supervisor.timers.heap.start
      supervisor.timers.history := s.supervisor.timers.history.start } : System ω).scheduleRemote)
    hconnected
  show map f (scheduleFirstCheck id _) = scheduleFirstCheck id _
  rw [map_scheduleFirstCheck]
  exact congrArg (scheduleFirstCheck id) harmed

/-! ### The record of a signal -/

/-- The supervisor with an empty record beside its outside. -/
abbrev recording (s : System ω) : System (ω × List (Request × Bool)) :=
  Task.recording s

/-- The record begins empty. -/
@[simp]
theorem outside_recording (s : System ω) : s.recording.outside = (s.outside, []) :=
  rfl

/-- **The record is that of the supervisor's own run.** -/
theorem recording_handle (s : System ω) (signal : SupervisorSignal) :
    (s.recording.handle contact.recorded signal).map Prod.fst = s.handle contact signal :=
  map_handle contact.recorded_liesOver s.recording signal

/-- What the supervisor asks while it handles a signal, in order. -/
def requests (contact : Contact ω) (signal : SupervisorSignal) (s : System ω) : List Request :=
  (s.recording.handle contact.recorded signal).outside.2.map Prod.fst

/-- **No question belongs to another signal** than the one that is handled. -/
theorem suits_of_mem_requests {signal : SupervisorSignal} {s : System ω} {r : Request}
    (hmem : r ∈ s.requests contact signal) : r.Suits signal := by
  have hleaves : LeavesTo contact.recorded signal s.recording
      (s.recording.handle contact.recorded signal) := handle_leaves signal s.recording
  obtain ⟨entry, hrecorded, rfl⟩ := List.mem_map.1 hmem
  exact (hleaves.outside.record entry hrecorded).resolve_left List.not_mem_nil

/-! ### The record of the beginning -/

/-- **The record is that of the supervisor's own beginning.** -/
theorem recording_start (s : System ω) :
    (s.recording.start contact.recorded).map Prod.fst = s.start contact :=
  map_start contact.recorded_liesOver s.recording

/-- What the supervisor asks as it begins, in order. -/
def startRequests (contact : Contact ω) (s : System ω) : List Request :=
  (s.recording.start contact.recorded).outside.2.map Prod.fst

/-- **Nothing that belongs to a signal is asked in the beginning**, beside what feeds the watchdog.
-/
theorem suits_of_mem_startRequests {s : System ω} {r : Request}
    (hmem : r ∈ s.startRequests contact) : r.Suits .feedWatchdog := by
  have hleaves : LeavesTo contact.recorded .feedWatchdog s.recording
      (s.recording.start contact.recorded) := start_leaves s.recording
  obtain ⟨entry, hrecorded, rfl⟩ := List.mem_map.1 hmem
  exact (hleaves.outside.record entry hrecorded).resolve_left List.not_mem_nil

end System

end BeaconGateway.Supervisor
