import BeaconGateway.Proofs.Supervisor.ConfigMode
import BeaconGateway.Proofs.Supervisor.Frame
import BeaconGateway.Proofs.Supervisor.HeapMonitor

/-!
# Restarts for lack of memory

Each handling of one signal samples the free memory, and nothing else touches the monitor. So
whatever the supervisor handles, its monitor is one that has seen the samples so far. The gateway is
restarted on behalf of that signal alone, and only when the sample is the last of a window that is
at least the third low one in a row.

The two halves meet in the samples. What a monitor says of any samples is worked out without a
supervisor; which samples the monitor of a supervisor has seen is worked out without looking at what
it says of them. The samples of a run are read off its turns, as the outside may change in between.

## Main results

* `Supervisor.System.sampled` — the samples of a run;
* `Supervisor.System.heap_follow` — the monitor after a run;
* `Supervisor.System.restart_mem_requests` — what restarts the gateway, judged by the monitor;
* `Supervisor.System.restart_mem_requests_follow_iff` — the same, judged by the samples of a run;
* `Supervisor.System.restart_not_mem_startRequests` — a supervisor that begins restarts nothing;
* `Supervisor.System.memory_watch` — the verdicts of a monitor, and the restarts of a supervisor
  from its start.
-/

namespace BeaconGateway.Supervisor.System

variable {ω : Type} {contact : Contact ω} {s : System ω}

/-- **The free memory that is sampled** in some turns, in order. -/
def sampled (contact : Contact ω) (s : System ω) : List (Turn ω) → List UInt32
  | [] => []
  | t :: rest =>
    if t.signal? = some .logHeapUsage then
      contact.freeHeap s.outside :: (s.turn contact t).sampled contact rest
    else (s.turn contact t).sampled contact rest

theorem heap_onHeapSample (s : System ω) :
    (s.onHeapSample contact).supervisor.heap =
      (s.supervisor.heap.sample (contact.freeHeap s.outside)).2 := by
  rw [onHeapSample]
  dsimp only
  split <;> rfl

/-- A turn in which no free memory is sampled leaves the monitor. -/
theorem heap_turn_of_other {t : Turn ω} (hother : t.signal? ≠ some .logHeapUsage) (s : System ω) :
    (s.turn contact t).supervisor.heap = s.supervisor.heap := by
  cases t with
  | handle signal => exact (handle_spares (fun hsame ↦ hother (congrArg some hsame)) s).heap
  | meanwhile => rfl

/-- **The monitor of a run** has seen its samples, and nothing else. -/
theorem heap_follow (s : System ω) (turns : List (Turn ω)) :
    (s.follow contact turns).supervisor.heap =
      (s.supervisor.heap.sampleAll (s.sampled contact turns)).2 := by
  induction turns generalizing s with
  | nil => rfl
  | cons t rest ih =>
    have honward : s.follow contact (t :: rest) = (s.turn contact t).follow contact rest := rfl
    rw [honward, ih, sampled]
    split_ifs with hsamples
    · cases t with
      | handle signal =>
        obtain rfl : signal = .logHeapUsage := Option.some.inj hsamples
        show ((s.onHeapSample contact).supervisor.heap.sampleAll _).2 = _
        rw [heap_onHeapSample]
        rfl
      | meanwhile => cases hsamples
    · rw [heap_turn_of_other hsamples]

/-- **The gateway is restarted** on behalf of one signal alone, and as the monitor judges. -/
theorem restart_mem_requests {signal : SupervisorSignal} {reason : RestartReason} :
    .restart reason ∈ s.requests contact signal ↔ signal = .logHeapUsage ∧ reason = .lowMemory ∧
      ∃ least, (s.supervisor.heap.sample (contact.freeHeap s.outside)).1 = .reboot least := by
  have hasks : .restart reason ∈ s.requests contact .logHeapUsage ↔ reason = .lowMemory ∧
      ∃ least, (s.supervisor.heap.sample (contact.freeHeap s.outside)).1 = .reboot least := by
    have hsame :
        s.recording.supervisor.heap.sample (contact.recorded.freeHeap s.recording.outside) =
        s.supervisor.heap.sample (contact.freeHeap s.outside) := rfl
    rw [requests, handle, onHeapSample, hsame]
    rcases s.supervisor.heap.sample (contact.freeHeap s.outside) with ⟨verdict, heap⟩
    cases verdict with
    | reboot => simp [request, ask, Contact.recorded, Ask.recorded]
    | sampling | windowOk | windowLow => simp
  constructor
  · intro hmem
    obtain rfl := suits_of_mem_requests hmem .logHeapUsage rfl
    exact ⟨rfl, hasks.1 hmem⟩
  · rintro ⟨rfl, hlack⟩
    exact hasks.2 hlack

/-- The monitor of a supervisor that began under a configuration. -/
theorem heap_follow_start (contact : Contact ω) (c : Config) (s : System ω)
    (turns : List (Turn ω)) :
    (({ s with supervisor := .new c }.start contact).follow contact turns).supervisor.heap =
      ((HeapMonitor.new HeapMonitor.defaultLimit).sampleAll
        (({ s with supervisor := .new c }.start contact).sampled contact turns)).2 := by
  rw [heap_follow, (start_spares _).heap]
  rfl

/-- **When a supervisor restarts the gateway**, in every run from its start: where it samples the
last of a window that is at least the third low one in a row. -/
theorem restart_mem_requests_follow_iff (contact : Contact ω) (c : Config) (s : System ω)
    (turns : List (Turn ω)) (signal : SupervisorSignal) (reason : RestartReason) :
    let started := { s with supervisor := .new c }.start contact
    let now := started.follow contact turns
    let seen := started.sampled contact turns ++ [contact.freeHeap now.outside]
    seen.length / HeapMonitor.windowSize < UInt32.size →
      (.restart reason ∈ now.requests contact signal ↔
        signal = .logHeapUsage ∧ reason = .lowMemory ∧
          HeapMonitor.windowSize ∣ seen.length ∧
            3 ≤ HeapMonitor.lowRun HeapMonitor.defaultLimit (HeapMonitor.windows seen)) := by
  intro started now seen hfew
  have hjudged : (now.supervisor.heap.sample (contact.freeHeap now.outside)).1 =
      HeapMonitor.verdictAfter HeapMonitor.defaultLimit seen := by
    have hfewer : (started.sampled contact turns).length / HeapMonitor.windowSize ≤
        seen.length / HeapMonitor.windowSize := Nat.div_le_div_right (by simp [seen])
    rw [heap_follow_start]
    exact ((HeapMonitor.knows_sampleAll_new HeapMonitor.defaultLimit _
      (Nat.lt_of_le_of_lt hfewer hfew)).sample _ hfew).1
  rw [restart_mem_requests, hjudged, HeapMonitor.exists_verdictAfter_eq_reboot_iff]

/-- **A supervisor that begins restarts nothing**: it has not sampled any memory yet. -/
theorem restart_not_mem_startRequests (contact : Contact ω) (s : System ω)
    (reason : RestartReason) :
    .restart reason ∉ s.startRequests contact := by
  intro hmem
  cases suits_of_mem_startRequests hmem .logHeapUsage rfl

/-- **The watch on free memory.** A new monitor says nothing before the hundredth sample of a window
and then judges the window by its extremes and by the low windows in a row with it. A supervisor
restarts the gateway exactly where it samples the last of a window that is at least the third low
one in a row, so that none of the last three hundred samples has reached the limit; and not when it
begins. -/
theorem memory_watch (contact : Contact ω) (c : Config) (s : System ω) :
    (∀ (limit : UInt32) (samples : List UInt32),
      samples.length / HeapMonitor.windowSize < UInt32.size → ∀ n < samples.length,
        ((HeapMonitor.new limit).sampleAll samples).1[n]? =
          some (HeapMonitor.verdictAfter limit (samples.take (n + 1)))) ∧
    (∀ reason : RestartReason,
      .restart reason ∉ { s with supervisor := .new c }.startRequests contact) ∧
    ∀ turns : List (Turn ω),
      let started := { s with supervisor := .new c }.start contact
      let now := started.follow contact turns
      let seen := started.sampled contact turns ++ [contact.freeHeap now.outside]
      seen.length / HeapMonitor.windowSize < UInt32.size →
        ∀ (signal : SupervisorSignal) (reason : RestartReason),
          (.restart reason ∈ now.requests contact signal ↔
            signal = .logHeapUsage ∧ reason = .lowMemory ∧
              HeapMonitor.windowSize ∣ seen.length ∧
                3 ≤ HeapMonitor.lowRun HeapMonitor.defaultLimit (HeapMonitor.windows seen)) ∧
          (.restart reason ∈ now.requests contact signal →
            HeapMonitor.windowSize * 3 ≤ seen.length ∧
              ∀ free ∈ seen.drop (seen.length - HeapMonitor.windowSize * 3),
                free < HeapMonitor.defaultLimit) := by
  refine ⟨fun limit samples hfew n ↦ HeapMonitor.getElem?_sampleAll_new limit samples hfew,
    restart_not_mem_startRequests contact _, ?_⟩
  intro turns started now seen hfew signal reason
  have hrestarts := restart_mem_requests_follow_iff contact c s turns signal reason hfew
  refine ⟨hrestarts, fun hmem ↦ ?_⟩
  obtain ⟨-, -, hwhole, hthird⟩ := hrestarts.1 hmem
  exact (HeapMonitor.le_lowRun_windows_iff _ 3 seen hwhole).1 hthird

/-- An outside where all that is asked for is done, and little memory is free. -/
def leaking : Contact Unit :=
  { willing with freeHeap := fun _ ↦ 10 * 1024 }

/-- After half a minute with little memory free, that is taken for a leak, and the gateway is
restarted. -/
theorem memory_watch_of_leak :
    let samples := List.replicate 300 (10 * 1024)
    let turns := List.replicate 299 (.handle .logHeapUsage)
    let now := ((online .default).start leaking).follow leaking turns
    ((HeapMonitor.new HeapMonitor.defaultLimit).sampleAll samples).1[299]? =
        some (.reboot (10 * 1024)) ∧
      .restart .lowMemory ∈ now.requests leaking .logHeapUsage := by
  intro samples turns now
  let seen := ((online .default).start leaking).sampled leaking turns ++
    [leaking.freeHeap now.outside]
  have hsteady : seen = samples := by decide +kernel
  have hlength : samples.length = 300 := List.length_replicate
  have hfew : samples.length / HeapMonitor.windowSize < UInt32.size := by
    rw [hlength]
    decide
  have hfew' : seen.length / HeapMonitor.windowSize < UInt32.size := hsteady ▸ hfew
  have hends : HeapMonitor.windowSize ∣ seen.length := by
    rw [hsteady, hlength]
    decide
  have hthird : 3 ≤ HeapMonitor.lowRun HeapMonitor.defaultLimit (HeapMonitor.windows seen) := by
    rw [hsteady]
    decide +kernel
  have htaken : HeapMonitor.verdictAfter HeapMonitor.defaultLimit (samples.take 300) =
      .reboot (10 * 1024) := by decide +kernel
  obtain ⟨hverdicts, -, hrestarts⟩ := memory_watch leaking .default (online .default)
  constructor
  · rw [hverdicts _ samples hfew 299 (by rw [hlength]; decide), htaken]
  · exact (hrestarts turns hfew' .logHeapUsage .lowMemory).1.2 ⟨rfl, rfl, hends, hthird⟩

end BeaconGateway.Supervisor.System
