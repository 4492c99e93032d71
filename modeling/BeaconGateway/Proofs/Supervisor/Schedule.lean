import BeaconGateway.Proofs.Supervisor.ConfigMode
import BeaconGateway.Proofs.Supervisor.Frame

/-!
# Timers outside configuration mode

Outside configuration mode the supervisor fetches the remote configuration and looks for new
firmware as a configuration says. The one that its timers go by was in force when the services were
last restarted, or when the supervisor began. The services are restarted on a signal of their own
and whenever configuration mode is left. To go back to the default configuration restarts nothing:
it counts on configuration mode being left afterwards, and outside the mode there is nothing to
leave. There the timers go on by the old configuration until the services are restarted.

| outside configuration mode    | timer of the remote configuration | timer of the update checks |
|-------------------------------|-----------------------------------|----------------------------|
| services restarted; mode left | armed if fetched repeatedly       | armed unless manual        |
| looked, or scheduled          | as before                         | armed                      |
| gone back to the default      | as before                         | as before                  |
| any other signal              | as before                         | as before                  |

## Main results

* `Supervisor.SinceRestart` — what was handled since the services were last restarted, with
  `Supervisor.SinceRestart.unique`;
* `Supervisor.Course.Plans` — what the timers go by, with one lemma for each turn;
* `Supervisor.schedule_outside_configMode` — the timers outside configuration mode, in every course
  from the start;
* `Supervisor.schedule_stale_after_default` — a supervisor whose timers do not go by its
  configuration.
-/

namespace BeaconGateway.Supervisor

/-! ### The latest restart of the services -/

/-- Whether a signal restarts the services, after others were handled. -/
def restartsServices (handled : List SupervisorSignal) : SupervisorSignal → Bool
  | .restartServices => true
  | .deactivateConfigMode => inConfigMode handled
  | _ => false

/-- **What was handled up to the latest restart of the services, and since**. If they were never
restarted, they run since the supervisor began. -/
structure SinceRestart (handled before since : List SupervisorSignal) : Prop where
  /-- Before and since are all. -/
  split : handled = before ++ since
  /-- The services were restarted last before. -/
  restarted : before = [] ∨
    ∃ earlier last, before = earlier ++ [last] ∧ restartsServices earlier last = true
  /-- They were not restarted since. -/
  none : ∀ earlier signal later, since = earlier ++ signal :: later →
    restartsServices (before ++ earlier) signal = false

namespace SinceRestart

variable {handled before since : List SupervisorSignal} {signal : SupervisorSignal}

theorem begin : SinceRestart [] [] [] :=
  ⟨rfl, .inl rfl, by simp⟩

/-- The services are restarted. -/
theorem restart (hrestarts : restartsServices handled signal = true) :
    SinceRestart (handled ++ [signal]) (handled ++ [signal]) [] :=
  ⟨(List.append_nil _).symm, .inr ⟨handled, signal, rfl, hrestarts⟩, by simp⟩

/-- Another signal is handled. -/
theorem concat (hlatest : SinceRestart handled before since)
    (hother : restartsServices handled signal = false) :
    SinceRestart (handled ++ [signal]) before (since ++ [signal]) := by
  refine ⟨by rw [hlatest.split, List.append_assoc], hlatest.restarted, ?_⟩
  intro earlier last later hsplit
  obtain ⟨-, rfl, rfl⟩ | ⟨later, -, rfl⟩ := split_concat hsplit
  · rwa [← hlatest.split]
  · exact hlatest.none earlier last later rfl

/-- No restart is later than the latest. -/
theorem eq_nil_of_append {before' since' more : List SupervisorSignal}
    (hlatest : SinceRestart handled before since) (hlatest' : SinceRestart handled before' since')
    (hlater : before' = before ++ more) (hearlier : since = more ++ since') : more = [] := by
  obtain rfl | ⟨more, last, rfl⟩ := more.eq_nil_or_concat'
  · rfl
  · obtain hnone | ⟨prior, restart, hsplit, hrestarts⟩ := hlatest'.restarted
    · simp [hlater] at hnone
    · rw [hlater, ← List.append_assoc] at hsplit
      obtain ⟨rfl, hsame⟩ := List.append_inj' hsplit rfl
      obtain rfl := List.singleton_inj.1 hsame
      have hquiet := hlatest.none more last since' (by simp [hearlier])
      exact absurd (hquiet.symm.trans hrestarts) Bool.false_ne_true

/-- **There is one latest restart.** -/
theorem unique {before' since' : List SupervisorSignal}
    (hlatest : SinceRestart handled before since) (hlatest' : SinceRestart handled before' since') :
    before = before' ∧ since = since' := by
  have hsame : before ++ since = before' ++ since' := hlatest.split.symm.trans hlatest'.split
  obtain ⟨more, hlater, hearlier⟩ | ⟨more, hlater, hearlier⟩ := List.append_eq_append_iff.1 hsame
  · obtain rfl := hlatest.eq_nil_of_append hlatest' hlater hearlier
    exact ⟨(hlater.trans (List.append_nil _)).symm, hearlier⟩
  · obtain rfl := hlatest'.eq_nil_of_append hlatest hlater hearlier
    exact ⟨hlater.trans (List.append_nil _), hearlier.symm⟩

end SinceRestart

/-! ### What the timers go by -/

/-- The time between two fetches of the remote configuration, where it is fetched repeatedly. -/
def remoteSchedule (c : Config.Remote) : Option Nat :=
  if System.fetchesRemote c then some (remotePeriod c.refreshMinutes) else none

/-- Whether a signal schedules a look for new firmware. -/
def schedulesCheck : SupervisorSignal → Bool
  | .checkForUpdates | .scheduleNextCheck | .scheduleRetry => true
  | _ => false

/-- **New firmware is looked for**: the configuration at the latest restart of the services says so,
or a look was scheduled since. -/
def LooksForUpdates (c : Config) (before since : List SupervisorSignal) : Prop :=
  (configAfter c before).autoUpdate.cycle ≠ .manual ∨ ∃ signal ∈ since, schedulesCheck signal = true

namespace System

variable {ω : Type} {contact : Contact ω} {s : System ω}

theorem schedule_scheduleRemote (s : System ω) :
    s.scheduleRemote.supervisor.timers.remote.schedule =
      remoteSchedule s.supervisor.config.remote := by
  rw [scheduleRemote, remoteSchedule]
  cases hfetches : fetchesRemote s.supervisor.config.remote with
  | false => rfl
  | true =>
    simp only [if_true, Timer.restart, dif_pos (remotePeriod_pos hfetches)]
    rfl

theorem remote_scheduleFirstCheck (manual : Timer SupervisorSignal → Timer SupervisorSignal)
    (s : System ω) :
    (s.scheduleFirstCheck manual).supervisor.timers.remote = s.supervisor.timers.remote := by
  rw [scheduleFirstCheck]
  split_ifs <;> rfl

/-- **Restarting the services** arms the timer of the remote configuration as the configuration
says. -/
theorem schedule_onRestartServices (s : System ω) :
    (s.onRestartServices contact).supervisor.timers.remote.schedule =
      remoteSchedule s.supervisor.config.remote := by
  have hreconnected : (s.reconnect contact).supervisor = s.supervisor := supervisor_reconnect s
  rw [← hreconnected]
  exact (congrArg Timer.schedule (remote_scheduleFirstCheck _ _)).trans (schedule_scheduleRemote _)

theorem schedule_start (c : Config) (s : System ω) :
    ({ s with supervisor := .new c }.start contact).supervisor.timers.remote.schedule =
      remoteSchedule c.remote := by
  let subscribed := { s with supervisor := .new c }.subscribe contact
  have harmed := schedule_scheduleRemote (subscribed.startMqtt contact)
  rw [supervisor_startMqtt] at harmed
  exact (congrArg Timer.schedule (remote_scheduleFirstCheck _ _)).trans harmed

/-- All signals but those that enter configuration mode or restart the services leave the timer of
the remote configuration. -/
theorem remote_handle {signal : SupervisorSignal} (hstays : signal ≠ .activateConfigMode)
    (hother : signal ≠ .restartServices)
    (hmode : signal = .deactivateConfigMode → s.supervisor.configMode = false) :
    (s.handle contact signal).supervisor.timers.remote = s.supervisor.timers.remote := by
  have huntouched : .remote ∉ touches s.supervisor.configMode signal := by
    cases signal with
    | activateConfigMode => exact absurd rfl hstays
    | restartServices => exact absurd rfl hother
    | deactivateConfigMode => simp [touches, hmode rfl]
    | _ => simp [touches]
  exact get_handle s huntouched

/-- A restart arms the timer of the remote configuration as the configuration says, whether it comes
by itself or with leaving configuration mode. -/
theorem schedule_handle_of_restarts {handled : List SupervisorSignal} {signal : SupervisorSignal}
    (hmode : s.supervisor.configMode = inConfigMode handled)
    (hrestarts : restartsServices handled signal = true) :
    (s.handle contact signal).supervisor.timers.remote.schedule =
      remoteSchedule s.supervisor.config.remote := by
  cases signal with
  | restartServices => exact schedule_onRestartServices s
  | deactivateConfigMode =>
    have hactive : s.supervisor.configMode = true := hmode.trans hrestarts
    have hleft : (s.leaveConfigMode contact).supervisor.config = s.supervisor.config := rfl
    rw [handle, onDeactivateConfigMode_eq hactive, ← hleft]
    exact schedule_onRestartServices (s.leaveConfigMode contact)
  | _ => exact absurd hrestarts Bool.false_ne_true

end System

namespace WaitState

variable {b : WaitState} {signal : SupervisorSignal}

theorem updates_step_of_restarts {handled : List SupervisorSignal}
    (hmode : b.configMode = inConfigMode handled)
    (hrestarts : restartsServices handled signal = true) :
    (b.step signal).updates = (b.config.autoUpdate.cycle != .manual) := by
  cases signal with
  | restartServices => rfl
  | deactivateConfigMode =>
    have hactive : b.configMode = true := hmode.trans hrestarts
    rw [step, if_pos hactive]
    rfl
  | _ => exact absurd hrestarts Bool.false_ne_true

/-- Outside configuration mode the timer of the update checks is touched by restarts and by what
schedules a look. -/
theorem updates_step_of_outside (hoff : b.configMode = false)
    (hstays : signal ≠ .activateConfigMode)
    (hother : signal ≠ .restartServices) :
    (b.step signal).updates = (b.updates || schedulesCheck signal) := by
  cases signal with
  | activateConfigMode => exact absurd rfl hstays
  | restartServices => exact absurd rfl hother
  | deactivateConfigMode =>
    rw [step, hoff]
    exact (Bool.or_false _).symm
  | checkForUpdates | scheduleNextCheck | scheduleRetry => exact (Bool.or_true _).symm
  | _ => exact (Bool.or_false _).symm

/-- If configuration mode is off after a signal that restarts nothing, it was off before. -/
theorem outside_of_step {handled : List SupervisorSignal}
    (hmode : b.configMode = inConfigMode handled)
    (hother : restartsServices handled signal = false)
    (hoff : (b.step signal).configMode = false) :
    b.configMode = false ∧ signal ≠ .activateConfigMode ∧ signal ≠ .restartServices := by
  rw [configMode_step] at hoff
  cases signal with
  | activateConfigMode => cases hoff
  | restartServices => cases hother
  | deactivateConfigMode => exact ⟨hmode.trans hother, nofun, nofun⟩
  | _ => exact ⟨hoff, nofun, nofun⟩

end WaitState

theorem looksForUpdates_nil {c : Config} {before : List SupervisorSignal} :
    LooksForUpdates c before [] ↔ (configAfter c before).autoUpdate.cycle ≠ .manual := by
  simp [LooksForUpdates]

theorem looksForUpdates_concat {c : Config} {before since : List SupervisorSignal}
    {signal : SupervisorSignal} :
    LooksForUpdates c before (since ++ [signal]) ↔
      LooksForUpdates c before since ∨ schedulesCheck signal = true := by
  simp only [LooksForUpdates, List.mem_append, List.mem_singleton, or_and_right, exists_or,
    exists_eq_left, or_assoc]

/-! ### What the timers go by in a course -/

namespace Course

variable {ω : Type} {contact : Contact ω} {c : Config} {course course' : Course ω}
  {before since : List SupervisorSignal}

/-- **The two timers go by the configuration at the latest restart** of the services. -/
structure GoesBy (c : Config) (before since : List SupervisorSignal) (course : Course ω) :
    Prop where
  /-- The remote configuration is fetched as that configuration says. -/
  remote : course.system.supervisor.timers.remote.schedule =
    remoteSchedule (configAfter c before).remote
  /-- The timer of the update checks is not armed without reason. -/
  looks : course.system.supervisor.timers.updates.isArmed = true → LooksForUpdates c before since
  /-- If new firmware is looked for, the timer is armed or the look is due. -/
  updates : LooksForUpdates c before since →
    course.system.supervisor.timers.updates.isArmed = true ∨
      course.waits .checkForUpdates = true

/-- **What the timers go by**, and what that rests on. -/
structure Plans (c : Config) (course : Course ω) : Prop where
  /-- The configuration is what the signals have made of it. -/
  config : course.system.supervisor.config = configAfter c course.handled
  /-- Configuration mode is on as the signals say. -/
  configMode : course.system.supervisor.configMode = inConfigMode course.handled
  /-- The supervisor takes signals. -/
  registered : course.system.mailbox.registered = true
  /-- Its timers are of their first kinds, and send their first signals. -/
  sorts : course.system.supervisor.timers.sorts = Timers.new.sorts
  /-- Outside configuration mode they go by the configuration at the latest restart. -/
  outside : course.system.supervisor.configMode = false →
    ∃ before since, SinceRestart course.handled before since ∧ GoesBy c before since course

theorem waits_iff {signal : SupervisorSignal} :
    course.waits signal = true ↔
      signal ∈ course.taken ∨ course.system.mailbox.isPending signal = true := by
  simp [waits]

namespace GoesBy

/-- A turn in which no signal is handled leaves what the timers go by: the timer of the update
checks is not armed in it, and if it is disarmed the look is due. -/
theorem aside (hgoesBy : GoesBy c before since course)
    (hremote : course'.system.supervisor.timers.remote.schedule =
      course.system.supervisor.timers.remote.schedule)
    (hlooks : course'.system.supervisor.timers.updates.isArmed = true →
      course.system.supervisor.timers.updates.isArmed = true)
    (hupdates : course.system.supervisor.timers.updates.isArmed = true →
      course'.system.supervisor.timers.updates.isArmed = true ∨
        course'.waits .checkForUpdates = true)
    (hdue : course.waits .checkForUpdates = true → course'.waits .checkForUpdates = true) :
    GoesBy c before since course' where
  remote := hremote.trans hgoesBy.remote
  looks harmed := hgoesBy.looks (hlooks harmed)
  updates hlooked := (hgoesBy.updates hlooked).elim hupdates fun hwaits ↦ .inr (hdue hwaits)

variable {system : System ω} {signal : SupervisorSignal} {rest handled : List SupervisorSignal}

/-- From a restart on the timers go by the configuration in force then. -/
theorem of_restarts (hconfig : system.supervisor.config = configAfter c handled)
    (hmode : system.supervisor.configMode = inConfigMode handled)
    (hrestarts : restartsServices handled signal = true) (taken : List SupervisorSignal) :
    GoesBy c (handled ++ [signal]) []
      ⟨system.handle contact signal, taken, handled ++ [signal]⟩ := by
  have hkept : configAfter c (handled ++ [signal]) = system.supervisor.config := by
    rw [configAfter_concat, hconfig]
    refine if_neg ?_
    rintro rfl
    cases hrestarts
  have harmed : (system.handle contact signal).supervisor.timers.updates.isArmed =
      (system.supervisor.config.autoUpdate.cycle != .manual) :=
    (congrArg WaitState.updates (system.waitState_handle signal)).trans
      (WaitState.updates_step_of_restarts hmode hrestarts)
  refine ⟨?_, ?_, ?_⟩
  · rw [hkept]
    exact System.schedule_handle_of_restarts hmode hrestarts
  · intro hlooks
    rw [looksForUpdates_nil, hkept]
    exact bne_iff_ne.1 (harmed.symm.trans hlooks)
  · rw [looksForUpdates_nil, hkept]
    exact fun hlooks ↦ .inl (harmed.trans (bne_iff_ne.2 hlooks))

/-- Outside configuration mode a signal that restarts nothing leaves what the timers go by, and may
schedule a look. -/
theorem concat (hgoesBy : GoesBy c before since ⟨system, signal :: rest, handled⟩)
    (hoff : system.supervisor.configMode = false) (hstays : signal ≠ .activateConfigMode)
    (hother : signal ≠ .restartServices) :
    GoesBy c before (since ++ [signal])
      ⟨system.handle contact signal, rest, handled ++ [signal]⟩ := by
  have harmed : (system.handle contact signal).supervisor.timers.updates.isArmed =
      (system.supervisor.timers.updates.isArmed || schedulesCheck signal) :=
    (congrArg WaitState.updates (system.waitState_handle signal)).trans
      (WaitState.updates_step_of_outside hoff hstays hother)
  refine ⟨?_, ?_, ?_⟩
  · rw [← hgoesBy.remote]
    exact congrArg Timer.schedule (System.remote_handle hstays hother fun _ ↦ hoff)
  · intro hlooks
    rw [looksForUpdates_concat]
    exact (Bool.or_eq_true_iff.1 (harmed.symm.trans hlooks)).imp hgoesBy.looks id
  · intro hlooks
    obtain halready | hschedules := looksForUpdates_concat.1 hlooks
    · obtain hwas | hwaits := hgoesBy.updates halready
      · exact .inl (harmed.trans (Bool.or_eq_true_iff.2 (.inl hwas)))
      · by_cases hdue : signal = .checkForUpdates
        · have hschedules : schedulesCheck signal = true := by rw [hdue]; rfl
          exact .inl (harmed.trans (Bool.or_eq_true_iff.2 (.inr hschedules)))
        · have hleaves : System.LeavesTo contact signal system (system.handle contact signal) :=
            System.handle_leaves signal system
          have hpending := hleaves.pending .checkForUpdates nofun nofun
          rw [waits_iff] at hwaits ⊢
          exact .inr (hwaits.imp (List.mem_of_ne_of_mem (Ne.symm hdue)) hpending.trans)
    · exact .inl (harmed.trans (Bool.or_eq_true_iff.2 (.inr hschedules)))

end GoesBy

namespace Plans

variable (hplans : Plans c course)

include hplans

/-- A turn in which no signal is handled. -/
theorem aside (hhandled : course'.handled = course.handled)
    (hconfig : course'.system.supervisor.config = course.system.supervisor.config)
    (hconfigMode : course'.system.supervisor.configMode = course.system.supervisor.configMode)
    (hregistered : course'.system.mailbox.registered = course.system.mailbox.registered)
    (hsorts : course'.system.supervisor.timers.sorts = course.system.supervisor.timers.sorts)
    (hgoesBy : ∀ before since, GoesBy c before since course → GoesBy c before since course') :
    Plans c course' where
  config := by rw [hconfig, hhandled, hplans.config]
  configMode := by rw [hconfigMode, hhandled, hplans.configMode]
  registered := hregistered.trans hplans.registered
  sorts := hsorts.trans hplans.sorts
  outside hinactive := by
    rw [hconfigMode] at hinactive
    obtain ⟨before, since, hlatest, hbefore_goesBy⟩ := hplans.outside hinactive
    exact ⟨before, since, hhandled ▸ hlatest, hgoesBy before since hbefore_goesBy⟩

/-- A signal is sent. -/
theorem send (signal : SupervisorSignal) : Plans c (course.turn contact (.send signal)) := by
  refine hplans.aside rfl rfl rfl (Mailbox.registered_send _ _) rfl fun before since hgoesBy ↦ ?_
  refine hgoesBy.aside rfl id .inl fun hwaits ↦ ?_
  rw [waits_iff] at hwaits ⊢
  refine hwaits.imp id fun hpending ↦ ?_
  show (course.system.post signal).mailbox.isPending .checkForUpdates = true
  rw [System.isPending_post hplans.registered, hpending, Bool.true_or]

/-- The period of a timer ends. The timer of the remote configuration goes on; that of the update
checks is disarmed, and the look is due. -/
theorem expire (id : TimerId) : Plans c (course.turn contact (.expire id)) := by
  have hperiodic : course.system.supervisor.timers.remote.kind = .periodic :=
    congrArg Prod.fst (congrFun hplans.sorts .remote)
  have honeShot : course.system.supervisor.timers.updates.kind = .oneShot :=
    congrArg Prod.fst (congrFun hplans.sorts .updates)
  have hsends : (course.system.supervisor.timers.get .updates).signal = .checkForUpdates :=
    congrArg Prod.snd (congrFun hplans.sorts .updates)
  have harmed : (course.system.expire id).supervisor.timers.updates.isArmed =
      (decide (.updates ≠ id) && course.system.supervisor.timers.updates.isArmed) :=
    course.system.isArmed_expire id .updates honeShot
  have hpending := System.isPending_expire hplans.registered id .checkForUpdates
  obtain ⟨hconfig, hconfigMode, hregistered, hsorts⟩ := course.system.expire_leaves id
  refine hplans.aside rfl hconfig hconfigMode hregistered hsorts fun before since hgoesBy ↦ ?_
  refine hgoesBy.aside ?_ ?_ ?_ ?_
  · exact course.system.schedule_expire id .remote hperiodic
  · intro hstill
    have hboth := harmed.symm.trans hstill
    exact (Bool.and_eq_true_iff.1 hboth).2
  -- the look that the timer was armed for is pending now, or the timer is another and stays armed
  · intro hwas
    have hwas' : (course.system.supervisor.timers.get .updates).isArmed = true := hwas
    by_cases hitself : .updates = id
    · subst hitself
      refine .inr (waits_iff.2 (.inr (hpending.trans ?_)))
      simp [hwas', hsends]
    · refine .inl (harmed.trans ?_)
      simp [hwas, hitself]
  · intro hwaits
    rw [waits_iff] at hwaits ⊢
    refine hwaits.imp (fun htaken ↦ htaken) fun halready ↦ hpending.trans ?_
    rw [halready, Bool.true_or]

/-- Signals are taken by a supervisor that has handled all that it took. If a look is pending, it is
taken or stays pending. -/
theorem taking (hrests : course.taken = []) {mailbox : Mailbox SupervisorSignal}
    {taken : List SupervisorSignal}
    (hregistered : mailbox.registered = course.system.mailbox.registered)
    (hkept : course.system.mailbox.isPending .checkForUpdates = true →
      .checkForUpdates ∈ taken ∨ mailbox.isPending .checkForUpdates = true) :
    Plans c { course with system := { course.system with mailbox }, taken } := by
  refine hplans.aside rfl rfl rfl hregistered rfl fun before since hgoesBy ↦ ?_
  refine hgoesBy.aside rfl (fun harmed ↦ harmed) .inl fun hwaits ↦ ?_
  rw [waits_iff, hrests] at hwaits
  obtain hnone | hpending := hwaits
  · exact absurd hnone List.not_mem_nil
  · exact waits_iff.2 (hkept hpending)

/-- What is pending is taken. -/
theorem take : Plans c (course.turn contact .take) := by
  cases hrests : course.taken with
  | cons => simpa only [turn, hrests] using hplans
  | nil =>
    simp only [turn, hrests]
    exact hplans.taking hrests rfl fun hpending ↦ .inl (SignalSet.mem_toList.2 hpending)

/-- Signals are given, whatever is pending. -/
theorem give (signals : SignalSet SupervisorSignal) :
    Plans c (course.turn contact (.give signals)) := by
  cases hrests : course.taken with
  | cons => simpa only [turn, hrests] using hplans
  | nil =>
    simp only [turn, hrests]
    exact hplans.taking hrests rfl .inr

/-- The next signal is handled. -/
theorem handle : Plans c (course.turn contact .handle) := by
  obtain ⟨system, taken, handled⟩ := course
  cases taken with
  | nil => exact hplans
  | cons signal rest =>
    have hacts : (system.handle contact signal).waitState = system.waitState.step signal :=
      system.waitState_handle signal
    have hconfig : (system.handle contact signal).supervisor.config =
        configAfter c (handled ++ [signal]) := by
      rw [configAfter_concat, ← hplans.config]
      exact (congrArg WaitState.config hacts).trans (WaitState.config_step _ _)
    have hstep : (system.handle contact signal).supervisor.configMode =
        (system.waitState.step signal).configMode := congrArg WaitState.configMode hacts
    refine ⟨hconfig, hstep.trans (WaitState.configMode_step_eq hplans.configMode),
      (System.handle_leaves signal system).registered.trans hplans.registered,
      (System.sorts_handle system signal).trans hplans.sorts, fun hinactive ↦ ?_⟩
    -- a restart begins anew; after any other signal the last restart is the one it was before
    cases hrestarts : restartsServices handled signal with
    | true =>
      exact ⟨handled ++ [signal], [], .restart hrestarts,
        .of_restarts hplans.config hplans.configMode hrestarts rest⟩
    | false =>
      obtain ⟨hoff, hstays, hother⟩ :=
        WaitState.outside_of_step hplans.configMode hrestarts (hstep.symm.trans hinactive)
      obtain ⟨before, since, hlatest, hgoesBy⟩ := hplans.outside hoff
      exact ⟨before, since ++ [signal], hlatest.concat hrestarts, hgoesBy.concat hoff hstays hother⟩

/-- **Every turn** leaves what the timers go by as the signals say. -/
theorem turn (t : Turn ω) : Plans c (course.turn contact t) :=
  match t with
  | .send signal => hplans.send signal
  | .expire id => hplans.expire id
  | .take => hplans.take
  | .give signals => hplans.give signals
  | .handle => hplans.handle
  | .meanwhile .. =>
    hplans.aside rfl rfl rfl rfl rfl fun _ _ hgoesBy ↦ hgoesBy.aside rfl id .inl id

omit hplans in
/-- A supervisor begins with its timers armed as its configuration says. -/
theorem begin (contact : Contact ω) (c : Config) (s : System ω) :
    Plans c (Course.begin contact c s) := by
  let s' : System ω := { s with mailbox := Mailbox.new.register }
  have hbits : (Course.begin contact c s).system.waitState = .rearm ⟨c, false, false, false⟩ :=
    System.waitState_start c s'
  have harmed : (Course.begin contact c s).system.supervisor.timers.updates.isArmed =
      (c.autoUpdate.cycle != .manual) := congrArg WaitState.updates hbits
  refine ⟨congrArg WaitState.config hbits, congrArg WaitState.configMode hbits,
    (System.start_leaves _).registered, (System.start_spares _).sorts,
    fun _ ↦ ⟨[], [], .begin, ?_, ?_, ?_⟩⟩
  · exact System.schedule_start c s'
  · intro hlooks
    exact looksForUpdates_nil.2 (bne_iff_ne.1 (harmed.symm.trans hlooks))
  · intro hlooks
    exact .inl (harmed.trans (bne_iff_ne.2 (looksForUpdates_nil.1 hlooks)))

/-- Turns in order. -/
theorem follow (turns : List (Turn ω)) : Plans c (course.follow contact turns) := by
  rw [Course.follow]
  induction turns generalizing course with
  | nil => exact hplans
  | cons t rest ih => exact ih (hplans.turn t)

end Plans

end Course

/-! ### Courses from the start -/

/-- **The timers go by the configuration in force**: the remote configuration is fetched as it says,
and unless updates are manual a look for new firmware is scheduled. -/
def System.OnSchedule {ω : Type} (s : System ω) : Prop :=
  s.supervisor.timers.remote.schedule = remoteSchedule s.supervisor.config.remote ∧
    (s.supervisor.config.autoUpdate.cycle ≠ .manual →
      s.supervisor.timers.updates.isArmed = true)

/-- **The timers outside configuration mode**, in every course from the start: over any
configuration, any signals and any ends of periods, whatever happens around the supervisor, and
whatever it is answered. Once nothing is left to be handled, the timers go by the configuration at
the latest restart of the services. That is the configuration in force, unless the supervisor went
back to the default since. Then they go by the default only by chance: where the old configuration
did not fetch the remote one repeatedly, and new firmware is looked for. -/
theorem schedule_outside_configMode {ω : Type} (contact : Contact ω) (c : Config) (s : System ω)
    (turns : List (Course.Turn ω)) :
    let after := (Course.begin contact c s).follow contact turns
    let timers := after.system.supervisor.timers
    after.system.supervisor.configMode = false → (∀ signal, after.waits signal = false) →
      ∃ before since, SinceRestart after.handled before since ∧
        timers.remote.schedule = remoteSchedule (configAfter c before).remote ∧
        (timers.updates.isArmed = true ↔ LooksForUpdates c before since) ∧
        (after.system.OnSchedule ↔
          (.setDefaultConfig ∈ since →
            remoteSchedule (configAfter c before).remote = none ∧
              LooksForUpdates c before since)) := by
  intro after timers hoff hnothing
  have hplans : Course.Plans c after := (Course.Plans.begin contact c s).follow turns
  obtain ⟨before, since, hlatest, hremote, hlooks, hupdates⟩ := hplans.outside hoff
  have hscheduled : timers.updates.isArmed = true ↔ LooksForUpdates c before since := by
    refine ⟨hlooks, fun hlooked ↦ (hupdates hlooked).resolve_right ?_⟩
    simp [hnothing]
  refine ⟨before, since, hlatest, hremote, hscheduled, ?_⟩
  have hconfig : after.system.supervisor.config = configAfter c (before ++ since) := by
    rw [← hlatest.split]
    exact hplans.config
  by_cases hdefault : .setDefaultConfig ∈ since
  · have hnow : configAfter c (before ++ since) = .default := by simp [configAfter, hdefault]
    have hnone : remoteSchedule Config.default.remote = none := rfl
    have hrepeated : Config.default.autoUpdate.cycle ≠ .manual := by decide
    rw [hnow] at hconfig
    rw [System.OnSchedule, hconfig, hremote, hnone, hscheduled]
    simp [hdefault, hrepeated]
  · have hsame : configAfter c (before ++ since) = configAfter c before := by
      simp [configAfter, hdefault]
    rw [hsame] at hconfig
    rw [System.OnSchedule, hconfig]
    exact iff_of_true ⟨hremote, fun hrepeated ↦ hscheduled.2 (.inl hrepeated)⟩ (absurd · hdefault)

/-! ### Two gateways outside configuration mode -/

/-- A supervisor that fetches the remote configuration every hour, and has looked for new firmware
for the first time. -/
def lookedOnce : Course Unit :=
  (Course.begin willing remoteConfig (online remoteConfig)).follow willing
    [.expire .updates, .take, .handle]

/-- It goes on to fetch the remote configuration every hour, and will look for firmware again. -/
theorem schedule_lookedOnce :
    lookedOnce.handled = [.checkForUpdates] ∧ lookedOnce.system.OnSchedule ∧
      lookedOnce.system.supervisor.timers.remote.schedule = some 3600000 := by
  have hnothing : ∀ signal, lookedOnce.waits signal = false := by
    intro signal
    cases signal <;> rfl
  obtain ⟨before, since, hlatest, -, -, honSchedule⟩ :=
    schedule_outside_configMode willing remoteConfig (online remoteConfig)
      [.expire .updates, .take, .handle] rfl hnothing
  obtain ⟨-, rfl⟩ := hlatest.unique (SinceRestart.begin.concat rfl)
  exact ⟨rfl, honSchedule.2 fun hdefault ↦ absurd hdefault (by decide), rfl⟩

/-- The configuration of a gateway that is updated by hand and fetches the remote configuration
every hour. -/
def manualConfig : Config :=
  { remoteConfig with autoUpdate := { Config.default.autoUpdate with cycle := .manual } }

/-- A supervisor that has gone back from it to the default configuration, which does without the
remote configuration and looks for new firmware by itself. -/
def wentBackToDefault : Course Unit :=
  (Course.begin willing manualConfig (online manualConfig)).follow willing
    [.send .setDefaultConfig, .take, .handle, .take, .handle]

/-- **A supervisor whose timers are stale**: it does not go by its configuration, but goes on to
fetch the remote configuration, and does not look for new firmware. -/
theorem schedule_stale_after_default :
    wentBackToDefault.system.supervisor.configMode = false ∧
      (∀ signal, wentBackToDefault.waits signal = false) ∧
      wentBackToDefault.handled = [.setDefaultConfig, .deactivateConfigMode] ∧
      wentBackToDefault.system.supervisor.config = .default ∧
      wentBackToDefault.system.supervisor.timers.remote.schedule = some 3600000 ∧
      wentBackToDefault.system.supervisor.timers.updates.isArmed = false ∧
      ¬ wentBackToDefault.system.OnSchedule := by
  have hnothing : ∀ signal, wentBackToDefault.waits signal = false := by
    intro signal
    cases signal <;> rfl
  have hhourly : wentBackToDefault.system.supervisor.timers.remote.schedule = some 3600000 := rfl
  have hunwanted : remoteSchedule wentBackToDefault.system.supervisor.config.remote = none := rfl
  refine ⟨rfl, hnothing, rfl, rfl, hhourly, rfl, fun honSchedule ↦ ?_⟩
  exact Option.some_ne_none _ ((hhourly.symm.trans honSchedule.1).trans hunwanted)

end BeaconGateway.Supervisor
