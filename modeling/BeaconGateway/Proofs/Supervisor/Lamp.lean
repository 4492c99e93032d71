import BeaconGateway.Proofs.Supervisor.Broker
import BeaconGateway.Proofs.Supervisor.Frame
import BeaconGateway.Rehearsal

/-!
# What the lamp says about local clients

The lamp tells whether local clients poll for history. A poll lights it and starts a timer anew;
when the timer's period ends it sends a signal, and when that is handled the lamp shows that no
client polls. In configuration mode the lamp shows the mode, and keeps the latest news for
afterwards; to leave the mode counts as a poll.

Starting the timer anew does not take back a signal that it has sent. If a poll is handled while
such a signal is still waiting, the signal is handled afterwards and denies the poll: within one
wake-up a timeout is always handled after a poll, whichever came first. Then the lamp shows that no
client polls although one just did, until the next poll. This is the only way to that: a lamp that
shows a timeout while the timer runs was lit by a poll that overtook the timeout of an earlier one.

## Main results

* `Contact.Lights` — an outside with a lamp, with `Gateway.lights_supervisorContact` for that of the
  gateway;
* `Supervisor.System.pollState_handle` — how signals act on the lamp and on the timer;
* `Supervisor.Course.PollOvertakes` — the latest poll was handled while a timeout was waiting;
* `Supervisor.pollTimeout_shown_iff` — when the lamp shows a timeout although the timer is armed, in
  every course from the start;
* `Supervisor.pollTimeout_shown_after_poll` — a lamp that shows a timeout after a poll.
-/

namespace BeaconGateway

/-! ### The news on the lamp -/

namespace Indicator

variable {next : Indication}

/-- What the lamp has to tell about local clients, now or after configuration mode. -/
def news (i : Indicator) : Indication :=
  if i.current = .configMode then i.beforeConfig else i.current

/-- Whether the lamp shows configuration mode. -/
def showsMode (i : Indicator) : Bool :=
  decide (i.current = .configMode)

/-- What a poll has to tell is the latest news, also while configuration mode hides it. -/
theorem news_poll (i : Indicator) (hother : next ≠ .configMode) : (i.poll next).news = next := by
  rw [poll]
  split_ifs with hmode
  · exact if_pos hmode
  · exact if_neg hother

/-- A poll does not change whether the lamp shows configuration mode. -/
theorem showsMode_poll (i : Indicator) (hother : next ≠ .configMode) :
    (i.poll next).showsMode = i.showsMode := by
  rw [poll]
  split_ifs with hmode
  · rfl
  · simp [showsMode, hmode, hother]

@[simp] theorem news_configMode (i : Indicator) (active : Bool) :
    (i.configMode active).news = i.news := by
  cases active with
  | true => rfl
  | false =>
    show Indicator.news (if i.current = .configMode then { i with current := i.beforeConfig }
      else i) = i.news
    split_ifs with hmode
    · rw [news, news, if_pos hmode]
      exact ite_self _
    · rfl

/-- The lamp shows configuration mode while it lasts, and goes back to the news at its end. -/
theorem showsMode_configMode (i : Indicator) (active : Bool) (hother : i.news ≠ .configMode) :
    (i.configMode active).showsMode = active := by
  cases active with
  | true => rfl
  | false =>
    show Indicator.showsMode (if i.current = .configMode then { i with current := i.beforeConfig }
      else i) = false
    rw [news] at hother
    split_ifs at hother ⊢ with hmode
    · exact decide_eq_false hother
    · exact decide_eq_false hmode

/-- Outside configuration mode the lamp shows its news. -/
theorem current_eq_iff (i : Indicator) (hother : next ≠ .configMode) :
    i.current = next ↔ i.showsMode = false ∧ i.news = next := by
  rw [news, showsMode]
  split_ifs with hmode
  · simp [hmode, hother.symm]
  · simp [hmode]

end Indicator

namespace Supervisor

/-! ### An outside with a lamp -/

/-- What a call makes of the lamp. -/
def LampCall.act : LampCall → Indicator → Indicator
  | .pollOk => Indicator.pollOk
  | .pollTimeout => Indicator.pollTimeout
  | .configMode active => fun i ↦ i.configMode active

/-- What a question makes of the lamp. -/
def Request.actOnLamp : Request → Indicator → Indicator
  | .lamp call => call.act
  | _ => id

/-- An outside with a lamp that nothing but calls to it changes. -/
def Contact.Lights {ω : Type} (contact : Contact ω) (lamp : ω → Indicator) : Prop :=
  ∀ r o, lamp (contact.ask r o).2 = r.actOnLamp (lamp o)

end Supervisor

/-- The lamp of the gateway is one that nothing but calls to it changes. -/
theorem Gateway.lights_supervisorContact {ω : Type} (w : Gateway.Wiring ω) :
    w.supervisorContact.Lights (·.indicator) := by
  intro r s
  cases r with
  | startMqtt c =>
    show (Gateway.Surroundings.startMqtt w c s).2.indicator = s.indicator
    rw [Gateway.Surroundings.startMqtt]
    dsimp only
    split_ifs
    · split <;> rfl
    · rfl
  | sendScanSettings c =>
    show (Gateway.Surroundings.transmit w _ (s.note (.called .sendScanSettings))).2.indicator = _
    rw [Gateway.Surroundings.transmit]
    split <;> rfl
  | lamp call => cases call <;> rfl
  | _ => rfl

namespace Supervisor

/-! ### The lamp and the timer -/

/-- What the supervisor tells local clients, and what it waits for. -/
structure PollState where
  /-- Whether configuration mode is on. -/
  configMode : Bool
  /-- The lamp. -/
  lamp : Indicator
  /-- Whether the timer of the polls is armed. -/
  armed : Bool

/-- Whether handling a signal counts as a poll, in configuration mode or not. -/
def countsAsPoll (configMode : Bool) : SupervisorSignal → Bool
  | .historyServed => true
  | .deactivateConfigMode => configMode
  | _ => false

namespace PollState

variable {b : PollState} {signal : SupervisorSignal}

/-- A local client polls. -/
def poll (b : PollState) : PollState :=
  { b with lamp := b.lamp.pollOk, armed := true }

/-- How a signal acts. -/
def step (b : PollState) : SupervisorSignal → PollState
  | .activateConfigMode =>
    if b.configMode then b else { b with configMode := true, lamp := b.lamp.configMode true }
  | .deactivateConfigMode =>
    if b.configMode then
      { b with configMode := false, lamp := b.lamp.configMode false }.poll
    else b
  | .historyServed => b.poll
  | .historyTimeout => { b with lamp := b.lamp.pollTimeout }
  | _ => b

/-- The lamp shows configuration mode exactly while it is on, and never has it as news. -/
structure Fits (b : PollState) : Prop where
  mode : b.lamp.showsMode = b.configMode
  news : b.lamp.news ≠ .configMode

/-- No signal disarms the timer of the polls, and a poll arms it. -/
theorem armed_step (b : PollState) (signal : SupervisorSignal) :
    (b.step signal).armed = (b.armed || countsAsPoll b.configMode signal) := by
  cases signal with
  | historyServed => exact (Bool.or_true _).symm
  | activateConfigMode | deactivateConfigMode =>
    cases hactive : b.configMode <;> simp [step, poll, countsAsPoll, hactive]
  | _ => exact (Bool.or_false _).symm

/-- The news are that of the latest poll or timeout. -/
theorem news_step (b : PollState) (signal : SupervisorSignal) :
    (b.step signal).lamp.news =
      if countsAsPoll b.configMode signal then .pollOk
      else if signal = .historyTimeout then .pollTimeout
      else b.lamp.news := by
  cases signal with
  | historyServed => exact Indicator.news_poll _ (by decide)
  | historyTimeout => exact Indicator.news_poll _ (by decide)
  | activateConfigMode =>
    cases hactive : b.configMode <;> simp [step, countsAsPoll, hactive]
  | deactivateConfigMode =>
    cases hactive : b.configMode with
    | true =>
      rw [step, if_pos hactive]
      exact Indicator.news_poll _ (by decide)
    | false => simp [step, countsAsPoll, hactive]
  | _ => rfl

/-- **Whatever is handled**, the lamp fits to the mode. -/
theorem Fits.step (hfits : b.Fits) (signal : SupervisorSignal) : (b.step signal).Fits where
  news := by
    rw [news_step]
    split_ifs
    · decide
    · decide
    · exact hfits.news
  mode := by
    cases signal with
    | historyServed | historyTimeout =>
      exact (Indicator.showsMode_poll _ (by decide)).trans hfits.mode
    | activateConfigMode =>
      rw [PollState.step]
      split_ifs
      · exact hfits.mode
      · exact Indicator.showsMode_configMode _ true hfits.news
    | deactivateConfigMode =>
      rw [PollState.step]
      split_ifs
      · exact (Indicator.showsMode_poll _ (by decide)).trans
          (Indicator.showsMode_configMode _ false hfits.news)
      · exact hfits.mode
    | _ => exact hfits.mode

end PollState

namespace System

variable {ω : Type} {contact : Contact ω} {lamp : ω → Indicator} {s : System ω}

/-- What a supervisor tells local clients, and what it waits for. -/
def pollState (lamp : ω → Indicator) (s : System ω) : PollState where
  configMode := s.supervisor.configMode
  lamp := lamp s.outside
  armed := s.supervisor.timers.history.isArmed

/-- What is asked of the outside acts on the lamp alone. -/
theorem pollState_request (hlights : contact.Lights lamp) (r : Request) (s : System ω) :
    (s.request contact r).pollState lamp =
      { s.pollState lamp with lamp := r.actOnLamp (lamp s.outside) } :=
  congrArg (fun i ↦ PollState.mk s.supervisor.configMode i s.supervisor.timers.history.isArmed)
    (hlights r s.outside)

/-- Connecting to the broker leaves the lamp alone. -/
theorem pollState_startMqtt (hlights : contact.Lights lamp) (s : System ω) :
    (s.startMqtt contact).pollState lamp = s.pollState lamp := by
  rw [startMqtt]
  split_ifs
  · exact pollState_request hlights (.startMqtt _) s
  · rfl

theorem pollState_stopMqtt (hlights : contact.Lights lamp) (s : System ω) :
    (s.stopMqtt contact).pollState lamp = s.pollState lamp :=
  pollState_request hlights .stopMqtt s

theorem pollState_scheduleFirstCheck (manual : Timer SupervisorSignal → Timer SupervisorSignal)
    (s : System ω) : (s.scheduleFirstCheck manual).pollState lamp = s.pollState lamp := by
  rw [scheduleFirstCheck]
  split_ifs <;> rfl

/-- A poll does to the supervisor what `PollState.poll` says. -/
theorem pollState_onHistoryServed (hlights : contact.Lights lamp) (s : System ω) :
    (s.onHistoryServed contact).pollState lamp = (s.pollState lamp).poll :=
  pollState_request hlights (.lamp .pollOk) _

/-- Restarting the services leaves the lamp and the timer of the polls alone. -/
theorem pollState_onRestartServices (hlights : contact.Lights lamp) (s : System ω) :
    (s.onRestartServices contact).pollState lamp = s.pollState lamp := by
  have hreconnected : (s.reconnect contact).pollState lamp = s.pollState lamp := by
    rw [reconnect]
    split_ifs
    · exact pollState_stopMqtt hlights s
    · exact (pollState_startMqtt hlights _).trans (pollState_stopMqtt hlights s)
  rw [← hreconnected]
  exact (pollState_scheduleFirstCheck _ _).trans (pollState_request hlights (.sendScanSettings _) _)

/-- Entering configuration mode lights the lamp, if the mode was off. -/
theorem pollState_onActivateConfigMode (hlights : contact.Lights lamp) (s : System ω) :
    (s.onActivateConfigMode contact).pollState lamp =
      (s.pollState lamp).step .activateConfigMode := by
  cases hactive : s.supervisor.configMode with
  | true =>
    have hon : (s.pollState lamp).configMode = true := hactive
    rw [onActivateConfigMode, if_pos hactive, PollState.step, if_pos hon]
  | false =>
    have hoff : (s.pollState lamp).configMode = false := hactive
    have hopened := pollState_request hlights .startAccessPoint s.enterConfigMode
    have hshown := pollState_request hlights (.lamp (.configMode true))
      (s.enterConfigMode.request contact .startAccessPoint)
    rw [onActivateConfigMode, hactive, PollState.step, hoff]
    refine hshown.trans ?_
    rw [hopened]
    exact congrArg (fun i ↦ PollState.mk true (i.configMode true) _)
      (hlights .startAccessPoint s.enterConfigMode.outside)

/-- Leaving configuration mode counts as a poll: the lamp is lit and the timer is started. -/
theorem pollState_onDeactivateConfigMode (hlights : contact.Lights lamp) (s : System ω) :
    (s.onDeactivateConfigMode contact).pollState lamp =
      (s.pollState lamp).step .deactivateConfigMode := by
  cases hactive : s.supervisor.configMode with
  | false =>
    have hoff : (s.pollState lamp).configMode = false := hactive
    rw [onDeactivateConfigMode, hactive, PollState.step, hoff]
    rfl
  | true =>
    have hon : (s.pollState lamp).configMode = true := hactive
    let s' : System ω := { s with supervisor.configMode := false }
    have hclosed : lamp (s'.request contact .stopAccessPoint).outside = lamp s.outside :=
      hlights .stopAccessPoint s.outside
    have hshown := pollState_request hlights (.lamp (.configMode false))
      (s'.request contact .stopAccessPoint)
    rw [hclosed] at hshown
    have hleft : (s.leaveConfigMode contact).pollState lamp =
        (s.pollState lamp).step .deactivateConfigMode := by
      rw [PollState.step, if_pos hon, leaveConfigMode, pollState_onHistoryServed hlights, hshown]
      rfl
    rw [onDeactivateConfigMode_eq hactive, ← hleft]
    exact pollState_onRestartServices hlights _

/-- A change of the relaying mode leaves the lamp alone. -/
theorem pollState_onRelayingModeChanged (hlights : contact.Lights lamp) (s : System ω) :
    (s.onRelayingModeChanged contact).pollState lamp = s.pollState lamp := by
  rw [onRelayingModeChanged]
  split_ifs
  · exact pollState_stopMqtt hlights s
  · exact pollState_startMqtt hlights s
  · exact pollState_stopMqtt hlights s

/-- A sample of the free memory leaves the lamp alone, even when it restarts the gateway. -/
theorem pollState_onHeapSample (hlights : contact.Lights lamp) (s : System ω) :
    (s.onHeapSample contact).pollState lamp = s.pollState lamp := by
  rw [onHeapSample]
  dsimp only
  split
  · exact pollState_request hlights (.restart .lowMemory) _
  · rfl

theorem pollState_onCheckForUpdates (hlights : contact.Lights lamp) (s : System ω) :
    (s.onCheckForUpdates contact).pollState lamp = s.pollState lamp := by
  have hasked : (s.ask contact .checkForUpdates).2.pollState lamp = s.pollState lamp :=
    pollState_request hlights .checkForUpdates s
  rw [onCheckForUpdates]
  split
  · rcases hanswer : s.ask contact .checkForUpdates with ⟨done, s'⟩
    rw [hanswer] at hasked
    cases done with
    | true => exact hasked
    | false => exact hasked
  · rfl

theorem pollState_onCheckForRemoteConfig (hlights : contact.Lights lamp) (s : System ω) :
    (s.onCheckForRemoteConfig contact).pollState lamp = s.pollState lamp := by
  rw [onCheckForRemoteConfig]
  split_ifs
  · exact pollState_request hlights (.requestRemoteConfig _) s
  · rfl

/-- A network that comes up leaves the lamp alone. -/
theorem pollState_onNetworkConnected (hlights : contact.Lights lamp) (s : System ω) :
    (s.onNetworkConnected contact).pollState lamp = s.pollState lamp := by
  have hannounced : (s.request contact .startMdns).pollState lamp = s.pollState lamp :=
    pollState_request hlights .startMdns s
  rw [onNetworkConnected]
  dsimp only
  split_ifs
  · exact hannounced
  · exact hannounced

/-- **A signal acts on the lamp and on the timer of the polls** as it does on the three facts. -/
theorem pollState_handle (hlights : contact.Lights lamp) (s : System ω)
    (signal : SupervisorSignal) :
    (s.handle contact signal).pollState lamp = (s.pollState lamp).step signal := by
  cases signal with
  | logHeapUsage => exact pollState_onHeapSample hlights s
  | checkForUpdates => exact pollState_onCheckForUpdates hlights s
  | scheduleNextCheck | scheduleRetry | stop => rfl
  | activateConfigMode => exact pollState_onActivateConfigMode hlights s
  | deactivateConfigMode => exact pollState_onDeactivateConfigMode hlights s
  | restartServices => exact pollState_onRestartServices hlights s
  | checkForRemoteConfig => exact pollState_onCheckForRemoteConfig hlights s
  | networkConnected => exact pollState_onNetworkConnected hlights s
  | networkDisconnected => exact pollState_request hlights .stopMdns s
  | reconnectNetwork => exact pollState_request hlights .reconnectNetwork s
  | setDefaultConfig =>
    exact pollState_request hlights (.saveConfig .default) { s with supervisor.config := .default }
  | historyServed => exact pollState_onHistoryServed hlights s
  | historyTimeout => exact pollState_request hlights (.lamp .pollTimeout) s
  | relayingModeChanged => exact pollState_onRelayingModeChanged hlights s
  | feedWatchdog => exact pollState_request hlights (.watchdog .feed) s

/-- A supervisor begins with its lamp as it is, and waits for a poll. -/
theorem pollState_start (hlights : contact.Lights lamp) (s : System ω) :
    (s.start contact).pollState lamp = { s.pollState lamp with armed := true } := by
  let s' := (s.subscribe contact).startMqtt contact
  have hconnected : s'.pollState lamp = s.pollState lamp :=
    (pollState_startMqtt hlights _).trans (pollState_request hlights (.watchdog .register) s)
  rw [← hconnected]
  exact pollState_scheduleFirstCheck id _

/-- The end of a period disarms the timer of the polls if it is its own. -/
theorem pollState_expire (lamp : ω → Indicator) (s : System ω) (id : TimerId)
    (honeShot : s.supervisor.timers.history.kind = .oneShot) :
    (s.expire id).pollState lamp =
      { s.pollState lamp with
        armed := decide (.history ≠ id) && s.supervisor.timers.history.isArmed } :=
  congrArg (PollState.mk _ _) (s.isArmed_expire id .history honeShot)

end System

/-! ### Polls and timeouts in a course -/

namespace Course

variable {ω : Type} {contact : Contact ω} {lamp : ω → Indicator} {course : Course ω}
  {turns : List (Turn ω)}

theorem follow_concat (contact : Contact ω) (course : Course ω) (turns : List (Turn ω))
    (t : Turn ω) :
    course.follow contact (turns ++ [t]) = (course.follow contact turns).turn contact t :=
  List.foldl_concat _ _ _ _

/-- Whether the signal that is handled next counts as a poll. -/
def pollIsNext (course : Course ω) : Bool :=
  course.taken.head?.any (countsAsPoll course.system.supervisor.configMode)

/-- **The latest poll overtook a timeout**: when it was handled, a timeout was waiting. -/
def PollOvertakes (contact : Contact ω) (course : Course ω) (turns : List (Turn ω)) : Prop :=
  ∃ before since, turns = before ++ .handle :: since ∧
    (course.follow contact before).pollIsNext = true ∧
    (course.follow contact before).waits .historyTimeout = true ∧
    ∀ earlier later, since = earlier ++ .handle :: later →
      (course.follow contact (before ++ .handle :: earlier)).pollIsNext = false

/-- Whether a turn makes a signal wait that no timer sends. -/
def Turn.brings (signal : SupervisorSignal) : Turn ω → Bool
  | .send sent => decide (sent = signal)
  | .give signals => signals.contains signal
  | _ => false

/-- **Nobody else has a hand in it**: timeouts are sent by the timer alone, and the lamp is the
supervisor's. -/
structure Undisturbed (contact : Contact ω) (lamp : ω → Indicator) (course : Course ω)
    (turns : List (Turn ω)) : Prop where
  /-- No timeout comes from elsewhere. -/
  timeout : ∀ t ∈ turns, t.brings .historyTimeout = false
  /-- What happens around the supervisor leaves the lamp. -/
  lamp : ∀ before net relayMailbox outside since,
    turns = before ++ .meanwhile net relayMailbox outside :: since →
      lamp outside = lamp (course.follow contact before).system.outside

/-- A timeout waits before a signal is handled if it is that signal, or waits afterwards. -/
theorem waits_cons (contact : Contact ω) (system : System ω) (signal : SupervisorSignal)
    (rest handled : List SupervisorSignal) :
    (Course.mk system (signal :: rest) handled).waits .historyTimeout =
      (decide (signal = .historyTimeout) || (Course.mk (system.handle contact signal) rest
        (handled ++ [signal])).waits .historyTimeout) := by
  have hleaves : System.LeavesTo contact signal system (system.handle contact signal) :=
    System.handle_leaves signal system
  have hpending := hleaves.pending .historyTimeout (by decide) (by decide)
  simp [waits, hpending, Bool.or_assoc, eq_comm]

/-- A course is undisturbed only if its beginning is. -/
theorem Undisturbed.of_concat {t : Turn ω}
    (hundisturbed : Undisturbed contact lamp course (turns ++ [t])) :
    Undisturbed contact lamp course turns where
  timeout u hmem := hundisturbed.timeout u (List.mem_append_left _ hmem)
  lamp before net relayMailbox outside since hsplit :=
    hundisturbed.lamp before net relayMailbox outside (since ++ [t]) (by simp [hsplit])

/-- Where nothing happens around the supervisor, nobody touches the lamp. -/
theorem undisturbed_of_alone (htimeout : ∀ t ∈ turns, t.brings .historyTimeout = false)
    (halone : ∀ net relayMailbox outside, .meanwhile net relayMailbox outside ∉ turns) :
    Undisturbed contact lamp course turns where
  timeout := htimeout
  lamp before net relayMailbox outside since hsplit :=
    absurd (hsplit ▸ by simp) (halone net relayMailbox outside)

theorem not_pollOvertakes_nil : ¬ PollOvertakes contact course [] := by
  rintro ⟨before, since, hnone, -⟩
  exact absurd hnone (by simp)

/-- One more turn in which a poll is handled. -/
theorem pollOvertakes_concat_of_poll
    (hpoll : (course.follow contact turns).pollIsNext = true) :
    PollOvertakes contact course (turns ++ [.handle]) ↔
      (course.follow contact turns).waits .historyTimeout = true := by
  constructor
  · rintro ⟨before, since, hsplit, -, hwaits, hnone⟩
    obtain ⟨rfl, rfl, -⟩ | ⟨earlier, rfl, rfl⟩ := split_concat hsplit
    · exact hwaits
    · exact absurd ((hnone earlier [] rfl).symm.trans hpoll) Bool.false_ne_true
  · intro hwaits
    exact ⟨turns, [], rfl, hpoll, hwaits, by simp⟩

/-- One more turn in which no poll is handled. -/
theorem pollOvertakes_concat_of_not_poll {t : Turn ω}
    (hother : t = .handle → (course.follow contact turns).pollIsNext = false) :
    PollOvertakes contact course (turns ++ [t]) ↔ PollOvertakes contact course turns := by
  constructor
  · rintro ⟨before, since, hsplit, hpoll, hwaits, hnone⟩
    obtain ⟨rfl, rfl, rfl⟩ | ⟨earlier, rfl, rfl⟩ := split_concat hsplit
    · exact absurd ((hother rfl).symm.trans hpoll) Bool.false_ne_true
    · exact ⟨before, earlier, rfl, hpoll, hwaits,
        fun first later hsplit ↦ hnone first (later ++ [t]) (by simp [hsplit])⟩
  · rintro ⟨before, since, rfl, hpoll, hwaits, hnone⟩
    refine ⟨before, since ++ [t], by simp, hpoll, hwaits, fun earlier later hsplit ↦ ?_⟩
    obtain ⟨rfl, rfl, rfl⟩ | ⟨later, rfl, rfl⟩ := split_concat hsplit
    · exact hother rfl
    · exact hnone earlier later rfl

/-- **While the timer of the polls is armed**, a timeout is waiting or was the latest news exactly
if the latest poll overtook one. -/
structure Awaits (lamp : ω → Indicator) (overtook : Prop) (course : Course ω) : Prop where
  /-- The supervisor takes signals. -/
  registered : course.system.mailbox.registered = true
  /-- Its timers are of their first kinds, and send their first signals. -/
  sorts : course.system.supervisor.timers.sorts = Timers.new.sorts
  /-- The lamp fits to the mode. -/
  fits : (course.system.pollState lamp).Fits
  /-- What is waiting, or was handled last, was overtaken. -/
  timeout : course.system.supervisor.timers.history.isArmed = true →
    (course.waits .historyTimeout = true ∨ (lamp course.system.outside).news = .pollTimeout ↔
      overtook)

namespace Awaits

variable {overtook : Prop} (hawaits : Awaits lamp overtook course)

include hawaits

/-- A turn that leaves the timer of the polls, the lamp and what waits of timeouts. -/
theorem aside {course' : Course ω}
    (hregistered : course'.system.mailbox.registered = course.system.mailbox.registered)
    (hsorts : course'.system.supervisor.timers.sorts = course.system.supervisor.timers.sorts)
    (hsame : course'.system.pollState lamp = course.system.pollState lamp)
    (hwaits : course'.waits .historyTimeout = course.waits .historyTimeout) :
    Awaits lamp overtook course' where
  registered := hregistered.trans hawaits.registered
  sorts := hsorts.trans hawaits.sorts
  fits := hsame ▸ hawaits.fits
  timeout harmed := by
    have hlamp_eq : lamp course'.system.outside = lamp course.system.outside :=
      congrArg PollState.lamp hsame
    rw [hwaits, hlamp_eq]
    exact hawaits.timeout ((congrArg PollState.armed hsame).symm.trans harmed)

/-- A signal that is sent leaves what is awaited as it is, unless it is a timeout of the polls. -/
theorem send {signal : SupervisorSignal} (hother : signal ≠ .historyTimeout) :
    Awaits lamp overtook (course.turn contact (.send signal)) := by
  refine hawaits.aside (Mailbox.registered_send _ _) rfl rfl ?_
  have hpending := System.isPending_post hawaits.registered signal .historyTimeout
  rw [decide_eq_false hother, Bool.or_false] at hpending
  exact congrArg (decide (.historyTimeout ∈ course.taken) || ·) hpending

/-- The period of a timer ends. That of the polls is disarmed; no other sends a timeout. -/
theorem expire (id : TimerId) : Awaits lamp overtook (course.turn contact (.expire id)) := by
  have honeShot : course.system.supervisor.timers.history.kind = .oneShot :=
    congrArg Prod.fst (congrFun hawaits.sorts .history)
  have hsame := course.system.pollState_expire lamp id honeShot
  have harmed : (course.system.expire id).supervisor.timers.history.isArmed =
      (decide (.history ≠ id) && course.system.supervisor.timers.history.isArmed) :=
    congrArg PollState.armed hsame
  obtain ⟨-, -, hregistered, hsorts⟩ := course.system.expire_leaves id
  refine ⟨hregistered.trans hawaits.registered, hsorts.trans hawaits.sorts,
    ⟨hawaits.fits.mode, hawaits.fits.news⟩, fun hstill ↦ ?_⟩
  obtain ⟨hother, hwas⟩ := Bool.and_eq_true_iff.1 (harmed.symm.trans hstill)
  have hpending := System.isPending_expire hawaits.registered id .historyTimeout
  -- another timer that ends sends a signal of its own, so no timeout comes to wait
  have hsilent : (course.system.supervisor.timers.get id).signal ≠ .historyTimeout := by
    have hsends : (course.system.supervisor.timers.get id).signal = (Timers.new.get id).signal :=
      congrArg Prod.snd (congrFun hawaits.sorts id)
    rw [hsends]
    cases id with
    | history => exact absurd hother (by decide)
    | _ => decide
  rw [decide_eq_false hsilent, Bool.and_false, Bool.or_false] at hpending
  have hwaits : (course.turn contact (.expire id)).waits .historyTimeout =
      course.waits .historyTimeout :=
    congrArg (decide (SupervisorSignal.historyTimeout ∈ course.taken) || ·) hpending
  rw [hwaits]
  exact hawaits.timeout hwas

/-- What is pending is taken. -/
theorem take : Awaits lamp overtook (course.turn contact .take) := by
  cases hrests : course.taken with
  | cons => simpa only [turn, hrests] using hawaits
  | nil =>
    simp only [turn, hrests]
    refine hawaits.aside rfl rfl rfl ?_
    simp [Course.waits, hrests, SignalSet.mem_toList, Mailbox.takeAll, Mailbox.isPending]

/-- Signals are given, but no timeout. -/
theorem give {signals : SignalSet SupervisorSignal}
    (hother : signals.contains .historyTimeout = false) :
    Awaits lamp overtook (course.turn contact (.give signals)) := by
  cases hrests : course.taken with
  | cons => simpa only [turn, hrests] using hawaits
  | nil =>
    simp only [turn, hrests]
    refine hawaits.aside rfl rfl rfl ?_
    simp [Course.waits, hrests, SignalSet.mem_toList, hother]

/-- What happens meanwhile around the supervisor leaves what is awaited as it is, if the lamp is not
touched. -/
theorem meanwhile {net : NetworkStatus} {relayMailbox : Mailbox RelaySignal} {outside : ω}
    (hsame : lamp outside = lamp course.system.outside) :
    Awaits lamp overtook (course.turn contact (.meanwhile net relayMailbox outside)) :=
  hawaits.aside rfl rfl (congrArg (fun i ↦ PollState.mk _ i _) hsame) rfl

/-- The next signal is handled. -/
theorem handle (hlights : contact.Lights lamp) :
    Awaits lamp (if course.pollIsNext then course.waits .historyTimeout = true else overtook)
      (course.turn contact .handle) := by
  obtain ⟨system, taken, handled⟩ := course
  cases taken with
  | nil => exact hawaits
  | cons signal rest =>
    have hleaves : System.LeavesTo contact signal system (system.handle contact signal) :=
      System.handle_leaves signal system
    have hacts : (system.handle contact signal).pollState lamp =
        (system.pollState lamp).step signal := System.pollState_handle hlights system signal
    have harmed : (system.handle contact signal).supervisor.timers.history.isArmed =
        (system.supervisor.timers.history.isArmed ||
          countsAsPoll system.supervisor.configMode signal) :=
      (congrArg PollState.armed hacts).trans (PollState.armed_step _ _)
    have hnews : (lamp (system.handle contact signal).outside).news =
        if countsAsPoll system.supervisor.configMode signal then .pollOk
        else if signal = .historyTimeout then .pollTimeout
        else (lamp system.outside).news :=
      (congrArg (·.lamp.news) hacts).trans (PollState.news_step _ _)
    refine ⟨hleaves.registered.trans hawaits.registered,
      (System.sorts_handle system signal).trans hawaits.sorts, ?_, fun hstill ↦ ?_⟩
    · show ((system.handle contact signal).pollState lamp).Fits
      rw [hacts]
      exact hawaits.fits.step signal
    · show _ ∨ (lamp (system.handle contact signal).outside).news = _ ↔
        if countsAsPoll system.supervisor.configMode signal then _ else _
      rw [waits_cons contact, hnews]
      -- a poll arms the timer anew and what waits is overtaken; any other signal leaves both as
      -- they were
      cases hpoll : countsAsPoll system.supervisor.configMode signal with
      | true =>
        have hother : signal ≠ .historyTimeout := by
          rintro rfl
          cases hpoll
        simp [hother, turn]
      | false =>
        rw [hpoll, Bool.or_false] at harmed
        have hbefore := hawaits.timeout (harmed.symm.trans hstill)
        rw [waits_cons contact] at hbefore
        by_cases htimeout : signal = .historyTimeout
        · simpa [htimeout] using hbefore
        · simpa [htimeout, turn] using hbefore

omit hawaits in
/-- A supervisor begins with nothing waiting, its lamp as it is, and the timer of the polls armed.
-/
theorem begin (hlights : contact.Lights lamp) (c : Config) {s : System ω}
    (hdark : lamp s.outside = .new) : Awaits lamp False (Course.begin contact c s) := by
  let s' : System ω := { s with supervisor := .new c, mailbox := Mailbox.new.register }
  have hacts : (Course.begin contact c s).system.pollState lamp = ⟨false, .new, true⟩ := by
    have hstarted := System.pollState_start hlights s'
    refine hstarted.trans ?_
    rw [← hdark]
    rfl
  have hlamp_eq : lamp (Course.begin contact c s).system.outside = .new :=
    congrArg PollState.lamp hacts
  have hleaves : System.LeavesTo contact .feedWatchdog s' (s'.start contact) :=
    System.start_leaves s'
  have hnothing : (Course.begin contact c s).waits .historyTimeout = false :=
    (hleaves.pending .historyTimeout (by decide) (by decide)).trans (SignalSet.contains_empty _)
  refine ⟨hleaves.registered, (System.start_spares _).sorts, ?_, fun _ ↦ ?_⟩
  · rw [hacts]
    exact ⟨rfl, by decide⟩
  · rw [hnothing, hlamp_eq]
    simp [Indicator.news, Indicator.new]

omit hawaits in
/-- **Every course** in which nobody else has a hand. -/
theorem follow (hlights : contact.Lights lamp) (hawaits : Awaits lamp False course)
    (hundisturbed : Undisturbed contact lamp course turns) :
    Awaits lamp (PollOvertakes contact course turns) (course.follow contact turns) := by
  induction turns using List.reverseRecOn with
  | nil =>
    rw [eq_false not_pollOvertakes_nil]
    exact hawaits
  | append_singleton turns t ih =>
    have hbefore := ih hundisturbed.of_concat
    have hbrings : t.brings .historyTimeout = false := hundisturbed.timeout t (by simp)
    -- whether the latest poll overtook a timeout changes only when a poll is handled
    have hstays (hother : t = .handle → (course.follow contact turns).pollIsNext = false)
        {course' : Course ω} (hafter : Awaits lamp (PollOvertakes contact course turns) course') :
        Awaits lamp (PollOvertakes contact course (turns ++ [t])) course' := by
      rwa [propext (pollOvertakes_concat_of_not_poll hother)]
    rw [follow_concat]
    cases t with
    | handle =>
      have hafter := hbefore.handle hlights
      cases hpoll : (course.follow contact turns).pollIsNext with
      | true =>
        rw [propext (pollOvertakes_concat_of_poll hpoll)]
        rwa [if_pos hpoll] at hafter
      | false =>
        rw [hpoll] at hafter
        exact hstays (fun _ ↦ hpoll) hafter
    | send signal => exact hstays (by simp) (hbefore.send (of_decide_eq_false hbrings))
    | expire id => exact hstays (by simp) (hbefore.expire id)
    | take => exact hstays (by simp) hbefore.take
    | give signals => exact hstays (by simp) (hbefore.give hbrings)
    | meanwhile net relayMailbox outside =>
      exact hstays (by simp)
        (hbefore.meanwhile (hundisturbed.lamp turns net relayMailbox outside [] rfl))

end Awaits

end Course

/-! ### When the lamp denies a poll -/

/-- **When the lamp shows a timeout although the timer of the polls is armed**, in every course from
the start: over any configuration, any signals and any ends of periods, whatever happens around the
supervisor, and whatever it is answered, as long as timeouts come from the timer alone and nobody
else touches the lamp. Once no timeout is waiting, it does so exactly outside configuration mode,
and if the latest poll overtook a timeout. So it never does where each poll finds the timeout of the
one before handled. -/
theorem pollTimeout_shown_iff {ω : Type} {contact : Contact ω} {lamp : ω → Indicator}
    (hlights : contact.Lights lamp) (c : Config) {s : System ω} (hdark : lamp s.outside = .new)
    {turns : List (Course.Turn ω)}
    (hundisturbed : Course.Undisturbed contact lamp (.begin contact c s) turns) :
    let after := (Course.begin contact c s).follow contact turns
    after.waits .historyTimeout = false →
      after.system.supervisor.timers.history.isArmed = true →
        ((lamp after.system.outside).current = .pollTimeout ↔
          after.system.supervisor.configMode = false ∧
            Course.PollOvertakes contact (.begin contact c s) turns) := by
  intro after hnothing harmed
  have hawaits :
      Course.Awaits lamp (Course.PollOvertakes contact (.begin contact c s) turns) after :=
    (Course.Awaits.begin hlights c hdark).follow hlights hundisturbed
  have hlatest : (lamp after.system.outside).news = .pollTimeout ↔
      Course.PollOvertakes contact (.begin contact c s) turns := by
    simpa [hnothing] using hawaits.timeout harmed
  have hmode : (lamp after.system.outside).showsMode = after.system.supervisor.configMode :=
    hawaits.fits.mode
  rw [Indicator.current_eq_iff _ (by decide), hmode, hlatest]

/-! ### Two gateways with a lamp -/

/-- The supervisor of a gateway at rest, in an outside where everything succeeds. -/
def gatewayAtRest : System (Gateway.Surroundings Rehearsal) where
  supervisor := .new .default
  net := .down
  relayMailbox := Mailbox.new.register
  mailbox := Mailbox.new.register
  outside := .new .default .zero (.fair 0 none)

/-- A gateway that begins, and what happens to its supervisor. -/
def courseOfGateway (turns : List (Course.Turn (Gateway.Surroundings Rehearsal))) :
    Course (Gateway.Surroundings Rehearsal) :=
  (Course.begin Rehearsal.wiring.supervisorContact .default gatewayAtRest).follow
    Rehearsal.wiring.supervisorContact turns

/-- The period ends and the timeout is handled; then a client polls. -/
def pollAfterTimeout : List (Course.Turn (Gateway.Surroundings Rehearsal)) :=
  [.expire .history, .take, .handle, .send .historyServed, .take, .handle]

/-- The lamp shows the poll, which overtook nothing. -/
theorem pollOk_shown_after_timeout :
    let after := courseOfGateway pollAfterTimeout
    after.waits .historyTimeout = false ∧
      after.system.supervisor.timers.history.isArmed = true ∧
      after.system.outside.indicator.current = .pollOk ∧
      ¬ Course.PollOvertakes Rehearsal.wiring.supervisorContact (courseOfGateway [])
        pollAfterTimeout := by
  have hshown : (courseOfGateway pollAfterTimeout).system.outside.indicator.current = .pollOk := rfl
  have hundisturbed : Course.Undisturbed Rehearsal.wiring.supervisorContact (·.indicator)
      (courseOfGateway []) pollAfterTimeout :=
    Course.undisturbed_of_alone (by decide) (by simp [pollAfterTimeout])
  have htimeout := pollTimeout_shown_iff (Gateway.lights_supervisorContact Rehearsal.wiring)
    .default (s := gatewayAtRest) rfl hundisturbed rfl rfl
  refine ⟨rfl, rfl, hshown, fun hovertakes ↦ ?_⟩
  exact absurd (hshown.symm.trans (htimeout.2 ⟨rfl, hovertakes⟩)) (by decide)

/-- The period ends, and a client polls before the timeout is handled. -/
def pollBeforeTimeout : List (Course.Turn (Gateway.Surroundings Rehearsal)) :=
  [.expire .history, .send .historyServed, .take, .handle, .handle]

/-- **A lamp that denies a poll**: nothing is waiting and the timer is armed since the client
polled, but the lamp shows that no client polls. -/
theorem pollTimeout_shown_after_poll :
    let after := courseOfGateway pollBeforeTimeout
    (∀ t ∈ pollBeforeTimeout, t.brings .historyTimeout = false) ∧
      after.handled = [.historyServed, .historyTimeout] ∧
      (∀ signal, after.waits signal = false) ∧
      after.system.supervisor.timers.history.isArmed = true ∧
      after.system.outside.indicator.current = .pollTimeout := by
  have hnothing : ∀ signal, (courseOfGateway pollBeforeTimeout).waits signal = false := by
    intro signal
    cases signal <;> rfl
  exact ⟨by decide, rfl, hnothing, rfl, rfl⟩

end Supervisor

end BeaconGateway
