import BeaconGateway.Config.Validation
import BeaconGateway.Proofs.Supervisor.ConfigMode
import BeaconGateway.Proofs.Supervisor.Frame
import Mathlib.Algebra.Ring.Periodic
import Mathlib.Data.Nat.Count

/-!
# A week of looks for new firmware

Local time is a time zone away from the clock, but by whole hours. So looks that are an hour apart
fall on one local hour after another, wherever in an hour they fall, and a week of them falls on
each hour of each day once, though in another order. Each allowed day then has as many allowed looks
as the window has hours.

A look that is not allowed has the supervisor look again in an hour, so it need not wait for its
window longer than a week.

## Main results

* `LocalHour.ofUnix_add_hours` — looks an hour apart fall on one local hour after another;
* `Config.AutoUpdate.count_allows` — the allowed ones among the hours of a week;
* `Supervisor.System.LooksAt.nextLook` — a look that is not allowed is followed by one an hour
  later;
* `Supervisor.System.weekly_window` — the allowed hours of each week, and a supervisor that reaches
  one of them.
-/

namespace BeaconGateway

/-! ### Counting -/

section Count

variable {p q : Nat → Prop} [DecidablePred p] [DecidablePred q]

theorem count_congr {n : Nat} (hsame : ∀ k < n, p k ↔ q k) : Nat.count p n = Nat.count q n :=
  le_antisymm (Nat.count_mono_left fun k hlt ↦ (hsame k hlt).1)
    (Nat.count_mono_left fun k hlt ↦ (hsame k hlt).2)

/-- A period has the same count wherever it begins. -/
theorem count_add_of_periodic {a : Nat} (hperiodic : Function.Periodic p a) (n : Nat) :
    Nat.count (fun k ↦ p (n + k)) a = Nat.count p a := by
  have hagain : Nat.count (fun k ↦ p (a + k)) n = Nat.count p n :=
    count_congr fun k _ ↦ by rw [Nat.add_comm a k, hperiodic k]
  have hfirst := Nat.count_add p n a
  have hsecond := Nat.count_add p a n
  rw [Nat.add_comm a n, hagain] at hsecond
  omega

/-- Of the numbers under a product, those whose quotient and remainder are both counted. -/
theorem count_div_mod (a : Nat) {b : Nat} (hsome : 0 < b) :
    Nat.count (fun k ↦ p (k / b) ∧ q (k % b)) (b * a) = Nat.count p a * Nat.count q b := by
  induction a with
  | zero => simp
  | succ a ih =>
    have hrow : Nat.count (fun k ↦ p ((b * a + k) / b) ∧ q ((b * a + k) % b)) b =
        Nat.count (fun k ↦ p a ∧ q k) b := by
      refine count_congr fun k hlt ↦ ?_
      rw [Nat.mul_add_div hsome, Nat.div_eq_of_lt hlt, Nat.mul_add_mod, Nat.mod_eq_of_lt hlt,
        Nat.add_zero]
    rw [Nat.mul_succ, Nat.count_add, ih, hrow, Nat.count_succ, Nat.add_mul]
    by_cases hcounted : p a
    · simp [hcounted]
    · simp [hcounted]

/-- The numbers of a window. -/
theorem count_window (first last n : Nat) :
    Nat.count (fun k ↦ first ≤ k ∧ k < last) n = min last n - first := by
  induction n with
  | zero => simp
  | succ n ih =>
    rw [Nat.count_succ, ih]
    split_ifs with hinside
    · omega
    · omega

end Count

/-- The bits of a byte that are set. -/
def popcount (b : UInt8) : Nat :=
  Nat.count (fun i ↦ b.toNat.testBit i = true) 8

/-- Of all but the last bit. -/
theorem popcount_and (b : UInt8) :
    popcount (b &&& 0x7F) = Nat.count (fun i ↦ b.toNat.testBit i = true) 7 := by
  have hmasked (i : Nat) : (b &&& 0x7F).toNat.testBit i =
      (b.toNat.testBit i && Nat.testBit 127 i) := by
    rw [UInt8.toNat_and, Nat.testBit_and]
    rfl
  have hlast : ¬ (b &&& 0x7F).toNat.testBit 7 = true := by
    rw [hmasked, show Nat.testBit 127 7 = false from rfl, Bool.and_false]
    exact Bool.false_ne_true
  have hones : ∀ i < 7, Nat.testBit 127 i = true := by decide
  rw [popcount, Nat.count_succ, if_neg hlast]
  exact count_congr fun i hlt ↦ by rw [hmasked, hones i hlt, Bool.and_true]

/-- A byte without a bit is zero. -/
theorem popcount_pos {b : UInt8} (hsome : b ≠ 0) : 0 < popcount b := by
  refine Nat.pos_of_ne_zero fun hnone ↦ hsome ?_
  have hunset : ∀ i < 8, ¬ b.toNat.testBit i = true := Nat.count_iff_forall_not.1 hnone
  refine UInt8.toNat_inj.1 (Nat.eq_of_testBit_eq fun i ↦ ?_)
  rw [UInt8.toNat_zero, Nat.zero_testBit]
  by_cases hlow : i < 8
  · exact Bool.eq_false_of_not_eq_true (hunset i hlow)
  · exact Nat.testBit_lt_two_pow (b.toNat_lt.trans_le (Nat.pow_le_pow_right (by decide) (by omega)))

/-! ### Hours of the week -/

namespace LocalHour

/-- The local hour so many hours after the beginning of a week. -/
def ofWeek (hours : Nat) : LocalHour where
  weekday := hours / 24 % 7
  hour := hours % 24

/-- A week has 168 hours. -/
theorem ofWeek_periodic : Function.Periodic ofWeek 168 := by
  intro hours
  simp only [ofWeek, LocalHour.mk.injEq]
  omega

/-- The hours of local time since a week began, eleven days before 1970. -/
def sinceWeekBegan (unixTime : Nat) (timeZone : Int8) : Nat :=
  (Int.ofNat (unixTime / 3600) + timeZone.toInt + 11 * 24).toNat

/-- **Looks that are an hour apart** fall on one local hour after another. -/
theorem ofUnix_add_hours {t k : Nat} (hroom : t + 3600 * k < UInt32.size) (timeZone : Int8) :
    ofUnix (UInt32.ofNat (t + 3600 * k)) timeZone = ofWeek (sinceWeekBegan t timeZone + k) := by
  have hwest : -128 ≤ timeZone.toInt := timeZone.minValue_le_toInt
  simp only [ofUnix, ofWeek, sinceWeekBegan, UInt32.toNat_ofNat_of_lt' hroom, secondsPerDay,
    secondsPerHour, Int.ofNat_eq_natCast, LocalHour.mk.injEq]
  simp (disch := decide) only [Int.fdiv_eq_ediv_of_nonneg, Int.fmod_eq_emod_of_nonneg]
  omega

end LocalHour

namespace Config.AutoUpdate

/-- Whether new firmware may be looked for in a local hour. -/
def Allows (window : Config.AutoUpdate) (localHour : LocalHour) : Prop :=
  window.weekdays.toNat.testBit localHour.weekday = true ∧
    window.fromHour.toNat ≤ localHour.hour ∧ localHour.hour < window.toHour.toNat

instance (window : Config.AutoUpdate) : DecidablePred window.Allows :=
  fun _ ↦ inferInstanceAs (Decidable (_ ∧ _))

/-- **The allowed hours among those of a week**, wherever the week begins. -/
theorem count_allows (window : Config.AutoUpdate) (hfits : window.toHour.toNat ≤ 24) (n : Nat) :
    Nat.count (fun k ↦ window.Allows (.ofWeek (n + k))) 168 =
      popcount (window.weekdays &&& 0x7F) * (window.toHour.toNat - window.fromHour.toNat) := by
  have hperiodic : Function.Periodic (fun k ↦ window.Allows (.ofWeek k)) 168 :=
    LocalHour.ofWeek_periodic.comp window.Allows
  have hinWeek : ∀ k < 24 * 7, window.Allows (.ofWeek k) ↔
      window.weekdays.toNat.testBit (k / 24) = true ∧
        (window.fromHour.toNat ≤ k % 24 ∧ k % 24 < window.toHour.toNat) := by
    intro k hlt
    have hday : k / 24 % 7 = k / 24 := Nat.mod_eq_of_lt (by omega)
    rw [Allows, LocalHour.ofWeek, hday]
  have hrows := count_div_mod (p := fun day ↦ window.weekdays.toNat.testBit day = true)
    (q := fun hour ↦ window.fromHour.toNat ≤ hour ∧ hour < window.toHour.toNat)
    7 (show 0 < 24 by decide)
  calc Nat.count (fun k ↦ window.Allows (.ofWeek (n + k))) 168
      = Nat.count (fun k ↦ window.Allows (.ofWeek k)) (24 * 7) := count_add_of_periodic hperiodic n
    _ = Nat.count (fun day ↦ window.weekdays.toNat.testBit day = true) 7 *
          Nat.count (fun hour ↦ window.fromHour.toNat ≤ hour ∧ hour < window.toHour.toNat) 24 :=
        (count_congr hinWeek).trans hrows
    _ = popcount (window.weekdays &&& 0x7F) *
          (window.toHour.toNat - window.fromHour.toNat) := by
        rw [popcount_and, count_window, min_eq_left hfits]

end Config.AutoUpdate

/-- The hours of the update window of a valid configuration. -/
theorem Config.IsValid.window {c : Config} (hvalid : c.IsValid) :
    c.autoUpdate.fromHour.toNat < c.autoUpdate.toHour.toNat ∧
      c.autoUpdate.toHour.toNat ≤ 24 := by
  rw [Config.isValid_iff] at hvalid
  simp only [Config.rules, List.forall_mem_cons, Bool.or_eq_false_iff, decide_eq_false_iff_not,
    UInt8.not_lt, UInt8.not_le] at hvalid
  obtain ⟨-, -, -, -, -, -, -, ⟨hwhole, hinterval⟩, -⟩ := hvalid
  exact ⟨UInt8.lt_iff_toNat_lt.1 hinterval, UInt8.le_iff_toNat_le.1 hwhole⟩

namespace Supervisor

/-- **When new firmware may be looked for**: while a link is up, the clock is set, the update cycle
is not manual, and local time is in the window. -/
theorem checkAllowed_eq_ok_iff {window : Config.AutoUpdate} {connected : Bool}
    {unixTime : Option UInt32} :
    checkAllowed window connected unixTime = .ok () ↔
      connected = true ∧ window.cycle ≠ .manual ∧
        ∃ now, unixTime = some now ∧ window.Allows (.ofUnix now window.timeZone) := by
  cases connected with
  | false => simp [checkAllowed]
  | true =>
    cases unixTime with
    | none => simp [checkAllowed]
    | some now =>
      simp only [checkAllowed, Bool.not_true, Bool.false_eq_true, if_false, true_and,
        Option.some.injEq, exists_eq_left', Config.AutoUpdate.Allows]
      split_ifs with hmanual hunset houtside
      · simp [hmanual]
      · rw [Bool.not_eq_true'] at hunset
        simp [hunset]
      · simp only [false_iff, not_and]
        omega
      · rw [Bool.not_eq_true', Bool.not_eq_false] at hunset
        simp only [true_iff]
        exact ⟨hmanual, hunset, by omega, by omega⟩

theorem isOk_iff {allowed : Except SkipReason Unit} : allowed.isOk = true ↔ allowed = .ok () := by
  cases allowed with
  | ok => simp [Except.isOk, Except.toBool]
  | error => simp [Except.isOk, Except.toBool]

/-! ### Looks -/

/-- An outside with a clock beside it that counts seconds. -/
def Contact.clocked {ω : Type} (contact : Contact ω) : Contact (ω × Nat) where
  ask := fun request (outside, now) ↦
    let (done, outside) := contact.ask request outside
    (done, outside, now)
  unixTime := fun (_, now) ↦ some (UInt32.ofNat now)
  freeHeap := fun (outside, _) ↦ contact.freeHeap outside

/-- The signals that touch the configuration or the timer of the update checks. -/
def disturbing : List SupervisorSignal :=
  [.checkForUpdates, .scheduleNextCheck, .scheduleRetry, .activateConfigMode,
    .deactivateConfigMode, .restartServices, .setDefaultConfig]

namespace System

variable {ω : Type} {contact : Contact ω} {c : Config} {now : Nat} {s : System (ω × Nat)}

/-- **From one look to the next**: the supervisor takes what is pending and looks, handles other
signals, and waits for as long as its timer says. Then the timer's period ends. -/
def nextLook (contact : Contact ω) (others : List SupervisorSignal) (s : System (ω × Nat)) :
    System (ω × Nat) :=
  let looked := { s with mailbox := s.mailbox.takeAll.2 }.handle contact.clocked .checkForUpdates
  let idle := others.foldl (handle contact.clocked) looked
  let seconds := idle.supervisor.timers.updates.schedule.getD 0 / 1000
  { idle with outside := (idle.outside.1, idle.outside.2 + seconds) }.expire .updates

/-- The supervisor before each of its looks, where other signals are handled between them. -/
def looks (contact : Contact ω) (others : Nat → List SupervisorSignal) (s : System (ω × Nat)) :
    Nat → System (ω × Nat)
  | 0 => s
  | k + 1 => (s.looks contact others k).nextLook contact (others k)

/-- **A supervisor at work** under a configuration, at a time of its clock, while a link is up. -/
structure WorksAt (c : Config) (now : Nat) (s : System (ω × Nat)) : Prop where
  /-- The configuration is in force. -/
  config : s.supervisor.config = c
  /-- A link is up. -/
  connected : s.net.isConnected = true
  /-- It is that time. -/
  clock : s.outside.2 = now
  /-- The supervisor takes signals. -/
  registered : s.mailbox.registered = true
  /-- Its timers are of their first kinds, and send their first signals. -/
  sorts : s.supervisor.timers.sorts = Timers.new.sorts

/-- **A supervisor that is about to look** for new firmware. -/
structure LooksAt (c : Config) (now : Nat) (s : System (ω × Nat)) : Prop extends
    WorksAt c now s where
  /-- The signal to look is pending. -/
  pending : s.mailbox.isPending .checkForUpdates = true

/-- All signals but one leave the supervisor at work under its configuration. -/
theorem WorksAt.handle {signal : SupervisorSignal} (hworks : WorksAt c now s)
    (hother : signal ≠ .setDefaultConfig) : WorksAt c now (s.handle contact.clocked signal) := by
  have hleaves : LeavesTo contact.clocked signal s (s.handle contact.clocked signal) :=
    handle_leaves signal s
  have hconfig : (s.handle contact.clocked signal).supervisor.config = s.supervisor.config := by
    refine (congrArg WaitState.config (waitState_handle s signal)).trans ?_
    rw [WaitState.config_step, if_neg hother]
    rfl
  have hkept : ∀ r (o : ω × Nat), (contact.clocked.ask r o).2.2 = o.2 := fun _ _ ↦ rfl
  have hclock : (s.handle contact.clocked signal).outside.2 = now :=
    hleaves.outside.preserves (P := fun o ↦ o.2 = now) (fun r o _ hsame ↦ (hkept r o).trans hsame)
      hworks.clock
  exact ⟨hconfig.trans hworks.config, hleaves.connected.trans hworks.connected, hclock,
    hleaves.registered.trans hworks.registered, (sorts_handle s signal).trans hworks.sorts⟩

/-- Signals that disturb nothing leave the supervisor at work and the time of the next look. -/
theorem WorksAt.foldl_handle {others : List SupervisorSignal} (hworks : WorksAt c now s)
    (hcalm : ∀ signal ∈ others, signal ∉ disturbing) :
    WorksAt c now (others.foldl (System.handle contact.clocked) s) ∧
      (others.foldl (System.handle contact.clocked) s).supervisor.timers.updates =
        s.supervisor.timers.updates := by
  induction others generalizing s with
  | nil => exact ⟨hworks, rfl⟩
  | cons signal rest ih =>
    obtain ⟨hcalm, hrest_calm⟩ := List.forall_mem_cons.1 hcalm
    have hother : signal ≠ .setDefaultConfig := by
      rintro rfl
      exact hcalm (by decide)
    have huntouched : .updates ∉ touches s.supervisor.configMode signal := by
      revert hcalm
      cases signal <;> simp [disturbing, touches]
    obtain ⟨hrest_works, hrest_same⟩ := ih (hworks.handle hother) hrest_calm
    exact ⟨hrest_works, hrest_same.trans (get_handle s huntouched)⟩

/-- A look that is not allowed schedules the next one in an hour. -/
theorem schedule_onCheckForUpdates_of_refused {ω : Type} {contact : Contact ω} {s : System ω}
    (hrefused : checkAllowed s.supervisor.config.autoUpdate s.net.isConnected
      (contact.unixTime s.outside) ≠ .ok ()) :
    (s.onCheckForUpdates contact).supervisor.timers.updates.schedule =
      some delayBeforeRetry := by
  rw [onCheckForUpdates]
  split
  · next hallowed => exact absurd hallowed hrefused
  · rfl

/-- **A look that is not allowed** is followed by one an hour later. -/
theorem LooksAt.nextLook {others : List SupervisorSignal} (hlooks : LooksAt c now s)
    (hrefused : checkAllowed c.autoUpdate true (some (UInt32.ofNat now)) ≠ .ok ())
    (hcalm : ∀ signal ∈ others, signal ∉ disturbing) :
    LooksAt c (now + 3600) (s.nextLook contact others) := by
  let taken := { s with mailbox := s.mailbox.takeAll.2 }
  let looked := taken.handle contact.clocked .checkForUpdates
  let idle := others.foldl (System.handle contact.clocked) looked
  let due := { idle with outside := (idle.outside.1, idle.outside.2 + 3600) }
  have hat_work : WorksAt c now taken := { hlooks.toWorksAt with }
  have hlooked_works : WorksAt c now looked := hat_work.handle nofun
  obtain ⟨hworks, hsame⟩ : WorksAt c now idle ∧
      idle.supervisor.timers.updates = looked.supervisor.timers.updates :=
    hlooked_works.foldl_handle hcalm
  -- the signals between leave the timer alone, so it is due an hour after the refused look
  have hscheduled : idle.supervisor.timers.updates.schedule = some delayBeforeRetry := by
    rw [hsame]
    refine schedule_onCheckForUpdates_of_refused fun hallowed ↦ hrefused ?_
    rw [← hallowed, hat_work.config, hat_work.connected, ← hat_work.clock]
    rfl
  have harmed : idle.supervisor.timers.updates.isArmed = true := by
    by_contra hidle_timer
    rw [Timer.schedule, if_neg hidle_timer] at hscheduled
    cases hscheduled
  have hsends : (due.supervisor.timers.get .updates).signal = .checkForUpdates :=
    congrArg Prod.snd (congrFun hworks.sorts .updates)
  have hrings : (due.expire .updates).mailbox.isPending .checkForUpdates = true := by
    have hring := isPending_expire (s := due) hworks.registered .updates .checkForUpdates
    have hdue_armed : (due.supervisor.timers.get .updates).isArmed = true := harmed
    rw [hring, hsends, hdue_armed]
    simp
  have hwaits : s.nextLook contact others = due.expire .updates := by
    show ({ idle with outside := (idle.outside.1, idle.outside.2 +
      idle.supervisor.timers.updates.schedule.getD 0 / 1000) } : System (ω × Nat)).expire _ = _
    rw [hscheduled]
    rfl
  obtain ⟨hconfig, -, hregistered, hsorts⟩ := due.expire_leaves .updates
  rw [hwaits]
  exact ⟨⟨hconfig.trans hworks.config, hworks.connected, congrArg (· + 3600) hworks.clock,
    hregistered.trans hworks.registered, hsorts.trans hworks.sorts⟩, hrings⟩

/-- A supervisor that is about to look asks for new firmware if it may be looked for now. -/
theorem LooksAt.asks_iff (hlooks : LooksAt c now s) :
    .checkForUpdates ∈ s.requests contact.clocked .checkForUpdates ↔
      checkAllowed c.autoUpdate true (some (UInt32.ofNat now)) = .ok () := by
  have hclock : contact.clocked.unixTime s.outside = some (UInt32.ofNat now) :=
    congrArg (fun now ↦ some (UInt32.ofNat now)) hlooks.clock
  rw [checkForUpdates_mem_requests, hlooks.config, hlooks.connected, hclock]
  exact and_iff_right rfl

/-- **The update window of a valid configuration.** Of looks an hour apart over a week, from any
time on, as many are allowed as the allowed days have hours of the window. So if a day is allowed, a
supervisor that looks again and again asks for new firmware within the week: each look before is
followed by one an hour later. -/
theorem weekly_window {c : Config} (hvalid : c.validate = .ok ())
    (hautomatic : c.autoUpdate.cycle ≠ .manual) {t : Nat} (hroom : t + 3600 * 167 < UInt32.size) :
    Nat.count (fun k ↦
        (checkAllowed c.autoUpdate true (some (UInt32.ofNat (t + 3600 * k)))).isOk) 168 =
      popcount (c.autoUpdate.weekdays &&& 0x7F) *
        (c.autoUpdate.toHour.toNat - c.autoUpdate.fromHour.toNat) ∧
    (c.autoUpdate.weekdays &&& 0x7F ≠ 0 →
      ∀ {ω : Type} (contact : Contact ω) (others : Nat → List SupervisorSignal)
        (s : System (ω × Nat)), (∀ k, ∀ signal ∈ others k, signal ∉ disturbing) →
        LooksAt c t s → ∃ k < 168,
          (∀ j ≤ k, LooksAt c (t + 3600 * j) (s.looks contact others j)) ∧
          ∀ j ≤ k, .checkForUpdates ∈
            (s.looks contact others j).requests contact.clocked .checkForUpdates ↔ j = k) := by
  obtain ⟨hsome_hour, hwhole⟩ := (Config.validate_eq_ok_iff.1 hvalid).window
  have hallowed_iff : ∀ k < 168,
      (checkAllowed c.autoUpdate true (some (UInt32.ofNat (t + 3600 * k)))).isOk = true ↔
        c.autoUpdate.Allows
          (.ofWeek (LocalHour.sinceWeekBegan t c.autoUpdate.timeZone + k)) := by
    intro k hlt
    have hwithin : t + 3600 * k < UInt32.size := by omega
    rw [isOk_iff, checkAllowed_eq_ok_iff, ← LocalHour.ofUnix_add_hours hwithin]
    simp only [true_and, Option.some.injEq, exists_eq_left', ne_eq, hautomatic, not_false_iff]
  have hcount := (count_congr hallowed_iff).trans (c.autoUpdate.count_allows hwhole _)
  refine ⟨hcount, fun hsome_day ω contact others s hcalm hlooks ↦ ?_⟩
  have hsome_look : ∃ k < 168,
      (checkAllowed c.autoUpdate true (some (UInt32.ofNat (t + 3600 * k)))).isOk = true := by
    rw [← Nat.count_ne_iff_exists, hcount]
    exact (Nat.mul_pos (popcount_pos hsome_day) (Nat.sub_pos_of_lt hsome_hour)).ne'
  -- the first allowed look, to which all looks before it lead
  obtain ⟨hinWeek, hallowed⟩ := Nat.find_spec hsome_look
  have hrefused : ∀ j < Nat.find hsome_look,
      checkAllowed c.autoUpdate true (some (UInt32.ofNat (t + 3600 * j))) ≠ .ok () :=
    fun j hlt hallowed ↦ Nat.find_min hsome_look hlt ⟨hlt.trans hinWeek, isOk_iff.2 hallowed⟩
  have hreached : ∀ j ≤ Nat.find hsome_look,
      LooksAt c (t + 3600 * j) (s.looks contact others j) := by
    intro j hle
    induction j with
    | zero => exact hlooks
    | succ j ih =>
      rw [Nat.mul_succ, ← Nat.add_assoc]
      exact (ih (Nat.le_of_succ_le hle)).nextLook (hrefused j hle) (hcalm j)
  refine ⟨_, hinWeek, hreached, fun j hle ↦ ?_⟩
  rw [(hreached j hle).asks_iff]
  constructor
  · exact fun hallowed ↦ (Nat.eq_or_lt_of_le hle).resolve_right fun hlt ↦ hrefused j hlt hallowed
  · rintro rfl
    exact isOk_iff.1 hallowed

/-- A configuration that allows one hour in the night to Sunday, twelve hours west. -/
def sundayNight : Config :=
  { Config.default with autoUpdate := {
      cycle := .regular
      weekdays := 1
      fromHour := 3
      toHour := 4
      timeZone := -12 } }

/-- A supervisor that is about to look at the beginning of 1970, when it was still the day before
there. -/
def aboutToLook : System (Unit × Nat) :=
  { online sundayNight with
    mailbox := (Mailbox.new.register.send .checkForUpdates).2
    outside := ((), 0) }

/-- It may look for new firmware once in a week, and does so. -/
theorem weekly_window_sundayNight :
    Nat.count (fun k ↦
      (checkAllowed sundayNight.autoUpdate true (some (UInt32.ofNat (3600 * k)))).isOk) 168 = 1 ∧
    ∃ k < 168, .checkForUpdates ∈
      (aboutToLook.looks willing (fun _ ↦ []) k).requests willing.clocked .checkForUpdates := by
  obtain ⟨hcount, hlooks⟩ := weekly_window (c := sundayNight) (t := 0) rfl (by decide) (by decide)
  simp only [Nat.zero_add] at hcount
  refine ⟨hcount, ?_⟩
  obtain ⟨k, hinWeek, -, hasks⟩ := hlooks (by decide) willing (fun _ ↦ []) aboutToLook (by simp)
    ⟨⟨rfl, rfl, rfl, rfl, rfl⟩, rfl⟩
  exact ⟨k, hinWeek, (hasks k le_rfl).2 rfl⟩

end System

end Supervisor

end BeaconGateway
