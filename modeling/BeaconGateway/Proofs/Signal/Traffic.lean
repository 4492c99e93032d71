import BeaconGateway.Proofs.Log
import BeaconGateway.Proofs.Signal.Set
import BeaconGateway.Supervisor.Signal
import Mathlib.Logic.Function.Basic

/-!
# Traffic at a mailbox

Any number of senders use a mailbox at the same time as the task that waits there. A sender looks
whether a task is registered, marks its signal, and rings the bell. The task takes what is pending;
if that is nothing it is blocked until it hears the bell, and takes again. Each of these is one
step, and between two steps of one party there may be any steps of the others.

So what is pending and the bell need not agree. The bell may have rung for a signal that is already
taken, and then the task looks in vain; and a signal may be pending for which nobody has rung yet.
But the task is never blocked for good: while the bell is silent, whoever marked a signal since the
task last looked has still to ring.

Nothing is lost and nothing is made up. Each take finds exactly what was marked since the one
before, so the signal of a send is found by the first take after it was marked, and is pending until
then.

## Main definitions

* `Mailbox.Traffic` — a mailbox, its senders and its task, with `Mailbox.Traffic.run`;
* `Mailbox.Traffic.Sound` — the invariant.

## Main results

* `Mailbox.Traffic.run_send`, `Mailbox.Traffic.run_wait` — sending and waiting with nobody in
  between;
* `Mailbox.Traffic.sound_run` — the invariant holds in all traffic;
* `Mailbox.Traffic.Sound.caught` — the first take after a mark finds it;
* `Mailbox.Traffic.nothing_lost` — no signal is lost, no wake-up is missed, and none is made up.
-/

namespace BeaconGateway.Mailbox

/-! ### Senders, the task, and what they do -/

/-- How far a sender is. -/
inductive Sender (σ : Type) where
  /-- It sends nothing. -/
  | resting
  /-- It found a task registered. -/
  | entered (s : σ)
  /-- It marked its signal and has still to ring. -/
  | marked (s : σ)

/-- How far the task is. -/
inductive Waiter where
  /-- It does not wait. -/
  | away
  /-- It is about to take what is pending. -/
  | looking
  /-- It found nothing pending. -/
  | blocked

/-- What is worth remembering of the traffic. -/
inductive Entry (ι σ : Type) where
  /-- A sender marked its signal. -/
  | marked (i : ι) (s : σ)
  /-- A sender is done, with success. -/
  | sent (i : ι) (s : σ)
  /-- The task took what was pending, which may be nothing. -/
  | took (set : SignalSet σ)

/-- A step of a sender or of the task. -/
inductive Move (ι σ : Type) where
  /-- A sender looks whether a task is registered. -/
  | begin (i : ι) (s : σ)
  /-- A sender marks its signal. -/
  | mark (i : ι)
  /-- A sender rings the bell. -/
  | ring (i : ι)
  /-- The task begins to wait. -/
  | wait
  /-- The task takes what is pending. -/
  | take
  /-- The task hears the bell. -/
  | hear

namespace Entry

variable {ι σ : Type}

/-- Whether the task took something then. -/
def isTake : Entry ι σ → Bool
  | .took _ => true
  | _ => false

/-- Whether it is about a sender. -/
def isOf [DecidableEq ι] (i : ι) : Entry ι σ → Bool
  | .marked j _ | .sent j _ => decide (j = i)
  | .took _ => false

end Entry

/-- A mailbox in use by senders `ι` and a task. -/
structure Traffic (ι σ : Type) where
  /-- The mailbox. -/
  mailbox : Mailbox σ
  /-- How far each sender is. -/
  senders : ι → Sender σ
  /-- How far the task is. -/
  waiter : Waiter
  /-- What happened so far. -/
  log : List (Entry ι σ)

namespace Traffic

variable {ι σ : Type} [DecidableEq ι] [SignalKind σ] {t : Traffic ι σ} {i : ι} {s : σ}

/-- A task has registered, and nobody has sent anything. -/
def start : Traffic ι σ where
  mailbox := Mailbox.new.register
  senders _ := .resting
  waiter := .away
  log := []

/-- A sender that found a task registered. -/
def enter (t : Traffic ι σ) (i : ι) (s : σ) : Traffic ι σ :=
  { t with senders := Function.update t.senders i (.entered s) }

/-- A sender marks its signal. -/
def mark (t : Traffic ι σ) (i : ι) (s : σ) : Traffic ι σ where
  mailbox := t.mailbox.mark s
  senders := Function.update t.senders i (.marked s)
  waiter := t.waiter
  log := t.log ++ [.marked i s]

/-- A sender rings, and is done. -/
def ring (t : Traffic ι σ) (i : ι) (s : σ) : Traffic ι σ where
  mailbox := t.mailbox.ring
  senders := Function.update t.senders i .resting
  waiter := t.waiter
  log := t.log ++ [.sent i s]

/-- The task takes what is pending, and is blocked if that is nothing. -/
def take (t : Traffic ι σ) : Traffic ι σ where
  mailbox := t.mailbox.takeAll.2
  senders := t.senders
  waiter := if t.mailbox.takeAll.1.isEmpty then .blocked else .away
  log := t.log ++ [.took t.mailbox.takeAll.1]

/-- A step is made. It comes to nothing where it is not the turn of its party, and the bell is heard
only if it has rung. -/
def step (t : Traffic ι σ) : Move ι σ → Traffic ι σ
  | .begin i s =>
    match t.senders i with
    | .resting => if t.mailbox.registered then t.enter i s else t
    | _ => t
  | .mark i =>
    match t.senders i with
    | .entered s => t.mark i s
    | _ => t
  | .ring i =>
    match t.senders i with
    | .marked s => t.ring i s
    | _ => t
  | .wait =>
    match t.waiter with
    | .away => { t with waiter := .looking }
    | _ => t
  | .take =>
    match t.waiter with
    | .looking => t.take
    | _ => t
  | .hear =>
    match t.waiter with
    | .blocked =>
      if t.mailbox.bell then { t with mailbox := t.mailbox.hear, waiter := .looking } else t
    | _ => t

/-- Steps are made in order. -/
def run (t : Traffic ι σ) (moves : List (Move ι σ)) : Traffic ι σ :=
  moves.foldl step t

/-! ### Nobody in between -/

/-- **To send with nobody in between** is to send. -/
theorem run_send (hresting : t.senders i = .resting) (s : σ) :
    t.run [.begin i s, .mark i, .ring i] =
      { t with
        mailbox := (t.mailbox.send s).2
        log := t.log ++ if (t.mailbox.send s).1 then [.marked i s, .sent i s] else [] } := by
  have hidle : Function.update t.senders i .resting = t.senders :=
    Function.update_eq_self_iff.2 hresting.symm
  cases hregistered : t.mailbox.registered <;>
    simp [run, step, enter, mark, ring, send, hresting, hregistered, hidle]

/-- **To wait with nobody in between** is to take what is pending, or to be blocked. -/
theorem run_wait (haway : t.waiter = .away) :
    t.run [.wait, .take] =
      match t.mailbox.wait? with
      | some (set, mailbox) => { t with mailbox, log := t.log ++ [.took set] }
      | none => { t with waiter := .blocked, log := t.log ++ [.took .empty] } := by
  cases hnothing : t.mailbox.pending.isEmpty with
  | true =>
    have hempty : t.mailbox.pending = .empty := SignalSet.isEmpty_iff.1 hnothing
    have hsame : t.mailbox.takeAll = (.empty, t.mailbox) := by rw [takeAll, ← hempty]
    have hnone : t.mailbox.wait? = none := by rw [wait?, if_pos hnothing]
    simp [run, step, take, haway, hnone, hsame, SignalSet.isEmpty_iff.2]
  | false => simp [run, step, take, wait?, takeAll, haway, hnothing]

/-! ### The invariant -/

/-- A signal was marked by a sender since the task last took something. -/
def Untaken (t : Traffic ι σ) (i : ι) (s : σ) : Prop :=
  Log.Lasts Entry.isTake t.log (.marked i s)

/-- **How an entry follows**: who is done marked the signal just before, and what the task took was
marked since it last took something. -/
def Follows (before : List (Entry ι σ)) : Entry ι σ → Prop
  | .marked _ _ => True
  | .sent i s => Log.Lasts (Entry.isOf i) before (.marked i s)
  | .took set => ∀ n, set.hasBit n = true ↔
      ∃ i s, SignalKind.index s = n ∧ Log.Lasts Entry.isTake before (.marked i s)

/-- **The traffic is sound.** -/
structure Sound (t : Traffic ι σ) : Prop where
  /-- The task stays registered. -/
  registered : t.mailbox.registered = true
  /-- What is pending was marked since the task last took something. -/
  pending : ∀ n, t.mailbox.pending.hasBit n = true ↔ ∃ i s, SignalKind.index s = n ∧ t.Untaken i s
  /-- While the task is blocked and the bell silent, whoever marked a signal has still to ring. -/
  unrung : t.waiter = .blocked → t.mailbox.bell = false →
    ∀ i s, t.Untaken i s → t.senders i = .marked s
  /-- Who has still to ring did nothing since it marked its signal. -/
  own : ∀ i s, t.senders i = .marked s → Log.Lasts (Entry.isOf i) t.log (.marked i s)
  /-- Each entry follows. -/
  log : Log.Each Follows t.log

section

variable {j : ι} {s' : σ}

theorem untaken_mark : (t.mark i s).Untaken j s' ↔ (j = i ∧ s' = s) ∨ t.Untaken j s' := by
  simp [Untaken, mark, Log.lasts_concat, Entry.isTake]

omit [SignalKind σ] in
theorem untaken_ring : (t.ring i s).Untaken j s' ↔ t.Untaken j s' := by
  simp [Untaken, ring, Log.lasts_concat, Entry.isTake]

omit [DecidableEq ι] [SignalKind σ] in
theorem not_untaken_take : ¬ t.take.Untaken j s' := by
  simp [Untaken, take, Log.lasts_concat, Entry.isTake]

end

theorem sound_start : (start : Traffic ι σ).Sound where
  registered := rfl
  pending n := by simp [start, register, Untaken, Log.not_lasts_nil]
  unrung hblocked := by simp [start] at hblocked
  own i s hmarked := by simp [start] at hmarked
  log := Log.each_nil

namespace Sound

variable (hsound : t.Sound)
include hsound

/-- Somebody else marked the signals that are not taken while the task is blocked. -/
theorem ne_of_not_marked (hblocked : t.waiter = .blocked) (hsilent : t.mailbox.bell = false)
    {j : ι} {s' : σ} (huntaken : t.Untaken j s') (hother : ∀ s, t.senders i ≠ .marked s) :
    j ≠ i := by
  rintro rfl
  exact hother s' (hsound.unrung hblocked hsilent j s' huntaken)

theorem enter (hresting : t.senders i = .resting) (s : σ) : (t.enter i s).Sound where
  registered := hsound.registered
  pending := hsound.pending
  unrung hblocked hsilent j s' huntaken := by
    have hother : j ≠ i := hsound.ne_of_not_marked hblocked hsilent huntaken (by simp [hresting])
    exact (Function.update_of_ne hother _ _).trans (hsound.unrung hblocked hsilent j s' huntaken)
  own j s' hmarked := by
    obtain ⟨rfl, hchanged⟩ | ⟨-, hmarked⟩ :=
      ite_eq_iff.1 ((Function.update_apply ..).symm.trans hmarked)
    · simp at hchanged
    · exact hsound.own j s' hmarked
  log := hsound.log

theorem mark (hentered : t.senders i = .entered s) : (t.mark i s).Sound where
  registered := hsound.registered
  pending n := by
    have hunion : (t.mark i s).mailbox.pending.hasBit n =
        (t.mailbox.pending.hasBit n || decide (SignalKind.index s = n)) :=
      SignalSet.hasBit_insert _ s n
    rw [hunion, Bool.or_eq_true, decide_eq_true_eq, hsound.pending]
    constructor
    · rintro (⟨j, s', hbit, huntaken⟩ | hbit)
      · exact ⟨j, s', hbit, untaken_mark.2 (.inr huntaken)⟩
      · exact ⟨i, s, hbit, untaken_mark.2 (.inl ⟨rfl, rfl⟩)⟩
    · rintro ⟨j, s', hbit, huntaken⟩
      obtain ⟨rfl, rfl⟩ | huntaken := untaken_mark.1 huntaken
      · exact .inr hbit
      · exact .inl ⟨j, s', hbit, huntaken⟩
  -- while the task waits and the bell is silent, who marked has still to ring
  unrung hblocked hsilent j s' huntaken := by
    obtain ⟨rfl, rfl⟩ | huntaken := untaken_mark.1 huntaken
    · exact Function.update_self j _ _
    · have hother : j ≠ i := hsound.ne_of_not_marked hblocked hsilent huntaken (by simp [hentered])
      exact (Function.update_of_ne hother _ _).trans (hsound.unrung hblocked hsilent j s' huntaken)
  own j s' hmarked := by
    obtain ⟨rfl, hsame⟩ | ⟨hother, hmarked⟩ :=
      ite_eq_iff.1 ((Function.update_apply ..).symm.trans hmarked)
    · cases hsame
      exact Log.lasts_concat.2 (.inl rfl)
    · exact Log.lasts_concat.2 (.inr ⟨decide_eq_false (Ne.symm hother), hsound.own j s' hmarked⟩)
  log := Log.each_concat.2 ⟨hsound.log, trivial⟩

theorem ring (hmarked : t.senders i = .marked s) : (t.ring i s).Sound where
  registered := hsound.registered
  pending n := by
    simp only [untaken_ring]
    exact hsound.pending n
  unrung _ hsilent := absurd hsilent (by simp [Traffic.ring, Mailbox.ring])
  own j s' hmarked := by
    obtain ⟨-, hdone⟩ | ⟨hother, hmarked⟩ :=
      ite_eq_iff.1 ((Function.update_apply ..).symm.trans hmarked)
    · simp at hdone
    · exact Log.lasts_concat.2 (.inr ⟨decide_eq_false (Ne.symm hother), hsound.own j s' hmarked⟩)
  log := Log.each_concat.2 ⟨hsound.log, hsound.own i s hmarked⟩

theorem take : t.take.Sound where
  registered := hsound.registered
  pending n := by
    simp only [not_untaken_take, and_false, exists_false, iff_false, Bool.not_eq_true]
    exact SignalSet.hasBit_empty n
  unrung _ _ _ _ huntaken := absurd huntaken not_untaken_take
  own j s' hmarked := Log.lasts_concat.2 (.inr ⟨rfl, hsound.own j s' hmarked⟩)
  -- what is taken is what was marked and not taken before: the invariant says so of each bit
  log := Log.each_concat.2 ⟨hsound.log, hsound.pending⟩

/-- The task is about to look, whether it heard the bell or not. -/
theorem look (bell : Bool) :
    ({ t with mailbox := { t.mailbox with bell }, waiter := .looking } : Traffic ι σ).Sound where
  registered := hsound.registered
  pending := hsound.pending
  unrung hblocked := by simp at hblocked
  own := hsound.own
  log := hsound.log

/-- **Every step keeps the traffic sound.** -/
theorem step (move : Move ι σ) : (t.step move).Sound := by
  cases move with
  | begin i s =>
    rw [Traffic.step]
    split
    · next hresting =>
      rw [if_pos hsound.registered]
      exact hsound.enter hresting s
    · exact hsound
  | mark i =>
    rw [Traffic.step]
    split
    · next s hentered => exact hsound.mark hentered
    · exact hsound
  | ring i =>
    rw [Traffic.step]
    split
    · next s hmarked => exact hsound.ring hmarked
    · exact hsound
  | wait =>
    rw [Traffic.step]
    split
    · exact hsound.look t.mailbox.bell
    · exact hsound
  | take =>
    rw [Traffic.step]
    split
    · exact hsound.take
    · exact hsound
  | hear =>
    rw [Traffic.step]
    split
    · split_ifs
      · exact hsound.look false
      · exact hsound
    · exact hsound

end Sound

/-- **All traffic is sound.** -/
theorem sound_run (hsound : t.Sound) (moves : List (Move ι σ)) : (t.run moves).Sound := by
  rw [run]
  induction moves generalizing t with
  | nil => exact hsound
  | cons move moves ih => exact ih (hsound.step move)

/-! ### Nothing is lost -/

/-- **The first take after a mark finds it**, and until then it is pending. -/
theorem Sound.caught (hsound : t.Sound) {before since : List (Entry ι σ)}
    (hsplit : t.log = before ++ .marked i s :: since) :
    (t.Untaken i s ∧ t.mailbox.isPending s = true) ∨
      ∃ between set later, since = between ++ .took set :: later ∧
        (∀ e ∈ between, e.isTake = false) ∧ set.contains s = true := by
  obtain huntaken | ⟨between, e, later, rfl, htaken, hnone⟩ :=
    Log.lasts_or_ended Entry.isTake hsplit
  · refine .inl ⟨huntaken, ?_⟩
    rw [isPending, SignalSet.contains_eq_hasBit]
    exact (hsound.pending _).2 ⟨i, s, rfl, huntaken⟩
  · cases e with
    | took set =>
      have hfound :=
        hsound.log (before ++ .marked i s :: between) (.took set) later (by simp [hsplit])
      refine .inr ⟨between, set, later, rfl, hnone, ?_⟩
      rw [SignalSet.contains_eq_hasBit]
      exact (hfound _).2 ⟨i, s, rfl, before, between, rfl, hnone⟩
    | marked | sent => simp [Entry.isTake] at htaken

/-- **No signal is lost, no wake-up is missed, and none is made up**, whatever the senders, their
signals, and the order of all steps. While the task is blocked and the bell silent, each pending bit
is that of a sender that has marked its signal and not yet rung. The signal of each sender that is
done was taken after it was marked, or is pending. The bits that the task takes are those that were
marked since it last took something. -/
theorem nothing_lost {ι σ : Type} [DecidableEq ι] [SignalKind σ] (moves : List (Move ι σ)) :
    let t := (start : Traffic ι σ).run moves
    (t.waiter = .blocked → t.mailbox.bell = false →
      ∀ n, t.mailbox.pending.hasBit n = true →
        ∃ i s, SignalKind.index s = n ∧ t.senders i = .marked s) ∧
    (∀ before i s since, t.log = before ++ .sent i s :: since →
      ∃ earlier between, before = earlier ++ .marked i s :: between ∧
        (∀ e ∈ between, e.isOf i = false) ∧
        ((∃ set, .took set ∈ between ++ since ∧ set.contains s = true) ∨
          t.mailbox.isPending s = true)) ∧
    (∀ before set since, t.log = before ++ .took set :: since →
      ∀ n, set.hasBit n = true ↔
        ∃ i s, SignalKind.index s = n ∧ Log.Lasts Entry.isTake before (.marked i s)) := by
  intro t
  have hsound : t.Sound := sound_run sound_start moves
  refine ⟨fun hblocked hsilent n hpending ↦ ?_, fun before i s since hsplit ↦ ?_,
    fun before set ↦ hsound.log before (.took set)⟩
  · obtain ⟨i, s, hbit, huntaken⟩ := (hsound.pending n).1 hpending
    exact ⟨i, s, hbit, hsound.unrung hblocked hsilent i s huntaken⟩
  · obtain ⟨earlier, between, rfl, hown⟩ : Log.Lasts (Entry.isOf i) before (.marked i s) :=
      hsound.log before (.sent i s) since hsplit
    refine ⟨earlier, between, rfl, hown, ?_⟩
    -- the take may come before the sender rings, so it is looked for behind the mark
    have hwhole : t.log = earlier ++ .marked i s :: (between ++ .sent i s :: since) := by
      simp [hsplit]
    obtain ⟨-, hpending⟩ | ⟨first, set, later, hsame, -, hfound⟩ := hsound.caught hwhole
    · exact .inr hpending
    · have hmem : .took set ∈ between ++ .sent i s :: since := by simp [hsame]
      exact .inl ⟨set, by simpa using hmem, hfound⟩

/-- A signal may be pending while the task is blocked and the bell silent. -/
example :
    let t := (start : Traffic Bool SupervisorSignal).run
      [.wait, .take, .begin true .stop, .mark true]
    t.waiter = .blocked ∧ t.mailbox.bell = false ∧ t.mailbox.isPending .stop = true :=
  ⟨rfl, rfl, rfl⟩

end Traffic

end BeaconGateway.Mailbox
