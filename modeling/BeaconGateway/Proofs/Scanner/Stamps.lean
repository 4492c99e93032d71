import BeaconGateway.Proofs.Scanner.Sightings
import BeaconGateway.Proofs.Table.Recent

/-!
# The stamps of reports

A frame that can be read offers one report to the table, and whether the table takes it or not it
has been given a stamp. What a frame does is said once (`Intake.onFrame_cases`); all that follows is
about courses of frames, drains and new settings.

The stamps descend along the roster of the table, the device heard last first, as soon as they
ascend in the order in which they were given: a roster lists what was taken backwards, with some
left out. They ascend if the settings stay, the running numbers do not come round, and the clock
goes right: once it shows a time it shows one ever after, none earlier, and none below a running
number given out before it.

## Main results

* `Intake.offer?`, `Intake.onFrame_cases` — what a frame offers and what becomes of it;
* `Intake.Course` — a course of frames, with the stamps that were given and the reports that were
  taken;
* `Intake.Course.Tells` — what the table remembers of a course, kept by every turn;
* `Intake.Course.Ascends` — the stamps of a course that goes right, kept by every turn of it.
-/

namespace BeaconGateway

namespace Intake

variable {n : Nat} {i : Intake n}

/-! ### One frame -/

/-- What a clock shows, if it shows a time. -/
def shownTime (unixTime : Option UInt32) : Option UInt32 :=
  unixTime.filter fun now ↦ now ≠ 0

/-- The report that a frame offers to the table under its stamp, if the frame can be read. -/
def offer? (i : Intake n) (unixTime : Option UInt32) (body : Option (List UInt8)) : Option Report :=
  match Report.ofBody (body.getD []) 0 i.company with
  | .ok r => some { r with timestamp := (i.nextStamp unixTime).1 }
  | .error _ => none

/-- **The next stamp** is the time where times are wanted and one is shown, and otherwise the next
running number. -/
theorem nextStamp_eq (i : Intake n) (unixTime : Option UInt32) :
    i.nextStamp unixTime =
      match bif i.useTimestamps then shownTime unixTime else none with
      | some now => (now, i)
      | none => (following i.counter, { i with counter := following i.counter }) := by
  unfold nextStamp
  cases unixTime with
  | none => cases i.useTimestamps <;> rfl
  | some now =>
    dsimp only
    cases hwanted : i.useTimestamps with
    | false => rw [if_neg fun hboth ↦ Bool.false_ne_true hboth.1]; rfl
    | true =>
      by_cases hzero : now = 0
      · subst hzero
        rfl
      · have hshown : shownTime (some now) = some now := by simp [shownTime, hzero]
        rw [if_pos ⟨rfl, hzero⟩, cond_true, hshown]

/-- The counters of frames have no part in it. -/
theorem nextStamp_metrics (i : Intake n) (metrics : Metrics) (unixTime : Option UInt32) :
    { i with metrics }.nextStamp unixTime =
      ((i.nextStamp unixTime).1, { (i.nextStamp unixTime).2 with metrics }) := by
  rw [nextStamp_eq, nextStamp_eq]
  dsimp only
  cases bif i.useTimestamps then shownTime unixTime else none <;> rfl

/-- A running number is never zero. -/
theorem following_ne_zero (counter : UInt32) : following counter ≠ 0 := by
  rw [following]
  split_ifs with hwraps
  · decide
  · exact hwraps

/-- A stamp is never zero. -/
theorem nextStamp_ne_zero (i : Intake n) (unixTime : Option UInt32) :
    (i.nextStamp unixTime).1 ≠ 0 := by
  rw [nextStamp_eq]
  cases hshown : bif i.useTimestamps then shownTime unixTime else none with
  | none => exact following_ne_zero i.counter
  | some now =>
    have htime : shownTime unixTime = some now := by
      cases hwanted : i.useTimestamps <;> rw [hwanted] at hshown
      · exact absurd hshown (by simp)
      · exact hshown
    exact of_decide_eq_true (Option.filter_eq_some_iff.1 htime).2

/-- **What a frame does**: one that cannot be read is counted, and one that can puts the report that
it offers, which uses up a stamp and is counted as dropped if the table refuses it. -/
theorem onFrame_cases (i : Intake n) (unixTime : Option UInt32) (body : Option (List UInt8)) :
    (i.offer? unixTime body = none ∧ ∃ cause, i.onFrame unixTime body =
      (.error (.frame cause), { i with metrics := i.metrics.addReceived.addMalformed })) ∨
    ∃ r, i.offer? unixTime body = some r ∧ r.timestamp = (i.nextStamp unixTime).1 ∧
      i.onFrame unixTime body =
        ((i.table.put r).1.mapError .table,
          { i with
            table := (i.table.put r).2
            counter := (i.nextStamp unixTime).2.counter
            metrics := bif (i.table.put r).1.isOk then i.metrics.addReceived
              else i.metrics.addReceived.addDropped }) := by
  rw [offer?, onFrame]
  cases Report.ofBody (body.getD []) 0 i.company with
  | error cause => exact .inl ⟨rfl, cause, rfl⟩
  | ok r =>
    refine .inr ⟨_, rfl, rfl, ?_⟩
    obtain ⟨stamp, counter, hstamped⟩ := exists_nextStamp_eq i unixTime
    dsimp only
    rw [accept, nextStamp_metrics, hstamped]
    dsimp only
    rcases i.table.put { r with timestamp := stamp } with ⟨answer, table⟩
    cases answer <;> rfl

/-! ### Courses -/

/-- A stamp that a report was given. -/
structure Stamping where
  /-- What the clock showed, if it showed a time. -/
  shown : Option UInt32
  /-- The stamp. -/
  stamp : UInt32
  /-- Whether it is a running number. -/
  running : Bool
  deriving DecidableEq

/-- The stamp that a report would be given now. -/
def stamping (i : Intake n) (unixTime : Option UInt32) : Stamping where
  shown := shownTime unixTime
  stamp := (i.nextStamp unixTime).1
  running := !(i.useTimestamps && (shownTime unixTime).isSome)

/-- What can happen to the intake and its table. -/
inductive Turn where
  /-- A frame comes, or the lack of one, while the clock shows something. -/
  | frame (unixTime : Option UInt32) (body : Option (List UInt8))
  /-- What is pending is taken off the table. -/
  | drain (capacity : Nat)
  /-- The intake gets new settings. -/
  | reconfigure (company : UInt16) (useTimestamps : Bool)

/-- What the intake has become, the stamps it gave, and what its table took. -/
structure Course (n : Nat) where
  /-- The intake. -/
  intake : Intake n
  /-- The stamps that were given, in order. -/
  stamped : List Stamping
  /-- The reports that the table has taken, in order. -/
  taken : List Report

namespace Course

/-- An intake that has seen nothing. -/
def start (company : UInt16) (useTimestamps : Bool) : Course n where
  intake := .new company useTimestamps
  stamped := []
  taken := []

/-- One turn. -/
def turn (c : Course n) : Turn → Course n
  | .frame unixTime body =>
    let offered := (c.intake.offer? unixTime body).toList
    let (answer, intake) := c.intake.onFrame unixTime body
    { intake
      stamped := c.stamped ++ offered.map fun _ ↦ c.intake.stamping unixTime
      taken := bif answer.isOk then c.taken ++ offered else c.taken }
  | .drain capacity =>
    { c with intake := { c.intake with table := (c.intake.table.drain capacity).2 } }
  | .reconfigure company useTimestamps =>
    { c with intake := c.intake.reconfigure company useTimestamps }

/-- Turns in order. -/
def follow (c : Course n) (turns : List Turn) : Course n :=
  turns.foldl turn c

theorem follow_concat (c : Course n) (turns : List Turn) (t : Turn) :
    c.follow (turns ++ [t]) = (c.follow turns).turn t :=
  List.foldl_concat _ _ _ _

variable {c : Course n}

/-- **A frame of a course**: it changes a count at most, or gives one stamp to one report that the
table takes or refuses. -/
theorem turn_frame_cases (c : Course n) (unixTime : Option UInt32) (body : Option (List UInt8)) :
    (∃ metrics, c.turn (.frame unixTime body) = { c with intake := { c.intake with metrics } }) ∨
    ∃ r metrics, r.timestamp = (c.intake.stamping unixTime).stamp ∧
      c.turn (.frame unixTime body) =
        { intake :=
            { c.intake with
              table := (c.intake.table.put r).2
              counter := (c.intake.nextStamp unixTime).2.counter
              metrics }
          stamped := c.stamped ++ [c.intake.stamping unixTime]
          taken := bif (c.intake.table.put r).1.isOk then c.taken ++ [r] else c.taken } := by
  obtain ⟨hnothing, cause, hframe⟩ | ⟨r, hoffered, hstamp, hframe⟩ :=
    c.intake.onFrame_cases unixTime body
  · refine .inl ⟨c.intake.metrics.addReceived.addMalformed, ?_⟩
    rw [turn, hnothing, hframe]
    simp [Except.isOk, Except.toBool]
  · refine .inr ⟨r, (c.intake.onFrame unixTime body).2.metrics, hstamp, ?_⟩
    rw [turn, hoffered, hframe]
    cases (c.intake.table.put r).1 <;> rfl

/-! ### What the table remembers -/

/-- **What a course leaves behind**: the table remembers the last report of each device, as far as
there is room; what it took are reports under the stamps that were given, in their order, and none
of these is zero. -/
structure Tells (c : Course n) : Prop where
  /-- The table is in shape. -/
  holds : ∃ L, c.intake.table.Holds L
  /-- It remembers the last reports. -/
  remembers : c.intake.table.roster.reports = (recent c.taken).take n
  /-- Reports stand under the stamps that were given, in their order. -/
  stamps : (c.taken.map Report.timestamp).Sublist (c.stamped.map Stamping.stamp)
  /-- No stamp is zero. -/
  stamp_ne_zero : ∀ x ∈ c.stamped, x.stamp ≠ 0

theorem tells_start (company : UInt16) (useTimestamps : Bool) :
    (start company useTimestamps : Course n).Tells where
  holds := ⟨_, ReportTable.holds_new⟩
  remembers := by
    show ReportTable.new.roster.reports = (recent []).take n
    rw [ReportTable.holds_new.roster_eq]
    exact List.take_nil.symm
  stamps := .slnil
  stamp_ne_zero _ hmem := absurd hmem List.not_mem_nil

/-- **One turn** leaves behind what a course does. -/
theorem Tells.turn (htells : c.Tells) (t : Turn) : (c.turn t).Tells := by
  obtain ⟨L, hholds⟩ := htells.holds
  cases t with
  | frame unixTime body =>
    obtain ⟨metrics, hsame⟩ | ⟨r, metrics, hstamp, hgrown⟩ := c.turn_frame_cases unixTime body
    · rw [hsame]
      exact ⟨⟨L, hholds⟩, htells.remembers, htells.stamps, htells.stamp_ne_zero⟩
    · rw [hgrown]
      obtain ⟨L', -, hholds'⟩ := hholds.put r
      refine ⟨⟨L', hholds'⟩, hholds.roster_put htells.remembers r, ?_, fun x hmem ↦ ?_⟩
      · rw [List.map_append]
        cases (c.intake.table.put r).1.isOk with
        | false => exact htells.stamps.trans (List.sublist_append_left _ _)
        | true =>
          rw [cond_true, List.map_append, List.map_singleton, hstamp]
          exact htells.stamps.append (List.Sublist.refl _)
      · obtain hmem | hmem := List.mem_append.1 hmem
        · exact htells.stamp_ne_zero x hmem
        · exact List.mem_singleton.1 hmem ▸ nextStamp_ne_zero c.intake unixTime
  | drain capacity =>
    refine ⟨⟨_, (hholds.drain capacity).2⟩, ?_, htells.stamps, htells.stamp_ne_zero⟩
    exact (hholds.roster_drain capacity).trans htells.remembers
  | reconfigure => exact ⟨⟨L, hholds⟩, htells.remembers, htells.stamps, htells.stamp_ne_zero⟩

/-- **Every course** leaves behind what a course does. -/
theorem Tells.follow (htells : c.Tells) (turns : List Turn) : (c.follow turns).Tells := by
  induction turns generalizing c with
  | nil => exact htells
  | cons t rest ih => exact ih (htells.turn t)

/-- No device that the table remembers has a blank report. -/
theorem Tells.timestamp_ne_zero (htells : c.Tells) {r : Report}
    (hknown : r ∈ c.intake.table.roster.reports) : r.timestamp ≠ 0 := by
  rw [htells.remembers] at hknown
  have htaken : r ∈ c.taken :=
    (reverse_recent_sublist c.taken).subset (List.mem_reverse.2 (List.mem_of_mem_take hknown))
  obtain ⟨x, hmem, hstamp⟩ := List.mem_map.1 (htells.stamps.subset (List.mem_map_of_mem htaken))
  exact hstamp ▸ htells.stamp_ne_zero x hmem

/-- Where the stamps ascend as they are given, those of the reports that the table remembers descend
from the device heard last. -/
theorem Tells.pairwise_reports (htells : c.Tells)
    (hascend : c.stamped.Pairwise fun x y ↦ x.stamp ≤ y.stamp) :
    c.intake.table.roster.reports.Pairwise fun r earlier ↦ earlier.timestamp ≤ r.timestamp := by
  have htaken : c.taken.Pairwise fun r later ↦ r.timestamp ≤ later.timestamp :=
    List.pairwise_map.1 ((List.pairwise_map.2 hascend).sublist htells.stamps)
  have hrecent := List.pairwise_reverse.1 (htaken.sublist (reverse_recent_sublist c.taken))
  rw [htells.remembers]
  exact hrecent.sublist (List.take_sublist n _)

end Course

/-! ### When stamps ascend -/

/-- **Which stamp is given**: a time that is wanted and shown, or else the next running number. -/
theorem stamping_cases (i : Intake n) (unixTime : Option UInt32) :
    (i.useTimestamps = true ∧ ∃ now, i.stamping unixTime = ⟨some now, now, false⟩ ∧
      (i.nextStamp unixTime).2.counter = i.counter) ∨
    ∃ shown, (i.useTimestamps = true → shown = none) ∧
      i.stamping unixTime = ⟨shown, following i.counter, true⟩ ∧
      (i.nextStamp unixTime).2.counter = following i.counter := by
  rw [stamping, nextStamp_eq]
  cases i.useTimestamps with
  | false => exact .inr ⟨_, nofun, rfl, rfl⟩
  | true =>
    cases shownTime unixTime with
    | none => exact .inr ⟨none, fun _ ↦ rfl, rfl, rfl⟩
    | some now => exact .inl ⟨rfl, now, rfl, rfl⟩

/-- As long as the running numbers do not come round, each is one more than the one before. -/
theorem toNat_following {counter : UInt32} (hfew : counter.toNat + 1 < UInt32.size) :
    (following counter).toNat = counter.toNat + 1 := by
  have hnext : (counter + 1).toNat = counter.toNat + 1 := by
    rw [UInt32.toNat_add]
    exact Nat.mod_eq_of_lt hfew
  rw [following, if_neg]
  · exact hnext
  · intro hwraps
    rw [hwraps] at hnext
    exact Nat.succ_ne_zero _ hnext.symm

/-- A clock that shows a time goes on to show one, and none earlier; nor does it show one below a
running number given out before. -/
def Stamping.Precedes (x later : Stamping) : Prop :=
  (∀ time, x.shown = some time → ∃ time', later.shown = some time' ∧ time ≤ time') ∧
    (x.running = true → ∀ time, later.shown = some time → x.stamp ≤ time)

/-- A turn that does not change whether times are wanted. -/
def Turn.Leaves (useTimestamps : Bool) : Turn → Prop
  | .reconfigure _ wanted => wanted = useTimestamps
  | _ => True

namespace Course

variable {c : Course n} {useTimestamps : Bool}

/-- How many running numbers were given out. -/
def numbered (c : Course n) : Nat :=
  c.stamped.countP Stamping.running

/-- **A course that goes right**: the running numbers have not come round, and where times are
wanted neither has the clock gone wrong. -/
structure Orderly (useTimestamps : Bool) (c : Course n) : Prop where
  /-- The running numbers have not come round. -/
  few : c.numbered < UInt32.size
  /-- Where times are wanted, the clock goes right. -/
  clock : useTimestamps = true → c.stamped.Pairwise Stamping.Precedes

/-- **The stamps of a course** under one setting: times as they were shown, and running numbers that
count themselves; and they ascend. -/
structure Ascends (useTimestamps : Bool) (c : Course n) : Prop where
  /-- The setting stays. -/
  setting : c.intake.useTimestamps = useTimestamps
  /-- A stamp that is no running number is the time that was shown. -/
  time : ∀ x ∈ c.stamped, x.running = false → useTimestamps = true ∧ x.shown = some x.stamp
  /-- The last running number says how many there are. -/
  counter : c.intake.counter.toNat = c.numbered
  /-- It is the largest. -/
  running : ∀ x ∈ c.stamped, x.running = true → x.stamp ≤ c.intake.counter
  /-- The stamps ascend. -/
  ascend : c.stamped.Pairwise fun x y ↦ x.stamp ≤ y.stamp

/-- No turn takes back a stamp. -/
theorem stamped_prefix (c : Course n) (t : Turn) : c.stamped <+: (c.turn t).stamped := by
  cases t with
  | frame => exact List.prefix_append _ _
  | drain | reconfigure => exact List.prefix_refl _

theorem Orderly.of_turn {t : Turn} (horderly : (c.turn t).Orderly useTimestamps) :
    c.Orderly useTimestamps where
  few := (c.stamped_prefix t).sublist.countP_le.trans_lt horderly.few
  clock hwanted := (horderly.clock hwanted).sublist (c.stamped_prefix t).sublist

theorem ascends_start (company : UInt16) (useTimestamps : Bool) :
    (start company useTimestamps : Course n).Ascends useTimestamps where
  setting := rfl
  time _ hmem := absurd hmem List.not_mem_nil
  counter := rfl
  running _ hmem := absurd hmem List.not_mem_nil
  ascend := .nil

/-- One more stamp, above all those before it. -/
theorem pairwise_concat_stamp {xs : List Stamping} {last : Stamping}
    (hascend : xs.Pairwise fun x y ↦ x.stamp ≤ y.stamp) (habove : ∀ x ∈ xs, x.stamp ≤ last.stamp) :
    (xs ++ [last]).Pairwise fun x y ↦ x.stamp ≤ y.stamp := by
  refine List.pairwise_append.2 ⟨hascend, List.pairwise_singleton _ _, fun x hmem ↦ ?_⟩
  exact List.forall_mem_singleton.2 (habove x hmem)

namespace Ascends

variable {c' : Course n}

/-- A time comes after all stamps before it. -/
theorem concat_time (hascends : c.Ascends useTimestamps) {now : UInt32}
    (hwanted : useTimestamps = true) (hsetting : c'.intake.useTimestamps = c.intake.useTimestamps)
    (hcounter : c'.intake.counter = c.intake.counter)
    (hgrown : c'.stamped = c.stamped ++ [⟨some now, now, false⟩])
    (hclock : ∀ x ∈ c.stamped, x.Precedes ⟨some now, now, false⟩) : c'.Ascends useTimestamps where
  setting := hsetting.trans hascends.setting
  time := by
    rw [hgrown, List.forall_mem_append, List.forall_mem_singleton]
    exact ⟨hascends.time, fun _ ↦ ⟨hwanted, rfl⟩⟩
  counter := by
    rw [hcounter, hascends.counter, numbered, numbered, hgrown, List.countP_append]
    rfl
  running := by
    rw [hcounter, hgrown, List.forall_mem_append, List.forall_mem_singleton]
    exact ⟨hascends.running, nofun⟩
  ascend := by
    rw [hgrown]
    refine pairwise_concat_stamp hascends.ascend fun x hmem ↦ ?_
    cases hrunning : x.running with
    | true => exact (hclock x hmem).2 hrunning now rfl
    | false =>
      obtain ⟨time, hshown, hlater⟩ := (hclock x hmem).1 x.stamp (hascends.time x hmem hrunning).2
      cases hshown
      exact hlater

/-- A running number comes after all stamps before it. They are running numbers too: no time was
shown if times are wanted, for the clock would show one still. -/
theorem concat_running (hascends : c.Ascends useTimestamps) {shown : Option UInt32}
    (hnone_shown : useTimestamps = true → shown = none)
    (hsetting : c'.intake.useTimestamps = c.intake.useTimestamps)
    (hcounter : c'.intake.counter = following c.intake.counter)
    (hgrown : c'.stamped = c.stamped ++ [⟨shown, following c.intake.counter, true⟩])
    (hfew : c'.numbered < UInt32.size)
    (hclock : useTimestamps = true →
      ∀ x ∈ c.stamped, x.Precedes ⟨shown, following c.intake.counter, true⟩) :
    c'.Ascends useTimestamps := by
  have hnumbered : c'.numbered = c.numbered + 1 := by
    rw [Course.numbered, Course.numbered, hgrown, List.countP_append]
    rfl
  have hnext : (following c.intake.counter).toNat = c.intake.counter.toNat + 1 := by
    refine toNat_following ?_
    rw [hascends.counter, ← hnumbered]
    exact hfew
  have habove : c.intake.counter ≤ following c.intake.counter := by
    rw [UInt32.le_iff_toNat_le, hnext]
    exact Nat.le_succ _
  -- a time among them would oblige the clock to show one now
  have hall_running (x : Stamping) (hmem : x ∈ c.stamped) : x.running = true := by
    by_contra hlate
    obtain ⟨hwanted, htime⟩ := hascends.time x hmem (by simpa using hlate)
    obtain ⟨time', hstill, -⟩ := (hclock hwanted x hmem).1 _ htime
    rw [hnone_shown hwanted] at hstill
    cases hstill
  have hbelow (x : Stamping) (hmem : x ∈ c.stamped) : x.stamp ≤ following c.intake.counter :=
    UInt32.le_trans (hascends.running x hmem (hall_running x hmem)) habove
  refine ⟨hsetting.trans hascends.setting, ?_, ?_, ?_, ?_⟩
  · rw [hgrown, List.forall_mem_append, List.forall_mem_singleton]
    exact ⟨hascends.time, nofun⟩
  · rw [hcounter, hnext, hascends.counter, hnumbered]
  · rw [hcounter, hgrown, List.forall_mem_append, List.forall_mem_singleton]
    exact ⟨fun x hmem _ ↦ hbelow x hmem, fun _ ↦ UInt32.le_refl _⟩
  · rw [hgrown]
    exact pairwise_concat_stamp hascends.ascend hbelow

/-- **One turn** of a course that goes right lets the stamps ascend further. -/
theorem turn (hascends : c.Ascends useTimestamps) {t : Turn} (hleaves : t.Leaves useTimestamps)
    (horderly : (c.turn t).Orderly useTimestamps) : (c.turn t).Ascends useTimestamps := by
  cases t with
  | frame unixTime body =>
    obtain ⟨metrics, hsame⟩ | ⟨r, metrics, -, hgrown⟩ := c.turn_frame_cases unixTime body
    · rw [hsame]
      exact ⟨hascends.setting, hascends.time, hascends.counter, hascends.running, hascends.ascend⟩
    · rw [hgrown] at horderly ⊢
      have hclock (hwanted : useTimestamps = true) :
          ∀ x ∈ c.stamped, x.Precedes (c.intake.stamping unixTime) := fun x hmem ↦
        (List.pairwise_append.1 (horderly.clock hwanted)).2.2 x hmem _ (List.mem_singleton_self _)
      obtain ⟨hwanted, now, hstamped, hcounter⟩ | ⟨shown, hnone_shown, hstamped, hcounter⟩ :=
        c.intake.stamping_cases unixTime
      · rw [hascends.setting] at hwanted
        rw [hstamped] at hclock
        exact hascends.concat_time hwanted rfl hcounter (by rw [hstamped]) (hclock hwanted)
      · rw [hascends.setting] at hnone_shown
        rw [hstamped] at hclock
        exact hascends.concat_running hnone_shown rfl hcounter (by rw [hstamped])
          horderly.few hclock
  | drain =>
    exact ⟨hascends.setting, hascends.time, hascends.counter, hascends.running, hascends.ascend⟩
  | reconfigure =>
    exact ⟨hleaves, hascends.time, hascends.counter, hascends.running, hascends.ascend⟩

/-- **Every course that goes right** lets the stamps ascend. -/
theorem follow (hascends : c.Ascends useTimestamps) {turns : List Turn}
    (hleaves : ∀ t ∈ turns, t.Leaves useTimestamps)
    (horderly : (c.follow turns).Orderly useTimestamps) :
    (c.follow turns).Ascends useTimestamps := by
  -- from the end: a course that goes right has gone right up to each of its turns
  induction turns using List.reverseRecOn with
  | nil => exact hascends
  | append_singleton turns t ih =>
    rw [follow_concat] at horderly ⊢
    have hearlier : ∀ t ∈ turns, t.Leaves useTimestamps := fun t hmem ↦
      hleaves t (List.mem_append_left _ hmem)
    exact (ih hearlier horderly.of_turn).turn (hleaves t (by simp)) horderly

end Ascends

end Course

end Intake

end BeaconGateway
