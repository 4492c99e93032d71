import BeaconGateway.Proofs.Report.Transmission
import BeaconGateway.Proofs.Table.Delivery
import BeaconGateway.Proofs.Table.Refusal
import BeaconGateway.Scanner.Receiver

/-!
# From the wire into the table

A sighting travels as the body of a frame, and the receiver takes it over field by field: what the
table gets is the sighting, with the number of its samples and a stamp. Which stamp is up to the
clock and the running number; the batch that is later made of the reports looks at it only where
stamps are to be times.

While there is room for the devices no report is refused. So all that the intake adds to what it was
is one count for each sighting, and the last sighting of each device waits in the table, in the
order in which the devices came up.

## Main results

* `Sighting`, `Sighting.body`, `Sighting.report` — a sighting, as it travels and as it is stored;
* `Report.ofBody_body` — what is made of its body;
* `Intake.Carries` — the intake after sightings, kept by one more (`Intake.Carries.onFrame`) and by
  whatever bytes bring them (`Intake.Carries.feed`).
-/

namespace BeaconGateway

/-! ### Sightings -/

/-- What the scanner tells of a device. -/
structure Sighting where
  /-- The device. -/
  address : Address
  /-- The strength of its signal. -/
  rssi : Int8
  /-- Its advertisement. -/
  payload : Payload

namespace Sighting

/-- The body that announces it. -/
def body (x : Sighting) : List UInt8 :=
  reportBody x.address x.rssi x.payload.bytes

/-- The report of it, without a stamp. -/
def report (x : Sighting) (company : UInt16) : Report where
  address := x.address
  timestamp := 0
  samples := countSamples company x.payload.bytes
  rssi := x.rssi
  payload := x.payload

/-- How many devices were seen. -/
def devices (xs : List Sighting) : Nat :=
  (xs.map address).eraseDups.length

end Sighting

/-- A report without its stamp. -/
def Report.unstamped (r : Report) : Report :=
  { r with timestamp := 0 }

/-- **What is made of a body** is the sighting that it announces. -/
theorem Report.ofBody_body (x : Sighting) (timestamp : UInt32) (company : UInt16) :
    Report.ofBody x.body timestamp company = .ok { x.report company with timestamp } := by
  have hfits : x.payload.bytes.length ≤ 62 := x.payload.fits
  rw [Sighting.body, ofBody_reportBody_of_lt (Nat.lt_of_le_of_lt hfits (by decide)), dif_pos hfits]
  rfl

/-! ### The intake -/

namespace Intake

variable {n : Nat} {i before : Intake n} {xs more : List Sighting} {synced : Prop}

theorem onFrame_body (i : Intake n) (unixTime : Option UInt32) (x : Sighting) :
    i.onFrame unixTime (some x.body) =
      { i with metrics := i.metrics.addReceived }.accept unixTime (x.report i.company) := by
  rw [onFrame, Option.getD_some, Report.ofBody_body]
  rfl

/-- A stamp may use up a running number, and nothing else. -/
theorem exists_nextStamp_eq (i : Intake n) (unixTime : Option UInt32) :
    ∃ stamp counter, i.nextStamp unixTime = (stamp, { i with counter }) := by
  unfold nextStamp
  cases unixTime with
  | none => exact ⟨_, _, rfl⟩
  | some now =>
    dsimp only
    split
    · exact ⟨now, i.counter, rfl⟩
    · exact ⟨_, _, rfl⟩

theorem nextStamp_of_synced {unixTime : Option UInt32} {now : UInt32}
    (hwanted : i.useTimestamps = true) (hclock : unixTime = some now)
    (hlate : minSyncedTime ≤ now) :
    i.nextStamp unixTime = (now, i) := by
  have hsome : now ≠ 0 := by
    rintro rfl
    exact absurd hlate (by decide)
  subst hclock
  exact if_pos ⟨hwanted, hsome⟩

/-- What the intake makes of a report that the table takes. -/
theorem accept_eq {unixTime : Option UInt32} {report : Report} {stamp counter : UInt32}
    {outcome : PutOutcome} (hstamped : i.nextStamp unixTime = (stamp, { i with counter }))
    (htaken : (i.table.put { report with timestamp := stamp }).1 = .ok outcome) :
    i.accept unixTime report = (.ok outcome,
      { i with counter, table := (i.table.put { report with timestamp := stamp }).2 }) := by
  rw [accept, hstamped]
  dsimp only
  rcases hput : i.table.put { report with timestamp := stamp } with ⟨answer, table⟩
  rw [hput] at htaken
  obtain rfl : answer = .ok outcome := htaken
  rfl

/-- **A frame keeps the shape of the table**, whatever it holds: a report in it is put, and
otherwise the table is left alone. -/
theorem exists_holds_onFrame {L : Layout n} (hholds : i.table.Holds L) (unixTime : Option UInt32)
    (body : Option (List UInt8)) : ∃ L', (i.onFrame unixTime body).2.table.Holds L' := by
  have haccepted (i : Intake n) (report : Report) (hholds : i.table.Holds L) :
      ∃ L', (i.accept unixTime report).2.table.Holds L' := by
    obtain ⟨stamp, counter, hstamped⟩ := exists_nextStamp_eq i unixTime
    obtain ⟨L', -, hholds'⟩ := hholds.put { report with timestamp := stamp }
    rcases hput : i.table.put { report with timestamp := stamp } with ⟨answer, table⟩
    rw [hput] at hholds'
    rw [accept, hstamped]
    dsimp only
    rw [hput]
    cases answer with
    | ok => exact ⟨L', hholds'⟩
    | error => exact ⟨L', hholds'⟩
  rw [onFrame]
  dsimp only
  split
  · exact ⟨L, hholds⟩
  · exact haccepted _ _ hholds

/-- **What sightings make of the intake** `before` them: as many more frames are counted, and the
last sighting of each device waits in the table, under a stamp that is a time where stamps are. -/
structure Carries (synced : Prop) (before i : Intake n) (xs : List Sighting) : Prop where
  /-- The settings stay. -/
  company : i.company = before.company
  /-- The settings stay. -/
  useTimestamps : i.useTimestamps = before.useTimestamps
  /-- Each sighting is counted once, as received. -/
  metrics : i.metrics =
    { before.metrics with received := before.metrics.received + UInt32.ofNat xs.length }
  /-- The last sighting of each device waits. -/
  waiting : ∃ L rs, i.table.Holds L ∧ L.queue.map i.table.records.get = latest rs ∧
    rs.map Report.unstamped = xs.map (·.report before.company) ∧
    (synced → ∀ r ∈ rs, minSyncedTime ≤ r.timestamp)

/-- Nothing was seen, and nothing waits. -/
theorem carries_nil {L : Layout n} (hholds : i.table.Holds L) (hempty : i.table.pending = 0) :
    Carries synced i i [] where
  company := rfl
  useTimestamps := rfl
  metrics := by simp
  waiting := by
    have hnone : L.queue = [] := List.length_eq_zero_iff.1 (hholds.pending_eq.symm.trans hempty)
    exact ⟨L, [], hholds, by rw [hnone]; rfl, rfl, fun _ r hmem ↦ absurd hmem List.not_mem_nil⟩

namespace Carries

/-- **One more sighting** is counted and waits, if there is room for its device. -/
theorem onFrame (hcarries : Carries synced before i xs) (x : Sighting) {unixTime : Option UInt32}
    (hclock : synced → before.useTimestamps = true ∧
      ∃ now, unixTime = some now ∧ minSyncedTime ≤ now)
    (hroom : Sighting.devices (xs ++ [x]) ≤ n) :
    Carries synced before (i.onFrame unixTime (some x.body)).2 (xs ++ [x]) := by
  obtain ⟨L, rs, hholds, hwaits, hseen, hstamps⟩ := hcarries.waiting
  let counted : Intake n := { i with metrics := i.metrics.addReceived }
  obtain ⟨stamp, counter, hstamped⟩ := exists_nextStamp_eq counted unixTime
  let r : Report := { x.report i.company with timestamp := stamp }
  -- a stamp is late enough if stamps are to be times, whatever the counter says
  have hlate : synced → minSyncedTime ≤ stamp := by
    intro hsync
    obtain ⟨hwanted, now, hshown, hlate⟩ := hclock hsync
    have hgiven :=
      nextStamp_of_synced (i := counted) (hcarries.useTimestamps.trans hwanted) hshown hlate
    rw [hstamped] at hgiven
    exact (Prod.mk.inj hgiven).1 ▸ hlate
  have hseen' : (rs ++ [r]).map Report.unstamped = (xs ++ [x]).map (·.report before.company) := by
    rw [List.map_append, List.map_append, hseen, ← hcarries.company]
    rfl
  have hroom' : (latest (rs ++ [r])).length ≤ n := by
    have haddresses : (rs ++ [r]).map Report.address = (xs ++ [x]).map Sighting.address := by
      have hsame := congrArg (List.map Report.address) hseen'
      rw [List.map_map, List.map_map] at hsame
      exact hsame
    rw [length_latest, haddresses]
    exact hroom
  -- with room for its device the report cannot be refused
  obtain ⟨outcome, htaken⟩ := hholds.exists_put_eq_ok hwaits hroom'
  have hafter : (i.onFrame unixTime (some x.body)).2 =
      { counted with counter, table := (i.table.put r).2 } := by
    rw [onFrame_body, accept_eq hstamped htaken]
  obtain ⟨L', hholds', hwaits'⟩ := hholds.serve_latest hwaits (.put r)
  have hgrown : takenAfter rs (.put r, (i.table.serve (.put r)).1) = rs ++ [r] := by
    show takenAfter rs (.put r, .put (i.table.put r).1) = _
    rw [htaken, takenAfter]
  rw [hgrown] at hwaits'
  rw [hafter]
  exact {
    company := hcarries.company
    useTimestamps := hcarries.useTimestamps
    metrics := by
      show i.metrics.addReceived = _
      rw [hcarries.metrics, List.length_append, List.length_singleton, UInt32.ofNat_add,
        ← UInt32.add_assoc]
      rfl
    waiting := by
      refine ⟨L', rs ++ [r], hholds', hwaits', hseen', fun hsync other hmem ↦ ?_⟩
      obtain hmem | hmem := List.mem_append.1 hmem
      · exact hstamps hsync other hmem
      · exact List.mem_singleton.1 hmem ▸ hlate hsync }

end Carries

end Intake

/-! ### The receiver -/

namespace Sighting

theorem devices_le_of_prefix {xs ys : List Sighting} (hbegins : xs <+: ys) :
    devices xs ≤ devices ys := by
  obtain ⟨more, rfl⟩ := hbegins
  rw [devices, devices, List.map_append, List.eraseDups_append, List.length_append]
  exact Nat.le_add_right _ _

end Sighting

namespace Receiver

variable {n : Nat}

theorem decoder_route (r : Receiver n) (unixTime : Option UInt32) (body : List UInt8) :
    (r.route unixTime body).decoder = r.decoder := by
  rw [route]
  split
  · rfl
  · split <;> rfl
  · rfl

/-- Bytes move the decoder as if it were alone. -/
theorem decoder_feed (r : Receiver n) (unixTime : Option UInt32) (bytes : List UInt8) :
    (r.feed unixTime bytes).2.decoder = (r.decoder.feed bytes).1 := by
  have hrouted (bodies : List (List UInt8)) (r : Receiver n) :
      (bodies.foldl (fun r body ↦ r.route unixTime body) r).decoder = r.decoder := by
    induction bodies generalizing r with
    | nil => rfl
    | cons body rest ih => exact (ih _).trans (decoder_route r unixTime body)
  exact hrouted _ { r with decoder := (r.decoder.feed bytes).1 }

/-- Bytes keep the shape of the table. -/
theorem exists_holds_feed {L : Layout n} {r : Receiver n} (hholds : r.intake.table.Holds L)
    (unixTime : Option UInt32) (bytes : List UInt8) :
    ∃ L', (r.feed unixTime bytes).2.intake.table.Holds L' := by
  have hrouted (body : List UInt8) {r : Receiver n} {L : Layout n}
      (hholds : r.intake.table.Holds L) :
      ∃ L', (r.route unixTime body).intake.table.Holds L' := by
    rw [route]
    split
    · exact Intake.exists_holds_onFrame hholds unixTime (some body)
    · split
      · exact ⟨L, hholds⟩
      · exact ⟨L, hholds⟩
    · exact ⟨L, hholds⟩
  have hall (bodies : List (List UInt8)) {r : Receiver n} {L : Layout n}
      (hholds : r.intake.table.Holds L) :
      ∃ L', (bodies.foldl (fun r body ↦ r.route unixTime body) r).intake.table.Holds L' := by
    induction bodies generalizing r L with
    | nil => exact ⟨L, hholds⟩
    | cons body rest ih =>
      obtain ⟨L', hholds'⟩ := hrouted body hholds
      exact ih hholds'
  exact hall _ (r := { r with decoder := (r.decoder.feed bytes).1 }) hholds

/-- The body of a sighting goes to the intake. -/
theorem route_body (r : Receiver n) (unixTime : Option UInt32) (x : Sighting) :
    r.route unixTime x.body = { r with intake := (r.intake.onFrame unixTime (some x.body)).2 } := by
  have hcommand : x.body.head?.bind Command.ofByte? = some .advReport :=
    Command.ofByte?_byte .advReport
  rw [route, hcommand]

end Receiver

namespace Intake.Carries

variable {n : Nat} {before : Intake n} {r : Receiver n} {xs more : List Sighting} {synced : Prop}
  {unixTime : Option UInt32}

/-- The bodies of sightings one after another. -/
theorem foldl_route (hcarries : Carries synced before r.intake xs)
    (hclock : synced → before.useTimestamps = true ∧
      ∃ now, unixTime = some now ∧ minSyncedTime ≤ now)
    (hroom : Sighting.devices (xs ++ more) ≤ n) :
    Carries synced before
      ((more.map Sighting.body).foldl (fun r body ↦ r.route unixTime body) r).intake
      (xs ++ more) := by
  induction more generalizing r xs with
  | nil => simpa using hcarries
  | cons x rest ih =>
    have hbegins : xs ++ [x] <+: xs ++ x :: rest := ⟨rest, by simp⟩
    have hfirst : Carries synced before (r.route unixTime x.body).intake (xs ++ [x]) := by
      rw [Receiver.route_body]
      exact hcarries.onFrame x hclock ((Sighting.devices_le_of_prefix hbegins).trans hroom)
    have hsplit : xs ++ x :: rest = xs ++ [x] ++ rest := by simp
    rw [hsplit] at hroom ⊢
    exact ih hfirst hroom

/-- **Bytes that bring sightings**, whatever else they hold and wherever they end. -/
theorem feed (hcarries : Carries synced before r.intake xs)
    (hclock : synced → before.useTimestamps = true ∧
      ∃ now, unixTime = some now ∧ minSyncedTime ≤ now)
    {bytes : List UInt8} (hbrings : (r.decoder.feed bytes).2 = more.map Sighting.body)
    (hroom : Sighting.devices (xs ++ more) ≤ n) :
    Carries synced before (r.feed unixTime bytes).2.intake (xs ++ more) := by
  have hrouted : Carries synced before
      ((more.map Sighting.body).foldl (fun (r : Receiver n) body ↦ r.route unixTime body)
        { r with decoder := (r.decoder.feed bytes).1 }).intake (xs ++ more) :=
    foldl_route (r := { r with decoder := (r.decoder.feed bytes).1 }) hcarries hclock hroom
  rw [← hbrings] at hrouted
  exact hrouted

end Intake.Carries

end BeaconGateway
