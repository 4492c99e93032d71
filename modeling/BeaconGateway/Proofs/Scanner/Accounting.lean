import BeaconGateway.Proofs.Scanner.Stamps
import BeaconGateway.Proofs.Wire.Soundness
import Mathlib.Data.List.ReduceOption

/-!
# The accounts of the receiver

Three counters tell what became of the reports that came over the link: how many frames arrived, how
many of them could not be read, and how many brought a report for which the table had no room. Each
frame that arrives has one fate, and the counters count fates.

The clock is looked at when a report is stamped, and may move between two reports that one read
brings. So a byte comes here together with what the clock shows when it is handled (`Heard`), and
where one clock is shown for all of them, bytes that come one by one do what they do in one piece
(`feed_eq_hear`).

What arrives is told by the decoder, which goes its own way whatever becomes of the frames. What
becomes of them is told by the frame and by the intake that it comes to, and the counters have no
say in it. So the frames are those that a decoder without a receiver delivers, and the counters are
their fates counted. Both are laws of one byte, and then of bytes and of turns (`follow_accounts`).

## Main results

* `Fate`, `Arrival` — what can become of a report frame, and of one in particular;
* `Receiver.intake_handle`, `Arrival.onFrame_metrics` — what one byte does, and how it is counted;
* `Receiver.accounts` — the counters after any run.
-/

namespace BeaconGateway

variable {n : Nat}

/-! ### Fates -/

/-- What can become of a report frame. -/
inductive Fate where
  /-- It cannot be read. -/
  | malformed
  /-- Its report is refused, since the table is full. -/
  | refused
  /-- Its report is stored. -/
  | stored
  deriving DecidableEq

/-- A report frame that arrives, and the intake that it comes to. -/
structure Arrival (n : Nat) where
  /-- The intake before the frame. -/
  intake : Intake n
  /-- What the clock shows. -/
  unixTime : Option UInt32
  /-- The body of the frame. -/
  body : List UInt8

/-- What becomes of it. -/
def Arrival.fate (a : Arrival n) : Fate :=
  match a.intake.offer? a.unixTime (some a.body) with
  | none => .malformed
  | some r =>
    match (a.intake.table.put r).1 with
    | .error .full => .refused
    | .ok _ => .stored

/-- One fate is counted. -/
def Metrics.count (m : Metrics) : Fate → Metrics
  | .malformed => m.addReceived.addMalformed
  | .refused => m.addReceived.addDropped
  | .stored => m.addReceived

/-- **Fates are counted** each in its counter, and all in one. -/
theorem Metrics.foldl_count (m : Metrics) (fates : List Fate) :
    fates.foldl Metrics.count m =
      { received := m.received + UInt32.ofNat fates.length
        dropped := m.dropped + UInt32.ofNat (fates.count .refused)
        malformed := m.malformed + UInt32.ofNat (fates.count .malformed) } := by
  induction fates generalizing m with
  | nil => simp
  | cons fate rest ih =>
    rw [List.foldl_cons, ih]
    cases fate <;>
      simp [Metrics.count, addReceived, addMalformed, addDropped, UInt32.ofNat_add,
        UInt32.add_assoc, UInt32.add_comm 1]

/-- Each frame has one fate. -/
theorem Fate.length_eq (fates : List Fate) :
    fates.length = fates.count .stored + fates.count .refused + fates.count .malformed := by
  induction fates with
  | nil => rfl
  | cons fate rest ih =>
    rw [List.length_cons, ih]
    cases fate <;> simp <;> omega

/-- **A frame that arrives** is counted by its fate. One that is malformed does nothing else. -/
theorem Arrival.onFrame_metrics (a : Arrival n) :
    (a.intake.onFrame a.unixTime (some a.body)).2.metrics = a.intake.metrics.count a.fate ∧
      (a.fate = .malformed → (a.intake.onFrame a.unixTime (some a.body)).2 =
        { a.intake with metrics := a.intake.metrics.addReceived.addMalformed }) := by
  obtain ⟨hnothing, cause, hframe⟩ | ⟨r, hoffered, -, hframe⟩ :=
    a.intake.onFrame_cases a.unixTime (some a.body)
  · rw [fate, hnothing, hframe]
    exact ⟨rfl, fun _ ↦ rfl⟩
  · rw [fate, hoffered, hframe]
    dsimp only
    rcases (a.intake.table.put r).1 with ⟨⟨⟩⟩ | outcome
    · exact ⟨rfl, nofun⟩
    · exact ⟨rfl, nofun⟩

/-! ### One byte -/

namespace Receiver

variable {r : Receiver n}

/-- Whether a body is that of a report frame. -/
def isReport (body : List UInt8) : Bool :=
  body.head? == some Command.advReport.byte

/-- A byte from the link, and what the clock shows when it is handled. -/
structure Heard where
  /-- The byte. -/
  byte : UInt8
  /-- What the clock shows. -/
  unixTime : Option UInt32

/-- Handle one byte. -/
def handle (r : Receiver n) (x : Heard) : Receiver n :=
  (r.feed x.unixTime [x.byte]).2

/-- The report frame that a byte completes, if it completes one. -/
def arrival? (r : Receiver n) (x : Heard) : Option (Arrival n) :=
  ((r.decoder.push x.byte).2.filter isReport).map fun body ↦ ⟨r.intake, x.unixTime, body⟩

theorem intake_of_arrival {x : Heard} {a : Arrival n} (harrives : r.arrival? x = some a) :
    a.intake = r.intake := by
  obtain ⟨body, -, rfl⟩ := Option.map_eq_some_iff.1 harrives
  rfl

/-- Handle bytes one after another. -/
def hear (r : Receiver n) (heard : List Heard) : Receiver n :=
  heard.foldl handle r

theorem ofByte?_eq_advReport_iff (b : UInt8) :
    Command.ofByte? b = some .advReport ↔ b = Command.advReport.byte := by
  constructor
  · intro hknown
    have hfound := List.find?_some hknown
    exact (beq_iff_eq.1 hfound).symm
  · rintro rfl
    exact Command.ofByte?_byte .advReport

/-- **A body that is routed** reaches the intake if it is that of a report frame. -/
theorem intake_route (r : Receiver n) (unixTime : Option UInt32) (body : List UInt8) :
    (r.route unixTime body).intake =
      if isReport body then (r.intake.onFrame unixTime (some body)).2 else r.intake := by
  have hreport : isReport body = true ↔ body.head?.bind Command.ofByte? = some .advReport := by
    cases body with
    | nil => simp [isReport]
    | cons b rest => simp [isReport, ofByte?_eq_advReport_iff]
  rw [route]
  split
  case h_1 hknown => rw [if_pos (hreport.2 hknown)]
  case h_2 hknown =>
    rw [if_neg (by rw [hreport, hknown]; decide)]
    split <;> rfl
  case h_3 hunknown _ => rw [if_neg (by rw [hreport]; exact hunknown)]

theorem handle_eq (r : Receiver n) (x : Heard) :
    r.handle x =
      match (r.decoder.push x.byte).2 with
      | none => { r with decoder := (r.decoder.push x.byte).1 }
      | some body =>
        { r with decoder := (r.decoder.push x.byte).1 }.route x.unixTime body := by
  simp only [handle, feed, Decoder.feed]
  cases (r.decoder.push x.byte).2 <;> rfl

/-- **What one byte does**: it reaches the intake if it completes a report frame, and not
otherwise. -/
theorem intake_handle (r : Receiver n) (x : Heard) :
    (r.handle x).intake =
      match r.arrival? x with
      | none => r.intake
      | some a => (a.intake.onFrame a.unixTime (some a.body)).2 := by
  rw [handle_eq, arrival?]
  cases (r.decoder.push x.byte).2 with
  | none => rfl
  | some body =>
    dsimp only
    rw [intake_route, Option.filter_some]
    cases isReport body <;> rfl

/-- Bytes move the decoder as if it were alone. -/
theorem decoder_handle (r : Receiver n) (x : Heard) :
    (r.handle x).decoder = (r.decoder.push x.byte).1 :=
  r.decoder_feed x.unixTime [x.byte]

/-- A body is routed whatever the decoder has come to since. -/
theorem route_decoder (r : Receiver n) (decoder : Decoder) (unixTime : Option UInt32)
    (body : List UInt8) :
    { r with decoder }.route unixTime body = { r.route unixTime body with decoder } := by
  rw [route, route]
  cases body.head?.bind Command.ofByte? with
  | none => rfl
  | some command =>
    cases command with
    | deviceId => cases scannerAddress? body <;> rfl
    | advReport | setFilter | clearFilter | allFilters | ack | getDeviceId => rfl

/-- **Bytes in one piece**, while the clock shows the same, are bytes one after another. -/
theorem feed_eq_hear (r : Receiver n) (unixTime : Option UInt32) (bytes : List UInt8) :
    (r.feed unixTime bytes).2 = r.hear (bytes.map (⟨·, unixTime⟩)) := by
  induction bytes generalizing r with
  | nil => rfl
  | cons b rest ih =>
    have hfirst : (r.feed unixTime (b :: rest)).2 =
        ((r.handle ⟨b, unixTime⟩).feed unixTime rest).2 := by
      rw [handle_eq]
      simp only [feed, Decoder.feed]
      cases (r.decoder.push b).2 with
      | none => rfl
      | some body =>
        simp only [Option.toList_some, List.singleton_append, List.foldl_cons, route_decoder]
    rw [hfirst, ih]
    rfl

/-! ### Runs -/

/-- What can happen to a receiver and its table. -/
inductive Turn where
  /-- Bytes are fed. -/
  | feed (heard : List Heard)
  /-- The link is read once, which may fail. -/
  | poll (read : Except CommsError (List Heard))
  /-- The reading loop reads the link, and drops the frame in progress if that fails. -/
  | loop (read : Except CommsError (List Heard))
  /-- The intake gets new settings. -/
  | reconfigure (company : UInt16) (useTimestamps : Bool)
  /-- What is pending is taken off the table. -/
  | drain (capacity : Nat)

/-- The bytes that a turn brings. -/
def Turn.heard : Turn → List Heard
  | .feed heard | .poll (.ok heard) | .loop (.ok heard) => heard
  | _ => []

/-- What a turn is to the decoder. -/
def Turn.inputs : Turn → List Decoder.Input
  | .loop (.error _) => [.reset]
  | t => t.heard.map fun x ↦ .byte x.byte

/-- The receiver after a turn. -/
def perform (r : Receiver n) : Turn → Receiver n
  | .feed heard | .poll (.ok heard) | .loop (.ok heard) => r.hear heard
  | .poll (.error cause) => (r.poll none (.error cause)).2
  | .loop (.error cause) => r.turn none (.error cause)
  | .reconfigure company useTimestamps =>
    { r with intake := r.intake.reconfigure company useTimestamps }
  | .drain capacity =>
    { r with intake.table := (r.intake.table.drain capacity).2 }

/-- A read while the clock shows the same is a turn. -/
theorem poll_eq_perform (r : Receiver n) (unixTime : Option UInt32)
    (read : Except CommsError (List UInt8)) :
    (r.poll unixTime read).2 = r.perform (.poll (read.map (List.map (⟨·, unixTime⟩)))) := by
  cases read with
  | ok bytes => exact r.feed_eq_hear unixTime bytes
  | error cause => rfl

/-- So is a read by the reading loop. -/
theorem turn_eq_perform (r : Receiver n) (unixTime : Option UInt32)
    (read : Except CommsError (List UInt8)) :
    r.turn unixTime read = r.perform (.loop (read.map (List.map (⟨·, unixTime⟩)))) := by
  cases read with
  | ok bytes => exact r.feed_eq_hear unixTime bytes
  | error cause => rfl

/-- The receiver after turns in order. -/
def follow (r : Receiver n) (turns : List Turn) : Receiver n :=
  turns.foldl perform r

/-- The report frames that bytes bring, with the intake that each comes to. -/
def arrivalsOf (r : Receiver n) : List Heard → List (Arrival n)
  | [] => []
  | x :: rest => (r.arrival? x).toList ++ (r.handle x).arrivalsOf rest

/-- The report frames that turns bring, with the intake that each comes to. -/
def arrivals (r : Receiver n) : List Turn → List (Arrival n)
  | [] => []
  | t :: rest => r.arrivalsOf t.heard ++ (r.perform t).arrivals rest

/-- The bodies of report frames among the answers of a decoder. -/
def reports (answers : List (Option (List UInt8))) : List (List UInt8) :=
  answers.reduceOption.filter isReport

theorem reports_append (answers more : List (Option (List UInt8))) :
    reports (answers ++ more) = reports answers ++ reports more := by
  rw [reports, List.reduceOption_append, List.filter_append]
  rfl

/-- Bytes bring what the decoder makes of them, and each arrival is counted by its fate. -/
theorem hear_accounts (r : Receiver n) (heard : List Heard) :
    let inputs := heard.map fun x ↦ Decoder.Input.byte x.byte
    (r.hear heard).decoder = r.decoder.after inputs ∧
      (r.arrivalsOf heard).map Arrival.body = reports (r.decoder.answers inputs) ∧
      (r.hear heard).intake.metrics =
        ((r.arrivalsOf heard).map Arrival.fate).foldl Metrics.count r.intake.metrics := by
  induction heard generalizing r with
  | nil => exact ⟨rfl, rfl, rfl⟩
  | cons x rest ih =>
    obtain ⟨hdecoder, hbodies, hmetrics⟩ := ih (r.handle x)
    rw [decoder_handle] at hdecoder hbodies
    -- a byte brings a body or none, and an arrival is a body that is a report
    have hbody : (r.arrival? x).toList.map Arrival.body = reports [(r.decoder.push x.byte).2] := by
      rw [arrival?]
      cases (r.decoder.push x.byte).2 with
      | none => rfl
      | some body =>
        rw [reports, Option.filter_some]
        cases hreport : isReport body <;> simp [hreport]
    have hcounted : (r.handle x).intake.metrics =
        ((r.arrival? x).toList.map Arrival.fate).foldl Metrics.count r.intake.metrics := by
      rw [intake_handle]
      cases harrives : r.arrival? x with
      | none => rfl
      | some a =>
        rw [← intake_of_arrival harrives]
        exact a.onFrame_metrics.1
    refine ⟨hdecoder, ?_, ?_⟩
    · rw [arrivalsOf, List.map_append, hbody, hbodies, ← reports_append]
      rfl
    · rw [arrivalsOf, List.map_append, List.foldl_append, ← hcounted, ← hmetrics]
      rfl

/-- A turn brings what the decoder makes of it, and each arrival is counted by its fate. -/
theorem perform_accounts (r : Receiver n) (t : Turn) :
    (r.perform t).decoder = r.decoder.after t.inputs ∧
      (r.arrivalsOf t.heard).map Arrival.body = reports (r.decoder.answers t.inputs) ∧
      (r.perform t).intake.metrics =
        ((r.arrivalsOf t.heard).map Arrival.fate).foldl Metrics.count r.intake.metrics := by
  cases t with
  | feed heard => exact r.hear_accounts heard
  | poll read | loop read =>
    cases read with
    | ok heard => exact r.hear_accounts heard
    | error cause => exact ⟨rfl, rfl, rfl⟩
  | reconfigure | drain => exact ⟨rfl, rfl, rfl⟩

/-- **Turns** bring what the decoder makes of them, and each arrival is counted by its fate. -/
theorem follow_accounts (r : Receiver n) (turns : List Turn) :
    (r.arrivals turns).map Arrival.body =
        reports (r.decoder.answers (turns.flatMap Turn.inputs)) ∧
      (r.follow turns).intake.metrics =
        ((r.arrivals turns).map Arrival.fate).foldl Metrics.count r.intake.metrics := by
  induction turns generalizing r with
  | nil => exact ⟨rfl, rfl⟩
  | cons t rest ih =>
    obtain ⟨hdecoder, hbodies, hmetrics⟩ := r.perform_accounts t
    obtain ⟨hlaterBodies, hlaterMetrics⟩ := ih (r.perform t)
    rw [hdecoder] at hlaterBodies
    rw [hmetrics] at hlaterMetrics
    refine ⟨?_, ?_⟩
    · rw [arrivals, List.map_append, hbodies, hlaterBodies, ← reports_append, List.flatMap_cons,
        Decoder.answers_append]
    · rw [arrivals, List.map_append, List.foldl_append, ← hlaterMetrics]
      rfl

/-- **The accounts of a receiver** after any turns since it has seen nothing. The report frames that
arrived are those that a decoder alone makes of the bytes. The counters, which come round after 32
bits, tell how many there were, how many of them were malformed, and how many were refused since the
table was full; the rest were stored. A byte that completes no report frame leaves the intake and
its table alone, and one that completes a malformed one does nothing but count it. -/
theorem accounts (company : UInt16) (useTimestamps : Bool) (turns : List Turn) :
    let start : Receiver n := .new (.new company useTimestamps)
    let r := start.follow turns
    let metrics := r.intake.metrics
    let fates := (start.arrivals turns).map Arrival.fate
    (start.arrivals turns).map Arrival.body =
        reports (Decoder.new.answers (turns.flatMap Turn.inputs)) ∧
      metrics.received = UInt32.ofNat fates.length ∧
      metrics.malformed = UInt32.ofNat (fates.count .malformed) ∧
      metrics.dropped = UInt32.ofNat (fates.count .refused) ∧
      metrics.received =
        UInt32.ofNat (fates.count .stored) + metrics.dropped + metrics.malformed ∧
      ∀ x : Heard,
        (r.arrival? x = none → (r.handle x).intake = r.intake) ∧
        ∀ a, r.arrival? x = some a → a.fate = .malformed →
          (r.handle x).intake = { r.intake with metrics := metrics.addReceived.addMalformed } := by
  intro start r metrics fates
  obtain ⟨hbodies, hcounted⟩ := start.follow_accounts turns
  have htotal : metrics =
      ⟨UInt32.ofNat fates.length, UInt32.ofNat (fates.count .refused),
        UInt32.ofNat (fates.count .malformed)⟩ := by
    refine hcounted.trans ((Metrics.foldl_count _ fates).trans ?_)
    simp [start, new, Intake.new, Metrics.zero]
  refine ⟨hbodies, ?_, ?_, ?_, ?_, fun x ↦ ⟨fun hnothing ↦ ?_, fun a harrives hmalformed ↦ ?_⟩⟩
  · rw [htotal]
  · rw [htotal]
  · rw [htotal]
  · rw [htotal]
    dsimp only
    rw [← UInt32.ofNat_add, ← UInt32.ofNat_add, ← Fate.length_eq]
  · rw [intake_handle, hnothing]
  · rw [intake_handle, harrives]
    exact (a.onFrame_metrics.2 hmalformed).trans (by rw [intake_of_arrival harrives])

end Receiver

end BeaconGateway
