import BeaconGateway.Scanner.Intake
import BeaconGateway.Wire.Decoder

/-!
# The receiver of the serial link

Bytes from the scanner are framed by the decoder, and each body goes where its command says:
reports to the intake, and the scanner's identity into the place where the status report looks for
it. Everything else is left alone. A failing read drops the frame in progress.

## Main definitions

* `Receiver` — the decoder, the intake, and the scanner's address;
* `Receiver.feed` — bytes that have arrived;
* `Receiver.poll` — the result of one read from the link;
* `Receiver.run` — a row of reads up to the stop.
-/

namespace BeaconGateway

/-- The receiving end of the serial link over a table of `n` slots. -/
structure Receiver (n : Nat) where
  /-- The frame in progress and the decoder's counters. -/
  decoder : Decoder
  /-- Where reports go. -/
  intake : Intake n
  /-- The scanner's address, as last told. -/
  scanner : Option Address

namespace Receiver

variable {n : Nat}

/-- The most bytes that one read takes. -/
def readSize : Nat := 256

/-- A receiver that has seen nothing. -/
def new (intake : Intake n) : Receiver n :=
  ⟨.new, intake, none⟩

/-- One body goes where its command says. -/
def route (r : Receiver n) (unixTime : Option UInt32) (body : List UInt8) : Receiver n :=
  match body.head?.bind Command.ofByte? with
  | some .advReport => { r with intake := (r.intake.onFrame unixTime (some body)).2 }
  | some .deviceId =>
    match scannerAddress? body with
    | some a => { r with scanner := some a }
    | none => r
  | _ => r

/-- Bytes that have arrived. The answer is the number of bodies routed. -/
def feed (r : Receiver n) (unixTime : Option UInt32) (bytes : List UInt8) : Nat × Receiver n :=
  let (decoder, bodies) := r.decoder.feed bytes
  (bodies.length, bodies.foldl (fun r body ↦ r.route unixTime body) { r with decoder })

/-- The result of one read from the link: bytes to feed, or a failure to pass on. -/
def poll (r : Receiver n) (unixTime : Option UInt32) :
    Except CommsError (List UInt8) → Except Error Nat × Receiver n
  | .ok bytes =>
    let (routed, r) := r.feed unixTime bytes
    (.ok routed, r)
  | .error cause => (.error (.comms cause), r)

/-- One turn of the reading loop: a failing read drops the frame in progress. -/
def turn (r : Receiver n) (unixTime : Option UInt32) (read : Except CommsError (List UInt8)) :
    Receiver n :=
  match r.poll unixTime read with
  | (.ok _, r) => r
  | (.error _, r) => { r with decoder := r.decoder.reset }

/-- The reads of the loop up to its stop, in order. -/
def run (r : Receiver n) (unixTime : Option UInt32)
    (reads : List (Except CommsError (List UInt8))) :
    Receiver n :=
  reads.foldl (fun r read ↦ r.turn unixTime read) r

end Receiver

end BeaconGateway
