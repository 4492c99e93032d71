import BeaconGateway.Report.Body

/-!
# Report bodies by position

`Report.ofBody` takes a body apart from its front. A body that lies in memory is read by position
instead: its length byte is looked up before the address that stands in front of it, and the samples
are counted in a word while the advertisement is cut into its structures.

Every access and every count is checked here. One that misses the bytes or the word has no answer,
and then neither has the report that needs it. A single access may miss, that of the advertisement,
because the body itself declares where it ends: a miss is then a fault of the body.

## Main definitions

* `CheckedBody.slice?`, `CheckedBody.count?` — the checked access and the checked count;
* `CheckedBody.countSamples?` — the samples of an advertisement, structure by structure;
* `CheckedBody.report?` — the report in a body, or in the lack of one.
-/

namespace BeaconGateway.CheckedBody

/-- The bytes from one position up to another, `none` if they reach past the end. -/
def slice? (bytes : List UInt8) (first last : Nat) : Option (List UInt8) :=
  if first ≤ last ∧ last ≤ bytes.length then some ((bytes.take last).drop first) else none

/-- Count a structure if it is manufacturer data of a company, `none` if the word is full. -/
def count? (company count : UInt16) (part : List UInt8) : Option UInt16 :=
  if !isSampleOf company part then some count
  else if count + 1 = 0 then none
  else some (count + 1)

/-- Count on from a number, structure by structure. -/
def countSamples? (company count : UInt16) : List UInt8 → Option UInt16
  | [] => some count
  | size :: rest =>
    if size = 0 ∨ rest.length < size.toNat then some count
    else do
      let part ← slice? rest 0 size.toNat
      let count ← count? company count part
      countSamples? company count (rest.drop size.toNat)
termination_by bytes => bytes.length
decreasing_by simp only [List.length_drop, List.length_cons]; omega

/-- The report in a body whose head is whole, with its advertisement. -/
def record? (body advertisement : List UInt8) (timestamp : UInt32) (company : UInt16) :
    Option (Except FrameError Report) := do
  let address ← (slice? body 1 7).bind Address.ofBytes?
  match Payload.ofBytes? advertisement with
  | none => return .error (.payloadTooLong advertisement.length maxPayload)
  | some payload =>
    let samples ← countSamples? company 0 advertisement
    let signal ← body[7]?
    return .ok { address, timestamp, samples, rssi := signal.toInt8, payload }

/-- The report in a body that has bytes. -/
def ofBytes? (body : List UInt8) (timestamp : UInt32) (company : UInt16) :
    Option (Except FrameError Report) := do
  let command ← body[0]?
  if command ≠ Command.advReport.byte then return .error (.wrongCommand command)
  if body.length < bodyHead then return .error (.truncated body.length bodyHead)
  let size ← body[8]?
  if maxPayload < size.toNat then return .error (.payloadTooLong size.toNat maxPayload)
  match slice? body bodyHead (bodyHead + size.toNat) with
  | none => return .error (.truncated body.length (bodyHead + size.toNat))
  | some advertisement => record? body advertisement timestamp company

/-- The report in the body of a frame, or in the lack of one, stamped as told. -/
def report? (frame : Option (List UInt8)) (timestamp : UInt32) (company : UInt16) :
    Option (Except FrameError Report) :=
  match frame with
  | none => some (.error .missing)
  | some body => if body.isEmpty then some (.error .missing) else ofBytes? body timestamp company

end BeaconGateway.CheckedBody
