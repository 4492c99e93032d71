import BeaconGateway.Wire.Decoder

/-!
# The frame decoder in fixed buffers

`Decoder` collects a body in a list. Where memory is fixed, the body is collected in a buffer that
is as long as the longest body, and the checksum in a buffer of two bytes, each with a count of the
bytes that have come. Neither buffer is ever cleared: behind the count is what earlier frames left.

Every access to a buffer is checked. One that misses the buffer has no answer, and then neither has
the byte that led to it.

## Main definitions

* `Buffer` — a row of bytes of fixed length, with `Buffer.write?`, `Buffer.writeAll?` and
  `Buffer.front?` as the checked accesses;
* `BufferedDecoder.push?` — one byte, with the length of the body that it completes if any;
* `BufferedDecoder.feedByte?` — one byte, with that body;
* `BufferedDecoder.reset` — drop the frame in progress.
-/

namespace BeaconGateway

/-- A row of bytes of fixed length. -/
abbrev Buffer (n : Nat) := Vector UInt8 n

namespace Buffer

variable {n : Nat}

/-- A buffer of zeros. -/
def zero : Buffer n :=
  Vector.replicate n 0

/-- Write one byte, `none` past the end. -/
def write? (b : Buffer n) (position : Nat) (byte : UInt8) : Option (Buffer n) :=
  if h : position < n then some (b.set position byte h) else none

/-- Write bytes one after another, `none` if they reach past the end. -/
def writeAll? (b : Buffer n) (position : Nat) : List UInt8 → Option (Buffer n)
  | [] => if position ≤ n then some b else none
  | byte :: rest => (b.write? position byte).bind fun b ↦ writeAll? b (position + 1) rest

/-- The first bytes, `none` if there are not so many. -/
def front? (b : Buffer n) (count : Nat) : Option (List UInt8) :=
  if count ≤ n then some (b.toList.take count) else none

end Buffer

namespace BufferedDecoder

/-- How far the frame in progress has come. -/
inductive Phase where
  /-- Between frames. -/
  | hunting
  /-- The length comes next. -/
  | length
  /-- Collecting the body, of which so many bytes are expected and so many have come. -/
  | body (expected collected : Nat)
  /-- Collecting the checksum, of which so many bytes have come. -/
  | checksum (collected : Nat)
  /-- The end byte comes next. -/
  | closing
  deriving DecidableEq

end BufferedDecoder

/-- The streaming decoder in fixed buffers. -/
structure BufferedDecoder where
  /-- How far the frame in progress has come. -/
  phase : BufferedDecoder.Phase
  /-- The length byte that came last. -/
  length : UInt8
  /-- Where the body is collected. -/
  body : Buffer Frame.maxBody
  /-- Where the checksum is collected. -/
  checksum : Buffer 2
  /-- The counters. -/
  stats : Decoder.Stats

namespace BufferedDecoder

/-- A decoder that has seen nothing. -/
def new : BufferedDecoder :=
  ⟨.hunting, 0, .zero, .zero, .zero⟩

/-- What the checksum covers, put together in a buffer of its own: the length byte and the body. -/
def covered? (d : BufferedDecoder) : Option (List UInt8) := do
  let body ← d.body.front? d.length.toNat
  let buffer ← (Buffer.zero : Buffer (Frame.maxBody + 1)).write? 0 d.length
  let buffer ← buffer.writeAll? 1 body
  buffer.front? (d.length.toNat + 1)

/-- The checksum that has come, low byte first. -/
def checksumWord (d : BufferedDecoder) : UInt16 :=
  Checksum.ofPair d.checksum[0] d.checksum[1]

/-- The end byte decides about a frame whose checksum has come. -/
def close? (d : BufferedDecoder) (byte : UInt8) : Option (BufferedDecoder × Option Nat) :=
  if byte ≠ Frame.stop then
    let phase := if byte = Frame.start then .length else .hunting
    some ({ d with phase, stats := d.stats.addFramingError }, none)
  else do
    let covered ← d.covered?
    if d.checksumWord ≠ Checksum.ofBytes covered then
      return ({ d with phase := .hunting, stats := d.stats.addCrcError }, none)
    else
      return ({ d with phase := .hunting, stats := d.stats.addFrame }, some d.length.toNat)

/-- One byte, with the length of the body that it completes if it completes one. -/
def push? (d : BufferedDecoder) (byte : UInt8) : Option (BufferedDecoder × Option Nat) :=
  match d.phase with
  | .hunting => some (if byte = Frame.start then { d with phase := .length } else d, none)
  | .length =>
    if byte = 0 then some ({ d with phase := .hunting, stats := d.stats.addFramingError }, none)
    else some ({ d with phase := .body byte.toNat 0, length := byte }, none)
  | .body expected collected => do
    let body ← d.body.write? collected byte
    let phase :=
      if collected + 1 = expected then .checksum 0 else .body expected (collected + 1)
    return ({ d with body, phase }, none)
  | .checksum collected => do
    let checksum ← d.checksum.write? collected byte
    let phase := if collected = 0 then .checksum 1 else .closing
    return ({ d with checksum, phase }, none)
  | .closing => d.close? byte

/-- One byte, with the body that it completes if it completes one. -/
def feedByte? (d : BufferedDecoder) (byte : UInt8) :
    Option (BufferedDecoder × Option (List UInt8)) := do
  match ← d.push? byte with
  | (d, none) => return (d, none)
  | (d, some count) => return (d, some (← d.body.front? count))

/-- Drop the frame in progress; the counters and the buffers stay as they are. -/
def reset (d : BufferedDecoder) : BufferedDecoder :=
  { d with phase := .hunting }

end BufferedDecoder

end BeaconGateway
