import BeaconGateway.Wire.Frame

/-!
# The streaming frame decoder

Bytes arrive in pieces of any size. The decoder takes them one at a time, delivers the body of
every frame whose end byte and checksum are right, and counts the rest. Between frames it skips
whatever is not a start byte.

A byte in the place of the end byte that is not one ends the frame as damaged; if it is a start
byte it opens the next frame, so a frame cut short costs only itself.

## Main definitions

* `Decoder.State` — how far the frame in progress has come, with the bytes collected so far;
* `Decoder.push` — one byte, with the body that it completes if any;
* `Decoder.feed` — a row of bytes, with the bodies that it completes in order.
-/

namespace BeaconGateway

namespace Decoder

/-- How far the frame in progress has come. -/
inductive State where
  /-- Between frames: skipping up to a start byte. -/
  | hunting
  /-- After the start byte: the length comes next. -/
  | length
  /-- Collecting the body, of which `body` has come. -/
  | body (length : UInt8) (body : List UInt8)
  /-- After the body: the first byte of the checksum comes next. -/
  | checksum (length : UInt8) (body : List UInt8)
  /-- The second byte of the checksum comes next. -/
  | checksumHigh (length : UInt8) (body : List UInt8) (low : UInt8)
  /-- After the checksum: the end byte comes next. -/
  | closing (length : UInt8) (body : List UInt8) (crc : UInt16)
  deriving DecidableEq

/-- What the decoder has seen so far. The counters wrap. -/
structure Stats where
  /-- Frames delivered. -/
  frames : UInt32
  /-- Frames with a wrong checksum. -/
  crcErrors : UInt32
  /-- Frames with no length or no end byte. -/
  framingErrors : UInt32
  deriving DecidableEq

/-- Nothing seen. -/
def Stats.zero : Stats :=
  ⟨0, 0, 0⟩

end Decoder

/-- The streaming decoder: the frame in progress, and the counters. -/
structure Decoder where
  /-- The frame in progress. -/
  state : Decoder.State
  /-- The counters. -/
  stats : Decoder.Stats
  deriving DecidableEq

namespace Decoder

/-- A decoder that has seen nothing. -/
def new : Decoder :=
  ⟨.hunting, .zero⟩

/-- Count a frame with no length or no end byte. -/
def Stats.addFramingError (s : Stats) : Stats :=
  { s with framingErrors := s.framingErrors + 1 }

/-- Count a frame with a wrong checksum. -/
def Stats.addCrcError (s : Stats) : Stats :=
  { s with crcErrors := s.crcErrors + 1 }

/-- Count a frame delivered. -/
def Stats.addFrame (s : Stats) : Stats :=
  { s with frames := s.frames + 1 }

/-- The end byte decides about a frame whose checksum has come. -/
def close (s : Stats) (length : UInt8) (body : List UInt8) (crc : UInt16) (byte : UInt8) :
    Decoder × Option (List UInt8) :=
  if byte ≠ Frame.stop then
    (⟨if byte = Frame.start then .length else .hunting, s.addFramingError⟩, none)
  else if crc ≠ Checksum.ofBytes (length :: body) then
    (⟨.hunting, s.addCrcError⟩, none)
  else
    (⟨.hunting, s.addFrame⟩, some body)

/-- One byte, with the body of the frame that it completes if it completes one. -/
def push (d : Decoder) (byte : UInt8) : Decoder × Option (List UInt8) :=
  match d.state with
  | .hunting => (if byte = Frame.start then { d with state := .length } else d, none)
  | .length =>
    if byte = 0 then (⟨.hunting, d.stats.addFramingError⟩, none)
    else ({ d with state := .body byte [] }, none)
  | .body length body =>
    let body := body ++ [byte]
    let next := if body.length = length.toNat then .checksum length body else .body length body
    ({ d with state := next }, none)
  | .checksum length body => ({ d with state := .checksumHigh length body byte }, none)
  | .checksumHigh length body low =>
    ({ d with state := .closing length body (Checksum.ofPair low byte) }, none)
  | .closing length body crc => close d.stats length body crc byte

/-- A row of bytes, with the bodies of the frames that it completes, in order. -/
def feed (d : Decoder) : List UInt8 → Decoder × List (List UInt8)
  | [] => (d, [])
  | byte :: rest =>
    let (d', body?) := d.push byte
    let (d'', bodies) := feed d' rest
    (d'', body?.toList ++ bodies)

/-- Drop the frame in progress; the counters stay. -/
def reset (d : Decoder) : Decoder :=
  { d with state := .hunting }

/-- Feeding in pieces is feeding at once. -/
theorem feed_append (d : Decoder) (xs ys : List UInt8) :
    d.feed (xs ++ ys) =
      (((d.feed xs).1.feed ys).1, (d.feed xs).2 ++ ((d.feed xs).1.feed ys).2) := by
  induction xs generalizing d with
  | nil => simp [feed]
  | cons x xs ih => simp [feed, ih]

end Decoder

end BeaconGateway
