import BeaconGateway.Wire.Checksum

/-!
# Frames of the serial link

A frame carries a body of one to 255 bytes, a command byte and its payload:

| start | length | body         | checksum | end    |
|-------|--------|--------------|----------|--------|
| `0x02`| 1 byte | length bytes | 2 bytes  | `0x03` |

The checksum covers the length byte and the body.

## Main definitions

* `Frame.bytes` — the frame around a command and its payload;
* `Frame.write?` — the same, written to the front of a buffer that may be too small.
-/

namespace BeaconGateway.Frame

/-- The byte that opens a frame. -/
def start : UInt8 := 0x02

/-- The byte that closes a frame. -/
def stop : UInt8 := 0x03

/-- The most bytes that a body may have, since its length is one byte. -/
def maxBody : Nat := 255

/-- The bytes of a frame around its body. -/
def overhead : Nat := 5

/-- The checksum of a body, which covers its length byte too. -/
def checksum (body : List UInt8) : UInt16 :=
  Checksum.ofBytes (UInt8.ofNat body.length :: body)

/-- The frame around a body of at most 255 bytes. -/
def ofBody (body : List UInt8) : List UInt8 :=
  let crc := checksum body
  start :: UInt8.ofNat body.length ::
    (body ++ [Checksum.lowByte crc, Checksum.highByte crc, stop])

/-- The frame around a command and its payload. -/
def bytes (command : UInt8) (payload : List UInt8) : List UInt8 :=
  ofBody (command :: payload)

/-- Write a frame to the front of a buffer and leave the rest of it alone. The answer is the number
of bytes written and the buffer, or `none` if the body is too long or the buffer too small. -/
def write? (command : UInt8) (payload buffer : List UInt8) : Option (Nat × List UInt8) :=
  let body := payload.length + 1
  if maxBody < body then none
  else if buffer.length < body + overhead then none
  else some (body + overhead, bytes command payload ++ buffer.drop (body + overhead))

/-! ### Sizes -/

theorem length_ofBody (body : List UInt8) : (ofBody body).length = body.length + overhead := by
  simp [ofBody, overhead]

/-- A frame is written exactly if the body is short enough and the buffer has room for it. -/
theorem write?_isSome_iff {command : UInt8} {payload buffer : List UInt8} :
    (write? command payload buffer).isSome ↔
      payload.length ≤ 254 ∧ payload.length + 6 ≤ buffer.length := by
  unfold write? maxBody overhead
  by_cases h₁ : 255 < payload.length + 1
  · simp [h₁]; omega
  · by_cases h₂ : buffer.length < payload.length + 1 + 5
    · simp [h₁, h₂]
    · simp [h₁, h₂]; omega

end BeaconGateway.Frame
