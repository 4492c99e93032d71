/-!
# The checksum of the serial link

A cyclic redundancy check of sixteen bits: polynomial `0x1021`, start value `0xFFFF`, bits taken
from the highest down, and no final inversion. On the wire it follows the bytes it covers, its low
byte first.

## Main definitions

* `Checksum.step` — one byte worked into the checksum;
* `Checksum.ofBytes` — the checksum of a row of bytes;
* `Checksum.lowByte`, `Checksum.highByte`, `Checksum.ofPair` — a sixteen-bit word as the two
  bytes of the wire, low byte first.
-/

namespace BeaconGateway.Checksum

/-- The generator polynomial, without its highest term. -/
def polynomial : UInt16 := 0x1021

/-- Shift one bit out, and add the polynomial if it was set. -/
def shift (crc : UInt16) : UInt16 :=
  if crc &&& 0x8000 ≠ 0 then (crc <<< 1) ^^^ polynomial else crc <<< 1

/-- One byte worked into the checksum. -/
def step (crc : UInt16) (byte : UInt8) : UInt16 :=
  shift (shift (shift (shift (shift (shift (shift (shift
    (crc ^^^ (byte.toUInt16 <<< 8)))))))))

/-- The checksum of a row of bytes. -/
def ofBytes (bytes : List UInt8) : UInt16 :=
  bytes.foldl step 0xFFFF

/-! ### Sixteen-bit words on the wire -/

/-- The byte of a word that comes first on the wire. -/
def lowByte (w : UInt16) : UInt8 :=
  UInt8.ofNat (w.toNat % 256)

/-- The byte of a word that comes second on the wire. -/
def highByte (w : UInt16) : UInt8 :=
  UInt8.ofNat (w.toNat / 256)

/-- The word in two bytes of the wire. -/
def ofPair (low high : UInt8) : UInt16 :=
  UInt16.ofNat (low.toNat + 256 * high.toNat)

/-- A word sent is the word received. -/
theorem ofPair_bytes (w : UInt16) : ofPair (lowByte w) (highByte w) = w := by
  have hw : w.toNat < 65536 := w.toNat_lt
  have hlow : (lowByte w).toNat = w.toNat % 256 := by
    simp [lowByte]
  have hhigh : (highByte w).toNat = w.toNat / 256 := by
    have hlt : w.toNat / 256 < 256 := by omega
    simpa [highByte] using hlt
  have hsum : w.toNat % 256 + 256 * (w.toNat / 256) = w.toNat := Nat.mod_add_div w.toNat 256
  rw [ofPair, hlow, hhigh, hsum]
  exact UInt16.ofNat_toNat

theorem toNat_ofPair (low high : UInt8) :
    (ofPair low high).toNat = low.toNat + 256 * high.toNat := by
  have hlow : low.toNat < 256 := low.toNat_lt
  have hhigh : high.toNat < 256 := high.toNat_lt
  rw [ofPair, UInt16.toNat_ofNat_of_lt']
  show low.toNat + 256 * high.toNat < 65536
  omega

/-- The low byte received is the low byte of the word. -/
theorem lowByte_ofPair (low high : UInt8) : lowByte (ofPair low high) = low := by
  have hlow : low.toNat < 256 := low.toNat_lt
  rw [lowByte, toNat_ofPair, Nat.add_mul_mod_self_left, Nat.mod_eq_of_lt hlow]
  exact UInt8.ofNat_toNat

/-- The high byte received is the high byte of the word. -/
theorem highByte_ofPair (low high : UInt8) : highByte (ofPair low high) = high := by
  have hlow : low.toNat < 256 := low.toNat_lt
  have hdiv : (low.toNat + 256 * high.toNat) / 256 = high.toNat := by omega
  rw [highByte, toNat_ofPair, hdiv]
  exact UInt8.ofNat_toNat

end BeaconGateway.Checksum
