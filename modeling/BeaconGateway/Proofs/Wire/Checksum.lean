import BeaconGateway.Wire.Checksum
import Mathlib.Logic.Function.Basic

/-!
# What the checksum tells

A checksum is the remainder of a division of polynomials over two elements, where addition is
exclusive or. One step of the division distributes over it (`shift_xor`), and since the generator
has a constant term no step loses anything: only zero is shifted to zero. So the steps are
injective, and with them the checksum is injective in each single byte.

The division works from the highest bit down. So a row followed by its own checksum, the high byte
first, leaves no remainder. On the wire the low byte comes first; that is why the decoder compares
two checksums and does not look for a remainder of zero.

## Main definitions

* `Checksum.shiftByte` — the eight steps of the division that work one byte in.

## Main results

* `Checksum.shift_xor`, `Checksum.shift_injective` — a step is linear, and loses nothing;
* `Checksum.ofBytes_eq_iff` — a change of one byte changes the checksum;
* `Checksum.ofBytes_append_checksum` — a row with its checksum leaves no remainder.
-/

namespace BeaconGateway.Checksum

/-! ### One step of the division -/

/-- The highest bit decides what a step does. -/
theorem shift_eq (crc : UInt16) :
    shift crc = if crc.toBitVec.getLsbD 15 then crc <<< 1 ^^^ polynomial else crc <<< 1 := by
  have htop : crc &&& 0x8000 ≠ 0 ↔ crc.toBitVec.getLsbD 15 = true := by
    have hmask : (0x8000 : UInt16).toBitVec = BitVec.twoPow 16 15 := by decide
    rw [ne_eq, ← UInt16.toBitVec_inj, UInt16.toBitVec_and, hmask, BitVec.and_twoPow]
    cases crc.toBitVec.getLsbD 15 <;> simp
  simp only [shift, htop]

/-- **A step distributes over exclusive or.** -/
theorem shift_xor (a b : UInt16) : shift (a ^^^ b) = shift a ^^^ shift b := by
  simp only [shift_eq, UInt16.toBitVec_xor, BitVec.getLsbD_xor, UInt16.shiftLeft_xor]
  cases a.toBitVec.getLsbD 15 <;> cases b.toBitVec.getLsbD 15
  case true.true =>
    -- the generator is added twice on the right, which is not at all
    have htwice : a <<< 1 ^^^ polynomial ^^^ (b <<< 1 ^^^ polynomial) =
        a <<< 1 ^^^ b <<< 1 ^^^ (polynomial ^^^ polynomial) := by ac_rfl
    simp [htwice]
  all_goals simp
  all_goals ac_rfl

/-- Only zero is shifted to zero: a bit that is shifted out leaves the generator's constant term. -/
theorem eq_zero_of_shift {crc : UInt16} (hzero : shift crc = 0) : crc = 0 := by
  rw [shift_eq] at hzero
  cases htop : crc.toBitVec.getLsbD 15 with
  | true =>
    rw [htop, if_pos rfl] at hzero
    have hlast := congrArg (fun w ↦ w.toBitVec.getLsbD 0) hzero
    simp [polynomial] at hlast
  | false =>
    rw [htop, if_neg Bool.false_ne_true] at hzero
    refine UInt16.toBitVec_inj.1 (BitVec.eq_of_getLsbD_eq fun i hi ↦ ?_)
    obtain rfl | hlt : i = 15 ∨ i < 15 := by omega
    · exact htop
    · have hnext : i + 1 < 16 → crc.toBitVec.getLsbD i = false := by
        simpa using congrArg (fun w ↦ w.toBitVec.getLsbD (i + 1)) hzero
      exact (hnext (by omega)).trans BitVec.getLsbD_zero.symm

/-- **A step loses nothing.** -/
theorem shift_injective : Function.Injective shift := by
  intro a b hab
  refine (UInt16.xor_left_inj b).1 ?_
  rw [UInt16.xor_self]
  exact eq_zero_of_shift (by rw [shift_xor, hab, UInt16.xor_self])

/-! ### One byte -/

/-- Eight steps of the division. -/
def shiftByte (crc : UInt16) : UInt16 :=
  shift (shift (shift (shift (shift (shift (shift (shift crc)))))))

theorem step_eq (crc : UInt16) (byte : UInt8) :
    step crc byte = shiftByte (crc ^^^ byte.toUInt16 <<< 8) :=
  rfl

/-- A byte stands high before it is worked in. -/
theorem toNat_shifted (byte : UInt8) : (byte.toUInt16 <<< 8).toNat = 256 * byte.toNat := by
  have hbyte : byte.toNat < 256 := byte.toNat_lt
  have hfits : 256 * byte.toNat < 65536 := by omega
  simpa [Nat.shiftLeft_eq, Nat.mul_comm] using hfits

theorem shiftByte_injective : Function.Injective shiftByte := by
  intro a b hab
  have h := @shift_injective
  exact h (h (h (h (h (h (h (h hab)))))))

/-- Two checksums that one byte makes equal were equal. -/
theorem step_left_injective (byte : UInt8) : Function.Injective (step · byte) := by
  intro a b hab
  exact UInt16.xor_left_inj _ |>.1 (shiftByte_injective hab)

/-- Two bytes that make a checksum equal are equal. -/
theorem step_right_injective (crc : UInt16) : Function.Injective (step crc) := by
  intro a b hab
  have hshifted : a.toUInt16 <<< 8 = b.toUInt16 <<< 8 :=
    UInt16.xor_right_inj _ |>.1 (shiftByte_injective hab)
  have hnumber := congrArg UInt16.toNat hshifted
  rw [toNat_shifted, toNat_shifted] at hnumber
  exact UInt8.toNat_inj.1 (Nat.eq_of_mul_eq_mul_left (by decide) hnumber)

/-! ### Rows of bytes -/

theorem ofBytes_append (first second : List UInt8) :
    ofBytes (first ++ second) = second.foldl step (ofBytes first) :=
  List.foldl_append

theorem foldl_step_injective (bytes : List UInt8) :
    Function.Injective fun crc ↦ bytes.foldl step crc := by
  induction bytes with
  | nil => exact fun _ _ hab ↦ hab
  | cons byte rest ih => exact fun _ _ hab ↦ step_left_injective byte (ih hab)

/-- **A change of one byte changes the checksum**, wherever in the row it is. -/
theorem ofBytes_eq_iff (before after : List UInt8) (a b : UInt8) :
    ofBytes (before ++ a :: after) = ofBytes (before ++ b :: after) ↔ a = b := by
  refine ⟨fun hab ↦ ?_, fun hab ↦ by rw [hab]⟩
  rw [ofBytes_append, ofBytes_append, List.foldl_cons, List.foldl_cons] at hab
  exact step_right_injective _ (foldl_step_injective after hab)

/-! ### The remainder of a row with its checksum -/

/-- A byte that stands low moves up in eight steps: no bit of it is shifted out. -/
theorem shiftByte_low : ∀ n < 256, shiftByte (UInt16.ofNat n) = UInt16.ofNat (256 * n) := by
  decide +kernel

/-- To add the high byte of a word where it stands leaves the low byte. -/
theorem xor_highByte (crc : UInt16) :
    crc ^^^ (highByte crc).toUInt16 <<< 8 = UInt16.ofNat (crc.toNat % 256) := by
  have hcrc : crc.toNat < 65536 := crc.toNat_lt
  have hhigh : (highByte crc).toNat = crc.toNat / 2 ^ 8 :=
    UInt8.toNat_ofNat_of_lt' (show crc.toNat / 256 < 256 by omega)
  have hlow : (UInt16.ofNat (crc.toNat % 256)).toNat = crc.toNat % 2 ^ 8 :=
    UInt16.toNat_ofNat_of_lt' (show crc.toNat % 256 < 65536 by omega)
  rw [← UInt16.toNat_inj, UInt16.toNat_xor, toNat_shifted, hhigh, hlow]
  refine Nat.eq_of_testBit_eq fun i ↦ ?_
  rw [Nat.testBit_xor, Nat.testBit_two_pow_mul (i := 8), Nat.testBit_div_two_pow,
    Nat.testBit_mod_two_pow]
  by_cases hi : 8 ≤ i
  · rw [Nat.sub_add_cancel hi]
    simp [hi, Nat.not_lt.2 hi]
  · simp [hi, Nat.not_le.1 hi]

theorem lowByte_shifted (crc : UInt16) :
    (lowByte crc).toUInt16 <<< 8 = UInt16.ofNat (256 * (crc.toNat % 256)) := by
  have hlow : (lowByte crc).toNat = crc.toNat % 256 :=
    UInt8.toNat_ofNat_of_lt' (Nat.mod_lt _ (by decide))
  rw [← UInt16.toNat_inj, toNat_shifted, hlow]
  exact (UInt16.toNat_ofNat_of_lt' (show 256 * (crc.toNat % 256) < 65536 by omega)).symm

/-- **A row with its own checksum behind it**, the high byte first, leaves no remainder. -/
theorem ofBytes_append_checksum (bytes : List UInt8) :
    ofBytes (bytes ++ [highByte (ofBytes bytes), lowByte (ofBytes bytes)]) = 0 := by
  rw [ofBytes_append]
  generalize ofBytes bytes = crc
  have hlow : crc.toNat % 256 < 256 := Nat.mod_lt _ (by decide)
  have hhigh : step crc (highByte crc) = UInt16.ofNat (256 * (crc.toNat % 256)) := by
    rw [step_eq, xor_highByte, shiftByte_low _ hlow]
  show step (step crc (highByte crc)) (lowByte crc) = 0
  rw [hhigh, step_eq, lowByte_shifted, UInt16.xor_self]
  decide

/-- The check value of this kind of checksum: what it is of the nine digits from one on. -/
example : ofBytes [0x31, 0x32, 0x33, 0x34, 0x35, 0x36, 0x37, 0x38, 0x39] = 0x29B1 := by
  decide +kernel

end BeaconGateway.Checksum
