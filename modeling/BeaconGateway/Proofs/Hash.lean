import BeaconGateway.Hash.Hmac
import BeaconGateway.Text.Hex
import BeaconGateway.Text.Utf8

/-!
# What a digest is made of

A message is padded to whole blocks, so no byte of it is left out of the digest
(`Sha256.flatten_blocks_pad`). Each block gives sixty-four words, one for each round constant, so no
constant is left out either (`Sha256.length_schedule`). A key of any length is brought to the size
of one block before the message is put behind it, and so the keyed digest, too, works on whole
blocks.

That the rounds are those of the standards is not a law that could be stated apart from them. It is
checked on the messages that the standards give as examples.

## Main results

* `Sha256.length_digest`, `Hmac.length_sign` — a digest has thirty-two bytes;
* `Sha256.flatten_blocks_pad` — the blocks hold the padded message;
* `Sha256.length_schedule` — each block gives one word a round;
* `Hmac.length_blockKey` — a key has the size of a block.
-/

namespace BeaconGateway

namespace Sha256

theorem length_digest (message : List UInt8) : (digest message).length = 32 :=
  rfl

/-! ### Blocks -/

/-- **The padded message fills whole blocks.** -/
theorem blockSize_dvd_length_pad (message : List UInt8) : blockSize ∣ (pad message).length := by
  simp only [pad, paddingZeros, lengthBytes, blockSize, List.length_append, List.length_cons,
    List.length_replicate, List.length_map, List.length_range]
  omega

/-- No more zeros are put in than complete a block. -/
theorem paddingZeros_lt (size : Nat) : paddingZeros size < blockSize :=
  Nat.mod_lt _ (by decide)

/-- Blocks one after another are what they were cut from, up to a piece that is short of a block. -/
theorem flatten_blocks (bytes : List UInt8) :
    (blocks bytes).flatten = bytes.take (blockSize * (bytes.length / blockSize)) := by
  rw [blocks]
  induction bytes.length / blockSize with
  | zero => rfl
  | succ k ih =>
    rw [List.range_succ, List.map_append, List.flatten_append, ih, Nat.mul_succ, List.take_add]
    simp

/-- **No byte of a message is left out**, nor any byte that it is padded with. -/
theorem flatten_blocks_pad (message : List UInt8) :
    (blocks (pad message)).flatten = pad message := by
  rw [flatten_blocks, Nat.mul_div_cancel' (blockSize_dvd_length_pad message), List.take_length]

theorem length_of_mem_blocks {bytes block : List UInt8} (hmem : block ∈ blocks bytes) :
    block.length = blockSize := by
  obtain ⟨i, hi, rfl⟩ := List.mem_map.1 hmem
  have hlt : i < bytes.length / blockSize := List.mem_range.1 hi
  have hroom : blockSize * (i + 1) ≤ bytes.length :=
    Nat.le_trans (Nat.mul_le_mul_left _ hlt) (Nat.mul_div_le _ _)
  rw [Nat.mul_succ] at hroom
  rw [List.length_take, List.length_drop]
  omega

/-! ### Words -/

theorem length_words (bytes : List UInt8) : (words bytes).length = bytes.length / 4 := by
  fun_induction words bytes with
  | case1 b0 b1 b2 b3 rest ih =>
    simp only [List.length_cons, ih]
    omega
  | case2 bytes hshort =>
    -- fewer than four bytes are left over
    have hlt : bytes.length < 4 := by
      match bytes with
      | [] | [_] | [_, _] | [_, _, _] => simp
      | b0 :: b1 :: b2 :: b3 :: rest => exact (hshort b0 b1 b2 b3 rest rfl).elim
    exact (Nat.div_eq_of_lt hlt).symm

theorem size_extend (n : Nat) (ws : Array UInt32) : (extend n ws).size = ws.size + n := by
  induction n generalizing ws with
  | zero => rfl
  | succ n ih => rw [extend, ih, Array.size_push]; omega

/-- **Each block gives a word for every round.** -/
theorem length_schedule {bytes block : List UInt8} (hmem : block ∈ blocks bytes) :
    (schedule block).length = roundConstants.length := by
  rw [schedule, Array.length_toList, size_extend, List.size_toArray, length_words,
    length_of_mem_blocks hmem]
  rfl

end Sha256

namespace Hmac

/-- **A key is brought to the size of a block**, however long it is. -/
theorem length_blockKey (key : List UInt8) : (blockKey key).length = Sha256.blockSize := by
  rw [blockKey, List.length_append, List.length_replicate]
  refine Nat.add_sub_cancel' ?_
  split
  case isTrue => rw [Sha256.length_digest]; decide
  case isFalse hshort => omega

theorem length_sign (key message : List UInt8) : (sign key message).length = 32 :=
  Sha256.length_digest _

end Hmac

/-- The digest of the standard's first example. -/
example : Hex.lower (Sha256.digest (utf8Bytes "abc")) =
    "ba7816bf8f01cfea414140de5dae2223b00361a396177a9cb410ff61f20015ad" := by
  decide +kernel

/-- The keyed digest of the second test case that is published for it. -/
example : Hex.lower (Hmac.sign (utf8Bytes "Jefe") (utf8Bytes "what do ya want for nothing?")) =
    "5bdcc146bf60754e6a042426089575c75a003f089d2739839dec58b964ec3843" := by
  decide +kernel

end BeaconGateway
