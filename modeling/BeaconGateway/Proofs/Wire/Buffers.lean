import BeaconGateway.Proofs.Wire.Soundness
import BeaconGateway.Wire.BufferedDecoder

/-!
# The decoder in fixed buffers does the same

A buffered decoder represents a decoder if the fronts of its buffers, as far as the phase counts
them, hold what the state of the decoder lists (`Represents`). Behind the counts the buffers may
hold anything, which is why a reset need not clear them.

A byte finds room in its buffer because the length byte is the bound of the body, and no length byte
is above the length of the buffer: this is `Decoder.State.Fits`, with which each byte keeps the
relation (`feedByte?_eq`).

The accesses to the buffers are checked ones, so that one out of bounds would be an answer of its
own (`none`), and that it never comes is proved and not taken for granted. Nothing is asked of the
input: the relation holds from the new decoder on, over any bytes and resets.

## Main results

* `BufferedDecoder.answers?_eq` — in fixed buffers a decoder never misses a buffer, and answers as
  the decoder does that it represents;
* `BufferedDecoder.answers?_sound` — what it delivers from arbitrary input.
-/

namespace BeaconGateway

namespace Buffer

variable {n : Nat}

/-- A byte written at the end of a front makes it longer. -/
theorem write?_eq (b : Buffer n) {position : Nat} (h : position < n) (byte : UInt8) :
    ∃ b' : Buffer n, b.write? position byte = some b' ∧
      b'.toList.take (position + 1) = b.toList.take position ++ [byte] := by
  refine ⟨b.set position byte h, dif_pos h, ?_⟩
  have hposition : position < b.toList.length := Vector.length_toList ▸ h
  have hlength : (b.toList.take position).length = position :=
    List.length_take_of_le (Nat.le_of_lt hposition)
  rw [Vector.toList_set, List.take_set, List.take_succ_eq_append_getElem hposition,
    List.set_append_right _ _ (Nat.le_of_eq hlength), hlength, Nat.sub_self, List.set_cons_zero]

/-- Bytes written at the end of a front make it longer. -/
theorem writeAll?_eq (b : Buffer n) {position : Nat} {bytes : List UInt8}
    (h : position + bytes.length ≤ n) :
    ∃ b' : Buffer n, b.writeAll? position bytes = some b' ∧
      b'.toList.take (position + bytes.length) = b.toList.take position ++ bytes := by
  induction bytes generalizing b position with
  | nil => exact ⟨b, if_pos h, (List.append_nil _).symm⟩
  | cons byte rest ih =>
    rw [List.length_cons] at h ⊢
    obtain ⟨b₁, hwrite, hfront₁⟩ := b.write?_eq (show position < n by omega) byte
    obtain ⟨b₂, hrest, hfront₂⟩ := ih b₁ (show position + 1 + rest.length ≤ n by omega)
    refine ⟨b₂, ?_, ?_⟩
    · rw [writeAll?, hwrite]
      exact hrest
    · rw [show position + (rest.length + 1) = position + 1 + rest.length by omega, hfront₂,
        hfront₁, List.append_assoc, List.singleton_append]

theorem front?_eq {b : Buffer n} {bytes : List UInt8} (h : b.toList.take bytes.length = bytes)
    (hroom : bytes.length ≤ n) : b.front? bytes.length = some bytes :=
  (if_pos hroom).trans (congrArg some h)

end Buffer

namespace BufferedDecoder

variable {b : BufferedDecoder} {d : Decoder} {size low high : UInt8} {bytes : List UInt8}

/-! ### What the buffers hold -/

/-- The front of the body's buffer holds some bytes, and their length byte came last. -/
structure Holds (b : BufferedDecoder) (size : UInt8) (bytes : List UInt8) : Prop where
  /-- The length byte. -/
  length_eq : b.length = size
  /-- The front of the buffer. -/
  front_eq : b.body.toList.take bytes.length = bytes

/-- The buffers hold the frame in progress of a decoder, and the counters are the same. -/
structure Represents (b : BufferedDecoder) (d : Decoder) : Prop where
  /-- The counters. -/
  stats_eq : b.stats = d.stats
  /-- The frame in progress. -/
  state_eq : match d.state with
    | .hunting => b.phase = .hunting
    | .length => b.phase = .length
    | .body size bytes => b.phase = .body size.toNat bytes.length ∧ b.Holds size bytes
    | .checksum size bytes => b.phase = .checksum 0 ∧ b.Holds size bytes
    | .checksumHigh size bytes low =>
      b.phase = .checksum 1 ∧ b.Holds size bytes ∧ b.checksum.toList.take 1 = [low]
    | .closing size bytes crc =>
      b.phase = .closing ∧ b.Holds size bytes ∧ b.checksumWord = crc

theorem represents_hunting (h : b.phase = .hunting) : b.Represents ⟨.hunting, b.stats⟩ :=
  ⟨rfl, h⟩

theorem represents_new : new.Represents .new :=
  represents_hunting rfl

theorem Represents.reset (h : b.Represents d) : b.reset.Represents d.reset :=
  ⟨h.stats_eq, rfl⟩

/-- A length byte leaves room for as many bytes. -/
theorem length_le_maxBody (h : bytes.length ≤ size.toNat) : bytes.length ≤ Frame.maxBody :=
  Nat.le_trans h (Nat.le_of_lt_succ size.toNat_lt)

theorem checksumWord_eq (h : b.checksum.toList.take 2 = [low, high]) :
    b.checksumWord = Checksum.ofPair low high := by
  have hlist : b.checksum.toList = [low, high] := by
    rwa [List.take_of_length_le (Nat.le_of_eq Vector.length_toList)] at h
  have hlow : b.checksum[0]? = some low := by
    rw [← Vector.getElem?_toList, hlist]
    rfl
  have hhigh : b.checksum[1]? = some high := by
    rw [← Vector.getElem?_toList, hlist]
    rfl
  rw [checksumWord, (Vector.getElem?_eq_some_iff.1 hlow).2, (Vector.getElem?_eq_some_iff.1 hhigh).2]

/-- **What the checksum covers** is put together within its buffer. -/
theorem covered?_eq (h : b.Holds size bytes) (hlength : bytes.length = size.toNat) :
    b.covered? = some (size :: bytes) := by
  have hroom : bytes.length ≤ Frame.maxBody := length_le_maxBody (Nat.le_of_eq hlength)
  obtain ⟨b₁, hfirst, hfront₁⟩ :=
    (Buffer.zero : Buffer (Frame.maxBody + 1)).write?_eq (Nat.succ_pos _) size
  obtain ⟨b₂, hrest, hfront₂⟩ :=
    b₁.writeAll?_eq (show 1 + bytes.length ≤ Frame.maxBody + 1 by omega)
  have hfront : b₂.toList.take (size :: bytes).length = size :: bytes := by
    rw [List.length_cons, Nat.add_comm, hfront₂, hfront₁]
    rfl
  have hlast : b₂.front? (bytes.length + 1) = some (size :: bytes) :=
    Buffer.front?_eq hfront (Nat.succ_le_succ hroom)
  rw [covered?, h.length_eq, ← hlength, Buffer.front?_eq h.front_eq hroom]
  simp only [Option.bind_eq_bind, Option.bind_some, hfirst, hrest, hlast]

/-! ### One byte -/

theorem feedByte?_of_none {b' : BufferedDecoder} {byte : UInt8}
    (h : b.push? byte = some (b', none)) : b.feedByte? byte = some (b', none) := by
  rw [feedByte?, h]
  rfl

theorem feedByte?_of_some {b' : BufferedDecoder} {byte : UInt8} {count : Nat}
    (h : b.push? byte = some (b', some count)) (hfront : b'.body.front? count = some bytes) :
    b.feedByte? byte = some (b', some bytes) := by
  rw [feedByte?, h]
  show (b'.body.front? count).bind (fun body ↦ some (b', some body)) = _
  rw [hfront]
  rfl

/-- A byte of a body finds room behind those that have come. -/
theorem push?_body (hphase : b.phase = .body size.toNat bytes.length) (h : b.Holds size bytes)
    (hlength : bytes.length < size.toNat) (byte : UInt8) :
    ∃ b', b.push? byte = some (b', none) ∧ b'.stats = b.stats ∧ b'.Holds size (bytes ++ [byte]) ∧
      b'.phase = if (bytes ++ [byte]).length = size.toNat then .checksum 0
        else .body size.toNat (bytes ++ [byte]).length := by
  have hroom : bytes.length < Frame.maxBody :=
    Nat.lt_of_lt_of_le hlength (Nat.le_of_lt_succ size.toNat_lt)
  obtain ⟨body, hwrite, hfront⟩ := b.body.write?_eq hroom byte
  rw [h.front_eq] at hfront
  have hlength' : (bytes ++ [byte]).length = bytes.length + 1 := List.length_append
  rw [hlength']
  refine ⟨{ b with
    body
    phase := if bytes.length + 1 = size.toNat then .checksum 0
      else .body size.toNat (bytes.length + 1) }, ?_, rfl, ⟨h.length_eq, hlength' ▸ hfront⟩, rfl⟩
  simp only [push?, hphase, hwrite, Option.bind_eq_bind, Option.bind_some]
  rfl

/-- A byte of a checksum finds room behind the one that has come, if one has. -/
theorem push?_checksum {count : Nat} (hphase : b.phase = .checksum count) (hcount : count < 2)
    (h : b.Holds size bytes) (byte : UInt8) :
    ∃ b', b.push? byte = some (b', none) ∧ b'.stats = b.stats ∧ b'.Holds size bytes ∧
      b'.phase = (if count = 0 then .checksum 1 else .closing) ∧
      b'.checksum.toList.take (count + 1) = b.checksum.toList.take count ++ [byte] := by
  obtain ⟨checksum, hwrite, hfront⟩ := b.checksum.write?_eq hcount byte
  refine ⟨{ b with checksum, phase := if count = 0 then .checksum 1 else .closing }, ?_, rfl,
    ⟨h.length_eq, h.front_eq⟩, rfl, hfront⟩
  simp only [push?, hphase, hwrite, Option.bind_eq_bind, Option.bind_some]
  rfl

/-- The end byte decides in buffers as it does in a list. -/
theorem feedByte?_closing (hphase : b.phase = .closing) (h : b.Holds size bytes)
    (hlength : bytes.length = size.toNat) (byte : UInt8) :
    ∃ b', b.feedByte? byte =
        some (b', (Decoder.close b.stats size bytes b.checksumWord byte).2) ∧
      b'.Represents (Decoder.close b.stats size bytes b.checksumWord byte).1 := by
  have hpush : b.push? byte = b.close? byte := by rw [push?, hphase]
  rw [close?, covered?_eq h hlength] at hpush
  unfold Decoder.close
  by_cases hstop : byte = Frame.stop
  · rw [if_neg (not_not_intro hstop)] at hpush ⊢
    by_cases hcrc : b.checksumWord = Checksum.ofBytes (size :: bytes)
    · have hfront : b.body.front? b.length.toNat = some bytes := by
        rw [h.length_eq, ← hlength]
        exact Buffer.front?_eq h.front_eq (length_le_maxBody (Nat.le_of_eq hlength))
      rw [if_neg (not_not_intro hcrc)]
      exact ⟨{ b with phase := .hunting, stats := b.stats.addFrame },
        feedByte?_of_some (hpush.trans (if_neg (not_not_intro hcrc))) hfront,
        represents_hunting rfl⟩
    · rw [if_pos hcrc]
      exact ⟨{ b with phase := .hunting, stats := b.stats.addCrcError },
        feedByte?_of_none (hpush.trans (if_pos hcrc)), represents_hunting rfl⟩
  · rw [if_pos hstop] at hpush ⊢
    refine ⟨_, feedByte?_of_none hpush, ⟨rfl, ?_⟩⟩
    by_cases hstart : byte = Frame.start
    · simp only [if_pos hstart]
    · simp only [if_neg hstart]

/-- **One byte** finds room, and the relation stays. -/
theorem feedByte?_eq (h : b.Represents d) (hfits : d.state.Fits) (byte : UInt8) :
    ∃ b', b.feedByte? byte = some (b', (d.push byte).2) ∧ b'.Represents (d.push byte).1 := by
  obtain ⟨state, stats⟩ := d
  obtain ⟨rfl, hstate⟩ := h
  cases state with
  | hunting =>
    have hpush : b.push? byte =
        some (if byte = Frame.start then { b with phase := .length } else b, none) := by
      rw [push?, hstate]
    refine ⟨_, feedByte?_of_none hpush, ?_⟩
    simp only [Decoder.push]
    split
    case isTrue => exact ⟨rfl, rfl⟩
    case isFalse => exact ⟨rfl, hstate⟩
  | length =>
    simp only [Decoder.push]
    split
    case isTrue hzero =>
      refine ⟨{ b with phase := .hunting, stats := b.stats.addFramingError },
        feedByte?_of_none ?_, represents_hunting rfl⟩
      rw [push?, hstate]
      exact if_pos hzero
    case isFalse hpos =>
      refine ⟨{ b with phase := .body byte.toNat 0, length := byte }, feedByte?_of_none ?_,
        rfl, rfl, rfl, rfl⟩
      rw [push?, hstate]
      exact if_neg hpos
  -- only here does a byte go into the buffer of bodies, where the frame has room for it
  | body size bytes =>
    obtain ⟨hphase, hholds⟩ := hstate
    obtain ⟨b', hpush, hstats, hholds', hphase'⟩ := push?_body hphase hholds hfits byte
    refine ⟨b', feedByte?_of_none hpush, ⟨hstats, ?_⟩⟩
    by_cases hfull : (bytes ++ [byte]).length = size.toNat
    · rw [if_pos hfull] at hphase'
      simp only [Decoder.push, if_pos hfull]
      exact ⟨hphase', hholds'⟩
    · rw [if_neg hfull] at hphase'
      simp only [Decoder.push, if_neg hfull]
      exact ⟨hphase', hholds'⟩
  -- the two bytes of the checksum go into a buffer of their own, the low one first
  | checksum size bytes =>
    obtain ⟨hphase, hholds⟩ := hstate
    obtain ⟨b', hpush, hstats, hholds', hphase', hfront⟩ :=
      push?_checksum hphase Nat.two_pos hholds byte
    exact ⟨b', feedByte?_of_none hpush, ⟨hstats, hphase', hholds', hfront⟩⟩
  | checksumHigh size bytes low =>
    obtain ⟨hphase, hholds, hlow⟩ := hstate
    obtain ⟨b', hpush, hstats, hholds', hphase', hfront⟩ :=
      push?_checksum hphase Nat.one_lt_two hholds byte
    rw [hlow] at hfront
    exact ⟨b', feedByte?_of_none hpush, ⟨hstats, hphase', hholds', checksumWord_eq hfront⟩⟩
  | closing size bytes crc =>
    obtain ⟨hphase, hholds, rfl⟩ := hstate
    exact feedByte?_closing hphase hholds hfits.2 byte

/-! ### Streams -/

/-- One input, with the body that it completes if it completes one. -/
def step? (b : BufferedDecoder) :
    Decoder.Input → Option (BufferedDecoder × Option (List UInt8))
  | .byte value => b.feedByte? value
  | .reset => some (b.reset, none)

/-- One input finds room, and the relation stays. -/
theorem step?_eq (h : b.Represents d) (hfits : d.state.Fits) (input : Decoder.Input) :
    ∃ b', b.step? input = some (b', (d.step input).2) ∧ b'.Represents (d.step input).1 := by
  cases input with
  | byte value => exact feedByte?_eq h hfits value
  | reset => exact ⟨b.reset, rfl, h.reset⟩

/-- For each input the body that it completes, if it completes one. -/
def answers? (b : BufferedDecoder) : List Decoder.Input → Option (List (Option (List UInt8)))
  | [] => some []
  | input :: rest =>
    (b.step? input).bind fun (b, answer) ↦ (answers? b rest).map (answer :: ·)

/-- **No buffer is missed**, and the answers are the same. -/
theorem answers?_eq (h : b.Represents d) (hfits : d.state.Fits) (inputs : List Decoder.Input) :
    b.answers? inputs = some (d.answers inputs) := by
  induction inputs generalizing b d with
  | nil => rfl
  | cons input rest ih =>
    obtain ⟨b', hstep, h'⟩ := step?_eq h hfits input
    rw [answers?, hstep, Decoder.answers]
    exact congrArg (Option.map _) (ih h' (Decoder.fits_step hfits input))

/-- **Whatever arrives, only frames are delivered**, by a decoder in fixed buffers that no byte
makes miss a buffer. A body that is delivered has at least its command and at most 255 bytes, and
the inputs so far end with its frame, so that no reset lies within. The frame of a later delivery
lies behind the byte of an earlier one. Behind a reset the decoder answers as a new one does. -/
theorem answers?_sound (inputs : List Decoder.Input) :
    new.answers? inputs = some (Decoder.new.answers inputs) ∧
      (∀ body, Decoder.delivered inputs = some body →
        ∃ command payload, body = command :: payload ∧ payload.length ≤ 254 ∧
          (Frame.bytes command payload).map .byte <:+ inputs) ∧
      (∀ earlier later body next, inputs = earlier ++ later → later ≠ [] →
        Decoder.delivered earlier = some body → Decoder.delivered inputs = some next →
          (Frame.ofBody next).map .byte <:+ later) ∧
      ∀ before rest, inputs = before ++ .reset :: rest →
        Decoder.new.answers inputs =
          Decoder.new.answers before ++ none :: Decoder.new.answers rest := by
  refine ⟨answers?_eq represents_new trivial inputs, fun body hbody ↦ ?_, ?_, ?_⟩
  · obtain ⟨hne, hlength, hsuffix⟩ := Decoder.delivered_suffix hbody
    obtain ⟨command, payload, rfl⟩ := List.exists_cons_of_ne_nil hne
    exact ⟨command, payload, rfl, Nat.le_of_succ_le_succ hlength, hsuffix⟩
  · rintro earlier later body next rfl hlater hbody hnext
    exact Decoder.delivered_apart hlater hbody hnext
  · rintro before rest rfl
    exact Decoder.answers_reset Decoder.new before rest

end BufferedDecoder

end BeaconGateway
