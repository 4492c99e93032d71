import BeaconGateway.Proofs.Wire.Buffers
import BeaconGateway.Proofs.Wire.Stream
import Mathlib.Order.Bounds.Basic

/-!
# A quiet line ends every frame

After arbitrary input the decoder may be anywhere in a frame, and what it takes for the length byte
may be any byte at all. A line that carries no start byte still brings it back to hunting: a frame
in progress takes at most as many bytes as its state allows (`State.outstanding`), every byte that
is not a start byte takes one off that number (`outstanding_push_le`), and no state allows more than
the rest of the longest frame behind its start byte, which is 259 bytes (`State.outstanding_le`).

The bound is exact. Behind a start byte a line of bytes `0xFF`, which is the greatest length as well
as no end byte, is taken for a frame up to the last of 259 bytes (`absorbed_replicate`).

The measure is all that the argument needs: it is zero in the hunting state and in no other, so that
a decoder that has nothing outstanding hunts. It is made of the decoder that keeps lists, and
carries over to the one in fixed buffers, which does the same (`after?_eq`).

## Main results

* `BufferedDecoder.recovers_after_quiet` — after any input and 259 bytes without a start byte the
  decoder hunts, the next frame is delivered, and no shorter stretch is always enough.
-/

namespace BeaconGateway

namespace Decoder

variable {d : Decoder} {byte : UInt8} {quiet : List UInt8}

/-! ### What a frame in progress may still take -/

/-- The most bytes that the frame in progress may still take, if none of them is a start byte. -/
def State.outstanding : State → Nat
  | .hunting => 0
  | .length => Frame.maxBody + 4
  | .body size bytes => size.toNat - bytes.length + 3
  | .checksum .. => 3
  | .checksumHigh .. => 2
  | .closing .. => 1

/-- **No frame takes more** than the longest one behind its start byte. -/
theorem State.outstanding_le (s : State) : s.outstanding ≤ 259 := by
  cases s with
  | body size bytes =>
    have hsize : size.toNat < 256 := size.toNat_lt
    simp only [outstanding]
    omega
  | _ => simp [outstanding, Frame.maxBody]

theorem State.outstanding_eq_zero_iff {s : State} : s.outstanding = 0 ↔ s = .hunting := by
  cases s <;> simp [outstanding]

/-- Within a body every byte takes one off, a start byte as well. -/
theorem outstanding_push_body {size : UInt8} {bytes : List UInt8}
    (hmore : bytes.length < size.toNat) (stats : Stats) (byte : UInt8) :
    (push ⟨.body size bytes, stats⟩ byte).1.state.outstanding =
      (State.body size bytes).outstanding - 1 := by
  have hlength : (bytes ++ [byte]).length = bytes.length + 1 := List.length_append
  by_cases hlast : bytes.length + 1 = size.toNat
  · simp only [push, hlength, if_pos hlast, State.outstanding]
    omega
  · simp only [push, hlength, if_neg hlast, State.outstanding]
    omega

/-- **A byte that is not a start byte takes one off.** -/
theorem outstanding_push_le (hfits : d.state.Fits) (hbyte : byte ≠ Frame.start) :
    (d.push byte).1.state.outstanding ≤ d.state.outstanding - 1 := by
  obtain ⟨state, stats⟩ := d
  cases state with
  | hunting => simp [push, hbyte, State.outstanding]
  | length =>
    have hlength : byte.toNat < 256 := byte.toNat_lt
    by_cases hzero : byte = 0
    · simp [push, hzero, State.outstanding]
    · simp only [push, hzero, if_false, State.outstanding, List.length_nil, Frame.maxBody]
      omega
  | body size bytes => exact Nat.le_of_eq (outstanding_push_body hfits stats byte)
  | checksum | checksumHigh => exact Nat.le_refl _
  | closing size bytes crc =>
    simp only [push, close, if_neg hbyte]
    split
    case isTrue => exact Nat.le_refl _
    case isFalse => split <;> exact Nat.le_refl _

/-- A stretch without a start byte takes off as many as it is long. -/
theorem outstanding_feed_le (hfits : d.state.Fits) (hquiet : Frame.start ∉ quiet) :
    (d.feed quiet).1.state.outstanding ≤ d.state.outstanding - quiet.length := by
  induction quiet generalizing d with
  | nil => exact Nat.le_refl _
  | cons byte rest ih =>
    rw [List.mem_cons, not_or] at hquiet
    have hpush := outstanding_push_le hfits (Ne.symm hquiet.1)
    have hrest := ih (fits_push hfits byte) hquiet.2
    simp only [feed, List.length_cons]
    omega

/-- **After 259 quiet bytes the decoder hunts**, wherever in a frame it was. -/
theorem hunting_of_quiet (hfits : d.state.Fits) (hquiet : Frame.start ∉ quiet)
    (hlong : 259 ≤ quiet.length) : (d.feed quiet).1.state = .hunting := by
  have hfeed := outstanding_feed_le hfits hquiet
  have hmost := d.state.outstanding_le
  exact State.outstanding_eq_zero_iff.1 (by omega)

/-! ### What a frame in progress takes -/

/-- How many bytes at the beginning of a row are taken for parts of a frame. -/
def absorbed (d : Decoder) : List UInt8 → Nat
  | [] => 0
  | byte :: rest => if d.state = .hunting then 0 else absorbed (d.push byte).1 rest + 1

theorem absorbed_le (hfits : d.state.Fits) (hquiet : Frame.start ∉ quiet) :
    d.absorbed quiet ≤ d.state.outstanding := by
  induction quiet generalizing d with
  | nil => exact Nat.zero_le _
  | cons byte rest ih =>
    rw [List.mem_cons, not_or] at hquiet
    rw [absorbed]
    split
    case isTrue => exact Nat.zero_le _
    case isFalse hbusy =>
      have hpush := outstanding_push_le hfits (Ne.symm hquiet.1)
      have hrest := ih (fits_push hfits byte) hquiet.2
      have hsome : d.state.outstanding ≠ 0 := fun h ↦ hbusy (State.outstanding_eq_zero_iff.1 h)
      omega

/-- The greatest byte takes off one and no more: as a length it announces the longest body, and it
ends no frame. -/
theorem outstanding_push_greatest (hfits : d.state.Fits) :
    (d.push 0xFF).1.state.outstanding = d.state.outstanding - 1 := by
  obtain ⟨state, stats⟩ := d
  cases state with
  | body size bytes => exact outstanding_push_body hfits stats 0xFF
  | hunting | length | checksum | checksumHigh | closing => rfl

theorem start_not_mem_replicate (count : Nat) : Frame.start ∉ List.replicate count 0xFF :=
  fun hmem ↦ absurd (List.eq_of_mem_replicate hmem) (by decide)

theorem absorbed_replicate (hfits : d.state.Fits) (count : Nat) :
    d.absorbed (List.replicate count 0xFF) = min count d.state.outstanding := by
  induction count generalizing d with
  | zero => rw [List.replicate_zero, absorbed, Nat.zero_min]
  | succ count ih =>
    rw [List.replicate_succ, absorbed, ih (fits_push hfits 0xFF), outstanding_push_greatest hfits]
    split
    case isTrue hhunting => rw [hhunting, State.outstanding, Nat.min_zero]
    case isFalse hbusy =>
      have hsome : d.state.outstanding ≠ 0 := fun h ↦ hbusy (State.outstanding_eq_zero_iff.1 h)
      omega

/-- **259 is the most** that a decoder takes of a line without a start byte, whatever came first. -/
theorem isGreatest_absorbed :
    IsGreatest {count | ∃ (inputs : List Input) (quiet : List UInt8),
      Frame.start ∉ quiet ∧ (new.after inputs).absorbed quiet = count} 259 := by
  have hnew : new.state.Fits := trivial
  constructor
  · refine ⟨[.byte Frame.start], List.replicate 259 0xFF, start_not_mem_replicate 259, ?_⟩
    exact absorbed_replicate (fits_after hnew _) 259
  · rintro _ ⟨inputs, quiet, hquiet, rfl⟩
    exact (absorbed_le (fits_after hnew inputs) hquiet).trans (State.outstanding_le _)

/-- Inputs that are bytes are fed. -/
theorem after_bytes (d : Decoder) (bytes : List UInt8) :
    d.after (bytes.map .byte) = (d.feed bytes).1 := by
  induction bytes generalizing d with
  | nil => rfl
  | cons byte rest ih => exact ih _

end Decoder

namespace BufferedDecoder

variable {b : BufferedDecoder} {d : Decoder}

/-- The decoder after inputs in order, `none` if one of them missed a buffer. -/
def after? (b : BufferedDecoder) (inputs : List Decoder.Input) : Option BufferedDecoder :=
  inputs.foldlM (fun b input ↦ (b.step? input).map Prod.fst) b

/-- A row of bytes, with the bodies of the frames that it completes, in order. -/
def feed? (b : BufferedDecoder) : List UInt8 → Option (BufferedDecoder × List (List UInt8))
  | [] => some (b, [])
  | byte :: rest =>
    (b.feedByte? byte).bind fun (b, body?) ↦
      (feed? b rest).map fun (b, bodies) ↦ (b, body?.toList ++ bodies)

theorem Represents.hunting (h : b.Represents d) (hstate : d.state = .hunting) :
    b.phase = .hunting := by
  have hphase := h.state_eq
  rwa [hstate] at hphase

/-- Inputs miss no buffer, and the decoder comes to the same state. -/
theorem after?_eq (h : b.Represents d) (hfits : d.state.Fits) (inputs : List Decoder.Input) :
    ∃ b', b.after? inputs = some b' ∧ b'.Represents (d.after inputs) := by
  induction inputs generalizing b d with
  | nil => exact ⟨b, rfl, h⟩
  | cons input rest ih =>
    obtain ⟨b₁, hstep, h₁⟩ := step?_eq h hfits input
    obtain ⟨b₂, hrest, h₂⟩ := ih h₁ (Decoder.fits_step hfits input)
    refine ⟨b₂, ?_, h₂⟩
    rw [after?, List.foldlM_cons, hstep]
    exact hrest

/-- A row of bytes misses no buffer, and completes the same bodies. -/
theorem feed?_eq (h : b.Represents d) (hfits : d.state.Fits) (bytes : List UInt8) :
    ∃ b', b.feed? bytes = some (b', (d.feed bytes).2) ∧ b'.Represents (d.feed bytes).1 := by
  induction bytes generalizing b d with
  | nil => exact ⟨b, rfl, h⟩
  | cons byte rest ih =>
    obtain ⟨b₁, hbyte, h₁⟩ := feedByte?_eq h hfits byte
    obtain ⟨b₂, hrest, h₂⟩ := ih h₁ (Decoder.fits_push hfits byte)
    refine ⟨b₂, ?_, h₂⟩
    rw [feed?, hbyte]
    show (b₁.feed? rest).map _ = _
    rw [hrest]
    rfl

/-- **A quiet line ends every frame**: after any input, resets among them, and at least 259 bytes
without a start byte the decoder hunts, in fixed buffers as well, and the next frame is delivered
and nothing else. The bound is exact: 259 is the most that a decoder takes of a quiet line for parts
of a frame, whatever came before. -/
theorem recovers_after_quiet (inputs : List Decoder.Input) {quiet : List UInt8}
    (hquiet : Frame.start ∉ quiet) (hlong : 259 ≤ quiet.length) :
    (∃ b, new.after? (inputs ++ quiet.map .byte) = some b ∧ b.phase = .hunting ∧
      (Decoder.new.after (inputs ++ quiet.map .byte)).state = .hunting ∧
      ∀ command payload, payload.length ≤ 254 →
        ((Decoder.new.after (inputs ++ quiet.map .byte)).feed (Frame.bytes command payload)).2 =
            [command :: payload] ∧
          ∃ b', b.feed? (Frame.bytes command payload) = some (b', [command :: payload])) ∧
      IsGreatest {count | ∃ (inputs : List Decoder.Input) (quiet : List UInt8),
        Frame.start ∉ quiet ∧ (Decoder.new.after inputs).absorbed quiet = count} 259 := by
  have hnew : Decoder.new.state.Fits := trivial
  have hstate : (Decoder.new.after (inputs ++ quiet.map .byte)).state = .hunting := by
    rw [Decoder.after_append, Decoder.after_bytes]
    exact Decoder.hunting_of_quiet (Decoder.fits_after hnew inputs) hquiet hlong
  obtain ⟨b, hb, hrepresents⟩ := after?_eq represents_new hnew (inputs ++ quiet.map .byte)
  refine ⟨⟨b, hb, hrepresents.hunting hstate, hstate, fun command payload hpayload ↦ ?_⟩,
    Decoder.isGreatest_absorbed⟩
  generalize Decoder.new.after (inputs ++ quiet.map .byte) = d at hstate hrepresents
  obtain ⟨state, stats⟩ := d
  obtain rfl : state = .hunting := hstate
  have hframe : Decoder.feed ⟨.hunting, stats⟩ (Frame.bytes command payload) =
      (⟨.hunting, stats.addFrame⟩, [command :: payload]) :=
    Decoder.feed_frame stats (List.cons_ne_nil _ _) (Nat.succ_le_succ hpayload)
  obtain ⟨b', hfeed, -⟩ := feed?_eq hrepresents trivial (Frame.bytes command payload)
  rw [hframe] at hfeed ⊢
  exact ⟨rfl, b', hfeed⟩

/-- A stray start byte opens a frame that never comes, and the quiet line behind it is taken for the
longest body, its checksum and its end. -/
theorem recovers_after_stray_start :
    Frame.start ∉ List.replicate 259 (0xFF : UInt8) ∧
      259 ≤ (List.replicate 259 (0xFF : UInt8)).length ∧
      ∃ b, new.after? ([.byte 0x55, .byte Frame.start] ++
          (List.replicate 259 0xFF).map .byte) = some b ∧ b.phase = .hunting ∧
        ∃ b', b.feed? (Frame.bytes 0x10 [0x02, 0x03]) = some (b', [[0x10, 0x02, 0x03]]) := by
  have hquiet := Decoder.start_not_mem_replicate 259
  have hlong : 259 ≤ (List.replicate 259 (0xFF : UInt8)).length := by rw [List.length_replicate]
  obtain ⟨⟨b, hb, hphase, -, hframe⟩, -⟩ :=
    recovers_after_quiet [.byte 0x55, .byte Frame.start] hquiet hlong
  exact ⟨hquiet, hlong, b, hb, hphase, (hframe 0x10 [0x02, 0x03] (by decide)).2⟩

end BufferedDecoder

end BeaconGateway
