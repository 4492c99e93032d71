import BeaconGateway.Wire.Decoder
import Mathlib.Data.List.Basic

/-!
# Frames through the decoder

The decoder is fed frames with noise between them, in pieces that need not end where a frame ends.
Each part of a frame takes it from one state to the next: noise leaves it hunting (`feed_noise`),
the length, the body and the checksum take it to the end byte (`feed_unclosed`), and the end byte of
a frame that is whole delivers the body (`feed_frame`). A stream is an induction over its frames
(`feed_segments`), and pieces are one stream (`feedAll_eq`).

## Main results

* `Decoder.feedAll_segments` — a hunting decoder delivers the bodies of the frames in order, counts
  them and nothing else, and hunts again; and a frame is written to a buffer exactly if it fits,
  with the rest of the buffer left alone.
-/

namespace BeaconGateway

namespace Frame

/-- A frame fills the front of the buffer, and the rest of the buffer stays. -/
theorem write?_eq_some {command : UInt8} {payload buffer written : List UInt8} {count : Nat}
    (h : write? command payload buffer = some (count, written)) :
    count = payload.length + 6 ∧ written.take count = bytes command payload ∧
      written.drop count = buffer.drop count ∧ written.length = buffer.length := by
  have hlength : (bytes command payload).length = payload.length + 1 + overhead :=
    length_ofBody (command :: payload)
  unfold write? at h
  dsimp only at h
  split at h
  case isTrue => cases h
  case isFalse hbody =>
    split at h
    case isTrue => cases h
    case isFalse hroom =>
      obtain ⟨rfl, rfl⟩ := Prod.mk.inj (Option.some.inj h)
      refine ⟨rfl, ?_, ?_, ?_⟩
      · exact List.take_left' hlength
      · exact List.drop_left' hlength
      · rw [List.length_append, hlength, List.length_drop]
        omega

end Frame

/-- A frame, and the bytes that come before it. -/
structure Segment where
  /-- The bytes before the frame. -/
  noise : List UInt8
  /-- The command. -/
  command : UInt8
  /-- The payload. -/
  payload : List UInt8

namespace Segment

/-- The body of the frame. -/
def body (s : Segment) : List UInt8 :=
  s.command :: s.payload

/-- The bytes on the wire. -/
def bytes (s : Segment) : List UInt8 :=
  s.noise ++ Frame.bytes s.command s.payload

/-- The noise opens no frame, and the body is short enough for one. -/
structure Valid (s : Segment) : Prop where
  /-- No byte of the noise is a start byte. -/
  quiet : Frame.start ∉ s.noise
  /-- The payload leaves room for the command. -/
  fits : s.payload.length ≤ 254

end Segment

namespace Decoder

variable (stats : Stats)

/-! ### The parts of a frame -/

/-- Noise is skipped. -/
theorem feed_noise {noise : List UInt8} (hnoise : Frame.start ∉ noise) :
    feed ⟨.hunting, stats⟩ noise = (⟨.hunting, stats⟩, []) := by
  induction noise with
  | nil => rfl
  | cons byte rest ih =>
    have hbyte : byte ≠ Frame.start := fun heq ↦ hnoise (heq ▸ List.mem_cons_self)
    have hrest := ih fun hmem ↦ hnoise (List.mem_cons_of_mem _ hmem)
    have hpush : push ⟨.hunting, stats⟩ byte = (⟨.hunting, stats⟩, none) := by
      simp only [push, if_neg hbyte]
    simp only [feed, hpush, hrest, Option.toList_none, List.nil_append]

/-- The rest of a body is collected. -/
theorem feed_body {length : UInt8} {done rest : List UInt8} (hrest : rest ≠ [])
    (hlength : done.length + rest.length = length.toNat) :
    feed ⟨.body length done, stats⟩ rest = (⟨.checksum length (done ++ rest), stats⟩, []) := by
  induction rest generalizing done with
  | nil => exact absurd rfl hrest
  | cons byte rest ih =>
    have hdone : (done ++ [byte]).length + rest.length = length.toNat := by
      rw [List.length_append, List.length_singleton, ← hlength, List.length_cons]
      omega
    rcases rest with - | ⟨byte', rest⟩
    · have hpush : push ⟨.body length done, stats⟩ byte =
          (⟨.checksum length (done ++ [byte]), stats⟩, none) := by
        simp only [push, if_pos (show (done ++ [byte]).length = length.toNat from hdone)]
      simp only [feed, hpush, Option.toList_none, List.nil_append]
    · have hmore : (done ++ [byte]).length ≠ length.toNat := by
        rw [← hdone, List.length_cons]
        omega
      have hpush : push ⟨.body length done, stats⟩ byte =
          (⟨.body length (done ++ [byte]), stats⟩, none) := by
        simp only [push, if_neg hmore]
      have hnext := ih (List.cons_ne_nil _ _) hdone
      rw [feed, hpush]
      dsimp only
      rw [hnext, List.append_assoc]
      rfl

/-- **What the checksum covers**, and the checksum: the end byte comes next. -/
theorem feed_covered {length low high : UInt8} {body : List UInt8} (hbody : body ≠ [])
    (hlength : body.length = length.toNat) :
    feed ⟨.length, stats⟩ (length :: (body ++ [low, high])) =
      (⟨.closing length body (Checksum.ofPair low high), stats⟩, []) := by
  have hpos : length ≠ 0 := by
    rintro rfl
    exact hbody (List.length_eq_zero_iff.1 hlength)
  have hpush : push ⟨.length, stats⟩ length = (⟨.body length [], stats⟩, none) := by
    simp only [push, if_neg hpos]
  have hcollect : feed ⟨.body length [], stats⟩ body = (⟨.checksum length body, stats⟩, []) :=
    feed_body stats hbody ((Nat.zero_add _).trans hlength)
  rw [feed, hpush]
  dsimp only
  rw [feed_append, hcollect]
  rfl

/-- The end byte of a frame whose checksum is right delivers the body. -/
theorem push_stop (length : UInt8) (body : List UInt8) :
    push ⟨.closing length body (Checksum.ofBytes (length :: body)), stats⟩ Frame.stop =
      (⟨.hunting, stats.addFrame⟩, some body) := by
  show close stats length body (Checksum.ofBytes (length :: body)) Frame.stop = _
  rw [close, if_neg (not_not_intro rfl), if_neg (not_not_intro rfl)]

/-- **All of a frame but its end byte**, with any checksum: the end byte comes next. -/
theorem feed_unclosed {body : List UInt8} (hbody : body ≠ [])
    (hfits : body.length ≤ Frame.maxBody) (low high : UInt8) :
    feed ⟨.hunting, stats⟩ (Frame.start :: UInt8.ofNat body.length :: (body ++ [low, high])) =
      (⟨.closing (UInt8.ofNat body.length) body (Checksum.ofPair low high), stats⟩, []) := by
  have hlength : body.length = (UInt8.ofNat body.length).toNat := by
    rw [UInt8.toNat_ofNat_of_lt']
    exact Nat.lt_succ_of_le hfits
  have hopen : push ⟨.hunting, stats⟩ Frame.start = (⟨.length, stats⟩, none) := by
    simp only [push, if_true]
  rw [feed, hopen]
  dsimp only
  rw [feed_covered stats hbody hlength]
  rfl

/-- **A frame** is delivered and counted. -/
theorem feed_frame {body : List UInt8} (hbody : body ≠ [])
    (hfits : body.length ≤ Frame.maxBody) :
    feed ⟨.hunting, stats⟩ (Frame.ofBody body) = (⟨.hunting, stats.addFrame⟩, [body]) := by
  have hsplit : Frame.ofBody body = (Frame.start :: UInt8.ofNat body.length :: (body ++
      [Checksum.lowByte (Frame.checksum body), Checksum.highByte (Frame.checksum body)])) ++
      [Frame.stop] := by
    simp [Frame.ofBody]
  rw [hsplit, feed_append, feed_unclosed stats hbody hfits, Checksum.ofPair_bytes]
  simp only [feed, Frame.checksum, push_stop, Option.toList_some, List.nil_append,
    List.append_nil]

/-! ### Counters -/

theorem add_one_add_ofNat (x : UInt32) (n : Nat) :
    x + 1 + UInt32.ofNat n = x + UInt32.ofNat (n + 1) := by
  rw [UInt32.ofNat_add, UInt32.add_assoc, UInt32.add_comm 1]
  rfl

/-- A counter while it does not wrap. -/
theorem toNat_add_ofNat {x : UInt32} {n : Nat} (h : x.toNat + n < UInt32.size) :
    (x + UInt32.ofNat n).toNat = x.toNat + n := by
  rw [UInt32.toNat_add, UInt32.toNat_ofNat', Nat.add_mod_mod, Nat.mod_eq_of_lt h]

/-! ### Streams -/

/-- The counters after as many frames. -/
def Stats.addFrames (s : Stats) (count : Nat) : Stats :=
  { s with frames := s.frames + UInt32.ofNat count }

theorem Stats.addFrames_addFrame (s : Stats) (count : Nat) :
    s.addFrame.addFrames count = s.addFrames (count + 1) := by
  rw [addFrames, addFrames, addFrame, ← add_one_add_ofNat]

/-- A frame with noise before it. -/
theorem feed_segment {s : Segment} (hs : s.Valid) :
    feed ⟨.hunting, stats⟩ s.bytes = (⟨.hunting, stats.addFrame⟩, [s.body]) := by
  have hframe : feed ⟨.hunting, stats⟩ (Frame.bytes s.command s.payload) =
      (⟨.hunting, stats.addFrame⟩, [s.body]) :=
    feed_frame stats (List.cons_ne_nil _ _) (Nat.succ_le_succ hs.fits)
  rw [Segment.bytes, feed_append, feed_noise stats hs.quiet]
  dsimp only
  rw [hframe]
  rfl

/-- **Frames one after another** are delivered in order. -/
theorem feed_segments {segments : List Segment} (hsegments : ∀ s ∈ segments, s.Valid) :
    feed ⟨.hunting, stats⟩ (segments.flatMap Segment.bytes) =
      (⟨.hunting, stats.addFrames segments.length⟩, segments.map Segment.body) := by
  induction segments generalizing stats with
  | nil => simp [feed, Stats.addFrames]
  | cons s rest ih =>
    have hfirst := feed_segment stats (hsegments s List.mem_cons_self)
    have hrest := ih stats.addFrame fun s hs ↦ hsegments s (List.mem_cons_of_mem _ hs)
    rw [List.flatMap_cons, feed_append, hfirst]
    dsimp only
    rw [hrest, Stats.addFrames_addFrame]
    rfl

/-- Pieces of a stream, fed one after another, with the bodies that they complete. -/
def feedAll (d : Decoder) : List (List UInt8) → Decoder × List (List UInt8)
  | [] => (d, [])
  | piece :: rest =>
    let (d', bodies) := d.feed piece
    let (d'', more) := feedAll d' rest
    (d'', bodies ++ more)

/-- **Pieces are one stream**, however it is cut. -/
theorem feedAll_eq (d : Decoder) (pieces : List (List UInt8)) :
    d.feedAll pieces = d.feed pieces.flatten := by
  induction pieces generalizing d with
  | nil => rfl
  | cons piece rest ih =>
    rw [feedAll, List.flatten_cons, feed_append]
    dsimp only
    rw [ih]

/-- **A hunting decoder delivers the frames of a stream in order**, however the stream is cut into
pieces and whatever noise without a start byte is between the frames. It counts the frames, counts
no errors, and hunts again. The frame around a command and its payload is what is written to a
buffer that has room for it, if the payload is short enough. -/
theorem feedAll_segments {d : Decoder} (hd : d.state = .hunting) {segments : List Segment}
    (hsegments : ∀ s ∈ segments, s.Valid) {tail : List UInt8} (htail : Frame.start ∉ tail)
    {pieces : List (List UInt8)}
    (hpieces : pieces.flatten = segments.flatMap Segment.bytes ++ tail) :
    (d.feedAll pieces).2 = segments.map Segment.body ∧
      (d.feedAll pieces).1.state = .hunting ∧
      (d.feedAll pieces).1.stats.crcErrors = d.stats.crcErrors ∧
      (d.feedAll pieces).1.stats.framingErrors = d.stats.framingErrors ∧
      (d.stats.frames.toNat + segments.length < UInt32.size →
        (d.feedAll pieces).1.stats.frames.toNat = d.stats.frames.toNat + segments.length) ∧
      ∀ command payload buffer,
        ((Frame.write? command payload buffer).isSome ↔
          payload.length ≤ 254 ∧ payload.length + 6 ≤ buffer.length) ∧
        ∀ count written, Frame.write? command payload buffer = some (count, written) →
          count = payload.length + 6 ∧ written.take count = Frame.bytes command payload ∧
            written.drop count = buffer.drop count ∧ written.length = buffer.length := by
  have hfeed : d.feedAll pieces =
      (⟨.hunting, d.stats.addFrames segments.length⟩, segments.map Segment.body) := by
    obtain ⟨state, stats⟩ := d
    cases hd
    rw [feedAll_eq, hpieces, feed_append, feed_segments stats hsegments]
    dsimp only
    rw [feed_noise _ htail, List.append_nil]
  rw [hfeed]
  refine ⟨rfl, rfl, rfl, rfl, toNat_add_ofNat, fun command payload buffer ↦ ?_⟩
  exact ⟨Frame.write?_isSome_iff, fun count written ↦ Frame.write?_eq_some⟩

/-- A frame whose payload holds a start byte and an end byte, between noise, in three pieces. -/
theorem feedAll_marked_payload :
    (new.feedAll [[0x41, 0x02, 0x03, 0x10], [], [0x02, 0x03, 0x7E, 0x0A, 0x03, 0x03]]).2 =
      [[0x10, 0x02, 0x03]] :=
  have hvalid : ∀ s ∈ [(⟨[0x41], 0x10, [0x02, 0x03]⟩ : Segment)], s.Valid :=
    List.forall_mem_singleton.2 ⟨by decide, by decide⟩
  have hquiet : Frame.start ∉ [0x03] := by decide
  (feedAll_segments rfl hvalid hquiet (by decide +kernel)).1

end Decoder

end BeaconGateway
