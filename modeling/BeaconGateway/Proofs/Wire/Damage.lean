import BeaconGateway.Proofs.Wire.Stream

/-!
# Damaged frames through the decoder

A stream is a row of items, each of them a frame or what is left of one. Every kind of damage leaves
the decoder through an exit of its own: a wrong checksum by the end byte, a wrong end byte by
itself, a missing one by the start byte of the item behind it, a zero by the length.

Each exit but one leads back to hunting. A frame without an end byte leaves the decoder waiting for
it, and the start byte of the next item both ends the damaged frame and opens the next one; so the
decoder goes on with that item as if it had been hunting (`feed_closing_start`). With this an item
of any kind does the same to what follows it (`feed_item`), and a stream is an induction over its
items (`feed_items`).

## Main results

* `Decoder.feedAll_items` — a hunting decoder delivers the frames among the items, in order, and
  counts each of the others once, under its kind.
-/

namespace BeaconGateway

/-- What stands in a stream in the place of a frame. -/
inductive Item where
  /-- A frame. -/
  | frame (command : UInt8) (payload : List UInt8)
  /-- A frame with the checksum of something else. -/
  | wrongChecksum (body : List UInt8) (low high : UInt8)
  /-- A frame with any checksum, and with another byte in the place of the end byte. -/
  | wrongEnd (body : List UInt8) (low high last : UInt8)
  /-- A frame with any checksum, and without an end byte. -/
  | noEnd (body : List UInt8) (low high : UInt8)
  /-- A frame of length zero, which ends with its length byte. -/
  | noLength
  deriving DecidableEq

namespace Item

/-- A start byte, a length, a body and two bytes of checksum. -/
def unclosed (body : List UInt8) (low high : UInt8) : List UInt8 :=
  Frame.start :: UInt8.ofNat body.length :: (body ++ [low, high])

/-- The bytes on the wire. -/
def bytes : Item → List UInt8
  | frame command payload => Frame.bytes command payload
  | wrongChecksum body low high => unclosed body low high ++ [Frame.stop]
  | wrongEnd body low high last => unclosed body low high ++ [last]
  | noEnd body low high => unclosed body low high
  | noLength => [Frame.start, 0]

/-- A body that a length byte can tell the length of. -/
def Sized (body : List UInt8) : Prop :=
  body ≠ [] ∧ body.length ≤ Frame.maxBody

/-- The item is what its kind says. -/
def Valid : Item → Prop
  | frame _ payload => payload.length ≤ 254
  | wrongChecksum body low high => Sized body ∧ Checksum.ofPair low high ≠ Frame.checksum body
  | wrongEnd body _ _ last => Sized body ∧ last ≠ Frame.stop ∧ last ≠ Frame.start
  | noEnd body _ _ => Sized body
  | noLength => True

instance : DecidablePred Valid
  | frame _ payload => inferInstanceAs (Decidable (payload.length ≤ 254))
  | wrongChecksum body low high =>
    inferInstanceAs (Decidable ((body ≠ [] ∧ body.length ≤ Frame.maxBody) ∧
      Checksum.ofPair low high ≠ Frame.checksum body))
  | wrongEnd body _ _ last =>
    inferInstanceAs (Decidable ((body ≠ [] ∧ body.length ≤ Frame.maxBody) ∧
      last ≠ Frame.stop ∧ last ≠ Frame.start))
  | noEnd body _ _ => inferInstanceAs (Decidable (body ≠ [] ∧ body.length ≤ Frame.maxBody))
  | noLength => inferInstanceAs (Decidable True)

/-- The body that the item delivers. -/
def body? : Item → Option (List UInt8)
  | frame command payload => some (command :: payload)
  | _ => none

/-- Whether the end byte is missing. -/
def lacksEnd : Item → Bool
  | noEnd .. => true
  | _ => false

/-- Whether the item counts as a checksum error. -/
def isCrcError : Item → Bool
  | wrongChecksum .. => true
  | _ => false

/-- Whether the item counts as a framing error. -/
def isFramingError : Item → Bool
  | wrongEnd .. | noEnd .. | noLength => true
  | _ => false

/-- Count the item under its kind. -/
def count (stats : Decoder.Stats) : Item → Decoder.Stats
  | frame .. => stats.addFrame
  | wrongChecksum .. => stats.addCrcError
  | wrongEnd .. | noEnd .. | noLength => stats.addFramingError

/-- Every item begins with a start byte. -/
theorem head?_bytes (item : Item) : item.bytes.head? = some Frame.start := by
  cases item <;> rfl

end Item

namespace Decoder

variable (stats : Stats)

/-! ### One item -/

/-- **A start byte in the place of the end byte** ends one frame and opens the next, as if the
decoder had given up the first one before. -/
theorem feed_closing_start (length : UInt8) (body : List UInt8) (crc : UInt16)
    (rest : List UInt8) :
    feed ⟨.closing length body crc, stats⟩ (Frame.start :: rest) =
      feed ⟨.hunting, stats.addFramingError⟩ (Frame.start :: rest) := by
  have hclosing : push ⟨.closing length body crc, stats⟩ Frame.start =
      (⟨.length, stats.addFramingError⟩, none) := by
    have hstop : Frame.start ≠ Frame.stop := by decide
    simp only [push, close, if_pos hstop, if_true]
  have hhunting : push ⟨.hunting, stats.addFramingError⟩ Frame.start =
      (⟨.length, stats.addFramingError⟩, none) := by
    simp only [push, if_true]
  rw [feed, feed, hclosing, hhunting]

/-- What an end byte, or a byte in its place that opens no frame, leads to. -/
theorem feed_unclosed_append {body : List UInt8} (hbody : Item.Sized body) (low high last : UInt8) :
    feed ⟨.hunting, stats⟩ (Item.unclosed body low high ++ [last]) =
      ((close stats (UInt8.ofNat body.length) body (Checksum.ofPair low high) last).1,
        (close stats (UInt8.ofNat body.length) body (Checksum.ofPair low high) last).2.toList) := by
  rw [Item.unclosed, feed_append, feed_unclosed stats hbody.1 hbody.2]
  simp only [feed, push, List.nil_append, List.append_nil]

/-- **One item** delivers its body and is counted, and the decoder hunts behind it, or might as well
be hunting. -/
theorem feed_item {item : Item} (hitem : item.Valid) {rest : List UInt8}
    (hrest : item.lacksEnd = true → rest.head? = some Frame.start) :
    feed ⟨.hunting, stats⟩ (item.bytes ++ rest) =
      ((feed ⟨.hunting, item.count stats⟩ rest).1,
        item.body?.toList ++ (feed ⟨.hunting, item.count stats⟩ rest).2) := by
  cases item with
  | frame command payload =>
    have hframe : feed ⟨.hunting, stats⟩ (Frame.bytes command payload) =
        (⟨.hunting, stats.addFrame⟩, [command :: payload]) :=
      feed_frame stats (List.cons_ne_nil _ _) (Nat.succ_le_succ hitem)
    rw [Item.bytes, feed_append, hframe]
    rfl
  | wrongChecksum body low high =>
    have hclose : close stats (UInt8.ofNat body.length) body (Checksum.ofPair low high) Frame.stop =
        (⟨.hunting, stats.addCrcError⟩, none) := by
      rw [close, if_neg (not_not_intro rfl)]
      exact if_pos hitem.2
    rw [Item.bytes, feed_append, feed_unclosed_append stats hitem.1, hclose]
    rfl
  | wrongEnd body low high last =>
    have hclose : close stats (UInt8.ofNat body.length) body (Checksum.ofPair low high) last =
        (⟨.hunting, stats.addFramingError⟩, none) := by
      rw [close, if_pos hitem.2.1, if_neg hitem.2.2]
    rw [Item.bytes, feed_append, feed_unclosed_append stats hitem.1, hclose]
    rfl
  | noEnd body low high =>
    obtain ⟨rest, rfl⟩ := List.head?_eq_some_iff.1 (hrest rfl)
    rw [Item.bytes, Item.unclosed, feed_append, feed_unclosed stats hitem.1 hitem.2]
    dsimp only
    rw [feed_closing_start]
    rfl
  | noLength => rfl

/-! ### Streams of items -/

/-- The counters after as many frames and errors. -/
def Stats.plus (s : Stats) (frames crcErrors framingErrors : Nat) : Stats where
  frames := s.frames + UInt32.ofNat frames
  crcErrors := s.crcErrors + UInt32.ofNat crcErrors
  framingErrors := s.framingErrors + UInt32.ofNat framingErrors

/-- The counters after some items. -/
def Stats.countAll (s : Stats) (items : List Item) : Stats :=
  s.plus (items.countP fun item ↦ item.body?.isSome) (items.countP Item.isCrcError)
    (items.countP Item.isFramingError)

theorem Stats.countAll_cons (item : Item) (items : List Item) :
    (item.count stats).countAll items = stats.countAll (item :: items) := by
  simp only [countAll, plus, List.countP_cons]
  cases item <;>
    simp [Item.count, Item.body?, Item.isCrcError, Item.isFramingError, addFrame, addCrcError,
      addFramingError, add_one_add_ofNat]

/-- **Items one after another** deliver their bodies in order. -/
theorem feed_items {items : List Item} (hitems : ∀ item ∈ items, item.Valid)
    (hlast : ∀ item ∈ items.getLast?, item.lacksEnd = false) :
    feed ⟨.hunting, stats⟩ (items.flatMap Item.bytes) =
      (⟨.hunting, stats.countAll items⟩, items.filterMap Item.body?) := by
  induction items generalizing stats with
  | nil => simp [feed, Stats.countAll, Stats.plus]
  | cons item rest ih =>
    have hfollowed : item.lacksEnd = true →
        (rest.flatMap Item.bytes).head? = some Frame.start := by
      intro hlacks
      cases rest with
      | nil => exact absurd (hlacks.symm.trans (hlast item rfl)) (by decide)
      | cons next rest => rw [List.flatMap_cons, List.head?_append, next.head?_bytes]; rfl
    have hrest := ih (item.count stats)
      (fun item hitem ↦ hitems item (List.mem_cons_of_mem _ hitem))
      (fun last hmem ↦ hlast last (List.mem_getLast?_cons hmem))
    rw [List.flatMap_cons, feed_item stats (hitems item List.mem_cons_self) hfollowed, hrest,
      Stats.countAll_cons]
    cases hbody : item.body? <;> simp [hbody]

/-- **Damage to a frame costs no other frame.** A hunting decoder that is fed a stream of items, in
pieces of any size, delivers the bodies of the frames among them in order. It counts the frames, the
wrong checksums, and the frames with a wrong end byte, without one, or without a length, each once;
and it hunts again. An item without an end byte has another item behind it. -/
theorem feedAll_items {d : Decoder} (hd : d.state = .hunting) {items : List Item}
    (hitems : ∀ item ∈ items, item.Valid)
    (hlast : ∀ item ∈ items.getLast?, item.lacksEnd = false) {pieces : List (List UInt8)}
    (hpieces : pieces.flatten = items.flatMap Item.bytes) :
    (d.feedAll pieces).2 = items.filterMap Item.body? ∧
      (d.feedAll pieces).1.state = .hunting ∧
      (d.stats.frames.toNat + items.countP (fun item ↦ item.body?.isSome) < UInt32.size →
        (d.feedAll pieces).1.stats.frames.toNat =
          d.stats.frames.toNat + items.countP fun item ↦ item.body?.isSome) ∧
      (d.stats.crcErrors.toNat + items.countP Item.isCrcError < UInt32.size →
        (d.feedAll pieces).1.stats.crcErrors.toNat =
          d.stats.crcErrors.toNat + items.countP Item.isCrcError) ∧
      (d.stats.framingErrors.toNat + items.countP Item.isFramingError < UInt32.size →
        (d.feedAll pieces).1.stats.framingErrors.toNat =
          d.stats.framingErrors.toNat + items.countP Item.isFramingError) := by
  have hfeed : d.feedAll pieces =
      (⟨.hunting, d.stats.countAll items⟩, items.filterMap Item.body?) := by
    obtain ⟨state, stats⟩ := d
    cases hd
    rw [feedAll_eq, hpieces, feed_items stats hitems hlast]
  rw [hfeed]
  exact ⟨rfl, rfl, toNat_add_ofNat, toNat_add_ofNat, toNat_add_ofNat⟩

/-- A frame without its end byte, whose place the start byte of the next frame takes, and one frame
behind each other kind of damage. -/
theorem feedAll_damaged :
    let items : List Item :=
      [.noEnd [0x11] 0x0C 0x1B, .frame 0x11 [0x01], .wrongChecksum [0x02, 0x03] 0x02 0x02,
        .frame 0x12 [], .wrongEnd [0x02] 0x02 0x03 0x7E, .frame 0x12 [0x02], .noLength,
        .frame 0x10 [0x03]]
    (new.feedAll [items.flatMap Item.bytes]).2 =
        [[0x11, 0x01], [0x12], [0x12, 0x02], [0x10, 0x03]] ∧
      (new.feedAll [items.flatMap Item.bytes]).1.stats.crcErrors.toNat = 1 ∧
      (new.feedAll [items.flatMap Item.bytes]).1.stats.framingErrors.toNat = 3 := by
  intro items
  have hitems : ∀ item ∈ items, item.Valid := by decide +kernel
  have hlast : ∀ item ∈ items.getLast?, item.lacksEnd = false := by decide
  have hpieces : [items.flatMap Item.bytes].flatten = items.flatMap Item.bytes :=
    List.append_nil _
  have hnew : new.state = .hunting := rfl
  obtain ⟨hbodies, -, -, hcrc, hframing⟩ := feedAll_items hnew hitems hlast hpieces
  exact ⟨hbodies, hcrc (by decide), hframing (by decide)⟩

end Decoder

end BeaconGateway
