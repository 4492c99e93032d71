import BeaconGateway.Config.Codec
import Mathlib.Algebra.Group.Nat.Defs
import Mathlib.Data.List.Basic

/-!
# Lawful codecs

A row of fields without names can only be read if every reader takes exactly what the writer wrote.
Two laws say so, and both are about bytes that follow: what is written is read back in front of any
bytes, and what has been read from some bytes is read from more bytes as well. The first is about
the writer's bytes alone; the second is about all bytes, and a law of the reader alone (`Stands`),
kept by every way in which readers are put together.

The second law is what deals with bytes that are missing. A reader that made something of a part of
what was written would make the same of the whole, and leave over the rest of it; but of the whole
it leaves nothing over.

## Main results

* `Codec.Stands` — readers whose answers stand when more bytes come;
* `Codec.Lawful` — the two laws;
* `Codec.Lawful.read?_eq_none`, `Codec.Lawful.eq_of_write_prefix` — nothing is made of a part, and
  so no value's bytes begin another's;
* `Codec.Lawful.andThen`, `Codec.Lawful.convert` — records of lawful fields are lawful;
* `Codec.lawful_flag`, `Codec.lawful_word16`, `Codec.lawful_text`, … — the fields.
-/

namespace BeaconGateway.Codec

variable {α β : Type}

/-! ### Readers -/

/-- What has been read is read in front of more bytes too, and these are left over. -/
def Stands (read? : List UInt8 → Option (α × List UInt8)) : Prop :=
  ∀ ⦃bytes a rest⦄, read? bytes = some (a, rest) → ∀ more,
    read? (bytes ++ more) = some (a, rest ++ more)

namespace Stands

variable {first? : List UInt8 → Option (α × List UInt8)}

/-- Nothing is read. -/
theorem pure (a : α) : Stands fun rest ↦ some (a, rest) := by
  rintro bytes a rest ⟨⟩ more
  rfl

/-- What is found without reading decides how to read on. -/
theorem find (found : Option α) {second? : α → List UInt8 → Option (β × List UInt8)}
    (hsecond : ∀ a, Stands (second? a)) : Stands fun bytes ↦ found.bind (second? · bytes) := by
  cases found with
  | none => rintro bytes b rest ⟨⟩
  | some a => exact hsecond a

/-- What is read decides how to read on. -/
theorem bind (hfirst : Stands first?) {second? : α → List UInt8 → Option (β × List UInt8)}
    (hsecond : ∀ a, Stands (second? a)) :
    Stands fun bytes ↦ (first? bytes).bind fun (a, rest) ↦ second? a rest := by
  intro bytes b rest hread more
  obtain ⟨⟨a, left⟩, hreadFirst, hreadSecond⟩ := Option.bind_eq_some_iff.1 hread
  dsimp only
  rw [hfirst hreadFirst more, Option.bind_some]
  exact hsecond a hreadSecond more

/-- What is read is turned into something else. -/
theorem map (hfirst : Stands first?) (f : α → β) :
    Stands fun bytes ↦ (first? bytes).map fun (a, rest) ↦ (f a, rest) := by
  intro bytes b rest hread more
  obtain ⟨⟨a, left⟩, hreadFirst, hsame⟩ := Option.map_eq_some_iff.1 hread
  dsimp only
  rw [hfirst hreadFirst more, Option.map_some]
  cases hsame
  rfl

end Stands

/-! ### Codecs -/

/-- **The laws of a codec.** -/
structure Lawful (c : Codec α) : Prop where
  /-- What is written is read back, whatever follows. -/
  read?_write : ∀ a rest, c.read? (c.write a ++ rest) = some (a, rest)
  /-- What has been read stands. -/
  stands : Stands c.read?

namespace Lawful

variable {c : Codec α} {d : Codec β}

/-- The bytes of a value and nothing else. -/
theorem read?_write_self (hlawful : c.Lawful) (a : α) : c.read? (c.write a) = some (a, []) := by
  rw [← List.append_nil (c.write a)]
  exact hlawful.read?_write a []

/-- **Nothing is made of a part** of the bytes of a value. -/
theorem read?_eq_none (hlawful : c.Lawful) {a : α} {part : List UInt8}
    (hbegins : part <+: c.write a)
    (hshort : part ≠ c.write a) : c.read? part = none := by
  obtain ⟨missing, hwhole⟩ := hbegins
  rw [Option.eq_none_iff_forall_ne_some]
  rintro ⟨other, rest⟩ hread
  -- the whole would read as the part did, with the missing bytes left over
  have hleft := hlawful.stands hread missing
  rw [hwhole, hlawful.read?_write_self, Option.some.injEq, Prod.mk.injEq] at hleft
  have hnone_missing : missing = [] := (List.append_eq_nil_iff.1 hleft.2.symm).2
  rw [hnone_missing, List.append_nil] at hwhole
  exact hshort hwhole

/-- **No value's bytes begin another's**, and no two values have the same bytes. -/
theorem eq_of_write_prefix (hlawful : c.Lawful) {a b : α} (hbegins : c.write a <+: c.write b) :
    a = b := by
  obtain ⟨more, hwhole⟩ := hbegins
  have hboth := hlawful.read?_write a more
  rw [hwhole, hlawful.read?_write_self, Option.some.injEq, Prod.mk.injEq] at hboth
  exact hboth.1.symm

/-! ### Records -/

/-- One value after another. -/
theorem andThen (hfirst : c.Lawful) (hsecond : d.Lawful) : (c.andThen d).Lawful where
  read?_write p rest := by
    rw [Codec.andThen, List.append_assoc]
    simp only [hfirst.read?_write, hsecond.read?_write, Option.bind_eq_bind, Option.bind_some]
    rfl
  stands := hfirst.stands.bind fun a ↦ hsecond.stands.bind fun b ↦ .pure (a, b)

/-- The same bytes for values of another type, if these are unpacked from what they are packed
into. -/
theorem convert (hlawful : c.Lawful) {pack : α → β} {unpack : β → α}
    (hpacked : ∀ b, pack (unpack b) = b) : (c.convert pack unpack).Lawful where
  read?_write b rest := by
    simp only [Codec.convert, hlawful.read?_write, Option.map_some, hpacked]
  stands := hlawful.stands.map pack

end Lawful

/-! ### Groups of seven bits -/

theorem toNat_byte {n : Nat} (hsmall : n < 256) : (UInt8.ofNat n).toNat = n :=
  UInt8.toNat_ofNat_of_lt' hsmall

/-- A number is read back from its groups, if there are enough of them. -/
theorem readGroups?_writeGroups {count last n : Nat} (hnarrow : last < 128)
    (hfits : n < (last + 1) * 128 ^ count) (rest : List UInt8) :
    readGroups? (count + 1) last (writeGroups n ++ rest) = some (n, rest) := by
  induction count generalizing n with
  | zero =>
    have hsmall : n < 128 := by omega
    rw [writeGroups, if_pos hsmall, List.singleton_append, readGroups?, toNat_byte (by omega),
      if_pos hsmall, if_neg (by omega)]
  | succ count ih =>
    rw [writeGroups]
    split_ifs with hsmall
    · rw [List.singleton_append, readGroups?, toNat_byte (by omega), if_pos hsmall,
        if_neg (by omega)]
    · have hhigher : n / 128 < (last + 1) * 128 ^ count := by
        rw [Nat.div_lt_iff_lt_mul (by decide), Nat.mul_assoc, ← Nat.pow_succ]
        exact hfits
      rw [List.cons_append, readGroups?, toNat_byte (by omega), if_neg (by omega), ih hhigher,
        Option.map_some]
      dsimp only
      rw [Nat.add_sub_cancel, Nat.mod_add_div]

theorem stands_readGroups? (count last : Nat) : Stands (readGroups? count last) := by
  intro bytes n rest hread more
  fun_induction readGroups? count last bytes generalizing n rest with
  | case1 => cases hread
  | case2 => cases hread
  | case3 => cases hread
  | case4 count last b tail hsmall hfits =>
    obtain ⟨rfl, rfl⟩ : b.toNat = n ∧ tail = rest := by simpa using hread
    rw [List.cons_append, readGroups?, if_pos hsmall, if_neg hfits]
  | case5 count last b tail hlarge ih =>
    obtain ⟨⟨higher, left⟩, hreadHigher, hsame⟩ := Option.map_eq_some_iff.1 hread
    rw [List.cons_append, readGroups?, if_neg hlarge, ih hreadHigher, Option.map_some]
    cases hsame
    rfl

/-- Words are read back from the groups of their numbers. -/
theorem lawful_word (count last : Nat) {number : α → Nat} {value : Nat → α} (hnarrow : last < 128)
    (hfits : ∀ a, number a < (last + 1) * 128 ^ count) (hknown : ∀ a, value (number a) = a) :
    Lawful {
      write := fun a ↦ writeGroups (number a)
      read? := fun bytes ↦
        (readGroups? (count + 1) last bytes).map fun (n, rest) ↦ (value n, rest) } where
  read?_write a rest := by
    dsimp only
    rw [readGroups?_writeGroups hnarrow (hfits a), Option.map_some, hknown]
  stands := (stands_readGroups? (count + 1) last).map value

/-! ### Fields -/

theorem lawful_byte : byte.Lawful where
  read?_write _ _ := rfl
  stands bytes a rest hread more := by
    cases bytes with
    | nil => cases hread
    | cons => cases hread; rfl

theorem lawful_signedByte : signedByte.Lawful where
  read?_write i rest := by
    show some (i.toUInt8.toInt8, rest) = some (i, rest)
    rw [Int8.toInt8_toUInt8]
  stands bytes a rest hread more := by
    cases bytes with
    | nil => cases hread
    | cons => cases hread; rfl

theorem lawful_flag : flag.Lawful where
  read?_write b rest := by cases b <;> rfl
  stands bytes a rest hread more := by
    cases bytes with
    | nil => cases hread
    | cons b tail =>
      dsimp only [flag, List.cons_append] at hread ⊢
      split_ifs at hread ⊢ <;> cases hread <;> rfl

theorem lawful_word16 : word16.Lawful :=
  lawful_word 2 3 (by decide) UInt16.toNat_lt fun _ ↦ UInt16.ofNat_toNat

theorem lawful_word32 : word32.Lawful :=
  lawful_word 4 15 (by decide) UInt32.toNat_lt fun _ ↦ UInt32.ofNat_toNat

/-- One of fewer values than there are words, if all are listed. -/
theorem lawful_oneOf [BEq α] [LawfulBEq α] {values : List α} (hlisted : ∀ a, a ∈ values)
    (hfew : values.length ≤ UInt32.size) : (oneOf values).Lawful where
  read?_write a rest := by
    have hplace : values.idxOf a < values.length := List.idxOf_lt_length_iff.2 (hlisted a)
    have hfound : values[values.idxOf a]? = some a := by
      rw [List.getElem?_eq_getElem hplace, List.getElem_idxOf]
    have hgroups : readGroups? 5 15 (writeGroups (values.idxOf a) ++ rest) =
        some (values.idxOf a, rest) :=
      readGroups?_writeGroups (by decide) (Nat.lt_of_lt_of_le hplace hfew) rest
    simp only [oneOf, hgroups, hfound, Option.bind_eq_bind, Option.bind_some]
    rfl
  stands := (stands_readGroups? 5 15).bind fun i ↦ .find values[i]? .pure

theorem stands_takeBytes? (n : Nat) : Stands (takeBytes? n) := by
  intro bytes first rest htaken more
  rw [takeBytes?] at htaken ⊢
  split_ifs at htaken with hshort
  obtain ⟨rfl, rfl⟩ : bytes.take n = first ∧ bytes.drop n = rest := by simpa using htaken
  have henough : n ≤ bytes.length := Nat.le_of_not_lt hshort
  rw [if_neg (by rw [List.length_append]; omega), List.take_append_of_le_length henough,
    List.drop_append_of_le_length henough]

/-- Text up to a capacity that a length can tell. -/
theorem lawful_text {cap : Nat} (htellable : cap < 2 ^ 64) : (text cap).Lawful where
  read?_write t rest := by
    have hsize : length.read? (length.write t.text.utf8ByteSize ++ (utf8Bytes t.text ++ rest)) =
        some (t.text.utf8ByteSize, utf8Bytes t.text ++ rest) :=
      readGroups?_writeGroups (by decide) (Nat.lt_of_le_of_lt t.fits htellable) _
    have hbytes : takeBytes? t.text.utf8ByteSize (utf8Bytes t.text ++ rest) =
        some (utf8Bytes t.text, rest) := by
      rw [← length_utf8Bytes, takeBytes?, if_neg (by rw [List.length_append]; omega),
        List.take_left, List.drop_left]
    have hfits : BoundedText.ofString? cap t.text = some t := dif_pos t.fits
    simp only [text, List.append_assoc, hsize, hbytes, ofUtf8Bytes?_utf8Bytes, hfits,
      Option.bind_eq_bind, Option.bind_some]
    rfl
  stands := (stands_readGroups? 10 1).bind fun size ↦ (stands_takeBytes? size).bind fun bytes ↦
    .find (ofUtf8Bytes? bytes) fun s ↦ .find (BoundedText.ofString? cap s) .pure

end BeaconGateway.Codec
