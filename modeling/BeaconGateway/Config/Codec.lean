import BeaconGateway.Text.Bounded
import BeaconGateway.Text.Utf8

/-!
# Binary codecs

The stored configuration is a row of fields without names: each field is written after the one
before, and a reader takes its own bytes from the front and leaves the rest. A codec is such a
writer and reader, and codecs of fields compose to codecs of records.

Words above one byte are written in groups of seven bits, the lowest first, with the top bit set
in every byte but the last. A reader takes no more bytes than the largest word of its width needs,
and the last of them may hold only the bits that are left; it does take groups that are not needed.

## Main definitions

* `Codec` — a writer and a reader;
* `Codec.byte`, `Codec.flag`, `Codec.signedByte`, `Codec.word16`, `Codec.word32`, `Codec.text`,
  `Codec.oneOf` — codecs of fields;
* `Codec.andThen`, `Codec.convert` — codecs of records.
-/

namespace BeaconGateway

/-- A writer and a reader of values. The reader leaves the bytes after the value. -/
structure Codec (α : Type) where
  /-- The bytes of a value. -/
  write : α → List UInt8
  /-- The value at the front of some bytes and what follows it, if there is one. -/
  read? : List UInt8 → Option (α × List UInt8)

namespace Codec

/-! ### Groups of seven bits -/

/-- A number in groups of seven bits, the lowest first. -/
def writeGroups (n : Nat) : List UInt8 :=
  if n < 128 then [UInt8.ofNat n] else UInt8.ofNat (n % 128 + 128) :: writeGroups (n / 128)
termination_by n
decreasing_by omega

/-- A number in at most `count` groups, of which a `count`-th one is at most `last`. -/
def readGroups? : (count : Nat) → (last : Nat) → List UInt8 → Option (Nat × List UInt8)
  | 0, _, _ => none
  | _ + 1, _, [] => none
  | count + 1, last, b :: rest =>
    if b.toNat < 128 then
      if count = 0 ∧ last < b.toNat then none else some (b.toNat, rest)
    else
      (readGroups? count last rest).map fun (n, rest) ↦ (b.toNat - 128 + 128 * n, rest)

/-- The first `n` of some bytes and what follows them. -/
def takeBytes? (n : Nat) (bytes : List UInt8) : Option (List UInt8 × List UInt8) :=
  if bytes.length < n then none else some (bytes.take n, bytes.drop n)

/-! ### Codecs of fields -/

/-- One byte. -/
def byte : Codec UInt8 where
  write b := [b]
  read?
    | [] => none
    | b :: rest => some (b, rest)

/-- A byte with a sign, in two's complement. -/
def signedByte : Codec Int8 where
  write i := [i.toUInt8]
  read?
    | [] => none
    | b :: rest => some (b.toInt8, rest)

/-- A flag: zero or one. -/
def flag : Codec Bool where
  write b := [if b then 1 else 0]
  read?
    | [] => none
    | b :: rest => if b = 0 then some (false, rest) else if b = 1 then some (true, rest) else none

/-- A word of sixteen bits in at most three groups. -/
def word16 : Codec UInt16 where
  write w := writeGroups w.toNat
  read? bytes := (readGroups? 3 3 bytes).map fun (n, rest) ↦ (UInt16.ofNat n, rest)

/-- A word of thirty-two bits in at most five groups. -/
def word32 : Codec UInt32 where
  write w := writeGroups w.toNat
  read? bytes := (readGroups? 5 15 bytes).map fun (n, rest) ↦ (UInt32.ofNat n, rest)

/-- A length, which has sixty-four bits, in at most ten groups. -/
def length : Codec Nat where
  write := writeGroups
  read? := readGroups? 10 1

/-- Text after its length in bytes. Bytes that are not UTF-8, and text over the capacity, do not
read. -/
def text (cap : Nat) : Codec (BoundedText cap) where
  write t := length.write t.text.utf8ByteSize ++ utf8Bytes t.text
  read? bytes := do
    let (n, rest) ← length.read? bytes
    let (bytes, rest) ← takeBytes? n rest
    let s ← ofUtf8Bytes? bytes
    let t ← BoundedText.ofString? cap s
    return (t, rest)

/-- One of the listed values, by its place in the list. -/
def oneOf {α : Type} [BEq α] (values : List α) : Codec α where
  write a := writeGroups (values.idxOf a)
  read? bytes := do
    let (i, rest) ← readGroups? 5 15 bytes
    let a ← values[i]?
    return (a, rest)

/-! ### Codecs of records -/

/-- One value after another. -/
def andThen {α β : Type} (first : Codec α) (second : Codec β) : Codec (α × β) where
  write p := first.write p.1 ++ second.write p.2
  read? bytes := do
    let (a, rest) ← first.read? bytes
    let (b, rest) ← second.read? rest
    return ((a, b), rest)

/-- The same bytes for values of another type. -/
def convert {α β : Type} (c : Codec α) (pack : α → β) (unpack : β → α) : Codec β where
  write b := c.write (unpack b)
  read? bytes := (c.read? bytes).map fun (a, rest) ↦ (pack a, rest)

end Codec

end BeaconGateway
