/-!
# Hexadecimal text

Bytes as two hexadecimal digits each. Payloads and device addresses are written in upper case,
signatures and host names in lower case.

## Main definitions

* `Hex.Letters` — which letters stand for the digits above nine;
* `Hex.encode`, `Hex.upper`, `Hex.lower` — bytes as text;
* `Hex.decode?` — text as bytes, either case accepted.
-/

namespace BeaconGateway.Hex

/-- The case of the digits `a` to `f`. -/
inductive Letters where
  | lower
  | upper
  deriving DecidableEq

/-- The digits in order of their value. -/
def Letters.digits : Letters → List Char
  | .lower => ['0', '1', '2', '3', '4', '5', '6', '7', '8', '9', 'a', 'b', 'c', 'd', 'e', 'f']
  | .upper => ['0', '1', '2', '3', '4', '5', '6', '7', '8', '9', 'A', 'B', 'C', 'D', 'E', 'F']

/-- The digit of a value below sixteen. -/
def digit (letters : Letters) (d : Nat) : Char :=
  letters.digits.getD d '0'

/-- A byte as its high digit and its low digit. -/
def encodeByte (letters : Letters) (b : UInt8) : List Char :=
  [digit letters (b.toNat / 16), digit letters (b.toNat % 16)]

/-- Bytes as digits, two a byte. -/
def encode (letters : Letters) (bytes : List UInt8) : List Char :=
  bytes.flatMap (encodeByte letters)

/-- Bytes as upper-case text. -/
def upper (bytes : List UInt8) : String :=
  String.ofList (encode .upper bytes)

/-- Bytes as lower-case text. -/
def lower (bytes : List UInt8) : String :=
  String.ofList (encode .lower bytes)

/-- The value of a digit of either case. -/
def digitValue? (c : Char) : Option Nat :=
  if c.isDigit then some (c.toNat - '0'.toNat)
  else if 'a' ≤ c ∧ c ≤ 'f' then some (c.toNat - 'a'.toNat + 10)
  else if 'A' ≤ c ∧ c ≤ 'F' then some (c.toNat - 'A'.toNat + 10)
  else none

/-- The bytes that a row of digits stands for, `none` if a character is not a digit or a digit is
left over. -/
def decode? : List Char → Option (List UInt8)
  | [] => some []
  | [_] => none
  | hi :: lo :: rest => do
    let h ← digitValue? hi
    let l ← digitValue? lo
    let bytes ← decode? rest
    return UInt8.ofNat (16 * h + l) :: bytes

/-! ### Written bytes read back -/

theorem digitValue?_digit (letters : Letters) :
    ∀ d < 16, digitValue? (digit letters d) = some d := by
  cases letters <;> decide

/-- Bytes written in either case read back. -/
theorem decode?_encode (letters : Letters) (bytes : List UInt8) :
    decode? (encode letters bytes) = some bytes := by
  induction bytes with
  | nil => rfl
  | cons b rest ih =>
    have hb : b.toNat < 256 := b.toNat_lt
    have hhi := digitValue?_digit letters (b.toNat / 16) (by omega)
    have hlo := digitValue?_digit letters (b.toNat % 16) (by omega)
    have hsum : UInt8.ofNat (16 * (b.toNat / 16) + b.toNat % 16) = b := by
      rw [Nat.div_add_mod]; exact UInt8.ofNat_toNat
    have hrest : decode? (rest.flatMap (encodeByte letters)) = some rest := ih
    show decode? (digit letters (b.toNat / 16) :: digit letters (b.toNat % 16)
      :: rest.flatMap (encodeByte letters)) = _
    simp only [decode?, hhi, hlo, hrest, Option.bind_eq_bind, Option.bind_some,
      Option.pure_def, hsum]

/-- Each byte takes two digits. -/
theorem length_encode (letters : Letters) (bytes : List UInt8) :
    (encode letters bytes).length = 2 * bytes.length := by
  induction bytes with
  | nil => rfl
  | cons b rest ih =>
    have hrest : (rest.flatMap (encodeByte letters)).length = 2 * rest.length := ih
    simp [encode, encodeByte, hrest]
    omega

/-- Two digits are read as one byte. -/
theorem length_eq_of_decode? {cs : List Char} {bytes : List UInt8}
    (hdecoded : decode? cs = some bytes) : cs.length = 2 * bytes.length := by
  fun_induction decode? cs generalizing bytes with
  | case1 => obtain rfl := Option.some.inj hdecoded; rfl
  | case2 => cases hdecoded
  | case3 hi lo rest ih =>
    simp only [Option.bind_eq_bind, Option.bind_eq_some_iff, Option.pure_def] at hdecoded
    obtain ⟨-, -, -, -, bytes, hrest_decoded, ⟨⟩⟩ := hdecoded
    simp only [List.length_cons, ih hrest_decoded]
    omega

end BeaconGateway.Hex
