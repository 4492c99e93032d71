import BeaconGateway.Text.Base64

/-!
# Base64 reads back

Four digits of six bits stand for three bytes. A last group stands for fewer: it is filled up with
one `=` if it stands for two bytes, and with two if it stands for one. The reader here is written
from that rule and shares nothing with the writer but the alphabet's order, so that what it reads
back fixes what was written.

## Main definitions

* `Base64.decode?` — the bytes that digits stand for.

## Main results

* `Base64.decode?_encode` — the digits of bytes stand for these bytes.
-/

namespace BeaconGateway.Base64

/-- The value of a digit, `none` if a character is not a digit. -/
def digitValue? (c : Char) : Option Nat :=
  if 'A' ≤ c ∧ c ≤ 'Z' then some (c.toNat - 'A'.toNat)
  else if 'a' ≤ c ∧ c ≤ 'z' then some (c.toNat - 'a'.toNat + 26)
  else if c.isDigit then some (c.toNat - '0'.toNat + 52)
  else if c = '+' then some 62
  else if c = '/' then some 63
  else none

/-- The bytes that a group of four digits stands for: three, or fewer if it is filled up. -/
def group? (c₁ c₂ c₃ c₄ : Char) : Option (List UInt8) := do
  let d₁ ← digitValue? c₁
  let d₂ ← digitValue? c₂
  let first := UInt8.ofNat (4 * d₁ + d₂ / 16)
  if c₃ = '=' ∧ c₄ = '=' then return [first]
  let d₃ ← digitValue? c₃
  let second := UInt8.ofNat (16 * (d₂ % 16) + d₃ / 4)
  if c₄ = '=' then return [first, second]
  let d₄ ← digitValue? c₄
  return [first, second, UInt8.ofNat (64 * (d₃ % 4) + d₄)]

/-- The bytes that a row of digits stands for, `none` if it is no row of groups, or if a group other
than the last is filled up. -/
def decode? : List Char → Option (List UInt8)
  | [] => some []
  | c₁ :: c₂ :: c₃ :: c₄ :: rest => do
    let bytes ← group? c₁ c₂ c₃ c₄
    let others ← decode? rest
    if bytes.length = 3 ∨ rest = [] then return bytes ++ others else none
  | _ => none

/-! ### Written bytes read back -/

theorem digitValue?_digit : ∀ d < 64, digitValue? (digit d) = some d := by
  decide +kernel

/-- No digit is taken for one that fills a group up. -/
theorem digit_ne_fill : ∀ d < 64, digit d ≠ '=' := by
  decide +kernel

theorem group?_one {d₁ d₂ : Nat} (h₁ : d₁ < 64) (h₂ : d₂ < 64) :
    group? (digit d₁) (digit d₂) '=' '=' = some [UInt8.ofNat (4 * d₁ + d₂ / 16)] := by
  simp [group?, digitValue?_digit d₁ h₁, digitValue?_digit d₂ h₂]

theorem group?_two {d₁ d₂ d₃ : Nat} (h₁ : d₁ < 64) (h₂ : d₂ < 64) (h₃ : d₃ < 64) :
    group? (digit d₁) (digit d₂) (digit d₃) '=' =
      some [UInt8.ofNat (4 * d₁ + d₂ / 16), UInt8.ofNat (16 * (d₂ % 16) + d₃ / 4)] := by
  simp [group?, digitValue?_digit d₁ h₁, digitValue?_digit d₂ h₂, digitValue?_digit d₃ h₃,
    digit_ne_fill d₃ h₃]

theorem group?_three {d₁ d₂ d₃ d₄ : Nat} (h₁ : d₁ < 64) (h₂ : d₂ < 64) (h₃ : d₃ < 64)
    (h₄ : d₄ < 64) :
    group? (digit d₁) (digit d₂) (digit d₃) (digit d₄) =
      some [UInt8.ofNat (4 * d₁ + d₂ / 16), UInt8.ofNat (16 * (d₂ % 16) + d₃ / 4),
        UInt8.ofNat (64 * (d₃ % 4) + d₄)] := by
  simp [group?, digitValue?_digit d₁ h₁, digitValue?_digit d₂ h₂, digitValue?_digit d₃ h₃,
    digitValue?_digit d₄ h₄, digit_ne_fill d₄ h₄]

/-- A byte is the one whose number it has. -/
theorem ofNat_eq {n : Nat} {b : UInt8} (h : n = b.toNat) : UInt8.ofNat n = b := by
  rw [h, UInt8.ofNat_toNat]

/-- **Bytes written as digits read back.** -/
theorem decode?_encode (bytes : List UInt8) : decode? (encode bytes) = some bytes := by
  fun_induction encode bytes with
  | case1 => rfl
  | case2 a n =>
    have ha : a.toNat < 256 := a.toNat_lt
    rw [decode?, group?_one (by omega) (by omega), ofNat_eq (b := a) (by omega)]
    rfl
  | case3 a b n =>
    have ha : a.toNat < 256 := a.toNat_lt
    have hb : b.toNat < 256 := b.toNat_lt
    rw [decode?, group?_two (by omega) (by omega) (by omega), ofNat_eq (b := a) (by omega),
      ofNat_eq (b := b) (by omega)]
    rfl
  | case4 a b c rest n ih =>
    have ha : a.toNat < 256 := a.toNat_lt
    have hb : b.toNat < 256 := b.toNat_lt
    have hc : c.toNat < 256 := c.toNat_lt
    rw [decode?, group?_three (by omega) (by omega) (by omega) (by omega),
      ofNat_eq (b := a) (by omega), ofNat_eq (b := b) (by omega), ofNat_eq (b := c) (by omega), ih]
    rfl

/-- The text of bytes reads back. -/
theorem decode?_text (bytes : List UInt8) : decode? (text bytes).toList = some bytes := by
  rw [text, String.toList_ofList, decode?_encode]

end BeaconGateway.Base64
