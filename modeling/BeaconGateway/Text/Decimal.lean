/-!
# Decimal numerals

The numerals that the gateway's documents, topics and messages carry: no sign for a natural
number, no leading zeros, and a minus sign for a negative integer.

## Main definitions

* `Decimal.digits` — the decimal digits of a natural number, most significant first;
* `Decimal.value` — the number that a row of digits stands for;
* `Decimal.ofNat`, `Decimal.ofInt` — numerals as text;
* `Decimal.pad` — a numeral of at least a given width, filled with zeros.
-/

namespace BeaconGateway.Decimal

/-- The character of a digit below ten. -/
def digit (d : Nat) : Char :=
  Char.ofNat ('0'.toNat + d % 10)

/-- The decimal digits of `n`, most significant first. Zero has the one digit `0`. -/
def digits (n : Nat) : List Char :=
  if n < 10 then [digit n] else digits (n / 10) ++ [digit n]
termination_by n
decreasing_by omega

/-- The number that a digit stands for. -/
def digitValue (c : Char) : Nat :=
  c.toNat - '0'.toNat

/-- The number that a row of digits stands for; the empty row stands for zero. -/
def value (cs : List Char) : Nat :=
  cs.foldl (fun acc c ↦ acc * 10 + digitValue c) 0

/-- The numeral of a natural number. -/
def ofNat (n : Nat) : String :=
  String.ofList (digits n)

/-- The digits of an integer, after a minus sign if it is negative. -/
def signedDigits : Int → List Char
  | .ofNat n => digits n
  | .negSucc n => '-' :: digits (n + 1)

/-- The numeral of an integer. -/
def ofInt (i : Int) : String :=
  String.ofList (signedDigits i)

/-- The numeral of `n` with zeros in front up to `width` digits. -/
def pad (width n : Nat) : String :=
  let ds := digits n
  String.ofList (List.replicate (width - ds.length) '0' ++ ds)

/-! ### The value of written digits -/

theorem digitValue_digit (d : Nat) : digitValue (digit d) = d % 10 := by
  have h : d % 10 < 10 := Nat.mod_lt _ (by decide)
  unfold digitValue digit
  generalize d % 10 = k at h
  match k, h with
  | 0, _ | 1, _ | 2, _ | 3, _ | 4, _ | 5, _ | 6, _ | 7, _ | 8, _ | 9, _ => rfl

theorem value_concat (cs : List Char) (c : Char) :
    value (cs ++ [c]) = value cs * 10 + digitValue c := by
  simp [value, List.foldl_append]

/-- Written digits read back. -/
theorem value_digits (n : Nat) : value (digits n) = n := by
  fun_induction digits n with
  | case1 n h => simp [value, digitValue_digit, Nat.mod_eq_of_lt h]
  | case2 n h ih => rw [value_concat, ih, digitValue_digit]; omega

end BeaconGateway.Decimal
