/-!
# Base64

The standard alphabet with padding: three bytes become four digits of six bits each, and a last
group of one or two bytes is filled up with `=`.

## Main definitions

* `Base64.encode` — bytes as digits;
* `Base64.text` — bytes as text.
-/

namespace BeaconGateway.Base64

/-- The digits in order of their value. -/
def alphabet : List Char :=
  "ABCDEFGHIJKLMNOPQRSTUVWXYZabcdefghijklmnopqrstuvwxyz0123456789+/".toList

/-- The digit of a value below sixty-four. -/
def digit (d : Nat) : Char :=
  alphabet.getD d 'A'

/-- Bytes as digits, a group of up to three bytes at a time. -/
def encode : List UInt8 → List Char
  | [] => []
  | [a] =>
    let n := a.toNat * 65536
    [digit (n / 262144), digit (n / 4096 % 64), '=', '=']
  | [a, b] =>
    let n := a.toNat * 65536 + b.toNat * 256
    [digit (n / 262144), digit (n / 4096 % 64), digit (n / 64 % 64), '=']
  | a :: b :: c :: rest =>
    let n := a.toNat * 65536 + b.toNat * 256 + c.toNat
    digit (n / 262144) :: digit (n / 4096 % 64) :: digit (n / 64 % 64) :: digit (n % 64)
      :: encode rest

/-- Bytes as text. -/
def text (bytes : List UInt8) : String :=
  String.ofList (encode bytes)

end BeaconGateway.Base64
