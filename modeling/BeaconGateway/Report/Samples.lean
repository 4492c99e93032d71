import BeaconGateway.Wire.Checksum

/-!
# Sensor samples in an advertisement

An advertisement is a row of structures, each a length byte followed by that many bytes. The first
byte of a structure is its type; manufacturer data then names the company, low byte first. The row
ends at a length of zero or at one that exceeds what is left; what came before still counts.

## Main definitions

* `structures` — the structures of an advertisement;
* `isSampleOf` — whether a structure is manufacturer data of a company;
* `countSamples` — how many structures are.
-/

namespace BeaconGateway

/-- The structures of an advertisement, without their length bytes. -/
def structures : List UInt8 → List (List UInt8)
  | [] => []
  | size :: rest =>
    if size = 0 ∨ rest.length < size.toNat then []
    else rest.take size.toNat :: structures (rest.drop size.toNat)
termination_by bytes => bytes.length
decreasing_by simp only [List.length_drop, List.length_cons]; omega

/-- The type byte of manufacturer data. -/
def manufacturerType : UInt8 := 0xFF

/-- Whether a structure is manufacturer data of a company. -/
def isSampleOf (company : UInt16) : List UInt8 → Bool
  | type :: low :: high :: _ => type == manufacturerType && Checksum.ofPair low high == company
  | _ => false

/-- How many structures of an advertisement are manufacturer data of a company, counted in sixteen
bits. -/
def countSamples (company : UInt16) (advertisement : List UInt8) : UInt16 :=
  UInt16.ofNat ((structures advertisement).countP (isSampleOf company))

end BeaconGateway
