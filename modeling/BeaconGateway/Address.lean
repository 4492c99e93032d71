import BeaconGateway.Text.Hex

/-!
# Device addresses

A device address has six bytes, the most significant first. The gateway has one itself; it names
the gateway in every document, its access point and its host.

## Main definitions

* `Address` — a device address;
* `Address.text` — its text, `AA:BB:CC:DD:EE:FF`;
* `Address.ofBytes?` — the address in six bytes;
* `Address.accessPointName`, `Address.hostName` — names derived from the gateway's own address;
* `Address.simulated` — the address of a gateway that has no factory address.
-/

namespace BeaconGateway

/-- A device address of six bytes, the most significant first. -/
structure Address where
  b0 : UInt8
  b1 : UInt8
  b2 : UInt8
  b3 : UInt8
  b4 : UInt8
  b5 : UInt8
  deriving DecidableEq, Inhabited

namespace Address

/-- The address of no device: six zero bytes. -/
def zero : Address :=
  ⟨0, 0, 0, 0, 0, 0⟩

/-- The bytes of an address, the most significant first. -/
def toList (a : Address) : List UInt8 :=
  [a.b0, a.b1, a.b2, a.b3, a.b4, a.b5]

/-- The address in a row of exactly six bytes. -/
def ofBytes? : List UInt8 → Option Address
  | [b0, b1, b2, b3, b4, b5] => some ⟨b0, b1, b2, b3, b4, b5⟩
  | _ => none

/-- The characters of an address: its bytes in upper case with colons between them. -/
def write (a : Address) : List Char :=
  Hex.encodeByte .upper a.b0 ++ ':' :: Hex.encodeByte .upper a.b1 ++
    ':' :: Hex.encodeByte .upper a.b2 ++ ':' :: Hex.encodeByte .upper a.b3 ++
    ':' :: Hex.encodeByte .upper a.b4 ++ ':' :: Hex.encodeByte .upper a.b5

/-- The text of an address, such as `AA:BB:CC:DD:EE:FF`. -/
def text (a : Address) : String :=
  String.ofList a.write

/-- The name of the configuration access point: the last two bytes of the address. -/
def accessPointName (a : Address) : String :=
  "Gateway " ++ Hex.upper [a.b4, a.b5]

/-- The host name on the local network: the last three bytes of the address. -/
def hostName (a : Address) : String :=
  "gateway-" ++ Hex.lower [a.b3, a.b4, a.b5]

/-- The address of a gateway that has no factory address to read. -/
def simulated : Address :=
  ⟨0xDE, 0xAD, 0xBE, 0xEF, 0xCA, 0xFE⟩

theorem ofBytes?_toList (a : Address) : ofBytes? a.toList = some a :=
  rfl

end Address

end BeaconGateway
