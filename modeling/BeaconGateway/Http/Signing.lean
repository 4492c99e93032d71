import BeaconGateway.Hash.Hmac
import BeaconGateway.Text.Base64
import BeaconGateway.Text.Hex
import BeaconGateway.Text.Utf8

/-!
# Credentials and signatures of requests

A request carries the endpoint's credentials if a user is set. Once the backend has handed out a
key, a request also carries a signature of its body under that key.

## Main definitions

* `basicCredentials` — user and password as a request carries them;
* `SigningKey` — a key of one to 64 bytes;
* `SigningKey.signature` — the signature of a body.
-/

namespace BeaconGateway

/-- User and password as a request carries them; nothing without a user. -/
def basicCredentials (user password : String) : Option String :=
  if user.isEmpty then none
  else some ("Basic " ++ Base64.text (utf8Bytes (user ++ ":" ++ password)))

/-- The signature of a body under a key: the keyed digest in lower-case hexadecimal digits. -/
def bodySignature (key : List UInt8) (body : String) : String :=
  Hex.lower (Hmac.sign key (utf8Bytes body))

/-- The most bytes that a key may have. -/
def maxSigningKey : Nat := 64

/-- A key that the backend handed out: one to 64 bytes. -/
structure SigningKey where
  /-- The key. -/
  text : String
  /-- It has at least one byte. -/
  nonempty : text ≠ ""
  /-- It has at most 64 bytes. -/
  fits : text.utf8ByteSize ≤ maxSigningKey
  deriving DecidableEq

namespace SigningKey

/-- Accept a key of one to 64 bytes. -/
def ofString? (s : String) : Option SigningKey :=
  if h : s ≠ "" ∧ s.utf8ByteSize ≤ maxSigningKey then some ⟨s, h.1, h.2⟩ else none

/-- The signature of a body under the key. -/
def signature (k : SigningKey) (body : String) : String :=
  bodySignature (utf8Bytes k.text) body

end SigningKey

end BeaconGateway
