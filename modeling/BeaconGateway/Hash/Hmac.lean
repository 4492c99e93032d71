import BeaconGateway.Hash.Sha256

/-!
# HMAC-SHA256

The keyed digest of RFC 2104 over SHA-256. A key longer than a block is replaced by its digest,
and a shorter one is filled up with zeros.

## Main definitions

* `Hmac.blockKey` — the key brought to the size of a block;
* `Hmac.sign` — the keyed digest of a message.
-/

namespace BeaconGateway.Hmac

/-- The key brought to the size of a block. -/
def blockKey (key : List UInt8) : List UInt8 :=
  let short := if key.length > Sha256.blockSize then Sha256.digest key else key
  short ++ List.replicate (Sha256.blockSize - short.length) 0

/-- The keyed digest of a message. -/
def sign (key message : List UInt8) : List UInt8 :=
  let k := blockKey key
  let inner := Sha256.digest (k.map (· ^^^ 0x36) ++ message)
  Sha256.digest (k.map (· ^^^ 0x5c) ++ inner)

end BeaconGateway.Hmac
