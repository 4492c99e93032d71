import BeaconGateway.Config.Blob
import BeaconGateway.Config.Validation
import BeaconGateway.Error

/-!
# The store

A store of bytes under names. A name is made of a namespace and a key with `::` between them. The
configuration has its place in the store; it is checked before it is written, so what is stored was
valid when it was stored.

## Main definitions

* `Storage` — the store;
* `Storage.read`, `Storage.write`, `Storage.delete`, `Storage.contains` — bytes under names;
* `Storage.loadConfig`, `Storage.saveConfig`, `Storage.eraseConfig` — the configuration.
-/

namespace BeaconGateway

/-- Bytes under names. -/
structure Storage where
  /-- The names and their bytes; a name stands there at most once. -/
  entries : List (String × List UInt8)

namespace Storage

/-- A store with nothing in it. -/
def empty : Storage :=
  ⟨[]⟩

/-- The name of a key in a namespace. -/
def name (space key : String) : String :=
  space ++ "::" ++ key

/-- The bytes of a key. -/
def get? (s : Storage) (space key : String) : Option (List UInt8) :=
  s.entries.lookup (name space key)

/-- Remove a key, whether it is there or not. -/
def delete (s : Storage) (space key : String) : Storage :=
  ⟨s.entries.filter fun entry ↦ entry.1 != name space key⟩

/-- Put bytes under a key in place of those that were there. -/
def write (s : Storage) (space key : String) (bytes : List UInt8) : Storage :=
  ⟨(name space key, bytes) :: (s.delete space key).entries⟩

/-- Read at most `room` bytes of a key. -/
def read (s : Storage) (space key : String) (room : Nat) : Except StorageError (List UInt8) :=
  match s.get? space key with
  | some bytes => .ok (bytes.take room)
  | none => .error .notFound

/-- Whether a key is there. -/
def contains (s : Storage) (space key : String) : Bool :=
  (s.get? space key).isSome

/-! ### The configuration in the store -/

/-- The namespace of the configuration. -/
def configSpace : String := "gw_cfg"

/-- The key of the configuration. -/
def configKey : String := "config"

/-- The stored configuration. -/
def loadConfig (s : Storage) : Except ConfigError Config :=
  match s.get? configSpace configKey with
  | none => .error .notFound
  | some bytes =>
    match Config.ofBlob? bytes with
    | some c => .ok c
    | none => .error .corrupted

/-- Check a configuration and store it. A refused one leaves the store as it is. -/
def saveConfig (s : Storage) (c : Config) : Except ConfigError Unit × Storage :=
  match c.validate with
  | .error e => (.error e, s)
  | .ok () => (.ok (), s.write configSpace configKey c.toBlob)

/-- Forget the stored configuration. -/
def eraseConfig (s : Storage) : Storage :=
  s.delete configSpace configKey

end Storage

end BeaconGateway
