import BeaconGateway.Text.Decimal
import BeaconGateway.Text.Hex

/-!
# Errors

Why an operation was refused or failed. Each kind of error is a type of causes, and each cause has
one wording. `Error` gathers the causes that reach the tasks; its wording names the part of the
gateway in front of the cause.

## Main definitions

* `TableError`, `FrameError`, `CommsError` — causes in the table, in a report frame, and in a
  transport;
* `Error` — all of these, a failed start, and a rejected configuration;
* `ConfigError`, `StorageError` — causes in the stored configuration and in the key-value store.
-/

namespace BeaconGateway

/-- Why the report table refused a report. -/
inductive TableError where
  /-- The least recently touched slot still waits to be relayed. -/
  | full
  deriving DecidableEq

/-- The wording of a table error. -/
def TableError.message : TableError → String
  | .full => "table full, pending retransmission"

/-- Why a report frame was rejected. -/
inductive FrameError where
  /-- There is no frame, or it has no bytes. -/
  | missing
  /-- The command byte is not that of a report. -/
  | wrongCommand (byte : UInt8)
  /-- The frame has `length` bytes, fewer than the `needed` ones that it declares. -/
  | truncated (length needed : Nat)
  /-- The declared payload of `length` bytes is longer than the `limit` of a record. -/
  | payloadTooLong (length limit : Nat)
  deriving DecidableEq

/-- The wording of a frame error. -/
def FrameError.message : FrameError → String
  | .missing => "null frame"
  | .wrongCommand byte => "unexpected command 0x" ++ Hex.upper [byte]
  | .truncated length needed =>
    "truncated frame (" ++ Decimal.ofNat length ++ " bytes, need " ++ Decimal.ofNat needed ++ ")"
  | .payloadTooLong length limit =>
    "payload too long (" ++ Decimal.ofNat length ++ " bytes, max " ++ Decimal.ofNat limit ++ ")"

/-- Why a transport did not deliver. -/
inductive CommsError where
  /-- There is no connection. -/
  | notConnected
  /-- The request did not get through. -/
  | httpSendFailed
  /-- The backend answered with a status outside the 200s. -/
  | httpStatus (code : UInt16)
  /-- The broker client refused the message. -/
  | mqttPublishFailed
  /-- The serial link failed. -/
  | serialFailed
  /-- The message does not fit. -/
  | payloadTooLarge
  deriving DecidableEq

/-- The wording of a transport error. -/
def CommsError.message : CommsError → String
  | .notConnected => "no network connection"
  | .httpSendFailed => "HTTP POST failed"
  | .httpStatus code => "HTTP status " ++ Decimal.ofNat code.toNat
  | .mqttPublishFailed => "MQTT publish failed"
  | .serialFailed => "serial link failed"
  | .payloadTooLarge => "payload too large"

/-- Why a task could not do what it was asked. -/
inductive Error where
  /-- The report table refused. -/
  | table (cause : TableError)
  /-- A frame was rejected. -/
  | frame (cause : FrameError)
  /-- A transport failed. -/
  | comms (cause : CommsError)
  /-- A task or timer could not be set up. -/
  | init (reason : String)
  /-- The configuration is invalid or could not be loaded. -/
  | config (reason : String)
  deriving DecidableEq

/-- The wording of an error: the part of the gateway, then the cause. -/
def Error.message : Error → String
  | .table cause => "adv table: " ++ cause.message
  | .frame cause => "frame: " ++ cause.message
  | .comms cause => "comms: " ++ cause.message
  | .init reason => "init: " ++ reason
  | .config reason => "config: " ++ reason

/-- Why a configuration could not be loaded or saved. -/
inductive ConfigError where
  /-- Nothing is stored. -/
  | notFound
  /-- What is stored does not decode. -/
  | corrupted
  /-- A setting is out of range; the reason names it. -/
  | validationFailed (reason : String)
  /-- The store has no room. -/
  | storageFull
  /-- The store failed. -/
  | ioError
  deriving DecidableEq

/-- The wording of a configuration error. -/
def ConfigError.message : ConfigError → String
  | .notFound => "config not found"
  | .corrupted => "config corrupted"
  | .validationFailed reason => "validation failed: " ++ reason
  | .storageFull => "storage full"
  | .ioError => "I/O error"

/-- A configuration error as it reaches the tasks. -/
def ConfigError.toError : ConfigError → Error
  | .validationFailed reason => .config reason
  | .notFound => .config "not found"
  | .corrupted => .config "corrupted"
  | .storageFull | .ioError => .config "storage failure"

/-- Why the key-value store refused. -/
inductive StorageError where
  /-- The key has no value. -/
  | notFound
  /-- The store has no room. -/
  | full
  /-- The store failed. -/
  | ioError
  deriving DecidableEq

/-- The wording of a storage error. -/
def StorageError.message : StorageError → String
  | .notFound => "key not found"
  | .full => "storage full"
  | .ioError => "I/O error"

end BeaconGateway
