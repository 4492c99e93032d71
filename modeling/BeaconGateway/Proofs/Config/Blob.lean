import BeaconGateway.Config.Blob
import BeaconGateway.Proofs.Config.Codec
import Mathlib.Data.Nat.Digits.Defs

/-!
# The stored form, field by field

A description of the stored form that reads no bytes: a configuration is a row of fields, section
after section in the order of declaration, and each kind of field has its bytes (`Field.bytes`). The
codec of the configuration writes this row (`toBlob_eq`), and it is lawful because its fields are.

A number is written in its digits to base 128, the lowest first, each in a byte of its own with the
top bit set in all bytes but the last.

That the codec is lawful says that what it writes is read back, whatever comes behind, and that
nothing shorter is read. It is composed as the codec is: a row of lawful codecs is lawful, and so is
one whose values are converted there and back.

## Main results

* `Config.fields`, `Config.toBlob_eq` — the fields of a configuration, and that these are written;
* `Config.lawful_codec` — the codec of the configuration is lawful.
-/

namespace BeaconGateway.Config

/-! ### The fields -/

/-- A field of the stored form, by how it is written. -/
inductive Field where
  /-- A flag: zero or one. -/
  | flag (value : Bool)
  /-- A byte as it is. -/
  | byte (value : UInt8)
  /-- A byte with a sign, in two's complement. -/
  | signedByte (value : Int8)
  /-- A number in its digits to base 128. -/
  | number (value : Nat)
  /-- The number of bytes of a text, and these bytes. -/
  | text (value : String)

/-- The digits of a number to base 128, the lowest first and at least one. -/
def digits (n : Nat) : List Nat :=
  if n = 0 then [0] else Nat.digits 128 n

/-- A number in its digits, with the top bit set in all bytes but the last. -/
def numberBytes (n : Nat) : List UInt8 :=
  ((digits n).dropLast.map fun digit ↦ UInt8.ofNat (digit + 128)) ++
    (digits n).getLast?.toList.map UInt8.ofNat

/-- The bytes of a field. -/
def Field.bytes : Field → List UInt8
  | flag value => [if value then 1 else 0]
  | byte value => [value]
  | signedByte value => [value.toUInt8]
  | number value => numberBytes value
  | text value => numberBytes (utf8Bytes value).length ++ utf8Bytes value

/-- The place of a transport in its declaration. -/
def Transport.place : Transport → Nat
  | tcp => 0
  | ssl => 1
  | ws => 2
  | wss => 3

/-- The place of an update cycle in its declaration. -/
def UpdateCycle.place : UpdateCycle → Nat
  | regular => 0
  | beta => 1
  | manual => 2

def Endpoint.fields (e : Endpoint) : List Field :=
  [.flag e.enabled, .text e.url.text, .text e.user.text, .text e.password.text]

def Mqtt.fields (m : Mqtt) : List Field :=
  [.flag m.enabled, .number m.transport.place, .text m.server.text, .number m.port.toNat,
    .text m.topicRoot.text, .text m.clientId.text, .text m.user.text, .text m.password.text]

def Relay.fields (r : Relay) : List Field :=
  [.number r.retransmitPeriod.toNat, .number r.watchdogTimeout.toNat, .number r.watchdogCheck.toNat,
    .number r.feedPeriod.toNat, .number r.statisticsPeriod.toNat]

def AutoUpdate.fields (a : AutoUpdate) : List Field :=
  [.number a.cycle.place, .byte a.weekdays, .byte a.fromHour, .byte a.toHour,
    .signedByte a.timeZone]

def Remote.fields (r : Remote) : List Field :=
  [.flag r.enabled, .text r.url.text, .number r.refreshMinutes.toNat]

def Filter.fields (f : Filter) : List Field :=
  [.number f.company.toNat, .flag f.enabled]

def Scan.fields (s : Scan) : List Field :=
  [.flag s.codedPhy, .flag s.oneMbitPhy, .flag s.extendedPayload, .flag s.channel37,
    .flag s.channel38, .flag s.channel39]

def Time.fields (t : Time) : List Field :=
  [.flag t.useNetworkTime, .flag t.useTimestamps]

/-- The fields of a configuration, section after section. -/
def fields (c : Config) : List Field :=
  c.http.fields ++ c.statistics.fields ++ c.mqtt.fields ++ c.relay.fields ++ c.autoUpdate.fields ++
    c.remote.fields ++ c.filter.fields ++ c.scan.fields ++ c.time.fields ++
    [.text c.coordinates.text]

/-! ### What is written -/

/-- Zero has a digit too. -/
theorem digits_ne_nil (n : Nat) : digits n ≠ [] := by
  rw [digits]
  split_ifs with hzero
  · exact List.cons_ne_nil _ _
  · exact Nat.digits_ne_nil_iff_ne_zero.2 hzero

/-- A number below 128 is one byte. -/
theorem numberBytes_of_lt {n : Nat} (hsmall : n < 128) : numberBytes n = [UInt8.ofNat n] := by
  have honly : digits n = [n] := by
    rw [digits]
    split_ifs with hzero
    · rw [hzero]
    · exact Nat.digits_of_lt 128 n hzero hsmall
  rw [numberBytes, honly]
  rfl

/-- A larger number gives its lowest seven bits first, with the top bit to say that more follow. -/
theorem numberBytes_of_le {n : Nat} (hlarge : 128 ≤ n) :
    numberBytes n = UInt8.ofNat (n % 128 + 128) :: numberBytes (n / 128) := by
  have hfirst : digits n = n % 128 :: digits (n / 128) := by
    rw [digits, if_neg (by omega), digits, if_neg (by omega),
      Nat.digits_def' (by decide) (by omega)]
  have hmore := digits_ne_nil (n / 128)
  rw [numberBytes, numberBytes, hfirst, List.dropLast_cons_of_ne_nil hmore,
    List.getLast?_cons_of_ne_nil hmore]
  rfl

/-- Groups of seven bits are digits to base 128. -/
theorem writeGroups_eq (n : Nat) : Codec.writeGroups n = numberBytes n := by
  fun_induction Codec.writeGroups n with
  | case1 n hsmall => exact (numberBytes_of_lt hsmall).symm
  | case2 n hlarge ih => rw [ih, numberBytes_of_le (Nat.le_of_not_lt hlarge)]

/-- The codec of a transport counts places as the declaration does. -/
theorem Transport.idxOf_eq (t : Transport) :
    [Transport.tcp, .ssl, .ws, .wss].idxOf t = t.place := by
  cases t <;> rfl

/-- So does that of an update cycle. -/
theorem UpdateCycle.idxOf_eq (u : UpdateCycle) :
    [UpdateCycle.regular, .beta, .manual].idxOf u = u.place := by
  cases u <;> rfl

/-- **What is written** of a configuration is its fields, one after another. -/
theorem toBlob_eq (c : Config) : c.toBlob = c.fields.flatMap Field.bytes := by
  simp only [toBlob, codec, Endpoint.codec, Mqtt.codec, Transport.codec, Relay.codec,
    AutoUpdate.codec, UpdateCycle.codec, Remote.codec, Filter.codec, Scan.codec, Time.codec,
    Codec.convert, Codec.andThen, Codec.flag, Codec.byte, Codec.signedByte, Codec.word16,
    Codec.word32, Codec.length, Codec.text, Codec.oneOf, writeGroups_eq, Transport.idxOf_eq,
    UpdateCycle.idxOf_eq, ← length_utf8Bytes]
  simp only [fields, Endpoint.fields, Mqtt.fields, Relay.fields, AutoUpdate.fields, Remote.fields,
    Filter.fields, Scan.fields, Time.fields, List.flatMap_append, List.flatMap_cons,
    List.flatMap_nil, Field.bytes, List.append_assoc, List.append_nil]

/-! ### The codecs of the sections -/

open Codec

theorem Endpoint.lawful_codec : Endpoint.codec.Lawful :=
  (lawful_flag.andThen ((lawful_text (by decide)).andThen ((lawful_text (by decide)).andThen
    (lawful_text (by decide))))).convert fun _ ↦ rfl

/-- A transport is one of the four, so its place says which. -/
theorem Transport.lawful_codec : Transport.codec.Lawful :=
  lawful_oneOf (fun t ↦ by cases t <;> decide) (by decide)

theorem Mqtt.lawful_codec : Mqtt.codec.Lawful :=
  (lawful_flag.andThen (Transport.lawful_codec.andThen ((lawful_text (by decide)).andThen
    (lawful_word16.andThen ((lawful_text (by decide)).andThen ((lawful_text (by decide)).andThen
      ((lawful_text (by decide)).andThen (lawful_text (by decide))))))))).convert fun _ ↦ rfl

theorem Relay.lawful_codec : Relay.codec.Lawful :=
  (lawful_word32.andThen (lawful_word32.andThen (lawful_word32.andThen
    (lawful_word32.andThen lawful_word32)))).convert fun _ ↦ rfl

/-- An update cycle is one of the three. -/
theorem UpdateCycle.lawful_codec : UpdateCycle.codec.Lawful :=
  lawful_oneOf (fun u ↦ by cases u <;> decide) (by decide)

theorem AutoUpdate.lawful_codec : AutoUpdate.codec.Lawful :=
  (UpdateCycle.lawful_codec.andThen (lawful_byte.andThen (lawful_byte.andThen
    (lawful_byte.andThen lawful_signedByte)))).convert fun _ ↦ rfl

theorem Remote.lawful_codec : Remote.codec.Lawful :=
  (lawful_flag.andThen ((lawful_text (by decide)).andThen lawful_word16)).convert fun _ ↦ rfl

theorem Filter.lawful_codec : Filter.codec.Lawful :=
  (lawful_word16.andThen lawful_flag).convert fun _ ↦ rfl

theorem Scan.lawful_codec : Scan.codec.Lawful :=
  (lawful_flag.andThen (lawful_flag.andThen (lawful_flag.andThen (lawful_flag.andThen
    (lawful_flag.andThen lawful_flag))))).convert fun _ ↦ rfl

theorem Time.lawful_codec : Time.codec.Lawful :=
  (lawful_flag.andThen lawful_flag).convert fun _ ↦ rfl

/-- **The codec of the configuration is lawful.** -/
theorem lawful_codec : codec.Lawful :=
  (Endpoint.lawful_codec.andThen (Endpoint.lawful_codec.andThen (Mqtt.lawful_codec.andThen
    (Relay.lawful_codec.andThen (AutoUpdate.lawful_codec.andThen (Remote.lawful_codec.andThen
      (Filter.lawful_codec.andThen (Scan.lawful_codec.andThen (Time.lawful_codec.andThen
        (lawful_text (by decide))))))))))).convert fun _ ↦ rfl

end BeaconGateway.Config
