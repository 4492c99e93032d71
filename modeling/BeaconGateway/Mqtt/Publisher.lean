import BeaconGateway.Config.Basic
import BeaconGateway.Document.Records
import BeaconGateway.Error
import BeaconGateway.Outside

/-!
# Publishing to the broker

Each record is a message of its own, under a topic that ends in the device's address. A batch is
published record by record up to the first message that is refused.

The connection to the broker comes and goes while the gateway runs: messages go through a slot that
holds the client while there is one.

## Main definitions

* `Mqtt.recordTopic?` — the topic of a device;
* `Mqtt.brokerAddress` — where the broker is;
* `Mqtt.Slot` — where the client is while there is one;
* `Mqtt.Publisher` — the header of messages, with `Mqtt.Publisher.publishBatch`.
-/

namespace BeaconGateway.Mqtt

/-- A message to the broker. -/
structure Message where
  /-- Under what it is published. -/
  topic : String
  /-- The document. -/
  payload : String
  deriving DecidableEq

/-- How messages are answered. -/
abbrev Client (ω : Type) :=
  Ask Message (Except CommsError Unit) ω

/-- The most bytes that a topic may have. -/
def maxTopic : Nat := 96

/-- The topic of a device under a root, `none` if it is too long. -/
def recordTopic? (root : String) (device : Address) : Option String :=
  let topic := root ++ device.text
  if topic.utf8ByteSize ≤ maxTopic then some topic else none

/-- Where the broker is. -/
def brokerAddress (c : Config.Mqtt) : String :=
  c.transport.scheme ++ "://" ++ c.server.text ++ ":" ++ Decimal.ofNat c.port.toNat

/-- A client that takes every message and counts them; the count wraps. -/
def countingClient : Client UInt32 :=
  fun _ published ↦ (.ok (), published + 1)

/-! ### The slot -/

/-- Where the client is while there is one. -/
structure Slot where
  /-- Whether there is one. -/
  filled : Bool
  deriving DecidableEq

namespace Slot

variable {ω : Type}

/-- A slot without a client. -/
def empty : Slot :=
  ⟨false⟩

/-- Put a client in. -/
def fill (_ : Slot) : Slot :=
  ⟨true⟩

/-- Drop the client. The answer says whether there was one. -/
def clear (s : Slot) : Bool × Slot :=
  (s.filled, ⟨false⟩)

/-- Messages go to the client in the slot; without one they are refused. -/
def through (s : Slot) (client : Client ω) : Client ω :=
  fun message outside ↦
    if s.filled then client message outside else (.error .notConnected, outside)

end Slot

/-! ### The publisher -/

/-- What messages say about the gateway. -/
structure Publisher where
  /-- What stands before the device address in a topic. -/
  topicRoot : ShortText
  /-- The gateway's address. -/
  gateway : Address
  /-- Where the gateway stands. -/
  coordinates : ShortText
  /-- Whether the stamps of records are times. -/
  useTimestamps : Bool

namespace Publisher

variable {ω : Type}

/-- The publisher of a configured gateway. -/
def new (c : Config) (gateway : Address) : Publisher where
  topicRoot := c.mqtt.topicRoot
  gateway := gateway
  coordinates := c.coordinates
  useTimestamps := c.time.useTimestamps

/-- What messages say about the gateway at the clock's time. -/
def header (p : Publisher) (unixTime : Option UInt32) : RecordsHeader where
  coordinates := p.coordinates.text
  gateway := p.gateway.text
  timestamp := unixTime
  nonce := none
  useTimestamps := p.useTimestamps

/-- The message of a record, `none` if its topic is too long. -/
def message? (p : Publisher) (unixTime : Option UInt32) (r : Report) : Option Message :=
  (recordTopic? p.topicRoot.text r.address).map fun topic ↦
    ⟨topic, (recordDocument (p.header unixTime) r).render⟩

/-- Publish a record. -/
def publish (p : Publisher) (client : Client ω) (unixTime : Option UInt32) (r : Report)
    (outside : ω) : Except CommsError Unit × ω :=
  match p.message? unixTime r with
  | none => (.error .payloadTooLarge, outside)
  | some message => client message outside

/-- Publish records in order up to the first that is refused. The answer says whether none was. -/
def publishBatch (p : Publisher) (client : Client ω) (unixTime : Option UInt32) :
    List Report → ω → Bool × ω
  | [], outside => (true, outside)
  | r :: rest, outside =>
    match p.publish client unixTime r outside with
    | (.ok (), outside) => publishBatch p client unixTime rest outside
    | (.error _, outside) => (false, outside)

end Publisher

end BeaconGateway.Mqtt
