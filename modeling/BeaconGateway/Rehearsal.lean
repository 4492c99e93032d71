import BeaconGateway.Gateway.Surroundings

/-!
# Rehearsals

An outside whose answers are prepared beforehand, to try the gateway without a network: the clocks
stand where they were set, each post takes the next prepared answer, and the broker takes so many
messages before it refuses.

## Main definitions

* `Rehearsal` — the prepared answers;
* `Rehearsal.wiring` — how they are given.
-/

namespace BeaconGateway

/-- The prepared answers. -/
structure Rehearsal where
  /-- The milliseconds since the start. -/
  uptime : UInt32
  /-- The clock's time, if it is synchronised. -/
  unixTime : Option UInt32
  /-- The answers to the next posts. -/
  responses : List (Except CommsError Http.Response)
  /-- How many more messages the broker takes; without a number it takes all. -/
  messagesLeft : Option Nat
  /-- Whether a connection to the broker succeeds. -/
  brokerReachable : Bool
  /-- Whether the release server tells about new firmware. -/
  releasesTold : Bool
  /-- Whether the serial link takes frames. -/
  linkIntact : Bool
  /-- Whether the watchdog is ready for a subscription. -/
  watchdogReady : Bool
  /-- The free memory in bytes. -/
  freeHeap : UInt32

namespace Rehearsal

/-- Everything succeeds, except that there is no release server. -/
def fair (uptime : UInt32) (unixTime : Option UInt32) : Rehearsal where
  uptime := uptime
  unixTime := unixTime
  responses := []
  messagesLeft := none
  brokerReachable := true
  releasesTold := false
  linkIntact := true
  watchdogReady := true
  freeHeap := 160 * 1024

/-- Each post takes the next prepared answer; after the last one all succeed, without a key. -/
def post : Http.Poster Rehearsal :=
  fun _ r ↦
    match r.responses with
    | [] => (.ok ⟨200, none⟩, r)
    | answer :: responses => (answer, { r with responses })

/-- The broker takes messages as long as it is prepared to. -/
def publish : Mqtt.Client Rehearsal :=
  fun _ r ↦
    match r.messagesLeft with
    | none => (.ok (), r)
    | some 0 => (.error .mqttPublishFailed, r)
    | some (n + 1) => (.ok (), { r with messagesLeft := some n })

/-- How the prepared answers are given. -/
def wiring : Gateway.Wiring Rehearsal where
  post := post
  publish := publish
  connect := fun _ r ↦ (if r.brokerReachable then .ok () else .error .mqttPublishFailed, r)
  write := fun _ r ↦ (if r.linkIntact then .ok () else .error .serialFailed, r)
  releases := fun _ r ↦ (r.releasesTold, r)
  watchdogReady := watchdogReady
  uptime := uptime
  unixTime := unixTime
  freeHeap := freeHeap

/-- Prepare the answer to the next post, in place of whatever was prepared before. -/
def answerNext (r : Rehearsal) (answer : Except CommsError Http.Response) : Rehearsal :=
  { r with responses := [answer] }

/-- Move the uptime on; it wraps. -/
def advance (r : Rehearsal) (milliseconds : UInt32) : Rehearsal :=
  { r with uptime := r.uptime + milliseconds }

end Rehearsal

end BeaconGateway
