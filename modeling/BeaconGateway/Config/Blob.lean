import BeaconGateway.Config.Basic
import BeaconGateway.Config.Codec

/-!
# The stored form of the configuration

The sections of the configuration one after another, and in each section its settings in the order
in which they are declared.

## Main definitions

* `Config.codec` — the writer and reader of configurations;
* `Config.toBlob` — the bytes that are stored;
* `Config.ofBlob?` — the configuration in stored bytes; what follows it is ignored.
-/

namespace BeaconGateway.Config

open Codec

/-- Where documents are posted. -/
def Endpoint.codec : Codec Endpoint :=
  (flag.andThen ((text 256).andThen ((text 64).andThen (text 64)))).convert
    (fun (enabled, url, user, password) ↦ { enabled, url, user, password })
    (fun e ↦ (e.enabled, e.url, e.user, e.password))

/-- How the broker is reached. -/
def Transport.codec : Codec Transport :=
  oneOf [.tcp, .ssl, .ws, .wss]

/-- The broker. -/
def Mqtt.codec : Codec Mqtt :=
  (flag.andThen (Transport.codec.andThen ((text 128).andThen (word16.andThen ((text 64).andThen
    ((text 64).andThen ((text 64).andThen (text 64)))))))).convert
    (fun (enabled, transport, server, port, topicRoot, clientId, user, password) ↦
      { enabled, transport, server, port, topicRoot, clientId, user, password })
    (fun m ↦ (m.enabled, m.transport, m.server, m.port, m.topicRoot, m.clientId, m.user,
      m.password))

/-- The periods of the relay. -/
def Relay.codec : Codec Relay :=
  (word32.andThen (word32.andThen (word32.andThen (word32.andThen word32)))).convert
    (fun (retransmitPeriod, watchdogTimeout, watchdogCheck, feedPeriod, statisticsPeriod) ↦
      { retransmitPeriod, watchdogTimeout, watchdogCheck, feedPeriod, statisticsPeriod })
    (fun r ↦ (r.retransmitPeriod, r.watchdogTimeout, r.watchdogCheck, r.feedPeriod,
      r.statisticsPeriod))

/-- Which firmware is looked for. -/
def UpdateCycle.codec : Codec UpdateCycle :=
  oneOf [.regular, .beta, .manual]

/-- When new firmware may be looked for. -/
def AutoUpdate.codec : Codec AutoUpdate :=
  (UpdateCycle.codec.andThen (byte.andThen (byte.andThen (byte.andThen signedByte)))).convert
    (fun (cycle, weekdays, fromHour, toHour, timeZone) ↦
      { cycle, weekdays, fromHour, toHour, timeZone })
    (fun a ↦ (a.cycle, a.weekdays, a.fromHour, a.toHour, a.timeZone))

/-- Where the remote configuration is fetched. -/
def Remote.codec : Codec Remote :=
  (flag.andThen ((text 256).andThen word16)).convert
    (fun (enabled, url, refreshMinutes) ↦ { enabled, url, refreshMinutes })
    (fun r ↦ (r.enabled, r.url, r.refreshMinutes))

/-- Which advertisements the scanner lets through. -/
def Filter.codec : Codec Filter :=
  (word16.andThen flag).convert
    (fun (company, enabled) ↦ { company, enabled })
    (fun f ↦ (f.company, f.enabled))

/-- What the scanner listens to. -/
def Scan.codec : Codec Scan :=
  (flag.andThen (flag.andThen (flag.andThen (flag.andThen (flag.andThen flag))))).convert
    (fun (codedPhy, oneMbitPhy, extendedPayload, channel37, channel38, channel39) ↦
      { codedPhy, oneMbitPhy, extendedPayload, channel37, channel38, channel39 })
    (fun s ↦ (s.codedPhy, s.oneMbitPhy, s.extendedPayload, s.channel37, s.channel38, s.channel39))

/-- Where the time comes from. -/
def Time.codec : Codec Time :=
  (flag.andThen flag).convert
    (fun (useNetworkTime, useTimestamps) ↦ { useNetworkTime, useTimestamps })
    (fun t ↦ (t.useNetworkTime, t.useTimestamps))

/-- The whole configuration. -/
def codec : Codec Config :=
  (Endpoint.codec.andThen (Endpoint.codec.andThen (Mqtt.codec.andThen (Relay.codec.andThen
    (AutoUpdate.codec.andThen (Remote.codec.andThen (Filter.codec.andThen (Scan.codec.andThen
      (Time.codec.andThen (text 64)))))))))).convert
    (fun (http, statistics, mqtt, relay, autoUpdate, remote, filter, scan, time, coordinates) ↦
      { http, statistics, mqtt, relay, autoUpdate, remote, filter, scan, time, coordinates })
    (fun c ↦ (c.http, c.statistics, c.mqtt, c.relay, c.autoUpdate, c.remote, c.filter, c.scan,
      c.time, c.coordinates))

/-- The bytes that are stored. -/
def toBlob (c : Config) : List UInt8 :=
  codec.write c

/-- The configuration in stored bytes; what follows it is ignored. -/
def ofBlob? (bytes : List UInt8) : Option Config :=
  (codec.read? bytes).map Prod.fst

end BeaconGateway.Config
