import BeaconGateway.Config.Basic
import BeaconGateway.Json

/-!
# The configuration as a document

The configuration in JSON: an object with a member for each section, and in each section a member
for each setting. A document is read only if every setting is there and in range; members that no
setting is named for do not matter. A section may also be an array of its settings in order.

## Main definitions

* `Config.document` — the document of a configuration;
* `Config.ofDocument?` — the configuration in a document.
-/

namespace BeaconGateway.Config

/-! ### Settings -/

/-- An object with values under names. -/
def namedFields (names : List String) (values : List Json) : Json :=
  .object (names.zip values)

/-- The text that a setting is, if it fits. -/
def text? (cap : Nat) (j : Json) : Option (BoundedText cap) :=
  j.string?.bind (BoundedText.ofString? cap)

/-- The byte that a setting is. -/
def byte? (j : Json) : Option UInt8 :=
  (j.nat? 0xFF).map UInt8.ofNat

/-- The byte with a sign that a setting is. -/
def signedByte? (j : Json) : Option Int8 :=
  (j.between? (-128) 127).map Int8.ofInt

/-- The word of sixteen bits that a setting is. -/
def word16? (j : Json) : Option UInt16 :=
  (j.nat? 0xFFFF).map UInt16.ofNat

/-- The word of thirty-two bits that a setting is. -/
def word32? (j : Json) : Option UInt32 :=
  (j.nat? 0xFFFFFFFF).map UInt32.ofNat

/-- The name of a transport. -/
def Transport.name : Transport → String
  | tcp => "Tcp"
  | ssl => "Ssl"
  | ws => "Ws"
  | wss => "Wss"

/-- The transport with a name. -/
def Transport.ofName? (name : String) : Option Transport :=
  [tcp, ssl, ws, wss].find? fun t ↦ t.name == name

/-- The name of an update cycle. -/
def UpdateCycle.name : UpdateCycle → String
  | regular => "Regular"
  | beta => "Beta"
  | manual => "Manual"

/-- The update cycle with a name. -/
def UpdateCycle.ofName? (name : String) : Option UpdateCycle :=
  [regular, beta, manual].find? fun c ↦ c.name == name

/-! ### Sections -/

/-- The names of the settings of an endpoint; `use` names the first. -/
def Endpoint.names (use : String) : List String :=
  [use, "url", "user", "pass"]

/-- The document of an endpoint. -/
def Endpoint.document (use : String) (e : Endpoint) : Json :=
  namedFields (names use)
    [.bool e.enabled, .string e.url.text, .string e.user.text, .string e.password.text]

/-- The endpoint in a document. -/
def Endpoint.ofDocument? (use : String) (d : Json) : Option Endpoint := do
  let [enabled, url, user, password] ← d.fields? (names use) | none
  return {
    enabled := ← enabled.bool?
    url := ← text? 256 url
    user := ← text? 64 user
    password := ← text? 64 password }

/-- The names of the settings of the broker. -/
def Mqtt.names : List String :=
  ["use_mqtt", "transport", "server", "port", "prefix", "client_id", "user", "pass"]

/-- The document of the broker. -/
def Mqtt.document (m : Mqtt) : Json :=
  namedFields names
    [.bool m.enabled, .string m.transport.name, .string m.server.text, .nat m.port.toNat,
      .string m.topicRoot.text, .string m.clientId.text, .string m.user.text,
      .string m.password.text]

/-- The broker in a document. -/
def Mqtt.ofDocument? (d : Json) : Option Mqtt := do
  let [enabled, transport, server, port, topicRoot, clientId, user, password] ← d.fields? names
    | none
  return {
    enabled := ← enabled.bool?
    transport := ← transport.choice?.bind Transport.ofName?
    server := ← text? 128 server
    port := ← word16? port
    topicRoot := ← text? 64 topicRoot
    clientId := ← text? 64 clientId
    user := ← text? 64 user
    password := ← text? 64 password }

/-- The names of the periods of the relay. -/
def Relay.names : List String :=
  ["retransmit_period_ms", "network_watchdog_timeout_secs", "network_watchdog_check_ms",
    "task_watchdog_feed_ms", "statistics_period_secs"]

/-- The document of the periods of the relay. -/
def Relay.document (r : Relay) : Json :=
  namedFields names
    [.nat r.retransmitPeriod.toNat, .nat r.watchdogTimeout.toNat, .nat r.watchdogCheck.toNat,
      .nat r.feedPeriod.toNat, .nat r.statisticsPeriod.toNat]

/-- The periods of the relay in a document. -/
def Relay.ofDocument? (d : Json) : Option Relay := do
  let [retransmit, timeout, check, feed, statistics] ← d.fields? names | none
  return {
    retransmitPeriod := ← word32? retransmit
    watchdogTimeout := ← word32? timeout
    watchdogCheck := ← word32? check
    feedPeriod := ← word32? feed
    statisticsPeriod := ← word32? statistics }

/-- The names of the settings of firmware updates. -/
def AutoUpdate.names : List String :=
  ["cycle", "weekdays_bitmask", "interval_from", "interval_to", "tz_offset_hours"]

/-- The document of the settings of firmware updates. -/
def AutoUpdate.document (a : AutoUpdate) : Json :=
  namedFields names
    [.string a.cycle.name, .nat a.weekdays.toNat, .nat a.fromHour.toNat, .nat a.toHour.toNat,
      .number a.timeZone.toInt]

/-- The settings of firmware updates in a document. -/
def AutoUpdate.ofDocument? (d : Json) : Option AutoUpdate := do
  let [cycle, weekdays, fromHour, toHour, timeZone] ← d.fields? names | none
  return {
    cycle := ← cycle.choice?.bind UpdateCycle.ofName?
    weekdays := ← byte? weekdays
    fromHour := ← byte? fromHour
    toHour := ← byte? toHour
    timeZone := ← signedByte? timeZone }

/-- The names of the settings of the remote configuration. -/
def Remote.names : List String :=
  ["use_remote_cfg", "url", "refresh_interval_minutes"]

/-- The document of the settings of the remote configuration. -/
def Remote.document (r : Remote) : Json :=
  namedFields names [.bool r.enabled, .string r.url.text, .nat r.refreshMinutes.toNat]

/-- The settings of the remote configuration in a document. -/
def Remote.ofDocument? (d : Json) : Option Remote := do
  let [enabled, url, minutes] ← d.fields? names | none
  return {
    enabled := ← enabled.bool?
    url := ← text? 256 url
    refreshMinutes := ← word16? minutes }

/-- The names of the filter settings. -/
def Filter.names : List String :=
  ["company_id", "company_use_filtering"]

/-- The document of the filter settings. -/
def Filter.document (f : Filter) : Json :=
  namedFields names [.nat f.company.toNat, .bool f.enabled]

/-- The filter settings in a document. -/
def Filter.ofDocument? (d : Json) : Option Filter := do
  let [company, enabled] ← d.fields? names | none
  return { company := ← word16? company, enabled := ← enabled.bool? }

/-- The names of the scan settings. -/
def Scan.names : List String :=
  ["use_coded_phy", "use_1mbit_phy", "use_extended_payload", "use_channel_37", "use_channel_38",
    "use_channel_39"]

/-- The document of the scan settings. -/
def Scan.document (s : Scan) : Json :=
  namedFields names
    [.bool s.codedPhy, .bool s.oneMbitPhy, .bool s.extendedPayload, .bool s.channel37,
      .bool s.channel38, .bool s.channel39]

/-- The scan settings in a document. -/
def Scan.ofDocument? (d : Json) : Option Scan := do
  let [coded, oneMbit, extended, channel37, channel38, channel39] ← d.fields? names | none
  return {
    codedPhy := ← coded.bool?
    oneMbitPhy := ← oneMbit.bool?
    extendedPayload := ← extended.bool?
    channel37 := ← channel37.bool?
    channel38 := ← channel38.bool?
    channel39 := ← channel39.bool? }

/-- The names of the time settings. -/
def Time.names : List String :=
  ["use_ntp", "use_timestamps"]

/-- The document of the time settings. -/
def Time.document (t : Time) : Json :=
  namedFields names [.bool t.useNetworkTime, .bool t.useTimestamps]

/-- The time settings in a document. -/
def Time.ofDocument? (d : Json) : Option Time := do
  let [network, stamps] ← d.fields? names | none
  return { useNetworkTime := ← network.bool?, useTimestamps := ← stamps.bool? }

/-! ### The whole configuration -/

/-- The names of the sections. -/
def names : List String :=
  ["http", "http_stat", "mqtt", "relay", "auto_update", "remote_cfg", "filter", "scan", "ntp",
    "coordinates"]

/-- The document of a configuration. -/
def document (c : Config) : Json :=
  namedFields names
    [c.http.document "use_http", c.statistics.document "use_http_stat", c.mqtt.document,
      c.relay.document, c.autoUpdate.document, c.remote.document, c.filter.document,
      c.scan.document, c.time.document, .string c.coordinates.text]

/-- The configuration in a document. -/
def ofDocument? (d : Json) : Option Config := do
  let [http, statistics, mqtt, relay, autoUpdate, remote, filter, scan, time, coordinates] ←
    d.fields? names | none
  return {
    http := ← Endpoint.ofDocument? "use_http" http
    statistics := ← Endpoint.ofDocument? "use_http_stat" statistics
    mqtt := ← Mqtt.ofDocument? mqtt
    relay := ← Relay.ofDocument? relay
    autoUpdate := ← AutoUpdate.ofDocument? autoUpdate
    remote := ← Remote.ofDocument? remote
    filter := ← Filter.ofDocument? filter
    scan := ← Scan.ofDocument? scan
    time := ← Time.ofDocument? time
    coordinates := ← text? 64 coordinates }

end BeaconGateway.Config
