import BeaconGateway.Text.Bounded

/-!
# The configuration

Everything about the gateway that can be tuned. It is kept in the store, and replaced as a whole
by the remote configuration or the local configuration page.

## Main definitions

* `Config` — the configuration, in sections;
* `Config.default` — the configuration of a new gateway;
* `Config.relayingConfigured` — whether any transport takes records.
-/

namespace BeaconGateway

/-- An address on the web. -/
abbrev UrlText := BoundedText 256

/-- A user name or a password. -/
abbrev CredentialText := BoundedText 64

/-- The name of a host. -/
abbrev HostText := BoundedText 128

/-- A short free text. -/
abbrev ShortText := BoundedText 64

namespace Config

/-- Where documents are posted, and with which credentials. -/
structure Endpoint where
  /-- Whether documents are posted at all. -/
  enabled : Bool
  /-- Where they go. -/
  url : UrlText
  /-- The user; an empty name means no credentials. -/
  user : CredentialText
  /-- The password. -/
  password : CredentialText
  deriving DecidableEq

/-- How the broker is reached. -/
inductive Transport where
  | tcp
  | ssl
  | ws
  | wss
  deriving DecidableEq

/-- The scheme of a broker address. -/
def Transport.scheme : Transport → String
  | tcp => "mqtt"
  | ssl => "mqtts"
  | ws => "ws"
  | wss => "wss"

/-- The broker, and how records are published there. -/
structure Mqtt where
  /-- Whether records are published. -/
  enabled : Bool
  /-- How the broker is reached. -/
  transport : Transport
  /-- The broker's host. -/
  server : HostText
  /-- The broker's port. -/
  port : UInt16
  /-- What stands before the device address in a topic. -/
  topicRoot : ShortText
  /-- The name of this client. -/
  clientId : ShortText
  /-- The user. -/
  user : CredentialText
  /-- The password. -/
  password : CredentialText
  deriving DecidableEq

/-- The periods of the relay. -/
structure Relay where
  /-- The time between two rounds of relaying, in milliseconds. -/
  retransmitPeriod : UInt32
  /-- Restart after so many seconds without a delivery; zero means never. -/
  watchdogTimeout : UInt32
  /-- The time between two looks at that, in milliseconds. -/
  watchdogCheck : UInt32
  /-- The time between two feeds of the task watchdog, in milliseconds. -/
  feedPeriod : UInt32
  /-- The time between two status reports, in seconds. -/
  statisticsPeriod : UInt32
  deriving DecidableEq

/-- Which firmware is looked for. -/
inductive UpdateCycle where
  | regular
  | beta
  | manual
  deriving DecidableEq

/-- When new firmware may be looked for. -/
structure AutoUpdate where
  /-- Which firmware. -/
  cycle : UpdateCycle
  /-- The allowed days, bit 0 for Sunday up to bit 6 for Saturday. -/
  weekdays : UInt8
  /-- The first allowed hour. -/
  fromHour : UInt8
  /-- The first hour that is no longer allowed. -/
  toHour : UInt8
  /-- The offset of local time, in hours. -/
  timeZone : Int8
  deriving DecidableEq

/-- Where the remote configuration is fetched. -/
structure Remote where
  /-- Whether it is fetched. -/
  enabled : Bool
  /-- Where from. -/
  url : UrlText
  /-- The time between two fetches, in minutes. -/
  refreshMinutes : UInt16
  deriving DecidableEq

/-- Which advertisements the scanner lets through. -/
structure Filter where
  /-- The company of the sensor tags. -/
  company : UInt16
  /-- Whether only that company's advertisements pass. -/
  enabled : Bool
  deriving DecidableEq

/-- What the scanner listens to. -/
structure Scan where
  codedPhy : Bool
  oneMbitPhy : Bool
  extendedPayload : Bool
  channel37 : Bool
  channel38 : Bool
  channel39 : Bool
  deriving DecidableEq

/-- Where the time comes from. -/
structure Time where
  /-- Whether the clock is set over the network. -/
  useNetworkTime : Bool
  /-- Whether records are stamped with the clock's time rather than a running number. -/
  useTimestamps : Bool
  deriving DecidableEq

end Config

/-- The configuration of the gateway. -/
structure Config where
  /-- Where records are posted. -/
  http : Config.Endpoint
  /-- Where status reports are posted. -/
  statistics : Config.Endpoint
  /-- Where records are published. -/
  mqtt : Config.Mqtt
  /-- The periods of the relay. -/
  relay : Config.Relay
  /-- When new firmware may be looked for. -/
  autoUpdate : Config.AutoUpdate
  /-- Where the remote configuration is fetched. -/
  remote : Config.Remote
  /-- Which advertisements the scanner lets through. -/
  filter : Config.Filter
  /-- What the scanner listens to. -/
  scan : Config.Scan
  /-- Where the time comes from. -/
  time : Config.Time
  /-- Where the gateway stands. -/
  coordinates : ShortText
  deriving DecidableEq

namespace Config

/-- The company of the sensor tags that the gateway is made for. -/
def sensorCompany : UInt16 := 0x0499

/-- The configuration of a new gateway. -/
def default : Config where
  http := {
    enabled := true
    url := .truncate 256 "https://network.ruuvi.com/record"
    user := .empty
    password := .empty }
  statistics := {
    enabled := true
    url := .truncate 256 "https://network.ruuvi.com/status"
    user := .empty
    password := .empty }
  mqtt := {
    enabled := false
    transport := .tcp
    server := .truncate 128 "test.mosquitto.org"
    port := 1883
    topicRoot := .truncate 64 "ruuvi/"
    clientId := .empty
    user := .empty
    password := .empty }
  relay := {
    retransmitPeriod := 10000
    watchdogTimeout := 3600
    watchdogCheck := 1000
    feedPeriod := 1000
    statisticsPeriod := 3600 }
  autoUpdate := {
    cycle := .regular
    weekdays := 0x7F
    fromHour := 0
    toHour := 24
    timeZone := 3 }
  remote := {
    enabled := false
    url := .empty
    refreshMinutes := 60 }
  filter := {
    company := sensorCompany
    enabled := true }
  scan := {
    codedPhy := false
    oneMbitPhy := true
    extendedPayload := true
    channel37 := true
    channel38 := true
    channel39 := true }
  time := {
    useNetworkTime := true
    useTimestamps := true }
  coordinates := .empty

/-- Whether any transport takes records. -/
def relayingConfigured (c : Config) : Bool :=
  c.http.enabled || c.mqtt.enabled

end Config

end BeaconGateway
