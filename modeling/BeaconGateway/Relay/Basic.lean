import BeaconGateway.Config.Basic
import BeaconGateway.Error
import BeaconGateway.Relay.Signal
import BeaconGateway.Signal.Timer

/-!
# The relay's own state

The relay passes on what is pending in the table. It remembers whether it saw the network up, how
many batches it has numbered, and since when nothing has been delivered.

## Main definitions

* `Relay` — the state of the relay;
* `Relay.Timers` — its timers;
* `Relay.create` — the relay of a configured gateway.
-/

namespace BeaconGateway

/-- The timers of the relay. -/
structure Relay.Timers where
  /-- Time to relay what is pending. -/
  retransmit : Timer RelaySignal
  /-- Time to look whether anything has been delivered lately. -/
  networkWatchdog : Timer RelaySignal
  /-- Time to feed the task watchdog. -/
  feedWatchdog : Timer RelaySignal
  /-- Time to send a status report. -/
  statistics : Timer RelaySignal

namespace Relay.Timers

/-- The timers with the periods of a configuration; a period of zero is refused. -/
def create (c : Config.Relay) : Except Error Timers := do
  let retransmit ←
    Timer.create "relay_retransmit" .periodic RelaySignal.retransmit c.retransmitPeriod.toNat
  let networkWatchdog ←
    Timer.create "relay_net_wdt" .periodic RelaySignal.networkWatchdog c.watchdogCheck.toNat
  let feedWatchdog ←
    Timer.create "relay_task_wdt" .periodic RelaySignal.feedWatchdog c.feedPeriod.toNat
  let statistics ←
    Timer.create "relay_stat" .periodic RelaySignal.sendStatistics
      (c.statisticsPeriod.toNat * 1000)
  return { retransmit, networkWatchdog, feedWatchdog, statistics }

/-- Arm all timers; that of status reports only if they are sent at all. -/
def startAll (t : Timers) (withStatistics : Bool) : Timers where
  retransmit := t.retransmit.start
  networkWatchdog := t.networkWatchdog.start
  feedWatchdog := t.feedWatchdog.start
  statistics := if withStatistics then t.statistics.start else t.statistics

/-- Disarm all timers. -/
def stopAll (t : Timers) : Timers where
  retransmit := t.retransmit.stop
  networkWatchdog := t.networkWatchdog.stop
  feedWatchdog := t.feedWatchdog.stop
  statistics := t.statistics.stop

/-- Whether any timer is armed. -/
def anyArmed (t : Timers) : Bool :=
  t.retransmit.isArmed || t.networkWatchdog.isArmed || t.feedWatchdog.isArmed
    || t.statistics.isArmed

end Relay.Timers

/-- The state of the relay. -/
structure Relay where
  /-- What it is to do. -/
  config : Config
  /-- The version of the gateway's firmware, for status reports. -/
  gatewayFirmware : ShortText
  /-- The version of the scanner's firmware, for status reports. -/
  scannerFirmware : ShortText
  /-- Its timers. -/
  timers : Relay.Timers
  /-- Whether the network was up when it last looked. -/
  connected : Bool
  /-- Whether it relays; the supervisor may tell it not to. -/
  enabled : Bool
  /-- Whether it was asked to end. -/
  stopRequested : Bool
  /-- The number of the latest batch or word that the gateway is online; it wraps. -/
  nonce : UInt32
  /-- The uptime at which something was last delivered, or at which nothing had to be. -/
  quietSince : UInt32

namespace Relay

/-- The relay of a configured gateway, created at some uptime. Each of its timers needs a period. -/
def create (c : Config) (gatewayFirmware scannerFirmware : ShortText) (uptime : UInt32) :
    Except Error Relay := do
  let timers ← Timers.create c.relay
  return {
    config := c
    gatewayFirmware
    scannerFirmware
    timers
    connected := false
    enabled := true
    stopRequested := false
    nonce := 0
    quietSince := uptime }

end Relay

end BeaconGateway
