import BeaconGateway.Config.Basic
import BeaconGateway.Error

/-!
# Valid configurations

A configuration is valid if no setting would break a task. Of several faults the first in the
order of the rules is reported.

## Main definitions

* `Config.Violation` — what can be wrong, with its wording;
* `Config.rules` — the faults of a configuration, in order;
* `Config.violation?` — the first fault that a configuration has;
* `Config.validate` — the same as a refusal.
-/

namespace BeaconGateway.Config

/-- What can be wrong with a configuration. -/
inductive Violation where
  | httpUrlMissing
  | statisticsUrlMissing
  | mqttServerMissing
  | mqttPortZero
  | retransmitPeriodOutOfRange
  | watchdogPeriodZero
  | statisticsPeriodZero
  | updateIntervalEmpty
  | timeZoneOutOfRange
  | remoteUrlMissing
  | refreshIntervalZero
  deriving DecidableEq

/-- The wording of a fault, which names the setting. -/
def Violation.message : Violation → String
  | httpUrlMissing => "http.url must be set when HTTP is used"
  | statisticsUrlMissing => "http_stat.url must be set when statistics are used"
  | mqttServerMissing => "mqtt.server must be set when MQTT is used"
  | mqttPortZero => "mqtt.port must be 1–65535"
  | retransmitPeriodOutOfRange => "relay.retransmit_period_ms must be 1000–3600000"
  | watchdogPeriodZero => "relay watchdog periods must be non-zero"
  | statisticsPeriodZero => "relay.statistics_period_secs must be non-zero"
  | updateIntervalEmpty => "auto_update interval must satisfy from < to <= 24"
  | timeZoneOutOfRange => "auto_update.tz_offset_hours must be -12–14"
  | remoteUrlMissing => "remote_cfg.url must be set when remote config is used"
  | refreshIntervalZero => "remote_cfg.refresh_interval_minutes must be non-zero"

/-- The faults that a configuration can have, in order, each with whether it has it. -/
def rules (c : Config) : List (Violation × Bool) :=
  [(.httpUrlMissing, c.http.enabled && c.http.url.isEmpty),
   (.statisticsUrlMissing, c.statistics.enabled && c.statistics.url.isEmpty),
   (.mqttServerMissing, c.mqtt.enabled && c.mqtt.server.isEmpty),
   (.mqttPortZero, c.mqtt.enabled && c.mqtt.port == 0),
   (.retransmitPeriodOutOfRange,
     c.relay.retransmitPeriod < 1000 || 3600000 < c.relay.retransmitPeriod),
   (.watchdogPeriodZero, c.relay.watchdogCheck == 0 || c.relay.feedPeriod == 0),
   (.statisticsPeriodZero, c.relay.statisticsPeriod == 0),
   (.updateIntervalEmpty,
     24 < c.autoUpdate.toHour || c.autoUpdate.toHour ≤ c.autoUpdate.fromHour),
   (.timeZoneOutOfRange, c.autoUpdate.timeZone.toInt < -12 || 14 < c.autoUpdate.timeZone.toInt),
   (.remoteUrlMissing, c.remote.enabled && c.remote.url.isEmpty),
   (.refreshIntervalZero, c.remote.enabled && c.remote.refreshMinutes == 0)]

/-- The first fault of a configuration. -/
def violation? (c : Config) : Option Violation :=
  (c.rules.find? fun rule ↦ rule.2).map fun rule ↦ rule.1

/-- A configuration without a fault. -/
def IsValid (c : Config) : Prop :=
  c.violation? = none

instance (c : Config) : Decidable c.IsValid :=
  inferInstanceAs (Decidable (c.violation? = none))

theorem isValid_iff {c : Config} : c.IsValid ↔ ∀ rule ∈ c.rules, rule.2 = false := by
  simp only [IsValid, violation?, Option.map_eq_none_iff, List.find?_eq_none, Bool.not_eq_true]

/-- Refuse a configuration that has a fault. -/
def validate (c : Config) : Except ConfigError Unit :=
  match c.violation? with
  | some v => .error (.validationFailed v.message)
  | none => .ok ()

theorem validate_eq_ok_iff {c : Config} : c.validate = .ok () ↔ c.IsValid := by
  rw [validate, IsValid]
  cases c.violation? <;> simp

end BeaconGateway.Config
