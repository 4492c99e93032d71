import BeaconGateway.Config.Basic
import BeaconGateway.Text.Decimal

/-!
# When new firmware may be looked for

New firmware is looked for only while the network is up, the clock is set, the update cycle is not
manual, and local time falls on an allowed day and in the allowed hours.

## Main definitions

* `LocalHour` — a weekday and an hour of local time, with `LocalHour.ofUnix`;
* `SkipReason` — why new firmware may not be looked for, with its wording;
* `checkAllowed` — whether it may be looked for, or why not.
-/

namespace BeaconGateway

/-- A weekday and an hour of local time. -/
structure LocalHour where
  /-- The day of the week, Sunday being zero. -/
  weekday : Nat
  /-- The hour of the day. -/
  hour : Nat
  deriving DecidableEq

/-- The seconds of an hour. -/
def secondsPerHour : Int := 3600

/-- The seconds of a day. -/
def secondsPerDay : Int := 24 * secondsPerHour

/-- The local day and hour at a time given in seconds since 1970, which began on a Thursday. Local
time may lie before 1970. -/
def LocalHour.ofUnix (unixTime : UInt32) (timeZone : Int8) : LocalHour :=
  let seconds : Int := Int.ofNat unixTime.toNat + timeZone.toInt * secondsPerHour
  { weekday := ((seconds.fdiv secondsPerDay + 4).fmod 7).toNat
    hour := ((seconds.fmod secondsPerDay).fdiv secondsPerHour).toNat }

/-- Why new firmware may not be looked for. -/
inductive SkipReason where
  /-- No link is up. -/
  | networkDown
  /-- The clock is not set. -/
  | timeNotSynced
  /-- The update cycle is manual. -/
  | manualCycle
  /-- The day is not allowed. -/
  | weekdayNotAllowed (weekday : Nat)
  /-- The hour is not allowed. -/
  | hourOutOfRange (hour : Nat)
  deriving DecidableEq

/-- The short names of the days of the week. -/
def weekdayNames : List String :=
  ["Sun", "Mon", "Tue", "Wed", "Thu", "Fri", "Sat"]

/-- The wording of a reason. -/
def SkipReason.message : SkipReason → String
  | networkDown => "not connected to WiFi or Ethernet"
  | timeNotSynced => "time is not synchronized"
  | manualCycle => "manual updating mode"
  | weekdayNotAllowed weekday =>
    "weekday " ++ weekdayNames.getD (weekday % 7) "" ++ " does not match"
  | hourOutOfRange hour => "current hour " ++ Decimal.pad 2 hour ++ " is out of range"

/-- Whether new firmware may be looked for now; of several reasons against it the first counts. -/
def checkAllowed (window : Config.AutoUpdate) (connected : Bool) (unixTime : Option UInt32) :
    Except SkipReason Unit :=
  if !connected then .error .networkDown
  else
    match unixTime with
    | none => .error .timeNotSynced
    | some now =>
      if window.cycle = .manual then .error .manualCycle
      else
        let localHour := LocalHour.ofUnix now window.timeZone
        if !window.weekdays.toNat.testBit localHour.weekday then
          .error (.weekdayNotAllowed localHour.weekday)
        else if localHour.hour < window.fromHour.toNat ∨ window.toHour.toNat ≤ localHour.hour then
          .error (.hourOutOfRange localHour.hour)
        else .ok ()

end BeaconGateway
