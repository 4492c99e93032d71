/-!
# What a history query asks for

A query has one parameter. Where stamps are times, `time=` and a number of seconds ask for what
was seen since; without it the last hour is meant, and while the clock is not synchronised
everything. Where stamps are running numbers, `counter=` and a number ask for what came after it,
and without it everything.

A number is the leading digits of what follows the sign of equality; no digits stand for zero, and
a number too large for thirty-two bits stands for the largest.

## Main definitions

* `HistoryFilter` — what is asked for;
* `leadingNumber` — the number that a text begins with;
* `HistoryFilter.ofParams` — the filter of a parameter.
-/

namespace BeaconGateway

/-- What a history query asks for. -/
inductive HistoryFilter where
  /-- Everything. -/
  | all
  /-- What is at most so many seconds old. -/
  | maxAge (seconds : UInt32)
  /-- What came after a running number. -/
  | sinceCounter (counter : UInt32)
  deriving DecidableEq

/-- The largest number of thirty-two bits. -/
def maxWord : Nat := 4294967295

/-- Append a digit to a number; what is too large stays at the largest number. -/
def appendDigit (n : Nat) (c : Char) : Nat :=
  min (min (n * 10) maxWord + (c.toNat - '0'.toNat)) maxWord

/-- The number that a text begins with. -/
def leadingNumber (cs : List Char) : UInt32 :=
  UInt32.ofNat ((cs.takeWhile Char.isDigit).foldl appendDigit 0)

/-- What follows a beginning, if a text has it. -/
def after? : (beginning text : List Char) → Option (List Char)
  | [], text => some text
  | _ :: _, [] => none
  | b :: beginning, c :: text => if b = c then after? beginning text else none

/-- The seconds meant by a query without a parameter: an hour. -/
def defaultHistorySeconds : UInt32 := 3600

/-- What a query with a parameter, or without one, asks for. -/
def HistoryFilter.ofParams (params : Option String) (useTimestamps synced : Bool) :
    HistoryFilter :=
  let text := (params.getD "").toList
  if useTimestamps then
    let seconds := ((after? "time=".toList text).map leadingNumber).getD defaultHistorySeconds
    if synced then .maxAge seconds else .all
  else
    match after? "counter=".toList text with
    | some rest => .sinceCounter (leadingNumber rest)
    | none => .all

end BeaconGateway
