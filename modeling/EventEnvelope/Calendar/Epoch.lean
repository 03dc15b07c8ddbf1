/-
  EventEnvelope.Calendar.Epoch
  ────────────────────────────
  **Date-times as milliseconds from the epoch.**

  Both directions go through seconds as a double.  Writing divides the microseconds by a million,
  multiplies by a thousand and cuts; reading divides by a thousand, splits off the whole seconds
  and rounds the microseconds.  Each step rounds once, so a millisecond can be lost on the way.
-/
import EventEnvelope.Calendar.Basic
import EventEnvelope.Number.Binary64

namespace EventEnvelope

/-- Why a number of milliseconds is no date-time. -/
inductive EpochFault
  | notANumber
  /-- An integer too large to be divided as a double. -/
  | quotientTooLarge
  /-- More seconds than the clock counts. -/
  | beyondClock
  /-- A year that the calendar's tables cannot express. -/
  | beyondCalendar
  | yearOutOfRange (year : Int)
deriving DecidableEq

/-- A fault's message. -/
def EpochFault.message : EpochFault → Text
  | notANumber => "Invalid value NaN (not a number)"
  | quotientTooLarge => "integer division result too large for a float"
  | beyondClock => "timestamp out of range for platform time_t"
  | beyondCalendar => "[Errno 75] Value too large for defined data type"
  | yearOutOfRange year => "year " ++ Text.ofInt year ++ " is out of range"

namespace DateTime

/-- Seconds from the epoch, as a double. -/
def epochSeconds (t : DateTime) : Binary64 :=
  .ofRatio (t.epochMicroseconds < 0) t.epochMicroseconds.natAbs 1000000

/-- Milliseconds from the epoch, cut to an integer. -/
def epochMillis (t : DateTime) : Int := ((t.epochSeconds.scale 1000 1).truncate?).getD 0

/-- The date-time in universal time at this many seconds and microseconds from the epoch. -/
def ofEpoch (seconds : Int) (microsecond : Nat) : Except EpochFault DateTime :=
  let (year, month, day) := civilOfDays (seconds / 86400)
  if year < -2147483648 + 1900 ∨ 2147483647 + 1900 < year then .error .beyondCalendar
  else
    match if 0 ≤ year then Date.of? year.toNat month day else none with
    | none => .error (.yearOutOfRange year)
    | some date =>
        .ok ⟨date, .ofMicroseconds ((seconds % 86400).toNat * 1000000 + microsecond)
          (some .utc)⟩

/-- Round the fraction of a number of seconds to microseconds. -/
def roundMicroseconds (fraction denominator : Nat) : Nat :=
  (Binary64.ofRatio false (fraction * 1000000) denominator).roundMagnitude

/-- The clock counts fewer seconds than this, in either direction: two to the power of 63. -/
def clockLimit : Int := 9223372036854775808

/-- The date-time in universal time at this many seconds from the epoch. -/
def ofEpochSeconds (x : Binary64) : Except EpochFault DateTime :=
  match x with
  | .nan => .error .notANumber
  | .infinite _ => .error .beyondClock
  | .finite negative m e _ =>
      let (n, d) := Binary64.ratio m e
      let micros : Int := roundMicroseconds (n % d) d
      let micros := if negative then -micros else micros
      let seconds : Int := if negative then -((n / d : Nat) : Int) else (n / d : Nat)
      let seconds := seconds + micros / 1000000
      if seconds < -clockLimit ∨ clockLimit ≤ seconds then .error .beyondClock
      else ofEpoch seconds (micros % 1000000).toNat

/-- The date-time in universal time at an integral number of milliseconds from the epoch. -/
def ofEpochMillis (millis : Int) : Except EpochFault DateTime :=
  match Binary64.ofRatio (millis < 0) millis.natAbs 1000 with
  | .infinite _ => .error .quotientTooLarge
  | seconds => ofEpochSeconds seconds

end DateTime

end EventEnvelope
