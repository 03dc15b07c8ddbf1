/-
  EventEnvelope.Codec.Scalar
  ──────────────────────────
  **Dates and times out of JSON scalars.**

  A date-time is read from a number of milliseconds since the epoch, from a text of digits that
  spells one, or from ISO text.  Dates and times of day are read from the ISO text that any other
  value displays as.  Values that are already of the target type stay as they are.
-/
import EventEnvelope.Failure

namespace EventEnvelope

/-- The types for which values can be converted. -/
inductive ScalarTarget
  | dateTime
  | date
  | time
  /-- Any other type, by its name. -/
  | named (name : Text)
deriving DecidableEq

namespace ScalarTarget

/-- The name of a target. -/
def name : ScalarTarget → Text
  | dateTime => "datetime"
  | date => "date"
  | time => "time"
  | named name => name

/-- The targets that the codec's own modules supply. -/
def own : List ScalarTarget := [dateTime, date, time]

/-- The target with this name. -/
def ofName (name : Text) : ScalarTarget := (own.find? fun t => t.name == name).getD (named name)

end ScalarTarget

/-- A conversion to a target type. -/
abbrev Deserializer := Value → Except Failure Value

namespace Scalar

/-- The date-time at a number of milliseconds. -/
def ofMillis (millis : Int) : Except Failure Value :=
  match DateTime.ofEpochMillis millis with
  | .ok t => .ok (.dateTime t)
  | .error fault => .error (.epoch fault)

/-- The date-time at a number of milliseconds with a fraction. -/
def ofFractionalMillis (millis : Binary64) : Except Failure Value :=
  match DateTime.ofEpochSeconds (millis.scale 1 1000) with
  | .ok t => .ok (.dateTime t)
  | .error fault => .error (.epoch fault)

/-- Digits, with any number of minus signs before them. -/
def looksLikeMillis (t : Text) : Bool :=
  Text.isDigits (t.dropWhile fun c => c == CodePoint.ofChar '-')

/-- The date-time that a text spells. -/
def dateTimeOfText (t : Text) : Except Failure Value :=
  let stripped := t.strip
  if looksLikeMillis stripped then
    match Numeral.read stripped with
    | .ok millis => ofMillis millis
    | .error fault => .error (.numeral fault)
  else
    match DateTime.ofIso? (Text.replaceAll 'Z' "+00:00" stripped) with
    | some d => .ok (.dateTime d)
    | none => .error (.codec (.invalidDateTime (Quoted.ofText t)))

/-- A value as a date-time. -/
def dateTime : Deserializer
  | .dateTime t => .ok (.dateTime t)
  | .int n => ofMillis n
  | .status s => ofMillis s.code
  | .float x => ofFractionalMillis x
  | .text t => dateTimeOfText t
  | v => .error (.codec (.cannotConvert v.typeName))

/-- Read what a value displays as.  A value that reads as nothing is named in the message, and one
that has no text for that is an error of its own. -/
def ofDisplay {α : Type} (read : Text → Option α) (wrap : α → Value) (fault : Text → CodecFault) :
    Deserializer := fun v =>
  match v.display?.bind read with
  | some a => .ok (wrap a)
  | none => do
      let text ← v.shown
      .error (.codec (fault text))

/-- A value as a date. -/
def date : Deserializer
  | .dateTime t => .ok (.date t.date)
  | .date d => .ok (.date d)
  | v => ofDisplay Date.ofIso? .date .invalidDate v

/-- A value as a time of day. -/
def time : Deserializer
  | .time t => .ok (.time t)
  | v => ofDisplay TimeOfDay.ofIso? .time .invalidTime v

/-- A conversion that only puts the name of the target beside the value. -/
def tagged (target : ScalarTarget) : Deserializer :=
  fun v => .ok (.tuple [.text target.name, v])

end Scalar

end EventEnvelope
