/-
  EventEnvelope.Value.Display
  ───────────────────────────
  **Values as text, for headers, messages and logs.**

  `shown?` is the form in which a value appears inside another one or in a message: texts are
  quoted, dates are written as constructor calls, unknown objects by their label.  `display?` is the
  form of a value on its own: texts as they are, dates in ISO form, all else as shown.  An integer
  of more than `digitLimit` digits has neither, and no more has a value that it would be shown in.
-/
import EventEnvelope.Value
import EventEnvelope.Calendar.Iso
import EventEnvelope.Number.Shortest

namespace EventEnvelope

/-! ## §1. Dates and times as calls. -/

/-- A span of time as a call, with days, seconds and microseconds where they are not zero. -/
def shownSpan (microseconds : Int) : Text :=
  let part (name : Text) (n : Int) : List Text :=
    if n = 0 then [] else [name ++ "=" ++ Text.ofInt n]
  let parts := part "days" (microseconds / microsecondsPerDay)
    ++ part "seconds" (microseconds % microsecondsPerDay / 1000000)
    ++ part "microseconds" (microseconds % 1000000)
  "datetime.timedelta(" ++ (if parts.isEmpty then ("0" : Text) else Text.joinWith ", " parts) ++ ")"

/-- An offset as an argument of a call. -/
def UtcOffset.shown (o : UtcOffset) : Text :=
  if o.microseconds = 0 then "datetime.timezone.utc"
  else "datetime.timezone(" ++ shownSpan o.microseconds ++ ")"

/-- The arguments of a time of day; seconds and microseconds are left out where nothing but zeros
follows. -/
def TimeOfDay.arguments (t : TimeOfDay) : List Text :=
  let fields :=
    if t.microsecond ≠ 0 then [t.hour, t.minute, t.second, t.microsecond]
    else if t.second ≠ 0 then [t.hour, t.minute, t.second]
    else [t.hour, t.minute]
  fields.map Text.ofNat
    ++ (t.offset.map fun o => [Text.ofString "tzinfo=" ++ o.shown]).getD []

/-- The arguments of a date. -/
def Date.arguments (d : Date) : List Text := [d.year, d.month, d.day].map Text.ofNat

/-- A call with arguments. -/
def shownCall (name : Text) (arguments : List Text) : Text :=
  name ++ "(" ++ Text.joinWith ", " arguments ++ ")"

namespace Value

/-! ## §2. Values inside others. -/

/-- The element of a tuple of one, and the elements of any other. -/
def shownTuple (parts : List Text) : Text :=
  "(" ++ Text.joinWith ", " parts ++ (if parts.length = 1 then "," else "") ++ ")"

/-- Entries between braces. -/
def shownEntries (parts : List Text) : Text := "\x7b" ++ Text.joinWith ", " parts ++ "\x7d"

mutual

/-- A value inside another one or in a message. -/
def shown? : Value → Option Text
  | null => some "None"
  | bool b => some (if b then "True" else "False")
  | int n => Text.ofInt? n
  | status s => some ("<HTTPStatus." ++ s.name ++ ": " ++ Text.ofNat s.code ++ ">")
  | float x => some x.toText
  | decimal x => some ("Decimal('" ++ x.toText ++ "')")
  | text t => some (Quoted.ofText t)
  | bytes b => some (Quoted.ofBytes b)
  | buffer b => some ("bytearray(" ++ Quoted.ofBytes b ++ ")")
  | list items => do
      let parts ← shownAll? items
      return "[" ++ Text.joinWith ", " parts ++ "]"
  | tuple items => do
      let parts ← shownAll? items
      return shownTuple parts
  | object fields => do
      let parts ← shownFields? fields
      return shownEntries parts
  | dateTime t => some (shownCall "datetime.datetime" (t.date.arguments ++ t.time.arguments))
  | date d => some (shownCall "datetime.date" d.arguments)
  | time t => some (shownCall "datetime.time" t.arguments)
  | event _ _ own => own.shown
  | record className fields => do
      let parts ← shownNamed? fields
      return shownCall className parts
  | message payload headers => do
      let payload ← shown? payload
      let parts ← shownFields? headers
      return shownCall "Message"
        ["payload=" ++ payload, "headers=" ++ shownCall "mappingproxy" [shownEntries parts]]
  | unknown label => some ("<opaque " ++ label ++ ">")
  | type c => some c.shown
  | circularList => some "[[...]]"
  | circularObject => some "\x7b'self': \x7b...\x7d\x7d"

/-- Values one by one. -/
def shownAll? : List Value → Option (List Text)
  | [] => some []
  | v :: rest => do
      let text ← shown? v
      let texts ← shownAll? rest
      return text :: texts

/-- Entries one by one. -/
def shownFields? : List (Value × Value) → Option (List Text)
  | [] => some []
  | (k, v) :: rest => do
      let key ← shown? k
      let text ← shown? v
      let texts ← shownFields? rest
      return (key ++ ": " ++ text) :: texts

/-- The fields of a record one by one. -/
def shownNamed? : List (Text × Value) → Option (List Text)
  | [] => some []
  | (name, v) :: rest => do
      let text ← shown? v
      let texts ← shownNamed? rest
      return (name ++ "=" ++ text) :: texts

end

/-! ## §3. Values on their own. -/

/-- A value on its own. -/
def display? : Value → Option Text
  | text t => some t
  | status s => some (Text.ofNat s.code)
  | decimal x => some x.toText
  | dateTime t => some (t.iso " ")
  | date d => some d.iso
  | time t => some t.iso
  | event _ _ own => own.display
  | v => v.shown?

end Value

end EventEnvelope
