/-
  EventEnvelope.Calendar.Iso
  ──────────────────────────
  **ISO 8601 text of dates, times and date-times.**

  Writing is canonical: four-digit years, a fraction of six digits or none, offsets to the
  minute unless finer ones are needed.

  Reading accepts more: the basic forms without separators, week dates, any single character
  between date and time, one to six digits of fraction (further digits are cut), and a comma as
  the decimal mark.  A NUL ends the text early, as does its end.
-/
import EventEnvelope.Calendar.Basic
import EventEnvelope.Text.Utf8

namespace EventEnvelope

/-! ## §1. Writing. -/

/-- Year, month and day with dashes. -/
def Date.iso (d : Date) : Text :=
  Text.padded 4 d.year ++ "-" ++ Text.padded 2 d.month ++ "-" ++ Text.padded 2 d.day

/-- Seconds and, unless it is zero, their fraction. -/
def isoSeconds (second microsecond : Nat) : Text :=
  Text.padded 2 second
    ++ (if microsecond = 0 then ([] : Text) else "." ++ Text.padded 6 microsecond)

/-- Hours and minutes with a sign; seconds only where they are not zero. -/
def UtcOffset.iso (o : UtcOffset) : Text :=
  let n := o.microseconds.natAbs
  let second := n / 1000000 % 60
  let microsecond := n % 1000000
  (if o.microseconds < 0 then "-" else "+")
    ++ Text.padded 2 (n / 3600000000) ++ ":" ++ Text.padded 2 (n / 60000000 % 60)
    ++ (if second = 0 ∧ microsecond = 0 then ([] : Text)
        else ":" ++ isoSeconds second microsecond)

/-- Hours, minutes, seconds, and the offset if there is one. -/
def TimeOfDay.iso (t : TimeOfDay) : Text :=
  Text.padded 2 t.hour ++ ":" ++ Text.padded 2 t.minute ++ ":"
    ++ isoSeconds t.second t.microsecond ++ (t.offset.map UtcOffset.iso).getD []

/-- Date and time with a separator between them. -/
def DateTime.iso (separator : Text) (t : DateTime) : Text :=
  t.date.iso ++ separator ++ t.time.iso

/-! ## §2. Reading dates. -/

namespace Iso

/-- Read exactly `count` ASCII digits. -/
def digits? : (count : Nat) → Text → Option (Nat × Text)
  | 0, t => some (0, t)
  | _ + 1, [] => none
  | count + 1, c :: rest => do
      let d ← c.digitValue?
      let (n, after) ← digits? count rest
      some (d * Nat.pow 10 count + n, after)

/-- The text begins with this character. -/
def startsWith (mark : Char) (t : Text) : Bool := t.head? == some (CodePoint.ofChar mark)

/-- The text without the character it begins with, if that is this one. -/
def skip? (mark : Char) (t : Text) : Option Text :=
  if startsWith mark t then some (t.drop 1) else none

/-- Read the week and, if anything follows, the weekday; what follows the weekday is ignored. -/
def weekDate? (year : Nat) (dashed : Bool) (t : Text) : Option Date := do
  let (week, rest) ← digits? 2 t
  if rest.isEmpty then Date.ofIsoWeek? year week 1
  else
    let rest ← if dashed then skip? '-' rest else some rest
    let (day, _) ← digits? 1 rest
    Date.ofIsoWeek? year week day

/-- Read a month and a day; what follows the day is ignored. -/
def monthDate? (year : Nat) (dashed : Bool) (t : Text) : Option Date := do
  let (month, rest) ← digits? 2 t
  let rest ← if dashed then skip? '-' rest else some rest
  let (day, _) ← digits? 2 rest
  Date.of? year month day

/-- Read a date; dashes are used everywhere or nowhere. -/
def date? (t : Text) : Option Date := do
  let (year, rest) ← digits? 4 t
  let dashed := startsWith '-' rest
  let rest := if dashed then rest.drop 1 else rest
  match skip? 'W' rest with
  | some rest => weekDate? year dashed rest
  | none => monthDate? year dashed rest

end Iso

/-- Read a text that holds a date and nothing else: seven, eight or ten bytes in UTF-8. -/
def Date.ofIso? (t : Text) : Option Date :=
  let size := (t.flatMap Utf8.bytesOf).length
  if !t.hasSurrogate && (size == 7 || size == 8 || size == 10) then Iso.date? t else none

/-! ## §3. Reading times. -/

namespace Iso

/-- The fields of a clock, not yet known to be in range. -/
structure Clock where
  hour : Nat
  minute : Nat
  second : Nat
  microsecond : Nat

/-- Text that is not at its end, nor at a NUL. -/
def continues (t : Text) : Bool :=
  match t with
  | [] => false
  | c :: _ => c.toNat ≠ 0

/-- Read a fraction of a second: up to six digits count, further ones are skipped.  The flag says
that something follows. -/
def fraction? (t : Text) : Option (Nat × Bool) := do
  let count := min 6 t.length
  let (n, rest) ← digits? count t
  some (n * Nat.pow 10 (6 - count), continues (rest.dropWhile fun c => c.digitValue?.isSome))

/-- What follows a field of a clock. -/
inductive AfterField
  /-- The clock ends here, with something after it or not. -/
  | done (continues : Bool)
  /-- The next field begins with this text. -/
  | field (rest : Text)
  /-- The fraction begins with this text. -/
  | fraction (rest : Text)

/-- Decide what follows a field; `colons` says that colons separate the fields.  A clock ends where
at most one byte of UTF-8 is left. -/
def afterField? (colons : Bool) (t : Text) : Option AfterField :=
  if (t.flatMap Utf8.bytesOf).length ≤ 1 then some (.done (continues t))
  else if colons && startsWith ':' t then some (.field (t.drop 1))
  else if startsWith '.' t || startsWith ',' t then some (.fraction (t.drop 1))
  else if colons then none
  else some (.field t)

/-- Read hours, minutes, seconds and a fraction, each but the first optional.  The flag says that
something follows.  A fourth field is a fraction whatever separates it. -/
def clock? (t : Text) : Option (Clock × Bool) := do
  let (hour, rest) ← digits? 2 t
  let colons := startsWith ':' rest
  match ← afterField? colons rest with
  | .done more => some (⟨hour, 0, 0, 0⟩, more)
  | .fraction rest =>
      let (micro, more) ← fraction? rest
      some (⟨hour, 0, 0, micro⟩, more)
  | .field rest =>
      let (minute, rest) ← digits? 2 rest
      match ← afterField? colons rest with
      | .done more => some (⟨hour, minute, 0, 0⟩, more)
      | .fraction rest =>
          let (micro, more) ← fraction? rest
          some (⟨hour, minute, 0, micro⟩, more)
      | .field rest =>
          let (second, rest) ← digits? 2 rest
          match ← afterField? colons rest with
          | .done more => some (⟨hour, minute, second, 0⟩, more)
          | .fraction rest =>
              let (micro, more) ← fraction? rest
              some (⟨hour, minute, second, micro⟩, more)
          | .field rest =>
              let (micro, more) ← fraction? rest
              some (⟨hour, minute, second, micro⟩, more)

/-- The character with which an offset begins. -/
def isZoneMark (c : CodePoint) : Bool :=
  c == CodePoint.ofChar '+' || c == CodePoint.ofChar '-' || c == CodePoint.ofChar 'Z'

/-- The offset that a clock after a sign spells.  Less than a second counts as none. -/
def offsetOf? (negative : Bool) (clock : Clock) : Option UtcOffset :=
  let seconds := clock.hour * 3600 + clock.minute * 60 + clock.second
  if seconds = 0 then some .utc
  else
    let n : Int := seconds * 1000000 + clock.microsecond
    UtcOffset.ofMicroseconds? (if negative then -n else n)

/-- Read an offset that begins with `mark`. -/
def offset? (mark : CodePoint) (t : Text) : Option UtcOffset :=
  if mark = .ofChar 'Z' then (if continues t then none else some .utc)
  else
    match clock? t with
    | some (clock, false) => offsetOf? (mark = .ofChar '-') clock
    | _ => none

/-- Read a time of day. -/
def time? (t : Text) : Option TimeOfDay := do
  let (clock, more) ← clock? (t.takeWhile fun c => !isZoneMark c)
  match t.dropWhile fun c => !isZoneMark c with
  | [] =>
      if more then none
      else TimeOfDay.of? clock.hour clock.minute clock.second clock.microsecond none
  | mark :: rest =>
      let offset ← offset? mark rest
      TimeOfDay.of? clock.hour clock.minute clock.second clock.microsecond (some offset)

end Iso

/-- Read a text that holds a time of day, which a `T` may announce. -/
def TimeOfDay.ofIso? (t : Text) : Option TimeOfDay :=
  if t.hasSurrogate then none else Iso.time? ((Iso.skip? 'T' t).getD t)

/-! ## §4. Reading date-times. -/

namespace Iso

/-- This character stands at this index. -/
def markAt (mark : Char) (t : Text) (i : Nat) : Bool := t[i]? == some (CodePoint.ofChar mark)

/-- Where the date ends, from the characters after the year.  In the week form without dashes an
odd number of digits before the first other character means that the weekday is among them; in
the form with dashes a digit at index ten means that the dash before it begins the time. -/
def dateLength (t : Text) : Nat :=
  if t.length = 7 then 7
  else if markAt '-' t 4 then
    if markAt 'W' t 5 then
      if markAt '-' t 8 && (t[10]?.bind CodePoint.digitValue?).isNone then 10 else 8
    else 10
  else if markAt 'W' t 4 then
    let stop := 7 + ((t.drop 7).takeWhile fun c => c.digitValue?.isSome).length
    if stop < 9 then stop else if stop % 2 = 0 then 7 else 8
  else 8

/-- A surrogate where the date may end counts as an ordinary separator. -/
def admitSeparator (t : Text) : Text :=
  match [7, 8, 10].find? fun i => (t[i]?.map CodePoint.isSurrogate).getD false with
  | some i => t.set i (.ofChar 'T')
  | none => t

end Iso

/-- Read a date-time, or a date, which stands for its midnight. -/
def DateTime.ofIso? (t : Text) : Option DateTime := do
  let t := Iso.admitSeparator t
  if t.length < 7 || t.hasSurrogate then none
  else
    let n := Iso.dateLength t
    let date ← Iso.date? (t.take n)
    if t.length ≤ n then some ⟨date, .midnight⟩
    else
      let time ← Iso.time? (t.drop (n + 1))
      some ⟨date, time⟩

end EventEnvelope
