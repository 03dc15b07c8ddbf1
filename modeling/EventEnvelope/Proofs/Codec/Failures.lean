/-
  EventEnvelope.Proofs.Codec.Failures
  ───────────────────────────────────
  **The failures that the codec lets through.**

  Whatever the codec cannot write or convert is to be a failure of its own kind.  Writing keeps to
  that except for decimals without a number, which stop the arithmetic, and for copies of a record
  that do not end.  The conversions turn what the ISO reader refuses into failures of the codec, but
  they let through what the numeral reader and the clock refuse, and that a value has no text.

    • `EscapesDumps`            — the two ways out of writing, each with its kind,
    • `dumps_escapes_iff`       — writing fails with another kind in exactly these cases,
    • `SpellsMillis`            — the texts of digits that are a date-time,
    • `Escapes`                 — the values whose conversion fails otherwise,
    • `convert_escapes_iff`     — **the conversions of a configured codec**.
-/
import EventEnvelope.Proofs.Calendar.Instants
import EventEnvelope.Proofs.Codec.Configuration
import EventEnvelope.Proofs.Json.Stops
import EventEnvelope.Proofs.OrderedMap
import EventEnvelope.Proofs.Text.Numerals
import EventEnvelope.Proofs.Value.Texts

namespace EventEnvelope

namespace Codec

/-! ## §1. Writing. -/

/-- How writing a value can fail with a kind that is not the codec's. -/
inductive EscapesDumps (v : Value) : ErrorKind → Prop
  /-- The writer comes to a decimal without a number. -/
  | decimal (fault : DecimalFault) (hstops : Json.StopsAt .compact 0 v (.decimal fault)) :
      EscapesDumps v .invalidOperation
  /-- The writer comes to a record that is copied without end. -/
  | endless (hstops : Json.StopsAt .compact 0 v .endless) : EscapesDumps v .recursion

/-- What cannot be written is a failure of the codec or escapes from it. -/
theorem dumps_error {v : Value} {failure : Failure} (h : dumps v = .error failure) :
    (∃ fault, failure = .codec fault) ∨ EscapesDumps v failure.kind := by
  unfold dumps at h
  split at h
  · cases h
  next fault hencode =>
    cases h
    exact .inr (.decimal fault (Json.encode_eq_foreign_error.mp ⟨hencode, .decimal fault⟩))
  next hencode =>
    cases h
    exact .inr (.endless (Json.encode_eq_foreign_error.mp ⟨hencode, .endless⟩))
  next =>
    cases h
    exact .inl ⟨_, rfl⟩

/-- The number of milliseconds is a date-time. -/
def IsMillis (millis : Int) : Prop := DateTime.firstMillis ≤ millis ∧ millis < DateTime.endMillis

instance (millis : Int) : Decidable (IsMillis millis) := inferInstanceAs (Decidable (_ ∧ _))

/-- The text of digits is a number, and that number is a date-time. -/
def SpellsMillis (t : Text) : Prop := Numeral.IsNumber t ∧ IsMillis (Numeral.spelled t)

end Codec

namespace Scalar

open Codec

/-- A conversion ends with a failure that is not the codec's. -/
def Escaping (r : Except Failure Value) : Prop :=
  ∃ failure, r = .error failure ∧ failure.kind ≠ .codec

theorem not_escaping_ok (v : Value) : ¬ Escaping (.ok v) := by
  rintro ⟨_, h, -⟩
  cases h

theorem not_escaping_codec (fault : CodecFault) : ¬ Escaping (.error (.codec fault)) := by
  rintro ⟨_, h, hkind⟩
  cases h
  exact hkind rfl

theorem escaping_numeral (fault : NumeralFault) : Escaping (.error (.numeral fault)) :=
  ⟨_, rfl, by show ErrorKind.value ≠ .codec; decide⟩

theorem escaping_integerTooLong : Escaping (.error .integerTooLong) := ⟨_, rfl, by decide⟩

/-- Whatever the clock or the calendar refuses is let through. -/
theorem escaping_epoch (fault : EpochFault) : Escaping (.error (.epoch fault)) := by
  refine ⟨_, rfl, ?_⟩
  cases fault with
  | yearOutOfRange year =>
      show ErrorKind.value ≠ .codec
      decide
  | notANumber => decide
  | quotientTooLarge => decide
  | beyondClock => decide
  | beyondCalendar => decide

theorem escaping_ofMillis_iff (millis : Int) : Escaping (ofMillis millis) ↔ ¬ IsMillis millis := by
  unfold IsMillis
  rw [← DateTime.ofEpochMillis_error_iff millis, ofMillis]
  cases DateTime.ofEpochMillis millis with
  | ok t => simp [not_escaping_ok]
  | error fault => simp [escaping_epoch]

theorem escaping_ofFractionalMillis_iff (millis : Binary64) :
    Escaping (ofFractionalMillis millis) ↔ ¬ DateTime.IsInYears (millis.scale 1 1000) := by
  rw [← DateTime.ofEpochSeconds_error_iff (millis.scale 1 1000), ofFractionalMillis]
  cases DateTime.ofEpochSeconds (millis.scale 1 1000) with
  | ok t => simp [not_escaping_ok]
  | error fault => simp [escaping_epoch]

/-- **A text of digits** is let through unless it is a number and that number a date-time; any other
text is a matter of the ISO reader. -/
theorem escaping_dateTimeOfText_iff (t : Text) :
    Escaping (dateTimeOfText t) ↔ looksLikeMillis t.strip = true ∧ ¬ SpellsMillis t.strip := by
  unfold dateTimeOfText
  dsimp only
  by_cases hlooks : looksLikeMillis t.strip = true
  · rw [if_pos hlooks]
    obtain ⟨hnumber, hother⟩ := Numeral.read_signed (t := t.strip) hlooks
    by_cases h : Numeral.IsNumber t.strip
    · rw [hnumber h]
      simp [escaping_ofMillis_iff, SpellsMillis, h, hlooks]
    · obtain ⟨fault, hread⟩ := hother h
      rw [hread]
      simp [escaping_numeral, SpellsMillis, h, hlooks]
  · rw [if_neg hlooks]
    refine ⟨fun hescape => ?_, fun hescape => absurd hescape.1 hlooks⟩
    split at hescape
    · exact absurd hescape (not_escaping_ok _)
    · exact absurd hescape (not_escaping_codec _)

/-! ## §3. The three conversions. -/

end Scalar

/-- A value of one of the codec's own targets. -/
inductive ScalarTarget.Holds : ScalarTarget → Value → Prop
  | dateTime (t : DateTime) : Holds .dateTime (.dateTime t)
  | date (d : Date) : Holds .date (.date d)
  | time (t : TimeOfDay) : Holds .time (.time t)

namespace Scalar

open Codec

/-- The values whose conversion fails with a kind that is not the codec's. -/
inductive Escapes : ScalarTarget → Value → Prop
  | int (n : Int) (h : ¬ IsMillis n) : Escapes .dateTime (.int n)
  | status (s : HttpStatus) (h : ¬ IsMillis s.code) : Escapes .dateTime (.status s)
  | float (x : Binary64) (h : ¬ DateTime.IsInYears (x.scale 1 1000)) :
      Escapes .dateTime (.float x)
  /-- A text that passes for a number and is none, or none of a date-time. -/
  | text (t : Text) (hlooks : looksLikeMillis t.strip = true) (h : ¬ SpellsMillis t.strip) :
      Escapes .dateTime (.text t)
  /-- A value that does not read as a date, and cannot be shown in the message that says so. -/
  | date (v : Value) (hread : v.display?.bind Date.ofIso? = none) (h : v.Unshowable) :
      Escapes .date v
  | time (v : Value) (hread : v.display?.bind TimeOfDay.ofIso? = none) (h : v.Unshowable) :
      Escapes .time v

theorem dateTime_ok {v r : Value} (h : dateTime v = .ok r) : ScalarTarget.dateTime.Holds r := by
  have hmillis : ∀ n, ofMillis n = .ok r → ScalarTarget.dateTime.Holds r := by
    intro n h
    unfold ofMillis at h
    split at h <;> cases h
    exact .dateTime _
  unfold dateTime at h
  split at h
  · cases h
    exact .dateTime _
  · exact hmillis _ h
  · exact hmillis _ h
  · unfold ofFractionalMillis at h
    split at h <;> cases h
    exact .dateTime _
  · unfold dateTimeOfText at h
    dsimp only at h
    split at h
    · split at h
      · exact hmillis _ h
      · cases h
    · split at h <;> cases h
      exact .dateTime _
  · cases h

theorem escaping_dateTime_iff (v : Value) : Escaping (dateTime v) ↔ Escapes .dateTime v := by
  constructor
  · intro h
    unfold dateTime at h
    split at h
    · exact absurd h (not_escaping_ok _)
    next n => exact .int n ((escaping_ofMillis_iff n).mp h)
    next s => exact .status s ((escaping_ofMillis_iff _).mp h)
    next x => exact .float x ((escaping_ofFractionalMillis_iff x).mp h)
    next t =>
      obtain ⟨hlooks, hspells⟩ := (escaping_dateTimeOfText_iff t).mp h
      exact .text t hlooks hspells
    · exact absurd h (not_escaping_codec _)
  · intro h
    cases h with
    | int n h => exact (escaping_ofMillis_iff n).mpr h
    | status s h => exact (escaping_ofMillis_iff s.code).mpr h
    | float x h => exact (escaping_ofFractionalMillis_iff x).mpr h
    | text t hlooks h => exact (escaping_dateTimeOfText_iff t).mpr ⟨hlooks, h⟩

section OfDisplay

variable {α : Type} {read : Text → Option α} {wrap : α → Value} {fault : Text → CodecFault}

theorem ofDisplay_ok {v r : Value} (h : ofDisplay read wrap fault v = .ok r) : ∃ a, r = wrap a := by
  unfold ofDisplay at h
  split at h
  · cases h
    exact ⟨_, rfl⟩
  · obtain ⟨text, -, h⟩ := bind_eq_ok.mp h
    cases h

/-- What the ISO reader refuses is a failure of the codec, if its message has a text. -/
theorem escaping_ofDisplay_iff (v : Value) :
    Escaping (ofDisplay read wrap fault v) ↔ v.display?.bind read = none ∧ v.Unshowable := by
  unfold ofDisplay
  rw [← Value.shown?_eq_none_iff]
  cases v.display?.bind read with
  | some a => simp [not_escaping_ok]
  | none =>
      unfold Value.shown
      cases v.shown? with
      | some text => exact iff_of_false (not_escaping_codec (fault text)) fun h => nomatch h.2
      | none => exact iff_of_true escaping_integerTooLong ⟨rfl, rfl⟩

/-- A text displays as itself. -/
theorem ofDisplay_text {t : Text} {a : α} (h : read t = some a) :
    ofDisplay read wrap fault (.text t) = .ok (wrap a) := by
  unfold ofDisplay
  rw [Value.display?, Option.bind_some, h]

end OfDisplay

theorem date_ok {v r : Value} (h : date v = .ok r) : ScalarTarget.date.Holds r := by
  unfold date at h
  split at h
  · cases h
    exact .date _
  · cases h
    exact .date _
  · obtain ⟨d, rfl⟩ := ofDisplay_ok h
    exact .date d

theorem escaping_date_iff (v : Value) : Escaping (date v) ↔ Escapes .date v := by
  have hescapes : Escapes .date v ↔ v.display?.bind Date.ofIso? = none ∧ v.Unshowable :=
    ⟨fun h => by cases h; exact ⟨‹_›, ‹_›⟩, fun h => .date v h.1 h.2⟩
  rw [hescapes]
  unfold date
  split
  · exact ⟨fun h => absurd h (not_escaping_ok _), fun h => by cases h.2⟩
  · exact ⟨fun h => absurd h (not_escaping_ok _), fun h => by cases h.2⟩
  · exact escaping_ofDisplay_iff _

theorem time_ok {v r : Value} (h : time v = .ok r) : ScalarTarget.time.Holds r := by
  unfold time at h
  split at h
  · cases h
    exact .time _
  · obtain ⟨t, rfl⟩ := ofDisplay_ok h
    exact .time t

theorem escaping_time_iff (v : Value) : Escaping (time v) ↔ Escapes .time v := by
  have hescapes : Escapes .time v ↔ v.display?.bind TimeOfDay.ofIso? = none ∧ v.Unshowable :=
    ⟨fun h => by cases h; exact ⟨‹_›, ‹_›⟩, fun h => .time v h.1 h.2⟩
  rw [hescapes]
  unfold time
  split
  · exact ⟨fun h => absurd h (not_escaping_ok _), fun h => by cases h.2⟩
  · exact escaping_ofDisplay_iff _

end Scalar

/-! ## §4. The configured codec. -/

namespace Codec

/-- The conversions that the conventions bring replace whatever there was. -/
theorem deserializer?_applied (c : Codec) :
    c.applied.deserializer? .dateTime = some Scalar.dateTime
      ∧ c.applied.deserializer? .date = some Scalar.date
      ∧ c.applied.deserializer? .time = some Scalar.time := by
  have hget : ∀ target, c.applied.deserializer? target
      = if ScalarTarget.time == target then some Scalar.time
        else if ScalarTarget.date == target then some Scalar.date
        else if ScalarTarget.dateTime == target then some Scalar.dateTime
        else c.deserializer? target := by
    intro target
    show (((c.deserializers.insert .dateTime Scalar.dateTime).insert .date Scalar.date).insert .time
      Scalar.time).get? target = _
    rw [OrderedMap.get?_insert, OrderedMap.get?_insert, OrderedMap.get?_insert]
    rfl
  exact ⟨hget .dateTime, hget .date, hget .time⟩

/-- **What escapes from a conversion.**  On every codec with the conventions applied, each of the
three conversions gives a value of its target or fails, and it fails with a kind that is not the
codec's exactly on these values: numbers and texts of digits that are no date-time, and, for dates
and times of day, values that read as nothing and cannot be shown. -/
theorem convert_escapes_iff (c : Codec) (target : ScalarTarget)
    (htarget : target ∈ ScalarTarget.own) (v : Value) :
    ∃ convert, c.applied.deserializer? target = some convert
      ∧ (∀ r, convert v = .ok r → target.Holds r)
      ∧ (Scalar.Escaping (convert v) ↔ Scalar.Escapes target v) := by
  obtain ⟨hdateTime, hdate, htime⟩ := deserializer?_applied c
  cases target with
  | dateTime => exact ⟨_, hdateTime, fun _ => Scalar.dateTime_ok, Scalar.escaping_dateTime_iff v⟩
  | date => exact ⟨_, hdate, fun _ => Scalar.date_ok, Scalar.escaping_date_iff v⟩
  | time => exact ⟨_, htime, fun _ => Scalar.time_ok, Scalar.escaping_time_iff v⟩
  | named name => simp [ScalarTarget.own] at htarget

/-- The first millisecond of the year 10000. -/
theorem convert_escapes_endMillis :
    ScalarTarget.dateTime ∈ ScalarTarget.own
      ∧ ∃ convert, fresh.applied.deserializer? .dateTime = some convert
          ∧ Scalar.Escaping (convert (.int 253402300800000)) := by
  have htarget : ScalarTarget.dateTime ∈ ScalarTarget.own := by decide
  obtain ⟨convert, hconvert, -, hescapes⟩ :=
    convert_escapes_iff fresh .dateTime htarget (.int 253402300800000)
  exact ⟨htarget, convert, hconvert, hescapes.mpr (.int _ (by decide))⟩

theorem convert_endMillis :
    (fresh.applied.deserializer? .dateTime).map
        (fun convert => kindOf? (convert (.int 253402300800000))) = some (some .value)
      ∧ ErrorKind.value ≠ .codec := by
  decide +kernel

end Codec

end EventEnvelope
