/-
  EventEnvelope.Proofs.Codec.RoundTrips
  ─────────────────────────────────────
  **Dates, times of day and date-times through JSON and back.**

  A date or a time of day is written as its ISO text, so it is read as that text, and the conversion
  for its target takes the text apart again.  A date-time is written as a number of milliseconds,
  which is read and converted exactly; what gets lost is lost before the number is there.

    • `RoundTrips`                 — writing, reading and converting give a value back,
    • `dates_and_times_round_trip` — **every date, and every time of day with a whole offset**,
    • `dateTime_round_trip_iff`    — **the date-times that survive**, from 1970 to 2100.
-/
import EventEnvelope.Proofs.Calendar.IsoText
import EventEnvelope.Proofs.Calendar.Milliseconds
import EventEnvelope.Proofs.Codec.Failures
import EventEnvelope.Proofs.Json.RoundTrip

namespace EventEnvelope

namespace Codec

/-! ## §1. Values that are written as others. -/

/-- A value that is written as another one is read as that one. -/
theorem loads_dumps_of_encode {v w : Value} (hencode : Json.encode v = Json.encode w)
    (hw : Json.Encodable w) :
    ∃ bytes, dumps v = .ok bytes ∧ loads (.bytes bytes) = .ok w := by
  obtain ⟨bytes, hbytes, hread⟩ := Json.read_encode hw
  refine ⟨bytes, ?_, ?_⟩
  · rw [dumps, hencode, hbytes]
  · rw [loads, hread]

theorem loads_dumps_date (d : Date) :
    ∃ bytes, dumps (.date d) = .ok bytes ∧ loads (.bytes bytes) = .ok (.text d.iso) :=
  loads_dumps_of_encode rfl (.text _ (d.within_iso.hasSurrogate (by decide)))

theorem loads_dumps_time (t : TimeOfDay) :
    ∃ bytes, dumps (.time t) = .ok bytes ∧ loads (.bytes bytes) = .ok (.text t.iso) :=
  loads_dumps_of_encode rfl (.text _ (t.within_iso.hasSurrogate (by decide)))

/-! ## §2. Dates and times of day. -/

/-- Writing a value, reading it and converting it to the target gives the value back, whatever had
been registered before the conventions. -/
def RoundTrips (c : Codec) (target : ScalarTarget) (v : Value) : Prop :=
  ∃ bytes document convert, dumps v = .ok bytes ∧ loads (.bytes bytes) = .ok document
    ∧ c.applied.deserializer? target = some convert ∧ convert document = .ok v

theorem roundTrips_date (c : Codec) (d : Date) : c.RoundTrips .date (.date d) := by
  obtain ⟨bytes, hdumps, hloads⟩ := loads_dumps_date d
  exact ⟨bytes, _, _, hdumps, hloads, (deserializer?_applied c).2.1,
    Scalar.ofDisplay_text d.ofIso?_iso⟩

/-- The conversion gives the time of day with the offset that is left of its own. -/
theorem time_iso (t : TimeOfDay) :
    Scalar.time (.text t.iso)
      = .ok (.time { t with offset := t.offset.map Iso.wholeOrUtc }) :=
  Scalar.ofDisplay_text t.ofIso?_iso

theorem wholeOrUtc_eq_self_iff (o : UtcOffset) :
    Iso.wholeOrUtc o = o ↔ o.microseconds = 0 ∨ 1000000 ≤ o.microseconds.natAbs := by
  unfold Iso.wholeOrUtc
  split
  next hsmall =>
    constructor
    · intro h
      rw [← h]
      exact .inl rfl
    · rintro (hzero | hlarge)
      · obtain ⟨n, hn⟩ := o
        cases hzero
        rfl
      · omega
  next hlarge => exact ⟨fun _ => .inr (by omega), fun _ => rfl⟩

/-- **The times of day that survive** are those whose offset, if any, is zero or at least a
second. -/
theorem roundTrips_time_iff (c : Codec) (t : TimeOfDay) :
    c.RoundTrips .time (.time t)
      ↔ ∀ o, t.offset = some o → o.microseconds = 0 ∨ 1000000 ≤ o.microseconds.natAbs := by
  obtain ⟨bytes, hdumps, hloads⟩ := loads_dumps_time t
  have hconvert := (deserializer?_applied c).2.2
  have hsame : (∀ o, t.offset = some o → o.microseconds = 0 ∨ 1000000 ≤ o.microseconds.natAbs)
      ↔ { t with offset := t.offset.map Iso.wholeOrUtc } = t := by
    obtain ⟨hour, minute, second, microsecond, offset, hrange⟩ := t
    cases offset with
    | none => simp
    | some o => simp [wholeOrUtc_eq_self_iff]
  rw [hsame]
  constructor
  · rintro ⟨bytes', document, convert, hdumps', hloads', hconvert', hback⟩
    cases hdumps.symm.trans hdumps'
    cases hloads.symm.trans hloads'
    cases hconvert.symm.trans hconvert'
    rw [time_iso] at hback
    injection hback with hback
    injection hback
  · intro h
    exact ⟨bytes, _, _, hdumps, hloads, hconvert, by rw [time_iso, h]⟩

/-- **Dates and times of day survive.**  On every codec with the conventions applied, each date is
read back, and so is each time of day without an offset or with one of whole minutes, with the same
fields and the same offset. -/
theorem dates_and_times_round_trip (c : Codec) :
    (∀ d : Date, c.RoundTrips .date (.date d))
      ∧ ∀ t : TimeOfDay, (∀ o, t.offset = some o → o.microseconds % 60000000 = 0) →
          c.RoundTrips .time (.time t) := by
  refine ⟨roundTrips_date c, fun t hminutes => (roundTrips_time_iff c t).mpr fun o ho => ?_⟩
  have := hminutes o ho
  omega

/-- The last microsecond of a day, a minute short of a day west. -/
def lastMoment : TimeOfDay := ⟨23, 59, 59, 999999, some ⟨-86340000000, by decide⟩, by decide⟩

theorem lastMoment_round_trips :
    (∀ o, lastMoment.offset = some o → o.microseconds % 60000000 = 0)
      ∧ fresh.RoundTrips .time (.time lastMoment) := by
  have hminutes : ∀ o, lastMoment.offset = some o → o.microseconds % 60000000 = 0 := by
    intro o ho
    cases ho
    decide
  exact ⟨hminutes, (dates_and_times_round_trip fresh).2 lastMoment hminutes⟩

/-! ## §3. Date-times. -/

/-- The decimal text of an integer, as bytes. -/
def decimalBytes (n : Int) : Bytes := (Text.ofInt n).flatMap Utf8.bytesOf

/-- An integer is written as its decimal text. -/
theorem encode_int {n : Int} (hdigits : (Text.ofNat n.natAbs).length ≤ digitLimit) :
    Json.encode (.int n) = .ok (decimalBytes n) := by
  obtain ⟨text, hwrite, -, hencode⟩ := Json.encode_encodable (.int n hdigits)
  rw [Json.write, Json.writeInt_eq_ok hdigits] at hwrite
  cases hwrite
  exact hencode

/-- It is read from that text. -/
theorem loads_decimalBytes {n : Int} (hdigits : (Text.ofNat n.natAbs).length ≤ digitLimit) :
    loads (.bytes (decimalBytes n)) = .ok (.int n) := by
  obtain ⟨bytes, hbytes, hread⟩ := Json.read_encode (.int n hdigits)
  cases (encode_int hdigits).symm.trans hbytes
  rw [loads, hread]

/-- Different integers have different texts. -/
theorem decimalBytes_injective {m n : Int} (hm : (Text.ofNat m.natAbs).length ≤ digitLimit)
    (hn : (Text.ofNat n.natAbs).length ≤ digitLimit) (h : decimalBytes m = decimalBytes n) :
    m = n := by
  have hread := loads_decimalBytes hm
  rw [h, loads_decimalBytes hn] at hread
  injection hread with hread
  injection hread with hread
  exact hread.symm

theorem length_le_digitLimit {n : Int} (h : n.natAbs < 2 ^ 32 * 1000) :
    (Text.ofNat n.natAbs).length ≤ digitLimit := by
  have hsmall : (Text.ofNat n.natAbs).length ≤ 13 :=
    (Text.length_ofNat_le (by decide)).mpr (by omega)
  exact le_trans hsmall (by decide)

/-- A conversion of milliseconds is exact in this range. -/
theorem convert_millis {n : Int} (h : n.natAbs < 2 ^ 32 * 1000) :
    ∃ t, Scalar.dateTime (.int n) = .ok (.dateTime t) ∧ t.epochMicroseconds = n * 1000 := by
  obtain ⟨t, hread, hinstant, -⟩ := DateTime.ofEpochMillis_eq h
  refine ⟨t, ?_, hinstant⟩
  show Scalar.ofMillis n = _
  rw [Scalar.ofMillis, hread]

/-- In whole milliseconds, an instant is a whole number of them exactly if the offset is. -/
theorem exists_millis_iff {d : DateTime} (hmicro : d.time.microsecond % 1000 = 0) :
    (∃ m, d.epochMicroseconds = m * 1000) ↔ d.offsetMicroseconds % 1000 = 0 := by
  have hclock : (d.time.microseconds : Int) % 1000 = 0 := by
    unfold TimeOfDay.microseconds
    omega
  have hday : DateTime.epochMicroseconds d
      = d.date.days * 86400000000 + d.time.microseconds - d.offsetMicroseconds := rfl
  rw [hday]
  generalize (d.time.microseconds : Int) = clock at hclock ⊢
  constructor
  · rintro ⟨m, hm⟩
    omega
  · intro hoffset
    exact ⟨(d.date.days * 86400000000 + clock - d.offsetMicroseconds) / 1000, by omega⟩

/-- **The date-times that survive.**  Take a date-time of the years 1970 to 2100 in whole
milliseconds, without an offset or with one.  It is a whole number of milliseconds from the epoch
exactly if its offset is.  It is written as the decimal text of that number, and read back as the
same instant, exactly if the number is not one that loses a millisecond.  If it is, the number one
nearer to zero is written in its place, and its instant is read back. -/
theorem dateTime_round_trip_iff (c : Codec) (d : DateTime)
    (hyear : 1970 ≤ d.date.year ∧ d.date.year ≤ 2100) (hmicro : d.time.microsecond % 1000 = 0) :
    ((∃ m, d.epochMicroseconds = m * 1000) ↔ d.offsetMicroseconds % 1000 = 0)
      ∧ ∀ m, d.epochMicroseconds = m * 1000 →
          dumps (.dateTime d) = .ok (decimalBytes (DateTime.cutMillis m))
          ∧ (dumps (.dateTime d) = .ok (decimalBytes m) ↔ ¬ DateTime.LosesMillisecond m.natAbs)
          ∧ ∃ document convert t,
              loads (.bytes (decimalBytes (DateTime.cutMillis m))) = .ok document
              ∧ c.applied.deserializer? .dateTime = some convert
              ∧ convert document = .ok (.dateTime t)
              ∧ t.epochMicroseconds = DateTime.cutMillis m * 1000
              ∧ (t.epochMicroseconds = d.epochMicroseconds
                  ↔ ¬ DateTime.LosesMillisecond m.natAbs) := by
  refine ⟨exists_millis_iff hmicro, fun m hm => ?_⟩
  have hnear := DateTime.natAbs_epochMicroseconds_lt hyear
  have hsmall : m.natAbs < 2 ^ 32 * 1000 := by omega
  have hcut := DateTime.natAbs_cutMillis_le m
  have hkept := DateTime.cutMillis_eq_self_iff m
  have hmillis : d.epochMillis = DateTime.cutMillis m := DateTime.epochMillis_eq hm (by omega)
  generalize DateTime.cutMillis m = n at hcut hkept hmillis ⊢
  have hdigits : (Text.ofNat n.natAbs).length ≤ digitLimit := length_le_digitLimit (by omega)
  have hencode : Json.encode (.dateTime d) = .ok (decimalBytes n) := by
    rw [← encode_int hdigits, ← hmillis]
    rfl
  have hdumps : dumps (.dateTime d) = .ok (decimalBytes n) := by rw [dumps, hencode]
  obtain ⟨t, hconvert, hinstant⟩ := convert_millis (n := n) (by omega)
  refine ⟨hdumps, ?_, _, _, t, loads_decimalBytes hdigits, (deserializer?_applied c).1, hconvert,
    hinstant, ?_⟩
  · rw [hdumps, ← hkept]
    constructor
    · intro h
      injection h with h
      exact decimalBytes_injective hdigits (length_le_digitLimit hsmall) h
    · intro h
      rw [h]
  · rw [← hkept, hinstant, hm]
    omega

/-- A second and a millisecond after the epoch. -/
def secondAndMilli : DateTime :=
  ⟨⟨1970, 1, 1, by decide⟩, ⟨0, 0, 1, 1000, some .utc, by decide⟩⟩

theorem dateTime_round_trip_lost :
    (1970 ≤ secondAndMilli.date.year ∧ secondAndMilli.date.year ≤ 2100)
      ∧ secondAndMilli.time.microsecond % 1000 = 0
      ∧ secondAndMilli.epochMicroseconds = 1001 * 1000
      ∧ DateTime.LosesMillisecond 1001
      ∧ dumps (.dateTime secondAndMilli) ≠ .ok (decimalBytes 1001) := by
  have hyear : 1970 ≤ secondAndMilli.date.year ∧ secondAndMilli.date.year ≤ 2100 := by decide
  have hmicro : secondAndMilli.time.microsecond % 1000 = 0 := by decide
  have hmillis : secondAndMilli.epochMicroseconds = 1001 * 1000 := by decide
  have hloses : DateTime.LosesMillisecond 1001 := by decide
  obtain ⟨-, hwritten⟩ := dateTime_round_trip_iff fresh secondAndMilli hyear hmicro
  obtain ⟨-, htext, -⟩ := hwritten 1001 hmillis
  exact ⟨hyear, hmicro, hmillis, hloses, fun h => htext.mp h hloses⟩

theorem dumps_secondAndMilli :
    secondAndMilli.epochMicroseconds = 1001 * 1000
      ∧ (dumps (.dateTime secondAndMilli)).toOption = some (decimalBytes 1000)
      ∧ decimalBytes 1000 ≠ decimalBytes 1001 := by
  decide +kernel

end Codec

end EventEnvelope
