/-
  EventEnvelope.Proofs.Calendar.Instants
  ──────────────────────────────────────
  **Which numbers of seconds and milliseconds are date-times.**

  A number of seconds is taken apart into whole seconds and a fraction, and the fraction is rounded
  to microseconds.  Taken together that is the number of microseconds, off by less than one, and the
  date-time is the one at that instant if the calendar has a day for it.  Milliseconds are divided
  as a double first; the bounds of the calendar are doubles themselves, so they stay what they are.

    • `Reads`                       — a reader gives the date-time at an instant, if there is one,
    • `ofEpochSeconds_near`         — the instant that a double is read as,
    • `ofEpochMillis_error_iff`     — **the integers that are no date-time**,
    • `ofEpochMillis_eq`            — below two to the power of 32 seconds no millisecond is lost.
-/
import EventEnvelope.Calendar.Epoch
import EventEnvelope.Proofs.Calendar.Days
import EventEnvelope.Proofs.Number.Nearness

namespace EventEnvelope

/-! ## §1. Instants. -/

namespace TimeOfDay

/-- A time of day counts the microseconds that it is made from. -/
theorem microseconds_ofMicroseconds {n : Nat} (hn : n < 86400000000) (offset : Option UtcOffset) :
    (ofMicroseconds n offset).microseconds = n := by
  show ((n / 3600000000 % 24 * 60 + n / 60000000 % 60) * 60 + n / 1000000 % 60) * 1000000
    + n % 1000000 = n
  omega

end TimeOfDay

namespace DateTime

/-- The years 1970 to 2100 are less than two to the power of 32 seconds away from the epoch. -/
theorem natAbs_epochMicroseconds_lt {t : DateTime}
    (hyear : 1970 ≤ t.date.year ∧ t.date.year ≤ 2100) :
    t.epochMicroseconds.natAbs < 2 ^ 32 * 1000000 := by
  have hcivil : IsCivil t.date.days t.date.year t.date.month t.date.day :=
    ⟨t.date.inRange.2.1, t.date.inRange.2.2, rfl⟩
  obtain ⟨hfirst, hlast⟩ := hcivil.bounds
  have hmonth : ∀ y, daysBeforeMonth y 1 = 0 := fun _ => rfl
  unfold daysBefore at hfirst hlast
  rw [hmonth] at hfirst hlast
  dsimp only at hfirst hlast
  have hoffset : -microsecondsPerDay < t.offsetMicroseconds
      ∧ t.offsetMicroseconds < microsecondsPerDay := by
    unfold offsetMicroseconds
    cases t.time.offset with
    | none => decide
    | some o => exact o.inRange
  have htime : t.time.microseconds < 86400000000 := by
    have := t.time.inRange
    unfold TimeOfDay.microseconds
    omega
  unfold epochMicroseconds
  unfold microsecondsPerDay at hoffset ⊢
  omega

/-- The calendar has a day for this instant, given in microseconds from the epoch. -/
def InCalendar (instant : Int) : Prop :=
  firstDay * microsecondsPerDay ≤ instant ∧ instant < endDay * microsecondsPerDay

/-- The result is the date-time in universal time at an instant, if the calendar has one. -/
structure Reads (result : Except EpochFault DateTime) (instant : Int) : Prop where
  ok : InCalendar instant → ∃ t, result = .ok t ∧ t.epochMicroseconds = instant
    ∧ t.time.offset = some .utc
  error : ¬ InCalendar instant → ∃ fault, result = .error fault

theorem Reads.error_iff {result : Except EpochFault DateTime} {instant : Int}
    (h : Reads result instant) : (∃ fault, result = .error fault) ↔ ¬ InCalendar instant := by
  refine ⟨?_, h.error⟩
  rintro ⟨fault, hfault⟩ hin
  obtain ⟨t, hok, -⟩ := h.ok hin
  rw [hok] at hfault
  cases hfault

/-- The day of an instant is in the calendar if the instant is. -/
theorem inCalendar_iff {seconds : Int} {microsecond : Nat} (hmicro : microsecond < 1000000) :
    InCalendar (seconds * 1000000 + microsecond)
      ↔ firstDay ≤ seconds / 86400 ∧ seconds / 86400 < endDay := by
  unfold InCalendar firstDay endDay microsecondsPerDay
  omega

/-- **Seconds and microseconds** make up the instant. -/
theorem reads_ofEpoch (seconds : Int) {microsecond : Nat} (hmicro : microsecond < 1000000) :
    Reads (ofEpoch seconds microsecond) (seconds * 1000000 + microsecond) := by
  have hday : InCalendar (seconds * 1000000 + microsecond)
      ↔ firstDay ≤ seconds / 86400 ∧ seconds / 86400 < endDay := inCalendar_iff hmicro
  have hyear := (civil_civilOfDays (seconds / 86400)).year_iff
  have hofDays? : Date.ofDays? (seconds / 86400)
      = if 0 ≤ (civilOfDays (seconds / 86400)).1 then
          Date.of? (civilOfDays (seconds / 86400)).1.toNat (civilOfDays (seconds / 86400)).2.1
            (civilOfDays (seconds / 86400)).2.2
        else none := rfl
  unfold ofEpoch
  generalize civilOfDays (seconds / 86400) = fields at hyear hofDays? ⊢
  obtain ⟨year, month, day⟩ := fields
  dsimp only at hyear hofDays? ⊢
  rw [← hofDays?]
  constructor
  · intro hin
    obtain ⟨date, hdate, hdays⟩ := Date.ofDays?_eq_some (hday.mp hin)
    have := hyear.mpr (hday.mp hin)
    rw [if_neg (by omega), hdate]
    refine ⟨_, rfl, ?_, rfl⟩
    unfold epochMicroseconds
    dsimp only
    rw [TimeOfDay.microseconds_ofMicroseconds (by omega), hdays]
    show _ - (0 : Int) = _
    unfold microsecondsPerDay
    omega
  · intro hout
    rw [Date.ofDays?_eq_none (hday.not.mp hout)]
    split
    · exact ⟨_, rfl⟩
    · exact ⟨_, rfl⟩

/-! ## §2. Seconds. -/

/-- A fraction of a second is rounded twice, to a double and to microseconds, so it is moved by
hardly more than half of a microsecond. -/
theorem roundMicroseconds_near {fraction denominator : Nat} (hlt : fraction < denominator) :
    |(roundMicroseconds fraction denominator : ℚ) - fraction / denominator * 1000000| ≤ 3 / 5 := by
  have hden : 0 < denominator := by omega
  have hden' : (0 : ℚ) < denominator := by exact_mod_cast hden
  have hpart : (fraction : ℚ) / denominator < 1 := by
    rw [div_lt_one hden']
    exact_mod_cast hlt
  have hmicros : quotient (fraction * 1000000, denominator)
      = fraction / denominator * 1000000 := by
    rw [quotient]
    push_cast
    ring
  obtain ⟨w, ⟨m, e, _, hround, rfl⟩, hnear⟩ := Binary64.ofRatio_near false
    (fraction * 1000000) hden (f := -33) (by decide) (by decide) (by
      rw [hmicros, div_lt_iff₀ (by positivity)]
      norm_num
      linarith)
  rw [hmicros] at hnear
  have hinteger := isNearest_roundHalfEven (Binary64.ratio m e).1 (Binary64.den_ratio_pos m e)
  have hmagnitude := Binary64.quotient_ratio m e
  rw [Prod.mk.eta, hmagnitude] at hinteger
  rw [roundMicroseconds, hround]
  show |(roundHalfEven (Binary64.ratio m e).1 (Binary64.ratio m e).2 : ℚ) - _| ≤ _
  have hlow := hinteger.low
  have hhigh := hinteger.high
  rw [abs_le] at hnear ⊢
  norm_num at hnear
  constructor
  · linarith
  · linarith

/-- The microseconds of a finite double without its sign. -/
def wholeMicroseconds (m : Nat) (e : Int) : Nat :=
  (Binary64.ratio m e).1 / (Binary64.ratio m e).2 * 1000000
    + roundMicroseconds ((Binary64.ratio m e).1 % (Binary64.ratio m e).2) (Binary64.ratio m e).2

theorem wholeMicroseconds_near (m : Nat) (e : Int) :
    |(wholeMicroseconds m e : ℚ) - m * 2 ^ e * 1000000| ≤ 3 / 5 := by
  have hnear := roundMicroseconds_near
    (Nat.mod_lt (Binary64.ratio m e).1 (Binary64.den_ratio_pos m e))
  have hsplit := Binary64.magnitude_eq_div_add_mod m e
  unfold wholeMicroseconds
  rw [hsplit]
  push_cast at hnear ⊢
  convert hnear using 2
  ring

/-- A number with a sign. -/
def signed (negative : Bool) (n : Nat) : Int := if negative then -n else n

theorem signed_natAbs (n : Int) : signed (n < 0) n.natAbs = n := by
  unfold signed
  simp only [decide_eq_true_eq]
  omega

/-- The microseconds of a double, seconds and fraction together, are the instant it is read as. -/
theorem reads_ofEpochSeconds (negative : Bool) {m : Nat} {e : Int} (h : Binary64.IsCanonical m e) :
    Reads (ofEpochSeconds (.finite negative m e h)) (signed negative (wholeMicroseconds m e)) := by
  have htotal : ∃ seconds : Int, ∃ microsecond : Nat, microsecond < 1000000
      ∧ signed negative (wholeMicroseconds m e) = seconds * 1000000 + microsecond
      ∧ ofEpochSeconds (.finite negative m e h)
        = if seconds < -clockLimit ∨ clockLimit ≤ seconds then .error .beyondClock
          else ofEpoch seconds microsecond := by
    unfold ofEpochSeconds wholeMicroseconds signed
    dsimp only
    generalize roundMicroseconds ((Binary64.ratio m e).1 % (Binary64.ratio m e).2)
      (Binary64.ratio m e).2 = micros
    generalize (Binary64.ratio m e).1 / (Binary64.ratio m e).2 = whole
    refine ⟨_, _, ?_, ?_, rfl⟩
    · omega
    · cases negative <;> simp <;> omega
  obtain ⟨seconds, microsecond, hmicro, heq, hread⟩ := htotal
  have hreads := reads_ofEpoch seconds hmicro
  rw [hread, heq]
  split
  next hclock =>
    -- the clock counts many more seconds than the calendar
    refine ⟨fun hin => ?_, fun _ => ⟨_, rfl⟩⟩
    unfold clockLimit at hclock
    have := (inCalendar_iff hmicro).mp hin
    unfold firstDay endDay at this
    omega
  next => exact hreads

/-- **Seconds as a double**, with their microseconds. -/
theorem ofEpochSeconds_near {x : Binary64} {negative : Bool} {w : ℚ}
    (hx : x.HasMagnitude negative w) :
    ∃ micros : Nat, |(micros : ℚ) - w * 1000000| ≤ 3 / 5
      ∧ Reads (ofEpochSeconds x) (signed negative micros) := by
  obtain ⟨m, e, h, rfl, rfl⟩ := hx
  exact ⟨_, wholeMicroseconds_near m e, reads_ofEpochSeconds negative h⟩

/-! ## §3. The bounds of the calendar. -/

/-- The double is a number of seconds in the years 1 to 9999. -/
def IsInYears (seconds : Binary64) : Prop :=
  ∃ negative w, seconds.HasMagnitude negative w
    ∧ if negative then w ≤ 62135596800 else w < 253402300800

theorem isInYears_iff {x : Binary64} {negative : Bool} {w : ℚ} (hx : x.HasMagnitude negative w) :
    IsInYears x ↔ if negative then w ≤ 62135596800 else w < 253402300800 := by
  constructor
  · rintro ⟨negative', w', ⟨m', e', _, hx', rfl⟩, hw'⟩
    obtain ⟨m, e, _, rfl, rfl⟩ := hx
    cases hx'
    exact hw'
  · intro hw
    exact ⟨negative, w, hx, hw⟩

/-- An instant that is less than one microsecond away from a double is on the same side of the
bounds, because the next doubles are farther away. -/
theorem inCalendar_signed_iff {negative : Bool} {m micros : Nat} {e : Int}
    (hcanonical : Binary64.IsCanonical m e)
    (hnear : |(micros : ℚ) - m * 2 ^ e * 1000000| ≤ 3 / 5) :
    InCalendar (signed negative micros) ↔ IsInYears (.finite negative m e hcanonical) := by
  rw [isInYears_iff ⟨m, e, hcanonical, rfl, rfl⟩]
  obtain ⟨hlow, hhigh⟩ := abs_le.mp hnear
  unfold InCalendar signed firstDay endDay microsecondsPerDay
  cases negative with
  | true =>
      rw [if_pos rfl, if_pos rfl]
      have hiff : micros ≤ 62135596800000000 ↔ (m : ℚ) * 2 ^ e ≤ 62135596800 := by
        constructor
        · intro hle
          by_contra hgt
          -- a double beyond the bound is several microseconds beyond it
          have hgap := hcanonical.add_unit_le (f := -17) (62135596800 * 2 ^ 17)
            (by norm_num) (by norm_num; linarith)
          have hcast : (micros : ℚ) ≤ 62135596800000000 := by exact_mod_cast hle
          norm_num at hgap
          linarith
        · intro hle
          have hlt : (micros : ℚ) < 62135596800000000 + 1 := by linarith
          have hlt' : micros < 62135596800000000 + 1 := by exact_mod_cast hlt
          omega
      rw [← hiff]
      omega
  | false =>
      rw [if_neg (by decide), if_neg (by decide)]
      have hiff : micros < 253402300800000000 ↔ (m : ℚ) * 2 ^ e < 253402300800 := by
        constructor
        · intro hlt
          by_contra hge
          have hcast : (micros : ℚ) + 1 ≤ 253402300800000000 := by exact_mod_cast hlt
          linarith
        · intro hlt
          -- a double before the bound is many microseconds before it
          have hgap := hcanonical.le_sub_unit (f := -15) (253402300800 * 2 ^ 15)
            (by norm_num) (by norm_num; linarith)
          norm_num at hgap
          have hcast : (micros : ℚ) < 253402300800000000 := by linarith
          exact_mod_cast hcast
      rw [← hiff]
      omega

theorem not_isInYears_nan : ¬ IsInYears .nan := by
  rintro ⟨_, _, ⟨_, _, _, hx, -⟩, -⟩
  cases hx

theorem not_isInYears_infinite (negative : Bool) : ¬ IsInYears (.infinite negative) := by
  rintro ⟨_, _, ⟨_, _, _, hx, -⟩, -⟩
  cases hx

/-- **The doubles that are no date-time** as a number of seconds. -/
theorem ofEpochSeconds_error_iff (x : Binary64) :
    (∃ fault, ofEpochSeconds x = .error fault) ↔ ¬ IsInYears x := by
  cases x with
  | nan => exact ⟨fun _ => not_isInYears_nan, fun _ => ⟨_, rfl⟩⟩
  | infinite negative => exact ⟨fun _ => not_isInYears_infinite negative, fun _ => ⟨_, rfl⟩⟩
  | finite negative m e h =>
      rw [(reads_ofEpochSeconds negative h).error_iff,
        inCalendar_signed_iff h (wholeMicroseconds_near m e)]

/-! ## §4. Milliseconds. -/

/-- The first millisecond of the year 1. -/
def firstMillis : Int := firstDay * 86400000

/-- The first millisecond of the year 10000. -/
def endMillis : Int := endDay * 86400000

/-- Milliseconds as seconds in a double. -/
def secondsOfMillis (millis : Int) : Binary64 := .ofRatio (millis < 0) millis.natAbs 1000

/-- **Division keeps the bounds**, since they are doubles and no millisecond comes nearer to them
than the next doubles are. -/
theorem isInYears_secondsOfMillis (millis : Int) :
    IsInYears (secondsOfMillis millis) ↔ firstMillis ≤ millis ∧ millis < endMillis := by
  obtain ⟨n, hn⟩ : ∃ n, n = millis.natAbs := ⟨_, rfl⟩
  have hquotient : quotient (n, 1000) = (n : ℚ) / 1000 := rfl
  have hthousand : 0 < 1000 := by decide
  unfold secondsOfMillis firstMillis endMillis firstDay endDay
  rw [← hn]
  by_cases hsign : millis < 0
  · rw [decide_eq_true hsign]
    by_cases hin : n ≤ 62135596800000
    · have hcast : (n : ℚ) ≤ 62135596800000 := by exact_mod_cast hin
      obtain ⟨w, hw, hle⟩ := Binary64.ofRatio_le true n (62135596800 * 2 ^ 17) hthousand
        (f := -17) (by decide) (by decide) (by norm_num) (by rw [hquotient]; norm_num; linarith)
      rw [isInYears_iff hw, if_pos rfl]
      norm_num at hle
      exact ⟨fun _ => by omega, fun _ => hle⟩
    · have hcast : (62135596800001 : ℚ) ≤ n := by
        exact_mod_cast show 62135596800001 ≤ n by omega
      refine ⟨fun h => ?_, fun h => by omega⟩
      rcases Binary64.le_ofRatio true n (62135596800 * 2 ^ 17 + 1) hthousand
        (f := -17) (by decide) (by norm_num) (by norm_num) (by rw [hquotient]; norm_num; linarith)
        with hinfinite | ⟨w, hw, hge⟩
      · rw [hinfinite] at h
        exact absurd h (not_isInYears_infinite true)
      · rw [isInYears_iff hw, if_pos rfl] at h
        norm_num at hge
        linarith
  · rw [decide_eq_false hsign]
    by_cases hin : n < 253402300800000
    · have hcast : (n : ℚ) ≤ 253402300799999 := by
        exact_mod_cast show n ≤ 253402300799999 by omega
      obtain ⟨w, hw, hle⟩ := Binary64.ofRatio_le false n (253402300800 * 2 ^ 15 - 1) hthousand
        (f := -15) (by decide) (by decide) (by norm_num) (by rw [hquotient]; norm_num; linarith)
      rw [isInYears_iff hw, if_neg (by decide)]
      norm_num at hle
      exact ⟨fun _ => by omega, fun _ => by linarith⟩
    · have hcast : (253402300800000 : ℚ) ≤ n := by
        exact_mod_cast show 253402300800000 ≤ n by omega
      refine ⟨fun h => ?_, fun h => by omega⟩
      rcases Binary64.le_ofRatio false n (253402300800 * 2 ^ 15) hthousand
        (f := -15) (by decide) (by norm_num) (by norm_num) (by rw [hquotient]; norm_num; linarith)
        with hinfinite | ⟨w, hw, hge⟩
      · rw [hinfinite] at h
        exact absurd h (not_isInYears_infinite false)
      · rw [isInYears_iff hw, if_neg (by decide)] at h
        norm_num at hge
        linarith

/-- Milliseconds are read as their seconds, unless there are too many to be divided. -/
theorem ofEpochMillis_cases (millis : Int) :
    (∃ negative, secondsOfMillis millis = .infinite negative
        ∧ ofEpochMillis millis = .error .quotientTooLarge)
      ∨ ofEpochMillis millis = ofEpochSeconds (secondsOfMillis millis) := by
  unfold ofEpochMillis
  split
  next negative hinfinite => exact .inl ⟨negative, hinfinite, rfl⟩
  next => exact .inr rfl

/-- **The integers that are no date-time** as a number of milliseconds. -/
theorem ofEpochMillis_error_iff (millis : Int) :
    (∃ fault, ofEpochMillis millis = .error fault)
      ↔ ¬ (firstMillis ≤ millis ∧ millis < endMillis) := by
  rw [← isInYears_secondsOfMillis]
  rcases ofEpochMillis_cases millis with ⟨negative, hinfinite, hread⟩ | hread
  · rw [hread, hinfinite]
    exact ⟨fun _ => not_isInYears_infinite negative, fun _ => ⟨_, rfl⟩⟩
  · rw [hread]
    exact ofEpochSeconds_error_iff _

/-- **Reading milliseconds is exact** below two to the power of 32 seconds: dividing and rounding to
microseconds move the instant by less than one of them. -/
theorem ofEpochMillis_eq {millis : Int} (hsmall : millis.natAbs < 2 ^ 32 * 1000) :
    ∃ t, ofEpochMillis millis = .ok t ∧ t.epochMicroseconds = millis * 1000
      ∧ t.time.offset = some .utc := by
  obtain ⟨n, hn⟩ : ∃ n, n = millis.natAbs := ⟨_, rfl⟩
  have hquotient : quotient (n, 1000) = (n : ℚ) / 1000 := rfl
  have hcast : (n : ℚ) < 2 ^ 32 * 1000 := by exact_mod_cast hn ▸ hsmall
  obtain ⟨w, hw, hnear⟩ := Binary64.ofRatio_near (millis < 0) n
    (show 0 < 1000 by decide) (f := -21) (by decide) (by decide)
    (by rw [hquotient]; norm_num; linarith)
  obtain ⟨micros, hmicros, hreads⟩ := ofEpochSeconds_near hw
  have hexact : micros = n * 1000 := by
    rw [hquotient, abs_le] at hnear
    rw [abs_le] at hmicros
    norm_num at hnear
    have hlow : (n * 1000 : ℚ) < micros + 1 := by linarith
    have hhigh : (micros : ℚ) < n * 1000 + 1 := by linarith
    have hlow' : n * 1000 < micros + 1 := by exact_mod_cast hlow
    have hhigh' : micros < n * 1000 + 1 := by exact_mod_cast hhigh
    omega
  have hinstant : signed (millis < 0) micros = millis * 1000 := by
    unfold signed
    simp only [decide_eq_true_eq]
    omega
  have hread : ofEpochMillis millis = ofEpochSeconds (secondsOfMillis millis) := by
    refine (ofEpochMillis_cases millis).resolve_left ?_
    rintro ⟨negative, hinfinite, -⟩
    obtain ⟨m, e, _, hfinite, -⟩ := hw
    rw [secondsOfMillis, ← hn, hfinite] at hinfinite
    cases hinfinite
  rw [hinstant, hn] at hreads
  rw [hread]
  refine hreads.ok ?_
  unfold InCalendar firstDay endDay microsecondsPerDay
  omega

end DateTime

end EventEnvelope
