/-
  EventEnvelope.Proofs.Calendar.Days
  ──────────────────────────────────
  **Every day has one date.**

  A day is counted from 1970-01-01, a date is a year, a month and a day.  The way from days to dates
  counts years from March, so that the leap day is the last one of its year; eras of 400 such years
  are equally long, and within an era the year is found by one division.  It is the inverse of
  the way from dates to days, for every day there is.

    • `yearOfEra_eq`            — the division finds the year, by centuries and four-year cycles,
    • `daysBefore_march`        — the two ways of counting years agree,
    • `civil_civilOfDays`       — **the date of a day is a date, and it is the date of that day**,
    • `Date.ofDays?_eq_some`, `Date.ofDays?_eq_none` — which days lie in the years 1 to 9999.
-/
import Mathlib.Tactic.IntervalCases
import EventEnvelope.Calendar.Basic

namespace EventEnvelope

/-! ## §1. The year within an era. -/

/-- A day of an era by century, four-year cycle, year and day of the year; a year has a day 365, its
leap day, only at the end of a cycle, and at the end of a century only if that one ends the era. -/
theorem exists_dayOfEra {dayOfEra : Int} (hlow : 0 ≤ dayOfEra) (hhigh : dayOfEra < 146097) :
    ∃ century cycle year day : Int, (0 ≤ century ∧ century ≤ 3) ∧ (0 ≤ cycle ∧ cycle ≤ 24)
      ∧ (0 ≤ year ∧ year ≤ 3) ∧ (0 ≤ day ∧ day ≤ 365)
      ∧ (day = 365 → year = 3 ∧ (cycle < 24 ∨ century = 3))
      ∧ dayOfEra = 36524 * century + 1461 * cycle + 365 * year + day := by
  -- the last century, cycle or year is a day longer than the division says
  obtain ⟨century, hcentury, hrest, hlast⟩ : ∃ century, (0 ≤ century ∧ century ≤ 3)
      ∧ (0 ≤ dayOfEra - 36524 * century ∧ dayOfEra - 36524 * century ≤ 36524)
      ∧ (dayOfEra - 36524 * century = 36524 → century = 3) :=
    ⟨min (dayOfEra / 36524) 3, by omega⟩
  generalize hdays : dayOfEra - 36524 * century = days at hrest hlast
  obtain ⟨cycle, hcycle, hrest', hlast'⟩ : ∃ cycle, (0 ≤ cycle ∧ cycle ≤ 24)
      ∧ (0 ≤ days - 1461 * cycle ∧ days - 1461 * cycle ≤ 1460)
      ∧ (days - 1461 * cycle = 1460 → cycle < 24 ∨ century = 3) :=
    ⟨days / 1461, by omega⟩
  generalize hdays' : days - 1461 * cycle = days' at hrest' hlast'
  refine ⟨century, cycle, min (days' / 365) 3, days' - 365 * min (days' / 365) 3, ?_⟩
  omega

/-- Each leap day is taken away again before the division by 365, so it gives the year. -/
theorem yearOfEra_eq {century cycle year day dayOfEra : Int}
    (hcentury : 0 ≤ century ∧ century ≤ 3) (hcycle : 0 ≤ cycle ∧ cycle ≤ 24)
    (hyear : 0 ≤ year ∧ year ≤ 3) (hday : 0 ≤ day ∧ day ≤ 365)
    (hleap : day = 365 → year = 3 ∧ (cycle < 24 ∨ century = 3))
    (heq : dayOfEra = 36524 * century + 1461 * cycle + 365 * year + day) :
    (dayOfEra - dayOfEra / 1460 + dayOfEra / 36524 - dayOfEra / 146096) / 365
      = 100 * century + 4 * cycle + year := by
  have hcenturies : dayOfEra / 36524 - dayOfEra / 146096 = century := by
    by_cases hlast : 1461 * cycle + 365 * year + day = 36524
    · -- the last day of the era
      obtain rfl : century = 3 := by omega
      omega
    · have hsmall : dayOfEra / 146096 = 0 := by omega
      have hlarge : dayOfEra / 36524 = century := by omega
      omega
  have hcycles : dayOfEra / 1460
      = 25 * century + cycle + (24 * century + cycle + 365 * year + day) / 1460 := by omega
  omega

/-! ## §2. Years from March. -/

/-- Days from 1 March of the year 0 to 1 March of a year. -/
def marchDays (year : Int) : Int := 365 * year + year / 4 - year / 100 + year / 400

/-- A leap year, as the steps of the three divisions. -/
theorem leapDay_eq (year : Int) :
    (if isLeapYear year then 1 else 0 : Int)
      = year / 4 - (year - 1) / 4 - (year / 100 - (year - 1) / 100)
        + (year / 400 - (year - 1) / 400) := by
  unfold isLeapYear
  simp only [Bool.and_eq_true, beq_iff_eq, Bool.or_eq_true, bne_iff_ne]
  split <;> omega

/-- The month that begins `shifted` months after March. -/
def monthFromMarch (shifted : Int) : Int := if shifted < 10 then shifted + 3 else shifted - 9

/-- The year in which it lies; January and February belong to the next one. -/
def yearFromMarch (year shifted : Int) : Int := year + if monthFromMarch shifted ≤ 2 then 1 else 0

section March

variable (year : Int) {shifted : Int} (hlow : 0 ≤ shifted) (hhigh : shifted ≤ 11)

include hlow hhigh

theorem monthFromMarch_bounds :
    1 ≤ (monthFromMarch shifted).toNat ∧ (monthFromMarch shifted).toNat ≤ 12 := by
  unfold monthFromMarch
  split <;> omega

theorem yearFromMarch_eq :
    yearFromMarch year shifted = year + if shifted < 10 then 0 else 1 := by
  unfold yearFromMarch monthFromMarch
  split <;> split <;> omega

/-- The months before a month take 153 days for every five of them, counted from March. -/
theorem daysBeforeMonth_march :
    (daysBeforeMonth year (monthFromMarch shifted).toNat : Int)
      = (153 * shifted + 2) / 5
        + (if shifted < 10 then 59 + if isLeapYear year then 1 else 0 else -306) := by
  by_cases hleap : isLeapYear year = true
  all_goals
    interval_cases shifted <;> simp [monthFromMarch, daysBeforeMonth, daysInMonth, hleap]

/-- So does the month itself; only February is cut off by the end of the year. -/
theorem daysInMonth_march :
    (daysInMonth year (monthFromMarch shifted).toNat : Int)
      = (153 * (shifted + 1) + 2) / 5 - (153 * shifted + 2) / 5
        - (if shifted < 11 then 0 else 2 - if isLeapYear year then 1 else 0) := by
  by_cases hleap : isLeapYear year = true
  all_goals
    interval_cases shifted <;> simp [monthFromMarch, daysInMonth, hleap]

/-- **Both ways of counting years agree.** -/
theorem daysBefore_march (day : Nat) :
    daysBefore (yearFromMarch year shifted) (monthFromMarch shifted).toNat day
      = marchDays year + (153 * shifted + 2) / 5 + day - 719469 := by
  unfold daysBefore marchDays
  rw [daysBeforeMonth_march _ hlow hhigh, yearFromMarch_eq _ hlow hhigh]
  dsimp only
  split
  next =>
    -- from March on the leap day of the year counts
    rw [leapDay_eq, add_zero]
    omega
  next =>
    rw [add_sub_cancel_right]
    omega

end March

/-! ## §3. The date of a day. -/

/-- A year, a month and a day are the date of a day. -/
structure IsCivil (days year : Int) (month day : Nat) : Prop where
  monthInRange : 1 ≤ month ∧ month ≤ 12
  dayInRange : 1 ≤ day ∧ day ≤ daysInMonth year month
  eq : daysBefore year month day = days

/-- A day of a year that begins in March has a month and a day of the month. -/
theorem isCivil_march {year dayOfYear days : Int} (hlow : 0 ≤ dayOfYear) (hhigh : dayOfYear ≤ 365)
    (hleap : dayOfYear = 365 → isLeapYear (year + 1) = true)
    (hdays : days = marchDays year + dayOfYear - 719468) :
    IsCivil days (yearFromMarch year ((5 * dayOfYear + 2) / 153))
      (monthFromMarch ((5 * dayOfYear + 2) / 153)).toNat
      (dayOfYear - (153 * ((5 * dayOfYear + 2) / 153) + 2) / 5 + 1).toNat := by
  have hfirst : 0 ≤ (5 * dayOfYear + 2) / 153 := by omega
  have hlast : (5 * dayOfYear + 2) / 153 ≤ 11 := by omega
  have hbegin : (153 * ((5 * dayOfYear + 2) / 153) + 2) / 5 ≤ dayOfYear := by omega
  have hend : dayOfYear < (153 * ((5 * dayOfYear + 2) / 153 + 1) + 2) / 5 := by omega
  generalize (5 * dayOfYear + 2) / 153 = shifted at hfirst hlast hbegin hend ⊢
  refine ⟨monthFromMarch_bounds hfirst hlast, ⟨by omega, ?_⟩, ?_⟩
  · have hlength := daysInMonth_march (yearFromMarch year shifted) hfirst hlast
    by_cases hfebruary : shifted < 11
    · rw [if_pos hfebruary] at hlength
      omega
    · -- the leap day is there exactly where it is needed
      obtain rfl : shifted = 11 := by omega
      rw [if_neg hfebruary, yearFromMarch_eq year hfirst hlast, if_neg (by decide)] at hlength
      rw [yearFromMarch_eq year hfirst hlast, if_neg (by decide)]
      by_cases hday : dayOfYear = 365
      · rw [if_pos (hleap hday)] at hlength
        omega
      · split at hlength <;> omega
  · rw [daysBefore_march year hfirst hlast]
    omega

/-- **The date of a day is a date, and it is the date of that day.** -/
theorem civil_civilOfDays (days : Int) :
    IsCivil days (civilOfDays days).1 (civilOfDays days).2.1 (civilOfDays days).2.2 := by
  have hlow := Int.emod_nonneg (days + 719468) (show (146097 : Int) ≠ 0 by decide)
  have hhigh := Int.emod_lt_of_pos (days + 719468) (show (0 : Int) < 146097 by decide)
  have hsum := Int.mul_ediv_add_emod (days + 719468) 146097
  unfold civilOfDays
  dsimp only
  generalize (days + 719468) / 146097 = era at hsum ⊢
  generalize (days + 719468) % 146097 = dayOfEra at hlow hhigh hsum ⊢
  obtain ⟨century, cycle, year, day, hcentury, hcycle, hyear, hday, hleap, hera⟩ :=
    exists_dayOfEra hlow hhigh
  rw [yearOfEra_eq hcentury hcycle hyear hday hleap hera]
  obtain ⟨yearOfEra, hyearOfEra⟩ : ∃ y, y = 100 * century + 4 * cycle + year := ⟨_, rfl⟩
  have hquarter : yearOfEra / 4 = 25 * century + cycle := by omega
  have hcenturies : yearOfEra / 100 = century := by omega
  rw [← hyearOfEra, hquarter, hcenturies]
  obtain rfl : day = dayOfEra - (365 * yearOfEra + (25 * century + cycle) - century) := by omega
  refine isCivil_march hday.1 hday.2 (fun hlast => ?_) ?_
  · have hcycles := hleap hlast
    unfold isLeapYear
    simp only [Bool.and_eq_true, beq_iff_eq, Bool.or_eq_true, bne_iff_ne]
    omega
  · -- an era has as many leap days whichever it is
    have hfour : (yearOfEra + era * 400) / 4 = yearOfEra / 4 + 100 * era := by omega
    have hhundred : (yearOfEra + era * 400) / 100 = yearOfEra / 100 + 4 * era := by omega
    have hwhole : (yearOfEra + era * 400) / 400 = era := by omega
    unfold marchDays
    omega

/-! ## §4. The years of the calendar. -/

/-- The months of a year take no more days than the year has. -/
theorem daysBeforeMonth_add_le (year : Int) {month : Nat} (h : 1 ≤ month ∧ month ≤ 12) :
    daysBeforeMonth year month + daysInMonth year month
      ≤ 365 + if isLeapYear year then 1 else 0 := by
  obtain ⟨hlow, hhigh⟩ := h
  by_cases hleap : isLeapYear year = true
  all_goals
    interval_cases month <;> simp [daysBeforeMonth, daysInMonth, hleap]

/-- A date lies between the begin of its year and that of the next one. -/
theorem IsCivil.bounds {days year : Int} {month day : Nat} (h : IsCivil days year month day) :
    daysBefore year 1 1 ≤ days ∧ days < daysBefore (year + 1) 1 1 := by
  obtain ⟨hmonth, hday, rfl⟩ := h
  have hle := daysBeforeMonth_add_le year hmonth
  have hleap := leapDay_eq year
  have hfirst : ∀ y, daysBeforeMonth y 1 = 0 := fun _ => rfl
  unfold daysBefore
  dsimp only
  rw [hfirst, hfirst, add_sub_cancel_right]
  constructor
  · omega
  · split at hle <;> rename_i hyear
    · rw [if_pos hyear] at hleap
      omega
    · rw [if_neg hyear] at hleap
      omega

/-- The first day of the year 1. -/
def firstDay : Int := -719162

/-- The first day of the year 10000. -/
def endDay : Int := 2932897

/-- The days of the years 1 to 9999 follow one another. -/
theorem IsCivil.year_iff {days year : Int} {month day : Nat} (h : IsCivil days year month day) :
    (1 ≤ year ∧ year ≤ 9999) ↔ firstDay ≤ days ∧ days < endDay := by
  obtain ⟨hlow, hhigh⟩ := h.bounds
  have hfirst : ∀ y, daysBeforeMonth y 1 = 0 := fun _ => rfl
  unfold daysBefore at hlow hhigh
  rw [hfirst] at hlow hhigh
  unfold firstDay endDay
  dsimp only at hlow hhigh
  omega

namespace Date

/-- A day of these years has a date, which counts as many days. -/
theorem ofDays?_eq_some {days : Int} (hdays : firstDay ≤ days ∧ days < endDay) :
    ∃ d : Date, ofDays? days = some d ∧ d.days = days := by
  have hcivil := civil_civilOfDays days
  obtain ⟨hfirst, hlast⟩ := hcivil.year_iff.mpr hdays
  unfold ofDays?
  generalize civilOfDays days = fields at hcivil hfirst hlast
  obtain ⟨year, month, day⟩ := fields
  dsimp only at hcivil hfirst hlast ⊢
  obtain ⟨n, rfl⟩ := Int.eq_ofNat_of_zero_le (show 0 ≤ year by omega)
  rw [if_pos (by omega), of?, Int.toNat_natCast,
    dif_pos ⟨by omega, hcivil.monthInRange, hcivil.dayInRange⟩]
  exact ⟨_, rfl, hcivil.eq⟩

/-- Any other day has none. -/
theorem ofDays?_eq_none {days : Int} (hdays : ¬ (firstDay ≤ days ∧ days < endDay)) :
    ofDays? days = none := by
  have hyear := (civil_civilOfDays days).year_iff.not.mpr hdays
  unfold ofDays?
  generalize civilOfDays days = fields at hyear
  obtain ⟨year, month, day⟩ := fields
  dsimp only at hyear ⊢
  split
  next hpositive =>
    unfold of?
    exact dif_neg fun h => hyear (by omega)
  next => rfl

end Date

end EventEnvelope
