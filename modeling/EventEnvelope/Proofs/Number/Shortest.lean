/-
  EventEnvelope.Proofs.Number.Shortest
  ────────────────────────────────────
  **The shortest digits of a double are read back as that double.**

  The search tries one decimal grid after the other and stops at the first with a hit, and a hit
  lies in the interval of the double.  It cannot miss: with seventeen digits the grid is so fine
  that the nearer one of the two neighbours of the double lies in the interval.  Zeros at the end
  are stripped and the point is moved, but the value that the digits spell stays the same.

    • `decimalPoint_spec`          — the place of the decimal point,
    • `onGrid?_spec`               — the hits on one grid,
    • `onGrid?_seventeen`          — seventeen digits suffice,
    • `shortestDigits_spec`        — digits that spell a number in the interval of the double.
-/
import Mathlib.Data.List.Induction
import EventEnvelope.Number.Shortest
import EventEnvelope.Proofs.Number.Rounding

namespace EventEnvelope

namespace Binary64

/-! ## §1. The place of the decimal point. -/

theorem quotient_scaleByTen (num den : Nat) (k : Int) :
    quotient (scaleByTen num den k) = quotient (num, den) * 10 ^ k :=
  quotient_scaled num den 10 k

theorem den_scaleByTen_pos (num : Nat) {den : Nat} (hden : 0 < den) (k : Int) :
    0 < (scaleByTen num den k).2 :=
  den_scaled_pos hden (by decide) k

/-- A ratio is below a power of ten if, scaled down by it, its numerator is the smaller part. -/
theorem scaleByTen_lt_iff (num : Nat) {den : Nat} (hden : 0 < den) (k : Int) :
    (scaleByTen num den (-k)).1 < (scaleByTen num den (-k)).2
      ↔ quotient (num, den) < 10 ^ k := by
  have hpow : (0 : ℚ) < 10 ^ k := by positivity
  have hpos : (0 : ℚ) < (scaleByTen num den (-k)).2 := by
    exact_mod_cast den_scaleByTen_pos num hden (-k)
  calc (scaleByTen num den (-k)).1 < (scaleByTen num den (-k)).2
      ↔ ((scaleByTen num den (-k)).1 : ℚ) < (scaleByTen num den (-k)).2 := Nat.cast_lt.symm
    _ ↔ quotient (scaleByTen num den (-k)) < 1 := (div_lt_one hpos).symm
    _ ↔ quotient (num, den) < 10 ^ k := by
      rw [quotient_scaleByTen, zpow_neg, ← div_eq_mul_inv, div_lt_one hpow]

/-- **The place of the decimal point**: the ratio lies between two successive powers of ten. -/
theorem decimalPoint_spec {num den : Nat} (hnum : 0 < num) (hden : 0 < den)
    (hlow : (2 : ℚ) ^ (-1075 : Int) ≤ quotient (num, den))
    (hhigh : quotient (num, den) < (2 : ℚ) ^ (1024 : Int)) :
    (10 : ℚ) ^ (decimalPoint num den - 1) ≤ quotient (num, den)
      ∧ quotient (num, den) < 10 ^ decimalPoint num den := by
  obtain ⟨hlog, hlog'⟩ := quotient_log2_bounds hnum hden
  unfold decimalPoint
  generalize hbits : (Nat.log2 num : Int) - Nat.log2 den - 1 = bits
  rw [hbits] at hlog
  rw [show (Nat.log2 num : Int) - Nat.log2 den + 1 = bits + 2 by omega] at hlog'
  have hmost : bits < 1024 := (zpow_lt_zpow_iff_right₀ one_lt_two).mp (hlog.trans hhigh)
  have hleast : -1075 < bits + 2 :=
    (zpow_lt_zpow_iff_right₀ one_lt_two).mp (lt_of_le_of_lt hlow hlog')
  -- the estimate is too small by at most two
  generalize hestimate : bits * 30103 / 100000 = estimate
  have hbelow : (10 : ℚ) ^ (estimate - 1) ≤ quotient (num, den) :=
    (ten_zpow_le_two_zpow (by omega)).trans hlog.le
  have habove : quotient (num, den) < (10 : ℚ) ^ (estimate + 2) :=
    hlog'.trans_le (two_zpow_le_ten_zpow (by omega))
  have htest := scaleByTen_lt_iff num hden
  simp only [decide_eq_true_eq, htest]
  split
  next hfirst => exact ⟨hbelow, hfirst⟩
  next hfirst =>
    split
    next hsecond =>
      refine ⟨?_, hsecond⟩
      rw [Int.add_sub_cancel]
      exact not_lt.mp hfirst
    next hsecond =>
      refine ⟨?_, habove⟩
      rw [show estimate + 2 - 1 = estimate + 1 by omega]
      exact not_lt.mp hsecond

/-! ## §2. The interval of a double, over one denominator. -/

/-- Crosswise products compare ratios. -/
theorem quotient_le_iff {a b c d : Nat} (hb : 0 < b) (hd : 0 < d) :
    a * d ≤ c * b ↔ quotient (a, b) ≤ quotient (c, d) := by
  have hb' : (0 : ℚ) < b := by exact_mod_cast hb
  have hd' : (0 : ℚ) < d := by exact_mod_cast hd
  rw [quotient, quotient, div_le_div_iff₀ hb' hd']
  exact_mod_cast Iff.rfl

theorem quotient_lt_iff {a b c d : Nat} (hb : 0 < b) (hd : 0 < d) :
    a * d < c * b ↔ quotient (a, b) < quotient (c, d) := by
  have hb' : (0 : ℚ) < b := by exact_mod_cast hb
  have hd' : (0 : ℚ) < d := by exact_mod_cast hd
  rw [quotient, quotient, div_lt_div_iff₀ hb' hd']
  exact_mod_cast Iff.rfl

theorem denominator_pos (m : Nat) (e : Int) : 0 < (roundingInterval m e).denominator :=
  den_scaleByTwo_pos (by decide) e

/-- A quarter of the last place is the unit of the interval. -/
theorem quotient_interval (m n : Nat) (e : Int) :
    quotient (n * (scaleByTwo 1 4 e).1, (roundingInterval m e).denominator) = n / 4 * 2 ^ e := by
  have hunit : quotient (scaleByTwo 1 4 e) = 1 / 4 * 2 ^ e := by
    rw [quotient_scaleByTwo]
    rfl
  calc quotient (n * (scaleByTwo 1 4 e).1, (roundingInterval m e).denominator)
      = n * quotient (scaleByTwo 1 4 e) := by
        unfold quotient
        rw [Nat.cast_mul, mul_div_assoc]
        rfl
    _ = n / 4 * 2 ^ e := by rw [hunit]; ring

theorem quotient_low {m : Nat} {e : Int} (hm : 0 < m) :
    quotient ((roundingInterval m e).low, (roundingInterval m e).denominator)
      = (m - gapBelow m e) * 2 ^ e := by
  show quotient ((if m = Nat.pow 2 52 ∧ leastExponent < e then 4 * m - 1 else 4 * m - 2)
    * (scaleByTwo 1 4 e).1, (roundingInterval m e).denominator) = _
  rw [quotient_interval]
  congr 1
  unfold gapBelow
  split
  next hpower =>
    have hpower' : m = 2 ^ 52 ∧ leastExponent < e := hpower
    rw [if_pos hpower', Nat.cast_sub (by omega)]
    push_cast
    ring
  next hpower =>
    have hpower' : ¬ (m = 2 ^ 52 ∧ leastExponent < e) := hpower
    rw [if_neg hpower', Nat.cast_sub (by omega)]
    push_cast
    ring

theorem quotient_high (m : Nat) (e : Int) :
    quotient ((roundingInterval m e).high, (roundingInterval m e).denominator)
      = (m + 1 / 2) * 2 ^ e := by
  show quotient ((4 * m + 2) * (scaleByTwo 1 4 e).1, (roundingInterval m e).denominator) = _
  rw [quotient_interval]
  push_cast
  ring

theorem quotient_value (m : Nat) (e : Int) :
    quotient ((roundingInterval m e).value, (roundingInterval m e).denominator)
      = m * 2 ^ e := by
  show quotient (4 * m * (scaleByTwo 1 4 e).1, (roundingInterval m e).denominator) = _
  rw [quotient_interval]
  push_cast
  ring

/-- **The test is the interval**: a ratio passes it if it rounds to the double. -/
theorem contains_iff {m num den : Nat} {e : Int} (hm : 0 < m) (hden : 0 < den) :
    (roundingInterval m e).contains num den = true ↔ RoundsTo m e (quotient (num, den)) := by
  have hpow : (0 : ℚ) < 2 ^ e := by positivity
  have hd := denominator_pos m e
  unfold RoundingInterval.contains
  by_cases heven : m % 2 = 0
  · rw [if_pos (show (roundingInterval m e).closed = true from decide_eq_true heven)]
    rw [Bool.and_eq_true, decide_eq_true_eq, decide_eq_true_eq, quotient_le_iff hd hden,
      quotient_le_iff hden hd, quotient_low hm, quotient_high, ← le_div_iff₀ hpow,
      ← div_le_iff₀ hpow]
    constructor
    · rintro ⟨hlow, hhigh⟩
      exact ⟨hlow, hhigh, fun _ => heven⟩
    · intro h
      exact ⟨h.low, h.high⟩
  · have hopen : ¬ (roundingInterval m e).closed = true := by
      show ¬ decide (m % 2 = 0) = true
      rwa [decide_eq_true_eq]
    rw [if_neg hopen, Bool.and_eq_true, decide_eq_true_eq, decide_eq_true_eq,
      quotient_lt_iff hd hden, quotient_lt_iff hden hd, quotient_low hm, quotient_high,
      ← lt_div_iff₀ hpow, ← div_lt_iff₀ hpow]
    constructor
    · rintro ⟨hlow, hhigh⟩
      refine ⟨hlow.le, hhigh.le, ?_⟩
      rintro (hend | hend)
      · exact absurd hend hlow.ne'
      · exact absurd hend hhigh.ne
    · -- an end of the interval would make the mantissa even
      intro h
      refine ⟨lt_of_le_of_ne h.low ?_, lt_of_le_of_ne h.high ?_⟩
      · exact fun hend => heven (h.ends (.inl hend.symm))
      · exact fun hend => heven (h.ends (.inr hend))

/-! ## §3. One grid. -/

theorem roundHalfEven_eq (num den : Nat) :
    roundHalfEven num den = num / den ∨ roundHalfEven num den = num / den + 1 := by
  unfold roundHalfEven
  dsimp only
  split
  · exact .inl rfl
  split
  · exact .inr rfl
  split
  · exact .inl rfl
  · exact .inr rfl

/-- The integer part of a ratio. -/
theorem div_bounds (num : Nat) {den : Nat} (hden : 0 < den) :
    ((num / den : Nat) : ℚ) ≤ quotient (num, den)
      ∧ quotient (num, den) < (num / den : Nat) + 1 := by
  have hden' : (0 : ℚ) < den := by exact_mod_cast hden
  have hrem : ((num % den : Nat) : ℚ) / den < 1 := by
    rw [div_lt_one hden']
    exact_mod_cast Nat.mod_lt num hden
  have hrem' : (0 : ℚ) ≤ ((num % den : Nat) : ℚ) / den := by positivity
  rw [quotient_eq_div_add_mod num hden]
  exact ⟨by linarith, by linarith⟩

/-- A point of the grid rounds to the double. -/
def GridHit (m : Nat) (e point : Int) (count c : Nat) : Prop :=
  RoundsTo m e (c * 10 ^ (point - count))

/-- The test of the interval reads one point of the grid. -/
theorem contains_scaleByTen_iff {m : Nat} (hm : 0 < m) (e point : Int) (count c : Nat) :
    (roundingInterval m e).contains (scaleByTen c 1 (point - count)).1
        (scaleByTen c 1 (point - count)).2 = true
      ↔ GridHit m e point count c := by
  rw [contains_iff hm (den_scaleByTen_pos c Nat.one_pos _)]
  show RoundsTo m e (quotient (scaleByTen c 1 (point - count))) ↔ _
  rw [quotient_scaleByTen, quotient, Nat.cast_one, div_one]
  rfl

/-- **One grid**: `lower` and its successor are the neighbours of the double.  What is found is one
of the two and rounds to the double, and if nothing is found, then neither does. -/
structure GridSpec (m : Nat) (e point : Int) (count lower : Nat) (found : Option Nat) : Prop where
  le : (lower : ℚ) ≤ m * 2 ^ e * 10 ^ (count - point)
  lt : m * 2 ^ e * 10 ^ (count - point) < (lower : ℚ) + 1
  hit : ∀ c, found = some c → (c = lower ∨ c = lower + 1) ∧ GridHit m e point count c
  miss : found = none → ¬ GridHit m e point count lower ∧ ¬ GridHit m e point count (lower + 1)

theorem onGrid?_spec {m : Nat} (hm : 0 < m) (e point : Int) (count : Nat) :
    ∃ lower, GridSpec m e point count lower (onGrid? (roundingInterval m e) point count) := by
  have hvalue := quotient_scaleByTen (roundingInterval m e).value
    (roundingInterval m e).denominator (count - point)
  have hpos : 0 < (scaleByTen (roundingInterval m e).value (roundingInterval m e).denominator
    (count - point)).2 := den_scaleByTen_pos _ (denominator_pos m e) _
  rw [quotient_value] at hvalue
  unfold onGrid?
  generalize scaleByTen (roundingInterval m e).value (roundingInterval m e).denominator
    (count - point) = scaled at hvalue hpos ⊢
  obtain ⟨n, d⟩ := scaled
  obtain ⟨hle, hlt⟩ := div_bounds n hpos
  rw [hvalue] at hle hlt
  have hreads := contains_scaleByTen_iff hm e point count
  refine ⟨n / d, hle, hlt, ?_, ?_⟩
  · intro c hc
    dsimp only at hc
    split at hc
    next hlow hhigh =>
      -- both neighbours are hits, so the nearer one is
      cases hc
      rcases roundHalfEven_eq n d with hround | hround
      · rw [hround]
        exact ⟨.inl rfl, (hreads _).mp hlow⟩
      · rw [hround]
        exact ⟨.inr rfl, (hreads _).mp hhigh⟩
    next hlow hhigh =>
      cases hc
      exact ⟨.inl rfl, (hreads _).mp hlow⟩
    next hlow hhigh =>
      cases hc
      exact ⟨.inr rfl, (hreads _).mp hhigh⟩
    next => cases hc
  · intro hnone
    dsimp only at hnone
    split at hnone
    next => cases hnone
    next => cases hnone
    next => cases hnone
    next hlow hhigh =>
      refine ⟨?_, ?_⟩
      · rw [← hreads]
        exact Bool.eq_false_iff.mp hlow
      · rw [← hreads]
        exact Bool.eq_false_iff.mp hhigh

/-- What is nearer to a double than its interval reaches rounds to it. -/
theorem roundsTo_of_near {m : Nat} {e : Int} {x : ℚ} (hlow : m * 2 ^ e - x < gapBelow m e * 2 ^ e)
    (hhigh : x - m * 2 ^ e < gapBelow m e * 2 ^ e) : RoundsTo m e x := by
  have hpow : (0 : ℚ) < 2 ^ e := by positivity
  have hgap := gapBelow_le m e
  have hlow' : m - gapBelow m e < x / 2 ^ e := by
    rw [lt_div_iff₀ hpow]
    linarith
  have hhigh' : x / 2 ^ e < m + gapBelow m e := by
    rw [div_lt_iff₀ hpow]
    linarith
  refine ⟨hlow'.le, by linarith, ?_⟩
  rintro (hend | hend)
  · linarith
  · linarith

/-- A grid of seventeen digits is finer than the interval is narrow. -/
theorem spacing_lt {m : Nat} {e point : Int} (hcanonical : IsCanonical m e)
    (hpoint : (10 : ℚ) ^ (point - 1) ≤ m * 2 ^ e) :
    (10 : ℚ) ^ (point - 17) < 2 * (gapBelow m e * 2 ^ e) := by
  have hpow : (0 : ℚ) < 2 ^ e := by positivity
  have hspacing : (10 : ℚ) ^ (point - 17) * 10 ^ 16 ≤ m * 2 ^ e := by
    calc (10 : ℚ) ^ (point - 17) * 10 ^ 16 = 10 ^ (point - 1) := by
          rw [← zpow_natCast, ← zpow_add₀ (by norm_num)]
          congr 1
          push_cast
          omega
      _ ≤ m * 2 ^ e := hpoint
  have hlt : (m : ℚ) * 2 ^ e < 2 * gapBelow m e * 10 ^ 16 * 2 ^ e := by
    refine mul_lt_mul_of_pos_right ?_ hpow
    unfold gapBelow
    split
    next hpower =>
      -- at a power of two the interval is narrower, but so is the mantissa
      rw [hpower.1]
      norm_num
    next =>
      have hmantissa := cast_add_one_le_of_lt hcanonical.mantissa
      have hsize : (2 : ℚ) ^ 53 ≤ 10 ^ 16 := by norm_num
      linarith
  have hscaled : (10 : ℚ) ^ (point - 17) * 10 ^ 16 < 2 * (gapBelow m e * 2 ^ e) * 10 ^ 16 := by
    linarith
  exact lt_of_mul_lt_mul_right hscaled (by positivity)

/-- **Seventeen digits suffice**: the grid has a hit. -/
theorem onGrid?_seventeen {m : Nat} {e point : Int} (hcanonical : IsCanonical m e) (hm : 0 < m)
    (hpoint : (10 : ℚ) ^ (point - 1) ≤ m * 2 ^ e) :
    onGrid? (roundingInterval m e) point 17 ≠ none := by
  obtain ⟨lower, hgrid⟩ := onGrid?_spec hm e point 17
  intro hnone
  obtain ⟨hlower, hupper⟩ := hgrid.miss hnone
  have hspacing := spacing_lt hcanonical hpoint
  have hstep : (0 : ℚ) < 10 ^ (point - 17) := by positivity
  -- the two neighbours are one step apart
  have hback : (m : ℚ) * 2 ^ e * 10 ^ (((17 : Nat) : Int) - point) * 10 ^ (point - 17)
      = m * 2 ^ e := by
    rw [mul_assoc, ← zpow_add₀ (by norm_num)]
    norm_num
  have hle : (lower : ℚ) * 10 ^ (point - 17) ≤ m * 2 ^ e := by
    rw [← hback]
    exact mul_le_mul_of_nonneg_right hgrid.le hstep.le
  have hlt : (m : ℚ) * 2 ^ e < (lower + 1) * 10 ^ (point - 17) := by
    calc (m : ℚ) * 2 ^ e
        = m * 2 ^ e * 10 ^ (((17 : Nat) : Int) - point) * 10 ^ (point - 17) := hback.symm
      _ < (lower + 1) * 10 ^ (point - 17) := mul_lt_mul_of_pos_right hgrid.lt hstep
  by_cases hnear : (m : ℚ) * 2 ^ e - lower * 10 ^ (point - 17) < gapBelow m e * 2 ^ e
  · refine hlower (roundsTo_of_near hnear ?_)
    show (lower : ℚ) * 10 ^ (point - 17) - _ < _
    linarith
  · refine hupper (roundsTo_of_near ?_ ?_)
    · show (m : ℚ) * 2 ^ e - (lower + 1 : Nat) * 10 ^ (point - 17) < _
      push_cast
      linarith
    · show ((lower + 1 : Nat) : ℚ) * 10 ^ (point - 17) - m * 2 ^ e < _
      push_cast
      linarith

/-! ## §4. The search. -/

/-- **The search stops at a hit**, if there is one on the last grid. -/
theorem searchGrids_spec (i : RoundingInterval) (point : Int) (more count : Nat)
    (hlast : onGrid? i point (count + more) ≠ none) :
    ∃ c k, searchGrids i point more count = (c, k) ∧ onGrid? i point k = some c ∧ count ≤ k := by
  induction more generalizing count with
  | zero =>
      obtain ⟨c, hc⟩ := Option.ne_none_iff_exists'.mp hlast
      refine ⟨c, count, ?_, hc, le_rfl⟩
      rw [searchGrids, show onGrid? i point count = some c from hc]
      rfl
  | succ more ih =>
      rw [searchGrids]
      cases hfound : onGrid? i point count with
      | some c => exact ⟨c, count, rfl, hfound, le_rfl⟩
      | none =>
          have hnext : onGrid? i point (count + 1 + more) ≠ none := by
            rwa [show count + 1 + more = count + (more + 1) by omega]
          obtain ⟨c, k, hsearch, hc, hk⟩ := ih (count + 1) hnext
          exact ⟨c, k, hsearch, hc, by omega⟩

/-- The point of the grid that is found has as many digits as the grid, or is the next power of
ten. -/
theorem GridSpec.bounds {m lower c count : Nat} {e point : Int} {found : Option Nat}
    (h : GridSpec m e point count lower found) (hc : found = some c) (hcount : 0 < count)
    (hlow : (10 : ℚ) ^ (point - 1) ≤ m * 2 ^ e) (hhigh : (m : ℚ) * 2 ^ e < 10 ^ point) :
    10 ^ (count - 1) ≤ c ∧ c ≤ 10 ^ count := by
  have hstep : (0 : ℚ) < 10 ^ (count - point) := by positivity
  have hlow' : (10 : ℚ) ^ (count - 1) < lower + 1 := by
    calc (10 : ℚ) ^ (count - 1) = 10 ^ (point - 1) * 10 ^ (count - point) := by
          rw [← zpow_natCast, ← zpow_add₀ (by norm_num)]
          congr 1
          omega
      _ ≤ m * 2 ^ e * 10 ^ (count - point) := mul_le_mul_of_nonneg_right hlow hstep.le
      _ < lower + 1 := h.lt
  have hhigh' : (lower : ℚ) < 10 ^ count := by
    calc (lower : ℚ) ≤ m * 2 ^ e * 10 ^ (count - point) := h.le
      _ < 10 ^ point * 10 ^ (count - point) := mul_lt_mul_of_pos_right hhigh hstep
      _ = 10 ^ count := by
          rw [← zpow_natCast, ← zpow_add₀ (by norm_num)]
          congr 1
          omega
  have hleast : 10 ^ (count - 1) < lower + 1 := by exact_mod_cast hlow'
  have hmost : lower < 10 ^ count := by exact_mod_cast hhigh'
  obtain ⟨hneighbour, -⟩ := h.hit c hc
  omega

/-! ## §5. Digits without zeros at the end. -/

theorem natOfDigits_append_zeros (digits : List Nat) (n : Nat) :
    natOfDigits (digits ++ List.replicate n 0) = natOfDigits digits * 10 ^ n := by
  induction n with
  | zero => simp
  | succ n ih =>
      rw [List.replicate_succ', ← List.append_assoc, natOfDigits_append, ih, Nat.pow_succ]
      ring

theorem decimalDigit_eq_zero_iff {d : Nat} (h : d < 10) :
    decimalDigit d = CodePoint.ofChar '0' ↔ d = 0 := by
  rw [← CodePoint.toNat_inj, toNat_decimalDigit h]
  show 0x30 + d = 0x30 ↔ d = 0
  omega

/-- Stripping takes zeros away at the end, and nothing else. -/
theorem strip_digits {digits : List Nat} (h : ∀ d ∈ digits, d < 10) :
    ∃ kept n, digits = kept ++ List.replicate n 0
      ∧ ((digits.map decimalDigit).reverse.dropWhile (· = CodePoint.ofChar '0')).reverse
          = kept.map decimalDigit := by
  -- the induction is from the end, where the zeros are
  induction digits using List.reverseRecOn with
  | nil => exact ⟨[], 0, rfl, rfl⟩
  | append_singleton digits d ih =>
      have hd : d < 10 := h d (by simp)
      by_cases hzero : d = 0
      · obtain ⟨kept, n, hdigits, hstrip⟩ := ih fun e he => h e (List.mem_append_left _ he)
        refine ⟨kept, n + 1, ?_, ?_⟩
        · rw [List.replicate_succ', ← List.append_assoc, ← hdigits, hzero]
        · rw [List.map_append, List.map_singleton, List.reverse_concat', List.dropWhile_cons_of_pos]
          · exact hstrip
          · exact decide_eq_true ((decimalDigit_eq_zero_iff hd).mpr hzero)
      · refine ⟨digits ++ [d], 0, by simp, ?_⟩
        rw [List.map_append, List.map_singleton, List.reverse_concat', List.dropWhile_cons_of_neg]
        · simp
        · simp [decimalDigit_eq_zero_iff hd, hzero]

/-! ## §6. The digits of a double. -/

/-- Digits that begin with none of zero and, with the point before them moved to its place, spell a
number in the interval of a double. -/
structure SpellsMagnitude (m : Nat) (e : Int) (digits : List Nat) (point : Int) : Prop where
  lt_ten : ∀ d ∈ digits, d < 10
  leading : ∃ d rest, digits = d :: rest ∧ d ≠ 0
  roundsTo : RoundsTo m e (natOfDigits digits * 10 ^ (point - digits.length))

/-- Stripped of zeros at the end, the digits of a number spell the same number. -/
theorem spellsMagnitude_strip {m c : Nat} {e point : Int} (hc : 0 < c)
    (h : RoundsTo m e (c * 10 ^ (point - (Text.ofNat c).length))) :
    ∃ kept, ((Text.ofNat c).reverse.dropWhile (· = CodePoint.ofChar '0')).reverse
        = kept.map decimalDigit ∧ SpellsMagnitude m e kept point := by
  obtain ⟨d, ds, htext, hlt, hvalue, hzero⟩ := Text.ofNat_eq_digits c
  have hlead : d ≠ 0 := by
    intro hd
    rw [hzero hd, hd] at hvalue
    have : natOfDigits [0] = 0 := rfl
    omega
  obtain ⟨kept, n, hdigits, hstrip⟩ := strip_digits hlt
  rw [htext] at h ⊢
  refine ⟨kept, hstrip, ?_, ?_, ?_⟩
  · intro e he
    refine hlt e ?_
    rw [hdigits]
    exact List.mem_append_left _ he
  · cases kept with
    | nil =>
        -- only zeros would spell zero
        have hmem : d ∈ List.replicate n 0 := by
          rw [← List.nil_append (List.replicate n 0), ← hdigits]
          exact List.mem_cons_self
        exact absurd (List.eq_of_mem_replicate hmem) hlead
    | cons k rest =>
        obtain ⟨rfl, -⟩ := List.cons.inj hdigits
        exact ⟨d, rest, rfl, hlead⟩
  · have hlength : (d :: ds).length = kept.length + n := by
      rw [hdigits, List.length_append, List.length_replicate]
    have hsame : (c : ℚ) * 10 ^ (point - ((d :: ds).map decimalDigit).length)
        = natOfDigits kept * 10 ^ (point - kept.length) := by
      rw [← hvalue, hdigits, natOfDigits_append_zeros, ← hdigits, List.length_map, hlength]
      push_cast
      rw [mul_assoc, ← zpow_natCast, ← zpow_add₀ (by norm_num)]
      congr 2
      omega
    rwa [hsame] at h

/-- A double is a point of its own interval. -/
theorem roundsTo_self (m : Nat) (e : Int) : RoundsTo m e (m * 2 ^ e) := by
  have hgap : 0 < gapBelow m e := by
    unfold gapBelow
    split
    · norm_num
    · norm_num
  have hpow : (0 : ℚ) < 2 ^ e := by positivity
  refine roundsTo_of_near ?_ ?_
  · rw [sub_self]
    positivity
  · rw [sub_self]
    positivity

/-- The point of a positive double stands where its magnitude has it. -/
theorem decimalPoint_ratio {m : Nat} {e : Int} (hcanonical : IsCanonical m e) (hm : 0 < m) :
    (10 : ℚ) ^ (decimalPoint (ratio m e).1 (ratio m e).2 - 1) ≤ m * 2 ^ e
      ∧ (m : ℚ) * 2 ^ e < 10 ^ decimalPoint (ratio m e).1 (ratio m e).2 := by
  obtain ⟨htiny, hhuge⟩ := (roundsTo_self m e).bounds hcanonical hm
  have hratio : quotient (ratio m e) = m * 2 ^ e := by
    rw [ratio, quotient_scaleByTwo, quotient, Nat.cast_one, div_one]
  have hden : 0 < (ratio m e).2 := den_scaleByTwo_pos Nat.one_pos e
  generalize ratio m e = scaled at hratio hden ⊢
  obtain ⟨num, den⟩ := scaled
  have hnum : 0 < num := by
    refine Nat.pos_of_ne_zero ?_
    rintro rfl
    have hpos : (0 : ℚ) < m * 2 ^ e := lt_of_lt_of_le (by positivity) htiny
    rw [← hratio, quotient, Nat.cast_zero, zero_div] at hpos
    exact lt_irrefl _ hpos
  rw [← hratio] at htiny hhuge ⊢
  exact decimalPoint_spec hnum hden htiny hhuge

/-- A point of a grid has as many digits as the grid, or one more if it is the next power of
ten. -/
theorem length_ofNat_bounds {c count : Nat} (hcount : 0 < count) (hleast : 10 ^ (count - 1) ≤ c)
    (hmost : c ≤ 10 ^ count) :
    count ≤ (Text.ofNat c).length ∧ (Text.ofNat c).length ≤ count + 1 := by
  constructor
  · have hlt := lt_of_le_of_lt hleast (Text.lt_pow_length_ofNat c)
    have := (Nat.pow_lt_pow_iff_right (by decide)).mp hlt
    omega
  · refine (Text.length_ofNat_le (Nat.succ_pos _)).mpr ?_
    calc c ≤ 10 ^ count := hmost
      _ < 10 ^ (count + 1) := Nat.pow_lt_pow_right (by decide) (Nat.lt_succ_self _)

/-- **The digits of a positive double** spell a number that rounds to it. -/
theorem shortestDigits_spec {m : Nat} {e : Int} (hcanonical : IsCanonical m e) (hm : 0 < m) :
    ∃ digits point, shortestDigits m e = (digits.map decimalDigit, point)
      ∧ SpellsMagnitude m e digits point := by
  obtain ⟨hlow, hhigh⟩ := decimalPoint_ratio hcanonical hm
  unfold shortestDigits
  generalize ratio m e = scaled at hlow hhigh ⊢
  obtain ⟨num, den⟩ := scaled
  dsimp only at hlow hhigh ⊢
  generalize decimalPoint num den = point at hlow hhigh ⊢
  -- the search stops at a point of some grid that rounds to the double
  obtain ⟨c, count, hsearch, hfound, hcount⟩ := searchGrids_spec (roundingInterval m e) point 16 1
    (onGrid?_seventeen hcanonical hm hlow)
  rw [hsearch]
  dsimp only
  obtain ⟨lower, hgrid⟩ := onGrid?_spec hm e point count
  obtain ⟨-, hhit⟩ := hgrid.hit c hfound
  obtain ⟨hleast, hmost⟩ := hgrid.bounds hfound hcount hlow hhigh
  obtain ⟨hshort, hlong⟩ := length_ofNat_bounds hcount hleast hmost
  -- the point is moved along with the digit that the next power of ten has too many
  have hpoint : (if count < (Text.ofNat c).length then point + 1 else point)
      - (Text.ofNat c).length = point - count := by
    split
    · omega
    · omega
  have hc : 0 < c := lt_of_lt_of_le (Nat.pow_pos (by decide)) hleast
  rw [GridHit, ← hpoint] at hhit
  obtain ⟨kept, hkept, hspells⟩ := spellsMagnitude_strip hc hhit
  exact ⟨kept, _, by rw [hkept], hspells⟩

end Binary64

end EventEnvelope
