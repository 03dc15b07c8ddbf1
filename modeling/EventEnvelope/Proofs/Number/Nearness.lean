/-
  EventEnvelope.Proofs.Number.Nearness
  ────────────────────────────────────
  **How far rounding moves a ratio.**

  A double that a ratio rounds to keeps the sign, and it has a magnitude, which is a rational
  number.  It is at most half a unit away from the ratio, where the unit may be taken from any power
  of two that leaves the ratio 53 bits or fewer; and it stays on the same side of every number that
  is a double itself.

    • `HasMagnitude`            — a finite double and its magnitude,
    • `ofRatio_near`            — half a unit,
    • `ofRatio_le`, `le_ofRatio` — sides,
    • `IsCanonical.add_unit_le`, `IsCanonical.le_sub_unit` — doubles of 53 bits are a unit apart,
    • `truncate?_eq`            — cutting a double to an integer,
    • `ofDecimal_finite`        — decimals that are not too long for a double.
-/
import EventEnvelope.Proofs.Number.Rounding

namespace EventEnvelope

namespace Binary64

/-! ## §1. Magnitudes. -/

/-- The double is finite, and without its sign it is `w`. -/
def HasMagnitude (x : Binary64) (negative : Bool) (w : ℚ) : Prop :=
  ∃ m e h, x = finite negative m e h ∧ (m : ℚ) * 2 ^ e = w

theorem quotient_ratio (m : Nat) (e : Int) : quotient (ratio m e) = m * 2 ^ e := by
  unfold ratio
  rw [quotient_scaleByTwo, quotient, Nat.cast_one, div_one]

theorem den_ratio_pos (m : Nat) (e : Int) : 0 < (ratio m e).2 := den_scaleByTwo_pos Nat.one_pos e

theorem hasMagnitude_zero (negative : Bool) : (zero negative).HasMagnitude negative 0 :=
  ⟨0, leastExponent, by decide, rfl, by simp⟩

/-- **Nothing but its size makes a ratio infinite**: its rounded mantissa keeps the magnitude, also
where it is carried into the exponent, unless the exponent becomes too large. -/
theorem carried_cases (negative : Bool) {v : ℚ} {m : Nat} {e : Int} (he : IsScale v e)
    (hm : IsNearest (v / 2 ^ e) m) :
    carried negative m e = infinite negative ∧ greatestExponent ≤ e
      ∨ (carried negative m e).HasMagnitude negative (m * 2 ^ e) := by
  have hleast := he.least
  obtain ⟨hle, hnormal⟩ := he.bits hm
  by_cases hlimit : m = 2 ^ 53
  · by_cases hgreatest : e + 1 ≤ greatestExponent
    · have hform : IsCanonical (2 ^ 52) (e + 1) :=
        ⟨by norm_num, by omega, hgreatest, .inl le_rfl⟩
      right
      rw [hlimit, carried_limit hform]
      refine ⟨2 ^ 52, e + 1, hform, rfl, ?_⟩
      push_cast
      rw [zpow_add_one₀ two_ne_zero]
      ring
    · left
      rw [hlimit]
      exact ⟨carried_limit_of_gt fun h => hgreatest h.greatest, by omega⟩
  · by_cases hgreatest : e ≤ greatestExponent
    · have hform : IsCanonical m e := ⟨lt_of_le_of_ne hle hlimit, hleast, hgreatest, hnormal⟩
      right
      rw [carried_of_isCanonical hform]
      exact ⟨m, e, hform, rfl, rfl⟩
    · exact .inl ⟨carried_of_gt hlimit fun h => hgreatest h.greatest, by omega⟩

/-! ## §2. Rounding, by scale and mantissa. -/

variable {num den : Nat}

/-- A positive ratio is rounded over the power of two that fits. -/
theorem exists_carried (negative : Bool) (hnum : 0 < num) (hden : 0 < den) :
    ∃ m e, IsScale (quotient (num, den)) e ∧ IsNearest (quotient (num, den) / 2 ^ e) m
      ∧ ofRatio negative num den = carried negative m e := by
  have he := isScale_exponentFor hnum hden
  generalize exponentFor num den = e at he
  obtain ⟨m, hm⟩ : ∃ m, IsNearest (quotient (num, den) / 2 ^ e) m := by
    rw [← quotient_scaleByTwo_neg]
    exact exists_isNearest (den_scaleByTwo_pos hden (-e))
  exact ⟨m, e, he, hm, ofRatio_eq_carried hnum hden he hm⟩

theorem hasMagnitude_of_zero (negative : Bool) (den : Nat) :
    (ofRatio negative 0 den).HasMagnitude negative 0 := by
  rw [ofRatio, if_pos rfl]
  exact hasMagnitude_zero negative

theorem quotient_zero (den : Nat) : quotient (0, den) = 0 := by
  rw [quotient, Nat.cast_zero, zero_div]

/-- The nearest integer is at most half away, in units of the power of two. -/
theorem IsNearest.abs_sub_le {v : ℚ} {m : Nat} {e : Int} (h : IsNearest (v / 2 ^ e) m) :
    |m * 2 ^ e - v| ≤ 2 ^ e / 2 := by
  have hpow : (0 : ℚ) < 2 ^ e := by positivity
  have hlow := (le_div_iff₀ hpow).mp h.low
  have hhigh := (div_le_iff₀ hpow).mp h.high
  rw [abs_le]
  constructor
  · linarith
  · linarith

/-- **Half a unit**: a ratio that takes at most 53 bits over a power of two is rounded to a number
that is at most half of that power away. -/
theorem ofRatio_near (negative : Bool) (num : Nat) (hden : 0 < den) {f : Int}
    (hleast : leastExponent ≤ f) (hgreatest : f < greatestExponent)
    (hlt : quotient (num, den) / 2 ^ f < 2 ^ 53) :
    ∃ w, (ofRatio negative num den).HasMagnitude negative w
      ∧ |w - quotient (num, den)| ≤ 2 ^ f / 2 := by
  rcases Nat.eq_zero_or_pos num with rfl | hnum
  · refine ⟨0, hasMagnitude_of_zero negative den, ?_⟩
    rw [quotient_zero, sub_zero, abs_zero]
    positivity
  · obtain ⟨m, e, he, hm, hround⟩ := exists_carried negative hnum hden
    have hef : e ≤ f := he.le_of_lt hleast hlt
    refine ⟨m * 2 ^ e, ?_, ?_⟩
    · rw [hround]
      exact (carried_cases negative he hm).resolve_left fun h => by omega
    · have hpow : (2 : ℚ) ^ e ≤ 2 ^ f := zpow_le_zpow_right₀ one_le_two hef
      linarith [IsNearest.abs_sub_le hm]

/-- A ratio whose multiple by a power of two takes 53 bits is rounded to the nearest integer of that
multiple, over the power. -/
theorem ofRatio_of_grid (negative : Bool) {n d j : Nat} (hden : 0 < den) (hd : 0 < d)
    (hj : j ≤ 1074) (hgrid : quotient (num, den) * 2 ^ j = quotient (n, d))
    (hlow : 2 ^ 52 * d ≤ n) (hhigh : n < d * 2 ^ 53) (hround : roundHalfEven n d < 2 ^ 53) :
    ∃ h, ofRatio negative num den = finite negative (roundHalfEven n d) (-j) h := by
  have hd' : (0 : ℚ) < d := by exact_mod_cast hd
  have hover : quotient (num, den) / 2 ^ (-(j : Int)) = quotient (n, d) := by
    rw [zpow_neg, div_inv_eq_mul, zpow_natCast, hgrid]
  have hlow' : 2 ^ 52 ≤ quotient (n, d) := by
    rw [quotient, le_div_iff₀ hd']
    exact_mod_cast hlow
  have hhigh' : quotient (n, d) < 2 ^ 53 := by
    rw [quotient, div_lt_iff₀ hd', mul_comm]
    exact_mod_cast hhigh
  have hnum : 0 < num := by
    refine Nat.pos_of_ne_zero ?_
    rintro rfl
    rw [quotient_zero, zero_mul] at hgrid
    rw [← hgrid] at hlow'
    norm_num at hlow'
  have hscale : IsScale (quotient (num, den)) (-(j : Int)) :=
    { least := by unfold leastExponent; omega
      lt := by rw [hover]; exact hhigh'
      le := .inr (by rw [hover]; exact hlow') }
  have hnearest : IsNearest (quotient (num, den) / 2 ^ (-(j : Int))) (roundHalfEven n d) := by
    rw [hover]
    exact isNearest_roundHalfEven n hd
  have hform : IsCanonical (roundHalfEven n d) (-(j : Int)) :=
    { mantissa := hround
      least := hscale.least
      greatest := by unfold greatestExponent; omega
      normal := (hscale.bits hnearest).2 }
  exact ⟨hform, (ofRatio_eq_carried hnum hden hscale hnearest).trans (carried_of_isCanonical hform)⟩

/-! ## §3. Sides. -/

variable {f : Int}

/-- A ratio that is at most a double is not rounded beyond it. -/
theorem ofRatio_le (negative : Bool) (num bound : Nat) (hden : 0 < den)
    (hleast : leastExponent ≤ f) (hgreatest : f < greatestExponent) (hbound : bound < 2 ^ 53)
    (hle : quotient (num, den) ≤ bound * 2 ^ f) :
    ∃ w, (ofRatio negative num den).HasMagnitude negative w ∧ w ≤ bound * 2 ^ f := by
  rcases Nat.eq_zero_or_pos num with rfl | hnum
  · exact ⟨0, hasMagnitude_of_zero negative den, by positivity⟩
  · obtain ⟨m, e, he, hm, hround⟩ := exists_carried negative hnum hden
    have hpow : (0 : ℚ) < 2 ^ f := by positivity
    have hef : e ≤ f := by
      refine he.le_of_lt hleast (lt_of_le_of_lt ((div_le_iff₀ hpow).mpr hle) ?_)
      exact_mod_cast hbound
    refine ⟨m * 2 ^ e, ?_, ?_⟩
    · rw [hround]
      exact (carried_cases negative he hm).resolve_left fun h => by omega
    · -- over the smaller power of two the bound is an integer, and the mantissa is at most that
      obtain ⟨k, hk⟩ := Int.eq_ofNat_of_zero_le (show 0 ≤ f - e by omega)
      have hsplit : (2 : ℚ) ^ f = 2 ^ k * 2 ^ e := by
        rw [← zpow_natCast, ← zpow_add₀ two_ne_zero]
        congr 1
        omega
      have hpow' : (0 : ℚ) < 2 ^ e := by positivity
      rw [hsplit, ← mul_assoc] at hle ⊢
      have hv : quotient (num, den) / 2 ^ e ≤ (bound * 2 ^ k : Nat) := by
        rw [div_le_iff₀ hpow']
        exact_mod_cast hle
      have hmantissa : m ≤ bound * 2 ^ k := by
        have hlt : (m : ℚ) < (bound * 2 ^ k : Nat) + 1 := by linarith [hm.low]
        have hlt' : m < bound * 2 ^ k + 1 := by exact_mod_cast hlt
        omega
      have hcast : (m : ℚ) ≤ bound * 2 ^ k := by exact_mod_cast hmantissa
      exact mul_le_mul_of_nonneg_right hcast hpow'.le

/-- A ratio that is at least a double of 53 bits is not rounded below it. -/
theorem le_ofRatio (negative : Bool) (num bound : Nat) (hden : 0 < den)
    (hleast : leastExponent ≤ f) (hlow : 2 ^ 52 ≤ bound) (hhigh : bound < 2 ^ 53)
    (hle : bound * 2 ^ f ≤ quotient (num, den)) :
    ofRatio negative num den = infinite negative
      ∨ ∃ w, (ofRatio negative num den).HasMagnitude negative w ∧ bound * 2 ^ f ≤ w := by
  have hpow : (0 : ℚ) < 2 ^ f := by positivity
  have hlow' : (2 : ℚ) ^ 52 ≤ bound := by exact_mod_cast hlow
  have hpos : 0 < quotient (num, den) :=
    lt_of_lt_of_le (mul_pos (lt_of_lt_of_le (by norm_num) hlow') hpow) hle
  have hnum : 0 < num := by
    refine Nat.pos_of_ne_zero ?_
    rintro rfl
    rw [quotient_zero] at hpos
    exact lt_irrefl _ hpos
  obtain ⟨m, e, he, hm, hround⟩ := exists_carried negative hnum hden
  have hfe : f ≤ e := by
    refine he.le_of_le hpos.le ?_
    rw [le_div_iff₀ hpow]
    exact le_trans (mul_le_mul_of_nonneg_right hlow' hpow.le) hle
  rcases carried_cases negative he hm with ⟨hinfinite, -⟩ | hfinite
  · exact .inl (hround.trans hinfinite)
  refine .inr ⟨m * 2 ^ e, by rw [hround]; exact hfinite, ?_⟩
  rcases hfe.eq_or_lt with rfl | hlt
  · -- over the same power of two the bound is an integer
    have hmantissa : bound ≤ m := by
      have hlt : (bound : ℚ) < m + 1 := by
        have := (le_div_iff₀ hpow).mpr hle
        linarith [hm.high]
      have hlt' : bound < m + 1 := by exact_mod_cast hlt
      omega
    have hcast : (bound : ℚ) ≤ m := by exact_mod_cast hmantissa
    exact mul_le_mul_of_nonneg_right hcast hpow.le
  · -- over a larger one, 53 bits are more than the bound
    have hnormal : 2 ^ 52 ≤ quotient (num, den) / 2 ^ e := he.le.resolve_left fun h => by omega
    have hmantissa : (2 : ℚ) ^ 52 ≤ m := by
      have hle : 2 ^ 52 ≤ m := two_pow_le_of_lt (by linarith [hm.high])
      exact_mod_cast hle
    have hbound : (bound : ℚ) ≤ 2 ^ 53 := by exact_mod_cast hhigh.le
    calc (bound : ℚ) * 2 ^ f ≤ 2 ^ 53 * 2 ^ f := mul_le_mul_of_nonneg_right hbound hpow.le
      _ = 2 ^ 52 * 2 ^ (f + 1) := by
          rw [zpow_add_one₀ two_ne_zero]
          ring
      _ ≤ 2 ^ 52 * 2 ^ e := by
          have : (2 : ℚ) ^ (f + 1) ≤ 2 ^ e := zpow_le_zpow_right₀ one_le_two (by omega)
          linarith
      _ ≤ m * 2 ^ e := mul_le_mul_of_nonneg_right hmantissa (by positivity)

/-! ## §4. Neighbours. -/

/-- A double of no less than 53 bits over a power of two is a multiple of it. -/
theorem exists_units {m : Nat} {e : Int} (hm : m < 2 ^ 53)
    (hle : (2 : ℚ) ^ 52 * 2 ^ f ≤ m * 2 ^ e) :
    ∃ k : Nat, (m : ℚ) * 2 ^ e = k * 2 ^ f := by
  have hfe : f ≤ e := by
    by_contra hlt
    -- a smaller unit is too small for 53 bits
    have hcast : (m : ℚ) < 2 ^ 53 := by exact_mod_cast hm
    have hpow : (2 : ℚ) ^ (e + 1) ≤ 2 ^ f := zpow_le_zpow_right₀ one_le_two (by omega)
    rw [zpow_add_one₀ two_ne_zero] at hpow
    have hsmall := mul_lt_mul_of_pos_right hcast (show (0 : ℚ) < 2 ^ e by positivity)
    linarith [show (2 : ℚ) ^ 53 = 2 ^ 52 * 2 by norm_num]
  obtain ⟨k, hk⟩ := Int.eq_ofNat_of_zero_le (show 0 ≤ e - f by omega)
  refine ⟨m * 2 ^ k, ?_⟩
  push_cast
  rw [mul_assoc, ← zpow_natCast, ← zpow_add₀ two_ne_zero]
  congr 2
  omega

variable {m : Nat} {e : Int}

/-- **The next double** above one of 53 bits is a unit away. -/
theorem IsCanonical.add_unit_le (h : IsCanonical m e) (bound : Nat) (hbound : 2 ^ 52 ≤ bound)
    (hlt : (bound : ℚ) * 2 ^ f < m * 2 ^ e) : ((bound : ℚ) + 1) * 2 ^ f ≤ m * 2 ^ e := by
  have hpow : (0 : ℚ) < 2 ^ f := by positivity
  have hbound' : (2 : ℚ) ^ 52 ≤ bound := by exact_mod_cast hbound
  obtain ⟨k, hk⟩ := exists_units (f := f) h.mantissa
    (le_trans (mul_le_mul_of_nonneg_right hbound' hpow.le) hlt.le)
  rw [hk] at hlt ⊢
  have hlt' : bound < k := by exact_mod_cast lt_of_mul_lt_mul_right hlt hpow.le
  have hle : (bound : ℚ) + 1 ≤ k := by exact_mod_cast hlt'
  exact mul_le_mul_of_nonneg_right hle hpow.le

/-- The one before it is no nearer. -/
theorem IsCanonical.le_sub_unit (h : IsCanonical m e) (bound : Nat) (hbound : 2 ^ 52 < bound)
    (hlt : (m : ℚ) * 2 ^ e < bound * 2 ^ f) : (m : ℚ) * 2 ^ e ≤ (bound - 1) * 2 ^ f := by
  have hpow : (0 : ℚ) < 2 ^ f := by positivity
  by_cases hsmall : (m : ℚ) * 2 ^ e < 2 ^ 52 * 2 ^ f
  · have hbound' : (2 : ℚ) ^ 52 + 1 ≤ bound := by exact_mod_cast hbound
    exact le_trans hsmall.le (mul_le_mul_of_nonneg_right (by linarith) hpow.le)
  · obtain ⟨k, hk⟩ := exists_units (f := f) h.mantissa (not_lt.mp hsmall)
    rw [hk] at hlt ⊢
    have hlt' : k < bound := by exact_mod_cast lt_of_mul_lt_mul_right hlt hpow.le
    have hle : (k : ℚ) + 1 ≤ bound := by exact_mod_cast hlt'
    exact mul_le_mul_of_nonneg_right (by linarith) hpow.le

/-! ## §5. Integer parts. -/

/-- A magnitude by its integer part and what is left of it. -/
theorem magnitude_eq_div_add_mod (m : Nat) (e : Int) :
    (m : ℚ) * 2 ^ e = ((ratio m e).1 / (ratio m e).2 : Nat)
      + ((ratio m e).1 % (ratio m e).2 : Nat) / (ratio m e).2 := by
  rw [← quotient_ratio]
  exact quotient_eq_div_add_mod _ (den_ratio_pos m e)

/-- What is cut off is less than one. -/
theorem truncate?_eq {x : Binary64} {negative : Bool} {w : ℚ} (hx : x.HasMagnitude negative w)
    {q : Nat} (hlow : q ≤ w) (hhigh : w < q + 1) :
    x.truncate? = some (if negative then -(q : Int) else q) := by
  obtain ⟨m, e, -, rfl, rfl⟩ := hx
  have hsplit := magnitude_eq_div_add_mod m e
  have hrest : ((ratio m e).1 % (ratio m e).2 : Nat) / ((ratio m e).2 : ℚ) < 1 := by
    rw [div_lt_one (by exact_mod_cast den_ratio_pos m e)]
    exact_mod_cast Nat.mod_lt _ (den_ratio_pos m e)
  have hrest0 : 0 ≤ ((ratio m e).1 % (ratio m e).2 : Nat) / ((ratio m e).2 : ℚ) := by positivity
  have hdiv : (ratio m e).1 / (ratio m e).2 = q := by
    have hle : ((ratio m e).1 / (ratio m e).2 : Nat) < (q : ℚ) + 1 := by linarith
    have hge : (q : ℚ) < ((ratio m e).1 / (ratio m e).2 : Nat) + 1 := by linarith
    have hle' : (ratio m e).1 / (ratio m e).2 < q + 1 := by exact_mod_cast hle
    have hge' : q < (ratio m e).1 / (ratio m e).2 + 1 := by exact_mod_cast hge
    omega
  rw [← hdiv]
  rfl

/-! ## §6. Decimals. -/

/-- **A decimal of at most 307 digits before the point is no infinity**: it lies below the powers
of two at which the doubles end. -/
theorem ofDecimal_finite (negative : Bool) {coefficient : Nat} {exponent : Int}
    (hdigits : (Nat.toDigits 10 coefficient).length + exponent ≤ 307) :
    ∃ m e h, ofDecimal negative coefficient exponent = finite negative m e h := by
  have hlength : (Nat.toDigits 10 coefficient).length = (Text.ofNat coefficient).length := by
    rw [Text.ofNat, List.length_map]
  have hbelow : (coefficient : ℚ) ≤ 10 ^ (Nat.toDigits 10 coefficient).length := by
    rw [hlength]
    exact_mod_cast (Text.lt_pow_length_ofNat coefficient).le
  have hsize : quotient (coefficient, 1) * (10 : ℕ) ^ exponent / 2 ^ (970 : Int) < 2 ^ 53 := by
    rw [div_lt_iff₀ (by positivity), quotient, Nat.cast_one, div_one, Nat.cast_ofNat]
    calc (coefficient : ℚ) * 10 ^ exponent
        ≤ 10 ^ (Nat.toDigits 10 coefficient).length * 10 ^ exponent :=
          mul_le_mul_of_nonneg_right hbelow (by positivity)
      _ = 10 ^ (((Nat.toDigits 10 coefficient).length : Int) + exponent) := by
          rw [zpow_add₀ (by norm_num), zpow_natCast]
      _ ≤ 10 ^ (307 : Int) := zpow_le_zpow_right₀ (by norm_num) hdigits
      _ ≤ 2 ^ (1022 : Int) := ten_zpow_le_two_zpow (.inl (by decide))
      _ < 2 ^ 53 * 2 ^ (970 : Int) := by
          rw [← zpow_natCast, ← zpow_add₀ two_ne_zero]
          exact zpow_lt_zpow_right₀ one_lt_two (by decide)
  have hscaled := quotient_scaled coefficient 1 10 exponent
  unfold ofDecimal
  split
  · exact ⟨0, leastExponent, by decide, rfl⟩
  simp only
  rw [if_neg (by omega)]
  split
  · exact ⟨0, leastExponent, by decide, rfl⟩
  -- the ratio is exact, on either side of the point
  split
  next hexponent =>
    rw [if_pos hexponent] at hscaled
    rw [← hscaled] at hsize
    obtain ⟨w, ⟨m, e, h, hround, -⟩, -⟩ :=
      ofRatio_near negative _ Nat.one_pos (by decide) (by decide) hsize
    exact ⟨m, e, h, hround⟩
  next hexponent =>
    rw [if_neg hexponent, Nat.one_mul] at hscaled
    rw [← hscaled] at hsize
    obtain ⟨w, ⟨m, e, h, hround, -⟩, -⟩ :=
      ofRatio_near negative _ (Nat.pow_pos (by decide)) (by decide) (by decide) hsize
    exact ⟨m, e, h, hround⟩

end Binary64

end EventEnvelope
