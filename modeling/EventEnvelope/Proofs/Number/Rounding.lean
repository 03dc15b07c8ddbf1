/-
  EventEnvelope.Proofs.Number.Rounding
  ────────────────────────────────────
  **Which ratios round to a double.**

  A ratio is rounded in two steps: an exponent is chosen, and the ratio over that power of two is
  rounded to the nearest integer.  Both steps are determined by what they achieve (`IsScale`,
  `IsNearest`), so a ratio rounds to a given double if it lies in the interval around it.  One case
  is special: a ratio just below a power of two is scaled by the smaller exponent and comes up to
  that power only when it is rounded.

    • `IsNearest`, `isNearest_roundHalfEven`   — the nearest integer,
    • `IsScale`, `isScale_exponentFor`         — the exponent that fits a ratio,
    • `carried_of_isCanonical`                 — a rounded mantissa as a double,
    • `RoundsTo`, `ofDecimal_of_roundsTo`      — the interval around a double rounds to it.
-/
import Mathlib.Algebra.Order.Field.Power
import Mathlib.Algebra.Order.Field.Rat
import Mathlib.Tactic.FieldSimp
import Mathlib.Tactic.Linarith
import Mathlib.Tactic.NormNum
import Mathlib.Tactic.Positivity
import Mathlib.Tactic.Ring
import EventEnvelope.Number.Binary64
import EventEnvelope.Proofs.Text.Digits

namespace EventEnvelope

/-! ## §1. Ratios. -/

/-- A ratio of natural numbers as a rational number. -/
def quotient (ratio : Nat × Nat) : ℚ := ratio.1 / ratio.2

/-- Numerator or denominator are multiplied by a power of the base, by the sign of the exponent. -/
theorem quotient_scaled (num den base : Nat) (k : Int) :
    quotient (if 0 ≤ k then (num * Nat.pow base k.toNat, den)
        else (num, den * Nat.pow base (-k).toNat))
      = quotient (num, den) * (base : ℚ) ^ k := by
  unfold quotient
  split
  next hk =>
    obtain ⟨n, rfl⟩ := Int.eq_ofNat_of_zero_le hk
    simp only [Int.toNat_natCast, zpow_natCast]
    push_cast [Nat.pow_eq]
    ring
  next hk =>
    obtain ⟨n, hn⟩ := Int.eq_ofNat_of_zero_le (show 0 ≤ -k by omega)
    obtain rfl : k = -(n : Int) := by omega
    simp only [neg_neg, Int.toNat_natCast, zpow_neg, zpow_natCast]
    push_cast [Nat.pow_eq]
    rw [div_mul_eq_div_div]
    rfl

/-- What is scaled keeps a denominator. -/
theorem den_scaled_pos {num den base : Nat} (hden : 0 < den) (hbase : 0 < base) (k : Int) :
    0 < (if 0 ≤ k then (num * Nat.pow base k.toNat, den)
        else (num, den * Nat.pow base (-k).toNat)).2 := by
  split
  · exact hden
  · exact Nat.mul_pos hden (Nat.pow_pos hbase)

/-! ## §2. Powers of two and of ten. -/

theorem zpow_le_zpow_left_of_nonpos {x y : ℚ} (hx : 0 < x) (h : x ≤ y) {j : Int} (hj : j ≤ 0) :
    y ^ j ≤ x ^ j := by
  have hy : 0 < y := lt_of_lt_of_le hx h
  have hneg := zpow_le_zpow_left₀ (show 0 ≤ -j by omega) hx.le h
  rw [zpow_neg, zpow_neg] at hneg
  exact (inv_le_inv₀ (by positivity) (by positivity)).mp hneg

/-- Where `2 ^ a` and `10 ^ b` are nearly equal, the exponents decide with these factors. -/
theorem two_zpow_le_ten_zpow_of_pow {a b : Nat} {j k : Int} (ha : a ≠ 0)
    (hbase : ((2 : ℚ) ^ a) ^ j ≤ (10 ^ b) ^ j) (h : b * j ≤ a * k) : (2 : ℚ) ^ j ≤ 10 ^ k := by
  refine (pow_le_pow_iff_left₀ (by positivity) (by positivity) ha).mp ?_
  calc ((2 : ℚ) ^ j) ^ a = (2 ^ a) ^ j := by
        rw [← zpow_natCast, ← zpow_natCast, ← zpow_mul, ← zpow_mul, mul_comm]
    _ ≤ (10 ^ b) ^ j := hbase
    _ = 10 ^ (b * j) := by rw [← zpow_natCast, ← zpow_mul]
    _ ≤ 10 ^ (a * k) := zpow_le_zpow_right₀ (by norm_num) h
    _ = (10 ^ k) ^ a := by rw [← zpow_natCast, ← zpow_mul, mul_comm]

/-- A power of two is at most a power of ten if it is so by `2 ^ 485 ≤ 10 ^ 146`, or, below one, by
`10 ^ 59 ≤ 2 ^ 196`. -/
theorem two_zpow_le_ten_zpow {j k : Int}
    (h : 0 ≤ j ∧ 146 * j ≤ 485 * k ∨ j ≤ 0 ∧ 59 * j ≤ 196 * k) : (2 : ℚ) ^ j ≤ 10 ^ k := by
  rcases h with ⟨hj, hjk⟩ | ⟨hj, hjk⟩
  · have hnat : 2 ^ 485 ≤ 10 ^ 146 := by decide +kernel
    have hbase : (2 : ℚ) ^ 485 ≤ 10 ^ 146 := by exact_mod_cast hnat
    exact two_zpow_le_ten_zpow_of_pow (by decide) (zpow_le_zpow_left₀ hj (by positivity) hbase) hjk
  · have hnat : 10 ^ 59 ≤ 2 ^ 196 := by decide +kernel
    have hbase : (10 : ℚ) ^ 59 ≤ 2 ^ 196 := by exact_mod_cast hnat
    exact two_zpow_le_ten_zpow_of_pow (by decide)
      (zpow_le_zpow_left_of_nonpos (by positivity) hbase hj) hjk

/-- The other way round, by taking reciprocals. -/
theorem ten_zpow_le_two_zpow {j k : Int}
    (h : 0 ≤ j ∧ 196 * k ≤ 59 * j ∨ j ≤ 0 ∧ 485 * k ≤ 146 * j) : (10 : ℚ) ^ k ≤ 2 ^ j := by
  have hneg : (2 : ℚ) ^ (-j) ≤ 10 ^ (-k) := two_zpow_le_ten_zpow (by omega)
  rw [zpow_neg, zpow_neg] at hneg
  exact (inv_le_inv₀ (by positivity) (by positivity)).mp hneg

/-! ## §3. The nearest integer. -/

/-- Natural numbers less than one apart from each other are in order. -/
theorem le_two_pow_of_lt {m k : Nat} (h : (m : ℚ) < 2 ^ k + 1) : m ≤ 2 ^ k := by
  have h' : m < 2 ^ k + 1 := by exact_mod_cast h
  omega

theorem two_pow_le_of_lt {m k : Nat} (h : (2 : ℚ) ^ k < m + 1) : 2 ^ k ≤ m := by
  have h' : 2 ^ k < m + 1 := by exact_mod_cast h
  omega

/-- No natural number is nearer to `v` than `m`, and if another one is as near, then `m` is even. -/
structure IsNearest (v : ℚ) (m : Nat) : Prop where
  low : m - 1 / 2 ≤ v
  high : v ≤ m + 1 / 2
  tie : v = m - 1 / 2 ∨ v = m + 1 / 2 → m % 2 = 0

/-- The nearest integer is unique. -/
theorem IsNearest.eq {v : ℚ} {m n : Nat} (hm : IsNearest v m) (hn : IsNearest v n) : m = n := by
  -- two candidates are one apart at most, and then `v` is half a step away from both
  have hlow : (m : ℚ) ≤ n + 1 := by linarith [hm.low, hn.high]
  have hhigh : (n : ℚ) ≤ m + 1 := by linarith [hn.low, hm.high]
  have hlow' : m ≤ n + 1 := by exact_mod_cast hlow
  have hhigh' : n ≤ m + 1 := by exact_mod_cast hhigh
  rcases Nat.lt_trichotomy m n with hlt | heq | hgt
  · obtain rfl : n = m + 1 := by omega
    have hn_low := hn.low
    push_cast at hn_low
    have hv : v = m + 1 / 2 := by linarith [hm.high]
    have hm_even := hm.tie (.inr hv)
    have hn_even := hn.tie (.inl (by push_cast; linarith))
    omega
  · exact heq
  · obtain rfl : m = n + 1 := by omega
    have hm_low := hm.low
    push_cast at hm_low
    have hv : v = n + 1 / 2 := by linarith [hn.high]
    have hn_even := hn.tie (.inr hv)
    have hm_even := hm.tie (.inl (by push_cast; linarith))
    omega

/-- A remainder and half of the divisor compare as natural numbers. -/
theorem div_le_half_iff {r den : Nat} (hden : 0 < den) :
    (r : ℚ) / den ≤ 1 / 2 ↔ 2 * r ≤ den := by
  have hden' : (0 : ℚ) < den := by exact_mod_cast hden
  rw [div_le_div_iff₀ hden' two_pos]
  constructor
  · intro h
    have h' : ((2 * r : Nat) : ℚ) ≤ (den : Nat) := by push_cast; linarith
    exact_mod_cast h'
  · intro h
    have h' : ((2 * r : Nat) : ℚ) ≤ (den : Nat) := by exact_mod_cast h
    push_cast at h'
    linarith

theorem half_le_div_iff {r den : Nat} (hden : 0 < den) :
    1 / 2 ≤ (r : ℚ) / den ↔ den ≤ 2 * r := by
  have hden' : (0 : ℚ) < den := by exact_mod_cast hden
  rw [div_le_div_iff₀ two_pos hden']
  constructor
  · intro h
    have h' : ((den : Nat) : ℚ) ≤ (2 * r : Nat) := by push_cast; linarith
    exact_mod_cast h'
  · intro h
    have h' : ((den : Nat) : ℚ) ≤ (2 * r : Nat) := by exact_mod_cast h
    push_cast at h'
    linarith

/-- A ratio as its integer part and what is left of it. -/
theorem quotient_eq_div_add_mod (num : Nat) {den : Nat} (hden : 0 < den) :
    quotient (num, den) = (num / den : Nat) + ((num % den : Nat) : ℚ) / den := by
  have hden' : (den : ℚ) ≠ 0 := by exact_mod_cast hden.ne'
  have hnum : ((den * (num / den) + num % den : Nat) : ℚ) = num := by
    rw [Nat.div_add_mod]
  unfold quotient
  rw [← hnum]
  push_cast
  field_simp

/-- **Rounding gives the nearest integer.** -/
theorem isNearest_roundHalfEven (num : Nat) {den : Nat} (hden : 0 < den) :
    IsNearest (quotient (num, den)) (roundHalfEven num den) := by
  have hrem : num % den < den := Nat.mod_lt num hden
  rw [quotient_eq_div_add_mod num hden]
  unfold roundHalfEven
  -- the integer part and the remainder are all that matters
  generalize num / den = q
  generalize num % den = r at hrem
  have hr0 : (0 : ℚ) ≤ (r : ℚ) / den := by positivity
  have hr1 : (r : ℚ) / den < 1 := by
    rw [div_lt_one (by exact_mod_cast hden)]
    exact_mod_cast hrem
  have hle := div_le_half_iff (r := r) hden
  have hge := half_le_div_iff (r := r) hden
  simp only
  split
  next hdown =>
    -- less than half is left
    have hhalf : (r : ℚ) / den < 1 / 2 := not_le.mp (hge.not.mpr (by omega))
    refine ⟨by linarith, by linarith, ?_⟩
    rintro (h | h)
    · linarith
    · linarith
  next hnotdown =>
    split
    next hup =>
      -- more than half is left
      have hhalf : 1 / 2 < (r : ℚ) / den := not_le.mp (hle.not.mpr (by omega))
      refine ⟨by push_cast; linarith, by push_cast; linarith, ?_⟩
      rintro (h | h)
      · push_cast at h
        linarith
      · push_cast at h
        linarith
    next hnotup =>
      -- a tie, which the parity of the integer part decides
      have hhalf : (r : ℚ) / den = 1 / 2 := le_antisymm (hle.mpr (by omega)) (hge.mpr (by omega))
      split
      next heven => exact ⟨by linarith, by linarith, fun _ => heven⟩
      next hodd => exact ⟨by push_cast; linarith, by push_cast; linarith, fun _ => by omega⟩

theorem exists_isNearest {ratio : Nat × Nat} (hden : 0 < ratio.2) :
    ∃ m, IsNearest (quotient ratio) m := by
  obtain ⟨num, den⟩ := ratio
  exact ⟨roundHalfEven num den, isNearest_roundHalfEven num hden⟩

/-- Rounding moves a number by at most half of the denominator. -/
theorem roundHalfEven_near (n : Nat) {d : Nat} (hd : 0 < d) :
    2 * (d * roundHalfEven n d) ≤ 2 * n + d ∧ 2 * n ≤ 2 * (d * roundHalfEven n d) + d := by
  have hsplit := Nat.div_add_mod n d
  have hrest := Nat.mod_lt n hd
  unfold roundHalfEven
  dsimp only
  split
  · omega
  split
  · rw [Nat.mul_add]
    omega
  split
  · omega
  · rw [Nat.mul_add]
    omega

/-- The nearest number, and of two that are equally near the even one, is the one that rounding
gives. -/
theorem roundHalfEven_eq {n d q : Nat} (hd : 0 < d) (hlow : 2 * (d * q) ≤ 2 * n + d)
    (hhigh : 2 * n ≤ 2 * (d * q) + d)
    (htie : 2 * (d * q) = 2 * n + d ∨ 2 * n = 2 * (d * q) + d → q % 2 = 0) :
    roundHalfEven n d = q := by
  have hd' : (0 : ℚ) < d := by exact_mod_cast hd
  have hlow' : (2 * (d * q) : ℚ) ≤ 2 * n + d := by exact_mod_cast hlow
  have hhigh' : (2 * n : ℚ) ≤ 2 * (d * q) + d := by exact_mod_cast hhigh
  refine (isNearest_roundHalfEven n hd).eq ⟨?_, ?_, ?_⟩
  · rw [quotient, le_div_iff₀ hd']
    linarith
  · rw [quotient, div_le_iff₀ hd']
    linarith
  · intro h
    rw [quotient, div_eq_iff hd'.ne', div_eq_iff hd'.ne'] at h
    refine htie (h.imp (fun h => ?_) (fun h => ?_))
    · have hcast : (2 * (d * q) : ℚ) = 2 * n + d := by linarith
      exact_mod_cast hcast
    · have hcast : (2 * n : ℚ) = 2 * (d * q) + d := by linarith
      exact_mod_cast hcast

namespace Binary64

/-! ## §4. The exponent that fits a ratio. -/

theorem quotient_scaleByTwo (num den : Nat) (k : Int) :
    quotient (scaleByTwo num den k) = quotient (num, den) * 2 ^ k :=
  quotient_scaled num den 2 k

/-- Scaling down is division by the power of two. -/
theorem quotient_scaleByTwo_neg (num den : Nat) (e : Int) :
    quotient (scaleByTwo num den (-e)) = quotient (num, den) / 2 ^ e := by
  rw [quotient_scaleByTwo, zpow_neg, div_eq_mul_inv]

theorem den_scaleByTwo_pos {num den : Nat} (hden : 0 < den) (k : Int) :
    0 < (scaleByTwo num den k).2 :=
  den_scaled_pos hden (by decide) k

/-- Over the next smaller power of two there is twice as much. -/
theorem div_two_zpow_sub_one (v : ℚ) (e : Int) : v / 2 ^ (e - 1) = 2 * (v / 2 ^ e) := by
  rw [zpow_sub_one₀ two_ne_zero]
  field_simp

/-- Over the power of two, `v` takes 53 bits; fewer only for the least exponent. -/
structure IsScale (v : ℚ) (e : Int) : Prop where
  least : leastExponent ≤ e
  lt : v / 2 ^ e < 2 ^ 53
  le : e = leastExponent ∨ 2 ^ 52 ≤ v / 2 ^ e

/-- Over a smaller power of two there is at least twice as much. -/
theorem two_mul_le_div_two_zpow {v : ℚ} {e f : Int} (hv : 0 ≤ v) (hlt : e < f) :
    2 * (v / 2 ^ f) ≤ v / 2 ^ e := by
  have hgap : v / 2 ^ e = v / 2 ^ f * 2 ^ (f - e) := by
    rw [zpow_sub₀ two_ne_zero]
    field_simp
  have htwo : (2 : ℚ) ≤ 2 ^ (f - e) := by
    calc (2 : ℚ) = 2 ^ (1 : Int) := (zpow_one 2).symm
      _ ≤ 2 ^ (f - e) := zpow_le_zpow_right₀ one_le_two (by omega)
  rw [hgap, mul_comm]
  exact mul_le_mul_of_nonneg_left htwo (by positivity)

/-- A power of two over which `v` takes at most 53 bits is not smaller than its scale. -/
theorem IsScale.le_of_lt {v : ℚ} {e f : Int} (he : IsScale v e) (hleast : leastExponent ≤ f)
    (hlt : v / 2 ^ f < 2 ^ 53) : e ≤ f := by
  by_contra hgt
  -- the scale is not the least exponent, so the smaller one leaves at least 54 bits
  have hnormal : 2 ^ 52 ≤ v / 2 ^ e := he.le.resolve_left fun h => by omega
  have hv : 0 ≤ v := by
    have hpow : (0 : ℚ) < 2 ^ e := by positivity
    exact le_trans (by positivity) ((le_div_iff₀ hpow).mp hnormal)
  have := two_mul_le_div_two_zpow hv (not_le.mp hgt)
  linarith [show (2 : ℚ) ^ 53 = 2 * 2 ^ 52 by norm_num]

/-- One over which it takes at least 53 bits is not larger. -/
theorem IsScale.le_of_le {v : ℚ} {e f : Int} (he : IsScale v e) (hv : 0 ≤ v)
    (hle : 2 ^ 52 ≤ v / 2 ^ f) : f ≤ e := by
  by_contra hlt
  have := two_mul_le_div_two_zpow hv (not_le.mp hlt)
  linarith [he.lt, show (2 : ℚ) ^ 53 = 2 * 2 ^ 52 by norm_num]

/-- The exponent that fits is unique. -/
theorem IsScale.eq {v : ℚ} {e e' : Int} (he : IsScale v e) (he' : IsScale v e') : e = e' := by
  have h := he.le_of_lt he'.least he'.lt
  have h' := he'.le_of_lt he.least he.lt
  omega

/-- The binary lengths of numerator and denominator bound a ratio from both sides. -/
theorem quotient_log2_bounds {num den : Nat} (hnum : 0 < num) (hden : 0 < den) :
    (2 : ℚ) ^ ((Nat.log2 num : Int) - Nat.log2 den - 1) < quotient (num, den)
      ∧ quotient (num, den) < (2 : ℚ) ^ ((Nat.log2 num : Int) - Nat.log2 den + 1) := by
  have hnum_le : ((2 : ℚ)) ^ Nat.log2 num ≤ num := by
    exact_mod_cast Nat.log2_self_le hnum.ne'
  have hnum_lt : (num : ℚ) < 2 ^ (Nat.log2 num + 1) := by
    exact_mod_cast Nat.lt_log2_self
  have hden_le : ((2 : ℚ)) ^ Nat.log2 den ≤ den := by
    exact_mod_cast Nat.log2_self_le hden.ne'
  have hden_lt : (den : ℚ) < 2 ^ (Nat.log2 den + 1) := by
    exact_mod_cast Nat.lt_log2_self
  have hden' : (0 : ℚ) < den := by exact_mod_cast hden
  constructor
  · calc (2 : ℚ) ^ ((Nat.log2 num : Int) - Nat.log2 den - 1)
        = 2 ^ Nat.log2 num / 2 ^ (Nat.log2 den + 1) := by
          rw [← zpow_natCast, ← zpow_natCast, ← zpow_sub₀ two_ne_zero]
          congr 1
          push_cast
          ring
      _ < num / den := by
          rw [div_lt_div_iff₀ (by positivity) hden']
          exact mul_lt_mul' hnum_le hden_lt hden'.le (by exact_mod_cast hnum)
  · calc (num : ℚ) / den
        < 2 ^ (Nat.log2 num + 1) / 2 ^ Nat.log2 den := by
          rw [div_lt_div_iff₀ hden' (by positivity)]
          exact mul_lt_mul hnum_lt hden_le (by positivity) (by positivity)
      _ = 2 ^ ((Nat.log2 num : Int) - Nat.log2 den + 1) := by
          rw [← zpow_natCast, ← zpow_natCast, ← zpow_sub₀ two_ne_zero]
          congr 1
          push_cast
          ring

/-- What takes 53 bits over some power of two is scaled by that power, or by the least one. -/
theorem isScale_max {v : ℚ} {e : Int} (hlow : 2 ^ 52 ≤ v / 2 ^ e) (hhigh : v / 2 ^ e < 2 ^ 53) :
    IsScale v (max leastExponent e) := by
  by_cases he : leastExponent ≤ e
  · rw [max_eq_right he]
    exact ⟨he, hhigh, .inr hlow⟩
  · rw [max_eq_left (by omega)]
    refine ⟨le_rfl, lt_of_le_of_lt ?_ hhigh, .inl rfl⟩
    -- a larger power of two leaves less
    have hpow : (0 : ℚ) < 2 ^ e := by positivity
    have hv : 0 ≤ v := by
      by_contra hneg
      have : v / 2 ^ e < 0 := div_neg_of_neg_of_pos (by linarith) hpow
      linarith [show (0 : ℚ) < 2 ^ 52 by norm_num]
    exact div_le_div_of_nonneg_left hv hpow (zpow_le_zpow_right₀ one_le_two (by omega))

/-- **The exponent that is chosen for a ratio fits it.** -/
theorem isScale_exponentFor {num den : Nat} (hnum : 0 < num) (hden : 0 < den) :
    IsScale (quotient (num, den)) (exponentFor num den) := by
  obtain ⟨hlow, hhigh⟩ := quotient_log2_bounds hnum hden
  unfold exponentFor
  generalize hguess : (Nat.log2 num : Int) - Nat.log2 den - 52 = guess
  -- the guess leaves 52 or 53 bits
  have hlow' : 2 ^ 51 < quotient (num, den) / 2 ^ guess := by
    rw [lt_div_iff₀ (by positivity), ← zpow_natCast, ← zpow_add₀ two_ne_zero]
    rwa [show ((51 : Nat) : Int) + guess = Nat.log2 num - Nat.log2 den - 1 by omega]
  have hhigh' : quotient (num, den) / 2 ^ guess < 2 ^ 53 := by
    rw [div_lt_iff₀ (by positivity), ← zpow_natCast, ← zpow_add₀ two_ne_zero]
    rwa [show ((53 : Nat) : Int) + guess = Nat.log2 num - Nat.log2 den + 1 by omega]
  have hscaled := quotient_scaleByTwo_neg num den guess
  have hpos : 0 < (scaleByTwo num den (-guess)).2 := den_scaleByTwo_pos hden _
  dsimp only
  generalize scaleByTwo num den (-guess) = scaled at hscaled hpos ⊢
  obtain ⟨n, d⟩ := scaled
  have hd : (0 : ℚ) < d := by exact_mod_cast hpos
  have htest : n < d * Nat.pow 2 52 ↔ quotient (num, den) / 2 ^ guess < 2 ^ 52 := by
    rw [← hscaled, quotient, div_lt_iff₀ hd]
    constructor
    · intro h
      have h' : ((n : Nat) : ℚ) < (d * Nat.pow 2 52 : Nat) := by exact_mod_cast h
      push_cast [Nat.pow_eq] at h'
      linarith
    · intro h
      have h' : ((n : Nat) : ℚ) < (d * Nat.pow 2 52 : Nat) := by
        push_cast [Nat.pow_eq]
        linarith
      exact_mod_cast h'
  show IsScale _ (max leastExponent (if n < d * Nat.pow 2 52 then guess - 1 else guess))
  split
  next hshort =>
    -- one bit more for the smaller exponent
    refine isScale_max ?_ ?_
    · rw [div_two_zpow_sub_one]
      linarith [show (2 : ℚ) ^ 52 = 2 * 2 ^ 51 by norm_num]
    · rw [div_two_zpow_sub_one]
      linarith [htest.mp hshort, show (2 : ℚ) ^ 53 = 2 * 2 ^ 52 by norm_num]
  next hlong => exact isScale_max (not_lt.mp (htest.not.mp hlong)) hhigh'

/-! ## §5. What a ratio rounds to. -/

theorem carried_of_isCanonical {negative : Bool} {m : Nat} {e : Int} (h : IsCanonical m e) :
    carried negative m e = finite negative m e h := by
  have hm : m ≠ Nat.pow 2 precision := h.mantissa.ne
  unfold carried
  rw [if_neg hm]
  exact dif_pos h

theorem carried_limit {negative : Bool} {e : Int} (h : IsCanonical (2 ^ 52) (e + 1)) :
    carried negative (2 ^ 53) e = finite negative (2 ^ 52) (e + 1) h := by
  unfold carried
  rw [if_pos (show 2 ^ 53 = Nat.pow 2 precision from rfl)]
  exact dif_pos h

theorem carried_limit_of_gt {negative : Bool} {e : Int} (h : ¬ IsCanonical (2 ^ 52) (e + 1)) :
    carried negative (2 ^ 53) e = infinite negative := by
  unfold carried
  rw [if_pos (show 2 ^ 53 = Nat.pow 2 precision from rfl)]
  exact dif_neg h

theorem carried_of_gt {negative : Bool} {m : Nat} {e : Int} (hm : m ≠ 2 ^ 53)
    (h : ¬ IsCanonical m e) : carried negative m e = infinite negative := by
  unfold carried
  rw [if_neg (show m ≠ Nat.pow 2 precision from hm)]
  exact dif_neg h

/-- The nearest integer over the power of two that fits has 53 bits, or fewer for the least
exponent, or is the next power of two. -/
theorem IsScale.bits {v : ℚ} {e : Int} {m : Nat} (he : IsScale v e)
    (hm : IsNearest (v / 2 ^ e) m) : m ≤ 2 ^ 53 ∧ (2 ^ 52 ≤ m ∨ e = leastExponent) := by
  refine ⟨le_two_pow_of_lt (by linarith [hm.low, he.lt]), ?_⟩
  exact (he.le.imp_right fun hnormal => two_pow_le_of_lt (by linarith [hm.high])).symm

/-- **Rounding a ratio**: the nearest integer over the power of two that fits. -/
theorem ofRatio_eq_carried {negative : Bool} {num den m : Nat} {e : Int} (hnum : 0 < num)
    (hden : 0 < den) (he : IsScale (quotient (num, den)) e)
    (hm : IsNearest (quotient (num, den) / 2 ^ e) m) :
    ofRatio negative num den = carried negative m e := by
  have hexponent : exponentFor num den = e := (isScale_exponentFor hnum hden).eq he
  have hscaled := quotient_scaleByTwo_neg num den e
  have hpos : 0 < (scaleByTwo num den (-e)).2 := den_scaleByTwo_pos hden _
  unfold ofRatio
  rw [if_neg hnum.ne', hexponent]
  dsimp only
  generalize scaleByTwo num den (-e) = scaled at hscaled hpos ⊢
  obtain ⟨n, d⟩ := scaled
  have hmantissa : roundHalfEven n d = m := by
    refine (isNearest_roundHalfEven n hpos).eq ?_
    rw [hscaled]
    exact hm
  rw [← hmantissa]

/-! ## §6. The interval around a double. -/

/-- How far the interval of a double reaches down, in units of its last place: half a unit, and a
quarter at a power of two, below which the units are smaller. -/
def gapBelow (m : Nat) (e : Int) : ℚ := if m = 2 ^ 52 ∧ leastExponent < e then 1 / 4 else 1 / 2

theorem gapBelow_le (m : Nat) (e : Int) : gapBelow m e ≤ 1 / 2 := by
  unfold gapBelow
  split
  · norm_num
  · exact le_rfl

/-- `v` lies in the interval of the double `m · 2 ^ e`, whose ends belong to it if the mantissa is
even. -/
structure RoundsTo (m : Nat) (e : Int) (v : ℚ) : Prop where
  low : m - gapBelow m e ≤ v / 2 ^ e
  high : v / 2 ^ e ≤ m + 1 / 2
  ends : v / 2 ^ e = m - gapBelow m e ∨ v / 2 ^ e = m + 1 / 2 → m % 2 = 0

theorem cast_add_one_le_of_lt {m k : Nat} (h : m < 2 ^ k) : (m : ℚ) + 1 ≤ 2 ^ k := by
  exact_mod_cast h

theorem RoundsTo.half_le {m : Nat} {e : Int} {v : ℚ} (hm : 0 < m) (hv : RoundsTo m e v) :
    1 / 2 ≤ v / 2 ^ e := by
  have hm' : (1 : ℚ) ≤ m := by exact_mod_cast hm
  linarith [hv.low, gapBelow_le m e]

/-- What rounds to a double is neither tiny nor huge. -/
theorem RoundsTo.bounds {m : Nat} {e : Int} {v : ℚ} (hcanonical : IsCanonical m e) (hm : 0 < m)
    (hv : RoundsTo m e v) : (2 : ℚ) ^ (-1075 : Int) ≤ v ∧ v < (2 : ℚ) ^ (1024 : Int) := by
  have hpow : (0 : ℚ) < 2 ^ e := by positivity
  have hlow := (le_div_iff₀ hpow).mp (hv.half_le hm)
  have hhigh := (div_le_iff₀ hpow).mp hv.high
  have hmantissa := cast_add_one_le_of_lt hcanonical.mantissa
  constructor
  · calc (2 : ℚ) ^ (-1075 : Int) = 1 / 2 * 2 ^ leastExponent := by
          rw [show (-1075 : Int) = -1 + leastExponent by decide, zpow_add₀ two_ne_zero]
          norm_num
      _ ≤ 1 / 2 * 2 ^ e := by
          have hleast : (2 : ℚ) ^ leastExponent ≤ 2 ^ e :=
            zpow_le_zpow_right₀ one_le_two hcanonical.least
          linarith
      _ ≤ v := hlow
  · calc v ≤ (m + 1 / 2) * 2 ^ e := hhigh
      _ < 2 ^ 53 * 2 ^ e := by
          refine mul_lt_mul_of_pos_right ?_ hpow
          linarith
      _ ≤ 2 ^ 53 * 2 ^ greatestExponent := by
          have hgreatest : (2 : ℚ) ^ e ≤ 2 ^ greatestExponent :=
            zpow_le_zpow_right₀ one_le_two hcanonical.greatest
          exact mul_le_mul_of_nonneg_left hgreatest (by positivity)
      _ = (2 : ℚ) ^ (1024 : Int) := by
          rw [show (1024 : Int) = (53 : Nat) + greatestExponent by decide, zpow_add₀ two_ne_zero,
            zpow_natCast]

/-- A ratio that is scaled by the exponent of the double has its mantissa as nearest integer. -/
theorem RoundsTo.isNearest {m : Nat} {e : Int} {v : ℚ} (hv : RoundsTo m e v) :
    IsNearest (v / 2 ^ e) m := by
  have hgap := gapBelow_le m e
  refine ⟨by linarith [hv.low], hv.high, ?_⟩
  rintro (htie | htie)
  · exact hv.ends (.inl (by linarith [hv.low]))
  · exact hv.ends (.inr htie)

/-- Below the power of two that it rounds to, a ratio is scaled by the next smaller exponent, and
its nearest integer is the first one that has too many digits. -/
theorem RoundsTo.isNearest_below {m : Nat} {e : Int} {v : ℚ} (hcanonical : IsCanonical m e)
    (hv : RoundsTo m e v) (hleast : e ≠ leastExponent) (hbelow : v / 2 ^ e < 2 ^ 52) :
    m = 2 ^ 52 ∧ IsScale v (e - 1) ∧ IsNearest (v / 2 ^ (e - 1)) (2 ^ 53) := by
  have hgap := gapBelow_le m e
  have hleast' := hcanonical.least
  have hpower : m = 2 ^ 52 := by
    have hge : 2 ^ 52 ≤ m := hcanonical.normal.resolve_right hleast
    have hle : m ≤ 2 ^ 52 := le_two_pow_of_lt (by linarith [hv.low])
    omega
  have hgap' : gapBelow m e = 1 / 4 := if_pos ⟨hpower, by omega⟩
  have hm : (m : ℚ) = 2 ^ 52 := by
    rw [hpower]
    exact Nat.cast_pow 2 52
  have hdouble := div_two_zpow_sub_one v e
  refine ⟨hpower, ⟨by omega, ?_, .inr ?_⟩, ⟨?_, ?_, fun _ => by norm_num⟩⟩
  · linarith
  · linarith [hv.low]
  · rw [Nat.cast_pow]
    push_cast
    linarith [hv.low]
  · rw [Nat.cast_pow]
    push_cast
    linarith

/-- **Every ratio in the interval of a double rounds to it.** -/
theorem ofRatio_of_roundsTo {negative : Bool} {num den m : Nat} {e : Int}
    (hcanonical : IsCanonical m e) (hm : 0 < m) (hden : 0 < den)
    (hv : RoundsTo m e (quotient (num, den))) :
    ofRatio negative num den = finite negative m e hcanonical := by
  have hmantissa := cast_add_one_le_of_lt hcanonical.mantissa
  have hnum : 0 < num := by
    refine Nat.pos_of_ne_zero ?_
    rintro rfl
    have := hv.half_le hm
    simp [quotient] at this
    linarith
  have hlt : quotient (num, den) / 2 ^ e < 2 ^ 53 := by linarith [hv.high]
  by_cases hnormal : e = leastExponent ∨ 2 ^ 52 ≤ quotient (num, den) / 2 ^ e
  · -- the ratio is scaled by the exponent of the double
    rw [ofRatio_eq_carried hnum hden ⟨hcanonical.least, hlt, hnormal⟩ hv.isNearest]
    exact carried_of_isCanonical hcanonical
  · -- the exponent is one less until the ratio is rounded
    obtain ⟨hleast, hbelow⟩ := not_or.mp hnormal
    obtain ⟨hpower, hscale, hnearest⟩ :=
      hv.isNearest_below hcanonical hleast (lt_of_not_ge hbelow)
    have hexponent : e - 1 + 1 = e := Int.sub_add_cancel e 1
    have hcarry : IsCanonical (2 ^ 52) (e - 1 + 1) := by rwa [hexponent, ← hpower]
    rw [ofRatio_eq_carried hnum hden hscale hnearest, carried_limit hcarry, finite.injEq]
    exact ⟨rfl, hpower.symm, hexponent⟩

/-- What is neither tiny nor huge has a place for its first digit that is neither. -/
theorem digits_add_bounds {coefficient : Nat} {exponent : Int} (hcoefficient : 0 < coefficient)
    (hlow : (2 : ℚ) ^ (-1075 : Int) ≤ coefficient * 10 ^ exponent)
    (hhigh : coefficient * 10 ^ exponent < (2 : ℚ) ^ (1024 : Int)) :
    -400 ≤ ((Text.ofNat coefficient).length : Int) + exponent
      ∧ ((Text.ofNat coefficient).length : Int) + exponent ≤ 400 := by
  have hupper := Text.lt_pow_length_ofNat coefficient
  have hlower := fun k (hk : k < (Text.ofNat coefficient).length) =>
    Text.pow_le_of_lt_length_ofNat hcoefficient hk
  generalize (Text.ofNat coefficient).length = digits at hupper hlower ⊢
  have hpow : (0 : ℚ) < 10 ^ exponent := by positivity
  constructor
  · by_contra hfew
    have hall : (coefficient : ℚ) ≤ 10 ^ digits := by exact_mod_cast hupper.le
    have htiny : coefficient * 10 ^ exponent < (2 : ℚ) ^ (-1075 : Int) := by
      calc (coefficient : ℚ) * 10 ^ exponent ≤ 10 ^ digits * 10 ^ exponent :=
            mul_le_mul_of_nonneg_right hall hpow.le
        _ = 10 ^ ((digits : Int) + exponent) := by rw [zpow_add₀ (by norm_num), zpow_natCast]
        _ < 10 ^ (-400 : Int) := zpow_lt_zpow_right₀ (by norm_num) (by omega)
        _ ≤ (2 : ℚ) ^ (-1075 : Int) := ten_zpow_le_two_zpow (.inr (by decide))
    linarith
  · by_contra hmany
    have hpos : 0 < digits := by
      refine Nat.pos_of_ne_zero ?_
      rintro rfl
      omega
    have hlead : (10 : ℚ) ^ (digits - 1) ≤ coefficient := by
      exact_mod_cast hlower (digits - 1) (by omega)
    have hhuge : (2 : ℚ) ^ (1024 : Int) ≤ coefficient * 10 ^ exponent := by
      calc (2 : ℚ) ^ (1024 : Int) ≤ 10 ^ (400 : Int) := two_zpow_le_ten_zpow (.inl (by decide))
        _ ≤ 10 ^ (((digits - 1 : Nat) : Int) + exponent) :=
          zpow_le_zpow_right₀ (by norm_num) (by omega)
        _ = 10 ^ (digits - 1) * 10 ^ exponent := by rw [zpow_add₀ (by norm_num), zpow_natCast]
        _ ≤ coefficient * 10 ^ exponent := mul_le_mul_of_nonneg_right hlead hpow.le
    linarith

/-- **Every decimal in the interval of a double is read as that double.** -/
theorem ofDecimal_of_roundsTo {negative : Bool} {coefficient m : Nat} {exponent e : Int}
    (hcanonical : IsCanonical m e) (hm : 0 < m)
    (hv : RoundsTo m e (coefficient * 10 ^ exponent)) :
    ofDecimal negative coefficient exponent = finite negative m e hcanonical := by
  have hcoefficient : 0 < coefficient := by
    refine Nat.pos_of_ne_zero ?_
    rintro rfl
    have := hv.half_le hm
    simp at this
    linarith
  obtain ⟨hlow, hhigh⟩ := hv.bounds hcanonical hm
  obtain ⟨hfew, hmany⟩ := digits_add_bounds hcoefficient hlow hhigh
  have hlength : (Nat.toDigits 10 coefficient).length = (Text.ofNat coefficient).length := by
    rw [Text.ofNat, List.length_map]
  have hscaled := quotient_scaled coefficient 1 10 exponent
  have hwhole : quotient (coefficient, 1) = coefficient := by
    rw [quotient, Nat.cast_one, div_one]
  rw [hwhole] at hscaled
  unfold ofDecimal
  rw [if_neg hcoefficient.ne', hlength]
  dsimp only
  rw [if_neg (by omega), if_neg (by omega)]
  -- the ratio is exact, on either side of the point
  split
  next hexponent =>
    rw [if_pos hexponent] at hscaled
    refine ofRatio_of_roundsTo hcanonical hm Nat.one_pos ?_
    rw [hscaled]
    exact hv
  next hexponent =>
    rw [if_neg hexponent, Nat.one_mul] at hscaled
    refine ofRatio_of_roundsTo hcanonical hm (Nat.pow_pos (by decide)) ?_
    rw [hscaled]
    exact hv

end Binary64

end EventEnvelope
