/-
  EventEnvelope.Proofs.Calendar.Milliseconds
  ──────────────────────────────────────────
  **Which milliseconds get lost.**

  A date-time is written as seconds in a double, times a thousand, cut to an integer.  The seconds
  are rounded to 53 bits, and so is their product.  The seconds have nine or ten bits more behind
  the point than the product.  With ten, rounding them is too fine to be seen in the product, which
  is the number of milliseconds again.  With nine, the product can come out one unit in the last
  place too low, and then cutting it takes a whole millisecond away.

    • `RoundsTwice`             — the two roundings, in units of the last place,
    • `LosesMillisecond`        — the numbers that come out too low,
    • `epochMillis_eq`          — **what is written** for a whole number of milliseconds.
-/
import EventEnvelope.Proofs.Calendar.Instants

namespace EventEnvelope

/-! ## §1. Two roundings. -/

/-- The mantissas of the seconds and of the product, for a number of milliseconds with mantissa `x`:
the seconds have more bits behind the point, by those of `d`. -/
structure RoundsTwice (d x seconds product : Nat) : Prop where
  seconds_eq : roundHalfEven (d * x) 1000 = seconds
  seconds_bits : 2 ^ 52 * 1000 ≤ d * x ∧ d * x < 1000 * 2 ^ 53
  seconds_lt : seconds < 2 ^ 53
  product_eq : roundHalfEven (1000 * seconds) d = product
  product_bits : 2 ^ 52 * d ≤ 1000 * seconds ∧ 1000 * seconds < d * 2 ^ 53
  product_lt : product < 2 ^ 53

/-- **With nine bits more**, rounding the seconds down by more than half a unit of the product takes
a unit away from it. -/
theorem roundsTwice_nine_bits {x : Nat} (hlow : 125 * 2 ^ 46 ≤ x) (hhigh : x < 2 ^ 53)
    (heven : x % 2 = 0) :
    ∃ k q, RoundsTwice 512 x k q
      ∧ (256 < 512 * x % 1000 ∧ 512 * x % 1000 < 500 → q + 1 = x)
      ∧ (¬ (256 < 512 * x % 1000 ∧ 512 * x % 1000 < 500) → x ≤ q ∧ q ≤ x + 1) := by
  obtain ⟨hbelow, habove⟩ := roundHalfEven_near (512 * x) (show 0 < 1000 by decide)
  obtain ⟨k, hk⟩ : ∃ k, roundHalfEven (512 * x) 1000 = k := ⟨_, rfl⟩
  rw [hk] at hbelow habove
  have hsplit := Nat.div_add_mod (512 * x) 1000
  have hrest := Nat.mod_lt (512 * x) (show 1000 > 0 by decide)
  generalize 512 * x / 1000 = t at hsplit
  generalize 512 * x % 1000 = r at hsplit hrest ⊢
  -- the remainder is a multiple of eight, so the seconds are not rounded from a tie
  have hside : r < 500 ∧ k = t ∨ 500 < r ∧ k = t + 1 := by omega
  have hnear := fun q => @roundHalfEven_eq (1000 * k) 512 q (by decide)
  have htwice : ∀ q, roundHalfEven (1000 * k) 512 = q → q ≤ x + 1 → RoundsTwice 512 x k q := by
    intro q hq hle
    exact ⟨hk, by omega, by omega, hq, by omega, by omega⟩
  by_cases hlost : 256 < r ∧ r < 500
  · have hq : roundHalfEven (1000 * k) 512 = x - 1 := hnear _ (by omega) (by omega) (by omega)
    exact ⟨k, x - 1, htwice _ hq (by omega), fun _ => by omega, fun h => absurd hlost h⟩
  · by_cases hsame : 744 ≤ r ∨ r ≤ 256
    · have hq : roundHalfEven (1000 * k) 512 = x := hnear _ (by omega) (by omega) (by omega)
      exact ⟨k, x, htwice _ hq (by omega), fun h => absurd h hlost, fun _ => by omega⟩
    · obtain ⟨q, hnext⟩ : ∃ q, q = x + 1 := ⟨_, rfl⟩
      have hq : roundHalfEven (1000 * k) 512 = q := hnear _ (by omega) (by omega) (by omega)
      exact ⟨k, q, htwice _ hq (by omega), fun h => absurd h hlost, fun _ => by omega⟩

/-- **With ten bits more**, rounding the seconds moves them by less than half a unit of the product.
-/
theorem roundsTwice_ten_bits {x : Nat} (hlow : 2 ^ 52 ≤ x) (hhigh : x < 125 * 2 ^ 46) :
    ∃ k, RoundsTwice 1024 x k x := by
  obtain ⟨hbelow, habove⟩ := roundHalfEven_near (1024 * x) (show 0 < 1000 by decide)
  obtain ⟨k, hk⟩ : ∃ k, roundHalfEven (1024 * x) 1000 = k := ⟨_, rfl⟩
  rw [hk] at hbelow habove
  have hq : roundHalfEven (1000 * k) 1024 = x :=
    roundHalfEven_eq (by decide) (by omega) (by omega) (by omega)
  exact ⟨k, hk, by omega, by omega, hq, by omega, by omega⟩

/-- Dividing by a thousand and multiplying again, as doubles. -/
theorem RoundsTwice.scale_ofRatio {d n i s k q : Nat} (h : RoundsTwice d (n * 2 ^ i) k q)
    (hd : d = 2 ^ s) (hi : i + s ≤ 1074) (negative : Bool) :
    ((Binary64.ofRatio negative (n * 1000) 1000000).scale 1000 1).HasMagnitude negative
      (q * 2 ^ (-(i : Int))) := by
  have hseconds : quotient (n * 1000, 1000000) * 2 ^ (i + s)
      = quotient (d * (n * 2 ^ i), 1000) := by
    unfold quotient
    push_cast [hd]
    rw [pow_add]
    ring
  obtain ⟨hform, hround⟩ : ∃ hform, Binary64.ofRatio negative (n * 1000) 1000000
      = .finite negative k (-(i + s : Nat)) hform := by
    rw [← h.seconds_eq]
    exact Binary64.ofRatio_of_grid negative (by decide) (by decide) hi hseconds h.seconds_bits.1
      h.seconds_bits.2 (by rw [h.seconds_eq]; exact h.seconds_lt)
  have hden := Binary64.den_ratio_pos k (-(i + s : Nat))
  have hmagnitude := Binary64.quotient_ratio k (-(i + s : Nat))
  rw [hround, Binary64.scale]
  dsimp only
  generalize Binary64.ratio k (-(i + s : Nat)) = r at hden hmagnitude ⊢
  have hproduct : quotient (r.1 * 1000, r.2 * 1) * 2 ^ i = quotient (1000 * k, d) := by
    unfold quotient at hmagnitude ⊢
    dsimp only at hmagnitude ⊢
    rw [Nat.mul_one, Nat.cast_mul, mul_comm (r.1 : ℚ), mul_div_assoc, hmagnitude, zpow_neg,
      zpow_natCast, pow_add, hd]
    push_cast
    field_simp
  obtain ⟨hform', hround'⟩ := Binary64.ofRatio_of_grid negative (Nat.mul_pos hden Nat.one_pos)
    (by rw [hd]; exact Nat.two_pow_pos s) (by omega) hproduct h.product_bits.1 h.product_bits.2
    (by rw [h.product_eq]; exact h.product_lt)
  exact ⟨_, _, hform', hround', by rw [h.product_eq]⟩

namespace DateTime

/-! ## §2. Numbers of milliseconds. -/

/-- The mantissa of a number of at most 53 bits, as a double. -/
def mantissaOf (n : Nat) : Nat := n * 2 ^ (52 - Nat.log2 n)

/-- A millisecond is lost if the seconds have nine bits more than the product and are rounded down
by more than half a unit of the product, which has 512 parts. -/
def LosesMillisecond (n : Nat) : Prop :=
  125 * 2 ^ 46 ≤ mantissaOf n ∧ 256 < 512 * mantissaOf n % 1000 ∧ 512 * mantissaOf n % 1000 < 500

instance (n : Nat) : Decidable (LosesMillisecond n) := inferInstanceAs (Decidable (_ ∧ _))

theorem mantissaOf_bounds {n : Nat} (hpos : 0 < n) (hsmall : n < 2 ^ 52) :
    2 ^ 52 ≤ mantissaOf n ∧ mantissaOf n < 2 ^ 53 ∧ 0 < 52 - Nat.log2 n := by
  have hlow := Nat.log2_self_le hpos.ne'
  have hhigh := Nat.lt_log2_self (n := n)
  have hlog : Nat.log2 n < 52 := (Nat.log2_lt hpos.ne').mpr hsmall
  have hexponent : 2 ^ 52 = 2 ^ Nat.log2 n * 2 ^ (52 - Nat.log2 n) := by
    rw [← pow_add]
    congr 1
    omega
  refine ⟨?_, ?_, by omega⟩
  · rw [hexponent]
    exact Nat.mul_le_mul_right _ hlow
  · rw [pow_succ, hexponent, mul_right_comm, ← pow_succ]
    exact Nat.mul_lt_mul_of_pos_right hhigh (Nat.two_pow_pos _)

/-- **The product** is the number or a unit above it, and a unit below it if a millisecond is lost.
-/
theorem scale_seconds_eq (negative : Bool) {n : Nat} (hpos : 0 < n) (hsmall : n < 2 ^ 52) :
    ∃ q : Nat, ((Binary64.ofRatio negative (n * 1000) 1000000).scale 1000 1).HasMagnitude negative
        (q * 2 ^ (-((52 - Nat.log2 n : Nat) : Int)))
      ∧ (LosesMillisecond n → q + 1 = mantissaOf n)
      ∧ (¬ LosesMillisecond n → mantissaOf n ≤ q ∧ q ≤ mantissaOf n + 1) := by
  obtain ⟨hlow, hhigh, hbits⟩ := mantissaOf_bounds hpos hsmall
  have heven : mantissaOf n % 2 = 0 := by
    obtain ⟨k, hk⟩ := Nat.exists_eq_add_one.mpr hbits
    rw [mantissaOf, hk, pow_succ, ← mul_assoc, Nat.mul_mod_left]
  unfold LosesMillisecond
  by_cases hnine : 125 * 2 ^ 46 ≤ mantissaOf n
  · obtain ⟨k, q, htwice, hlost, hkept⟩ := roundsTwice_nine_bits hnine hhigh heven
    have hscale := htwice.scale_ofRatio (s := 9) rfl (by omega) negative
    exact ⟨q, hscale, fun h => hlost h.2, fun h => hkept fun h' => h ⟨hnine, h'⟩⟩
  · obtain ⟨k, htwice⟩ := roundsTwice_ten_bits hlow (not_le.mp hnine)
    have hscale := htwice.scale_ofRatio (s := 10) rfl (by omega) negative
    exact ⟨mantissaOf n, hscale, fun h => absurd h.1 hnine, fun _ => by omega⟩

/-! ## §3. Cutting. -/

/-- A double is cut to the integer below it, by its mantissa. -/
theorem truncate?_scaled {x : Binary64} {negative : Bool} {q i : Nat}
    (hx : x.HasMagnitude negative (q * 2 ^ (-(i : Int)))) (p : Nat) (hlow : p * 2 ^ i ≤ q)
    (hhigh : q < (p + 1) * 2 ^ i) : x.truncate? = some (signed negative p) := by
  have hpow : (0 : ℚ) < 2 ^ i := by positivity
  rw [zpow_neg, zpow_natCast, ← div_eq_mul_inv] at hx
  refine Binary64.truncate?_eq hx ?_ ?_
  · rw [le_div_iff₀ hpow]
    exact_mod_cast hlow
  · rw [div_lt_iff₀ hpow]
    exact_mod_cast hhigh

/-- Nothing is lost of nothing. -/
theorem truncate?_scale_zero (negative : Bool) (den : Nat) :
    ((Binary64.ofRatio negative 0 den).scale 1000 1).truncate? = some 0 := by
  obtain ⟨d, hratio⟩ : ∃ d, Binary64.ratio 0 Binary64.leastExponent = (0, d) := by
    unfold Binary64.ratio Binary64.scaleByTwo
    exact ⟨_, by rw [if_neg (by decide)]⟩
  have hscale : (Binary64.ofRatio negative 0 den).scale 1000 1 = .zero negative := by
    rw [Binary64.ofRatio, if_pos rfl, Binary64.zero, Binary64.scale, hratio]
    dsimp only
    rw [Nat.zero_mul, Binary64.ofRatio, if_pos rfl, Binary64.zero]
  have hmagnitude := Binary64.hasMagnitude_zero negative
  rw [hscale, Binary64.truncate?_eq hmagnitude (q := 0) (by simp) (by simp)]
  cases negative <;> rfl

/-- The number of milliseconds that is written: one nearer to zero if it is lost. -/
def cutMillis (m : Int) : Int := if LosesMillisecond m.natAbs then m - m.sign else m

theorem natAbs_cutMillis_le (m : Int) : (cutMillis m).natAbs ≤ m.natAbs := by
  unfold cutMillis
  rcases lt_trichotomy m 0 with hneg | rfl | hpos
  · rw [Int.sign_eq_neg_one_of_neg hneg]
    split <;> omega
  · decide
  · rw [Int.sign_eq_one_of_pos hpos]
    split <;> omega

theorem cutMillis_eq_self_iff (m : Int) : cutMillis m = m ↔ ¬ LosesMillisecond m.natAbs := by
  unfold cutMillis
  split
  next hloses =>
    have hm : m ≠ 0 := by
      rintro rfl
      revert hloses
      decide
    have hsign : m.sign ≠ 0 := Int.sign_eq_zero_iff_zero.not.mpr hm
    refine ⟨fun h => absurd h (by omega), fun h => absurd hloses h⟩
  next hkeeps => exact ⟨fun _ => hkeeps, fun _ => rfl⟩

theorem signed_pred_natAbs {m : Int} (hm : m ≠ 0) :
    signed (m < 0) (m.natAbs - 1) = m - m.sign := by
  unfold signed
  rcases lt_or_gt_of_ne hm with hneg | hpos
  · rw [if_pos (decide_eq_true hneg), Int.sign_eq_neg_one_of_neg hneg]
    omega
  · rw [if_neg (by rw [decide_eq_true_eq]; omega), Int.sign_eq_one_of_pos hpos]
    omega

/-- **What is written** for a whole number of milliseconds. -/
theorem epochMillis_eq {t : DateTime} {m : Int} (ht : t.epochMicroseconds = m * 1000)
    (hsmall : m.natAbs < 2 ^ 52) : t.epochMillis = cutMillis m := by
  have habs : (m * 1000).natAbs = m.natAbs * 1000 := Int.natAbs_mul m 1000
  have hsign : decide (m * 1000 < 0) = decide (m < 0) := by
    rw [decide_eq_decide]
    omega
  unfold epochMillis epochSeconds
  rw [ht, habs, hsign]
  rcases eq_or_ne m 0 with rfl | hm
  · rw [Int.natAbs_zero, Nat.zero_mul, truncate?_scale_zero]
    rfl
  · obtain ⟨n, hn⟩ : ∃ n, m.natAbs = n + 1 := ⟨m.natAbs - 1, by omega⟩
    have hpos : 0 < m.natAbs := by omega
    obtain ⟨q, hscale, hlost, hkept⟩ := scale_seconds_eq (m < 0) hpos hsmall
    obtain ⟨-, -, hbits⟩ := mantissaOf_bounds hpos hsmall
    -- a unit in the last place is less than a millisecond
    have hunit : 1 < 2 ^ (52 - Nat.log2 m.natAbs) := Nat.one_lt_two_pow hbits.ne'
    have hmantissa : mantissaOf m.natAbs = m.natAbs * 2 ^ (52 - Nat.log2 m.natAbs) := rfl
    generalize 52 - Nat.log2 m.natAbs = i at hscale hmantissa hunit
    unfold cutMillis
    split
    next hloses =>
      have hq := hlost hloses
      have hnext : m.natAbs * 2 ^ i = n * 2 ^ i + 2 ^ i := by rw [hn, Nat.succ_mul]
      rw [truncate?_scaled hscale n (by omega) (by rw [Nat.succ_mul]; omega),
        ← signed_pred_natAbs hm, hn]
      rfl
    next hkeeps =>
      have hq := hkept hkeeps
      rw [truncate?_scaled hscale m.natAbs (by omega) (by rw [Nat.succ_mul]; omega), signed_natAbs]
      rfl

end DateTime

end EventEnvelope
