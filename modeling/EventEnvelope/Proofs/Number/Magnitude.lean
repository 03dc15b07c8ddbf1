/-
  EventEnvelope.Proofs.Number.Magnitude
  ─────────────────────────────────────
  **Equal magnitudes belong to equal integers.**

  A magnitude keeps its coefficient without trailing zeros, which are counted in the exponent, so
  the integer can be put together again.

    • `stripZeros_spec`         — no value is lost with the zeros,
    • `ofInt_inj`               — different integers have different magnitudes.
-/
import Mathlib.Algebra.Group.Nat.Defs
import EventEnvelope.Number.Decimal

namespace EventEnvelope

namespace Magnitude

/-- Zeros that are stripped are counted in the exponent. -/
theorem stripZeros_spec (fuel c : Nat) (e : Int) :
    ∃ k : Nat, (stripZeros fuel c e).2 = e + k ∧ (stripZeros fuel c e).1 * 10 ^ k = c := by
  induction fuel generalizing c e with
  | zero => exact ⟨0, by simp [stripZeros], by simp [stripZeros]⟩
  | succ fuel ih =>
      rw [stripZeros]
      split
      next hzero =>
        -- one more zero than a tenth has
        obtain ⟨k, hexponent, hvalue⟩ := ih (c / 10) (e + 1)
        refine ⟨k + 1, ?_, ?_⟩
        · rw [hexponent]
          omega
        · have hdiv : c / 10 * 10 = c := by omega
          rw [Nat.pow_succ, ← Nat.mul_assoc, hvalue, hdiv]
      next => exact ⟨0, by simp, by simp⟩

/-- Magnitudes of the same scale are equal only for equal numbers. -/
theorem ofScaled_inj {negative negative' : Bool} {c c' : Nat} {e : Int} (hc : c ≠ 0) (hc' : c' ≠ 0)
    (h : ofScaled negative c e = ofScaled negative' c' e) : negative = negative' ∧ c = c' := by
  obtain ⟨k, hexponent, hvalue⟩ := stripZeros_spec (Decimal.digitCount c) c e
  obtain ⟨k', hexponent', hvalue'⟩ := stripZeros_spec (Decimal.digitCount c') c' e
  rw [ofScaled, ofScaled, if_neg hc, if_neg hc'] at h
  injection h with hnegative hcoefficient hscale
  refine ⟨hnegative, ?_⟩
  have hk : k = k' := by omega
  rw [← hvalue, ← hvalue', hcoefficient, hk]

/-- Zero alone has the coefficient zero. -/
theorem ofScaled_ne_zero {negative : Bool} {c : Nat} {e : Int} (hc : c ≠ 0) :
    ofScaled negative c e ≠ finite false 0 0 := by
  intro h
  obtain ⟨k, -, hvalue⟩ := stripZeros_spec (Decimal.digitCount c) c e
  rw [ofScaled, if_neg hc] at h
  injection h with _ hcoefficient _
  rw [hcoefficient, Nat.zero_mul] at hvalue
  exact hc hvalue.symm

/-- **Different integers have different magnitudes.** -/
theorem ofInt_inj {m n : Int} : ofInt m = ofInt n ↔ m = n := by
  refine ⟨fun h => ?_, fun h => h ▸ rfl⟩
  unfold ofInt at h
  -- zero has a form of its own, which no other integer takes
  by_cases hm : m.natAbs = 0
  · by_cases hn : n.natAbs = 0
    · omega
    · have hzero : ofScaled (m < 0) m.natAbs 0 = finite false 0 0 := by
        rw [ofScaled, if_pos hm]
      exact absurd (h.symm.trans hzero) (ofScaled_ne_zero hn)
  · by_cases hn : n.natAbs = 0
    · have hzero : ofScaled (n < 0) n.natAbs 0 = finite false 0 0 := by
        rw [ofScaled, if_pos hn]
      exact absurd (h.trans hzero) (ofScaled_ne_zero hm)
    · obtain ⟨hsign, habs⟩ := ofScaled_inj hm hn h
      rw [decide_eq_decide] at hsign
      omega

end Magnitude

end EventEnvelope
