/-
  EventEnvelope.Proofs.Json.Doubles
  ─────────────────────────────────
  **A written double is read as the same double.**

  The digits of a double and the place of its point say which number is meant; the notation only
  distributes the digits over the parts of a number, with zeros where none are left, or moves the
  point with an exponent.  In every notation the parts spell the same rational number, and every
  rational number in the interval of the double is read as the double.

    • `IsNotation`              — parts of a number that spell given digits,
    • `exists_positional`, `exists_scientific` — the two notations,
    • `writeFloat_finite`       — a finite double, as the text of a number with that value.
-/
import EventEnvelope.Proofs.Json.Numbers
import EventEnvelope.Proofs.Number.Shortest

namespace EventEnvelope

open Binary64

namespace Json

/-! ## §1. Notations. -/

/-- The parts of a number spell the digits, with the point before them moved to its place. -/
structure IsNotation (digits : List Nat) (point : Int) (n : NumberText) : Prop where
  wellFormed : n.WellFormed
  double : n.fraction ≠ [] ∨ n.exponent ≠ none
  same : (natOfDigits (n.whole ++ n.fraction) : ℚ) * 10 ^ (n.exponent.getD 0 - n.fraction.length)
    = natOfDigits digits * 10 ^ (point - digits.length)

/-- A notation of digits that spell a magnitude has the double as its value. -/
theorem IsNotation.value_eq {m : Nat} {e point : Int} {digits : List Nat} {n : NumberText}
    (h : IsNotation digits point n) (hcanonical : IsCanonical m e) (hm : 0 < m)
    (hspells : SpellsMagnitude m e digits point) :
    n.value = .ok (.float (.finite n.negative m e hcanonical)) := by
  rw [value_double h.double, ofDecimal_of_roundsTo hcanonical hm]
  rw [h.same]
  exact hspells.roundsTo

theorem fractionText_of_ne_nil {digits : List Nat} (h : digits ≠ []) :
    fractionText digits = CodePoint.ofChar '.' :: digits.map decimalDigit := by
  cases digits with
  | nil => exact absurd rfl h
  | cons d ds => rfl

section Notations

variable {digits rest : List Nat} {d : Nat} {point : Int} (negative : Bool)
  (hdigits : digits = d :: rest) (hlt : ∀ e ∈ digits, e < 10)
include hdigits hlt

/-- The point stands before the digits, with zeros between. -/
theorem positional_before (hpoint : point ≤ 0) :
    ∃ n, IsNotation digits point n ∧ n.negative = negative
      ∧ positional (digits.map decimalDigit) point = n.magnitude := by
  have hzeros : [0] ++ (List.replicate (-point).toNat 0 ++ digits)
      = List.replicate ((-point).toNat + 1) 0 ++ digits := rfl
  refine ⟨⟨negative, [0], List.replicate (-point).toNat 0 ++ digits, none⟩, ⟨⟨?_, ?_, ?_⟩, ?_, ?_⟩,
    rfl, ?_⟩
  · exact List.forall_mem_singleton.mpr (by decide)
  · exact ⟨0, [], rfl, fun _ => rfl⟩
  · intro e he
    rcases List.mem_append.mp he with he | he
    · rw [List.eq_of_mem_replicate he]
      decide
    · exact hlt e he
  · simp [hdigits]
  · rw [hzeros, natOfDigits_zeros_append, List.length_append, List.length_replicate]
    congr 2
    push_cast
    rw [Int.toNat_of_nonneg (by omega)]
    show 0 - (-point + (digits.length : Int)) = point - digits.length
    omega
  · rw [NumberText.magnitude, fractionText_of_ne_nil (by simp [hdigits]), positional,
      if_pos hpoint, List.map_append, List.map_replicate, exponentText, List.append_nil]
    rfl

/-- The point stands behind the digits, with zeros between. -/
theorem positional_behind (hlead : d ≠ 0) (hpoint : (digits.length : Int) ≤ point) :
    ∃ n, IsNotation digits point n ∧ n.negative = negative
      ∧ positional (digits.map decimalDigit) point = n.magnitude := by
  have hpos : 0 < digits.length := by
    rw [hdigits]
    exact Nat.succ_pos _
  obtain ⟨zeros, hzeros⟩ : ∃ k : Nat, point = digits.length + k :=
    ⟨(point - digits.length).toNat, by omega⟩
  have hcount : point.toNat - digits.length = zeros := by omega
  refine ⟨⟨negative, digits ++ List.replicate zeros 0, [0], none⟩, ⟨⟨?_, ?_, ?_⟩, ?_, ?_⟩, rfl, ?_⟩
  · intro e he
    rcases List.mem_append.mp he with he | he
    · exact hlt e he
    · rw [List.eq_of_mem_replicate he]
      decide
  · rw [hdigits]
    exact ⟨d, rest ++ List.replicate zeros 0, rfl, fun h => absurd h hlead⟩
  · exact List.forall_mem_singleton.mpr (by decide)
  · exact .inl (by simp)
  · -- the zero behind the point is one zero more, and the point stands one place further on
    have hone : digits ++ List.replicate zeros 0 ++ [0]
        = digits ++ List.replicate (zeros + 1) 0 := by
      rw [List.replicate_succ', List.append_assoc]
    rw [hone, natOfDigits_append_zeros]
    push_cast
    rw [mul_assoc, ← zpow_natCast, ← zpow_add₀ (by norm_num)]
    congr 2
    show ((zeros + 1 : Nat) : Int) + (0 - 1) = point - digits.length
    omega
  · rw [NumberText.magnitude, positional, if_neg (by omega)]
    dsimp only
    rw [List.length_map, if_pos (by omega), hcount, List.map_append, List.map_replicate]
    rfl

/-- The point stands among the digits. -/
theorem positional_among (hlead : d ≠ 0) (hpoint : 0 < point) (hlength : point < digits.length) :
    ∃ n, IsNotation digits point n ∧ n.negative = negative
      ∧ positional (digits.map decimalDigit) point = n.magnitude := by
  obtain ⟨whole, rfl⟩ := Int.eq_ofNat_of_zero_le hpoint.le
  have hdrop : digits.drop whole ≠ [] := by
    rw [← List.length_pos_iff, List.length_drop]
    omega
  refine ⟨⟨negative, digits.take whole, digits.drop whole, none⟩,
    ⟨⟨?_, ?_, ?_⟩, .inl hdrop, ?_⟩, rfl, ?_⟩
  · exact fun e he => hlt e (List.mem_of_mem_take he)
  · obtain ⟨k, rfl⟩ : ∃ k, whole = k + 1 := ⟨whole - 1, by omega⟩
    rw [hdigits]
    exact ⟨d, rest.take k, rfl, fun h => absurd h hlead⟩
  · exact fun e he => hlt e (List.mem_of_mem_drop he)
  · rw [List.take_append_drop, List.length_drop]
    congr 2
    rw [Nat.cast_sub (by omega)]
    show (0 : Int) - (digits.length - whole) = whole - digits.length
    omega
  · rw [NumberText.magnitude, fractionText_of_ne_nil hdrop, positional, if_neg (by omega)]
    dsimp only
    rw [List.length_map, if_neg (by omega), Int.toNat_natCast, ← List.map_take, ← List.map_drop,
      exponentText, List.append_nil, List.append_assoc]
    rfl

/-- **Positional notation** spells the digits, wherever the point stands. -/
theorem exists_positional (hlead : d ≠ 0) :
    ∃ n, IsNotation digits point n ∧ n.negative = negative
      ∧ positional (digits.map decimalDigit) point = n.magnitude := by
  by_cases hpoint : point ≤ 0
  · exact positional_before negative hdigits hlt hpoint
  · by_cases hlength : (digits.length : Int) ≤ point
    · exact positional_behind negative hdigits hlt hlead hlength
    · exact positional_among negative hdigits hlt hlead (by omega) (by omega)

/-- **Scientific notation** spells the digits, the point behind the first of them. -/
theorem exists_scientific :
    ∃ n, IsNotation digits point n ∧ n.negative = negative
      ∧ scientific (digits.map decimalDigit) point = n.magnitude := by
  subst hdigits
  refine ⟨⟨negative, [d], rest, some (point - 1)⟩, ⟨⟨?_, ?_, ?_⟩, .inr (by simp), ?_⟩, rfl, ?_⟩
  · exact fun e he => hlt e (List.mem_cons.mpr (.inl (List.mem_singleton.mp he)))
  · exact ⟨d, [], rfl, fun _ => rfl⟩
  · exact fun e he => hlt e (List.mem_cons_of_mem _ he)
  · rw [List.length_cons]
    congr 2
    show point - 1 - (rest.length : Int) = point - ((rest.length + 1 : Nat) : Int)
    omega
  · -- without a second digit there is no point
    have hfraction : (if ((d :: rest).map decimalDigit).length ≤ 1 then ([] : Text)
        else "." ++ ((d :: rest).map decimalDigit).drop 1) = fractionText rest := by
      cases rest with
      | nil => rfl
      | cons second others =>
          rw [if_neg (by simp)]
          rfl
    unfold scientific NumberText.magnitude
    dsimp only
    rw [hfraction]
    by_cases hneg : point - 1 < 0
    · simp only [exponentText, if_pos hneg, List.append_assoc]
      rfl
    · simp only [exponentText, if_neg hneg, List.append_assoc]
      rfl

end Notations

/-! ## §2. Doubles. -/

/-- The text of a double's magnitude is one of the two notations of its digits. -/
theorem exists_notation {m : Nat} {e : Int} (hcanonical : IsCanonical m e) (hm : 0 < m)
    (negative : Bool) :
    ∃ n : NumberText, n.WellFormed ∧ n.negative = negative ∧ magnitudeText m e = n.magnitude
      ∧ n.value = .ok (.float (.finite negative m e hcanonical)) := by
  obtain ⟨digits, point, hshortest, hspells⟩ := shortestDigits_spec hcanonical hm
  obtain ⟨d, rest, hdigits, hlead⟩ := hspells.leading
  unfold magnitudeText
  rw [hshortest]
  dsimp only
  split
  · obtain ⟨n, hn, rfl, htext⟩ := exists_positional negative hdigits hspells.lt_ten hlead
    exact ⟨n, hn.wellFormed, rfl, htext, hn.value_eq hcanonical hm hspells⟩
  · obtain ⟨n, hn, rfl, htext⟩ := exists_scientific negative hdigits hspells.lt_ten
    exact ⟨n, hn.wellFormed, rfl, htext, hn.value_eq hcanonical hm hspells⟩

/-- **A finite double is written as the text of a number whose value is the double.** -/
theorem writeFloat_finite (negative : Bool) {m : Nat} {e : Int} (hcanonical : IsCanonical m e) :
    ∃ n : NumberText, n.WellFormed ∧ writeFloat (.finite negative m e hcanonical) = n.text
      ∧ n.value = .ok (.float (.finite negative m e hcanonical)) := by
  have htext : writeFloat (.finite negative m e hcanonical)
      = signText negative ++ (if m = 0 then ("0.0" : Text) else magnitudeText m e) := by
    cases negative with
    | false => rfl
    | true => rfl
  rw [htext]
  by_cases hm : m = 0
  · -- a zero has the least exponent
    subst hm
    have he : e = leastExponent := hcanonical.normal.resolve_left (by norm_num)
    subst he
    exact ⟨⟨negative, [0], [0], none⟩, ⟨List.forall_mem_singleton.mpr (by decide),
      ⟨0, [], rfl, fun _ => rfl⟩, List.forall_mem_singleton.mpr (by decide)⟩, rfl, rfl⟩
  · rw [if_neg hm]
    obtain ⟨n, hn, rfl, hmagnitude, hvalue⟩ :=
      exists_notation hcanonical (Nat.pos_of_ne_zero hm) negative
    exact ⟨n, hn, by rw [hmagnitude]; rfl, hvalue⟩

/-- A double is written without null characters and surrogates. -/
theorem transmissible_writeFloat (x : Binary64) :
    ∀ c ∈ writeFloat x, c.Transmissible := by
  cases x with
  | nan => decide
  | infinite negative =>
      cases negative with
      | false => decide
      | true => decide
  | finite negative m e h =>
      obtain ⟨n, hn, htext, -⟩ := writeFloat_finite negative h
      rw [htext]
      exact NumberText.transmissible_text hn

end Json

end EventEnvelope
