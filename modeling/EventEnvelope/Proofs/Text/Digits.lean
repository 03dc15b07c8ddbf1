/-
  EventEnvelope.Proofs.Text.Digits
  ────────────────────────────────
  **Decimal text and the digits it is made of.**

  The text of a natural number is a non-empty run of ASCII digits that begins with a zero for zero
  only, and the digits spell the number.  So every reader that takes digits gives the number back.

    • `decimalDigit`            — the character of a digit,
    • `ofNat_eq_digits`         — the text of a number, as digits that spell it,
    • `transmissible_ofInt`     — neither null characters nor surrogates are written.
-/
import Mathlib.Algebra.Group.Nat.Defs
import EventEnvelope.Text.Numeral
import EventEnvelope.Proofs.Text.Utf8

namespace EventEnvelope

/-! ## §1. Digits. -/

/-- The character of a decimal digit. -/
def decimalDigit (d : Nat) : CodePoint := .ofNat (0x30 + d)

theorem toNat_decimalDigit {d : Nat} (h : d < 10) : (decimalDigit d).toNat = 0x30 + d :=
  CodePoint.toNat_ofNat (by omega)

theorem digitValue?_decimalDigit {d : Nat} (h : d < 10) :
    (decimalDigit d).digitValue? = some d := by
  unfold CodePoint.digitValue?
  rw [toNat_decimalDigit h, if_pos (by omega)]
  congr 1
  omega

theorem ofChar_digitChar {d : Nat} (h : d < 10) :
    CodePoint.ofChar d.digitChar = decimalDigit d := by
  have all : ∀ e : Fin 10, CodePoint.ofChar e.val.digitChar = decimalDigit e.val := by decide
  exact all ⟨d, h⟩

/-- One more digit at the end. -/
theorem natOfDigits_append (ds : List Nat) (d : Nat) :
    natOfDigits (ds ++ [d]) = 10 * natOfDigits ds + d := by
  simp [natOfDigits]

/-- Digits behind a number move it to the left. -/
theorem foldl_digits (n : Nat) (ds : List Nat) :
    ds.foldl (fun n d => 10 * n + d) n = n * 10 ^ ds.length + natOfDigits ds := by
  induction ds generalizing n with
  | nil => simp [natOfDigits]
  | cons d ds ih =>
      show ds.foldl _ (10 * n + d) = n * 10 ^ (ds.length + 1) + ds.foldl _ (10 * 0 + d)
      rw [ih, ih, Nat.pow_succ', Nat.mul_zero, Nat.zero_add, Nat.add_mul, Nat.add_assoc,
        Nat.mul_comm 10 n, Nat.mul_assoc]

theorem natOfDigits_cons (d : Nat) (ds : List Nat) :
    natOfDigits (d :: ds) = d * 10 ^ ds.length + natOfDigits ds := by
  show ds.foldl _ (10 * 0 + d) = _
  rw [foldl_digits, Nat.mul_zero, Nat.zero_add]

/-- Zeros in front have no influence. -/
theorem natOfDigits_zeros_append (n : Nat) (ds : List Nat) :
    natOfDigits (List.replicate n 0 ++ ds) = natOfDigits ds := by
  induction n with
  | zero => rfl
  | succ n ih =>
      rw [List.replicate_succ, List.cons_append, ← ih]
      simp [natOfDigits]

namespace Text

/-! ## §2. The text of a number. -/

/-- **The text of a number**: digits that spell it, beginning with a zero for zero only. -/
theorem ofNat_eq_digits (n : Nat) :
    ∃ d ds, ofNat n = (d :: ds).map decimalDigit ∧ (∀ e ∈ d :: ds, e < 10)
      ∧ natOfDigits (d :: ds) = n ∧ (d = 0 → ds = []) := by
  induction n using Nat.strongRecOn with
  | _ n ih =>
      by_cases hsmall : n < 10
      · refine ⟨n, [], ?_, ?_, ?_, fun _ => rfl⟩
        · unfold ofNat
          rw [Nat.toDigits_of_lt_base hsmall]
          show [CodePoint.ofChar n.digitChar] = _
          rw [ofChar_digitChar hsmall]
          rfl
        · intro e he
          rw [List.mem_singleton.mp he]
          exact hsmall
        · simp [natOfDigits]
      · -- the text of a tenth, and one digit more
        have hlast : n % 10 < 10 := Nat.mod_lt _ (by omega)
        obtain ⟨d, ds, htext, hlt, hvalue, hzero⟩ := ih (n / 10) (by omega)
        refine ⟨d, ds ++ [n % 10], ?_, ?_, ?_, ?_⟩
        · unfold ofNat at htext ⊢
          rw [Nat.toDigits_of_base_le (by omega) (by omega), List.map_append, htext]
          show _ ++ [CodePoint.ofChar (n % 10).digitChar] = _
          rw [ofChar_digitChar hlast]
          simp
        · intro e he
          rw [← List.cons_append] at he
          rcases List.mem_append.mp he with he | he
          · exact hlt e he
          · rw [List.mem_singleton.mp he]
            exact hlast
        · rw [← List.cons_append, natOfDigits_append, hvalue]
          omega
        · -- a leading zero would make the tenth zero
          intro hd
          rw [hzero hd, hd] at hvalue
          have htenth : natOfDigits [0] = 0 := rfl
          omega

/-- A padded number is a run of digits as well. -/
theorem padded_eq_digits (width n : Nat) :
    ∃ ds, padded width n = ds.map decimalDigit ∧ (∀ e ∈ ds, e < 10) ∧ natOfDigits ds = n
      ∧ ds ≠ [] := by
  obtain ⟨d, ds, htext, hlt, hvalue, -⟩ := ofNat_eq_digits n
  refine ⟨List.replicate (width - (ofNat n).length) 0 ++ (d :: ds), ?_, ?_, ?_, by simp⟩
  · unfold padded
    rw [List.map_append, List.map_replicate, ← htext]
    rfl
  · intro e he
    rcases List.mem_append.mp he with he | he
    · rw [List.eq_of_mem_replicate he]
      decide
    · exact hlt e he
  · rw [natOfDigits_zeros_append, hvalue]

/-- A number has as few digits as its size allows. -/
theorem length_ofNat_le {n k : Nat} (hk : 0 < k) : (ofNat n).length ≤ k ↔ n < 10 ^ k := by
  rw [ofNat, List.length_map]
  exact Nat.length_toDigits_le_iff (by omega) hk

/-- The size of a number lies between two powers of ten, by the number of its digits. -/
theorem lt_pow_length_ofNat (n : Nat) : n < 10 ^ (ofNat n).length := by
  obtain ⟨d, ds, htext, -, -, -⟩ := ofNat_eq_digits n
  have hpos : 0 < (ofNat n).length := by
    rw [htext]
    exact Nat.succ_pos _
  exact (length_ofNat_le hpos).mp le_rfl

theorem pow_le_of_lt_length_ofNat {n k : Nat} (hn : 0 < n) (hk : k < (ofNat n).length) :
    10 ^ k ≤ n := by
  rcases Nat.eq_zero_or_pos k with rfl | hpos
  · exact hn
  · by_contra hlt
    have := (length_ofNat_le hpos).mpr (not_le.mp hlt)
    omega

theorem transmissible_decimalDigit {d : Nat} (h : d < 10) :
    (decimalDigit d).Transmissible := by
  have hcode := toNat_decimalDigit h
  exact CodePoint.transmissible_ascii (by omega) (by omega)

theorem transmissible_ofNat (n : Nat) : ∀ c ∈ ofNat n, c.Transmissible := by
  obtain ⟨d, ds, htext, hlt, -, -⟩ := ofNat_eq_digits n
  intro c hc
  rw [htext] at hc
  obtain ⟨e, he, rfl⟩ := List.mem_map.mp hc
  exact transmissible_decimalDigit (hlt e he)

/-- The text of an integer: the sign of a negative one, and the digits of its magnitude. -/
theorem ofInt_eq (n : Int) :
    ofInt n = (if n < 0 then [CodePoint.ofChar '-'] else []) ++ ofNat n.natAbs := by
  cases n with
  | ofNat k => rfl
  | negSucc k =>
      rw [if_pos (Int.negSucc_lt_zero k)]
      rfl

theorem transmissible_ofInt (n : Int) : ∀ c ∈ ofInt n, c.Transmissible := by
  intro c hc
  rw [ofInt_eq] at hc
  rcases List.mem_append.mp hc with hc | hc
  · split at hc
    · rw [List.mem_singleton.mp hc]
      exact CodePoint.transmissible_ascii (by decide) (by decide)
    · cases hc
  · exact transmissible_ofNat _ c hc

end Text

end EventEnvelope
