/-
  EventEnvelope.Proofs.Text.Numerals
  ──────────────────────────────────
  **Reading a text of digits as a number.**

  A text that passes the wide test for digits holds no blank, no sign and no underscore, so the
  reader takes its characters one by one.  It gives the number that the decimal digits spell, and
  fails if a character only looks like a digit or if there are more digits than the limit.

    • `isMargin_of_isDigit`     — digits are no blanks; likewise for signs and underscores,
    • `read_decimal`            — decimal digits behind a sign,
    • `read_fails_iff`          — which texts of digits are no numbers,
    • `read_signed`             — any number of minus signs before them.
-/
import EventEnvelope.Text.Numeral

namespace EventEnvelope

/-! ## §1. Digits are no other characters of a numeral. -/

theorem inRanges_iff {table : List (Nat × Nat)} {n : Nat} :
    inRanges table n = true ↔ ∃ range ∈ table, range.1 ≤ n ∧ n ≤ range.2 := by
  simp [inRanges]

/-- The digits in the wide sense, as closed ranges. -/
def digitRanges : List (Nat × Nat) :=
  decimalZeros.map (fun start => (start, start + 9)) ++ otherDigitRanges

namespace CodePoint

theorem mem_digitRanges {c : CodePoint} (h : c.isDigit = true) :
    ∃ range ∈ digitRanges, range.1 ≤ c.toNat ∧ c.toNat ≤ range.2 := by
  rcases Bool.or_eq_true_iff.mp h with h | h
  · -- a decimal digit is found in one of the runs of ten
    unfold decimalValue? at h
    rw [Option.isSome_map, List.find?_isSome] at h
    obtain ⟨start, hstart, hc⟩ := h
    simp only [Bool.and_eq_true, decide_eq_true_eq] at hc
    exact ⟨(start, start + 9), List.mem_append_left _ (List.mem_map_of_mem hstart), hc⟩
  · obtain ⟨range, hrange, hc⟩ := inRanges_iff.mp h
    exact ⟨range, List.mem_append_right _ hrange, hc⟩

/-- No range of digits meets a range of blanks, and none holds a sign or an underscore. -/
theorem digitRanges_apart : ∀ range ∈ digitRanges,
    0x30 ≤ range.1 ∧ (range.2 ≤ 0x39 ∨ 0x5F < range.1)
      ∧ ∀ blanks ∈ blankRanges, range.2 < blanks.1 ∨ blanks.2 < range.1 := by
  decide

theorem isBlank_of_isDigit {c : CodePoint} (h : c.isDigit = true) : c.isBlank = false := by
  obtain ⟨range, hrange, hc⟩ := mem_digitRanges h
  refine Bool.eq_false_iff.mpr fun hblank => ?_
  obtain ⟨blanks, hblanks, hc'⟩ := inRanges_iff.mp hblank
  rcases (digitRanges_apart range hrange).2.2 blanks hblanks with hapart | hapart
  · omega
  · omega

/-- The code of a digit is far from those of signs, blanks and underscores in ASCII. -/
theorem toNat_of_isDigit {c : CodePoint} (h : c.isDigit = true) :
    0x30 ≤ c.toNat ∧ c.toNat ≠ 0x5F := by
  obtain ⟨range, hrange, hc⟩ := mem_digitRanges h
  obtain ⟨hlow, hgap, -⟩ := digitRanges_apart range hrange
  omega

theorem isDigit_of_decimalValue? {c : CodePoint} {d : Nat} (h : c.decimalValue? = some d) :
    c.isDigit = true := by
  unfold isDigit
  rw [h]
  rfl

end CodePoint

/-- Decimal digits pass the wide test. -/
theorem Text.isDigits_of_decimal {t : Text} (hne : t ≠ [])
    (hdecimal : ∀ c ∈ t, c.decimalValue? ≠ none) : t.isDigits = true := by
  rw [isDigits, Bool.and_eq_true, List.all_eq_true]
  refine ⟨by simpa using hne, fun c hc => ?_⟩
  obtain ⟨d, hd⟩ := Option.ne_none_iff_exists'.mp (hdecimal c hc)
  exact CodePoint.isDigit_of_decimalValue? hd

/-- A text that neither begins nor ends with a blank is not trimmed. -/
theorem Text.strip_of_isDigit {t : Text} (h : ∀ c ∈ t, c.isDigit = true) : t.strip = t := by
  -- the same argument serves for the front and, reversed, for the end
  have hdrop : ∀ s : Text, (∀ c ∈ s, c.isDigit = true) → s.dropWhile CodePoint.isBlank = s := by
    intro s hs
    cases s with
    | nil => rfl
    | cons c rest =>
        have hc := CodePoint.isBlank_of_isDigit (hs c List.mem_cons_self)
        rw [List.dropWhile_cons, hc]
        rfl
  unfold strip trim
  rw [hdrop t h, hdrop t.reverse fun c hc => h c (List.mem_reverse.mp hc), List.reverse_reverse]

namespace Numeral

theorem isMargin_of_isDigit {c : CodePoint} (h : c.isDigit = true) : isMargin c = false := by
  have hcode := CodePoint.toNat_of_isDigit h
  have hblank := CodePoint.isBlank_of_isDigit h
  unfold isMargin
  rw [hblank, Bool.and_false, Bool.or_false]
  simp only [CodePoint.isAsciiBlank, Bool.or_eq_false_iff, Bool.and_eq_false_iff,
    decide_eq_false_iff_not, beq_eq_false_iff_ne]
  omega

theorem isUnderscore_of_isDigit {c : CodePoint} (h : c.isDigit = true) :
    isUnderscore c = false := by
  have hcode := CodePoint.toNat_of_isDigit h
  exact beq_eq_false_iff_ne.mpr hcode.2

/-- A digit is no sign. -/
theorem readSign_of_isDigit {c : CodePoint} {rest : Text} (h : c.isDigit = true) :
    readSign (c :: rest) = (false, c :: rest) := by
  have hcode := CodePoint.toNat_of_isDigit h
  rw [readSign, if_neg (by omega), if_neg (by omega)]

/-! ## §2. Runs of digits. -/

/-- The decimal digits at the head of a text of digits are taken; what is left begins with a
character that only looks like one. -/
theorem readDigitGroups_digits {t : Text} (h : ∀ c ∈ t, c.isDigit = true) {mustContinue : Bool}
    (hne : mustContinue = true → t ≠ []) :
    ∃ digits wellPlaced after, readDigitGroups mustContinue t = (digits, wellPlaced, after)
      ∧ ((∀ c ∈ t, c.decimalValue? ≠ none) →
          digits = t.filterMap CodePoint.decimalValue? ∧ digits.length = t.length
            ∧ wellPlaced = true ∧ after = [])
      ∧ ((∃ c ∈ t, c.decimalValue? = none) → after.all isMargin = false) := by
  -- the flag is dropped behind the first digit, so the induction is over all of its values
  induction t generalizing mustContinue with
  | nil =>
      refine ⟨[], !mustContinue, [], rfl, fun _ => ⟨rfl, rfl, ?_, rfl⟩, by simp⟩
      cases mustContinue with
      | true => exact absurd rfl (hne rfl)
      | false => rfl
  | cons c rest ih =>
      obtain ⟨hc, hrest⟩ := List.forall_mem_cons.mp h
      -- a decimal digit is taken; any other digit is where the reader stops
      cases hvalue : c.decimalValue? with
      | some d =>
          obtain ⟨digits, wellPlaced, after, hread, hall, hsome⟩ :=
            ih hrest (show false = true → rest ≠ [] by simp)
          refine ⟨d :: digits, wellPlaced, after, ?_, fun hdecimal => ?_, fun hother => ?_⟩
          · rw [readDigitGroups, hvalue]
            simp only [hread]
          · obtain ⟨hdigits, hlength, hplaced, hafter⟩ :=
              hall fun e he => hdecimal e (List.mem_cons_of_mem _ he)
            refine ⟨?_, ?_, hplaced, hafter⟩
            · rw [List.filterMap_cons, hvalue, hdigits]
            · rw [List.length_cons, hlength, List.length_cons]
          · obtain ⟨e, he, hnone⟩ := hother
            rcases List.mem_cons.mp he with rfl | he
            · rw [hvalue] at hnone
              cases hnone
            · exact hsome ⟨e, he, hnone⟩
      | none =>
          refine ⟨[], !mustContinue && !isUnderscore c, c :: rest, ?_, fun hdecimal => ?_,
            fun _ => ?_⟩
          · rw [readDigitGroups, hvalue]
            simp only [isUnderscore_of_isDigit hc, Bool.false_and, Bool.false_eq_true, if_false]
          · exact absurd hvalue (hdecimal c List.mem_cons_self)
          · rw [List.all_cons, isMargin_of_isDigit hc]
            rfl

/-! ## §3. Texts of digits. -/

theorem readSign_of_isDigits {t : Text} (h : t.isDigits = true) :
    readSign (t.dropWhile isMargin) = (false, t) := by
  obtain ⟨hne, hall⟩ := Bool.and_eq_true_iff.mp h
  cases t with
  | nil => cases hne
  | cons c rest =>
      have hc := List.all_eq_true.mp hall c List.mem_cons_self
      rw [List.dropWhile_cons, isMargin_of_isDigit hc]
      exact readSign_of_isDigit hc

variable {t body : Text} {negative : Bool}

/-- Behind the sign no margin is read from a text of digits. -/
theorem read_of_isDigits (hsign : readSign (t.dropWhile isMargin) = (negative, body))
    (h : body.isDigits = true) :
    ∃ digits wellPlaced after,
      read t
        = (if digits.isEmpty || !wellPlaced then .error (.notANumeral t)
          else if digitLimit < digits.length then .error (.tooManyDigits digits.length)
          else if after.all isMargin then
            .ok (if negative then -(natOfDigits digits : Int) else natOfDigits digits)
          else .error (.notANumeral t))
      ∧ ((∀ c ∈ body, c.decimalValue? ≠ none) →
          digits = body.filterMap CodePoint.decimalValue? ∧ digits.length = body.length
            ∧ wellPlaced = true ∧ after = [])
      ∧ ((∃ c ∈ body, c.decimalValue? = none) → after.all isMargin = false) := by
  obtain ⟨hne, hall⟩ := Bool.and_eq_true_iff.mp h
  have hdigits : ∀ c ∈ body, c.isDigit = true := List.all_eq_true.mp hall
  obtain ⟨digits, wellPlaced, after, hgroups, hspec⟩ :=
    readDigitGroups_digits hdigits (show true = true → body ≠ [] by simpa using hne)
  refine ⟨digits, wellPlaced, after, ?_, hspec⟩
  unfold read
  simp only [hsign, hgroups]

/-- **Decimal digits** are the number that they spell, within the limit. -/
theorem read_decimal (hsign : readSign (t.dropWhile isMargin) = (negative, body))
    (h : body.isDigits = true) (hdecimal : ∀ c ∈ body, c.decimalValue? ≠ none) :
    read t
      = if digitLimit < body.length then .error (.tooManyDigits body.length)
        else .ok (if negative then -(natOfDigits (body.filterMap CodePoint.decimalValue?) : Int)
          else natOfDigits (body.filterMap CodePoint.decimalValue?)) := by
  obtain ⟨digits, wellPlaced, after, hread, hspec, -⟩ := read_of_isDigits hsign h
  obtain ⟨hdigits, hlength, rfl, rfl⟩ := hspec hdecimal
  have hempty : digits.isEmpty = false := by
    have hne : body.isEmpty = false := by simpa using (Bool.and_eq_true_iff.mp h).1
    rw [List.isEmpty_eq_false_iff, ← List.length_pos_iff] at hne ⊢
    omega
  rw [hread, hempty, hlength, ← hdigits]
  rfl

/-- A character that only looks like a decimal digit spoils the number. -/
theorem read_of_other (hsign : readSign (t.dropWhile isMargin) = (negative, body))
    (h : body.isDigits = true) (hother : ∃ c ∈ body, c.decimalValue? = none) :
    ∃ fault, read t = .error fault := by
  obtain ⟨digits, wellPlaced, after, hread, -, hspec⟩ := read_of_isDigits hsign h
  -- whichever test comes first, all of them end in a fault
  rw [hread, hspec hother]
  split
  · exact ⟨_, rfl⟩
  split
  · exact ⟨_, rfl⟩
  · exact ⟨_, rfl⟩

/-- **A text of digits that is no number**: a character only looks like a digit, or there are more
digits than the limit. -/
theorem read_fails_iff (hsign : readSign (t.dropWhile isMargin) = (negative, body))
    (h : body.isDigits = true) :
    (∃ fault, read t = .error fault)
      ↔ (∃ c ∈ body, c.decimalValue? = none) ∨ digitLimit < body.length := by
  by_cases hother : ∃ c ∈ body, c.decimalValue? = none
  · exact ⟨fun _ => .inl hother, fun _ => read_of_other hsign h hother⟩
  · rw [read_decimal hsign h fun c hc hnone => hother ⟨c, hc, hnone⟩]
    constructor
    · rintro ⟨fault, hfault⟩
      split at hfault
      next hlimit => exact .inr hlimit
      next => cases hfault
    · rintro (hnone | hlimit)
      · exact absurd hnone hother
      · exact ⟨_, if_pos hlimit⟩

/-! ## §4. Minus signs. -/

/-- The minus signs before a text. -/
def minusSigns (t : Text) : Text := t.takeWhile fun c => c == CodePoint.ofChar '-'

/-- What stands behind them. -/
def unsigned (t : Text) : Text := t.dropWhile fun c => c == CodePoint.ofChar '-'

/-- Digits that are a number: decimal, not too many, and behind one minus sign at most. -/
structure IsNumber (t : Text) : Prop where
  sign : (minusSigns t).length ≤ 1
  decimal : ∀ c ∈ unsigned t, c.decimalValue? ≠ none
  limit : (unsigned t).length ≤ digitLimit

/-- The number that they spell. -/
def spelled (t : Text) : Int :=
  if minusSigns t ≠ [] then -(natOfDigits ((unsigned t).filterMap CodePoint.decimalValue?) : Int)
  else natOfDigits ((unsigned t).filterMap CodePoint.decimalValue?)

theorem minusSigns_append_unsigned (t : Text) : minusSigns t ++ unsigned t = t :=
  List.takeWhile_append_dropWhile

theorem eq_minus_of_mem {t : Text} {c : CodePoint} (hc : c ∈ minusSigns t) :
    c = CodePoint.ofChar '-' :=
  beq_iff_eq.mp (List.all_eq_true.mp List.all_takeWhile c hc)

/-- The reader takes one minus sign. -/
theorem readSign_signed {t : Text} (h : (unsigned t).isDigits = true)
    (hsign : (minusSigns t).length ≤ 1) :
    readSign (t.dropWhile isMargin) = (decide (minusSigns t ≠ []), unsigned t) := by
  have happend := minusSigns_append_unsigned t
  have hminus := fun c => eq_minus_of_mem (t := t) (c := c)
  generalize unsigned t = body at h happend ⊢
  generalize minusSigns t = signs at hsign happend hminus ⊢
  cases signs with
  | nil =>
      rw [← happend]
      exact readSign_of_isDigits h
  | cons c rest =>
      obtain rfl : rest = [] := List.length_eq_zero_iff.mp (by simpa using hsign)
      rw [← happend, hminus c List.mem_cons_self]
      rfl

/-- It stumbles over a second one. -/
theorem read_of_signs {t : Text} (hsigns : 2 ≤ (minusSigns t).length) :
    ∃ fault, read t = .error fault := by
  have happend := minusSigns_append_unsigned t
  have hminus := fun c => eq_minus_of_mem (t := t) (c := c)
  generalize minusSigns t = signs at hsigns happend hminus
  match signs with
  | [] => simp at hsigns
  | [_] => simp at hsigns
  | c :: d :: rest =>
      rw [← happend, hminus c (by simp), hminus d (by simp)]
      exact ⟨_, rfl⟩

/-- **Minus signs and digits** are a number, or the reader fails. -/
theorem read_signed {t : Text} (h : (unsigned t).isDigits = true) :
    (IsNumber t → read t = .ok (spelled t)) ∧ (¬ IsNumber t → ∃ fault, read t = .error fault) := by
  by_cases hsigns : (minusSigns t).length ≤ 1
  · have hsign := readSign_signed h hsigns
    constructor
    · intro hnumber
      rw [read_decimal hsign h hnumber.decimal, if_neg (Nat.not_lt.mpr hnumber.limit)]
      simp only [spelled, decide_eq_true_eq]
    · intro hnumber
      refine (read_fails_iff hsign h).mpr ?_
      by_cases hother : ∃ c ∈ unsigned t, c.decimalValue? = none
      · exact .inl hother
      · refine .inr (Nat.lt_of_not_le fun hlimit => hnumber ?_)
        exact ⟨hsigns, fun c hc hnone => hother ⟨c, hc, hnone⟩, hlimit⟩
  · exact ⟨fun hnumber => absurd hnumber.sign hsigns, fun _ => read_of_signs (by omega)⟩

end Numeral

end EventEnvelope
