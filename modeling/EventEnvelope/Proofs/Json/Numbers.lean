/-
  EventEnvelope.Proofs.Json.Numbers
  ─────────────────────────────────
  **Reading a JSON number undoes writing it.**

  The reader takes the longest number there is.  Behind a written number stands something that
  cannot belong to a number (`Delimited`), so it takes exactly the number: no digit more, no
  fraction and no exponent but its own.

    • `Delimited`               — a text that does not go on with a number,
    • `NumberText.text`         — the text of a number that is given by its parts,
    • `readNumber?_text`        — the number that is read from it,
    • `ofInt_eq_text`           — a written integer is such a text.
-/
import EventEnvelope.Json.Reader
import EventEnvelope.Json.Writer
import EventEnvelope.Proofs.Text.Digits

namespace EventEnvelope

namespace Json

/-- A text that does not go on with a number: no digit, point or mark of an exponent is at its
head. -/
def Delimited (t : Text) : Prop :=
  ∀ c rest, t = c :: rest →
    c.digitValue? = none ∧ c.toNat ≠ 0x2E ∧ c.toNat ≠ 0x65 ∧ c.toNat ≠ 0x45

theorem delimited_nil : Delimited [] := by
  intro c rest h
  cases h

theorem delimited_cons {c : CodePoint} {rest : Text}
    (h : c.digitValue? = none ∧ c.toNat ≠ 0x2E ∧ c.toNat ≠ 0x65 ∧ c.toNat ≠ 0x45) :
    Delimited (c :: rest) := by
  intro d rest' heq
  cases heq
  exact h

/-! ## §1. The text of a number. -/

/-- A point and digits, or nothing if there are no digits. -/
def fractionText : List Nat → Text
  | [] => []
  | d :: ds => CodePoint.ofChar '.' :: (d :: ds).map decimalDigit

/-- The mark of an exponent, a sign and at least two digits. -/
def exponentText : Option Int → Text
  | none => []
  | some k =>
      CodePoint.ofChar 'e' :: CodePoint.ofChar (if k < 0 then '-' else '+')
        :: Text.padded 2 k.natAbs

/-- A minus sign, or nothing. -/
def signText (negative : Bool) : Text := if negative then [CodePoint.ofChar '-'] else []

/-- The text of a number without its sign. -/
def NumberText.magnitude (n : NumberText) : Text :=
  n.whole.map decimalDigit ++ (fractionText n.fraction ++ exponentText n.exponent)

/-- The text of a number that is given by its parts. -/
def NumberText.text (n : NumberText) : Text := signText n.negative ++ n.magnitude

/-- Digits stand for digits, and the whole part is a lone zero or begins with none. -/
structure NumberText.WellFormed (n : NumberText) : Prop where
  whole_lt : ∀ d ∈ n.whole, d < 10
  leading : ∃ d ds, n.whole = d :: ds ∧ (d = 0 → ds = [])
  fraction_lt : ∀ d ∈ n.fraction, d < 10

/-! ## §2. The parts of a number. -/

/-- No digit is at the head of the text. -/
def NoDigit (t : Text) : Prop := ∀ c rest, t = c :: rest → c.digitValue? = none

theorem noDigit_cons {c : CodePoint} {rest : Text} (h : c.digitValue? = none) :
    NoDigit (c :: rest) := by
  intro d rest' heq
  cases heq
  exact h

/-- Neither a digit nor a point is at the head of the text. -/
def NoFraction (t : Text) : Prop :=
  ∀ c rest, t = c :: rest → c.digitValue? = none ∧ c.toNat ≠ 0x2E

theorem NoFraction.noDigit {t : Text} (h : NoFraction t) : NoDigit t :=
  fun c rest heq => (h c rest heq).1

theorem noFraction_exponentText (exponent : Option Int) {rest : Text} (h : Delimited rest) :
    NoFraction (exponentText exponent ++ rest) := by
  intro c tail heq
  cases exponent with
  | none =>
      obtain ⟨hdigit, hpoint, -, -⟩ := h c tail heq
      exact ⟨hdigit, hpoint⟩
  | some k =>
      obtain ⟨rfl, -⟩ := List.cons.inj heq
      exact ⟨rfl, by decide⟩

theorem noDigit_fractionText (fraction : List Nat) {rest : Text} (h : NoFraction rest) :
    NoDigit (fractionText fraction ++ rest) := by
  cases fraction with
  | nil => exact h.noDigit
  | cons d ds => exact noDigit_cons rfl

theorem takeDigits_digits {ds : List Nat} {rest : Text} (hds : ∀ d ∈ ds, d < 10)
    (hrest : NoDigit rest) : takeDigits (ds.map decimalDigit ++ rest) = (ds, rest) := by
  induction ds with
  | nil =>
      cases rest with
      | nil => rfl
      | cons c rest =>
          have hdigit := hrest c rest rfl
          show takeDigits (c :: rest) = _
          simp [takeDigits, hdigit]
  | cons d ds ih =>
      have hd : d < 10 := hds d List.mem_cons_self
      have ih' := ih fun e he => hds e (List.mem_cons_of_mem _ he)
      show takeDigits (decimalDigit d :: (ds.map decimalDigit ++ rest)) = _
      simp [takeDigits, digitValue?_decimalDigit hd, ih']

/-- A lone zero, or digits that begin with none. -/
theorem takeWhole?_digits {d : Nat} {ds : List Nat} {rest : Text} (hds : ∀ e ∈ d :: ds, e < 10)
    (hzero : d = 0 → ds = []) (hrest : NoDigit rest) :
    takeWhole? ((d :: ds).map decimalDigit ++ rest) = some (d :: ds, rest) := by
  have hd : d < 10 := hds d List.mem_cons_self
  have htake := takeDigits_digits (fun e he => hds e (List.mem_cons_of_mem _ he)) hrest
  show takeWhole? (decimalDigit d :: (ds.map decimalDigit ++ rest)) = _
  rw [takeWhole?, digitValue?_decimalDigit hd]
  -- after a leading zero the reader stops at once
  cases d with
  | zero =>
      rw [hzero rfl]
      rfl
  | succ d =>
      show some ((d + 1) :: (takeDigits (ds.map decimalDigit ++ rest)).1,
        (takeDigits (ds.map decimalDigit ++ rest)).2) = _
      rw [htake]

theorem takeFraction_fractionText {fraction : List Nat} {rest : Text}
    (hfraction : ∀ d ∈ fraction, d < 10) (hrest : NoFraction rest) :
    takeFraction (fractionText fraction ++ rest) = (fraction, rest) := by
  cases fraction with
  | nil =>
      show takeFraction rest = _
      cases rest with
      | nil => rfl
      | cons c rest =>
          obtain ⟨-, hpoint⟩ := hrest c rest rfl
          rw [takeFraction, if_neg hpoint]
  | cons d ds =>
      have htake := takeDigits_digits hfraction hrest.noDigit
      show takeFraction (CodePoint.ofChar '.' :: ((d :: ds).map decimalDigit ++ rest)) = _
      rw [takeFraction, if_pos (by decide), htake]

theorem takeExponent_exponentText (exponent : Option Int) {rest : Text} (h : Delimited rest) :
    takeExponent (exponentText exponent ++ rest) = (exponent, rest) := by
  cases exponent with
  | none =>
      show takeExponent rest = _
      cases rest with
      | nil => rfl
      | cons c rest =>
          obtain ⟨-, -, hlower, hupper⟩ := h c rest rfl
          rw [takeExponent, if_neg (by rintro (h | h); exact hlower h; exact hupper h)]
  | some k =>
      obtain ⟨ds, htext, hlt, hvalue, hne⟩ := Text.padded_eq_digits 2 k.natAbs
      have hrest : NoDigit rest := fun c tail heq => (h c tail heq).1
      have htake := takeDigits_digits hlt hrest
      obtain ⟨d, ds, rfl⟩ := List.exists_cons_of_ne_nil hne
      show takeExponent (CodePoint.ofChar 'e' :: CodePoint.ofChar (if k < 0 then '-' else '+')
        :: (Text.padded 2 k.natAbs ++ rest)) = _
      rw [takeExponent, if_pos (by decide), htext]
      -- the sign says which of the two numbers of this size it is
      by_cases hneg : k < 0
      · have hsign : Numeral.readSign (CodePoint.ofChar (if k < 0 then '-' else '+')
            :: ((d :: ds).map decimalDigit ++ rest))
              = (true, (d :: ds).map decimalDigit ++ rest) := by
          rw [if_pos hneg]
          rfl
        rw [hsign]
        simp only [htake, hvalue, if_true]
        congr 2
        omega
      · have hsign : Numeral.readSign (CodePoint.ofChar (if k < 0 then '-' else '+')
            :: ((d :: ds).map decimalDigit ++ rest))
              = (false, (d :: ds).map decimalDigit ++ rest) := by
          rw [if_neg hneg]
          rfl
        rw [hsign]
        simp only [htake, hvalue, Bool.false_eq_true, if_false]
        congr 2
        omega

/-! ## §3. Numbers. -/

/-- **The number that is read from its text**: its own parts, and nothing of what follows. -/
theorem readNumber?_text {n : NumberText} (hn : n.WellFormed) {rest : Text} (h : Delimited rest) :
    readNumber? (n.text ++ rest) = some (n, rest) := by
  obtain ⟨negative, whole, fraction, exponent⟩ := n
  obtain ⟨hwhole, ⟨d, ds, rfl, hzero⟩, hfraction⟩ := hn
  have hd : d < 10 := hwhole d List.mem_cons_self
  have htail := noFraction_exponentText exponent h
  have htakeWhole := takeWhole?_digits hwhole hzero (noDigit_fractionText fraction htail)
  have htakeFraction := takeFraction_fractionText hfraction htail
  have htakeExponent := takeExponent_exponentText exponent h
  unfold NumberText.text NumberText.magnitude signText
  simp only [List.map_cons, List.cons_append, List.append_assoc] at htakeWhole ⊢
  cases negative with
  | true =>
      have hminus : (CodePoint.ofChar '-').toNat = 0x2D := rfl
      simp [readNumber?, hminus, htakeWhole, htakeFraction, htakeExponent]
  | false =>
      -- the first digit is no minus sign
      have hhead : ((decimalDigit d).toNat == 0x2D) = false := by
        rw [toNat_decimalDigit hd, beq_eq_false_iff_ne]
        omega
      simp [readNumber?, hhead, htakeWhole, htakeFraction, htakeExponent]

/-- A number's text begins with a minus sign or a digit, and has a digit in the first two places. -/
theorem NumberText.text_opening {n : NumberText} (hn : n.WellFormed) :
    ∃ c tail, n.text = c :: tail ∧ (c.toNat = 0x2D ∨ 0x30 ≤ c.toNat ∧ c.toNat ≤ 0x39)
      ∧ ∃ d ∈ n.text.take 2, d.digitValue? ≠ none := by
  obtain ⟨negative, whole, fraction, exponent⟩ := n
  obtain ⟨hwhole, ⟨d, ds, rfl, -⟩, -⟩ := hn
  have hd : d < 10 := hwhole d List.mem_cons_self
  have hcode := toNat_decimalDigit hd
  have hdigit : (decimalDigit d).digitValue? ≠ none := by
    rw [digitValue?_decimalDigit hd]
    exact Option.some_ne_none d
  cases negative with
  | true => exact ⟨_, _, rfl, .inl rfl, decimalDigit d, by simp [text, signText, magnitude], hdigit⟩
  | false =>
      exact ⟨_, _, rfl, .inr (by omega), decimalDigit d, by simp [text, signText, magnitude],
        hdigit⟩

/-- Nothing but digits, signs, a point and a mark is written. -/
theorem NumberText.transmissible_text {n : NumberText} (hn : n.WellFormed) :
    ∀ c ∈ n.text, c.Transmissible := by
  have hdigits : ∀ ds : List Nat, (∀ d ∈ ds, d < 10) →
      ∀ c ∈ ds.map decimalDigit, c.Transmissible := by
    intro ds hds c hc
    obtain ⟨d, hd, rfl⟩ := List.mem_map.mp hc
    exact Text.transmissible_decimalDigit (hds d hd)
  intro c hc
  rcases List.mem_append.mp hc with hc | hc
  · unfold signText at hc
    split at hc
    · rw [List.mem_singleton.mp hc]
      decide
    · cases hc
  rcases List.mem_append.mp hc with hc | hc
  · exact hdigits _ hn.whole_lt c hc
  rcases List.mem_append.mp hc with hc | hc
  · cases hfraction : n.fraction with
    | nil =>
        rw [hfraction] at hc
        cases hc
    | cons d ds =>
        rw [hfraction] at hc
        rcases List.mem_cons.mp hc with rfl | hc
        · decide
        · exact hdigits _ (hfraction ▸ hn.fraction_lt) c hc
  · cases hexponent : n.exponent with
    | none =>
        rw [hexponent] at hc
        cases hc
    | some k =>
        rw [hexponent] at hc
        rcases List.mem_cons.mp hc with rfl | hc
        · decide
        rcases List.mem_cons.mp hc with rfl | hc
        · split
          · decide
          · decide
        · obtain ⟨ds, htext, hlt, -, -⟩ := Text.padded_eq_digits 2 k.natAbs
          rw [htext] at hc
          exact hdigits ds hlt c hc

/-! ## §4. Integers and other numbers. -/

/-- **A written integer is the text of a number** without fraction and exponent. -/
theorem ofInt_eq_text (n : Int) :
    ∃ digits, digits.length = (Text.ofNat n.natAbs).length ∧ natOfDigits digits = n.natAbs
      ∧ NumberText.WellFormed ⟨n < 0, digits, [], none⟩
      ∧ Text.ofInt n = NumberText.text ⟨n < 0, digits, [], none⟩ := by
  obtain ⟨d, ds, htext, hlt, hvalue, hzero⟩ := Text.ofNat_eq_digits n.natAbs
  refine ⟨d :: ds, ?_, hvalue, ⟨hlt, ⟨d, ds, rfl, hzero⟩, by simp⟩, ?_⟩
  · rw [htext, List.length_map]
  · rw [Text.ofInt_eq, htext]
    simp [NumberText.text, NumberText.magnitude, signText, fractionText, exponentText]

/-- The value of a number without fraction and exponent, within the digit limit. -/
theorem value_integer {n : Int} {digits : List Nat} (hlength : digits.length ≤ digitLimit)
    (hvalue : natOfDigits digits = n.natAbs) :
    NumberText.value ⟨n < 0, digits, [], none⟩ = .ok (.int n) := by
  simp only [NumberText.value]
  rw [if_neg (by omega), hvalue]
  by_cases hneg : n < 0
  · simp only [hneg, decide_true, if_true]
    congr 2
    omega
  · simp only [hneg, decide_false, Bool.false_eq_true, if_false]
    congr 2
    omega

/-- The value of any other number is a double. -/
theorem value_double {n : NumberText} (h : n.fraction ≠ [] ∨ n.exponent ≠ none) :
    n.value = .ok (.float (.ofDecimal n.negative (natOfDigits (n.whole ++ n.fraction))
      (n.exponent.getD 0 - n.fraction.length))) := by
  unfold NumberText.value
  split
  next hfraction hexponent =>
    rcases h with h | h
    · exact absurd hfraction h
    · exact absurd hexponent h
  next => rfl

end Json

end EventEnvelope
