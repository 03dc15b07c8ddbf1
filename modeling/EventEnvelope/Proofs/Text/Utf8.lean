/-
  EventEnvelope.Proofs.Text.Utf8
  ──────────────────────────────
  **Reading UTF-8 undoes writing it.**

  Writing refuses exactly the texts that hold a surrogate.  What it writes for a code point is read
  back by the one table that all readers share, so every reader gives back the text, whatever it
  does with malformed bytes; and the table never yields a surrogate.

    • `encode_eq_ok_iff`, `encode_eq_error_iff`   — which texts have a UTF-8 form,
    • `readScalar_bytesOf`                        — one code point, written and read,
    • `decodeFrom_flatMap`                        — a whole text, under any treatment of faults,
    • `decodeReplacing_flatMap`                   — and with replacement,
    • `hasSurrogate_decodeReplacing`              — replacing readers yield no surrogates.
-/
import Mathlib.Data.List.TakeWhile
import EventEnvelope.Text.Utf8

namespace EventEnvelope

/-! ## §1. Characters that bytes can carry. -/

namespace CodePoint

/-- A character that survives the way through bytes: it is no surrogate, and not null, which would
pass for part of another encoding. -/
def Transmissible (c : CodePoint) : Prop := c.toNat ≠ 0 ∧ c.isSurrogate = false

instance (c : CodePoint) : Decidable c.Transmissible :=
  inferInstanceAs (Decidable (c.toNat ≠ 0 ∧ c.isSurrogate = false))

theorem transmissible_ascii {c : CodePoint} (h₁ : 0x20 ≤ c.toNat) (h₂ : c.toNat < 0x80) :
    c.Transmissible := by
  refine ⟨by omega, ?_⟩
  simp only [isSurrogate, Bool.and_eq_false_iff, decide_eq_false_iff_not]
  omega

end CodePoint

namespace Text

theorem hasSurrogate_append (s t : Text) :
    hasSurrogate (s ++ t) = (hasSurrogate s || hasSurrogate t) := List.any_append

theorem hasSurrogate_cons (c : CodePoint) (t : Text) :
    hasSurrogate (c :: t) = (c.isSurrogate || hasSurrogate t) := List.any_cons

theorem hasSurrogate_eq_false {t : Text} :
    hasSurrogate t = false ↔ ∀ c ∈ t, c.isSurrogate = false := by
  simp [hasSurrogate]

end Text

namespace Utf8

theorem loneSurrogates?_eq_none_iff {t : Text} :
    loneSurrogates? t = none ↔ t.hasSurrogate = false := by
  have hdrop : t.dropWhile (fun c => !c.isSurrogate) = [] ↔ t.hasSurrogate = false := by
    rw [List.dropWhile_eq_nil_iff, Text.hasSurrogate_eq_false]
    simp
  rw [← hdrop]
  unfold loneSurrogates?
  cases t.dropWhile (fun c => !c.isSurrogate) with
  | nil => simp
  | cons c rest => simp

/-- A text has a UTF-8 form when it holds no surrogate. -/
theorem encode_eq_ok_iff {t : Text} {bytes : Bytes} :
    encode t = .ok bytes ↔ t.hasSurrogate = false ∧ bytes = t.flatMap bytesOf := by
  rw [← loneSurrogates?_eq_none_iff]
  unfold encode
  cases loneSurrogates? t with
  | none => simp [eq_comm]
  | some fault => simp

theorem encode_of_noSurrogate {t : Text} (h : t.hasSurrogate = false) :
    encode t = .ok (t.flatMap bytesOf) := encode_eq_ok_iff.mpr ⟨h, rfl⟩

/-- A text has no UTF-8 form when it holds a surrogate. -/
theorem encode_eq_error_iff {t : Text} :
    (∃ fault, encode t = .error fault) ↔ t.hasSurrogate = true := by
  constructor
  · rintro ⟨fault, hfault⟩
    cases hs : t.hasSurrogate with
    | true => rfl
    | false =>
        rw [encode_of_noSurrogate hs] at hfault
        cases hfault
  · intro hs
    cases hencode : encode t with
    | error fault => exact ⟨fault, rfl⟩
    | ok bytes =>
        rw [(encode_eq_ok_iff.mp hencode).1] at hs
        cases hs

/-! ## §2. One code point. -/

/-- A code point below `0x80` is its own byte. -/
theorem bytesOf_one {c : CodePoint} (h : c.toNat < 0x80) :
    bytesOf c = [UInt8.ofNat c.toNat] := by
  simp [bytesOf, h]

theorem bytesOf_two {c : CodePoint} (h₁ : 0x80 ≤ c.toNat) (h₂ : c.toNat < 0x800) :
    bytesOf c = [UInt8.ofNat (0xC0 + c.toNat / 0x40), UInt8.ofNat (0x80 + c.toNat % 0x40)] := by
  simp [bytesOf, h₂, Nat.not_lt.mpr h₁]

theorem bytesOf_three {c : CodePoint} (h₁ : 0x800 ≤ c.toNat) (h₂ : c.toNat < 0x10000) :
    bytesOf c = [UInt8.ofNat (0xE0 + c.toNat / 0x1000), UInt8.ofNat (0x80 + c.toNat / 0x40 % 0x40),
      UInt8.ofNat (0x80 + c.toNat % 0x40)] := by
  have h₀ : ¬ c.toNat < 0x80 := by omega
  simp [bytesOf, h₀, h₂, Nat.not_lt.mpr h₁]

theorem bytesOf_four {c : CodePoint} (h : 0x10000 ≤ c.toNat) :
    bytesOf c = [UInt8.ofNat (0xF0 + c.toNat / 0x40000),
      UInt8.ofNat (0x80 + c.toNat / 0x1000 % 0x40), UInt8.ofNat (0x80 + c.toNat / 0x40 % 0x40),
      UInt8.ofNat (0x80 + c.toNat % 0x40)] := by
  have h₀ : ¬ c.toNat < 0x80 := by omega
  have h₁ : ¬ c.toNat < 0x800 := by omega
  simp [bytesOf, h₀, h₁, Nat.not_lt.mpr h]

/-- The four widths of a code point. -/
theorem width_cases (c : CodePoint) :
    c.toNat < 0x80 ∨ (0x80 ≤ c.toNat ∧ c.toNat < 0x800)
      ∨ (0x800 ≤ c.toNat ∧ c.toNat < 0x10000) ∨ 0x10000 ≤ c.toNat := by
  omega

/-- A number that fits is the byte's number. -/
theorem toNat_byte {n : Nat} (h : n < 256) : (UInt8.ofNat n).toNat = n :=
  UInt8.toNat_ofNat_of_lt' h

/-- Only the null character is written with a null byte. -/
theorem zero_notMem_bytesOf {c : CodePoint} (h : c.toNat ≠ 0) : (0 : UInt8) ∉ bytesOf c := by
  have hlt := c.isLt
  -- every byte of a longer form has its highest bit set
  have hbyte : ∀ n : Nat, n < 256 → n ≠ 0 → (0 : UInt8) ≠ UInt8.ofNat n := by
    intro n hn hne heq
    have hz := congrArg UInt8.toNat heq
    rw [toNat_byte hn] at hz
    exact hne hz.symm
  rcases width_cases c with h₁ | ⟨h₁, h₂⟩ | ⟨h₁, h₂⟩ | h₁
  · rw [bytesOf_one h₁]
    simpa using hbyte _ (by omega) h
  · rw [bytesOf_two h₁ h₂]
    have hlead := hbyte (0xC0 + c.toNat / 0x40) (by omega) (by omega)
    have hlast := hbyte (0x80 + c.toNat % 0x40) (by omega) (by omega)
    simp only [List.mem_cons, List.not_mem_nil, or_false, not_or]
    exact ⟨hlead, hlast⟩
  · rw [bytesOf_three h₁ h₂]
    have hlead := hbyte (0xE0 + c.toNat / 0x1000) (by omega) (by omega)
    have hmid := hbyte (0x80 + c.toNat / 0x40 % 0x40) (by omega) (by omega)
    have hlast := hbyte (0x80 + c.toNat % 0x40) (by omega) (by omega)
    simp only [List.mem_cons, List.not_mem_nil, or_false, not_or]
    exact ⟨hlead, hmid, hlast⟩
  · rw [bytesOf_four h₁]
    have hlead := hbyte (0xF0 + c.toNat / 0x40000) (by omega) (by omega)
    have hsecond := hbyte (0x80 + c.toNat / 0x1000 % 0x40) (by omega) (by omega)
    have hthird := hbyte (0x80 + c.toNat / 0x40 % 0x40) (by omega) (by omega)
    have hlast := hbyte (0x80 + c.toNat % 0x40) (by omega) (by omega)
    simp only [List.mem_cons, List.not_mem_nil, or_false, not_or]
    exact ⟨hlead, hsecond, hthird, hlast⟩

/-! ## §3. One code point, written and read. -/

theorem isContinuation_byte {n : Nat} (h : n < 0x40) :
    isContinuation (UInt8.ofNat (0x80 + n)) = true := by
  have hn := toNat_byte (n := 0x80 + n) (by omega)
  simp only [isContinuation, Bool.and_eq_true, decide_eq_true_eq, UInt8.le_iff_toNat_le,
    UInt8.lt_iff_toNat_lt, hn]
  exact ⟨by simp, by simp; omega⟩

theorem payload_byte {n : Nat} (h : n < 0x40) : payload (UInt8.ofNat (0x80 + n)) = n := by
  rw [payload, toNat_byte (by omega)]
  omega

/-- The second byte of three: no overlong form, and no surrogate. -/
theorem isSecondOfThree_byte {n : Nat} (h₁ : 0x800 ≤ n) (h₂ : n < 0x10000)
    (hs : ¬ (0xD800 ≤ n ∧ n ≤ 0xDFFF)) :
    isSecondOfThree (UInt8.ofNat (0xE0 + n / 0x1000)) (UInt8.ofNat (0x80 + n / 0x40 % 0x40))
      = true := by
  have hlead := toNat_byte (n := 0xE0 + n / 0x1000) (by omega)
  have hsecond := toNat_byte (n := 0x80 + n / 0x40 % 0x40) (by omega)
  rw [isSecondOfThree, isContinuation_byte (by omega), Bool.true_and]
  split
  next hb =>
    simp only [UInt8.lt_iff_toNat_lt, hsecond, UInt8.reduceToNat] at hb
    simp only [bne_iff_ne, ne_eq, ← UInt8.toNat_inj, hlead, UInt8.reduceToNat]
    omega
  next hb =>
    simp only [UInt8.lt_iff_toNat_lt, hsecond, UInt8.reduceToNat] at hb
    simp only [bne_iff_ne, ne_eq, ← UInt8.toNat_inj, hlead, UInt8.reduceToNat]
    omega

/-- The second byte of four: no overlong form, and nothing past the last plane. -/
theorem isSecondOfFour_byte {n : Nat} (h₁ : 0x10000 ≤ n) (h₂ : n < 0x110000) :
    isSecondOfFour (UInt8.ofNat (0xF0 + n / 0x40000)) (UInt8.ofNat (0x80 + n / 0x1000 % 0x40))
      = true := by
  have hlead := toNat_byte (n := 0xF0 + n / 0x40000) (by omega)
  have hsecond := toNat_byte (n := 0x80 + n / 0x1000 % 0x40) (by omega)
  rw [isSecondOfFour, isContinuation_byte (by omega), Bool.true_and]
  split
  next hb =>
    simp only [UInt8.lt_iff_toNat_lt, hsecond, UInt8.reduceToNat] at hb
    simp only [bne_iff_ne, ne_eq, ← UInt8.toNat_inj, hlead, UInt8.reduceToNat]
    omega
  next hb =>
    simp only [UInt8.lt_iff_toNat_lt, hsecond, UInt8.reduceToNat] at hb
    simp only [bne_iff_ne, ne_eq, ← UInt8.toNat_inj, hlead, UInt8.reduceToNat]
    omega

/-- **One code point, written and read**: the table gives back a code point that is no surrogate,
with the number of bytes it was written in. -/
theorem readScalar_bytesOf {c : CodePoint} (hs : c.isSurrogate = false) :
    ∃ lead tail, bytesOf c = lead :: tail
      ∧ ∀ rest, readScalar lead (tail ++ rest) = .scalar c (tail.length + 1) := by
  have hlt := c.isLt
  have hnot : ¬ (0xD800 ≤ c.toNat ∧ c.toNat ≤ 0xDFFF) := by
    simpa [CodePoint.isSurrogate] using hs
  rcases width_cases c with h₁ | ⟨h₁, h₂⟩ | ⟨h₁, h₂⟩ | h₁
  -- one byte, which is the code point itself
  · refine ⟨_, _, bytesOf_one h₁, fun rest => ?_⟩
    have hlead := toNat_byte (n := c.toNat) (by omega)
    have hsmall : UInt8.ofNat c.toNat < 0x80 := by
      rw [UInt8.lt_iff_toNat_lt, hlead, UInt8.toNat_ofNat]
      omega
    show (if UInt8.ofNat c.toNat < 0x80 then _ else _) = _
    rw [if_pos hsmall, hlead, CodePoint.ofNat_toNat]
    rfl
  -- two bytes, with five and six bits
  · refine ⟨_, _, bytesOf_two h₁ h₂, fun rest => ?_⟩
    have hlead := toNat_byte (n := 0xC0 + c.toNat / 0x40) (by omega)
    have hvalue : (0xC0 + c.toNat / 0x40) % 0x20 * 0x40 + c.toNat % 0x40 = c.toNat := by omega
    simp only [readScalar, UInt8.lt_iff_toNat_lt, hlead, UInt8.toNat_ofNat, Nat.reducePow,
      Nat.reduceMod, List.cons_append, List.nil_append]
    rw [if_neg (by omega), if_neg (by omega), if_pos (by omega),
      if_pos (isContinuation_byte (by omega)), payload_byte (by omega), hvalue,
      CodePoint.ofNat_toNat]
    rfl
  -- three bytes; the test on the second one is where surrogates would fail
  · refine ⟨_, _, bytesOf_three h₁ h₂, fun rest => ?_⟩
    have hlead := toNat_byte (n := 0xE0 + c.toNat / 0x1000) (by omega)
    have hvalue : (0xE0 + c.toNat / 0x1000) % 0x10 * 0x1000 + c.toNat / 0x40 % 0x40 * 0x40
        + c.toNat % 0x40 = c.toNat := by omega
    simp only [readScalar, UInt8.lt_iff_toNat_lt, hlead, UInt8.toNat_ofNat, Nat.reducePow,
      Nat.reduceMod, List.cons_append, List.nil_append]
    rw [if_neg (by omega), if_neg (by omega), if_neg (by omega), if_pos (by omega),
      if_pos (isSecondOfThree_byte h₁ h₂ hnot), if_pos (isContinuation_byte (by omega)),
      payload_byte (by omega), payload_byte (by omega), hvalue, CodePoint.ofNat_toNat]
    rfl
  -- four bytes; the test on the second one holds since there are no more code points
  · refine ⟨_, _, bytesOf_four h₁, fun rest => ?_⟩
    have hlead := toNat_byte (n := 0xF0 + c.toNat / 0x40000) (by omega)
    have hvalue : (0xF0 + c.toNat / 0x40000) % 0x08 * 0x40000 + c.toNat / 0x1000 % 0x40 * 0x1000
        + c.toNat / 0x40 % 0x40 * 0x40 + c.toNat % 0x40 = c.toNat := by omega
    simp only [readScalar, UInt8.lt_iff_toNat_lt, hlead, UInt8.toNat_ofNat, Nat.reducePow,
      Nat.reduceMod, List.cons_append, List.nil_append]
    rw [if_neg (by omega), if_neg (by omega), if_neg (by omega), if_neg (by omega),
      if_pos (by omega), if_pos (isSecondOfFour_byte h₁ hlt),
      if_pos (isContinuation_byte (by omega)), if_pos (isContinuation_byte (by omega)),
      payload_byte (by omega), payload_byte (by omega), payload_byte (by omega), hvalue,
      CodePoint.ofNat_toNat]
    rfl

/-! ## §4. Whole texts. -/

/-- Bytes that the last scalar value has used up are skipped. -/
theorem decodeFrom_skip (recovery : Recovery) (used rest : Bytes) (index : Nat) :
    decodeFrom recovery used.length index (used ++ rest)
      = decodeFrom recovery 0 (index + used.length) rest := by
  induction used generalizing index with
  | nil => rfl
  | cons b used ih =>
      show decodeFrom recovery used.length (index + 1) (used ++ rest) = _
      rw [ih (index + 1)]
      simp only [List.length_cons]
      congr 1
      omega

/-- **Reading undoes writing**, whatever the reader does with malformed bytes. -/
theorem decodeFrom_flatMap (recovery : Recovery) {t : Text} (h : t.hasSurrogate = false)
    (index : Nat) : decodeFrom recovery 0 index (t.flatMap bytesOf) = .ok t := by
  induction t generalizing index with
  | nil => rfl
  | cons c rest ih =>
      rw [Text.hasSurrogate_cons, Bool.or_eq_false_iff] at h
      -- the first code point is read from its bytes, and those after its lead are skipped
      obtain ⟨lead, tail, hbytes, hread⟩ := readScalar_bytesOf h.1
      rw [List.flatMap_cons, hbytes]
      show decodeFrom recovery 0 index (lead :: (tail ++ rest.flatMap bytesOf)) = _
      rw [decodeFrom, hread]
      simp only [Nat.add_sub_cancel]
      rw [decodeFrom_skip, ih h.2]
      rfl

/-- The same for a reader that replaces. -/
theorem decodeReplacingFrom_skip (used rest : Bytes) :
    decodeReplacingFrom used.length (used ++ rest) = decodeReplacingFrom 0 rest := by
  induction used with
  | nil => rfl
  | cons b used ih => exact ih

/-- **A replacing reader undoes writing** too; it finds nothing to replace. -/
theorem decodeReplacing_flatMap {t : Text} (h : t.hasSurrogate = false) :
    decodeReplacing (t.flatMap bytesOf) = t := by
  unfold decodeReplacing
  induction t with
  | nil => rfl
  | cons c rest ih =>
      rw [Text.hasSurrogate_cons, Bool.or_eq_false_iff] at h
      obtain ⟨lead, tail, hbytes, hread⟩ := readScalar_bytesOf h.1
      rw [List.flatMap_cons, hbytes]
      show decodeReplacingFrom 0 (lead :: (tail ++ rest.flatMap bytesOf)) = _
      rw [decodeReplacingFrom, hread]
      show c :: decodeReplacingFrom tail.length (tail ++ rest.flatMap bytesOf) = _
      rw [decodeReplacingFrom_skip, ih h.2]

/-! ## §5. Replacing readers yield no surrogates. -/

/-- A number outside the surrogate range gives no surrogate, and neither does one that is out of
range altogether. -/
theorem isSurrogate_ofNat {n : Nat} (h : ¬ (0xD800 ≤ n ∧ n ≤ 0xDFFF)) :
    (CodePoint.ofNat n).isSurrogate = false := by
  unfold CodePoint.ofNat
  split
  · simpa [CodePoint.isSurrogate] using h
  · decide

/-- After `0xED` the second byte stays below `0xA0`, so the number stays below the surrogates. -/
theorem payload_of_isSecondOfThree {lead b : UInt8} (h : isSecondOfThree lead b = true)
    (hlead : lead.toNat = 0xED) : payload b < 0x20 := by
  obtain ⟨hcont, hne⟩ := Bool.and_eq_true_iff.mp h
  have hlow : b < 0xA0 := by
    by_cases hb : b < 0xA0
    · exact hb
    · rw [if_neg hb, bne_iff_ne, ne_eq, ← UInt8.toNat_inj] at hne
      exact absurd hlead hne
  simp only [isContinuation, Bool.and_eq_true, decide_eq_true_eq, UInt8.le_iff_toNat_le,
    UInt8.lt_iff_toNat_lt, UInt8.reduceToNat] at hcont hlow
  unfold payload
  omega

/-- After `0xF0` the second byte is at least `0x90`, so the number is not one of fewer bytes. -/
theorem payload_of_isSecondOfFour {lead b : UInt8} (h : isSecondOfFour lead b = true)
    (hlead : lead.toNat = 0xF0) : 0x10 ≤ payload b := by
  obtain ⟨hcont, hne⟩ := Bool.and_eq_true_iff.mp h
  have hhigh : ¬ b < 0x90 := by
    intro hb
    rw [if_pos hb, bne_iff_ne, ne_eq, ← UInt8.toNat_inj] at hne
    exact hne hlead
  simp only [isContinuation, Bool.and_eq_true, decide_eq_true_eq, UInt8.le_iff_toNat_le,
    UInt8.lt_iff_toNat_lt, UInt8.reduceToNat] at hcont hhigh
  unfold payload
  omega

/-- The table never yields a surrogate. -/
theorem isSurrogate_of_readScalar {lead : UInt8} {rest : Bytes} {c : CodePoint} {length : Nat}
    (h : readScalar lead rest = .scalar c length) : c.isSurrogate = false := by
  have hpayload : ∀ b : UInt8, payload b < 0x40 := fun b => Nat.mod_lt _ (by omega)
  unfold readScalar at h
  simp only [UInt8.lt_iff_toNat_lt, UInt8.reduceToNat] at h
  split at h
  · -- one byte
    cases h
    exact isSurrogate_ofNat (by omega)
  split at h
  · cases h
  split at h
  · -- two bytes
    split at h
    · cases h
    next b tail =>
      split at h
      · cases h
        have hb := hpayload b
        exact isSurrogate_ofNat (by omega)
      · cases h
  split at h
  · -- three bytes
    split at h
    · cases h
    next b tail =>
      split at h
      next hsecond =>
        split at h
        · cases h
        next d tail =>
          split at h
          · cases h
            have hb := hpayload b
            have hd := hpayload d
            have hrange := payload_of_isSecondOfThree hsecond
            exact isSurrogate_ofNat (by omega)
          · cases h
      · cases h
  split at h
  · -- four bytes
    split at h
    · cases h
    next b tail =>
      split at h
      next hsecond =>
        split at h
        · cases h
        next d tail =>
          split at h
          · split at h
            · cases h
            next e tail =>
              split at h
              · cases h
                have hb := hpayload b
                have hd := hpayload d
                have he := hpayload e
                have hrange := payload_of_isSecondOfFour hsecond
                exact isSurrogate_ofNat (by omega)
              · cases h
          · cases h
      · cases h
  · cases h

theorem hasSurrogate_decodeReplacingFrom (skip : Nat) (bytes : Bytes) :
    (decodeReplacingFrom skip bytes).hasSurrogate = false := by
  induction bytes generalizing skip with
  | nil => cases skip <;> rfl
  | cons lead rest ih =>
      cases skip with
      | succ skip => exact ih skip
      | zero =>
          rw [decodeReplacingFrom]
          split
          next c length hread =>
            rw [Text.hasSurrogate_cons, isSurrogate_of_readScalar hread, ih]
            rfl
          next =>
            rw [Text.hasSurrogate_cons, ih]
            rfl

/-- **A replacing reader yields no surrogates**, whatever bytes it is given. -/
theorem hasSurrogate_decodeReplacing (bytes : Bytes) :
    (decodeReplacing bytes).hasSurrogate = false :=
  hasSurrogate_decodeReplacingFrom 0 bytes

end Utf8

end EventEnvelope
