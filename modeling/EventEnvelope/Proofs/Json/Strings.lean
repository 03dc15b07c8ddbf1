/-
  EventEnvelope.Proofs.Json.Strings
  ─────────────────────────────────
  **Reading a JSON string undoes writing it.**

  A string is written character by character, with escapes for quotes, backslashes and controls.
  Each escape is read back as one piece; a piece that was written by number is a control, never half
  of a surrogate pair, so joining the pieces gives the text, lone surrogates included.

    • `readText_escapes`          — the characters of a string and its closing quote,
    • `writeText_eq`              — a written string is a quote, the escapes and a quote,
    • `transmissible_writeText`   — a string without surrogates is written without any, and
                                    without null characters.
-/
import EventEnvelope.Json.Reader
import EventEnvelope.Json.Writer
import EventEnvelope.Proofs.Text.Utf8

namespace EventEnvelope

namespace Json

/-- The double quote that begins and ends a string. -/
def quoteMark : CodePoint := .ofChar '"'

/-- The backslash that begins an escape. -/
def escapeMark : CodePoint := .ofChar '\\'

/-! ## §1. Escapes by number. -/

theorem hexValue?_hexDigit {d : Nat} (h : d < 16) :
    (CodePoint.hexDigit d).hexValue? = some d := by
  have all : ∀ e : Fin 16, (CodePoint.hexDigit e.val).hexValue? = some e.val := by decide
  exact all ⟨d, h⟩

/-- The four digits of a number spell it. -/
theorem hex4?_hex {n : Nat} (h : n < 0x10000) :
    ∃ a b c d, Text.hex 4 n = [a, b, c, d] ∧ hex4? a b c d = some n := by
  refine ⟨_, _, _, _, rfl, ?_⟩
  have h₁ : n / 16 / 16 / 16 % 16 < 16 := by omega
  have h₂ : n / 16 / 16 % 16 < 16 := by omega
  have h₃ : n / 16 % 16 < 16 := by omega
  have h₄ : n % 16 < 16 := by omega
  simp only [hex4?, hexValue?_hexDigit h₁, hexValue?_hexDigit h₂, hexValue?_hexDigit h₃,
    hexValue?_hexDigit h₄, Option.bind_eq_bind, Option.bind_some, Option.some.injEq]
  omega

/-! ## §2. One character. -/

/-- The character that a piece stands for by itself. -/
def Piece.codePoint : Piece → CodePoint
  | .character c => c
  | .unit c => c

/-- A piece that is never half of a surrogate pair: a plain character, or a control by number. -/
def Piece.IsSolid : Piece → Prop
  | .character _ => True
  | .unit c => c.toNat < 0x20

/-- A solid piece stands for its character, whatever follows. -/
theorem joinPieces_solid {p : Piece} (h : p.IsSolid) (rest : List Piece) :
    joinPieces (p :: rest) = p.codePoint :: joinPieces rest := by
  cases p with
  | character c => rfl
  | unit c =>
      have hlow : c.toNat < 0x20 := h
      have hhigh : c.isHighSurrogate = false := by
        simp only [CodePoint.isHighSurrogate, Bool.and_eq_false_iff, decide_eq_false_iff_not]
        omega
      cases rest with
      | nil => rfl
      | cons q rest =>
          cases q with
          | character d => rfl
          | unit d => simp [joinPieces, hhigh, Piece.codePoint]

/-- How a character is written: with a one-letter escape, by number, or as it is. -/
theorem escape_cases (c : CodePoint) :
    (∃ e, escape c = [escapeMark, e] ∧ e.toNat ≠ 0x75 ∧ escaped? e = some c
        ∧ 0x20 ≤ e.toNat ∧ e.toNat < 0x80)
      ∨ (c.toNat < 0x20
          ∧ escape c = escapeMark :: CodePoint.ofChar 'u' :: Text.hex 4 c.toNat)
      ∨ (0x20 ≤ c.toNat ∧ c.toNat ≠ 0x22 ∧ c.toNat ≠ 0x5C ∧ escape c = [c]) := by
  have hself : ∀ n : Nat, c.toNat = n → some (CodePoint.ofNat n) = some c := by
    intro n hn
    rw [← hn, CodePoint.ofNat_toNat]
  unfold escape
  -- the cases are those of the writer's table, in its order
  split
  next h => exact .inl ⟨quoteMark, rfl, by decide, hself _ h, by decide⟩
  next h => exact .inl ⟨escapeMark, rfl, by decide, hself _ h, by decide⟩
  next h => exact .inl ⟨CodePoint.ofChar 'b', rfl, by decide, hself _ h, by decide⟩
  next h => exact .inl ⟨CodePoint.ofChar 'f', rfl, by decide, hself _ h, by decide⟩
  next h => exact .inl ⟨CodePoint.ofChar 'n', rfl, by decide, hself _ h, by decide⟩
  next h => exact .inl ⟨CodePoint.ofChar 'r', rfl, by decide, hself _ h, by decide⟩
  next h => exact .inl ⟨CodePoint.ofChar 't', rfl, by decide, hself _ h, by decide⟩
  next h₁ h₂ _ _ _ _ _ =>
    by_cases hlow : c.toNat < 0x20
    · rw [if_pos hlow]
      exact .inr (.inl ⟨hlow, rfl⟩)
    · rw [if_neg hlow]
      exact .inr (.inr ⟨by omega, h₁, h₂, rfl⟩)

/-- **One character, written and read**: its escape is read back as one solid piece. -/
theorem readPieces_escape (opening : Nat) (c : CodePoint) {t left : Text} {pieces : List Piece}
    (h : readPieces opening t = .ok (pieces, left)) :
    ∃ p : Piece, p.codePoint = c ∧ p.IsSolid
      ∧ readPieces opening (escape c ++ t) = .ok (p :: pieces, left) := by
  have hmark : escapeMark.toNat = 0x5C := rfl
  rcases escape_cases c with ⟨e, hescape, hu, he, -, -⟩ | ⟨hlow, hescape⟩ | ⟨hlow, hq, hb, hescape⟩
  · refine ⟨.character c, rfl, trivial, ?_⟩
    rw [hescape]
    -- the letter is no `u`, so the reader looks it up
    show readPieces opening (escapeMark :: e :: t) = _
    unfold readPieces
    simp [hmark, hu, he, h, bind, Except.bind]
  · refine ⟨.unit c, rfl, hlow, ?_⟩
    obtain ⟨h₁, h₂, h₃, h₄, hhex, hvalue⟩ := hex4?_hex (n := c.toNat) (by omega)
    rw [hescape, hhex]
    -- the reader wants one more character after the digits, which is there: a quote at least
    cases t with
    | nil => simp [readPieces] at h
    | cons next rest =>
        show readPieces opening
          (escapeMark :: CodePoint.ofChar 'u' :: h₁ :: h₂ :: h₃ :: h₄ :: next :: rest) = _
        have hu : (CodePoint.ofChar 'u').toNat = 0x75 := rfl
        rw [readPieces.eq_def]
        simp [hmark, hu, hvalue, h, bind, Except.bind]
  · refine ⟨.character c, rfl, trivial, ?_⟩
    rw [hescape]
    show readPieces opening (c :: t) = _
    have hnot : ¬ c.toNat < 0x20 := by omega
    rw [readPieces.eq_def]
    simp [hq, hb, hnot, h, bind, Except.bind]

/-! ## §3. Whole strings. -/

theorem readPieces_escapes (opening : Nat) (t rest : Text) :
    ∃ pieces, readPieces opening (t.flatMap escape ++ quoteMark :: rest) = .ok (pieces, rest)
      ∧ joinPieces pieces = t := by
  induction t with
  | nil =>
      refine ⟨[], ?_, rfl⟩
      show readPieces opening (quoteMark :: rest) = _
      rw [readPieces.eq_def]
      rfl
  | cons c t ih =>
      obtain ⟨pieces, hread, hjoin⟩ := ih
      obtain ⟨p, hcode, hsolid, hp⟩ := readPieces_escape opening c hread
      refine ⟨p :: pieces, ?_, ?_⟩
      · rw [List.flatMap_cons, List.append_assoc]
        exact hp
      · rw [joinPieces_solid hsolid, hcode, hjoin]

/-- **Reading a string undoes writing it**, whatever characters it holds. -/
theorem readText_escapes (opening : Nat) (t rest : Text) :
    readText opening (t.flatMap escape ++ quoteMark :: rest) = .ok (t, rest) := by
  obtain ⟨pieces, hread, hjoin⟩ := readPieces_escapes opening t rest
  simp [readText, hread, hjoin, bind, Except.bind]

theorem writeText_eq (t : Text) : writeText t = quoteMark :: (t.flatMap escape ++ [quoteMark]) :=
  rfl

/-! ## §4. What a written string holds. -/

theorem transmissible_hex (width n : Nat) : ∀ c ∈ Text.hex width n, c.Transmissible := by
  have all : ∀ d : Fin 16, 0x20 ≤ (CodePoint.hexDigit d.val).toNat
      ∧ (CodePoint.hexDigit d.val).toNat < 0x80 := by decide
  induction width generalizing n with
  | zero => intro c hc; cases hc
  | succ width ih =>
      intro c hc
      rcases List.mem_append.mp hc with hc | hc
      · exact ih _ c hc
      · have hdigit := all ⟨n % 16, Nat.mod_lt _ (by omega)⟩
        rw [List.mem_singleton.mp hc]
        exact CodePoint.transmissible_ascii hdigit.1 hdigit.2

theorem transmissible_escape {c : CodePoint} (h : c.isSurrogate = false) :
    ∀ d ∈ escape c, d.Transmissible := by
  have hmark : escapeMark.Transmissible := CodePoint.transmissible_ascii (by decide) (by decide)
  intro d hd
  rcases escape_cases c with ⟨e, hescape, -, -, he₁, he₂⟩ | ⟨-, hescape⟩ | ⟨hlow, -, -, hescape⟩
  · rw [hescape] at hd
    rcases List.mem_cons.mp hd with rfl | hd
    · exact hmark
    · rw [List.mem_singleton.mp hd]
      exact CodePoint.transmissible_ascii he₁ he₂
  · rw [hescape] at hd
    rcases List.mem_cons.mp hd with rfl | hd
    · exact hmark
    · rcases List.mem_cons.mp hd with rfl | hd
      · exact CodePoint.transmissible_ascii (by decide) (by decide)
      · exact transmissible_hex 4 c.toNat d hd
  · rw [hescape] at hd
    rw [List.mem_singleton.mp hd]
    exact ⟨by omega, h⟩

/-- **A string without surrogates is written without any**, and without null characters. -/
theorem transmissible_writeText {t : Text} (h : t.hasSurrogate = false) :
    ∀ c ∈ writeText t, c.Transmissible := by
  have hquote : quoteMark.Transmissible := CodePoint.transmissible_ascii (by decide) (by decide)
  intro c hc
  rw [writeText_eq] at hc
  rcases List.mem_cons.mp hc with rfl | hc
  · exact hquote
  · rcases List.mem_append.mp hc with hc | hc
    · obtain ⟨d, hd, hc⟩ := List.mem_flatMap.mp hc
      exact transmissible_escape (Text.hasSurrogate_eq_false.mp h d hd) c hc
    · rw [List.mem_singleton.mp hc]
      exact hquote

theorem escape_of_not_ascii {c : CodePoint} (h : 0x80 ≤ c.toNat) : escape c = [c] := by
  unfold escape
  split
  next hcode => omega
  next hcode => omega
  next hcode => omega
  next hcode => omega
  next hcode => omega
  next hcode => omega
  next hcode => omega
  next => exact if_neg (by omega)

/-- A surrogate is written as it is. -/
theorem mem_writeText_of_isSurrogate {t : Text} {c : CodePoint} (hc : c ∈ t)
    (hsurrogate : c.isSurrogate = true) : c ∈ writeText t := by
  have hcode : 0xD800 ≤ c.toNat := by
    simp only [CodePoint.isSurrogate, Bool.and_eq_true, decide_eq_true_eq] at hsurrogate
    exact hsurrogate.1
  rw [writeText_eq]
  refine List.mem_cons_of_mem _ (List.mem_append_left _ (List.mem_flatMap.mpr ⟨c, hc, ?_⟩))
  rw [escape_of_not_ascii (by omega)]
  exact List.mem_singleton_self c

theorem hasSurrogate_of_writeText {t : Text} (h : (writeText t).hasSurrogate = false) :
    t.hasSurrogate = false := by
  refine Text.hasSurrogate_eq_false.mpr fun c hc => Bool.eq_false_iff.mpr fun hsurrogate => ?_
  have hwritten := Text.hasSurrogate_eq_false.mp h c (mem_writeText_of_isSurrogate hc hsurrogate)
  rw [hsurrogate] at hwritten
  cases hwritten

end Json

end EventEnvelope
