/-
  EventEnvelope.Proofs.Json.SelfSpelling
  ──────────────────────────────────────
  **No text is a document that reads as itself.**

  The document of a string is longer than the string: it has quotes, and an escape is longer than
  what it stands for.  As bytes a text may be taken for a document in a wide encoding, and then it
  is read as fewer characters than it has; but that happens by its null bytes only.  No null
  character is read unescaped, and each character of an escape has a null byte in a wide encoding,
  so there are more of them than the string has null characters.  Both are counts that the reader
  cannot keep up with (`Gauge`).

    • `Gauge`               — what counts in a string that is read and in the document,
    • `weigh_readWhole`     — a string weighs less than its document, by the quotes,
    • `ascii_of_decode`     — ASCII characters in a wide encoding have null bytes,
    • `Codec.loads_text_ne` — no text reads as itself.
-/
import EventEnvelope.Codec.Basic
import EventEnvelope.Proofs.Computation
import EventEnvelope.Proofs.Json.Strings

namespace EventEnvelope

/-! ## §1. Weights. -/

/-- The sum of the weights of the characters. -/
def weigh (weight : CodePoint → Nat) : Text → Nat
  | [] => 0
  | c :: rest => weight c + weigh weight rest

@[simp] theorem weigh_nil (weight : CodePoint → Nat) : weigh weight [] = 0 := rfl

@[simp] theorem weigh_cons (weight : CodePoint → Nat) (c : CodePoint) (t : Text) :
    weigh weight (c :: t) = weight c + weigh weight t := rfl

@[simp] theorem weigh_append (weight : CodePoint → Nat) (s t : Text) :
    weigh weight (s ++ t) = weigh weight s + weigh weight t := by
  induction s with
  | nil => exact (Nat.zero_add _).symm
  | cons c rest ih => rw [List.cons_append, weigh_cons, weigh_cons, ih, Nat.add_assoc]

/-- A character counts as one. -/
def each : CodePoint → Nat := fun _ => 1

/-- A null character counts as one. -/
def nulls (c : CodePoint) : Nat := if c.toNat = 0 then 1 else 0

/-- An ASCII character counts as one. -/
def ascii (c : CodePoint) : Nat := if c.toNat < 0x80 then 1 else 0

namespace Json

/-- Weights for what is read and for what is written.  An escape is written in ASCII and stands for
one character; any other character stands for itself and is no control. -/
structure Gauge (read written : CodePoint → Nat) : Prop where
  one : ∀ c, read c ≤ 1
  ascii : ∀ c, c.toNat < 0x80 → written c = 1
  plain : ∀ c, 0x20 ≤ c.toNat → read c ≤ written c
  joined : ∀ c d, read (.joinSurrogates c d) ≤ read c + read d

theorem gauge_each : Gauge each each :=
  ⟨fun _ => le_rfl, fun _ _ => rfl, fun _ _ => le_rfl, fun _ _ => Nat.le_add_left 1 1⟩

/-- A pair stands for a character far behind ASCII. -/
theorem le_joinSurrogates (c d : CodePoint) :
    0xFFFD ≤ (CodePoint.joinSurrogates c d).toNat := by
  unfold CodePoint.joinSurrogates CodePoint.ofNat
  split
  · show 0xFFFD ≤ 0x10000 + _ + _
    omega
  · exact le_rfl

theorem gauge_nulls : Gauge nulls ascii := by
  refine ⟨fun c => ?_, fun c hc => if_pos hc, fun c hc => ?_, fun c d => ?_⟩
  · unfold nulls
    split <;> omega
  · have hnone : nulls c = 0 := if_neg (by omega)
    omega
  · have hjoined := le_joinSurrogates c d
    have hnone : nulls (.joinSurrogates c d) = 0 := if_neg (by omega)
    omega

/-! ## §2. A string weighs less than its document. -/

variable {read written : CodePoint → Nat}

/-- The weight of pieces, each for itself. -/
def weighPieces (read : CodePoint → Nat) (pieces : List Piece) : Nat :=
  weigh read (pieces.map Piece.codePoint)

theorem weighPieces_cons (read : CodePoint → Nat) (p : Piece) (pieces : List Piece) :
    weighPieces read (p :: pieces) = read p.codePoint + weighPieces read pieces := rfl

/-- Joined pairs weigh no more than their halves. -/
theorem weigh_joinPieces (h : Gauge read written) (pieces : List Piece) :
    weigh read (joinPieces pieces) ≤ weighPieces read pieces := by
  fun_induction joinPieces pieces with
  | case1 => exact le_rfl
  | case2 c rest ih =>
      rw [weigh_cons, weighPieces_cons]
      exact Nat.add_le_add_left ih _
  | case3 c d rest _ ih =>
      have hjoined := h.joined c d
      simp only [weigh_cons, weighPieces_cons, Piece.codePoint]
      omega
  | case4 c d rest _ ih =>
      rw [weigh_cons, weighPieces_cons]
      exact Nat.add_le_add_left ih _
  | case5 c rest _ ih =>
      rw [weigh_cons, weighPieces_cons]
      exact Nat.add_le_add_left ih _

/-- One more piece, for whatever the reader has passed. -/
theorem weigh_piece {opening : Nat} {rest left : Text} {p : Piece} {pieces : List Piece}
    (hread : (do
      let (pieces, left) ← readPieces opening rest
      .ok (p :: pieces, left)) = .ok (pieces, left))
    (ih : ∀ {left : Text} {pieces : List Piece}, readPieces opening rest = .ok (pieces, left) →
      weighPieces read pieces + 1 + weigh written left ≤ weigh written rest) :
    weighPieces read pieces + 1 + weigh written left ≤ read p.codePoint + weigh written rest := by
  obtain ⟨⟨others, after⟩, hrest, h⟩ := bind_eq_ok.mp hread
  cases h
  have hothers := ih hrest
  rw [weighPieces_cons]
  omega

/-- **What the reader passes weighs more than the pieces**, by the closing quote. -/
theorem weigh_readPieces (h : Gauge read written) {opening : Nat} {t left : Text}
    {pieces : List Piece} (hread : readPieces opening t = .ok (pieces, left)) :
    weighPieces read pieces + 1 + weigh written left ≤ weigh written t := by
  fun_induction readPieces opening t generalizing pieces left with
  | case1 => cases hread
  | case2 c rest hquote =>
      cases hread
      have hwritten := h.ascii c (by omega)
      rw [weigh_cons, hwritten]
      exact Nat.add_le_add_right (Nat.zero_add 1).le _
  | case3 => cases hread
  | case4 c _ hmark e _ h₁ h₂ h₃ h₄ next rest n _ ih =>
      -- the backslash alone outweighs the unit
      have hpiece := weigh_piece hread ih
      have hone := h.one (.ofNat n)
      have hwritten := h.ascii c (by omega)
      simp only [Piece.codePoint] at hpiece
      simp only [weigh_cons] at hpiece ⊢
      omega
  | case5 => cases hread
  | case6 => cases hread
  | case7 c _ hmark e rest _ d _ ih =>
      have hpiece := weigh_piece hread ih
      have hone := h.one d
      have hwritten := h.ascii c (by omega)
      simp only [Piece.codePoint] at hpiece
      simp only [weigh_cons]
      omega
  | case8 => cases hread
  | case9 => cases hread
  | case10 c rest _ _ hcontrol ih =>
      have hpiece := weigh_piece hread ih
      have hplain := h.plain c (by omega)
      simp only [Piece.codePoint] at hpiece
      simp only [weigh_cons]
      omega

theorem weigh_readText (h : Gauge read written) {opening : Nat} {t s left : Text}
    (hread : readText opening t = .ok (s, left)) :
    weigh read s + 1 + weigh written left ≤ weigh written t := by
  obtain ⟨⟨pieces, after⟩, hpieces, hjoin⟩ := bind_eq_ok.mp hread
  cases hjoin
  have hweight := weigh_readPieces h hpieces
  have hjoined := weigh_joinPieces h pieces
  omega

theorem readWord?_ne_text (t s left : Text) : readWord? t ≠ some (.text s, left) := by
  have hwords : ∀ word ∈ words, word.2 ≠ .text s := by simp [words]
  intro h
  obtain ⟨word, hfind, heq⟩ := Option.map_eq_some_iff.mp h
  exact hwords word (List.mem_of_find?_eq_some hfind) (congrArg Prod.fst heq)

theorem value_ne_text (n : NumberText) (s : Text) : n.value ≠ .ok (.text s) := by
  intro h
  unfold NumberText.value at h
  split at h
  · split at h <;> cases h
  · cases h

/-- A text is read only where a quote stands. -/
theorem readValue_eq_text {fuel : Nat} {t s left : Text}
    (hread : readValue fuel t = .ok (.text s, left)) :
    ∃ c rest opening, t = c :: rest ∧ c.toNat = 0x22 ∧ readText opening rest = .ok (s, left) := by
  cases fuel with
  | zero => cases hread
  | succ fuel =>
    cases t with
    | nil => cases hread
    | cons c rest =>
      rw [readValue] at hread
      split at hread
      next hquote =>
        obtain ⟨⟨text, after⟩, htext, hvalue⟩ := bind_eq_ok.mp hread
        cases hvalue
        exact ⟨c, rest, _, rfl, hquote, htext⟩
      -- objects and arrays, words and numbers are no texts
      split at hread
      · split at hread
        · split at hread
          · cases hread
          · obtain ⟨⟨members, after⟩, -, hvalue⟩ := bind_eq_ok.mp hread
            cases hvalue
        · cases hread
      split at hread
      · split at hread
        · split at hread
          · cases hread
          · obtain ⟨⟨items, after⟩, -, hvalue⟩ := bind_eq_ok.mp hread
            cases hvalue
        · cases hread
      split at hread
      next hword =>
        cases hread
        exact absurd hword (readWord?_ne_text _ s left)
      next =>
        split at hread
        · obtain ⟨value, hnumber, hvalue⟩ := bind_eq_ok.mp hread
          cases hvalue
          exact absurd hnumber (value_ne_text _ s)
        · cases hread

theorem weigh_skipBlanks_le (written : CodePoint → Nat) (t : Text) :
    weigh written (skipBlanks t) ≤ weigh written t := by
  have hsplit : t.takeWhile isBlank ++ skipBlanks t = t := List.takeWhile_append_dropWhile
  have hweight := congrArg (weigh written) hsplit
  rw [weigh_append] at hweight
  omega

/-- **A string weighs less than its document**, by two quotes. -/
theorem weigh_readWhole (h : Gauge read written) {t s : Text}
    (hread : readWhole t = .ok (.text s)) : weigh read s + 2 ≤ weigh written t := by
  obtain ⟨⟨value, left⟩, hvalue, hrest⟩ := bind_eq_ok.mp hread
  dsimp only at hrest
  split at hrest
  next =>
    cases hrest
    obtain ⟨c, rest, opening, hopening, hquote, htext⟩ := readValue_eq_text hvalue
    have hweight := weigh_readText h htext
    have hwritten := h.ascii c (by omega)
    have hskip := weigh_skipBlanks_le written t
    rw [hopening, weigh_cons, hwritten] at hskip
    omega
  next => cases hrest

/-! ## §3. Null bytes. -/

/-- As many bytes are null as characters are. -/
theorem count_zero_flatMap (t : Text) : (t.flatMap Utf8.bytesOf).count 0 = weigh nulls t := by
  induction t with
  | nil => rfl
  | cons c rest ih =>
      have hone : (Utf8.bytesOf c).count 0 = nulls c := by
        by_cases hc : c.toNat = 0
        · rw [Utf8.bytesOf_one (by omega), hc, nulls, if_pos hc]
          rfl
        · rw [List.count_eq_zero_of_not_mem (Utf8.zero_notMem_bytesOf hc), nulls, if_neg hc]
      rw [List.flatMap_cons, List.count_append, ih, hone, weigh_cons]

/-- An ASCII character among the units has a null byte among its bytes. -/
theorem ascii_le_count {c : CodePoint} {bytes : Bytes} (h : c.toNat < 0x80 → (0 : UInt8) ∈ bytes) :
    ascii c ≤ bytes.count 0 := by
  unfold ascii
  split
  next hc => exact List.one_le_count_iff.mpr (h hc)
  next => exact Nat.zero_le _

theorem null_of_small {bigEndian : Bool} {a b : UInt8}
    (h : TextEncoding.unit16 bigEndian a b < 0x80) : (0 : UInt8) ∈ [a, b] := by
  have hnull : ∀ x : UInt8, x.toNat = 0 → 0 = x := fun x hx => UInt8.toNat_inj.mp hx.symm
  unfold TextEncoding.unit16 at h
  split at h
  · rw [hnull a (by omega)]
    exact List.mem_cons_self
  · rw [hnull b (by omega)]
    exact List.mem_cons_of_mem _ List.mem_cons_self

theorem unit16_lt (bigEndian : Bool) (a b : UInt8) :
    TextEncoding.unit16 bigEndian a b < 0x10000 := by
  have ha := a.toNat_lt
  have hb := b.toNat_lt
  unfold TextEncoding.unit16
  split
  · omega
  · omega

theorem ascii_units16 {bigEndian : Bool} {index : Nat} {bytes : Bytes} {t : Text}
    (h : TextEncoding.units16 bigEndian index bytes = .ok t) : weigh ascii t ≤ bytes.count 0 := by
  fun_induction TextEncoding.units16 bigEndian index bytes generalizing t with
  | case1 =>
      cases h
      exact le_rfl
  | case2 => cases h
  | case3 index a b rest ih =>
      obtain ⟨others, hothers, rfl⟩ := map_eq_ok.mp h
      have hlt := unit16_lt bigEndian a b
      have hfirst : ascii (.ofNat (TextEncoding.unit16 bigEndian a b)) ≤ [a, b].count 0 := by
        refine ascii_le_count fun hsmall => ?_
        rw [CodePoint.toNat_ofNat (by omega)] at hsmall
        exact null_of_small hsmall
      rw [weigh_cons, show a :: b :: rest = [a, b] ++ rest from rfl, List.count_append]
      exact Nat.add_le_add hfirst (ih hothers)

theorem ascii_joinPairs : ∀ t : Text, weigh ascii (TextEncoding.joinPairs t) ≤ weigh ascii t
  | [] => le_rfl
  | [_] => le_rfl
  | high :: low :: rest => by
      have hrest := ascii_joinPairs rest
      have htail := ascii_joinPairs (low :: rest)
      rw [TextEncoding.joinPairs]
      split
      · -- a pair is joined to a character far behind ASCII
        have hjoined := le_joinSurrogates high low
        have hnone : ascii (.joinSurrogates high low) = 0 := if_neg (by omega)
        simp only [weigh_cons]
        omega
      · simp only [weigh_cons] at htail ⊢
        omega

theorem ascii_units32 {bigEndian : Bool} {index : Nat} {bytes : Bytes} {t : Text}
    (h : TextEncoding.units32 bigEndian index bytes = .ok t) : weigh ascii t ≤ bytes.count 0 := by
  fun_induction TextEncoding.units32 bigEndian index bytes generalizing t with
  | case1 =>
      cases h
      exact le_rfl
  | case2 index a b c d rest n hn =>
      rename_i ih
      obtain ⟨others, hothers, rfl⟩ := map_eq_ok.mp h
      rw [weigh_cons, show a :: b :: c :: d :: rest = [a, b, c, d] ++ rest from rfl,
        List.count_append]
      refine Nat.add_le_add (ascii_le_count fun hsmall => ?_) (ih hothers)
      -- the lower half of a small unit is small
      have hsmall' : n < 0x80 := hsmall
      unfold n at hsmall'
      split at hsmall'
      · have hlow : TextEncoding.unit16 true c d < 0x80 := by omega
        exact List.mem_append_right [a, b] (null_of_small hlow)
      · have hlow : TextEncoding.unit16 false a b < 0x80 := by omega
        exact List.mem_append_left [c, d] (null_of_small hlow)
  | case3 => cases h
  | case4 => cases h

/-- **In a wide encoding ASCII characters have null bytes**, with a byte order mark or without. -/
theorem ascii_of_decode {encoding : TextEncoding} (hwide : ∀ marked, encoding ≠ .utf8 marked)
    {bytes : Bytes} {t : Text} (h : encoding.decode bytes = .ok t) :
    weigh ascii t ≤ bytes.count 0 := by
  have hdrop : ∀ n, (bytes.drop n).count 0 ≤ bytes.count 0 := fun n =>
    (List.drop_sublist n bytes).count_le 0
  cases encoding with
  | utf8 marked => exact absurd rfl (hwide marked)
  | utf16 bigEndian marked =>
      obtain ⟨units, hunits, rfl⟩ := map_eq_ok.mp h
      refine (ascii_joinPairs units).trans ?_
      split at hunits
      · exact (ascii_units16 hunits).trans (hdrop 2)
      · exact ascii_units16 hunits
  | utf32 bigEndian marked =>
      rw [TextEncoding.decode] at h
      split at h
      · exact (ascii_units32 h).trans (hdrop 4)
      · exact ascii_units32 h

/-! ## §4. Bytes of texts. -/

theorem ofZeroBytes_ne_marked (bytes : Bytes) : TextEncoding.ofZeroBytes bytes ≠ .utf8 true := by
  unfold TextEncoding.ofZeroBytes
  split
  · split
    · split <;> simp
    · split
      · split <;> simp
      · simp
  · split
    · simp
    · split <;> simp
  · simp

/-- A document in UTF-8 with a byte order mark begins with it. -/
theorem mark_of_detect {bytes : Bytes} (h : TextEncoding.detect bytes = .utf8 true) :
    ∃ rest, bytes = 0xEF :: 0xBB :: 0xBF :: rest := by
  unfold TextEncoding.detect at h
  split at h
  · cases h
  split at h
  · cases h
  split at h
  · cases h
  split at h
  · cases h
  split at h
  next hmark =>
    obtain ⟨rest, hrest⟩ := List.isPrefixOf_iff_prefix.mp hmark
    exact ⟨rest, hrest.symm⟩
  next => exact absurd h (ofZeroBytes_ne_marked bytes)

/-- The byte order mark is one character. -/
theorem flatMap_eq_mark {t : Text} {rest : Bytes}
    (h : t.flatMap Utf8.bytesOf = 0xEF :: 0xBB :: 0xBF :: rest) :
    ∃ c others, t = c :: others ∧ rest = others.flatMap Utf8.bytesOf := by
  cases t with
  | nil => cases h
  | cons c others =>
      have hlt := c.isLt
      have hlead : ∀ n : Nat, n < 256 → UInt8.ofNat n = 0xEF → n = 0xEF := by
        intro n hn heq
        rw [← Utf8.toNat_byte hn, heq]
        rfl
      refine ⟨c, others, rfl, ?_⟩
      rw [List.flatMap_cons] at h
      -- only the lead of a form with three bytes is that of the mark
      rcases Utf8.width_cases c with h₁ | ⟨h₁, h₂⟩ | ⟨h₁, h₂⟩ | h₁
      · rw [Utf8.bytesOf_one h₁] at h
        have hcode := hlead _ (by omega) (List.cons.inj h).1
        omega
      · rw [Utf8.bytesOf_two h₁ h₂] at h
        have hcode := hlead _ (by omega) (List.cons.inj h).1
        omega
      · rw [Utf8.bytesOf_three h₁ h₂] at h
        simp only [List.cons_append, List.nil_append, List.cons.injEq] at h
        exact h.2.2.2.symm
      · rw [Utf8.bytesOf_four h₁] at h
        have hcode := hlead _ (by omega) (List.cons.inj h).1
        omega

/-- **What the bytes of a text are read as**: no more characters than it has, or no more in ASCII
than it has null characters. -/
theorem weight_of_decode {t u : Text} (ht : t.hasSurrogate = false)
    (h : (TextEncoding.detect (t.flatMap Utf8.bytesOf)).decode (t.flatMap Utf8.bytesOf) = .ok u) :
    weigh each u ≤ weigh each t ∨ weigh ascii u ≤ weigh nulls t := by
  cases hencoding : TextEncoding.detect (t.flatMap Utf8.bytesOf) with
  | utf8 marked =>
      left
      rw [hencoding] at h
      cases marked with
      | false =>
          have hself : Utf8.decodeKeeping (t.flatMap Utf8.bytesOf) = .ok t :=
            Utf8.decodeFrom_flatMap _ ht 0
          rw [TextEncoding.decode, if_neg (by decide), hself] at h
          cases h
          exact le_rfl
      | true =>
          obtain ⟨rest, hrest⟩ := mark_of_detect hencoding
          obtain ⟨c, others, rfl, rfl⟩ := flatMap_eq_mark hrest
          rw [Text.hasSurrogate_cons, Bool.or_eq_false_iff] at ht
          have hself : Utf8.decodeKeeping (others.flatMap Utf8.bytesOf) = .ok others :=
            Utf8.decodeFrom_flatMap _ ht.2 0
          rw [TextEncoding.decode, if_pos rfl, hrest] at h
          cases hself.symm.trans h
          rw [weigh_cons]
          exact Nat.le_add_left _ _
  | _ =>
      right
      rw [hencoding] at h
      rw [← count_zero_flatMap]
      exact ascii_of_decode (fun _ => TextEncoding.noConfusion) h

theorem readWhole_of_read {bytes : Bytes} {v : Value} (h : Json.read (.bytes bytes) = .ok v) :
    ∃ u, (TextEncoding.detect bytes).decode bytes = .ok u ∧ readWhole u = .ok v := by
  rw [Json.read, readBytes] at h
  split at h
  next u hdecode =>
    refine ⟨u, hdecode, ?_⟩
    unfold readPlaced at h
    split at h
    next hwhole =>
      cases h
      exact hwhole
    next => cases h
    next => cases h
  next => cases h

end Json

/-- **No text is a document that reads as itself**, in whatever encoding its bytes are taken. -/
theorem Codec.loads_text_ne {t : Text} {bytes : Bytes} (hencode : Utf8.encode t = .ok bytes) :
    Codec.loads (.bytes bytes) ≠ .ok (.text t) := by
  intro h
  obtain ⟨ht, rfl⟩ := Utf8.encode_eq_ok_iff.mp hencode
  obtain ⟨u, hdecode, hwhole⟩ := Json.readWhole_of_read (loads_eq_ok.mp h)
  rcases Json.weight_of_decode ht hdecode with hweight | hweight
  · have hshorter := Json.weigh_readWhole Json.gauge_each hwhole
    omega
  · have hfewer := Json.weigh_readWhole Json.gauge_nulls hwhole
    omega

end EventEnvelope
