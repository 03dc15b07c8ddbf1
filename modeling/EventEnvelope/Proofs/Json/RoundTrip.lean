/-
  EventEnvelope.Proofs.Json.RoundTrip
  ───────────────────────────────────
  **Reading a JSON document undoes writing it.**

  The writer recurses on the value, the reader on its fuel, so the induction is on the tree that was
  written, for every fuel that its text is not longer than.  Whatever follows the text is left, as
  long as it cannot go on with a number.  Inside brackets the fuel has to exceed the length of all
  entries together: each entry costs one, and the comma before the next one pays for it.

    • `Spells`                  — a text that is read as a value, whatever follows it,
    • `spells_write`            — what is written for a tree spells the tree,
    • `loads_dumps_encodable`   — through bytes and back, for a tree without surrogates,
    • `loads_of_dumps`          — and for every tree that can be written.
-/
import EventEnvelope.Codec.Basic
import EventEnvelope.Proofs.Json.Numbers
import EventEnvelope.Proofs.Json.Trees

namespace EventEnvelope

namespace Json

/-! ## §1. Texts that spell a value. -/

/-- A character that a value can begin with: ASCII, no blank, and no closing bracket. -/
def IsOpening (c : CodePoint) : Prop :=
  isBlank c = false ∧ c.toNat ≠ 0x5D ∧ c.toNat < 0x80

instance (c : CodePoint) : Decidable (IsOpening c) :=
  inferInstanceAs (Decidable (isBlank c = false ∧ c.toNat ≠ 0x5D ∧ c.toNat < 0x80))

/-- The text is read as the value, and what follows it is left. -/
structure Spells (text : Text) (v : Value) : Prop where
  opening : ∃ c tail, text = c :: tail ∧ IsOpening c
  reads : ∀ fuel rest, text.length ≤ fuel → Delimited rest →
    readValue fuel (text ++ rest) = .ok (v, rest)

theorem Spells.skipBlanks_append {text : Text} {v : Value} (h : Spells text v) (rest : Text) :
    skipBlanks (text ++ rest) = text ++ rest := by
  obtain ⟨c, tail, rfl, hblank, -, -⟩ := h.opening
  exact skipBlanks_cons hblank

/-- A separator, or a closing bracket behind blanks, does not go on with a number. -/
theorem delimited_of_toNat {c : CodePoint} {rest : Text} (h : c.toNat < 0x2D ∨ c.toNat = 0x5D
    ∨ c.toNat = 0x7D) : Delimited (c :: rest) := by
  refine delimited_cons ⟨?_, by omega, by omega, by omega⟩
  rw [CodePoint.digitValue?, if_neg (by omega)]

theorem delimited_blanks {blanks rest : Text} (hblanks : Blank blanks) (hrest : Delimited rest) :
    Delimited (blanks ++ rest) := by
  cases blanks with
  | nil => exact hrest
  | cons c blanks =>
      have hcode := toNat_of_isBlank (hblanks c List.mem_cons_self)
      exact delimited_of_toNat (by omega)

/-! ## §2. Scalars. -/

/-- A character that begins no string, object or array: a word is tried first, -/
theorem readValue_word {fuel : Nat} {c : CodePoint} {rest left : Text} {v : Value}
    (h : c.toNat ≠ 0x22 ∧ c.toNat ≠ 0x7B ∧ c.toNat ≠ 0x5B)
    (hword : readWord? (c :: rest) = some (v, left)) :
    readValue (fuel + 1) (c :: rest) = .ok (v, left) := by
  simp only [readValue, if_neg h.1, if_neg h.2.1, if_neg h.2.2, hword]

/-- and a number after that. -/
theorem readValue_number {fuel : Nat} {c : CodePoint} {rest left : Text} {number : NumberText}
    {v : Value} (h : c.toNat ≠ 0x22 ∧ c.toNat ≠ 0x7B ∧ c.toNat ≠ 0x5B)
    (hword : readWord? (c :: rest) = none) (hnumber : readNumber? (c :: rest) = some (number, left))
    (hvalue : number.value = .ok v) : readValue (fuel + 1) (c :: rest) = .ok (v, left) := by
  simp only [readValue, if_neg h.1, if_neg h.2.1, if_neg h.2.2, hword, hnumber, hvalue, ok_bind]

/-- A word that is found at the head of every text that it begins spells its value. -/
theorem spells_word {text : Text} {v : Value} {c : CodePoint} {tail : Text}
    (htext : text = c :: tail) (hopening : IsOpening c)
    (h : c.toNat ≠ 0x22 ∧ c.toNat ≠ 0x7B ∧ c.toNat ≠ 0x5B)
    (hword : ∀ rest, readWord? (text ++ rest) = some (v, rest)) : Spells text v := by
  subst htext
  refine ⟨⟨c, tail, rfl, hopening⟩, fun fuel rest hfuel _ => ?_⟩
  obtain ⟨fuel, rfl⟩ : ∃ k, fuel = k + 1 :=
    ⟨fuel - 1, by rw [List.length_cons] at hfuel; omega⟩
  exact readValue_word h (hword rest)

theorem spells_null : Spells "null" .null :=
  spells_word rfl (by decide) (by decide) fun _ => rfl

theorem spells_bool (b : Bool) : Spells (writeBool b) (.bool b) := by
  cases b with
  | false => exact spells_word rfl (by decide) (by decide) fun _ => rfl
  | true => exact spells_word rfl (by decide) (by decide) fun _ => rfl

theorem spells_text (t : Text) : Spells (writeText t) (.text t) := by
  refine ⟨⟨quoteMark, _, writeText_eq t, by decide⟩, fun fuel rest hfuel _ => ?_⟩
  rw [writeText_eq] at hfuel ⊢
  obtain ⟨fuel, rfl⟩ : ∃ k, fuel = k + 1 :=
    ⟨fuel - 1, by rw [List.length_cons] at hfuel; omega⟩
  -- the length before the opening quote only matters for faults
  have hread := readText_escapes
    (quoteMark :: (t.flatMap escape ++ [quoteMark]) ++ rest).length t rest
  simp only [List.cons_append, List.append_assoc, List.nil_append] at hread ⊢
  rw [readValue, if_pos (by rfl), hread]
  rfl

/-- No word has a digit among its first two characters. -/
theorem readWord?_of_digit {t : Text} {c : CodePoint} (hc : c ∈ t.take 2)
    (hdigit : c.digitValue? ≠ none) : readWord? t = none := by
  have hwords : ∀ word ∈ words, 2 ≤ word.1.length
      ∧ ∀ d ∈ word.1.take 2, d.digitValue? = none := by decide
  rw [readWord?, Option.map_eq_none_iff, List.find?_eq_none]
  intro word hword hpre
  obtain ⟨hlength, hnone⟩ := hwords word hword
  obtain ⟨tail, rfl⟩ := List.isPrefixOf_iff_prefix.mp hpre
  rw [List.take_append_of_le_length hlength] at hc
  exact hdigit (hnone c hc)

/-- **The text of a number spells its value.** -/
theorem spells_number {n : NumberText} (hn : n.WellFormed) {v : Value} (hvalue : n.value = .ok v) :
    Spells n.text v := by
  obtain ⟨c, tail, htext, hc, d, hd, hdigit⟩ := NumberText.text_opening hn
  refine ⟨⟨c, tail, htext, ?_, by omega, by omega⟩, fun fuel rest hfuel hrest => ?_⟩
  · simp only [isBlank, Bool.or_eq_false_iff, beq_eq_false_iff_ne]
    omega
  · obtain ⟨fuel, rfl⟩ : ∃ k, fuel = k + 1 :=
      ⟨fuel - 1, by rw [htext, List.length_cons] at hfuel; omega⟩
    have hread := readNumber?_text hn hrest
    -- the longest word with a minus sign has a letter behind it, the number a digit
    have hword : readWord? (n.text ++ rest) = none := by
      refine readWord?_of_digit (c := d) ?_ hdigit
      rw [List.take_append]
      exact List.mem_append_left _ hd
    rw [htext, List.cons_append] at hread hword ⊢
    exact readValue_number (by omega) hword hread hvalue

theorem spells_int {n : Int} (hdigits : (Text.ofNat n.natAbs).length ≤ digitLimit) :
    Spells (Text.ofInt n) (.int n) := by
  obtain ⟨digits, hlength, hvalue, hn, htext⟩ := ofInt_eq_text n
  rw [htext]
  exact spells_number hn (value_integer (by omega) hvalue)

/-- **What is written for a double spells the double.** -/
theorem spells_float (x : Binary64) : Spells (writeFloat x) (.float x) := by
  cases x with
  | nan => exact spells_word rfl (by decide) (by decide) fun _ => rfl
  | infinite negative =>
      cases negative with
      | false => exact spells_word rfl (by decide) (by decide) fun _ => rfl
      | true => exact spells_word rfl (by decide) (by decide) fun _ => rfl
  | finite negative m e h =>
      obtain ⟨n, hn, htext, hvalue⟩ := writeFloat_finite negative h
      rw [htext]
      exact spells_number hn hvalue

/-! ## §3. Lists. -/

/-- Joined entries begin as the first one does. -/
theorem joinWith_opening (separator tail : Text) (c : CodePoint) (others : List Text) :
    ∃ tail', Text.joinWith separator ((c :: tail) :: others) = c :: tail' := by
  cases others with
  | nil => exact ⟨_, rfl⟩
  | cons second others => exact ⟨_, rfl⟩

theorem skipBlanks_joinWith {separator tail rest : Text} {c : CodePoint} {others : List Text}
    (h : isBlank c = false) :
    skipBlanks (Text.joinWith separator ((c :: tail) :: others) ++ rest)
      = Text.joinWith separator ((c :: tail) :: others) ++ rest := by
  obtain ⟨tail', hjoin⟩ := joinWith_opening separator tail c others
  rw [hjoin]
  exact skipBlanks_cons h

/-- One element and what stands behind it: the closing bracket, or a comma and the elements that
follow. -/
theorem readElements_last {text closing rest : Text} {v : Value} (hv : Spells text v)
    (hclosing : Blank closing) {fuel : Nat} (hfuel : text.length ≤ fuel) :
    readElements (fuel + 1) (text ++ (closing ++ CodePoint.ofChar ']' :: rest))
      = .ok ([v], rest) := by
  have hend : Delimited (closing ++ CodePoint.ofChar ']' :: rest) :=
    delimited_blanks hclosing (delimited_of_toNat (.inr (.inl rfl)))
  have hskip : skipBlanks (closing ++ CodePoint.ofChar ']' :: rest)
      = CodePoint.ofChar ']' :: rest := by
    rw [skipBlanks_append hclosing, skipBlanks_cons (by decide)]
  rw [readElements, hv.reads fuel _ hfuel hend, ok_bind]
  simp only [hskip]
  rfl

theorem readElements_next {text gap rest left : Text} {v : Value} {values : List Value}
    (hv : Spells text v) (hgap : Blank gap) {fuel : Nat} (hfuel : text.length ≤ fuel)
    (hrest : readElements fuel (skipBlanks rest) = .ok (values, left)) :
    readElements (fuel + 1) (text ++ (CodePoint.ofChar ',' :: (gap ++ rest)))
      = .ok (v :: values, left) := by
  have hcomma : Delimited (CodePoint.ofChar ',' :: (gap ++ rest)) :=
    delimited_of_toNat (.inl (by decide))
  have hskip : skipBlanks (CodePoint.ofChar ',' :: (gap ++ rest))
      = CodePoint.ofChar ',' :: (gap ++ rest) := skipBlanks_cons (by decide)
  rw [readElements, hv.reads fuel _ hfuel hcomma, ok_bind]
  simp only [hskip]
  rw [if_neg (by decide), if_pos (by decide), skipBlanks_append hgap, hrest]
  rfl

/-- **The elements of a list**, joined with commas and followed by the closing bracket. -/
theorem readElements_joinWith {separator closing : Text} (rest : Text)
    (hseparator : IsSeparator (CodePoint.ofChar ',') separator) (hclosing : Blank closing)
    {items : List Value} {entries : List Text}
    (h : List.Forall₂ (fun v text => Spells text v) items entries) (hne : entries ≠ [])
    {fuel : Nat} (hfuel : (Text.joinWith separator entries).length < fuel) :
    readElements fuel (Text.joinWith separator entries
        ++ (closing ++ CodePoint.ofChar ']' :: rest)) = .ok (items, rest) := by
  obtain ⟨gap, rfl, hgap⟩ := hseparator
  -- the induction is on the entries, for every fuel that exceeds their joined length
  induction h generalizing fuel with
  | nil => exact absurd rfl hne
  | @cons v text items entries hv htail ih =>
      obtain ⟨fuel, rfl⟩ : ∃ k, fuel = k + 1 := ⟨fuel - 1, by omega⟩
      cases htail with
      | nil => exact readElements_last hv hclosing (Nat.lt_succ_iff.mp hfuel)
      | @cons w second items others hw htail =>
          -- the comma pays for the fuel that the first element costs
          rw [Text.joinWith, List.length_append, List.length_append, List.length_cons] at hfuel
          have htail : (Text.joinWith (CodePoint.ofChar ',' :: gap) (second :: others)).length
              < fuel := by omega
          have hrest := ih (by simp) htail
          rw [Text.joinWith, List.append_assoc, List.append_assoc, List.cons_append]
          refine readElements_next hv hgap (by omega) ?_
          obtain ⟨c, tail, rfl, hblank, -⟩ := hw.opening
          rw [skipBlanks_joinWith hblank]
          exact hrest

/-! ## §4. Objects. -/

/-- The text is a member of an object: a key, a colon and a text that spells the value. -/
def SpellsMember (field : Value × Value) (entry : Text) : Prop :=
  ∃ key colon text, field.1 = .text key ∧ IsSeparator (CodePoint.ofChar ':') colon
    ∧ Spells text field.2 ∧ entry = writeText key ++ (colon ++ text)

/-- How reading goes on behind a member: up to the closing brace, or with the next member. -/
def afterMember (fuel : Nat) (field : Value × Value) (rest : Text) : Except Stop (Fields × Text) :=
  match skipBlanks rest with
  | [] => .error (.here .commaExpected 0)
  | e :: left =>
      if e.toNat = 0x7D then .ok ([field], left)
      else if e.toNat = 0x2C then do
        let (members, left) ← readMembers fuel (skipBlanks left)
        .ok (field :: members, left)
      else .error (.here .commaExpected (e :: left).length)

/-- A member is read up to its end. -/
theorem readMembers_member {field : Value × Value} {entry rest : Text}
    (h : SpellsMember field entry) (hrest : Delimited rest) {fuel : Nat}
    (hfuel : entry.length ≤ fuel) :
    readMembers (fuel + 1) (entry ++ rest) = afterMember fuel field rest := by
  obtain ⟨k, v⟩ := field
  obtain ⟨key, colon, text, hkey, ⟨gap, rfl, hgap⟩, hv, rfl⟩ := h
  have hkey' : k = .text key := hkey
  subst hkey'
  -- the key up to its closing quote, the colon behind it, and the value behind that
  have hlength : text.length ≤ fuel := by
    simp only [List.length_append, List.length_cons] at hfuel
    omega
  have hread := readText_escapes (writeText key ++ (CodePoint.ofChar ':' :: gap ++ text)
    ++ rest).length key (CodePoint.ofChar ':' :: (gap ++ (text ++ rest)))
  have hskip : skipBlanks (CodePoint.ofChar ':' :: (gap ++ (text ++ rest)))
      = CodePoint.ofChar ':' :: (gap ++ (text ++ rest)) := skipBlanks_cons (by decide)
  have hvalue := hv.reads fuel rest hlength hrest
  rw [writeText_eq] at hread ⊢
  simp only [List.cons_append, List.append_assoc, List.nil_append] at hread ⊢
  rw [readMembers, if_pos (by rfl), hread, ok_bind]
  simp only [hskip]
  rw [if_pos (by decide), skipBlanks_append hgap, hv.skipBlanks_append, hvalue, ok_bind]
  rfl

theorem afterMember_last {field : Value × Value} {closing rest : Text} (hclosing : Blank closing)
    (fuel : Nat) :
    afterMember fuel field (closing ++ CodePoint.ofChar '}' :: rest) = .ok ([field], rest) := by
  have hskip : skipBlanks (closing ++ CodePoint.ofChar '}' :: rest)
      = CodePoint.ofChar '}' :: rest := by
    rw [skipBlanks_append hclosing, skipBlanks_cons (by decide)]
  unfold afterMember
  simp only [hskip]
  exact if_pos (by decide)

theorem afterMember_next {field : Value × Value} {members : Fields} {gap rest left : Text}
    (hgap : Blank gap) {fuel : Nat}
    (hrest : readMembers fuel (skipBlanks rest) = .ok (members, left)) :
    afterMember fuel field (CodePoint.ofChar ',' :: (gap ++ rest))
      = .ok (field :: members, left) := by
  have hskip : skipBlanks (CodePoint.ofChar ',' :: (gap ++ rest))
      = CodePoint.ofChar ',' :: (gap ++ rest) := skipBlanks_cons (by decide)
  unfold afterMember
  simp only [hskip]
  rw [if_neg (by decide), if_pos (by decide), skipBlanks_append hgap, hrest]
  rfl

/-- **The members of an object**, joined with commas and followed by the closing brace. -/
theorem readMembers_joinWith {separator closing : Text} (rest : Text)
    (hseparator : IsSeparator (CodePoint.ofChar ',') separator) (hclosing : Blank closing)
    {fields : Fields} {entries : List Text} (h : List.Forall₂ SpellsMember fields entries)
    (hne : entries ≠ []) {fuel : Nat}
    (hfuel : (Text.joinWith separator entries).length < fuel) :
    readMembers fuel (Text.joinWith separator entries
        ++ (closing ++ CodePoint.ofChar '}' :: rest)) = .ok (fields, rest) := by
  obtain ⟨gap, rfl, hgap⟩ := hseparator
  induction h generalizing fuel with
  | nil => exact absurd rfl hne
  | @cons field entry fields entries hfield htail ih =>
      obtain ⟨fuel, rfl⟩ : ∃ k, fuel = k + 1 := ⟨fuel - 1, by omega⟩
      cases htail with
      | nil =>
          have hend : Delimited (closing ++ CodePoint.ofChar '}' :: rest) :=
            delimited_blanks hclosing (delimited_of_toNat (.inr (.inr rfl)))
          rw [Text.joinWith, readMembers_member hfield hend (Nat.lt_succ_iff.mp hfuel)]
          exact afterMember_last hclosing fuel
      | @cons next second fields others hnext htail =>
          -- the comma pays for the fuel that the first member costs
          rw [Text.joinWith, List.length_append, List.length_append, List.length_cons] at hfuel
          have htail : (Text.joinWith (CodePoint.ofChar ',' :: gap) (second :: others)).length
              < fuel := by omega
          have hrest := ih (by simp) htail
          have hcomma : ∀ t, Delimited (CodePoint.ofChar ',' :: t) := fun t =>
            delimited_of_toNat (.inl (by decide))
          rw [Text.joinWith, List.append_assoc, List.append_assoc, List.cons_append,
            readMembers_member hfield (hcomma _) (by omega)]
          refine afterMember_next hgap ?_
          obtain ⟨key, colon, text, -, -, -, rfl⟩ := hnext
          rw [writeText_eq, List.cons_append] at hrest ⊢
          rw [skipBlanks_joinWith (by decide)]
          exact hrest

/-! ## §5. Trees. -/

/-- An opening bracket, with anything but its closing one behind it. -/
theorem readValue_list {fuel : Nat} {blanks left : Text} {d : CodePoint} (hblanks : Blank blanks)
    (hd : IsOpening d) :
    readValue (fuel + 1) (CodePoint.ofChar '[' :: (blanks ++ d :: left))
      = (readElements fuel (d :: left) >>= fun (items, left) => .ok (.list items, left)) := by
  have hskip : skipBlanks (blanks ++ d :: left) = d :: left := by
    rw [skipBlanks_append hblanks, skipBlanks_cons hd.1]
  rw [readValue, if_neg (by decide), if_neg (by decide), if_pos (by decide), hskip]
  show (if d.toNat = 0x5D then _ else _) = _
  rw [if_neg hd.2.1]

/-- An opening brace, with a key behind it. -/
theorem readValue_object {fuel : Nat} {blanks left : Text} (hblanks : Blank blanks) :
    readValue (fuel + 1) (CodePoint.ofChar '{' :: (blanks ++ quoteMark :: left))
      = (readMembers fuel (quoteMark :: left) >>= fun (members, left) =>
          .ok (.object (OrderedMap.ofEntries members), left)) := by
  have hskip : skipBlanks (blanks ++ quoteMark :: left) = quoteMark :: left := by
    rw [skipBlanks_append hblanks, skipBlanks_cons (by decide)]
  rw [readValue, if_neg (by decide), if_pos (by decide), hskip]
  rfl

/-- Brackets leave fuel enough for what is between them. -/
theorem exists_fuel_enclose {style : Style} {level fuel : Nat} {b d : CodePoint} {first : Text}
    {others : List Text}
    (h : (style.enclose level [b] [d] (first :: others)).length ≤ fuel) :
    ∃ k, fuel = k + 1 ∧ (Text.joinWith (style.comma ++ style.lineBreak (level + 1))
      (first :: others)).length < k := by
  rw [Style.enclose_cons] at h
  simp only [List.length_append, List.length_cons, List.length_nil] at h
  exact ⟨fuel - 1, by omega, by omega⟩

theorem spells_list {style : Style} (hstyle : style.IsLayout) (level : Nat) {items : List Value}
    {entries : List Text} (h : List.Forall₂ (fun v text => Spells text v) items entries) :
    Spells (style.enclose level "[" "]" entries) (.list items) := by
  cases h with
  | nil =>
      refine ⟨⟨_, _, rfl, by decide⟩, fun fuel rest hfuel _ => ?_⟩
      obtain ⟨fuel, rfl⟩ : ∃ k, fuel = k + 1 := ⟨fuel - 1, by have : 2 ≤ fuel := hfuel; omega⟩
      have hskip : skipBlanks (CodePoint.ofChar ']' :: rest) = CodePoint.ofChar ']' :: rest :=
        skipBlanks_cons (by decide)
      show readValue (fuel + 1) (CodePoint.ofChar '[' :: CodePoint.ofChar ']' :: rest) = _
      rw [readValue, if_neg (by decide), if_neg (by decide), if_pos (by decide), hskip]
      rfl
  | @cons v first items others hv htail =>
      refine ⟨⟨CodePoint.ofChar '[', _, rfl, by decide⟩, fun fuel rest hfuel _ => ?_⟩
      obtain ⟨fuel, rfl, hjoined⟩ := exists_fuel_enclose hfuel
      -- the elements are read with the fuel that the bracket leaves
      have hread := readElements_joinWith rest
        (hstyle.comma.append (style.blank_lineBreak (level + 1))) (style.blank_lineBreak level)
        (.cons hv htail) (by simp) hjoined
      obtain ⟨c, tail, rfl, hopening⟩ := hv.opening
      obtain ⟨tail', hjoin⟩ := joinWith_opening (style.comma ++ style.lineBreak (level + 1)) tail c
        others
      rw [hjoin] at hread
      rw [Style.enclose_cons, hjoin, List.append_assoc, List.append_assoc, List.append_assoc,
        List.append_assoc]
      show readValue (fuel + 1) (CodePoint.ofChar '[' :: (style.lineBreak (level + 1)
        ++ c :: (tail' ++ (style.lineBreak level ++ CodePoint.ofChar ']' :: rest)))) = _
      rw [readValue_list (style.blank_lineBreak _) hopening, ← List.cons_append, hread]
      rfl

theorem spells_object {style : Style} (hstyle : style.IsLayout) (level : Nat) {fields : Fields}
    (hdistinct : fields.Distinct) {entries : List Text}
    (h : List.Forall₂ SpellsMember fields entries) :
    Spells (style.enclose level "\x7b" "\x7d" entries) (.object fields) := by
  cases h with
  | nil =>
      refine ⟨⟨_, _, rfl, by decide⟩, fun fuel rest hfuel _ => ?_⟩
      obtain ⟨fuel, rfl⟩ : ∃ k, fuel = k + 1 := ⟨fuel - 1, by have : 2 ≤ fuel := hfuel; omega⟩
      have hskip : skipBlanks (CodePoint.ofChar '}' :: rest) = CodePoint.ofChar '}' :: rest :=
        skipBlanks_cons (by decide)
      show readValue (fuel + 1) (CodePoint.ofChar '{' :: CodePoint.ofChar '}' :: rest) = _
      rw [readValue, if_neg (by decide), if_pos (by decide), hskip]
      rfl
  | @cons field first fields others hfield htail =>
      refine ⟨⟨CodePoint.ofChar '{', _, rfl, by decide⟩, fun fuel rest hfuel _ => ?_⟩
      obtain ⟨fuel, rfl, hjoined⟩ := exists_fuel_enclose hfuel
      -- the members are a map already, so no value replaces an earlier one
      have hread := readMembers_joinWith rest
        (hstyle.comma.append (style.blank_lineBreak (level + 1))) (style.blank_lineBreak level)
        (.cons hfield htail) (by simp) hjoined
      obtain ⟨key, colon, text, -, -, -, rfl⟩ := hfield
      obtain ⟨tail', hjoin⟩ := joinWith_opening (style.comma ++ style.lineBreak (level + 1))
        (key.flatMap escape ++ [quoteMark] ++ (colon ++ text)) quoteMark others
      rw [writeText_eq, List.cons_append, hjoin] at hread
      rw [Style.enclose_cons, writeText_eq, List.cons_append, hjoin, List.append_assoc,
        List.append_assoc, List.append_assoc, List.append_assoc]
      show readValue (fuel + 1) (CodePoint.ofChar '{' :: (style.lineBreak (level + 1)
        ++ quoteMark :: (tail' ++ (style.lineBreak level ++ CodePoint.ofChar '}' :: rest)))) = _
      rw [readValue_object (style.blank_lineBreak _), ← List.cons_append, hread, ok_bind]
      simp only [OrderedMap.ofEntries_of_distinct hdistinct]

/-- **What is written for a tree spells the tree**, in every style. -/
theorem spells_write {style : Style} (hstyle : style.IsLayout) {texts : Text → Prop} {v : Value}
    (hv : TreeOf texts v) {level : Nat} {text : Text}
    (h : write style level v = .ok text) : Spells text v := by
  induction hv generalizing level text with
  | null =>
      cases h
      exact spells_null
  | bool b =>
      cases h
      exact spells_bool b
  | int n hdigits =>
      rw [write, writeInt_eq_ok hdigits] at h
      cases h
      exact spells_int hdigits
  | float x _ =>
      cases h
      exact spells_float x
  | text t _ =>
      cases h
      exact spells_text t
  | list items _ ih =>
      obtain ⟨entries, hentries, rfl⟩ := write_list_eq_ok.mp h
      exact spells_list hstyle level
        (forall₂_imp_mem hentries fun v hv text hwrite => ih v hv hwrite)
  | object fields hdistinct hkeys _ ih =>
      obtain ⟨entries, hentries, rfl⟩ := write_object_eq_ok.mp h
      refine spells_object hstyle level hdistinct
        (forall₂_imp_mem hentries fun field hfield entry hwrites => ?_)
      -- the key of a tree is a text, which is written as it is
      obtain ⟨key, value, hkey, hvalue, rfl⟩ := hwrites
      obtain ⟨t, htext, -⟩ := hkeys field hfield
      rw [htext, keyText_text] at hkey
      cases hkey
      exact ⟨_, style.colon, value, htext, hstyle.colon, ih field hfield hvalue,
        List.append_assoc _ _ _⟩

/-! ## §6. Documents. -/

/-- A text that spells a value is a document of that value, and so it is with blanks behind it. -/
theorem readWhole_append_blanks {text blanks : Text} {v : Value} (h : Spells text v)
    (hblanks : Blank blanks) : readWhole (text ++ blanks) = .ok v := by
  have hend : Delimited blanks := by
    have := delimited_blanks hblanks delimited_nil
    rwa [List.append_nil] at this
  have hleft : skipBlanks blanks = [] := by
    have := skipBlanks_append (t := []) hblanks
    rwa [List.append_nil] at this
  have hread := h.reads (2 * (text ++ blanks).length + 1) blanks
    (by rw [List.length_append]; omega) hend
  rw [readWhole, h.skipBlanks_append, hread, ok_bind]
  simp only [hleft]
  rfl

theorem readWhole_of_spells {text : Text} {v : Value} (h : Spells text v) :
    readWhole text = .ok v := by
  have hblanks : Blank [] := by decide
  have hread := readWhole_append_blanks h hblanks
  rwa [List.append_nil] at hread

end Json

/-- Bytes without a zero that begin in ASCII announce no encoding, so they are UTF-8. -/
theorem TextEncoding.detect_of_ascii {b : UInt8} {rest : Bytes} (hascii : b.toNat < 0x80)
    (hzero : (0 : UInt8) ∉ b :: rest) : TextEncoding.detect (b :: rest) = .utf8 false := by
  have hb : ∀ mark : UInt8, mark = 0 ∨ 0x80 ≤ mark.toNat → (mark == b) = false := by
    intro mark hmark
    rw [beq_eq_false_iff_ne]
    rintro rfl
    rcases hmark with rfl | hmark
    · exact hzero List.mem_cons_self
    · omega
  -- no byte order mark
  rw [detect]
  simp only [List.isPrefixOf, hb 0 (.inl rfl), hb 0xFF (.inr (by decide)),
    hb 0xFE (.inr (by decide)), hb 0xEF (.inr (by decide)), Bool.false_and, Bool.false_eq_true,
    if_false]
  -- and no zero byte
  unfold ofZeroBytes
  split
  next a c d e rest heq =>
    cases heq
    have ha : b ≠ 0 := fun h => hzero (by simp [h])
    have hc : c ≠ 0 := fun h => hzero (by simp [h])
    rw [if_neg ha, if_neg hc]
  next a c heq =>
    cases heq
    have ha : b ≠ 0 := fun h => hzero (by simp [h])
    have hc : c ≠ 0 := fun h => hzero (by simp [h])
    rw [if_neg ha, if_neg hc]
  next => rfl

namespace Json

/-- The UTF-8 form of a transmissible text that spells a value is read as the value. -/
theorem readBytes_of_spells {text : Text} {v : Value} (h : Spells text v)
    (htext : ∀ c ∈ text, c.Transmissible) :
    readBytes (text.flatMap Utf8.bytesOf) = .ok v := by
  have hsurrogate : text.hasSurrogate = false :=
    Text.hasSurrogate_eq_false.mpr fun c hc => (htext c hc).2
  -- a document begins in ASCII and holds no null character, so it announces nothing but UTF-8
  have hdetect : TextEncoding.detect (text.flatMap Utf8.bytesOf) = .utf8 false := by
    obtain ⟨c, tail, rfl, -, -, hascii⟩ := h.opening
    have hzero : (0 : UInt8) ∉ (c :: tail).flatMap Utf8.bytesOf := by
      intro hmem
      obtain ⟨d, hd, hbyte⟩ := List.mem_flatMap.mp hmem
      exact Utf8.zero_notMem_bytesOf (htext d hd).1 hbyte
    rw [List.flatMap_cons, Utf8.bytesOf_one hascii] at hzero ⊢
    exact TextEncoding.detect_of_ascii (by rw [Utf8.toNat_byte (by omega)]; exact hascii) hzero
  have hdecode : (TextEncoding.utf8 false).decode (text.flatMap Utf8.bytesOf) = .ok text :=
    Utf8.decodeFrom_flatMap _ hsurrogate 0
  rw [readBytes, hdetect, hdecode]
  show readPlaced text = _
  rw [readPlaced, readWhole_of_spells h]

/-- A tree without surrogates has a compact text, and the UTF-8 form of that text. -/
theorem encode_encodable {v : Value} (hv : Encodable v) :
    ∃ text, write .compact 0 v = .ok text ∧ (∀ c ∈ text, c.Transmissible)
      ∧ encode v = .ok (text.flatMap Utf8.bytesOf) := by
  obtain ⟨text, hwrite⟩ := write_tree .compact hv 0
  have htext := transmissible_write Style.compact_isLayout hv hwrite
  have hsurrogate : text.hasSurrogate = false :=
    Text.hasSurrogate_eq_false.mpr fun c hc => (htext c hc).2
  refine ⟨text, hwrite, htext, ?_⟩
  rw [encode, hwrite, ok_bind, Utf8.encode_of_noSurrogate hsurrogate]

/-- From that form it is read. -/
theorem read_encode {v : Value} (hv : Encodable v) :
    ∃ bytes, encode v = .ok bytes ∧ read (.bytes bytes) = .ok v := by
  obtain ⟨text, hwrite, htext, hencode⟩ := encode_encodable hv
  exact ⟨_, hencode, readBytes_of_spells (spells_write Style.compact_isLayout hv hwrite) htext⟩

/-- What a document is the UTF-8 form of. -/
theorem encode_eq_ok {v : Value} {bytes : Bytes} :
    encode v = .ok bytes
      ↔ ∃ text, write .compact 0 v = .ok text ∧ Utf8.encode text = .ok bytes := by
  rw [encode, bind_eq_ok]
  constructor
  · rintro ⟨text, hwrite, h⟩
    split at h
    next hencode =>
      cases h
      exact ⟨text, hwrite, hencode⟩
    next => cases h
  · rintro ⟨text, hwrite, hencode⟩
    exact ⟨text, hwrite, by rw [hencode]⟩

/-- A tree that has a UTF-8 form holds no surrogate. -/
theorem encodable_of_encode {v : Value} (hv : Readable v) {bytes : Bytes}
    (h : encode v = .ok bytes) : Encodable v := by
  obtain ⟨text, hwrite, hencode⟩ := encode_eq_ok.mp h
  exact encodable_of_write hv hwrite (Utf8.encode_eq_ok_iff.mp hencode).1

end Json

namespace Codec

/-- The codec takes the text itself as well as its bytes. -/
theorem loads_text_of_spells {text blanks : Text} {v : Value} (h : Json.Spells text v)
    (hblanks : Json.Blank blanks) : Codec.loads (.text (text ++ blanks)) = .ok v := by
  -- a document begins in ASCII, so with no byte order mark
  have hmark : (text ++ blanks).head?.map CodePoint.toNat ≠ some 0xFEFF := by
    obtain ⟨c, tail, rfl, -, -, hascii⟩ := h.opening
    simp only [List.cons_append, List.head?_cons, Option.map_some, ne_eq, Option.some.injEq]
    omega
  refine loads_eq_ok.mpr ?_
  rw [Json.read, if_neg hmark, Json.readPlaced, Json.readWhole_append_blanks h hblanks]

/-- **Reading undoes writing**: every tree without surrogates can be written, and what is written is
read as the same tree, with the same order of keys. -/
theorem loads_dumps_encodable {v : Value} (hv : Json.Encodable v) :
    ∃ bytes, Codec.dumps v = .ok bytes ∧ Codec.loads (.bytes bytes) = .ok v := by
  obtain ⟨bytes, hencode, hread⟩ := Json.read_encode hv
  refine ⟨bytes, ?_, ?_⟩
  · rw [dumps, hencode]
  · rw [loads, hread]

theorem loads_dumps {v : Value} (hv : Json.Exact v) :
    ∃ bytes, Codec.dumps v = .ok bytes ∧ Codec.loads (.bytes bytes) = .ok v :=
  loads_dumps_encodable hv.encodable

/-- **What can be written is read back**: a tree that was read, if it can be written at all, is read
from what is written. -/
theorem loads_of_dumps {v : Value} (hv : Json.Readable v) {bytes : Bytes}
    (h : Codec.dumps v = .ok bytes) : Codec.loads (.bytes bytes) = .ok v := by
  obtain ⟨bytes', hdumps, hloads⟩ :=
    loads_dumps_encodable (Json.encodable_of_encode hv (dumps_eq_ok.mp h))
  rw [h] at hdumps
  cases hdumps
  exact hloads

/-- The text of what is written is read back as well. -/
theorem loads_text_of_dumps {v : Value} (hv : Json.Readable v) {bytes : Bytes}
    (h : Codec.dumps v = .ok bytes) :
    Codec.loads (.text (Utf8.decodeReplacing bytes)) = .ok v := by
  obtain ⟨text, hwrite, hencode⟩ := Json.encode_eq_ok.mp (dumps_eq_ok.mp h)
  obtain ⟨hclean, rfl⟩ := Utf8.encode_eq_ok_iff.mp hencode
  have hspells := Json.spells_write Json.Style.compact_isLayout hv hwrite
  have hblanks : Json.Blank [] := by decide
  have hloads := loads_text_of_spells hspells hblanks
  rwa [List.append_nil, ← Utf8.decodeReplacing_flatMap hclean] at hloads

end Codec

end EventEnvelope
