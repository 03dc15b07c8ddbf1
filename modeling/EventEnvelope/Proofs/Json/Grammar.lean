/-
  EventEnvelope.Proofs.Json.Grammar
  ─────────────────────────────────
  **The grammar of RFC 8259, and what it leaves out.**

  The rules of the grammar are written down one by one, with no regard to the reader, which takes
  three numbers more.  Those are written by name, and a name stands outside all strings.  So a text
  is looked at without its strings: a scan knows of every character whether it is in a string, and
  in a text that the grammar yields no name begins outside one.

    • `Derives`, `IsDocument`   — the grammar,
    • `Mode.next`, `bare`       — the scan, and the characters outside strings,
    • `Settled`                 — a text after which the scan is outside strings again,
    • `not_isDocument_of_named` — a name outside strings is no part of a document.
-/
import EventEnvelope.Proofs.Json.Layout
import EventEnvelope.Proofs.Json.Strings

namespace EventEnvelope

namespace Json

/-! ## §1. Numbers. -/

/-- One of the ten digits. -/
def IsDigit (c : CodePoint) : Prop := 0x30 ≤ c.toNat ∧ c.toNat ≤ 0x39

instance (c : CodePoint) : Decidable (IsDigit c) := inferInstanceAs (Decidable (_ ∧ _))

/-- One digit or more. -/
structure IsDigits (t : Text) : Prop where
  nonempty : t ≠ []
  digits : ∀ c ∈ t, IsDigit c

/-- A zero, or digits that do not begin with one. -/
inductive IsWhole : Text → Prop
  | zero : IsWhole [CodePoint.ofChar '0']
  | digits (c : CodePoint) (rest : Text) (hc : 0x31 ≤ c.toNat ∧ c.toNat ≤ 0x39)
      (hrest : ∀ d ∈ rest, IsDigit d) : IsWhole (c :: rest)

/-- Nothing, or a point and digits. -/
inductive IsFraction : Text → Prop
  | none : IsFraction []
  | point (digits : Text) (hdigits : IsDigits digits) : IsFraction (CodePoint.ofChar '.' :: digits)

/-- Nothing, or a mark, perhaps a sign, and digits. -/
inductive IsExponent : Text → Prop
  | none : IsExponent []
  | mark (mark : CodePoint) (sign digits : Text)
      (hmark : mark = CodePoint.ofChar 'e' ∨ mark = CodePoint.ofChar 'E')
      (hsign : sign = [] ∨ sign = [CodePoint.ofChar '+'] ∨ sign = [CodePoint.ofChar '-'])
      (hdigits : IsDigits digits) : IsExponent (mark :: (sign ++ digits))

/-- A number. -/
inductive IsNumber : Text → Prop
  | parts (sign whole fraction exponent : Text) (hsign : sign = [] ∨ sign = [CodePoint.ofChar '-'])
      (hwhole : IsWhole whole) (hfraction : IsFraction fraction) (hexponent : IsExponent exponent) :
      IsNumber (sign ++ (whole ++ (fraction ++ exponent)))

/-! ## §2. Strings. -/

/-- The characters of a string, some of them escaped. -/
inductive Chars : Text → Prop
  | nil : Chars []
  | unescaped (c : CodePoint) (rest : Text) (hcontrol : 0x20 ≤ c.toNat) (hquote : c ≠ quoteMark)
      (hmark : c ≠ escapeMark) (hrest : Chars rest) : Chars (c :: rest)
  | letter (e : CodePoint) (rest : Text) (he : e ∈ Text.ofString "\"\\/bfnrt")
      (hrest : Chars rest) : Chars (escapeMark :: e :: rest)
  | unit (digits rest : Text) (hlength : digits.length = 4)
      (hdigits : ∀ d ∈ digits, d.hexValue? ≠ none) (hrest : Chars rest) :
      Chars (escapeMark :: CodePoint.ofChar 'u' :: (digits ++ rest))

/-- A string. -/
inductive IsString : Text → Prop
  | quoted (chars : Text) (hchars : Chars chars) : IsString (quoteMark :: (chars ++ [quoteMark]))

/-! ## §3. Values. -/

/-- A mark between values, with blanks around it. -/
inductive Structural (mark : CodePoint) : Text → Prop
  | token (before after : Text) (hbefore : Blank before) (hafter : Blank after) :
      Structural mark (before ++ mark :: after)

theorem structural_mark (mark : CodePoint) : Structural mark [mark] :=
  .token [] [] (by decide) (by decide)

/-- What the rules speak about. -/
inductive Symbol
  | value
  /-- A key and a value. -/
  | member
  /-- One entry or more, parted by commas. -/
  | list (entry : Symbol)

/-- The texts that the grammar yields. -/
inductive Derives : Symbol → Text → Prop
  | null : Derives .value "null"
  | true : Derives .value "true"
  | false : Derives .value "false"
  | number (t : Text) (ht : IsNumber t) : Derives .value t
  | string (t : Text) (ht : IsString t) : Derives .value t
  | emptyArray (opening closing : Text) (hopening : Structural (CodePoint.ofChar '[') opening)
      (hclosing : Structural (CodePoint.ofChar ']') closing) : Derives .value (opening ++ closing)
  | array (opening entries closing : Text) (hopening : Structural (CodePoint.ofChar '[') opening)
      (hentries : Derives (.list .value) entries)
      (hclosing : Structural (CodePoint.ofChar ']') closing) :
      Derives .value (opening ++ (entries ++ closing))
  | emptyObject (opening closing : Text) (hopening : Structural (CodePoint.ofChar '\x7b') opening)
      (hclosing : Structural (CodePoint.ofChar '\x7d') closing) :
      Derives .value (opening ++ closing)
  | object (opening entries closing : Text)
      (hopening : Structural (CodePoint.ofChar '\x7b') opening)
      (hentries : Derives (.list .member) entries)
      (hclosing : Structural (CodePoint.ofChar '\x7d') closing) :
      Derives .value (opening ++ (entries ++ closing))
  | member (key colon value : Text) (hkey : IsString key)
      (hcolon : Structural (CodePoint.ofChar ':') colon) (hvalue : Derives .value value) :
      Derives .member (key ++ (colon ++ value))
  | one (entry : Symbol) (t : Text) (ht : Derives entry t) : Derives (.list entry) t
  | more (entry : Symbol) (first comma others : Text) (hfirst : Derives entry first)
      (hcomma : Structural (CodePoint.ofChar ',') comma) (hothers : Derives (.list entry) others) :
      Derives (.list entry) (first ++ (comma ++ others))

/-- A document: a value with blanks around it. -/
inductive IsDocument : Text → Prop
  | surrounded (before value after : Text) (hbefore : Blank before) (hvalue : Derives .value value)
      (hafter : Blank after) : IsDocument (before ++ (value ++ after))

theorem IsDocument.of_value {t : Text} (h : Derives .value t) : IsDocument t := by
  have hdocument := IsDocument.surrounded [] t [] (by decide) h (by decide)
  rwa [List.append_nil] at hdocument

/-! ## §4. Inside and outside of strings. -/

/-- Where a character stands. -/
inductive Mode
  | outside
  | inside
  /-- In a string, behind a backslash. -/
  | escaped
deriving DecidableEq

/-- Where the character after this one stands. -/
def Mode.next : Mode → CodePoint → Mode
  | outside, c => if c = quoteMark then inside else outside
  | inside, c => if c = quoteMark then outside else if c = escapeMark then escaped else inside
  | escaped, _ => inside

/-- Where the character after a text stands. -/
def scan (m : Mode) (t : Text) : Mode := t.foldl Mode.next m

/-- The characters that stand outside strings, the quotes that open one among them. -/
def bareFrom : Mode → Text → Text
  | _, [] => []
  | .outside, c :: rest => c :: bareFrom (Mode.outside.next c) rest
  | .inside, c :: rest => bareFrom (Mode.inside.next c) rest
  | .escaped, _ :: rest => bareFrom .inside rest

/-- The characters of a whole text outside its strings. -/
def bare (t : Text) : Text := bareFrom .outside t

theorem scan_append (m : Mode) (s t : Text) : scan m (s ++ t) = scan (scan m s) t :=
  List.foldl_append

theorem bareFrom_append (m : Mode) (s t : Text) :
    bareFrom m (s ++ t) = bareFrom m s ++ bareFrom (scan m s) t := by
  induction s generalizing m with
  | nil => cases m <;> rfl
  | cons c rest ih =>
      show bareFrom m (c :: (rest ++ t)) = _
      cases m with
      | outside => simp only [bareFrom, ih, List.cons_append]; rfl
      | inside => simp only [bareFrom, ih]; rfl
      | escaped => simp only [bareFrom, ih]; rfl

/-- After the text the scan is outside strings again, and the characters outside meet a
condition. -/
structure Settled (p : CodePoint → Prop) (t : Text) : Prop where
  closed : scan .outside t = .outside
  bare : ∀ c ∈ bare t, p c

variable {p : CodePoint → Prop}

/-- **Settled texts in sequence are settled.** -/
theorem Settled.append {s t : Text} (hs : Settled p s) (ht : Settled p t) : Settled p (s ++ t) := by
  constructor
  · rw [scan_append, hs.closed, ht.closed]
  · intro c hc
    rw [Json.bare, bareFrom_append, hs.closed] at hc
    rcases List.mem_append.mp hc with hc | hc
    · exact hs.bare c hc
    · exact ht.bare c hc

/-- Without quotes everything is outside. -/
theorem scan_of_noQuote {t : Text} (h : ∀ c ∈ t, c ≠ quoteMark) :
    scan .outside t = .outside ∧ bare t = t := by
  induction t with
  | nil => exact ⟨rfl, rfl⟩
  | cons c rest ih =>
      obtain ⟨hc, hrest⟩ := List.forall_mem_cons.mp h
      obtain ⟨hscan, hbare⟩ := ih hrest
      have hnext : Mode.outside.next c = .outside := if_neg hc
      constructor
      · show scan (Mode.outside.next c) rest = _
        rw [hnext, hscan]
      · show c :: bareFrom (Mode.outside.next c) rest = _
        rw [hnext]
        exact congrArg (c :: ·) hbare

theorem settled_of_noQuote {t : Text} (hquote : ∀ c ∈ t, c ≠ quoteMark) (hp : ∀ c ∈ t, p c) :
    Settled p t := by
  obtain ⟨hscan, hbare⟩ := scan_of_noQuote hquote
  exact ⟨hscan, by rwa [hbare]⟩

/-- The digits of an escape keep the scan where it is. -/
theorem scan_hexDigits {digits : Text} (h : ∀ d ∈ digits, d.hexValue? ≠ none) :
    scan .inside digits = .inside ∧ bareFrom .inside digits = [] := by
  have hquote : quoteMark.hexValue? = none := by decide
  have hmark : escapeMark.hexValue? = none := by decide
  induction digits with
  | nil => exact ⟨rfl, rfl⟩
  | cons d rest ih =>
      obtain ⟨hd, hrest⟩ := List.forall_mem_cons.mp h
      have hnext : Mode.inside.next d = .inside := by
        rw [Mode.next, if_neg, if_neg]
        · rintro rfl
          exact hd hmark
        · rintro rfl
          exact hd hquote
      obtain ⟨hscan, hbare⟩ := ih hrest
      constructor
      · show scan (Mode.inside.next d) rest = _
        rw [hnext, hscan]
      · show bareFrom (Mode.inside.next d) rest = _
        rw [hnext, hbare]

/-- **A string's characters stay inside**, escaped quotes among them. -/
theorem scan_chars {t : Text} (h : Chars t) :
    scan .inside t = .inside ∧ bareFrom .inside t = [] := by
  induction h with
  | nil => exact ⟨rfl, rfl⟩
  | unescaped c rest hcontrol hquote hmark _ ih =>
      have hnext : Mode.inside.next c = .inside := by
        rw [Mode.next, if_neg hquote, if_neg hmark]
      constructor
      · show scan (Mode.inside.next c) rest = _
        rw [hnext, ih.1]
      · show bareFrom (Mode.inside.next c) rest = _
        rw [hnext, ih.2]
  | letter e rest he _ ih => exact ih
  | unit digits rest _ hdigits _ ih =>
      obtain ⟨hscan, hbare⟩ := scan_hexDigits hdigits
      constructor
      · show scan .inside (digits ++ rest) = _
        rw [scan_append, hscan, ih.1]
      · show bareFrom .inside (digits ++ rest) = _
        rw [bareFrom_append, hscan, hbare, ih.2]
        rfl

theorem settled_string {t : Text} (h : IsString t) (hp : p quoteMark) : Settled p t := by
  obtain ⟨chars, hchars⟩ := h
  obtain ⟨hscan, hbare⟩ := scan_chars hchars
  constructor
  · show scan .inside (chars ++ [quoteMark]) = _
    rw [scan_append, hscan]
    rfl
  · intro c hc
    have hone : bare (quoteMark :: (chars ++ [quoteMark])) = [quoteMark] := by
      show quoteMark :: bareFrom .inside (chars ++ [quoteMark]) = _
      rw [bareFrom_append, hscan, hbare]
      rfl
    rw [hone] at hc
    rw [List.mem_singleton.mp hc]
    exact hp

/-! ## §5. What a number is made of. -/

/-- A digit, a sign, a point or the mark of an exponent. -/
def IsNumeral (c : CodePoint) : Prop := IsDigit c ∨ c ∈ Text.ofString "+-.eE"

theorem isNumeral_number {t : Text} (h : IsNumber t) : ∀ c ∈ t, IsNumeral c := by
  obtain ⟨sign, whole, fraction, exponent, hsign, hwhole, hfraction, hexponent⟩ := h
  have hdigits : ∀ {digits : Text}, IsDigits digits → ∀ c ∈ digits, IsNumeral c :=
    fun h c hc => .inl (h.digits c hc)
  intro c hc
  simp only [List.mem_append] at hc
  rcases hc with hc | hc | hc | hc
  · rcases hsign with rfl | rfl
    · cases hc
    · exact .inr (by rw [List.mem_singleton.mp hc]; decide)
  · cases hwhole with
    | zero => exact .inl (by rw [List.mem_singleton.mp hc]; decide)
    | digits first rest hfirst hrest =>
        rcases List.mem_cons.mp hc with rfl | hc
        · exact .inl ⟨by omega, hfirst.2⟩
        · exact .inl (hrest c hc)
  · cases hfraction with
    | none => cases hc
    | point digits hfraction =>
        rcases List.mem_cons.mp hc with rfl | hc
        · exact .inr (by decide)
        · exact hdigits hfraction c hc
  · cases hexponent with
    | none => cases hc
    | mark mark sign digits hmark hsign hexponent =>
        rcases List.mem_cons.mp hc with rfl | hc
        · rcases hmark with rfl | rfl
          · exact .inr (by decide)
          · exact .inr (by decide)
        rcases List.mem_append.mp hc with hc | hc
        · rcases hsign with rfl | rfl | rfl
          · cases hc
          · exact .inr (by rw [List.mem_singleton.mp hc]; decide)
          · exact .inr (by rw [List.mem_singleton.mp hc]; decide)
        · exact hdigits hexponent c hc

/-- What is a numeral is none of the characters that mean something else. -/
theorem IsNumeral.code {c : CodePoint} (h : IsNumeral c) :
    IsDigit c ∨ c.toNat = 0x2B ∨ c.toNat = 0x2D ∨ c.toNat = 0x2E ∨ c.toNat = 0x65
      ∨ c.toNat = 0x45 := by
  rcases h with h | h
  · exact .inl h
  · right
    have all : ∀ d ∈ Text.ofString "+-.eE", d.toNat = 0x2B ∨ d.toNat = 0x2D ∨ d.toNat = 0x2E
        ∨ d.toNat = 0x65 ∨ d.toNat = 0x45 := by decide
    exact all c h

/-! ## §6. Names. -/

/-- The capital letter that a number written by name begins with, but for its sign. -/
def IsCapital (c : CodePoint) : Prop := c = CodePoint.ofChar 'N' ∨ c = CodePoint.ofChar 'I'

instance (c : CodePoint) : Decidable (IsCapital c) := inferInstanceAs (Decidable (_ ∨ _))

/-- A name stands outside the strings of the text. -/
def Named (t : Text) : Prop := ∃ c ∈ bare t, IsCapital c

/-- The scan is outside strings at the end of the text, and no name stands outside. -/
abbrev Nameless (t : Text) : Prop := Settled (fun c => ¬ IsCapital c) t

/-- Characters of a kind to which neither the quote nor a capital letter belongs. -/
theorem nameless_of_all {kind : CodePoint → Prop} {t : Text} (h : ∀ c ∈ t, kind c)
    (hquote : ¬ kind quoteMark) (hcapital : ∀ c, IsCapital c → ¬ kind c) : Nameless t := by
  refine settled_of_noQuote (fun c hc => ?_) fun c hc hname => hcapital c hname (h c hc)
  rintro rfl
  exact hquote (h _ hc)

theorem nameless_blank {t : Text} (h : Blank t) : Nameless t := by
  refine nameless_of_all h (by decide) fun c hc => ?_
  rcases hc with rfl | rfl
  · decide
  · decide

/-- The marks of the grammar are neither quotes nor capital letters. -/
theorem nameless_structural {mark : CodePoint} {t : Text} (h : Structural mark t)
    (hmark : mark ∈ Text.ofString "[]\x7b\x7d:,") : Nameless t := by
  have all : ∀ d ∈ Text.ofString "[]\x7b\x7d:,", d ≠ quoteMark ∧ ¬ IsCapital d := by decide
  obtain ⟨before, after, hbefore, hafter⟩ := h
  have hone : Nameless [mark] :=
    settled_of_noQuote (List.forall_mem_singleton.mpr (all mark hmark).1)
      (List.forall_mem_singleton.mpr (all mark hmark).2)
  exact (nameless_blank hbefore).append (hone.append (nameless_blank hafter))

theorem nameless_number {t : Text} (h : IsNumber t) : Nameless t := by
  refine nameless_of_all (fun c hc => (isNumeral_number h c hc).code) (by decide) fun c hc => ?_
  rcases hc with rfl | rfl
  · decide
  · decide

/-- **No name stands outside the strings of what the grammar yields.** -/
theorem nameless_derives {s : Symbol} {t : Text} (h : Derives s t) : Nameless t := by
  induction h with
  | null => exact settled_of_noQuote (by decide) (by decide)
  | true => exact settled_of_noQuote (by decide) (by decide)
  | false => exact settled_of_noQuote (by decide) (by decide)
  | number t ht => exact nameless_number ht
  | string t ht => exact settled_string ht (by decide)
  | emptyArray opening closing hopening hclosing =>
      exact (nameless_structural hopening (by decide)).append
        (nameless_structural hclosing (by decide))
  | array opening entries closing hopening _ hclosing ih =>
      exact (nameless_structural hopening (by decide)).append
        (ih.append (nameless_structural hclosing (by decide)))
  | emptyObject opening closing hopening hclosing =>
      exact (nameless_structural hopening (by decide)).append
        (nameless_structural hclosing (by decide))
  | object opening entries closing hopening _ hclosing ih =>
      exact (nameless_structural hopening (by decide)).append
        (ih.append (nameless_structural hclosing (by decide)))
  | member key colon value hkey hcolon _ ih =>
      exact (settled_string hkey (by decide)).append
        ((nameless_structural hcolon (by decide)).append ih)
  | one entry t _ ih => exact ih
  | more entry first comma others _ hcomma _ ihFirst ihOthers =>
      exact ihFirst.append ((nameless_structural hcomma (by decide)).append ihOthers)

/-- **A text with a name outside its strings is no document.** -/
theorem not_isDocument_of_named {t : Text} (h : Named t) : ¬ IsDocument t := by
  intro hdocument
  obtain ⟨c, hc, hcapital⟩ := h
  obtain ⟨before, value, after, hbefore, hvalue, hafter⟩ := hdocument
  have hnameless := (nameless_blank hbefore).append
    ((nameless_derives hvalue).append (nameless_blank hafter))
  exact hnameless.bare c hc hcapital

end Json

end EventEnvelope
