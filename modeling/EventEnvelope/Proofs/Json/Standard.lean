/-
  EventEnvelope.Proofs.Json.Standard
  ──────────────────────────────────
  **Which documents keep to RFC 8259.**

  A value is written with its parts: elements, values of fields, the object in an event.  Each is
  written as the grammar wants it, escapes, keys and numbers that were decimals or dates included,
  with one exception: a number that is none is written by name.  One such part spoils the document,
  and nothing else does.

    • `Part`, `IsNamed`         — the parts of a value, and those that are written by name,
    • `WrittenAs`               — what is known of the text of a value,
    • `writtenAs_write`         — every value is written so,
    • `Codec.dumps_isDocument_iff` — the documents that keep to the grammar.
-/
import EventEnvelope.Proofs.Json.Stops
import EventEnvelope.Proofs.Json.Grammar
import EventEnvelope.Proofs.Json.RoundTrip
import EventEnvelope.Proofs.Number.Nearness

namespace EventEnvelope

/-! ## §1. Decimals as doubles. -/

/-- **A decimal that has a double as its number** is no number either, or fits into a finite
double. -/
theorem Decimal.toNumber_double {x : Decimal} {y : Binary64} (h : x.toNumber = .ok (.inr y)) :
    (∃ negative diagnostic, x = .nan negative false diagnostic) ∧ y = .nan
      ∨ ∃ negative m e h, y = .finite negative m e h := by
  unfold toNumber at h
  obtain ⟨whole, hwhole, h⟩ := bind_eq_ok.mp h
  cases x with
  | finite negative c e =>
      cases whole with
      | true => cases h
      | false =>
          cases h
          rw [isWhole] at hwhole
          split at hwhole
          · cases hwhole
          split at hwhole
          · cases hwhole
          next hlarge =>
            -- what is not too large for the context is far from too large for a double
            have hdigits : digitCount c + e ≤ 28 := not_lt.mp hlarge
            have hfits : (Nat.toDigits 10 c).length + e ≤ 307 := by
              show (digitCount c : Int) + e ≤ 307
              omega
            obtain ⟨m, k, hcanonical, hdouble⟩ := Binary64.ofDecimal_finite negative hfits
            exact .inr ⟨negative, m, k, hcanonical, hdouble⟩
  | infinity negative => cases hwhole
  | nan negative signaling diagnostic =>
      cases signaling with
      | true => cases hwhole
      | false =>
          cases h
          exact .inl ⟨⟨negative, diagnostic, rfl⟩, rfl⟩

namespace Json

/-! ## §2. The parts of a value. -/

/-- The values that are written in the course of writing a value. -/
def entries : Value → List Value
  | .list items | .tuple items => items
  | .object fields => fields.map Prod.snd
  | .event _ raw _ => [raw]
  | .record _ fields => fields.map Prod.snd
  | _ => []

/-- A part of a value: itself, or a part of one of its entries. -/
inductive Part (u : Value) : Value → Prop
  | self : Part u u
  | entry {v w : Value} (hw : w ∈ entries v) (hu : Part u w) : Part u v

theorem sizeOf_lt_of_mem_entries {v w : Value} (h : w ∈ entries v) : sizeOf w < sizeOf v := by
  cases v with
  | list items =>
      have hlt := List.sizeOf_lt_of_mem (show w ∈ items from h)
      simp only [Value.list.sizeOf_spec]
      omega
  | tuple items =>
      have hlt := List.sizeOf_lt_of_mem (show w ∈ items from h)
      simp only [Value.tuple.sizeOf_spec]
      omega
  | object fields =>
      obtain ⟨⟨k, u⟩, hfield, rfl⟩ := List.mem_map.mp (show w ∈ fields.map Prod.snd from h)
      have hlt := List.sizeOf_lt_of_mem hfield
      simp only [Prod.mk.sizeOf_spec] at hlt
      simp only [Value.object.sizeOf_spec]
      omega
  | event cls raw own =>
      rw [List.mem_singleton.mp (show w ∈ [raw] from h)]
      simp only [Value.event.sizeOf_spec]
      omega
  | record className fields =>
      obtain ⟨⟨name, u⟩, hfield, rfl⟩ := List.mem_map.mp (show w ∈ fields.map Prod.snd from h)
      have hlt := List.sizeOf_lt_of_mem hfield
      simp only [Prod.mk.sizeOf_spec] at hlt
      simp only [Value.record.sizeOf_spec]
      omega
  | _ => cases h

/-- **Induction over the entries.** -/
theorem entries_induction {motive : Value → Prop}
    (step : ∀ v, (∀ w ∈ entries v, motive w) → motive v) (v : Value) : motive v :=
  step v fun w hw =>
    have := sizeOf_lt_of_mem_entries hw
    entries_induction step w
termination_by sizeOf v

/-- A number that is none is written by name. -/
inductive IsNamed : Value → Prop
  | nan : IsNamed (.float .nan)
  | infinite (negative : Bool) : IsNamed (.float (.infinite negative))
  | decimal (negative : Bool) (diagnostic : Nat) :
      IsNamed (.decimal (.nan negative false diagnostic))

/-- A part of the value is written by name. -/
def HasNamed (v : Value) : Prop := ∃ u, Part u v ∧ IsNamed u

theorem hasNamed_iff {v : Value} :
    HasNamed v ↔ IsNamed v ∨ ∃ w ∈ entries v, HasNamed w := by
  constructor
  · rintro ⟨u, hpart, hu⟩
    cases hpart with
    | self => exact .inl hu
    | entry hw hpart => exact .inr ⟨_, hw, u, hpart, hu⟩
  · rintro (hv | ⟨w, hw, u, hpart, hu⟩)
    · exact ⟨v, .self, hv⟩
    · exact ⟨u, .entry hw hpart, hu⟩

/-! ## §3. Tidy texts. -/

/-- No blank stands outside strings and no control character anywhere. -/
structure Tidy (t : Text) : Prop where
  settled : Settled (fun c => isBlank c = false) t
  printable : ∀ c ∈ t, 0x20 ≤ c.toNat

theorem Tidy.append {s t : Text} (hs : Tidy s) (ht : Tidy t) : Tidy (s ++ t) := by
  refine ⟨hs.settled.append ht.settled, fun c hc => ?_⟩
  rcases List.mem_append.mp hc with hc | hc
  · exact hs.printable c hc
  · exact ht.printable c hc

/-- A text of visible characters without quotes. -/
theorem tidy_of_visible {t : Text} (h : ∀ c ∈ t, c ≠ quoteMark ∧ 0x20 < c.toNat) : Tidy t := by
  refine ⟨settled_of_noQuote (fun c hc => (h c hc).1) fun c hc => Bool.eq_false_iff.mpr ?_,
    fun c hc => (h c hc).2.le⟩
  intro hblank
  have hcode := toNat_of_isBlank hblank
  have hvisible := (h c hc).2
  omega

theorem tidy_number {t : Text} (h : IsNumber t) : Tidy t := by
  refine tidy_of_visible fun c hc => ?_
  have hcode := (isNumeral_number h c hc).code
  unfold IsDigit at hcode
  constructor
  · rintro rfl
    have hquote : quoteMark.toNat = 0x22 := rfl
    omega
  · omega

theorem printable_chars {t : Text} (h : Chars t) : ∀ c ∈ t, 0x20 ≤ c.toNat := by
  have hletters : ∀ e ∈ Text.ofString "\"\\/bfnrt", 0x20 ≤ e.toNat := by decide
  induction h with
  | nil => exact fun c hc => nomatch hc
  | unescaped c rest hcontrol _ _ _ ih => exact List.forall_mem_cons.mpr ⟨hcontrol, ih⟩
  | letter e rest he _ ih =>
      exact List.forall_mem_cons.mpr
        ⟨by decide, List.forall_mem_cons.mpr ⟨hletters e he, ih⟩⟩
  | unit digits rest _ hdigits _ ih =>
      refine List.forall_mem_cons.mpr ⟨by decide, List.forall_mem_cons.mpr ⟨by decide, ?_⟩⟩
      intro c hc
      rcases List.mem_append.mp hc with hc | hc
      · by_contra hlow
        refine hdigits c hc ?_
        unfold CodePoint.hexValue?
        rw [if_neg (by omega), if_neg (by omega), if_neg (by omega)]
      · exact ih c hc

theorem tidy_string {t : Text} (h : IsString t) : Tidy t := by
  refine ⟨settled_string h (by decide), ?_⟩
  obtain ⟨chars, hchars⟩ := h
  refine List.forall_mem_cons.mpr ⟨by decide, fun c hc => ?_⟩
  rcases List.mem_append.mp hc with hc | hc
  · exact printable_chars hchars c hc
  · rw [List.mem_singleton.mp hc]
    decide

/-! ## §4. Strings and numbers as they are written. -/

/-- The letters of escapes are those of the grammar. -/
theorem mem_letters_of_escaped? {e c : CodePoint} (h : escaped? e = some c) :
    e ∈ Text.ofString "\"\\/bfnrt" := by
  have hletter : ∀ d ∈ Text.ofString "\"\\/bfnrt", e.toNat = d.toNat →
      e ∈ Text.ofString "\"\\/bfnrt" := by
    intro d hd hcode
    rwa [CodePoint.toNat_inj.mp hcode]
  unfold escaped? at h
  split at h
  next hcode => exact hletter (CodePoint.ofChar '"') (by decide) hcode
  next hcode => exact hletter (CodePoint.ofChar '\\') (by decide) hcode
  next hcode => exact hletter (CodePoint.ofChar '/') (by decide) hcode
  next hcode => exact hletter (CodePoint.ofChar 'b') (by decide) hcode
  next hcode => exact hletter (CodePoint.ofChar 'f') (by decide) hcode
  next hcode => exact hletter (CodePoint.ofChar 'n') (by decide) hcode
  next hcode => exact hletter (CodePoint.ofChar 'r') (by decide) hcode
  next hcode => exact hletter (CodePoint.ofChar 't') (by decide) hcode
  next => cases h

theorem length_hex (width n : Nat) : (Text.hex width n).length = width := by
  induction width generalizing n with
  | zero => rfl
  | succ width ih =>
      show (Text.hex width (n / 16) ++ [_]).length = _
      rw [List.length_append, ih, List.length_singleton]

theorem hexValue?_hex (width n : Nat) : ∀ d ∈ Text.hex width n, d.hexValue? ≠ none := by
  induction width generalizing n with
  | zero => exact fun d hd => nomatch hd
  | succ width ih =>
      intro d hd
      rcases List.mem_append.mp hd with hd | hd
      · exact ih _ d hd
      · rw [List.mem_singleton.mp hd, hexValue?_hexDigit (Nat.mod_lt _ (by decide))]
        exact Option.some_ne_none _

/-- **A written string is a string of the grammar.** -/
theorem isString_writeText (t : Text) : IsString (writeText t) := by
  rw [writeText_eq]
  refine .quoted _ ?_
  induction t with
  | nil => exact .nil
  | cons c rest ih =>
      rw [List.flatMap_cons]
      rcases escape_cases c with ⟨e, hescape, -, he, -, -⟩ | ⟨-, hescape⟩
        | ⟨hcontrol, hquote, hmark, hescape⟩
      · rw [hescape]
        exact .letter e _ (mem_letters_of_escaped? he) ih
      · rw [hescape]
        exact .unit _ _ (length_hex 4 c.toNat) (hexValue?_hex 4 c.toNat) ih
      · rw [hescape]
        refine .unescaped c _ hcontrol ?_ ?_ ih
        · rintro rfl
          exact hquote rfl
        · rintro rfl
          exact hmark rfl

theorem isDigit_decimalDigit {d : Nat} (h : d < 10) : IsDigit (decimalDigit d) := by
  have hcode := toNat_decimalDigit h
  exact ⟨by omega, by omega⟩

theorem isDigit_map {digits : List Nat} (h : ∀ d ∈ digits, d < 10) :
    ∀ c ∈ digits.map decimalDigit, IsDigit c := by
  intro c hc
  obtain ⟨d, hd, rfl⟩ := List.mem_map.mp hc
  exact isDigit_decimalDigit (h d hd)

theorem isWhole_digits {d : Nat} {rest : List Nat} (hlt : ∀ e ∈ d :: rest, e < 10)
    (hzero : d = 0 → rest = []) : IsWhole ((d :: rest).map decimalDigit) := by
  obtain ⟨hd, hrest⟩ := List.forall_mem_cons.mp hlt
  by_cases hlead : d = 0
  · rw [hzero hlead, hlead]
    exact .zero
  · have hcode := toNat_decimalDigit hd
    exact .digits _ _ ⟨by omega, by omega⟩ (isDigit_map hrest)

theorem isFraction_fractionText {digits : List Nat} (hlt : ∀ d ∈ digits, d < 10) :
    IsFraction (fractionText digits) := by
  cases digits with
  | nil => exact .none
  | cons d rest => exact .point _ ⟨by simp, isDigit_map hlt⟩

theorem isExponent_exponentText (exponent : Option Int) :
    IsExponent (exponentText exponent) := by
  cases exponent with
  | none => exact .none
  | some k =>
      obtain ⟨digits, htext, hlt, -, hne⟩ := Text.padded_eq_digits 2 k.natAbs
      have hdigits : IsDigits (Text.padded 2 k.natAbs) := by
        rw [htext]
        exact ⟨by simpa using hne, isDigit_map hlt⟩
      by_cases hneg : k < 0
      · have hsign := IsExponent.mark (CodePoint.ofChar 'e') [CodePoint.ofChar '-'] _ (.inl rfl)
          (.inr (.inr rfl)) hdigits
        rw [exponentText, if_pos hneg]
        exact hsign
      · have hsign := IsExponent.mark (CodePoint.ofChar 'e') [CodePoint.ofChar '+'] _ (.inl rfl)
          (.inr (.inl rfl)) hdigits
        rw [exponentText, if_neg hneg]
        exact hsign

/-- **The text of a number is a number of the grammar.** -/
theorem isNumber_text {n : NumberText} (hn : n.WellFormed) : IsNumber n.text := by
  obtain ⟨negative, whole, fraction, exponent⟩ := n
  obtain ⟨hwhole, ⟨d, rest, rfl, hzero⟩, hfraction⟩ := hn
  refine .parts (signText negative) _ _ _ ?_ (isWhole_digits hwhole hzero)
    (isFraction_fractionText hfraction) (isExponent_exponentText exponent)
  cases negative with
  | true => exact .inr rfl
  | false => exact .inl rfl

theorem isNumber_ofInt (n : Int) : IsNumber (Text.ofInt n) := by
  obtain ⟨digits, -, -, hn, htext⟩ := ofInt_eq_text n
  rw [htext]
  exact isNumber_text hn

theorem eq_ofInt_of_writeInt {n : Int} {t : Text} (h : writeInt n = .ok t) : t = Text.ofInt n := by
  rw [writeInt_eq_ok (length_le_of_writeInt h)] at h
  cases h
  rfl

/-! ## §5. Single values. -/

/-- What is known of the text of a value: it is tidy, and the grammar yields it unless a part is
written by name, which then stands outside its strings. -/
structure WrittenAs (v : Value) (t : Text) : Prop where
  tidy : Tidy t
  named : HasNamed v → Named t
  standard : ¬ HasNamed v → Derives .value t

/-- A value without entries that is not written by name either. -/
structure IsLeaf (v : Value) : Prop where
  empty : entries v = []
  unnamed : ¬ IsNamed v

section Leaf

variable {v : Value} {t : Text} (hv : IsLeaf v)
include hv

theorem IsLeaf.not_hasNamed : ¬ HasNamed v := by
  rw [hasNamed_iff, hv.empty]
  rintro (h | ⟨w, hw, -⟩)
  · exact hv.unnamed h
  · cases hw

theorem writtenAs_token (htidy : Tidy t) (ht : Derives .value t) : WrittenAs v t :=
  ⟨htidy, fun h => absurd h hv.not_hasNamed, fun _ => ht⟩

theorem writtenAs_string : WrittenAs v (writeText t) :=
  writtenAs_token hv (tidy_string (isString_writeText t)) (.string _ (isString_writeText t))

theorem writtenAs_bytes {b : Bytes} (h : writeBytes b = .ok t) : WrittenAs v t := by
  unfold writeBytes at h
  split at h
  next =>
    cases h
    exact writtenAs_string hv
  next => cases h

theorem writtenAs_number (ht : IsNumber t) : WrittenAs v t :=
  writtenAs_token hv (tidy_number ht) (.number t ht)

theorem writtenAs_int {n : Int} (h : writeInt n = .ok t) : WrittenAs v t := by
  rw [eq_ofInt_of_writeInt h]
  exact writtenAs_number hv (isNumber_ofInt n)

end Leaf

/-- A value that is written by name. -/
theorem writtenAs_name {v : Value} {x : Binary64} (hv : IsNamed v)
    (hx : x = .nan ∨ ∃ negative, x = .infinite negative) : WrittenAs v (writeFloat x) := by
  have hnamed : HasNamed v := ⟨v, .self, hv⟩
  have hname : Tidy (writeFloat x) ∧ Named (writeFloat x) := by
    rcases hx with rfl | ⟨negative, rfl⟩
    · exact ⟨tidy_of_visible (by decide), CodePoint.ofChar 'N', by decide, by decide⟩
    · cases negative with
      | true => exact ⟨tidy_of_visible (by decide), CodePoint.ofChar 'I', by decide, by decide⟩
      | false => exact ⟨tidy_of_visible (by decide), CodePoint.ofChar 'I', by decide, by decide⟩
  exact ⟨hname.1, fun _ => hname.2, fun h => absurd hnamed h⟩

theorem isNumber_writeFloat {negative : Bool} {m : Nat} {e : Int}
    (h : Binary64.IsCanonical m e) : IsNumber (writeFloat (.finite negative m e h)) := by
  obtain ⟨n, hn, htext, -⟩ := writeFloat_finite negative h
  rw [htext]
  exact isNumber_text hn

theorem writtenAs_float (x : Binary64) : WrittenAs (.float x) (writeFloat x) := by
  cases x with
  | nan => exact writtenAs_name .nan (.inl rfl)
  | infinite negative => exact writtenAs_name (.infinite negative) (.inr ⟨negative, rfl⟩)
  | finite negative m e h => exact writtenAs_number ⟨rfl, nofun⟩ (isNumber_writeFloat h)

theorem writtenAs_decimal {x : Decimal} {t : Text} (h : writeDecimal x = .ok t) :
    WrittenAs (.decimal x) t := by
  unfold writeDecimal at h
  split at h
  next n hnumber =>
    refine writtenAs_int ⟨rfl, ?_⟩ h
    -- what is not a number has no integer as its number
    rintro ⟨⟩
    cases hnumber
  next y hnumber =>
    cases h
    rcases Decimal.toNumber_double hnumber with ⟨⟨negative, diagnostic, rfl⟩, rfl⟩
      | ⟨negative, m, e, hcanonical, rfl⟩
    · exact writtenAs_name (.decimal negative diagnostic) (.inl rfl)
    · refine writtenAs_number ⟨rfl, ?_⟩ (isNumber_writeFloat hcanonical)
      rintro ⟨⟩
      cases hnumber
  next => cases h

/-! ## §6. Values with entries. -/

theorem Named.append_left {s t : Text} (h : Named s) : Named (s ++ t) := by
  obtain ⟨c, hc, hcapital⟩ := h
  refine ⟨c, ?_, hcapital⟩
  rw [bare, bareFrom_append]
  exact List.mem_append_left _ hc

theorem Named.append_right {s t : Text} (hs : Tidy s) (h : Named t) : Named (s ++ t) := by
  obtain ⟨c, hc, hcapital⟩ := h
  refine ⟨c, ?_, hcapital⟩
  rw [bare, bareFrom_append, hs.settled.closed]
  exact List.mem_append_right _ hc

section Joined

variable {texts : List Text} (htidy : ∀ t ∈ texts, Tidy t)
include htidy

theorem tidy_joinWith : Tidy (Text.joinWith "," texts) := by
  induction texts with
  | nil => exact tidy_of_visible (by decide)
  | cons first rest ih =>
      obtain ⟨hfirst, hrest⟩ := List.forall_mem_cons.mp htidy
      cases rest with
      | nil => exact hfirst
      | cons second others => exact (hfirst.append (tidy_of_visible (by decide))).append (ih hrest)

/-- A name in one of the texts is in the joined text. -/
theorem named_joinWith {t : Text} (ht : t ∈ texts) (hnamed : Named t) :
    Named (Text.joinWith "," texts) := by
  induction texts with
  | nil => cases ht
  | cons first rest ih =>
      obtain ⟨hfirst, hrest⟩ := List.forall_mem_cons.mp htidy
      cases rest with
      | nil =>
          rw [List.mem_singleton.mp ht] at hnamed
          exact hnamed
      | cons second others =>
          rcases List.mem_cons.mp ht with rfl | ht
          · exact hnamed.append_left.append_left
          · exact (ih hrest ht).append_right (hfirst.append (tidy_of_visible (by decide)))

end Joined

theorem derives_joinWith {entry : Symbol} {first : Text} {others : List Text}
    (h : ∀ t ∈ first :: others, Derives entry t) :
    Derives (.list entry) (Text.joinWith "," (first :: others)) := by
  induction others generalizing first with
  | nil => exact .one entry first (h first List.mem_cons_self)
  | cons second others ih =>
      obtain ⟨hfirst, hothers⟩ := List.forall_mem_cons.mp h
      have hmore := Derives.more entry first _ _ hfirst (structural_mark _) (ih hothers)
      rw [← List.append_assoc] at hmore
      exact hmore

/-- Without indentation nothing stands between brackets and entries. -/
theorem enclose_compact (level : Nat) (opening closing : Text) (texts : List Text) :
    Style.compact.enclose level opening closing texts
      = opening ++ (Text.joinWith "," texts ++ closing) := by
  cases texts with
  | nil => rfl
  | cons first others => exact Style.enclose_cons .compact level opening closing first others

/-- Brackets of the grammar around entries of one kind. -/
structure Brackets (entry : Symbol) (opening closing : Text) : Prop where
  tidyOpening : Tidy opening
  tidyClosing : Tidy closing
  empty : Derives .value (opening ++ closing)
  filled : ∀ t, Derives (.list entry) t → Derives .value (opening ++ (t ++ closing))

theorem squareBrackets : Brackets .value "[" "]" where
  tidyOpening := tidy_of_visible (by decide)
  tidyClosing := tidy_of_visible (by decide)
  empty := .emptyArray _ _ (structural_mark _) (structural_mark _)
  filled := fun t ht => .array _ t _ (structural_mark _) ht (structural_mark _)

theorem curlyBrackets : Brackets .member "\x7b" "\x7d" where
  tidyOpening := tidy_of_visible (by decide)
  tidyClosing := tidy_of_visible (by decide)
  empty := .emptyObject _ _ (structural_mark _) (structural_mark _)
  filled := fun t ht => .object _ t _ (structural_mark _) ht (structural_mark _)

/-- **Entries in brackets**: the text is tidy if those of the entries are, a name in one of them is
in the whole, and if the grammar yields them all it yields the whole. -/
theorem writtenAs_enclose {entry : Symbol} {opening closing : Text}
    (hbrackets : Brackets entry opening closing) (level : Nat) {v : Value} (hv : ¬ IsNamed v)
    {texts : List Text} (htidy : ∀ t ∈ texts, Tidy t)
    (hnamed : ∀ w ∈ entries v, HasNamed w → ∃ t ∈ texts, Named t)
    (hstandard : (∀ w ∈ entries v, ¬ HasNamed w) → ∀ t ∈ texts, Derives entry t) :
    WrittenAs v (Style.compact.enclose level opening closing texts) := by
  rw [enclose_compact]
  refine ⟨hbrackets.tidyOpening.append ((tidy_joinWith htidy).append hbrackets.tidyClosing),
    fun h => ?_, fun h => ?_⟩
  · obtain ⟨w, hw, hpart⟩ := (hasNamed_iff.mp h).resolve_left hv
    obtain ⟨t, ht, hname⟩ := hnamed w hw hpart
    exact (named_joinWith htidy ht hname).append_left.append_right hbrackets.tidyOpening
  · have hall := hstandard fun w hw hpart => h (hasNamed_iff.mpr (.inr ⟨w, hw, hpart⟩))
    cases texts with
    | nil => exact hbrackets.empty
    | cons first others => exact hbrackets.filled _ (derives_joinWith hall)

/-- An array is written as its elements are. -/
theorem writtenAs_array {v : Value} {items : List Value} (hentries : entries v = items)
    (hv : ¬ IsNamed v) {level : Nat} {texts : List Text}
    (hwritten : List.Forall₂ WrittenAs items texts) :
    WrittenAs v (Style.compact.enclose level "[" "]" texts) := by
  subst hentries
  refine writtenAs_enclose squareBrackets level hv (fun t ht => ?_) (fun w hw hpart => ?_)
    fun hnone t ht => ?_
  · obtain ⟨w, -, hw⟩ := forall₂_mem_right hwritten t ht
    exact hw.tidy
  · obtain ⟨t, ht, hw⟩ := forall₂_mem_left hwritten w hw
    exact ⟨t, ht, hw.named hpart⟩
  · obtain ⟨w, hmem, hw⟩ := forall₂_mem_right hwritten t ht
    exact hw.standard (hnone w hmem)

/-- A member of an object: a key, and a value that is written so. -/
def WrittenAsMember (v : Value) (t : Text) : Prop :=
  ∃ key value, t = member .compact key value ∧ WrittenAs v value

theorem member_compact (key value : Text) :
    member .compact key value = writeText key ++ ([CodePoint.ofChar ':'] ++ value) := by
  show writeText key ++ [CodePoint.ofChar ':'] ++ value = _
  rw [List.append_assoc]

/-- An object is written as the values of its members are; keys are strings of any kind. -/
theorem writtenAs_members {v : Value} {values : List Value} {level : Nat} {texts : List Text}
    (hentries : entries v = values) (hv : ¬ IsNamed v)
    (hwritten : List.Forall₂ WrittenAsMember values texts) :
    WrittenAs v (Style.compact.enclose level "\x7b" "\x7d" texts) := by
  have hkey := fun key => tidy_string (isString_writeText key)
  have hcolon : Tidy [CodePoint.ofChar ':'] := tidy_of_visible (by decide)
  subst hentries
  refine writtenAs_enclose curlyBrackets level hv (fun t ht => ?_) (fun w hw hpart => ?_)
    fun hnone t ht => ?_
  · obtain ⟨w, -, key, value, rfl, hw⟩ := forall₂_mem_right hwritten t ht
    rw [member_compact]
    exact (hkey key).append (hcolon.append hw.tidy)
  · obtain ⟨t, ht, key, value, rfl, hw⟩ := forall₂_mem_left hwritten w hw
    refine ⟨_, ht, ?_⟩
    rw [member_compact]
    exact ((hw.named hpart).append_right hcolon).append_right (hkey key)
  · obtain ⟨w, hmem, key, value, rfl, hw⟩ := forall₂_mem_right hwritten t ht
    rw [member_compact]
    exact .member _ _ _ (isString_writeText key) (structural_mark _) (hw.standard (hnone w hmem))

/-- An event is written as the object it wraps. -/
theorem writtenAs_event {cls : ClassObject} {raw : Value} {own : OwnText} {t : Text}
    (h : WrittenAs raw t) : WrittenAs (.event cls raw own) t := by
  have hraw : HasNamed (.event cls raw own) ↔ HasNamed raw := by
    rw [hasNamed_iff]
    constructor
    · intro h
      rcases h with hnamed | ⟨w, hw, hpart⟩
      · cases hnamed
      · rwa [List.mem_singleton.mp hw] at hpart
    · exact fun hpart => .inr ⟨raw, List.mem_singleton_self raw, hpart⟩
  exact ⟨h.tidy, fun hpart => h.named (hraw.mp hpart), fun hnone => h.standard (mt hraw.mpr hnone)⟩

/-! ## §7. All values. -/

section Entries

variable {level : Nat} {texts : List Text}

theorem writtenAs_items {v : Value} {items : List Value} (hentries : entries v = items)
    (hv : ¬ IsNamed v)
    (ih : ∀ w ∈ items, ∀ t, write .compact (level + 1) w = .ok t → WrittenAs w t)
    (h : writeItems .compact (level + 1) items = .ok texts) :
    WrittenAs v (Style.compact.enclose level "[" "]" texts) :=
  writtenAs_array hentries hv (forall₂_imp_mem (writeItems_eq_ok.mp h) ih)

theorem writtenAs_fields {v : Value} {fields : Fields}
    (hentries : entries v = fields.map Prod.snd) (hv : ¬ IsNamed v)
    (ih : ∀ w ∈ fields.map Prod.snd, ∀ t,
      write .compact (level + 1) w = .ok t → WrittenAs w t)
    (h : writeFields .compact (level + 1) fields = .ok texts) :
    WrittenAs v (Style.compact.enclose level "\x7b" "\x7d" texts) := by
  refine writtenAs_members hentries hv ?_
  rw [List.forall₂_map_left_iff]
  refine forall₂_imp_mem (writeFields_eq_ok.mp h) fun field hfield entry hentry => ?_
  obtain ⟨key, value, -, hvalue, rfl⟩ := hentry
  exact ⟨key, value, rfl, ih field.2 (List.mem_map_of_mem hfield) value hvalue⟩

end Entries

/-- **Every value is written so.** -/
theorem writtenAs_write (v : Value) (level : Nat) {t : Text}
    (h : write .compact level v = .ok t) : WrittenAs v t := by
  induction v using entries_induction generalizing level t with
  | step v ih =>
      have ihEntry : ∀ (level : Nat), ∀ w ∈ entries v, ∀ t,
          write .compact level w = .ok t → WrittenAs w t :=
        fun level w hw t => ih w hw level
      -- a value without a form of its own is converted
      have hconvert : ∀ u converted, substitute .compact u converted = converted :=
        substitute_convert rfl
      cases v with
      | null =>
          cases h
          exact writtenAs_token ⟨rfl, nofun⟩ (tidy_of_visible (by decide)) .null
      | bool b =>
          cases h
          cases b with
          | true => exact writtenAs_token ⟨rfl, nofun⟩ (tidy_of_visible (by decide)) .true
          | false => exact writtenAs_token ⟨rfl, nofun⟩ (tidy_of_visible (by decide)) .false
      | int n => exact writtenAs_int ⟨rfl, nofun⟩ h
      | status s =>
          cases h
          exact writtenAs_number ⟨rfl, nofun⟩ (isNumber_ofInt s.code)
      | float x =>
          cases h
          exact writtenAs_float x
      | text s =>
          cases h
          exact writtenAs_string ⟨rfl, nofun⟩
      | decimal x =>
          rw [write, hconvert] at h
          exact writtenAs_decimal h
      | bytes b =>
          rw [write, hconvert] at h
          exact writtenAs_bytes ⟨rfl, nofun⟩ h
      | buffer b =>
          rw [write, hconvert] at h
          exact writtenAs_bytes ⟨rfl, nofun⟩ h
      | dateTime d =>
          rw [write, hconvert] at h
          exact writtenAs_int ⟨rfl, nofun⟩ h
      | date d =>
          rw [write, hconvert] at h
          cases h
          exact writtenAs_string ⟨rfl, nofun⟩
      | time d =>
          rw [write, hconvert] at h
          cases h
          exact writtenAs_string ⟨rfl, nofun⟩
      | list items =>
          rw [write] at h
          obtain ⟨texts, htexts, ⟨⟩⟩ := bind_eq_ok.mp h
          exact writtenAs_items rfl nofun (ihEntry (level + 1)) htexts
      | tuple items =>
          rw [write] at h
          obtain ⟨texts, htexts, ⟨⟩⟩ := bind_eq_ok.mp h
          exact writtenAs_items rfl nofun (ihEntry (level + 1)) htexts
      | object fields =>
          rw [write] at h
          obtain ⟨texts, htexts, ⟨⟩⟩ := bind_eq_ok.mp h
          exact writtenAs_fields rfl nofun (ihEntry (level + 1)) htexts
      | event cls raw own =>
          rw [write, hconvert] at h
          exact writtenAs_event (ihEntry level raw (List.mem_singleton_self raw) t h)
      | record className fields =>
          rw [write, hconvert] at h
          split at h
          · cases h
          obtain ⟨texts, htexts, ⟨⟩⟩ := bind_eq_ok.mp h
          rw [writeNamed_eq] at htexts
          have hvalues : entries (.record className fields) = (keyed fields).map Prod.snd := by
            rw [entries, keyed, List.map_map]
            rfl
          refine writtenAs_fields hvalues ?_ ?_ htexts
          · intro hnamed
            cases hnamed
          · rw [← hvalues]
            exact ihEntry (level + 1)
      -- nothing else has a form in JSON
      | circularList => cases h
      | circularObject => cases h
      | message payload headers =>
          rw [write, hconvert] at h
          cases h
      | unknown label =>
          rw [write, hconvert] at h
          cases h
      | type c =>
          rw [write, hconvert] at h
          cases h

/-- **A written value is a document of the grammar unless a part is written by name.** -/
theorem WrittenAs.isDocument_iff {v : Value} {t : Text} (h : WrittenAs v t) :
    IsDocument t ↔ ¬ HasNamed v :=
  ⟨fun hdocument hpart => not_isDocument_of_named (h.named hpart) hdocument,
    fun hnone => .of_value (h.standard hnone)⟩

end Json

namespace Codec

open Json

/-- **Documents and the grammar.**  What the codec writes is UTF-8; it holds no control characters,
and no blanks outside strings.  It is a document of RFC 8259 exactly if no part of the value is
written by name: a double that is no number, or a decimal that is none. -/
theorem dumps_isDocument_iff {v : Value} {bytes : Bytes} (h : dumps v = .ok bytes) :
    ∃ t, Utf8.decode bytes = .ok t ∧ (∀ c ∈ t, 0x20 ≤ c.toNat) ∧ (∀ c ∈ bare t, isBlank c = false)
      ∧ (IsDocument t ↔ ¬ ∃ u, Part u v ∧ IsNamed u) := by
  obtain ⟨t, hwrite, hencode⟩ := encode_eq_ok.mp (dumps_eq_ok.mp h)
  obtain ⟨hsurrogate, rfl⟩ := Utf8.encode_eq_ok_iff.mp hencode
  have hwritten := writtenAs_write v 0 hwrite
  exact ⟨t, Utf8.decodeFrom_flatMap _ hsurrogate 0, hwritten.tidy.printable,
    hwritten.tidy.settled.bare, hwritten.isDocument_iff⟩

/-- An order as business code may hand it over: with an amount, a moment, a note on two lines, a
weight, and keys that are no texts. -/
def order : Value :=
  .object [(.text "amount", .decimal (.finite false 250 (-2))),
    (.int 7, .dateTime ⟨⟨2024, 2, 29, by decide⟩, ⟨12, 30, 0, 0, none, by decide⟩⟩),
    (.null, .text "a\nb"), (.float .nan, .float (.finite false (2 ^ 52) (-52) (by decide)))]

theorem dumps_isDocument_order :
    ∃ bytes t, dumps order = .ok bytes ∧ Utf8.decode bytes = .ok t ∧ IsDocument t := by
  obtain ⟨bytes, hdumps⟩ : ∃ bytes, dumps order = .ok bytes := exists_of_toBool (by decide +kernel)
  -- none of the four values in the order has entries of its own
  have hparts : ∀ u, Part u order → u = order ∨ u ∈ entries order := by
    intro u hpart
    cases hpart with
    | self => exact .inl rfl
    | entry hw hpart =>
        right
        cases hpart with
        | self => exact hw
        | entry hw' _ =>
            simp only [order, entries, List.map_cons, List.map_nil, List.mem_cons,
              List.not_mem_nil, or_false] at hw
            rcases hw with rfl | rfl | rfl | rfl
            · cases hw'
            · cases hw'
            · cases hw'
            · cases hw'
  have hnone : ¬ ∃ u, Part u order ∧ IsNamed u := by
    rintro ⟨u, hpart, hu⟩
    rcases hparts _ hpart with rfl | h
    · cases hu
    · cases hu with
      | nan => simp [order, entries] at h
      | infinite negative => simp [order, entries] at h
      | decimal negative diagnostic => simp [order, entries] at h
  obtain ⟨t, hdecode, -, -, hdocument⟩ := dumps_isDocument_iff hdumps
  exact ⟨bytes, t, hdumps, hdecode, hdocument.mpr hnone⟩

/-- A double that is no number makes a document that is none. -/
theorem dumps_nan : ∃ bytes t, dumps (.float .nan) = .ok bytes ∧ Utf8.decode bytes = .ok t
    ∧ ¬ IsDocument t := by
  refine ⟨_, "NaN", rfl, by decide +kernel, not_isDocument_of_named ?_⟩
  exact ⟨CodePoint.ofChar 'N', by decide, by decide⟩

end Codec

end EventEnvelope
