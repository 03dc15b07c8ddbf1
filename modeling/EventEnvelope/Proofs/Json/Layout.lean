/-
  EventEnvelope.Proofs.Json.Layout
  ────────────────────────────────
  **What stands between the entries of a document.**

  In all three styles an entry is parted from the next by a comma, and a key from its value by a
  colon, with nothing but blanks after the mark.  The reader skips blanks there, so the layout of a
  document says nothing about the value in it.

    • `Style.IsLayout`          — the condition on a style that everything here rests on,
    • `skipBlanks_append`, `skipBlanks_cons` — blanks are skipped, and nothing else,
    • `mem_enclose`             — what a bracketed list of entries is made of.
-/
import EventEnvelope.Json.Reader
import EventEnvelope.Json.Writer
import EventEnvelope.Proofs.Text.Utf8

namespace EventEnvelope

namespace Json

/-! ## §1. Blanks. -/

/-- A text of blanks only. -/
def Blank (t : Text) : Prop := ∀ c ∈ t, isBlank c = true

instance (t : Text) : Decidable (Blank t) :=
  inferInstanceAs (Decidable (∀ c ∈ t, isBlank c = true))

theorem Blank.append {s t : Text} (hs : Blank s) (ht : Blank t) : Blank (s ++ t) := by
  intro c hc
  rcases List.mem_append.mp hc with hc | hc
  · exact hs c hc
  · exact ht c hc

/-- The number of a blank is one of four. -/
theorem toNat_of_isBlank {c : CodePoint} (h : isBlank c = true) :
    c.toNat = 0x20 ∨ c.toNat = 0x09 ∨ c.toNat = 0x0A ∨ c.toNat = 0x0D := by
  simpa [isBlank, or_assoc] using h

theorem transmissible_of_isBlank {c : CodePoint} (h : isBlank c = true) : c.Transmissible := by
  have hcode := toNat_of_isBlank h
  refine ⟨by omega, ?_⟩
  simp only [CodePoint.isSurrogate, Bool.and_eq_false_iff, decide_eq_false_iff_not]
  omega

theorem skipBlanks_append {blanks t : Text} (h : Blank blanks) :
    skipBlanks (blanks ++ t) = skipBlanks t :=
  List.dropWhile_append_of_pos h

theorem skipBlanks_cons {c : CodePoint} {t : Text} (h : isBlank c = false) :
    skipBlanks (c :: t) = c :: t := by
  rw [skipBlanks, List.dropWhile_cons, h]
  rfl

/-! ## §2. Styles. -/

/-- A mark with nothing but blanks after it. -/
def IsSeparator (mark : CodePoint) (t : Text) : Prop :=
  ∃ blanks, t = mark :: blanks ∧ Blank blanks

theorem IsSeparator.append {mark : CodePoint} {t blanks : Text} (ht : IsSeparator mark t)
    (hblanks : Blank blanks) : IsSeparator mark (t ++ blanks) := by
  obtain ⟨gap, rfl, hgap⟩ := ht
  exact ⟨gap ++ blanks, rfl, hgap.append hblanks⟩

/-- The marks of a style are a comma and a colon. -/
structure Style.IsLayout (style : Style) : Prop where
  comma : IsSeparator (CodePoint.ofChar ',') style.comma
  colon : IsSeparator (CodePoint.ofChar ':') style.colon

namespace Style

theorem compact_isLayout : compact.IsLayout := ⟨⟨[], rfl, by decide⟩, ⟨[], rfl, by decide⟩⟩

theorem spaced_isLayout : spaced.IsLayout := ⟨⟨" ", rfl, by decide⟩, ⟨" ", rfl, by decide⟩⟩

theorem indented_isLayout : indented.IsLayout := ⟨⟨[], rfl, by decide⟩, ⟨" ", rfl, by decide⟩⟩

theorem blank_lineBreak (style : Style) (level : Nat) : Blank (style.lineBreak level) := by
  intro c hc
  unfold lineBreak at hc
  cases hindent : style.indent with
  | none =>
      rw [hindent] at hc
      cases hc
  | some width =>
      rw [hindent] at hc
      rcases List.mem_append.mp hc with hc | hc
      · rw [List.mem_singleton.mp hc]
        rfl
      · rw [List.eq_of_mem_replicate hc]
        rfl

theorem enclose_cons (style : Style) (level : Nat) (opening closing first : Text)
    (others : List Text) :
    style.enclose level opening closing (first :: others)
      = opening ++ (style.lineBreak (level + 1)
          ++ (Text.joinWith (style.comma ++ style.lineBreak (level + 1)) (first :: others)
            ++ (style.lineBreak level ++ closing))) := by
  simp only [enclose, List.append_assoc]

end Style

/-! ## §3. What a bracketed list is made of. -/

theorem mem_joinWith {separator : Text} {entries : List Text} {c : CodePoint}
    (h : c ∈ Text.joinWith separator entries) :
    c ∈ separator ∨ ∃ entry ∈ entries, c ∈ entry := by
  induction entries with
  | nil => cases h
  | cons first rest ih =>
      -- a separator stands only where another entry follows
      cases rest with
      | nil => exact .inr ⟨first, List.mem_singleton_self first, h⟩
      | cons second others =>
          rcases List.mem_append.mp h with h | h
          · rcases List.mem_append.mp h with h | h
            · exact .inr ⟨first, List.mem_cons_self, h⟩
            · exact .inl h
          · rcases ih h with h | ⟨entry, hentry, hc⟩
            · exact .inl h
            · exact .inr ⟨entry, List.mem_cons_of_mem _ hentry, hc⟩

/-- A bracketed list holds its brackets, commas, blanks and entries, and nothing else. -/
theorem mem_enclose {style : Style} {level : Nat} {opening closing : Text} {entries : List Text}
    {c : CodePoint} (h : c ∈ style.enclose level opening closing entries) :
    c ∈ opening ∨ c ∈ closing ∨ c ∈ style.comma ∨ isBlank c = true
      ∨ ∃ entry ∈ entries, c ∈ entry := by
  cases entries with
  | nil =>
      rcases List.mem_append.mp h with h | h
      · exact .inl h
      · exact .inr (.inl h)
  | cons first others =>
      rw [Style.enclose_cons] at h
      simp only [List.mem_append] at h
      -- opening bracket, line break, joined entries, line break, closing bracket
      rcases h with h | h | h | h | h
      · exact .inl h
      · exact .inr (.inr (.inr (.inl (style.blank_lineBreak _ c h))))
      · rcases mem_joinWith h with h | h
        · rcases List.mem_append.mp h with h | h
          · exact .inr (.inr (.inl h))
          · exact .inr (.inr (.inr (.inl (style.blank_lineBreak _ c h))))
        · exact .inr (.inr (.inr (.inr h)))
      · exact .inr (.inr (.inr (.inl (style.blank_lineBreak _ c h))))
      · exact .inr (.inl h)

/-- Every entry is part of the bracketed list. -/
theorem mem_joinWith_of_mem {separator entry : Text} {entries : List Text} {c : CodePoint}
    (hentry : entry ∈ entries) (hc : c ∈ entry) : c ∈ Text.joinWith separator entries := by
  induction entries with
  | nil => cases hentry
  | cons first rest ih =>
      cases rest with
      | nil =>
          rw [List.mem_singleton.mp hentry] at hc
          exact hc
      | cons second others =>
          rcases List.mem_cons.mp hentry with rfl | hentry
          · exact List.mem_append_left _ (List.mem_append_left _ hc)
          · exact List.mem_append_right _ (ih hentry)

theorem mem_enclose_of_mem {style : Style} {level : Nat} {opening closing entry : Text}
    {entries : List Text} {c : CodePoint} (hentry : entry ∈ entries) (hc : c ∈ entry) :
    c ∈ style.enclose level opening closing entries := by
  cases entries with
  | nil => cases hentry
  | cons first others =>
      rw [Style.enclose_cons]
      refine List.mem_append_right _ (List.mem_append_right _ (List.mem_append_left _ ?_))
      exact mem_joinWith_of_mem hentry hc

theorem IsSeparator.transmissible {mark : CodePoint} {t : Text} (ht : IsSeparator mark t)
    (hmark : mark.Transmissible) : ∀ c ∈ t, c.Transmissible := by
  obtain ⟨blanks, rfl, hblanks⟩ := ht
  intro c hc
  rcases List.mem_cons.mp hc with rfl | hc
  · exact hmark
  · exact transmissible_of_isBlank (hblanks c hc)

/-- Of transmissible entries a bracketed list without any other character is made. -/
theorem transmissible_enclose {style : Style} (hstyle : style.IsLayout) {level : Nat}
    {opening closing : Text} {entries : List Text}
    (hopening : ∀ c ∈ opening, c.Transmissible) (hclosing : ∀ c ∈ closing, c.Transmissible)
    (hentries : ∀ entry ∈ entries, ∀ c ∈ entry, c.Transmissible) :
    ∀ c ∈ style.enclose level opening closing entries, c.Transmissible := by
  intro c hc
  rcases mem_enclose hc with hc | hc | hc | hc | ⟨entry, hentry, hc⟩
  · exact hopening c hc
  · exact hclosing c hc
  · exact hstyle.comma.transmissible (by decide) c hc
  · exact transmissible_of_isBlank hc
  · exact hentries entry hentry c hc

theorem transmissible_member {style : Style} (hstyle : style.IsLayout) {key value : Text}
    (hkey : ∀ c ∈ writeText key, c.Transmissible) (hvalue : ∀ c ∈ value, c.Transmissible) :
    ∀ c ∈ member style key value, c.Transmissible := by
  intro c hc
  rcases List.mem_append.mp hc with hc | hc
  · rcases List.mem_append.mp hc with hc | hc
    · exact hkey c hc
    · exact hstyle.colon.transmissible (by decide) c hc
  · exact hvalue c hc

end Json

end EventEnvelope
