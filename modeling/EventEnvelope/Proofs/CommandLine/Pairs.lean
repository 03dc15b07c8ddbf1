/-
  EventEnvelope.Proofs.CommandLine.Pairs
  ──────────────────────────────────────
  **Headers given as pairs.**

  A pair is parted at its first `=`: what is before it is the name of a header, what is behind it
  the value, which may hold further ones; a pair without `=` gives an empty value.  Of several
  pairs with one name the last one counts.

    • `Gives`, `exists_gives`     — what a single pair gives, and that it always gives something,
    • `LastGives`                 — what a list of pairs gives in the end,
    • `get?_headersOf`            — the headers of a list of pairs hold exactly that.
-/
import EventEnvelope.CommandLine.Run
import EventEnvelope.Proofs.Json.Trees
import Mathlib.Data.List.Induction

namespace EventEnvelope.CommandLine

/-! ## §1. One pair. -/

/-- What a pair gives: the name of a header and its value. -/
inductive Gives : (pair name value : Text) → Prop
  | parted (name value : Text) (h : CodePoint.ofChar '=' ∉ name) :
      Gives (name ++ CodePoint.ofChar '=' :: value) name value
  | bare (name : Text) (h : CodePoint.ofChar '=' ∉ name) : Gives name name []

/-- What does not hold the mark is passed over on the way to it. -/
theorem splitFirst_append {mark : CodePoint} {name : Text} (h : mark ∉ name) (value : Text) :
    Text.splitFirst mark (name ++ mark :: value) = (name, some value) := by
  have hname : ∀ c ∈ name, decide (c ≠ mark) = true := by
    intro c hc
    rw [decide_eq_true_eq]
    rintro rfl
    exact h hc
  rw [Text.splitFirst, List.dropWhile_append_of_pos hname, List.dropWhile_cons_of_neg (by simp),
    List.takeWhile_append_of_pos hname, List.takeWhile_cons_of_neg (by simp), List.append_nil]

theorem splitFirst_of_notMem {mark : CodePoint} {t : Text} (h : mark ∉ t) :
    Text.splitFirst mark t = (t, none) := by
  have hall : t.dropWhile (· ≠ mark) = [] := by
    rw [List.dropWhile_eq_nil_iff]
    intro c hc
    rw [decide_eq_true_eq]
    rintro rfl
    exact h hc
  rw [Text.splitFirst, hall]

/-- Every pair gives something. -/
theorem exists_gives (pair : Text) : ∃ name value, Gives pair name value := by
  by_cases hmark : CodePoint.ofChar '=' ∈ pair
  · obtain ⟨name, value, rfl, hname⟩ := List.eq_append_cons_of_mem hmark
    exact ⟨name, value, .parted name value hname⟩
  · exact ⟨pair, [], .bare pair hmark⟩

/-- **A pair is taken for what it gives.** -/
theorem headerOf_of_gives {pair name value : Text} (h : Gives pair name value) :
    headerOf pair = (.text name, .text value) := by
  cases h with
  | parted _ _ hname =>
      rw [headerOf, splitFirst_append hname]
      rfl
  | bare _ hname =>
      rw [headerOf, splitFirst_of_notMem hname]
      rfl

/-- So it gives one thing only. -/
theorem Gives.unique {pair name value name' value' : Text} (h : Gives pair name value)
    (h' : Gives pair name' value') : name = name' ∧ value = value' := by
  have hheader := (headerOf_of_gives h).symm.trans (headerOf_of_gives h')
  cases hheader
  exact ⟨rfl, rfl⟩

/-- Neither part holds a character that the pair does not hold. -/
theorem Gives.hasSurrogate {pair name value : Text} (h : Gives pair name value)
    (hpair : pair.hasSurrogate = false) :
    name.hasSurrogate = false ∧ value.hasSurrogate = false := by
  cases h with
  | parted _ _ _ =>
      rw [Text.hasSurrogate_append, Text.hasSurrogate_cons] at hpair
      simp only [Bool.or_eq_false_iff] at hpair
      exact ⟨hpair.1, hpair.2.2⟩
  | bare _ _ => exact ⟨hpair, rfl⟩

/-! ## §2. All pairs. -/

/-- The last pair with the name gives it this value. -/
def LastGives (pairs : List Text) (name value : Text) : Prop :=
  ∃ before pair after, pairs = before ++ pair :: after ∧ Gives pair name value
    ∧ ∀ later ∈ after, ∀ other, ¬ Gives later name other

/-- A further pair counts for its own name, and for no other one. -/
theorem lastGives_concat {pairs : List Text} {pair name value name' value' : Text}
    (hpair : Gives pair name' value') :
    LastGives (pairs ++ [pair]) name value
      ↔ if name' = name then value' = value else LastGives pairs name value := by
  constructor
  · rintro ⟨before, last, after, heq, hgives, hlater⟩
    rcases List.eq_nil_or_concat after with rfl | ⟨after, final, rfl⟩
    · obtain ⟨rfl, hlast⟩ := List.append_inj' heq rfl
      cases hlast
      obtain ⟨rfl, rfl⟩ := hgives.unique hpair
      simp
    · rw [List.concat_eq_append] at heq hlater
      rw [← List.cons_append, ← List.append_assoc] at heq
      obtain ⟨rfl, hfinal⟩ := List.append_inj' heq rfl
      cases hfinal
      -- the final pair has another name, or it would be the last one
      have hother : name' ≠ name := by
        rintro rfl
        exact hlater pair (by simp) value' hpair
      rw [if_neg hother]
      exact ⟨before, last, after, rfl, hgives, fun later hmem => hlater later (by simp [hmem])⟩
  · intro h
    split at h
    next hname =>
      subst hname h
      exact ⟨pairs, pair, [], rfl, hpair, by simp⟩
    next hname =>
      obtain ⟨before, last, after, rfl, hgives, hlater⟩ := h
      refine ⟨before, last, after ++ [pair], by simp, hgives, fun later hmem other hsame => ?_⟩
      rcases List.mem_append.mp hmem with hmem | hmem
      · exact hlater later hmem other hsame
      · rw [List.mem_singleton.mp hmem] at hsame
        exact hname (hsame.unique hpair).1.symm

theorem headersOf_concat (pairs : List Text) (pair : Text) :
    headersOf (pairs ++ [pair])
      = (headersOf pairs).insert (headerOf pair).1 (headerOf pair).2 := by
  rw [headersOf, List.map_append, OrderedMap.ofEntries, OrderedMap.overlay_append]
  rfl

/-- Every key is a text, and so is every value. -/
theorem texts_of_mem_headersOf {pairs : List Text} :
    ∀ e ∈ headersOf pairs, (∃ name, e.1 = .text name) ∧ ∃ value, e.2 = .text value := by
  refine OrderedMap.forall_mem_overlay (P := fun k => ∃ name, k = Value.text name)
    (Q := fun v => ∃ value, v = Value.text value) (fun e he => absurd he List.not_mem_nil)
    fun e he => ?_
  obtain ⟨pair, -, rfl⟩ := List.mem_map.mp he
  obtain ⟨name, value, hgives⟩ := exists_gives pair
  rw [headerOf_of_gives hgives]
  exact ⟨⟨name, rfl⟩, value, rfl⟩

/-- **The headers of a list of pairs** hold what the last pair with a name gives, -/
theorem get?_headersOf {pairs : List Text} {name value : Text} :
    (headersOf pairs).get? (.text name) = some (.text value) ↔ LastGives pairs name value := by
  induction pairs using List.reverseRecOn with
  | nil =>
      constructor
      · rintro ⟨⟩
      · rintro ⟨before, last, after, heq, -⟩
        simp at heq
  | append_singleton pairs pair ih =>
      obtain ⟨name', value', hpair⟩ := exists_gives pair
      rw [headersOf_concat, headerOf_of_gives hpair, OrderedMap.get?_insert, Value.text_beq_text,
        lastGives_concat hpair]
      by_cases hname : name' = name
      · simp [hname]
      · simp [hname, ih]

/-- and nothing else. -/
theorem lastGives_of_get? {pairs : List Text} {name : Text} {v : Value}
    (h : (headersOf pairs).get? (.text name) = some v) :
    ∃ value, v = .text value ∧ LastGives pairs name value := by
  obtain ⟨k, -, hmem⟩ := OrderedMap.mem_of_get? h
  obtain ⟨value, hvalue⟩ := (texts_of_mem_headersOf _ hmem).2
  have hv : v = .text value := hvalue
  rw [hv] at h
  exact ⟨value, hv, get?_headersOf.mp h⟩

/-- They are a tree if all that is given is admitted there. -/
theorem tree_headersOf {floats : Binary64 → Prop} {texts : Text → Prop} {pairs : List Text}
    (h : ∀ pair ∈ pairs, ∀ name value, Gives pair name value → texts name ∧ texts value) :
    Json.Tree floats texts (.object (headersOf pairs)) := by
  refine Json.tree_ofEntries fun e he => ?_
  obtain ⟨pair, hpair, rfl⟩ := List.mem_map.mp he
  obtain ⟨name, value, hgives⟩ := exists_gives pair
  obtain ⟨hname, hvalue⟩ := h pair hpair name value hgives
  rw [headerOf_of_gives hgives]
  exact ⟨⟨name, rfl, hname⟩, .text value hvalue⟩

end EventEnvelope.CommandLine
