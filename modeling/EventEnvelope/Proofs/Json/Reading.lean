/-
  EventEnvelope.Proofs.Json.Reading
  ─────────────────────────────────
  **What reading a JSON document can give.**

  Whatever text or bytes are read, the result is a tree: its integers are within the digit limit,
  and its objects have text keys, each of them once.  The three readers call one another with less
  fuel, so one induction on the fuel carries all three at once.

    • `length_le_of_readNumber?` — the digits of an integer that was read,
    • `readable_readers`         — values, elements and members,
    • `readable_loads`           — documents,
    • `dumps_tree_error`         — a tree that cannot be written is the codec's fault.
-/
import Mathlib.Data.List.Induction
import EventEnvelope.Codec.Basic
import EventEnvelope.Proofs.Json.Trees

namespace EventEnvelope

namespace Json

/-! ## §1. Integers. -/

theorem digitValue?_lt {c : CodePoint} {d : Nat} (h : c.digitValue? = some d) : d < 10 := by
  unfold CodePoint.digitValue? at h
  split at h
  · cases h
    omega
  · cases h

theorem lt_of_mem_takeDigits {t : Text} : ∀ d ∈ (takeDigits t).1, d < 10 := by
  induction t with
  | nil => intro d hd; cases hd
  | cons c rest ih =>
      intro d hd
      rw [takeDigits] at hd
      split at hd
      next e he =>
        rcases List.mem_cons.mp hd with rfl | hd
        · exact digitValue?_lt he
        · exact ih d hd
      next => cases hd

/-- The whole part of a number has a digit, and digits only. -/
theorem takeWhole?_spec {t rest : Text} {digits : List Nat}
    (h : takeWhole? t = some (digits, rest)) : digits ≠ [] ∧ ∀ d ∈ digits, d < 10 := by
  cases t with
  | nil => cases h
  | cons c tail =>
      rw [takeWhole?] at h
      split at h
      next => cases h; decide
      next d _ hd =>
        cases h
        refine ⟨by simp, fun e he => ?_⟩
        rcases List.mem_cons.mp he with rfl | he
        · exact digitValue?_lt hd
        · exact lt_of_mem_takeDigits e he
      next => cases h

theorem natOfDigits_lt {digits : List Nat} (h : ∀ d ∈ digits, d < 10) :
    natOfDigits digits < 10 ^ digits.length := by
  induction digits using List.reverseRecOn with
  | nil => decide
  | append_singleton ds d ih =>
      have hd : d < 10 := h d (by simp)
      have hds := ih fun e he => h e (List.mem_append_left _ he)
      rw [natOfDigits_append, List.length_append, List.length_singleton, Nat.pow_succ]
      omega

/-- The whole part of a number that was read spells a number with no more digits than it has. -/
theorem length_le_of_readNumber? {t rest : Text} {number : NumberText}
    (h : readNumber? t = some (number, rest)) :
    (Text.ofNat (natOfDigits number.whole)).length ≤ number.whole.length := by
  unfold readNumber? at h
  simp only [Option.bind_eq_bind, Option.bind_eq_some_iff] at h
  -- fraction and exponent do not touch the whole part
  obtain ⟨⟨whole, tail⟩, hwhole, h⟩ := h
  obtain ⟨hne, hlt⟩ := takeWhole?_spec hwhole
  cases h
  rw [Text.length_ofNat_le (List.length_pos_of_ne_nil hne)]
  exact natOfDigits_lt hlt

theorem readable_number {t left : Text} {number : NumberText} {v : Value}
    (hread : readNumber? t = some (number, left)) (h : number.value = .ok v) : Readable v := by
  have hlength := length_le_of_readNumber? hread
  unfold NumberText.value at h
  split at h
  · split at h
    · cases h
    next hlimit =>
      -- an integer: its sign has no influence on the digits
      cases h
      refine .int _ ?_
      split
      · rw [Int.natAbs_neg, Int.natAbs_natCast]
        omega
      · rw [Int.natAbs_natCast]
        omega
  · cases h
    exact .float _ trivial

/-! ## §2. Values. -/

theorem readable_word {t left : Text} {v : Value} (h : readWord? t = some (v, left)) :
    Readable v := by
  have hwords : ∀ word ∈ words, Readable word.2 := by
    intro word hword
    simp only [words, List.mem_cons, List.not_mem_nil, or_false] at hword
    rcases hword with rfl | rfl | rfl | rfl | rfl | rfl
    · exact .null
    · exact .bool true
    · exact .bool false
    · exact .float _ trivial
    · exact .float _ trivial
    · exact .float _ trivial
  rw [readWord?, Option.map_eq_some_iff] at h
  obtain ⟨word, hfind, heq⟩ := h
  cases heq
  exact hwords word (List.mem_of_find?_eq_some hfind)

/-- Values read with this fuel are trees. -/
def ValuesReadable (fuel : Nat) : Prop :=
  ∀ t v left, readValue fuel t = .ok (v, left) → Readable v

/-- Elements read with this fuel are trees. -/
def ElementsReadable (fuel : Nat) : Prop :=
  ∀ t items left, readElements fuel t = .ok (items, left) → ∀ v ∈ items, Readable v

/-- Members read with this fuel have text keys and trees as values. -/
def MembersReadable (fuel : Nat) : Prop :=
  ∀ t members left, readMembers fuel t = .ok (members, left) →
    ∀ e ∈ members, (∃ t, e.1 = .text t) ∧ Readable e.2

theorem readable_object {members : Fields}
    (h : ∀ e ∈ members, (∃ t, e.1 = .text t) ∧ Readable e.2) :
    Readable (.object (OrderedMap.ofEntries members)) := by
  refine tree_ofEntries fun e he => ?_
  obtain ⟨⟨t, ht⟩, hvalue⟩ := h e he
  exact ⟨⟨t, ht, trivial⟩, hvalue⟩

theorem readable_readValue {fuel : Nat} (helements : ElementsReadable fuel)
    (hmembers : MembersReadable fuel) : ValuesReadable (fuel + 1) := by
  intro t v left h
  cases t with
  | nil => cases h
  | cons c rest =>
      rw [readValue] at h
      split at h
      · -- a string
        obtain ⟨⟨text, after⟩, -, hvalue⟩ := bind_eq_ok.mp h
        cases hvalue
        exact .text text trivial
      split at h
      · -- an object
        split at h
        · split at h
          · cases h
            exact .object [] OrderedMap.distinct_nil (by simp) (by simp)
          · obtain ⟨⟨members, after⟩, hread, hvalue⟩ := bind_eq_ok.mp h
            cases hvalue
            exact readable_object (hmembers _ _ _ hread)
        · cases h
      split at h
      · -- an array
        split at h
        · split at h
          · cases h
            exact .list [] (by simp)
          · obtain ⟨⟨items, after⟩, hread, hvalue⟩ := bind_eq_ok.mp h
            cases hvalue
            exact .list items (helements _ _ _ hread)
        · cases h
      · -- a word or a number
        split at h
        next hword =>
          cases h
          exact readable_word hword
        next =>
          split at h
          next hnumber =>
            obtain ⟨value, hvalue, heq⟩ := bind_eq_ok.mp h
            cases heq
            exact readable_number hnumber hvalue
          next => cases h

theorem readable_readElements {fuel : Nat} (hvalues : ValuesReadable fuel)
    (helements : ElementsReadable fuel) : ElementsReadable (fuel + 1) := by
  intro t items left h
  rw [readElements] at h
  -- one value, and then the closing bracket or a comma and the rest
  obtain ⟨⟨value, after⟩, hvalue, h⟩ := bind_eq_ok.mp h
  have hhead : Readable value := hvalues _ _ _ hvalue
  simp only at h
  split at h
  · cases h
  split at h
  · cases h
    exact List.forall_mem_singleton.mpr hhead
  split at h
  · obtain ⟨⟨values, after⟩, hread, heq⟩ := bind_eq_ok.mp h
    cases heq
    exact List.forall_mem_cons.mpr ⟨hhead, helements _ _ _ hread⟩
  · cases h

theorem readable_readMembers {fuel : Nat} (hvalues : ValuesReadable fuel)
    (hmembers : MembersReadable fuel) : MembersReadable (fuel + 1) := by
  intro t members left h
  cases t with
  | nil => cases h
  | cons c rest =>
      rw [readMembers] at h
      split at h
      -- a key, a colon and a value, and then the closing brace or a comma and the rest
      · obtain ⟨⟨key, after⟩, -, h⟩ := bind_eq_ok.mp h
        simp only at h
        split at h
        · cases h
        split at h
        · obtain ⟨⟨value, after⟩, hvalue, h⟩ := bind_eq_ok.mp h
          have hhead : (∃ t, Value.text key = .text t) ∧ Readable value :=
            ⟨⟨key, rfl⟩, hvalues _ _ _ hvalue⟩
          simp only at h
          split at h
          · cases h
          split at h
          · cases h
            exact List.forall_mem_singleton.mpr hhead
          split at h
          · obtain ⟨⟨others, after⟩, hread, heq⟩ := bind_eq_ok.mp h
            cases heq
            exact List.forall_mem_cons.mpr ⟨hhead, hmembers _ _ _ hread⟩
          · cases h
        · cases h
      · cases h

/-- **The three readers give trees**, whatever the fuel. -/
theorem readable_readers (fuel : Nat) :
    ValuesReadable fuel ∧ ElementsReadable fuel ∧ MembersReadable fuel := by
  induction fuel with
  | zero =>
      refine ⟨fun t v left h => ?_, fun t items left h => ?_, fun t members left h => ?_⟩
      · cases h
      · cases h
      · cases h
  | succ fuel ih =>
      obtain ⟨hvalues, helements, hmembers⟩ := ih
      exact ⟨readable_readValue helements hmembers, readable_readElements hvalues helements,
        readable_readMembers hvalues hmembers⟩

/-! ## §3. Documents. -/

theorem readable_readPlaced {t : Text} {v : Value} (h : readPlaced t = .ok v) : Readable v := by
  unfold readPlaced at h
  split at h
  next value hwhole =>
    cases h
    obtain ⟨⟨value, left⟩, hread, h⟩ := bind_eq_ok.mp hwhole
    simp only at h
    split at h
    · cases h
      exact (readable_readers _).1 _ _ _ hread
    · cases h
  next => cases h
  next => cases h

theorem readable_readBytes {bytes : Bytes} {v : Value} (h : readBytes bytes = .ok v) :
    Readable v := by
  unfold readBytes at h
  split at h
  · exact readable_readPlaced h
  · cases h

theorem readable_read {document v : Value} (h : read document = .ok v) : Readable v := by
  unfold read at h
  split at h
  · split at h
    · cases h
    · exact readable_readPlaced h
  · exact readable_readBytes h
  · exact readable_readBytes h
  · cases h

end Json

/-- **What the codec reads is a tree.** -/
theorem Codec.readable_loads {document v : Value} (h : Codec.loads document = .ok v) :
    Json.Readable v := Json.readable_read (loads_eq_ok.mp h)

/-- What cannot be written of a tree is the codec's fault, never that of arithmetic. -/
theorem Codec.dumps_tree_error {floats : Binary64 → Prop} {texts : Text → Prop} {v : Value}
    (hv : Json.Tree floats texts v) {failure : Failure} (h : Codec.dumps v = .error failure) :
    ∃ fault, failure = .codec fault := by
  -- a tree always has a text, so only its UTF-8 form can be missing
  obtain ⟨text, hwrite⟩ := Json.write_tree .compact hv 0
  unfold dumps Json.encode at h
  rw [hwrite, ok_bind] at h
  cases hencode : Utf8.encode text with
  | ok bytes =>
      rw [hencode] at h
      cases h
  | error fault =>
      rw [hencode] at h
      cases h
      exact ⟨_, rfl⟩

end EventEnvelope
