/-
  EventEnvelope.Proofs.Json.Trees
  ───────────────────────────────
  **JSON trees, and that they can be written.**

  A tree is a value made of null, truth values, integers within the digit limit, doubles, texts,
  lists and maps with text keys.  Which doubles and which texts may occur is a parameter: the
  reader yields trees with any doubles and any texts (`Readable`), and what has a UTF-8 form holds
  no surrogate (`Encodable`), and perhaps no double either (`Exact`).

    • `Tree`, `TreeOf`, `Readable`, `Encodable`, `Exact` — the trees,
    • `tree_ofEntries`, `tree_merge`   — trees from the entries of trees,
    • `write_tree`                     — every tree can be written, in every style,
    • `writeItems_eq_ok`, `writeFields_eq_ok` — entries are written one by one,
    • `write_record`                   — a record is written as an object,
    • `transmissible_write`            — a tree without surrogates is written without any,
    • `encodable_of_write`             — and only such a tree is.
-/
import Mathlib.Data.List.Forall2
import EventEnvelope.Proofs.Computation
import EventEnvelope.Proofs.OrderedMap
import EventEnvelope.Proofs.Json.Doubles
import EventEnvelope.Proofs.Json.Layout
import EventEnvelope.Proofs.Json.Strings

namespace EventEnvelope

namespace Json

/-! ## §1. Trees. -/

/-- A JSON tree whose doubles and texts, keys among them, meet a condition. -/
inductive Tree (floats : Binary64 → Prop) (texts : Text → Prop) : Value → Prop
  | null : Tree floats texts .null
  | bool (b : Bool) : Tree floats texts (.bool b)
  | int (n : Int) (hdigits : (Text.ofNat n.natAbs).length ≤ digitLimit) :
      Tree floats texts (.int n)
  | float (x : Binary64) (hx : floats x) : Tree floats texts (.float x)
  | text (t : Text) (ht : texts t) : Tree floats texts (.text t)
  | list (items : List Value) (hitems : ∀ v ∈ items, Tree floats texts v) :
      Tree floats texts (.list items)
  | object (fields : Fields) (hdistinct : fields.Distinct)
      (hkeys : ∀ e ∈ fields, ∃ t, e.1 = .text t ∧ texts t)
      (hvalues : ∀ e ∈ fields, Tree floats texts e.2) : Tree floats texts (.object fields)

/-- A tree of these texts and any doubles. -/
abbrev TreeOf (texts : Text → Prop) : Value → Prop := Tree (fun _ => True) texts

/-- What the reader can yield. -/
abbrev Readable : Value → Prop := TreeOf fun _ => True

/-- What survives the way through bytes as it is. -/
abbrev Encodable : Value → Prop := TreeOf fun t => t.hasSurrogate = false

/-- What survives and holds no double. -/
abbrev Exact : Value → Prop := Tree (fun _ => False) (fun t => t.hasSurrogate = false)

variable {floats : Binary64 → Prop} {texts : Text → Prop}

/-- A tree meets weaker conditions as well. -/
theorem Tree.mono {floats' : Binary64 → Prop} {texts' : Text → Prop}
    (hfloats : ∀ x, floats x → floats' x) (htexts : ∀ t, texts t → texts' t) {v : Value}
    (hv : Tree floats texts v) : Tree floats' texts' v := by
  induction hv with
  | null => exact .null
  | bool b => exact .bool b
  | int n hdigits => exact .int n hdigits
  | float x hx => exact .float x (hfloats x hx)
  | text t ht => exact .text t (htexts t ht)
  | list items _ ih => exact .list items ih
  | object fields hdistinct hkeys _ ih =>
      refine .object fields hdistinct (fun e he => ?_) ih
      obtain ⟨t, hkey, ht⟩ := hkeys e he
      exact ⟨t, hkey, htexts t ht⟩

theorem Exact.encodable {v : Value} (hv : Exact v) : Encodable v :=
  hv.mono (fun _ _ => trivial) fun _ h => h

theorem Tree.distinct {fields : Fields} (h : Tree floats texts (.object fields)) :
    fields.Distinct := by
  cases h with
  | object _ hdistinct _ _ => exact hdistinct

theorem Tree.entries {fields : Fields} (h : Tree floats texts (.object fields)) :
    ∀ e ∈ fields, (∃ t, e.1 = .text t ∧ texts t) ∧ Tree floats texts e.2 := by
  cases h with
  | object _ _ hkeys hvalues => exact fun e he => ⟨hkeys e he, hvalues e he⟩

/-- Entries with texts as keys and trees as values leave a tree when they are written one by one. -/
theorem tree_ofEntries {entries : List (Value × Value)}
    (h : ∀ e ∈ entries, (∃ t, e.1 = .text t ∧ texts t) ∧ Tree floats texts e.2) :
    Tree floats texts (.object (OrderedMap.ofEntries entries)) := by
  -- of equal keys the last value counts, so every key and every value is one that was there
  have hall : ∀ e ∈ OrderedMap.ofEntries entries,
      (∃ t, e.1 = .text t ∧ texts t) ∧ Tree floats texts e.2 :=
    OrderedMap.forall_mem_overlay (P := fun k => ∃ t, k = Value.text t ∧ texts t)
      (Q := Tree floats texts) (fun e he => absurd he List.not_mem_nil) h
  exact .object _ (OrderedMap.distinct_ofEntries entries) (fun e he => (hall e he).1)
    fun e he => (hall e he).2

/-- Fields with names as entries with texts as keys. -/
def keyed (fields : List (Text × Value)) : Fields := fields.map fun f => (.text f.1, f.2)

/-- An object with different names is a tree if its names and values are admitted. -/
theorem tree_named {fields : List (Text × Value)} (hnames : (fields.map Prod.fst).Nodup)
    (htexts : ∀ t ∈ fields.map Prod.fst, texts t)
    (hvalues : ∀ v ∈ fields.map Prod.snd, Tree floats texts v) :
    Tree floats texts (.object (keyed fields)) := by
  refine .object _ ?_ (fun e he => ?_) fun e he => ?_
  · rw [List.nodup_iff_pairwise_ne, List.pairwise_map] at hnames
    rw [OrderedMap.Distinct, keyed, List.pairwise_map]
    exact hnames.imp fun hne => by simpa using hne
  · obtain ⟨f, hf, rfl⟩ := List.mem_map.mp he
    exact ⟨f.1, rfl, htexts _ (List.mem_map_of_mem hf)⟩
  · obtain ⟨f, hf, rfl⟩ := List.mem_map.mp he
    exact hvalues _ (List.mem_map_of_mem hf)

/-- A map of text keys stays one when a key is dropped, -/
theorem Tree.erase {fields : Fields} (h : Tree floats texts (.object fields)) (key : Value) :
    Tree floats texts (.object (fields.erase key)) :=
  .object _ (h.distinct.erase key) (fun e he => (h.entries e (List.mem_filter.mp he).1).1)
    fun e he => (h.entries e (List.mem_filter.mp he).1).2

/-- and when it is merged with others. -/
theorem tree_merge {sources : List (Option Fields)} {markers : Option Fields}
    (hsources : ∀ source ∈ sources, Tree floats texts (.object (source.getD [])))
    (hmarkers : Tree floats texts (.object (markers.getD []))) :
    Tree floats texts (.object (OrderedMap.merge sources markers)) := by
  rw [OrderedMap.merge_eq_ofEntries]
  refine tree_ofEntries fun e he => ?_
  rcases List.mem_append.mp he with he | he
  · obtain ⟨source, hsource, he⟩ := List.mem_flatMap.mp he
    exact (hsources source hsource).entries e he
  · exact hmarkers.entries e he

/-- What a tree holds at a key is a tree. -/
theorem Tree.of_get? {fields : Fields} (h : Tree floats texts (.object fields)) {key v : Value}
    (hv : fields.get? key = some v) : Tree floats texts v := by
  obtain ⟨k, -, hmem⟩ := OrderedMap.mem_of_get? hv
  cases h with
  | object _ _ _ hvalues => exact hvalues _ hmem

/-- A field that is missing counts as null. -/
theorem Tree.getD_null {fields : Fields} (h : Tree floats texts (.object fields)) (key : Value) :
    Tree floats texts ((fields.get? key).getD .null) := by
  cases hget : fields.get? key with
  | none => exact .null
  | some v => exact h.of_get? hget

/-! ## §2. Entries one by one. -/

variable {style : Style}

theorem length_le_of_writeInt {n : Int} {text : Text} (h : writeInt n = .ok text) :
    (Text.ofNat n.natAbs).length ≤ digitLimit := by
  unfold writeInt Text.ofInt? at h
  by_contra hlimit
  rw [if_pos (not_le.mp hlimit)] at h
  cases h

theorem writeInt_eq_ok {n : Int} (h : (Text.ofNat n.natAbs).length ≤ digitLimit) :
    writeInt n = .ok (Text.ofInt n) := by
  rw [writeInt, Text.ofInt?, if_neg (not_lt.mpr h)]

/-- The elements of a list are written one by one. -/
theorem writeItems_eq_ok {level : Nat} {items : List Value} {entries : List Text} :
    writeItems style level items = .ok entries
      ↔ List.Forall₂ (fun v text => write style level v = .ok text) items entries := by
  induction items generalizing entries with
  | nil => simp [writeItems, eq_comm]
  | cons v rest ih =>
      simp only [writeItems, bind_eq_ok, List.forall₂_cons_left_iff]
      constructor
      · rintro ⟨text, htext, texts, htexts, hentries⟩
        cases hentries
        exact ⟨text, texts, htext, ih.mp htexts, rfl⟩
      · rintro ⟨text, texts, htext, htexts, rfl⟩
        exact ⟨text, htext, texts, ih.mpr htexts, rfl⟩

/-- What is written for a field: the text of its key and of its value. -/
def WritesField (style : Style) (level : Nat) (field : Value × Value) (entry : Text) : Prop :=
  ∃ key value, keyText field.1 = .ok key ∧ write style level field.2 = .ok value
    ∧ entry = member style key value

/-- The fields of an object are written one by one. -/
theorem writeFields_eq_ok {level : Nat} {fields : Fields} {entries : List Text} :
    writeFields style level fields = .ok entries
      ↔ List.Forall₂ (WritesField style level) fields entries := by
  induction fields generalizing entries with
  | nil => simp [writeFields, eq_comm]
  | cons field rest ih =>
      obtain ⟨k, v⟩ := field
      simp only [writeFields, bind_eq_ok, List.forall₂_cons_left_iff]
      constructor
      · rintro ⟨key, hkey, value, hvalue, texts, htexts, hentries⟩
        cases hentries
        exact ⟨_, texts, ⟨key, value, hkey, hvalue, rfl⟩, ih.mp htexts, rfl⟩
      · rintro ⟨_, texts, ⟨key, value, hkey, hvalue, rfl⟩, htexts, rfl⟩
        exact ⟨key, hkey, value, hvalue, texts, ih.mpr htexts, rfl⟩

/-- What the codec knows it converts. -/
theorem substitute_convert (hstyle : style.fallback = .convert) (v : Value)
    (converted : Except WriteFault Text) : substitute style v converted = converted := by
  rw [substitute, hstyle]

theorem writeNamed_eq (level : Nat) (fields : List (Text × Value)) :
    writeNamed style level fields = writeFields style level (keyed fields) := by
  induction fields with
  | nil => rfl
  | cons field rest ih =>
      obtain ⟨name, v⟩ := field
      rw [writeNamed, ih]
      rfl

/-- **A record is written as the object of its fields**, once it has been copied. -/
theorem write_record (hstyle : style.fallback = .convert) (level : Nat) (className : Text)
    {fields : List (Text × Value)} (hcopy : namedCopyFault? fields = none) :
    write style level (.record className fields) = write style level (.object (keyed fields)) := by
  conv_lhs => rw [write]
  rw [substitute_convert hstyle, hcopy, write, writeNamed_eq]

/-- A relation that leaves nothing out on its left side covers whole lists. -/
theorem exists_forall₂ {α β : Type} {R : α → β → Prop} {l : List α}
    (h : ∀ a ∈ l, ∃ b, R a b) : ∃ l', List.Forall₂ R l l' := by
  induction l with
  | nil => exact ⟨[], .nil⟩
  | cons a rest ih =>
      obtain ⟨b, hb⟩ := h a List.mem_cons_self
      obtain ⟨l', hl'⟩ := ih fun c hc => h c (List.mem_cons_of_mem _ hc)
      exact ⟨b :: l', .cons hb hl'⟩

/-- What stands on the right of a relation between lists has a partner on the left. -/
theorem forall₂_mem_right {α β : Type} {R : α → β → Prop} {l : List α} {l' : List β}
    (h : List.Forall₂ R l l') : ∀ b ∈ l', ∃ a ∈ l, R a b := by
  induction h with
  | nil => intro b hb; cases hb
  | cons hab _ ih =>
      intro b hb
      rcases List.mem_cons.mp hb with rfl | hb
      · exact ⟨_, List.mem_cons_self, hab⟩
      · obtain ⟨a, ha, hR⟩ := ih b hb
        exact ⟨a, List.mem_cons_of_mem _ ha, hR⟩

theorem forall₂_mem_left {α β : Type} {R : α → β → Prop} {l : List α} {l' : List β}
    (h : List.Forall₂ R l l') : ∀ a ∈ l, ∃ b ∈ l', R a b :=
  forall₂_mem_right h.flip

/-- What every left partner forces on its right one may replace the relation. -/
theorem forall₂_imp_mem {α β : Type} {R S : α → β → Prop} {l : List α} {l' : List β}
    (h : List.Forall₂ R l l') (himp : ∀ a ∈ l, ∀ b, R a b → S a b) : List.Forall₂ S l l' := by
  induction h with
  | nil => exact .nil
  | cons hab _ ih =>
      exact .cons (himp _ List.mem_cons_self _ hab)
        (ih fun a ha => himp a (List.mem_cons_of_mem _ ha))

/-! ## §3. Trees can be written. -/

theorem write_list_eq_ok {level : Nat} {items : List Value} {text : Text} :
    write style level (.list items) = .ok text
      ↔ ∃ entries, List.Forall₂ (fun v t => write style (level + 1) v = .ok t) items entries
          ∧ text = style.enclose level "[" "]" entries := by
  rw [write, bind_eq_ok]
  simp only [writeItems_eq_ok]
  constructor
  · rintro ⟨entries, hentries, ⟨⟩⟩
    exact ⟨entries, hentries, rfl⟩
  · rintro ⟨entries, hentries, rfl⟩
    exact ⟨entries, hentries, rfl⟩

theorem write_object_eq_ok {level : Nat} {fields : Fields} {text : Text} :
    write style level (.object fields) = .ok text
      ↔ ∃ entries, List.Forall₂ (WritesField style (level + 1)) fields entries
          ∧ text = style.enclose level "\x7b" "\x7d" entries := by
  rw [write, bind_eq_ok]
  simp only [writeFields_eq_ok]
  constructor
  · rintro ⟨entries, hentries, ⟨⟩⟩
    exact ⟨entries, hentries, rfl⟩
  · rintro ⟨entries, hentries, rfl⟩
    exact ⟨entries, hentries, rfl⟩

/-- **Every tree can be written**, in every style and at every level. -/
theorem write_tree (style : Style) {v : Value} (hv : Tree floats texts v) (level : Nat) :
    ∃ text, write style level v = .ok text := by
  induction hv generalizing level with
  | null => exact ⟨_, rfl⟩
  | bool b => exact ⟨_, rfl⟩
  | int n hdigits => exact ⟨_, writeInt_eq_ok hdigits⟩
  | float x _ => exact ⟨_, rfl⟩
  | text t _ => exact ⟨_, rfl⟩
  | list items _ ih =>
      obtain ⟨entries, hentries⟩ := exists_forall₂ fun v hv => ih v hv (level + 1)
      exact ⟨_, write_list_eq_ok.mpr ⟨entries, hentries, rfl⟩⟩
  | object fields _ hkeys _ ih =>
      -- a text is its own key, so only the value could stop the writer
      have hall : ∀ e ∈ fields, ∃ entry, WritesField style (level + 1) e entry := by
        intro e he
        obtain ⟨t, hkey, -⟩ := hkeys e he
        obtain ⟨value, hvalue⟩ := ih e he (level + 1)
        refine ⟨_, t, value, ?_, hvalue, rfl⟩
        rw [hkey]
        rfl
      obtain ⟨entries, hentries⟩ := exists_forall₂ hall
      exact ⟨_, write_object_eq_ok.mpr ⟨entries, hentries, rfl⟩⟩

/-! ## §4. What a written tree holds. -/

theorem keyText_text (t : Text) : keyText (.text t) = .ok t := rfl

/-- **A tree without surrogates is written without surrogates**, and without null characters. -/
theorem transmissible_write (hstyle : style.IsLayout) {v : Value} (hv : Encodable v) {level : Nat}
    {text : Text} (h : write style level v = .ok text) : ∀ c ∈ text, c.Transmissible := by
  induction hv generalizing level text with
  | null =>
      cases h
      decide
  | bool b =>
      cases h
      cases b <;> decide
  | int n hdigits =>
      rw [write, writeInt_eq_ok hdigits] at h
      cases h
      exact Text.transmissible_ofInt n
  | float x _ =>
      cases h
      exact transmissible_writeFloat x
  | text t ht =>
      cases h
      exact transmissible_writeText ht
  | list items _ ih =>
      -- brackets, commas and blanks are ASCII; each entry is the text of an element
      obtain ⟨entries, hentries, rfl⟩ := write_list_eq_ok.mp h
      refine transmissible_enclose hstyle (by decide) (by decide) fun entry hentry => ?_
      obtain ⟨v, hv, hwrite⟩ := forall₂_mem_right hentries entry hentry
      exact ih v hv hwrite
  | object fields _ hkeys _ ih =>
      obtain ⟨entries, hentries, rfl⟩ := write_object_eq_ok.mp h
      refine transmissible_enclose hstyle (by decide) (by decide) fun entry hentry => ?_
      obtain ⟨field, hfield, key, value, hkey, hvalue, rfl⟩ :=
        forall₂_mem_right hentries entry hentry
      -- a key is written like any other text
      obtain ⟨t, htext, ht⟩ := hkeys field hfield
      rw [htext, keyText_text] at hkey
      cases hkey
      exact transmissible_member hstyle (transmissible_writeText ht) (ih field hfield hvalue)

/-- A part of a text without surrogates has none either. -/
theorem hasSurrogate_of_subset {s t : Text} (hsub : s ⊆ t) (h : t.hasSurrogate = false) :
    s.hasSurrogate = false :=
  Text.hasSurrogate_eq_false.mpr fun c hc => Text.hasSurrogate_eq_false.mp h c (hsub hc)

/-- **A tree that is written without surrogates has none itself.** -/
theorem encodable_of_write {v : Value} (hv : Readable v) {level : Nat} {text : Text}
    (h : write style level v = .ok text) (hsurrogate : text.hasSurrogate = false) :
    Encodable v := by
  induction hv generalizing level text with
  | null => exact .null
  | bool b => exact .bool b
  | int n hdigits => exact .int n hdigits
  | float x hx => exact .float x hx
  | text t _ =>
      cases h
      exact .text t (hasSurrogate_of_writeText hsurrogate)
  | list items _ ih =>
      obtain ⟨entries, hentries, rfl⟩ := write_list_eq_ok.mp h
      refine .list items fun v hv => ?_
      obtain ⟨entry, hentry, hwrite⟩ := forall₂_mem_left hentries v hv
      exact ih v hv hwrite
        (hasSurrogate_of_subset (fun c hc => mem_enclose_of_mem hentry hc) hsurrogate)
  | object fields hdistinct hkeys _ ih =>
      obtain ⟨entries, hentries, rfl⟩ := write_object_eq_ok.mp h
      -- a member is its key, a colon and its value, each without surrogates
      have hparts : ∀ field ∈ fields, ∃ key value, keyText field.1 = .ok key
          ∧ write style (level + 1) field.2 = .ok value ∧ (writeText key).hasSurrogate = false
          ∧ value.hasSurrogate = false := by
        intro field hfield
        obtain ⟨entry, hentry, key, value, hkey, hvalue, rfl⟩ :=
          forall₂_mem_left hentries field hfield
        have hmember := hasSurrogate_of_subset (fun c hc => mem_enclose_of_mem hentry hc)
          hsurrogate
        refine ⟨key, value, hkey, hvalue, ?_, ?_⟩
        · exact hasSurrogate_of_subset
            (fun c hc => List.mem_append_left _ (List.mem_append_left _ hc)) hmember
        · exact hasSurrogate_of_subset (fun c hc => List.mem_append_right _ hc) hmember
      refine .object fields hdistinct (fun field hfield => ?_) fun field hfield => ?_
      · obtain ⟨key, value, hkey, -, hclean, -⟩ := hparts field hfield
        obtain ⟨t, htext, -⟩ := hkeys field hfield
        rw [htext, keyText_text] at hkey
        cases hkey
        exact ⟨_, htext, hasSurrogate_of_writeText hclean⟩
      · obtain ⟨key, value, -, hvalue, -, hclean⟩ := hparts field hfield
        exact ih field hfield hvalue hclean

end Json

end EventEnvelope
