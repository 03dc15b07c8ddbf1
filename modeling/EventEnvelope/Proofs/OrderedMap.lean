/-
  EventEnvelope.Proofs.OrderedMap
  ───────────────────────────────
  **Ordered maps through look-up.**

  A list of entries is a map when no two entries have the same key.  Everything that writes
  keeps this, and on maps each operation is determined by what look-up finds afterwards:

    • `Distinct`               — no two entries have the same key,
    • `get?_overlay`           — the map written last wins,
    • `get?_merge`             — the same over a whole list of sources and the markers after them,
    • `get?_erase`             — a dropped key is gone and no other one,
    • `ofEntries_of_distinct`  — a list that is a map already is left as it is,
    • `merge_singleton`        — so is a single source that is merged,
    • `keys_merge`             — the keys of a merge come in the order of their first appearance,
    • `merge_merge`            — merging in stages is merging at once.
-/
import EventEnvelope.OrderedMap

namespace EventEnvelope

namespace OrderedMap

variable {κ ν : Type _} [BEq κ]

/-! ## §1. Maps among the lists of entries. -/

/-- No two entries have the same key. -/
def Distinct (m : OrderedMap κ ν) : Prop := m.Pairwise fun a b => (a.1 == b.1) = false

theorem distinct_nil : Distinct ([] : OrderedMap κ ν) := List.Pairwise.nil

theorem distinct_cons {entry : κ × ν} {rest : OrderedMap κ ν} :
    Distinct (entry :: rest)
      ↔ (∀ e ∈ rest, (entry.1 == e.1) = false) ∧ Distinct rest :=
  List.pairwise_cons

/-- Being a map is a matter of the keys alone. -/
theorem distinct_iff_keys {m : OrderedMap κ ν} :
    Distinct m ↔ m.keys.Pairwise fun a b => (a == b) = false := by
  rw [keys, List.pairwise_map]
  rfl

/-- No map at all counts as the empty one. -/
theorem distinct_getD {source : Option (OrderedMap κ ν)} (h : ∀ m, source = some m → Distinct m) :
    Distinct (source.getD []) := by
  cases source with
  | none => exact distinct_nil
  | some m => exact h m rfl

theorem Distinct.erase {m : OrderedMap κ ν} (h : Distinct m) (key : κ) :
    Distinct (m.erase key) :=
  List.Pairwise.sublist List.filter_sublist h

/-- A key that no entry has is not found. -/
theorem get?_eq_none {m : OrderedMap κ ν} {key : κ}
    (h : ∀ e ∈ m, (e.1 == key) = false) : m.get? key = none := by
  induction m with
  | nil => rfl
  | cons entry rest ih =>
      obtain ⟨k, v⟩ := entry
      have hk : (k == key) = false := h (k, v) List.mem_cons_self
      simp [get?, hk, ih fun e he => h e (List.mem_cons_of_mem _ he)]

/-- A key that is found belongs to an entry. -/
theorem mem_of_get? {m : OrderedMap κ ν} {key : κ} {value : ν} (h : m.get? key = some value) :
    ∃ k, (k == key) = true ∧ (k, value) ∈ m := by
  induction m with
  | nil => simp at h
  | cons entry rest ih =>
      obtain ⟨k, v⟩ := entry
      by_cases hk : (k == key) = true
      · simp only [get?, hk, if_true, Option.some.injEq] at h
        subst h
        exact ⟨k, hk, List.mem_cons_self⟩
      · simp only [get?, hk, Bool.false_eq_true, if_false] at h
        obtain ⟨k', hk', hmem⟩ := ih h
        exact ⟨k', hk', List.mem_cons_of_mem _ hmem⟩

/-- An entry of a map is found under its key. -/
theorem get?_of_mem [PartialEquivBEq κ] {m : OrderedMap κ ν} (h : Distinct m) {k key : κ}
    {value : ν} (hmem : (k, value) ∈ m) (hk : (k == key) = true) : m.get? key = some value := by
  induction m with
  | nil => cases hmem
  | cons entry rest ih =>
      obtain ⟨hfirst, hrest⟩ := distinct_cons.mp h
      rcases List.mem_cons.mp hmem with rfl | hmem
      · rw [get?, if_pos hk]
      · -- the first key is another one, or the entry would repeat it
        have hother : ¬ (entry.1 == key) = true := fun heq => by
          have hsame : (entry.1 == k) = true := BEq.trans heq (BEq.symm hk)
          rw [hfirst (k, value) hmem] at hsame
          cases hsame
        rw [get?, if_neg hother]
        exact ih hrest hmem

/-- Writing adds no second entry for a key. -/
theorem Distinct.insert [PartialEquivBEq κ] {m : OrderedMap κ ν} (h : Distinct m)
    (key : κ) (value : ν) : Distinct (m.insert key value) := by
  induction m with
  | nil => simp [OrderedMap.insert, Distinct]
  | cons entry rest ih =>
      obtain ⟨k, v⟩ := entry
      obtain ⟨hhead, hrest⟩ := distinct_cons.mp h
      by_cases hk : (k == key) = true
      · rw [OrderedMap.insert, if_pos hk]
        exact distinct_cons.mpr ⟨hhead, hrest⟩
      -- the key is not the first one: it is written further on
      · rw [OrderedMap.insert, if_neg hk]
        refine distinct_cons.mpr ⟨fun e he => ?_, ih hrest⟩
        -- an entry of the longer map has an old key or the new one
        have hkeys : e.1 ∈ (OrderedMap.insert rest key value).keys :=
          List.mem_map_of_mem he
        rw [keys_insert] at hkeys
        have hold : ∀ k' ∈ OrderedMap.keys rest, (k == k') = false := by
          intro k' hk'
          obtain ⟨e', he', rfl⟩ := List.mem_map.mp hk'
          exact hhead e' he'
        split at hkeys
        · exact hold e.1 hkeys
        · rcases List.mem_append.mp hkeys with hmem | hmem
          · exact hold e.1 hmem
          · rw [List.mem_singleton.mp hmem]
            simpa using hk

theorem Distinct.overlay [PartialEquivBEq κ] {m : OrderedMap κ ν} (h : Distinct m)
    (source : OrderedMap κ ν) : Distinct (m.overlay source) := by
  induction source generalizing m with
  | nil => exact h
  | cons entry rest ih => exact ih (h.insert entry.1 entry.2)

/-- Whatever entries are written one after another, the result is a map. -/
theorem distinct_ofEntries [PartialEquivBEq κ] (entries : List (κ × ν)) :
    Distinct (ofEntries entries) :=
  distinct_nil.overlay entries

/-- Writing keeps what all keys and all values have in common. -/
theorem forall_mem_insert {P : κ → Prop} {Q : ν → Prop} {m : OrderedMap κ ν} {key : κ} {value : ν}
    (hm : ∀ e ∈ m, P e.1 ∧ Q e.2) (hkey : P key) (hvalue : Q value) :
    ∀ e ∈ m.insert key value, P e.1 ∧ Q e.2 := by
  induction m with
  | nil =>
      intro e he
      rw [List.mem_singleton.mp he]
      exact ⟨hkey, hvalue⟩
  | cons entry rest ih =>
      obtain ⟨k, v⟩ := entry
      obtain ⟨hentry, hrest⟩ := List.forall_mem_cons.mp hm
      intro e he
      rw [OrderedMap.insert] at he
      split at he
      · rcases List.mem_cons.mp he with rfl | he
        · exact ⟨hentry.1, hvalue⟩
        · exact hrest e he
      · rcases List.mem_cons.mp he with rfl | he
        · exact hentry
        · exact ih hrest e he

theorem forall_mem_overlay {P : κ → Prop} {Q : ν → Prop} {m source : OrderedMap κ ν}
    (hm : ∀ e ∈ m, P e.1 ∧ Q e.2) (hsource : ∀ e ∈ source, P e.1 ∧ Q e.2) :
    ∀ e ∈ m.overlay source, P e.1 ∧ Q e.2 := by
  induction source generalizing m with
  | nil => exact hm
  | cons entry rest ih =>
      obtain ⟨hentry, hrest⟩ := List.forall_mem_cons.mp hsource
      exact ih (forall_mem_insert hm hentry.1 hentry.2) hrest

/-! ## §2. Overlays. -/

/-- **The map written last wins.** -/
theorem get?_overlay [PartialEquivBEq κ] (m source : OrderedMap κ ν) (key : κ)
    (h : Distinct source) :
    (m.overlay source).get? key = (source.get? key).or (m.get? key) := by
  induction source generalizing m with
  | nil => rfl
  | cons entry rest ih =>
      obtain ⟨k, v⟩ := entry
      obtain ⟨hhead, hrest⟩ := distinct_cons.mp h
      show ((m.insert k v).overlay rest).get? key = _
      rw [ih (m.insert k v) hrest, get?_insert]
      by_cases hk : (k == key) = true
      · -- a later entry with the key would have the same key as this one
        have hnone : get? rest key = none := by
          refine get?_eq_none fun e he => Bool.eq_false_iff.mpr fun heq => ?_
          have hne : (k == e.1) = false := hhead e he
          rw [BEq.trans hk (BEq.symm heq)] at hne
          exact Bool.noConfusion hne
        simp [get?, hk, hnone]
      · simp [get?, hk]

/-- Entries that are no map count for what they leave when they are written one by one. -/
theorem get?_overlay_ofEntries [PartialEquivBEq κ] (m : OrderedMap κ ν) (entries : List (κ × ν))
    (key : κ) : (m.overlay entries).get? key = ((ofEntries entries).get? key).or (m.get? key) := by
  induction entries generalizing m with
  | nil => rfl
  | cons entry rest ih =>
      -- on both sides the first entry is written to a map and the rest follows
      show ((m.insert entry.1 entry.2).overlay rest).get? key
        = ((overlay (insert [] entry.1 entry.2) rest).get? key).or (m.get? key)
      rw [ih (m.insert entry.1 entry.2), ih (insert [] entry.1 entry.2), get?_insert, get?_insert,
        Option.or_assoc]
      congr 1
      split <;> rfl

/-- A merge leaves each key once, whatever its sources are. -/
theorem distinct_merge [PartialEquivBEq κ] (sources : List (Option (OrderedMap κ ν)))
    (markers : Option (OrderedMap κ ν)) : Distinct (merge sources markers) := by
  have hfold : ∀ (maps : List (OrderedMap κ ν)) (m : OrderedMap κ ν), Distinct m →
      Distinct (maps.foldl OrderedMap.overlay m) := by
    intro maps
    induction maps with
    | nil => exact fun m hm => hm
    | cons first rest ih => exact fun m hm => ih _ (hm.overlay first)
  exact (hfold _ _ distinct_nil).overlay _

/-- What the last of the sources that have a key holds there. -/
def lastValue? (sources : List (Option (OrderedMap κ ν))) (key : κ) : Option ν :=
  sources.foldl (fun found source => ((source.getD []).get? key).or found) none

/-- **Merged sources and markers through look-up**: a marker wins over all sources, and among the
sources the last one that has the key. -/
theorem get?_merge [PartialEquivBEq κ] (sources : List (Option (OrderedMap κ ν)))
    (markers : Option (OrderedMap κ ν)) (key : κ)
    (hsources : ∀ source ∈ sources, Distinct (source.getD []))
    (hmarkers : Distinct (markers.getD [])) :
    (merge sources markers).get? key
      = ((markers.getD []).get? key).or (lastValue? sources key) := by
  -- the induction is on the sources, for every map that the earlier ones have left
  have hfold : ∀ (found : OrderedMap κ ν) (sources : List (Option (OrderedMap κ ν))),
      (∀ source ∈ sources, Distinct (source.getD [])) →
      ((sources.filterMap id).foldl overlay found).get? key
        = sources.foldl (fun found source => ((source.getD []).get? key).or found)
            (found.get? key) := by
    intro found sources
    induction sources generalizing found with
    | nil => intro _; rfl
    | cons source rest ih =>
        intro hall
        have hrest := fun s hs => hall s (List.mem_cons_of_mem _ hs)
        cases source with
        | none => exact ih found hrest
        | some m =>
            have hm : Distinct m := hall (some m) List.mem_cons_self
            show ((rest.filterMap id).foldl overlay (found.overlay m)).get? key = _
            rw [ih (found.overlay m) hrest, get?_overlay found m key hm]
            rfl
  unfold merge lastValue?
  rw [get?_overlay _ _ _ hmarkers, hfold [] sources hsources]
  rfl

/-! ## §3. Dropped keys. -/

/-- **A dropped key is gone, and no other one.** -/
theorem get?_erase [PartialEquivBEq κ] (m : OrderedMap κ ν) (dropped key : κ) :
    (m.erase dropped).get? key = if dropped == key then none else m.get? key := by
  induction m with
  | nil => simp [erase, get?]
  | cons entry rest ih =>
      obtain ⟨k, v⟩ := entry
      have ih' : get? (List.filter (fun e => !(e.1 == dropped)) rest) key
          = if dropped == key then none else get? rest key := ih
      by_cases hk : (k == dropped) = true
      · -- the entry is dropped, so the key it has cannot be another one than the dropped one
        have hfilter : erase ((k, v) :: rest) dropped
            = List.filter (fun e => !(e.1 == dropped)) rest := by
          simp [erase, hk]
        rw [hfilter, ih']
        by_cases hd : (dropped == key) = true
        · simp [hd]
        · have hkey : ¬ (k == key) = true := fun h => hd (BEq.trans (BEq.symm hk) h)
          simp [hd, get?, hkey]
      · have hfilter : erase ((k, v) :: rest) dropped
            = (k, v) :: List.filter (fun e => !(e.1 == dropped)) rest := by
          simp [erase, hk]
        rw [hfilter]
        by_cases hkey : (k == key) = true
        · have hd : ¬ (dropped == key) = true := fun h => hk (BEq.trans hkey (BEq.symm h))
          simp [get?, hkey, hd]
        · simp [get?, hkey, ih']

/-! ## §4. Lists that are maps already. -/

theorem insert_of_not_found (m : OrderedMap κ ν) (key : κ) (value : ν)
    (h : ∀ e ∈ m, (e.1 == key) = false) : m.insert key value = m ++ [(key, value)] := by
  induction m with
  | nil => rfl
  | cons entry rest ih =>
      obtain ⟨k, v⟩ := entry
      have hk : (k == key) = false := h (k, v) List.mem_cons_self
      simp [insert, hk, ih fun e he => h e (List.mem_cons_of_mem _ he)]

/-- **A list that is a map is left as it is** when its entries are written one by one. -/
theorem ofEntries_of_distinct {m : OrderedMap κ ν} (h : Distinct m) : ofEntries m = m := by
  -- what has been written so far and what is still to be written are one map throughout
  have hoverlay : ∀ (source before : OrderedMap κ ν), Distinct (before ++ source) →
      before.overlay source = before ++ source := by
    intro source
    induction source with
    | nil => intro before _; simp [overlay]
    | cons entry rest ih =>
        intro before hall
        have hnew : ∀ e ∈ before, (e.1 == entry.1) = false := fun e he =>
          (List.pairwise_append.mp hall).2.2 e he entry List.mem_cons_self
        show (before.insert entry.1 entry.2).overlay rest = _
        rw [insert_of_not_found before entry.1 entry.2 hnew,
          ih (before ++ [entry]) (by simpa using hall)]
        simp
  exact hoverlay m [] (by simpa using h)

/-- One source that is a map already is left as it is under the markers. -/
theorem merge_singleton {source : Option (OrderedMap κ ν)} (markers : OrderedMap κ ν)
    (h : Distinct (source.getD [])) :
    merge [source] (some markers) = (source.getD []).overlay markers := by
  cases source with
  | none => rfl
  | some m =>
      have hm : ofEntries m = m := ofEntries_of_distinct h
      show (ofEntries m).overlay markers = m.overlay markers
      rw [hm]

/-! ## §5. The order of keys. -/

section FirstAppearances

variable [PartialEquivBEq κ]

/-- Keys that all differ are their own first appearances. -/
theorem eraseDups_of_pairwise {ks : List κ} (h : ks.Pairwise fun a b => (a == b) = false) :
    ks.eraseDups = ks := by
  induction ks with
  | nil => rfl
  | cons k rest ih =>
      obtain ⟨hfirst, hrest⟩ := List.pairwise_cons.mp h
      have hkeep : (rest.filter fun b => !b == k) = rest := by
        refine List.filter_eq_self.mpr fun b hb => ?_
        rw [BEq.comm, hfirst b hb]
        rfl
      rw [List.eraseDups_cons, hkeep, ih hrest]

/-- A key that has come before does not appear for the first time. -/
theorem eraseDups_append_cons (before after : List κ) {key : κ}
    (h : ∃ k ∈ before, (k == key) = true) :
    (before ++ key :: after).eraseDups = (before ++ after).eraseDups := by
  match before with
  | [] =>
      obtain ⟨k, hk, -⟩ := h
      cases hk
  | first :: before =>
      rw [List.cons_append, List.cons_append, List.eraseDups_cons, List.eraseDups_cons,
        List.filter_append, List.filter_append, List.filter_cons]
      by_cases hfirst : (key == first) = true
      · -- the first key drops this one by itself
        rw [hfirst]
        rfl
      · -- it drops neither this one nor the equal one that has come before
        have hkept : ∃ k ∈ before.filter fun k => !k == first, (k == key) = true := by
          obtain ⟨k, hk, heq⟩ := h
          rcases List.mem_cons.mp hk with rfl | hk
          · exact absurd (BEq.symm heq) hfirst
          · refine ⟨k, List.mem_filter.mpr ⟨hk, ?_⟩, heq⟩
            rw [Bool.not_eq_true', Bool.eq_false_iff]
            exact fun hdropped => hfirst (BEq.trans (BEq.symm heq) hdropped)
        have hrest := eraseDups_append_cons (before.filter fun k => !k == first)
          (after.filter fun k => !k == first) hkept
        rw [Bool.eq_false_iff.mpr hfirst, Bool.not_false, if_pos rfl, hrest]
termination_by before.length
decreasing_by exact Nat.lt_succ_of_le (List.length_filter_le _ _)

/-- **New keys go to the end**, and those that are there keep their places. -/
theorem keys_overlay {m : OrderedMap κ ν} (h : Distinct m) (source : OrderedMap κ ν) :
    (m.overlay source).keys = (m.keys ++ source.keys).eraseDups := by
  induction source generalizing m with
  | nil =>
      show m.keys = (m.keys ++ []).eraseDups
      rw [List.append_nil, eraseDups_of_pairwise (distinct_iff_keys.mp h)]
  | cons entry rest ih =>
      show ((m.insert entry.1 entry.2).overlay rest).keys
        = (m.keys ++ entry.1 :: keys rest).eraseDups
      rw [ih (h.insert entry.1 entry.2), keys_insert]
      cases hcontains : m.contains entry.1 with
      | false =>
          rw [if_neg Bool.false_ne_true, List.append_assoc]
          rfl
      | true =>
          obtain ⟨value, hvalue⟩ := Option.isSome_iff_exists.mp hcontains
          obtain ⟨k, hk, hmem⟩ := mem_of_get? hvalue
          rw [if_pos rfl, eraseDups_append_cons _ _ ⟨k, List.mem_map_of_mem hmem, hk⟩]

end FirstAppearances

/-! ## §6. Merges. -/

theorem overlay_append (m first second : OrderedMap κ ν) :
    m.overlay (first ++ second) = (m.overlay first).overlay second := List.foldl_append

/-- A merge writes the entries of all sources in turn, and then those of the markers. -/
theorem merge_eq_ofEntries (sources : List (Option (OrderedMap κ ν)))
    (markers : Option (OrderedMap κ ν)) :
    merge sources markers = ofEntries (sources.flatMap (·.getD []) ++ markers.getD []) := by
  have hsources : ∀ m : OrderedMap κ ν,
      (sources.filterMap id).foldl overlay m = m.overlay (sources.flatMap (·.getD [])) := by
    induction sources with
    | nil => exact fun m => rfl
    | cons source rest ih =>
        intro m
        cases source with
        | none => exact ih m
        | some first =>
            show (rest.filterMap id).foldl overlay (m.overlay first)
              = m.overlay (first ++ rest.flatMap (·.getD []))
            rw [ih, overlay_append]
  rw [merge, hsources, ofEntries, overlay_append]

/-- **The keys of a merge** come in the order of their first appearance. -/
theorem keys_merge [PartialEquivBEq κ] (sources : List (Option (OrderedMap κ ν)))
    (markers : Option (OrderedMap κ ν)) :
    (merge sources markers).keys
      = (sources.flatMap (fun source => keys (source.getD [])) ++ keys (markers.getD [])).eraseDups
    := by
  rw [merge_eq_ofEntries, ofEntries, keys_overlay distinct_nil, keys_nil, List.nil_append, keys,
    List.map_append, List.map_flatMap]
  rfl

/-- **Merging in stages is merging at once**: what some of the sources have been merged to stands
for them. -/
theorem merge_merge [PartialEquivBEq κ] (first rest : List (Option (OrderedMap κ ν)))
    (markers : Option (OrderedMap κ ν)) :
    merge (some (merge first none) :: rest) markers = merge (first ++ rest) markers := by
  have hstart : ∀ entries more : OrderedMap κ ν,
      ofEntries (entries ++ more) = (ofEntries entries).overlay more :=
    fun entries more => overlay_append [] entries more
  rw [merge_eq_ofEntries first, merge_eq_ofEntries, merge_eq_ofEntries, List.flatMap_cons,
    List.flatMap_append, Option.getD_some, Option.getD_none, List.append_nil, List.append_assoc,
    List.append_assoc]
  -- what the first sources leave is a map already, so writing its entries again leaves it as it is
  rw [hstart, hstart, ofEntries_of_distinct (distinct_ofEntries _)]

/-- Looked for from the end, the first source that has a key is the last one. -/
theorem lastValue?_eq_findSome? (sources : List (Option (OrderedMap κ ν))) (key : κ) :
    lastValue? sources key
      = sources.reverse.findSome? fun source => (source.getD []).get? key := by
  -- the induction is on the sources, for every value that the earlier ones have left
  have hfold : ∀ found : Option ν,
      sources.foldl (fun found source => ((source.getD []).get? key).or found) found
        = (sources.reverse.findSome? fun source => (source.getD []).get? key).or found := by
    induction sources with
    | nil => exact fun found => rfl
    | cons source rest ih =>
        intro found
        rw [List.foldl_cons, ih, List.reverse_cons, List.findSome?_append, Option.or_assoc,
          List.findSome?_singleton]
  rw [lastValue?, hfold, Option.or_none]

end OrderedMap

end EventEnvelope
