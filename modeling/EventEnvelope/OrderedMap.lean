/-
  EventEnvelope.OrderedMap
  ────────────────────────
  **Maps that remember the order in which keys first came.**

  A map is its list of entries.  Writing to a key that is there replaces the value in place; a new
  key goes to the end.  So under repeated writing the *value* is the last one written and the
  *place* the first one taken.

    • `get?`, `insert`, `erase`, `overlay`,
    • `get?_insert`, `keys_insert` — each operation seen through look-up and through the keys.
-/

namespace EventEnvelope

/-- A map as the list of its entries, in order. -/
abbrev OrderedMap (κ ν : Type _) := List (κ × ν)

namespace OrderedMap

variable {κ ν : Type _} [BEq κ]

/-- The value at a key. -/
def get? : OrderedMap κ ν → κ → Option ν
  | [], _ => none
  | (k, v) :: rest, key => if k == key then some v else get? rest key

/-- A key is present. -/
def contains (m : OrderedMap κ ν) (key : κ) : Bool := (m.get? key).isSome

/-- Write a value: in place if the key is present, else at the end. -/
def insert : OrderedMap κ ν → κ → ν → OrderedMap κ ν
  | [], key, value => [(key, value)]
  | (k, v) :: rest, key, value =>
      if k == key then (k, value) :: rest else (k, v) :: insert rest key value

/-- Drop a key. -/
def erase (m : OrderedMap κ ν) (key : κ) : OrderedMap κ ν := m.filter fun entry => !(entry.1 == key)

/-- Write all entries of a second map, in its order. -/
def overlay (m source : OrderedMap κ ν) : OrderedMap κ ν :=
  source.foldl (fun m entry => m.insert entry.1 entry.2) m

/-- The map that a list of entries leaves, later ones winning. -/
def ofEntries (entries : List (κ × ν)) : OrderedMap κ ν := overlay [] entries

/-- Overlay all maps that there are, in order, and one more after them. -/
def merge (sources : List (Option (OrderedMap κ ν))) (last : Option (OrderedMap κ ν)) :
    OrderedMap κ ν :=
  overlay ((sources.filterMap id).foldl overlay []) (last.getD [])

/-- The keys, in order. -/
def keys (m : OrderedMap κ ν) : List κ := m.map (·.1)

/-! ## §1. Each operation through look-up and keys. -/

@[simp] theorem get?_nil (key : κ) : get? ([] : OrderedMap κ ν) key = none := rfl

omit [BEq κ] in
@[simp] theorem keys_nil : keys ([] : OrderedMap κ ν) = [] := rfl

theorem keys_insert (m : OrderedMap κ ν) (key : κ) (value : ν) :
    (m.insert key value).keys = if m.contains key then m.keys else m.keys ++ [key] := by
  induction m with
  | nil => simp [insert, keys, contains, get?]
  | cons entry rest ih =>
      obtain ⟨k, v⟩ := entry
      by_cases hk : (k == key) = true
      · simp [insert, keys, contains, get?, hk]
      · simp only [keys, contains] at ih
        simp [insert, keys, contains, get?, hk, ih]
        split <;> simp_all

/-- Equality of keys need not be reflexive, so a key that differs from itself is written again and
again and never found. -/
theorem get?_insert [PartialEquivBEq κ] (m : OrderedMap κ ν) (key other : κ) (value : ν) :
    (m.insert key value).get? other = if key == other then some value else m.get? other := by
  induction m with
  | nil => simp [insert, get?]
  | cons entry rest ih =>
      obtain ⟨k, v⟩ := entry
      by_cases hk : (k == key) = true
      · by_cases ho : (key == other) = true
        · have hko : (k == other) = true := BEq.trans hk ho
          simp [insert, get?, hk, ho, hko]
        · have hko : ¬ (k == other) = true := fun h => ho (BEq.trans (BEq.symm hk) h)
          simp [insert, get?, hk, ho, hko]
      · by_cases hko : (k == other) = true
        · have ho : ¬ (key == other) = true := fun h => hk (BEq.trans hko (BEq.symm h))
          simp [insert, get?, hk, ho, hko]
        · simp [insert, get?, hk, hko, ih]

end OrderedMap

end EventEnvelope
