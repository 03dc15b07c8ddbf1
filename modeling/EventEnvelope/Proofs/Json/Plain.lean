/-
  EventEnvelope.Proofs.Json.Plain
  ───────────────────────────────
  **What is read of a value that is no tree.**

  Business code also returns tuples, and events as they were decoded.  Both have a JSON form of
  their own kind: a tuple is written as a list, an event as the object it wraps.  So a value is
  written exactly as its plain form is, in which neither occurs, and the plain form is what the
  reader gives back.

    • `Value.plain`          — lists for tuples, objects for events, at every depth,
    • `write_plain`          — a value and its plain form are written alike,
    • `Portable`             — the values whose plain form survives the way through bytes,
    • `loads_dumps_plain`    — through bytes and back.
-/
import EventEnvelope.Proofs.Json.Stops
import EventEnvelope.Proofs.Json.RoundTrip

namespace EventEnvelope

namespace Value

/-! ## §1. Plain forms. -/

mutual

/-- The value with a list for every tuple and the wrapped object for every event in it. -/
def plain : Value → Value
  | .list items => .list (plainItems items)
  | .tuple items => .list (plainItems items)
  | .object fields => .object (plainFields fields)
  | .event _ raw _ => plain raw
  | v => v

/-- The plain forms of values. -/
def plainItems : List Value → List Value
  | [] => []
  | v :: rest => plain v :: plainItems rest

/-- Entries with the plain forms of their values; keys are left as they are. -/
def plainFields : List (Value × Value) → List (Value × Value)
  | [] => []
  | (k, v) :: rest => (k, plain v) :: plainFields rest

end

theorem plainItems_eq_map (items : List Value) : plainItems items = items.map plain := by
  induction items with
  | nil => rfl
  | cons v rest ih =>
      show plain v :: plainItems rest = _
      rw [ih]
      rfl

theorem plainFields_eq_map (fields : Fields) :
    plainFields fields = fields.map fun e => (e.1, plain e.2) := by
  induction fields with
  | nil => rfl
  | cons e rest ih =>
      obtain ⟨k, v⟩ := e
      show (k, plain v) :: plainFields rest = _
      rw [ih]
      rfl

/-- The plain form of an object has the same keys in the same order. -/
theorem keys_plainFields (fields : Fields) :
    OrderedMap.keys (plainFields fields) = OrderedMap.keys fields := by
  rw [plainFields_eq_map]
  simp [OrderedMap.keys]

end Value

namespace Json

variable {style : Style}

/-! ## §2. A value and its plain form are written alike. -/

-- The recursion is that of the writer: over a value, its elements and its fields.
mutual

/-- **A value is written as its plain form is**, where events are converted. -/
theorem write_plain (hstyle : style.fallback = .convert) :
    ∀ (v : Value) (level : Nat), write style level v.plain = write style level v
  | .list items, level => by
      show write style level (.list (Value.plainItems items)) = _
      rw [write, write, writeItems_plain hstyle items]
  | .tuple items, level => by
      -- the plain form is a list, which has the same brackets
      show write style level (.list (Value.plainItems items)) = _
      rw [write, write, writeItems_plain hstyle items]
  | .object fields, level => by
      show write style level (.object (Value.plainFields fields)) = _
      rw [write, write, writeFields_plain hstyle fields]
  | .event cls raw own, level => by
      show write style level raw.plain = _
      rw [write_plain hstyle raw level, write, substitute_convert hstyle]
  | .null, _ => rfl
  | .bool _, _ => rfl
  | .int _, _ => rfl
  | .status _, _ => rfl
  | .float _, _ => rfl
  | .decimal _, _ => rfl
  | .text _, _ => rfl
  | .bytes _, _ => rfl
  | .buffer _, _ => rfl
  | .dateTime _, _ => rfl
  | .date _, _ => rfl
  | .time _, _ => rfl
  | .record _ _, _ => rfl
  | .message _ _, _ => rfl
  | .unknown _, _ => rfl
  | .type _, _ => rfl
  | .circularList, _ => rfl
  | .circularObject, _ => rfl

theorem writeItems_plain (hstyle : style.fallback = .convert) :
    ∀ (items : List Value) (level : Nat),
      writeItems style level (Value.plainItems items) = writeItems style level items
  | [], _ => rfl
  | v :: rest, level => by
      show writeItems style level (v.plain :: Value.plainItems rest) = _
      rw [writeItems, writeItems, write_plain hstyle v level, writeItems_plain hstyle rest level]

theorem writeFields_plain (hstyle : style.fallback = .convert) :
    ∀ (fields : List (Value × Value)) (level : Nat),
      writeFields style level (Value.plainFields fields) = writeFields style level fields
  | [], _ => rfl
  | (k, v) :: rest, level => by
      show writeFields style level ((k, v.plain) :: Value.plainFields rest) = _
      rw [writeFields, writeFields, write_plain hstyle v level, writeFields_plain hstyle rest level]

end

theorem encode_plain (v : Value) : encode v.plain = encode v := by
  unfold encode
  rw [write_plain rfl v 0]

/-! ## §3. Values whose plain form survives. -/

/-- A value made of null, truth values, integers within the digit limit, texts without surrogates,
lists, tuples, maps with text keys, and events that wrap such maps. -/
inductive Portable : Value → Prop
  | null : Portable .null
  | bool (b : Bool) : Portable (.bool b)
  | int (n : Int) (hdigits : (Text.ofNat n.natAbs).length ≤ digitLimit) : Portable (.int n)
  | text (t : Text) (ht : t.hasSurrogate = false) : Portable (.text t)
  | list (items : List Value) (hitems : ∀ v ∈ items, Portable v) : Portable (.list items)
  | tuple (items : List Value) (hitems : ∀ v ∈ items, Portable v) : Portable (.tuple items)
  | object (fields : Fields) (hdistinct : fields.Distinct)
      (hkeys : ∀ e ∈ fields, ∃ t, e.1 = .text t ∧ t.hasSurrogate = false)
      (hvalues : ∀ e ∈ fields, Portable e.2) : Portable (.object fields)
  | event (cls : ClassObject) (fields : Fields) (own : OwnText) (hraw : Portable (.object fields)) :
      Portable (.event cls (.object fields) own)

theorem exact_plainItems {items : List Value} (h : ∀ v ∈ items, Exact v.plain) :
    Exact (.list (Value.plainItems items)) := by
  refine .list _ fun v hv => ?_
  rw [Value.plainItems_eq_map] at hv
  obtain ⟨u, hu, rfl⟩ := List.mem_map.mp hv
  exact h u hu

/-- **The plain form of a portable value is a tree**, which survives as it is. -/
theorem exact_plain {v : Value} (hv : Portable v) : Exact v.plain := by
  induction hv with
  | null => exact .null
  | bool b => exact .bool b
  | int n hdigits => exact .int n hdigits
  | text t ht => exact .text t ht
  | list items _ ih => exact exact_plainItems ih
  | tuple items _ ih => exact exact_plainItems ih
  | object fields hdistinct hkeys _ ih =>
      show Exact (.object (Value.plainFields fields))
      -- the keys of a map decide whether it is one, and they stay
      have hdistinct' : OrderedMap.Distinct (Value.plainFields fields) := by
        rw [OrderedMap.distinct_iff_keys, Value.keys_plainFields, ← OrderedMap.distinct_iff_keys]
        exact hdistinct
      refine .object _ hdistinct' (fun e he => ?_) fun e he => ?_
      · rw [Value.plainFields_eq_map] at he
        obtain ⟨entry, hentry, rfl⟩ := List.mem_map.mp he
        exact hkeys entry hentry
      · rw [Value.plainFields_eq_map] at he
        obtain ⟨entry, hentry, rfl⟩ := List.mem_map.mp he
        exact ih entry hentry
  | event cls fields _ _ ih => exact ih

end Json

/-- **Through bytes and back**: every portable value can be written, and what is written is read as
its plain form, with the same order of keys. -/
theorem Codec.loads_dumps_plain {v : Value} (hv : Json.Portable v) :
    ∃ bytes, Codec.dumps v = .ok bytes ∧ Codec.loads (.bytes bytes) = .ok v.plain := by
  obtain ⟨bytes, hencode, hread⟩ := Json.read_encode (Json.exact_plain hv).encodable
  rw [Json.encode_plain] at hencode
  refine ⟨bytes, ?_, ?_⟩
  · rw [dumps, hencode]
  · rw [loads, hread]

/-- An event around an object, in a tuple, beside a list with a control character and a character
outside the basic plane. -/
def Json.mixedTuple : Value :=
  .tuple [.event (.event .streamRecordBatch) (.object [(.text "Records", .tuple [.int (-10)])])
      ⟨some "event", some "event"⟩,
    .list [.text "\x00\"\\😀", .null, .bool true]]

theorem Codec.loads_dumps_mixedTuple :
    Json.Portable Json.mixedTuple
      ∧ ∃ bytes, Codec.dumps Json.mixedTuple = .ok bytes
        ∧ Codec.loads (.bytes bytes)
          = .ok (.list [.object [(.text "Records", .list [.int (-10)])],
              .list [.text "\x00\"\\😀", .null, .bool true]]) := by
  have hobject : ∀ v, Json.Portable v → Json.Portable (.object [(.text "Records", v)]) := by
    intro v hv
    refine .object _ ?_ (List.forall_mem_singleton.mpr ⟨_, rfl, by decide⟩)
      (List.forall_mem_singleton.mpr hv)
    exact OrderedMap.distinct_cons.mpr ⟨by simp, OrderedMap.distinct_nil⟩
  have hevent : Json.Portable (.event (.event .streamRecordBatch)
      (.object [(.text "Records", .tuple [.int (-10)])]) ⟨some "event", some "event"⟩) :=
    .event _ _ _ (hobject _ (.tuple _ (List.forall_mem_singleton.mpr (.int _ (by decide)))))
  have hlist : Json.Portable (.list [.text "\x00\"\\😀", .null, .bool true]) :=
    .list _ (List.forall_mem_cons.mpr ⟨.text _ (by decide),
      List.forall_mem_cons.mpr ⟨.null, List.forall_mem_singleton.mpr (.bool true)⟩⟩)
  have hportable : Json.Portable Json.mixedTuple :=
    .tuple _ (List.forall_mem_cons.mpr ⟨hevent, List.forall_mem_singleton.mpr hlist⟩)
  exact ⟨hportable, loads_dumps_plain hportable⟩

end EventEnvelope
