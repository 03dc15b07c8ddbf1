/-
  EventEnvelope.Value
  ───────────────────
  **The values that travel through the adapter.**

  Payloads, header values and responses are untyped data: what JSON can hold, and the things that
  business code returns beside it (bytes, decimals, dates, event objects, records).  An object is an
  ordered map whose keys are values too.  How an event object is shown is up to its class, which is
  not known here, so the object carries its own texts.

    • `Value.typeName`   — the name of a value's class, as messages give it,
    • `Value.number?`    — what a numeric value amounts to,
    • `Value.key?`       — what a value amounts to as a key,
    • `Value.sameKey`    — when two values are the same key.
-/
import EventEnvelope.OrderedMap
import EventEnvelope.Status
import EventEnvelope.Declared.Type
import EventEnvelope.Calendar.Basic
import EventEnvelope.Number.Decimal

namespace EventEnvelope

/-- The texts that an event object's own class gives it: inside another value or in a message, and
on its own.  None stands for a text that does not exist, for an integer is too long. -/
structure OwnText where
  shown : Option Text
  display : Option Text

/-- A value. -/
inductive Value
  | null
  | bool (b : Bool)
  | int (n : Int)
  /-- A named HTTP status, which is an integer too. -/
  | status (s : HttpStatus)
  | float (x : Binary64)
  | decimal (x : Decimal)
  | text (t : Text)
  | bytes (b : Bytes)
  /-- Bytes in a buffer that can change. -/
  | buffer (b : Bytes)
  | list (items : List Value)
  | tuple (items : List Value)
  | object (fields : List (Value × Value))
  | dateTime (t : DateTime)
  | date (d : Date)
  | time (t : TimeOfDay)
  /-- A decoded trigger event: its class, the object it wraps and its texts. -/
  | event (cls : ClassObject) (raw : Value) (own : OwnText)
  /-- A record: the name of its class and its fields in order. -/
  | record (className : Text) (fields : List (Text × Value))
  | message (payload : Value) (headers : List (Value × Value))
  /-- An object about which nothing is known but a label. -/
  | unknown (label : Text)
  /-- A class as a value. -/
  | type (c : ClassObject)
  /-- A list whose only element is the list itself. -/
  | circularList
  /-- An object whose only field, `self`, is the object itself. -/
  | circularObject

/-- Entries of an object or a header map. -/
abbrev Fields := OrderedMap Value Value

namespace Value

instance : Inhabited Value := ⟨null⟩

instance : Coe String Value := ⟨fun s => text s⟩

/-! ## §1. Class names. -/

/-- The name of a value's class. -/
def typeName : Value → Text
  | null => "NoneType"
  | bool _ => "bool"
  | int _ => "int"
  | status _ => "HTTPStatus"
  | float _ => "float"
  | decimal _ => "Decimal"
  | text _ => "str"
  | bytes _ => "bytes"
  | buffer _ => "bytearray"
  | list _ | circularList => "list"
  | tuple _ => "tuple"
  | object _ | circularObject => "dict"
  | dateTime _ => "datetime"
  | date _ => "date"
  | time _ => "time"
  | event c _ _ => c.name
  | record className _ => className
  | message _ _ => "Message"
  | unknown _ => "Opaque"
  | type c => c.metaclass

/-- The name of a value's class with the module that some of them carry. -/
def fullTypeName (v : Value) : Text :=
  match v with
  | decimal _ => "decimal." ++ v.typeName
  | dateTime _ | date _ | time _ => "datetime." ++ v.typeName
  | _ => v.typeName

/-- The value is null. -/
def isNull : Value → Bool
  | null => true
  | _ => false

/-! ## §2. Equality of keys. -/

/-- The number that a numeric value amounts to; truth values count as one and zero. -/
def number? : Value → Option Magnitude
  | bool b => some (.ofInt (if b then 1 else 0))
  | int n => some (.ofInt n)
  | status s => some (.ofInt s.code)
  | float x => Magnitude.ofBinary64? x
  | decimal x => Magnitude.ofDecimal? x
  | _ => none

/-- A piece of a key. -/
inductive KeyPart
  | null
  | text (t : Text)
  | bytes (b : Bytes)
  | number (m : Magnitude)
  /-- A date-time with an offset, in microseconds since the epoch. -/
  | instant (microseconds : Int)
  /-- A date-time without an offset. -/
  | localDateTime (microseconds : Int)
  | date (d : Date)
  /-- A time of day with an offset, in microseconds since the midnight of universal time. -/
  | universalTime (microseconds : Int)
  /-- A time of day without an offset. -/
  | localTime (microseconds : Int)
  | cls (c : ClassObject)
  /-- The begin of a tuple, and its end. -/
  | opening
  | closing
deriving DecidableEq

/-- A date-time as a key. -/
def keyOfDateTime (t : DateTime) : KeyPart :=
  if t.time.offset.isSome then .instant t.epochMicroseconds else .localDateTime t.epochMicroseconds

/-- A time of day as a key. -/
def keyOfTime (t : TimeOfDay) : KeyPart :=
  match t.offset with
  | some o => .universalTime (t.microseconds - o.microseconds)
  | none => .localTime t.microseconds

mutual

/-- What a value amounts to as a key.  Equal numbers of different types amount to the same; what is
no number amounts to nothing, and neither does a value that cannot be a key. -/
def key? : Value → Option (List KeyPart)
  | null => some [.null]
  | text t => some [.text t]
  | bytes b => some [.bytes b]
  | dateTime t => some [keyOfDateTime t]
  | date d => some [.date d]
  | time t => some [keyOfTime t]
  | type c => some [.cls c]
  | tuple items => do
      let parts ← keys? items
      some (.opening :: parts ++ [.closing])
  | v => v.number?.map fun m => [.number m]

/-- What the elements of a tuple amount to. -/
def keys? : List Value → Option (List KeyPart)
  | [] => some []
  | v :: rest => do
      let first ← key? v
      let others ← keys? rest
      some (first ++ others)

end

/-- Two values are the same key: they amount to the same. -/
def sameKey (a b : Value) : Bool :=
  match a.key?, b.key? with
  | some k, some l => k == l
  | _, _ => false

instance : BEq Value := ⟨sameKey⟩

theorem sameKey_iff {a b : Value} :
    a.sameKey b = true ↔ ∃ k, a.key? = some k ∧ b.key? = some k := by
  unfold sameKey
  cases a.key? with
  | none => simp
  | some k =>
      cases b.key? with
      | none => simp
      | some l =>
          simp only [beq_iff_eq, Option.some.injEq]
          constructor
          · intro h
            exact ⟨k, rfl, h.symm⟩
          · rintro ⟨m, rfl, rfl⟩
            rfl

/-- Being the same key is symmetric and transitive; a value that amounts to nothing is no key, not
even the same as itself. -/
instance : PartialEquivBEq Value where
  symm := fun h => by
    obtain ⟨k, ha, hb⟩ := sameKey_iff.mp h
    exact sameKey_iff.mpr ⟨k, hb, ha⟩
  trans := fun hab hbc => by
    obtain ⟨k, ha, hb⟩ := sameKey_iff.mp hab
    obtain ⟨l, hb', hc⟩ := sameKey_iff.mp hbc
    rw [hb] at hb'
    cases hb'
    exact sameKey_iff.mpr ⟨k, ha, hc⟩

@[simp] theorem text_beq_text (s t : Text) : (text s == text t) = (s == t) := by
  rw [Bool.eq_iff_iff]
  show sameKey (text s) (text t) = true ↔ _
  simp [sameKey, key?]

end Value

end EventEnvelope
