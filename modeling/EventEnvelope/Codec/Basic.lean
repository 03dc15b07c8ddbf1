/-
  EventEnvelope.Codec.Basic
  ─────────────────────────
  **The codec: what it can be told, and reading and writing JSON.**

  A codec has a set of features, the modules registered with it, and the conversions they bring; a
  later module's conversion for a target replaces an earlier one's.  Reading and writing do
  not depend on any of that.
-/
import EventEnvelope.Codec.Scalar

namespace EventEnvelope

/-- A named bundle of conversions. -/
structure CodecModule where
  name : Text
  deserializers : OrderedMap ScalarTarget Deserializer

namespace CodecModule

/-- Date-times from milliseconds. -/
def epochMillis : CodecModule := ⟨"epoch-millis", [(.dateTime, Scalar.dateTime)]⟩

/-- Dates and times of day from ISO text. -/
def isoDates : CodecModule := ⟨"iso-dates", [(.date, Scalar.date), (.time, Scalar.time)]⟩

/-- A module whose conversions only name their targets. -/
def tagging (name : Text) (targets : List ScalarTarget) : CodecModule :=
  ⟨name, OrderedMap.ofEntries (targets.map fun t => (t, Scalar.tagged t))⟩

end CodecModule

/-- The state of a codec. -/
structure Codec where
  features : List Text
  modules : List Text
  deserializers : OrderedMap ScalarTarget Deserializer

namespace Codec

/-- A codec that nobody has configured. -/
def fresh : Codec := ⟨[], [], []⟩

/-- The feature that marks a codec as configured. -/
def caseInsensitive : Text := "accept_case_insensitive_properties"

def isEnabled (c : Codec) (feature : Text) : Bool := c.features.contains feature

/-- Switch a feature on or off. -/
def configure (c : Codec) (feature : Text) (enabled : Bool) : Codec :=
  let others := c.features.filter (· != feature)
  { c with features := if enabled then others ++ [feature] else others }

/-- Add a module; its conversions replace those there are for the same targets. -/
def register (c : Codec) (m : CodecModule) : Codec :=
  { c with
    modules := c.modules ++ [m.name]
    deserializers := c.deserializers.overlay m.deserializers }

/-- The configuration has been applied. -/
def isConfigured (c : Codec) : Bool := c.isEnabled caseInsensitive

def deserializer? (c : Codec) (target : ScalarTarget) : Option Deserializer :=
  c.deserializers.get? target

/-! ## §1. Reading and writing. -/

/-- Read a JSON document. -/
def loads (document : Value) : Except CodecFault Value :=
  match Json.read document with
  | .ok v => .ok v
  | .error fault => .error (.invalidJson fault)

/-- Write a value as compact JSON.  Arithmetic that has no result is no fault of the codec, and
neither is a copy that does not end. -/
def dumps (v : Value) : Except Failure Bytes :=
  match Json.encode v with
  | .ok bytes => .ok bytes
  | .error (.decimal fault) => .error (.decimal fault)
  | .error .endless => .error .endlessCopy
  | .error fault => .error (.codec (.cannotSerialize v.typeName fault))

end Codec

end EventEnvelope
