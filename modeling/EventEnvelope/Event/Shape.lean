/-
  EventEnvelope.Event.Shape
  ─────────────────────────
  **What an inbound payload is.**

  A declared event class decides without a look at the payload.  Otherwise the payload is read as
  JSON: an object, an array, or something that stays raw bytes, be it a scalar or no JSON at all.
-/
import EventEnvelope.Event.Registry

namespace EventEnvelope

/-- The shape of a payload. -/
inductive Shape
  /-- An event of a family. -/
  | typed (family : EventFamily)
  | object (fields : Fields)
  | array (items : List Value)
  /-- Anything else: a scalar that was read, or what was wrong when nothing could be read. -/
  | raw (value : Value) (fault : Option CodecFault)

namespace Shape

/-- The name of a kind of shape. -/
def kindName : Shape → Text
  | typed _ => "typed_platform_event"
  | object _ => "generic_json_object"
  | array _ => "generic_json_array"
  | raw _ _ => "raw_bytes"

/-- The family of an event. -/
def family? : Shape → Option EventFamily
  | typed family => some family
  | _ => none

/-- The value that was read, null if none was. -/
def value : Shape → Value
  | typed _ => .null
  | object fields => .object fields
  | array items => .list items
  | raw v _ => v

/-- What was wrong with the payload. -/
def fault? : Shape → Option CodecFault
  | raw _ fault => fault
  | _ => none

/-- The shape that a declared type implies by itself; one message around the type is looked
through. -/
def ofDeclared? (declared : DeclaredType) : Option Shape :=
  declared.unwrapMessage.family?.map typed

/-- The shape of a value that has been read. -/
def ofValue : Value → Shape
  | .object fields => object fields
  | .list items => array items
  | v => raw v none

/-- The shape of a payload that is no event. -/
def ofPayload (payload : Bytes) : Shape :=
  match Codec.loads (.bytes payload) with
  | .ok v => ofValue v
  | .error fault => raw .null (some fault)

/-- The shape of a payload for a function with a declared type. -/
def classify (declared : DeclaredType) (payload : Bytes) : Shape :=
  (ofDeclared? declared).getD (ofPayload payload)

end Shape

end EventEnvelope
