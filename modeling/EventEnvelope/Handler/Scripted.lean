/-
  EventEnvelope.Handler.Scripted
  ──────────────────────────────
  **Business functions and decoders given as data.**

  With them a handler can be tried without any business code: each stands for a function that does
  one simple thing with its argument.
-/
import EventEnvelope.Handler

namespace EventEnvelope

/-- A business function as data. -/
inductive ScriptedFunction
  /-- Returns nothing. -/
  | nothing
  /-- Returns its argument. -/
  | identity
  | constant (v : Value)
  /-- Returns a message. -/
  | message (payload : Value) (fields : Fields)
  /-- Returns the entry of its argument at a key. -/
  | entry (key : Value)
  /-- Returns how many records its argument, an event, holds. -/
  | countRecords
  /-- Returns the headers of its argument, a message, as an object. -/
  | headers
  | failing (failure : Failure)

namespace ScriptedFunction

/-- The entry of a value at a key. -/
def entryOf (key : Value) : Value → Except Failure Value
  | .object fields =>
      match OrderedMap.get? fields key with
      | some v => .ok v
      | none => do
          let text ← key.display
          .error (.raised .key text)
  | .bytes _ => .error (.textKeyOf "byte")
  | .list _ => .error (.textKeyOf "list")
  | .tuple _ => .error (.textKeyOf "tuple")
  | v => .error (.raised .type ("'" ++ v.typeName ++ "' object is not subscriptable"))

/-- The number of entries of a value. -/
def sizeOf : Value → Except Failure Nat
  | .list items | .tuple items => .ok items.length
  | .object fields => .ok fields.length
  | .text t => .ok t.length
  | .bytes b | .buffer b => .ok b.length
  | v => .error (.raised .type ("object of type '" ++ v.typeName ++ "' has no len()"))

/-- The function that the data stand for. -/
def apply : ScriptedFunction → BusinessFunction
  | nothing, _ => .ok .null
  | identity, v => .ok v
  | constant v, _ => .ok v
  | message payload fields, _ => do
      let m ← Message.of payload fields
      .ok m.toValue
  | entry key, v => entryOf key v
  | countRecords, .event _ raw _ => do
      let records ← entryOf "Records" raw
      let size ← sizeOf records
      .ok (.object [("processed", .int size)])
  | countRecords, v =>
      .error (.raised (.named "AttributeError")
        ("'" ++ v.typeName ++ "' object has no attribute 'raw_event'"))
  | headers, .message _ fields => .ok (.object fields)
  | headers, v =>
      .error (.raised (.named "AttributeError")
        ("'" ++ v.typeName ++ "' object has no attribute 'headers'"))
  | failing failure, _ => .error failure

end ScriptedFunction

/-- A decoder as data. -/
inductive ScriptedDecoder
  | failing (failure : Failure)
  | constant (v : Value)
  /-- Returns the payload. -/
  | payload
  /-- Returns the name of the event class and the length of the payload. -/
  | info

/-- The decoder that the data stand for. -/
def ScriptedDecoder.apply : ScriptedDecoder → Decoder
  | failing failure, _, _ => .error failure
  | constant v, _, _ => .ok v
  | payload, bytes, _ => .ok (.bytes bytes)
  | info, bytes, cls => .ok (.tuple [.text cls.name, .int bytes.length])

end EventEnvelope
