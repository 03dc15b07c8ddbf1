/-
  EventEnvelope.Event.Registry
  ────────────────────────────
  **Decoders of event families.**

  A decoder turns a payload into an object of a given event class.  The one that every family
  starts with reads JSON and wraps the object it finds; which texts the class gives to its objects
  is a parameter (`texts`).  Any failure of a decoder becomes a failure to decode, except that a
  failure to decode stays as it is.
-/
import EventEnvelope.Adapter

namespace EventEnvelope

/-- What turns a payload into an event of a class. -/
abbrev Decoder := Bytes → ClassObject → Except Failure Value

/-- The family of an event object. -/
def familyOf? : Value → Option EventFamily
  | .event cls _ _ => cls.family?
  | _ => none

/-- The texts that a class gives to the object which wraps these fields. -/
abbrev EventTexts := ClassObject → Fields → OwnText

/-- Texts that name the class and tell nothing of the object. -/
def classTexts : EventTexts := fun cls _ =>
  let text : Text := "<" ++ cls.name ++ " object>"
  ⟨some text, some text⟩

/-- The decoders in use, one a family at most. -/
structure Registry where
  decoders : OrderedMap EventFamily Decoder

namespace Registry

/-- Read a JSON object and wrap it. -/
def wrapObject (texts : EventTexts) : Decoder := fun payload cls =>
  match Codec.loads (.bytes payload) with
  | .ok (.object fields) => .ok (.event cls (.object fields) (texts cls fields))
  | .ok v => .error (.eventNotAnObject cls.name v.typeName)
  | .error fault => .error (.decoderFailed cls.name fault.message)

/-- A registry without decoders. -/
def empty : Registry := ⟨[]⟩

/-- The registry in which every family has the decoder it starts with. -/
def standard (texts : EventTexts) : Registry :=
  ⟨EventFamily.all.map fun f => (f, wrapObject texts)⟩

/-- Give a family a decoder. -/
def register (r : Registry) (family : EventFamily) (decoder : Decoder) : Registry :=
  ⟨r.decoders.insert family decoder⟩

/-- Take the decoder of a family away. -/
def unregister (r : Registry) (family : EventFamily) : Registry := ⟨r.decoders.erase family⟩

/-- The decoder of a family. -/
def decoderFor (r : Registry) (family : EventFamily) : Except Failure Decoder :=
  match r.decoders.get? family with
  | some decoder => .ok decoder
  | none => .error (.noDecoder family)

/-- What a decoder's failure is reported as. -/
def reportDecoderFailure (cls : ClassObject) (failure : Failure) : Failure :=
  if failure.kind = .decode then failure else .decoderFailed cls.name failure.message

/-- Decode a payload as an event of the class behind a declared type. -/
def decode (r : Registry) (declared : DeclaredType) (payload : Bytes) : Adapter Value := do
  match declared.rawClass?, declared.family? with
  | some cls, some family => do
      let decoder ← Adapter.ofExcept (r.decoderFor family)
      Adapter.log .debug .registry ("Decoding " ++ family.name ++ " event as " ++ cls.name)
      Adapter.ofExcept ((decoder payload cls).mapError (reportDecoderFailure cls))
  | _, _ => throw (.unsupportedType declared.written)

end Registry

end EventEnvelope
