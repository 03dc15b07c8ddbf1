/-
  EventEnvelope.Proofs.Invocation.Failures
  ────────────────────────────────────────
  **The failures that prevent a message.**

  An invocation is to fail in three ways only: there is no decoder, an event is rejected, or the
  payload is not JSON.  The stages turn their failures into these kinds, except in three places.  A
  body that is text is written in UTF-8 without a look at what can go wrong, a decoder may answer
  with null, which no message can hold, and the line on the headers of the transport puts them into
  words, which an integer with too many digits does not have.

    • `isDocumented`            — the three kinds,
    • `EscapingFault`           — the three ways out, each with its kind,
    • `normalize_escapes_iff`   — another kind of failure arises in exactly these cases.
-/
import EventEnvelope.Proofs.Invocation.Headers

namespace EventEnvelope

namespace Invocation

/-- The kinds of failure that an invocation may end with. -/
def isDocumented : ErrorKind → Bool
  | .configuration | .decode | .parse => true
  | _ => false

/-- How an invocation can fail with a kind that is not documented. -/
inductive EscapingFault (call : Invocation) (registry : Registry) (settings : Settings) :
    ErrorKind → Prop
  /-- The body of a gateway request is a text with half of a surrogate pair. -/
  | surrogateBody (fields : Fields) (t : Text) (hshape : call.shape = .object fields)
      (hmethod : fields.contains (.text methodField) = true)
      (hobjects : call.declared.unwrapMessage.admitsObject = false)
      (hbody : fields.get? (.text bodyField) = some (.text t))
      (hsurrogate : t.hasSurrogate = true) : EscapingFault call registry settings .unicodeEncode
  /-- The decoder of the event's family answers with null. -/
  | nullEvent (family : EventFamily) (cls : ClassObject) (decoder : Decoder)
      (hclass : call.declared.unwrapMessage.rawClass? = some cls)
      (hfamily : call.declared.unwrapMessage.family? = some family)
      (hdecoder : registry.decoders.get? family = some decoder)
      (hnull : decoder call.payload cls = .ok .null) : EscapingFault call registry settings .value
  /-- The payload has its parts, but the headers of the transport cannot be shown. -/
  | unshowableHeaders (parts : Parts)
      (hparts : partsResult registry settings call.declared.unwrapMessage call.payload call.shape
        = .ok parts)
      (hheaders : ¬ call.HasShowableHeaders) : EscapingFault call registry settings .value

/-! ## §1. Bodies of gateway requests. -/

/-- Only a text with half of a surrogate pair escapes the translation of a body's failures. -/
theorem bodyBytes_error {body : Value} (hbody : Json.Readable body) {failure : Failure}
    (h : bodyBytes body = .error failure) :
    failure.kind = .decode
      ∨ ∃ t, body = .text t ∧ t.hasSurrogate = true ∧ failure.kind = .unicodeEncode := by
  unfold bodyBytes at h
  split at h
  next t =>
    split at h
    · cases h
    next fault hencode =>
      cases h
      exact .inr ⟨t, rfl, Utf8.encode_eq_error_iff.mp ⟨fault, hencode⟩, rfl⟩
  next =>
    split at h
    · cases h
    next fault _ =>
      cases h
      exact .inl rfl
    next other hother hdumps =>
      -- what was read holds no decimal, so the codec has no other way to fail
      obtain ⟨fault, rfl⟩ := Codec.dumps_tree_error hbody hdumps
      exact absurd rfl (hother fault)

end Invocation

/-! ## §2. Events. -/

namespace Registry

/-- A failure of the right kind is passed on, any other is wrapped in one. -/
theorem kind_reportDecoderFailure (cls : ClassObject) (failure : Failure) :
    (reportDecoderFailure cls failure).kind = .decode := by
  unfold reportDecoderFailure
  split
  next hkind => exact hkind
  next => rfl

/-- Whatever a decoder does, its failure is reported as one to decode; without a decoder or a
family the configuration is at fault. -/
theorem decodeResult_error {registry : Registry} {declared : DeclaredType} {payload : Bytes}
    {failure : Failure} (h : registry.decodeResult declared payload = .error failure) :
    failure.kind = .configuration ∨ failure.kind = .decode := by
  unfold decodeResult at h
  split at h
  next cls family _ _ =>
    rcases bind_eq_error.mp h with h | ⟨decoder, -, h⟩
    · unfold decoderFor at h
      split at h
      · cases h
      · cases h
        exact .inl rfl
    · right
      cases hdecoder : decoder payload cls with
      | ok event =>
          rw [hdecoder] at h
          cases h
      | error original =>
          rw [hdecoder] at h
          cases h
          exact kind_reportDecoderFailure cls original
  next =>
    cases h
    exact .inl rfl

/-- An event that is decoded is what the decoder of its family answers with. -/
theorem decodeResult_eq_ok {registry : Registry} {declared : DeclaredType} {payload : Bytes}
    {event : Value} :
    registry.decodeResult declared payload = .ok event
      ↔ ∃ cls family decoder, declared.rawClass? = some cls ∧ declared.family? = some family
          ∧ registry.decoders.get? family = some decoder ∧ decoder payload cls = .ok event := by
  constructor
  · intro h
    unfold decodeResult at h
    split at h
    next cls family hclass hfamily =>
      obtain ⟨decoder, hfor, h⟩ := bind_eq_ok.mp h
      refine ⟨cls, family, decoder, hclass, hfamily, ?_, ?_⟩
      · unfold decoderFor at hfor
        split at hfor
        next found hfound =>
          cases hfor
          exact hfound
        next => cases hfor
      · cases hdecoder : decoder payload cls with
        | ok value =>
            rw [hdecoder] at h
            cases h
            rfl
        | error original =>
            rw [hdecoder] at h
            cases h
    next => cases h
  · rintro ⟨cls, family, decoder, hclass, hfamily, hdecoder, hevent⟩
    unfold decodeResult decoderFor
    simp only [hclass, hfamily, hdecoder, ok_bind, hevent]
    rfl

end Registry

/-- The type inside a message is looked at twice, which makes no difference for an event class. -/
theorem DeclaredType.family?_unwrapMessage {t : DeclaredType} {family : EventFamily}
    (h : t.family? = some family) : t.unwrapMessage = t := by
  cases t with
  | message argument => cases h
  | cls c =>
      cases c with
      | known known => cases h
      | event _ => rfl
      | derived _ => rfl
  | absent => rfl
  | aliasOf _ _ => rfl
  | unclassed _ => rfl
  | optional _ => rfl
  | list _ => rfl
  | subclass _ => rfl

namespace Invocation

/-- An event class decides the shape by itself. -/
theorem shape_typed {call : Invocation} {family : EventFamily}
    (h : call.declared.unwrapMessage.family? = some family) : call.shape = .typed family := by
  unfold shape Shape.classify Shape.ofDeclared?
  rw [DeclaredType.family?_unwrapMessage h, h]
  rfl

/-! ## §3. The parts of a payload. -/

/-- **Where the parts can fail**: an event that is not decoded, a body that cannot be written, and
bytes that are no JSON. -/
theorem partsResult_eq_error {registry : Registry} {settings : Settings} {declared : DeclaredType}
    {payload : Bytes} {shape : Shape} {failure : Failure}
    (h : partsResult registry settings declared payload shape = .error failure) :
    (∃ family, shape = .typed family ∧ registry.decodeResult declared payload = .error failure)
      ∨ (∃ fields : Fields, shape = .object fields ∧ fields.contains (.text methodField) = true
          ∧ declared.admitsObject = false
          ∧ bodyBytes ((fields.get? (.text bodyField)).getD .null) = .error failure)
      ∨ ∃ v fault, shape = .raw v (some fault) ∧ failure = .payloadNotJson fault := by
  cases shape with
  | typed family =>
      -- only the decoder can fail: the markers are fixed by the family
      rcases bind_eq_error.mp h with hdecode | ⟨event, -, hparts⟩
      · exact .inl ⟨family, rfl, hdecode⟩
      · cases hparts
  | object fields =>
      rw [partsResult] at h
      split at h
      next hmethod =>
        unfold gatewayParts at h
        split at h
        · cases h
        next hobjects =>
          rcases bind_eq_error.mp h with hbody | ⟨body, -, hparts⟩
          · exact .inr (.inl ⟨fields, rfl, hmethod, Bool.eq_false_iff.mpr hobjects, hbody⟩)
          · cases hparts
      next => cases h
  | array items => cases h
  | raw v fault =>
      cases fault with
      | none => cases h
      | some fault =>
          -- a lenient setting takes the raw bytes, a strict one reports what the reader found
          rw [partsResult] at h
          split at h
          · cases h
          · cases h
            exact .inr (.inr ⟨v, fault, rfl, rfl⟩)

end Invocation

end EventEnvelope
