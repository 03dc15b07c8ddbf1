/-
  EventEnvelope.Proofs.Invocation.Agreement
  ─────────────────────────────────────────
  **Classifying an event and decoding it agree on the declared type.**

  An invocation looks through one message around its declared type and hands what is inside to two
  stages.  Classifying looks through one more message, decoding takes the type as it is.  The two
  resolve the same family unless exactly two messages stand around an event class: then the payload
  is taken for an event, and there is no decoder for a message.

    • `IsNestedEvent`                  — an event class inside two messages,
    • `family?_unwrapMessage_twice`    — looking through two messages against looking through one,
    • `decodeResult_misconfigured_iff` — when decoding finds no decoder,
    • `normalize_misconfigured_iff`    — when an invocation ends with a faulty configuration.
-/
import EventEnvelope.Proofs.Invocation.Failures

namespace EventEnvelope

namespace DeclaredType

/-! ## §1. One message and two. -/

/-- The type is an event class inside two messages. -/
def IsNestedEvent (t : DeclaredType) (family : EventFamily) : Prop :=
  ∃ inner : DeclaredType, t = .message (.message inner) ∧ inner.family? = some family

/-- A message belongs to the family of its argument once it is looked through. -/
theorem family?_unwrapMessage_message (t : DeclaredType) :
    (message t).unwrapMessage.family? = t.family? := by
  cases t <;> rfl

/-- Any other type keeps its family, a bare message having none. -/
theorem family?_unwrapMessage_of_ne {t : DeclaredType} (h : ∀ inner, t ≠ .message inner) :
    t.unwrapMessage.family? = t.family? := by
  cases t with
  | message inner => exact absurd rfl (h inner)
  | cls c =>
      cases c with
      | known known => cases known <;> rfl
      | event _ => rfl
      | derived _ => rfl
  | absent => rfl
  | aliasOf _ _ => rfl
  | unclassed _ => rfl
  | optional _ => rfl
  | list _ => rfl
  | subclass _ => rfl

/-- A message inside a type was one of two messages. -/
theorem eq_message_of_unwrapMessage {t inner : DeclaredType}
    (h : t.unwrapMessage = .message inner) : t = .message (.message inner) := by
  cases t with
  | message argument =>
      cases argument with
      | message innermost =>
          show message (message innermost) = _
          rw [show innermost = inner from DeclaredType.message.inj h]
      | absent => cases h
      | cls _ => cases h
      | aliasOf _ _ => cases h
      | unclassed _ => cases h
      | optional _ => cases h
      | list _ => cases h
      | subclass _ => cases h
  | cls c =>
      cases c with
      | known known => cases known <;> cases h
      | event _ => cases h
      | derived _ => cases h
  | absent => cases h
  | aliasOf _ _ => cases h
  | unclassed _ => cases h
  | optional _ => cases h
  | list _ => cases h
  | subclass _ => cases h

/-- **Two messages against one.**  What is inside two messages belongs to a family exactly if what
is inside one does, or the type is an event class inside two messages. -/
theorem family?_unwrapMessage_twice (t : DeclaredType) (family : EventFamily) :
    t.unwrapMessage.unwrapMessage.family? = some family
      ↔ t.unwrapMessage.family? = some family ∨ t.IsNestedEvent family := by
  by_cases hmessage : ∃ inner, t.unwrapMessage = .message inner
  · -- the second look goes through a message, which has no family of its own
    obtain ⟨inner, hinner⟩ := hmessage
    rw [hinner, family?_unwrapMessage_message]
    constructor
    · intro h
      exact .inr ⟨inner, eq_message_of_unwrapMessage hinner, h⟩
    · rintro (h | ⟨other, rfl, h⟩)
      · cases h
      · cases hinner
        exact h
  · -- the second look changes nothing, and the type is not inside two messages
    have hne : ∀ inner, t.unwrapMessage ≠ .message inner := fun inner h => hmessage ⟨inner, h⟩
    rw [family?_unwrapMessage_of_ne hne]
    constructor
    · exact .inl
    · rintro (h | ⟨inner, rfl, -⟩)
      · exact h
      · exact absurd rfl (hne inner)

/-- A nested event has no family inside one message. -/
theorem IsNestedEvent.family?_unwrapMessage {t : DeclaredType} {family : EventFamily}
    (h : t.IsNestedEvent family) : t.unwrapMessage.family? = none := by
  obtain ⟨inner, rfl, -⟩ := h
  rfl

/-- An event class names its class. -/
theorem rawClass?_of_family? {t : DeclaredType} {family : EventFamily}
    (h : t.family? = some family) : ∃ cls, t.rawClass? = some cls := by
  obtain ⟨cls, hcls, -⟩ := Option.bind_eq_some_iff.mp h
  exact ⟨cls, hcls⟩

end DeclaredType

/-! ## §2. Decoders that cannot be found. -/

/-- **Decoding finds no decoder** exactly if the type has no family or the family has no decoder.
Whatever a decoder fails with, it is no longer a matter of the configuration. -/
theorem Registry.decodeResult_misconfigured_iff (registry : Registry) (declared : DeclaredType)
    (payload : Bytes) :
    kindOf? (registry.decodeResult declared payload) = some .configuration
      ↔ ∀ family, declared.family? = some family → registry.decoders.get? family = none := by
  cases hfamily : declared.family? with
  | none =>
      -- there may be a class, but it is no event class
      have hunsupported : registry.decodeResult declared payload
          = .error (.unsupportedType declared.written) := by
        unfold decodeResult
        rw [hfamily]
        cases declared.rawClass? <;> rfl
      rw [hunsupported]
      constructor
      · intro _ family h
        cases h
      · intro _
        rfl
  | some family =>
      obtain ⟨cls, hcls⟩ := DeclaredType.rawClass?_of_family? hfamily
      unfold decodeResult decoderFor
      simp only [hfamily, hcls]
      cases hdecoder : registry.decoders.get? family with
      | none =>
          constructor
          · intro _ other h
            cases h
            exact hdecoder
          · intro _
            rfl
      | some decoder =>
          constructor
          · intro h
            obtain ⟨failure, hfailure, hkind⟩ := kindOf?_eq_some.mp h
            rw [ok_bind] at hfailure
            cases hevent : decoder payload cls with
            | ok event =>
                rw [hevent] at hfailure
                cases hfailure
            | error original =>
                rw [hevent] at hfailure
                cases hfailure
                rw [kind_reportDecoderFailure] at hkind
                cases hkind
          · intro h
            have hnone := h family rfl
            rw [hdecoder] at hnone
            cases hnone

namespace Invocation

/-! ## §3. Invocations with a faulty configuration. -/

/-- What is wrong with the configuration for an invocation. -/
inductive Misconfigured (call : Invocation) (registry : Registry) : Prop
  /-- An event class is declared inside two messages. -/
  | nested (family : EventFamily) (hnested : call.declared.IsNestedEvent family)
  /-- There is no decoder for the family of the declared event class. -/
  | undecoded (family : EventFamily)
      (hfamily : call.declared.unwrapMessage.family? = some family)
      (hdecoder : registry.decoders.get? family = none)

/-- The payload is taken for an event exactly if two messages around the declared type may be
looked through to find a family. -/
theorem shape_eq_typed_iff (call : Invocation) (family : EventFamily) :
    call.shape = .typed family
      ↔ call.declared.unwrapMessage.unwrapMessage.family? = some family := by
  unfold shape Shape.classify Shape.ofDeclared?
  constructor
  · intro h
    cases hfamily : call.declared.unwrapMessage.unwrapMessage.family? with
    | none =>
        -- a payload that has been read is no event
        rw [hfamily] at h
        replace h : Shape.ofPayload call.payload = .typed family := h
        unfold Shape.ofPayload at h
        split at h
        next v _ => cases v <;> cases h
        next => cases h
    | some found =>
        rw [hfamily] at h
        cases h
        rfl
  · intro h
    rw [h]
    rfl

/-- Only an event can fail for its configuration. -/
theorem partsResult_misconfigured_iff (call : Invocation) (registry : Registry)
    (settings : Settings) :
    kindOf? (partsResult registry settings call.declared.unwrapMessage call.payload call.shape)
        = some .configuration
      ↔ ∃ family, call.shape = .typed family
          ∧ kindOf? (registry.decodeResult call.declared.unwrapMessage call.payload)
              = some .configuration := by
  constructor
  · intro h
    obtain ⟨failure, hfailure, hkind⟩ := kindOf?_eq_some.mp h
    rcases partsResult_eq_error hfailure with ⟨family, hshape, hdecode⟩
      | ⟨fields, hshape, -, -, hbody⟩ | ⟨v, fault, -, rfl⟩
    · exact ⟨family, hshape, kindOf?_eq_some.mpr ⟨failure, hdecode, hkind⟩⟩
    · -- a body that cannot be written is a failure of another kind
      rcases bodyBytes_error ((readable_shape hshape).getD_null _) hbody with
        hother | ⟨t, -, -, hother⟩
      · rw [hother] at hkind
        cases hkind
      · rw [hother] at hkind
        cases hkind
    · cases hkind
  · rintro ⟨family, hshape, hdecode⟩
    obtain ⟨failure, hfailure, hkind⟩ := kindOf?_eq_some.mp hdecode
    rw [hshape, partsResult, hfailure]
    exact congrArg some hkind

/-- The parts of an event are missing for their configuration exactly if it is faulty. -/
theorem misconfigured_iff_partsResult (call : Invocation) (registry : Registry)
    (settings : Settings) :
    kindOf? (partsResult registry settings call.declared.unwrapMessage call.payload call.shape)
        = some .configuration ↔ Misconfigured call registry := by
  rw [partsResult_misconfigured_iff]
  constructor
  · rintro ⟨family, hshape, hdecode⟩
    rw [Registry.decodeResult_misconfigured_iff] at hdecode
    have htwice := (shape_eq_typed_iff call family).mp hshape
    rcases (DeclaredType.family?_unwrapMessage_twice _ family).mp htwice with hfamily | hnested
    · exact .undecoded family hfamily (hdecode family hfamily)
    · exact .nested family hnested
  · rintro (⟨family, hnested⟩ | ⟨family, hfamily, hdecoder⟩)
    · refine ⟨family, (shape_eq_typed_iff call family).mpr
        ((DeclaredType.family?_unwrapMessage_twice _ _).mpr (.inr hnested)), ?_⟩
      rw [Registry.decodeResult_misconfigured_iff, hnested.family?_unwrapMessage]
      intro other hother
      cases hother
    · refine ⟨family, shape_typed hfamily, ?_⟩
      rw [Registry.decodeResult_misconfigured_iff, hfamily]
      intro other hother
      cases hother
      exact hdecoder

/-- A message can only be refused for a payload that is null or for headers that cannot be shown,
neither of which is a fault of the configuration, so the parts decide. -/
theorem result_misconfigured_iff (call : Invocation) (registry : Registry) (settings : Settings) :
    kindOf? (call.result registry settings) = some .configuration
      ↔ Misconfigured call registry := by
  rw [← misconfigured_iff_partsResult call registry settings]
  constructor
  · intro h
    obtain ⟨failure, hfailure, hkind⟩ := kindOf?_eq_some.mp h
    rcases bind_eq_error.mp hfailure with hparts | ⟨parts, -, hmessage⟩
    · exact kindOf?_eq_some.mpr ⟨failure, hparts, hkind⟩
    · rw [kind_of_messageOf hmessage] at hkind
      cases hkind
  · intro h
    obtain ⟨failure, hfailure, hkind⟩ := kindOf?_eq_some.mp h
    unfold result
    rw [hfailure]
    exact congrArg some hkind

/-- **Classification and decoding agree but for nested events.**  A payload that is classified as
an event of a family is decoded for that family, unless the class stands inside two messages.  So
an invocation ends with a faulty configuration exactly in that case, whatever decoders there are, or
if the family has no decoder. -/
theorem normalize_misconfigured_iff (call : Invocation) (registry : Registry) (settings : Settings)
    (w : Workspace) :
    (kindOf? ((call.normalize registry settings).outcome w).1 = some .configuration
        ↔ Misconfigured call registry)
      ∧ ∀ family, call.shape = .typed family →
          (call.declared.unwrapMessage.family? = some family
            ↔ ¬ call.declared.IsNestedEvent family) := by
  constructor
  · rw [yields_normalize call registry settings w]
    exact result_misconfigured_iff call registry settings
  · intro family hshape
    have htwice := (DeclaredType.family?_unwrapMessage_twice _ family).mp
      ((shape_eq_typed_iff call family).mp hshape)
    constructor
    · intro hfamily hnested
      rw [hnested.family?_unwrapMessage] at hfamily
      cases hfamily
    · intro hnested
      exact htwice.resolve_right hnested

/-- An empty object, declared as the event of a queue inside two messages. -/
def nestedQueue : Invocation where
  payload := (Text.ofString "\x7b\x7d").flatMap Utf8.bytesOf
  declared := .message (.message (.cls (.event .queueMessageBatch)))

/-- Every family has a decoder, which takes the payload, and still the type has none. -/
theorem normalize_nestedQueue :
    (∀ family, ((Registry.standard classTexts).decoders.get? family).isSome = true)
      ∧ (Registry.wrapObject classTexts nestedQueue.payload (.event .queueMessageBatch)).toBool
        = true
      ∧ nestedQueue.shape.family? = some .queueMessageBatch
      ∧ kindOf? ((nestedQueue.normalize (.standard classTexts) ⟨true, false, true, "INFO"⟩).outcome
          (.fresh .info)).1 = some .configuration := by
  refine ⟨fun family => ?_, by decide +kernel⟩
  cases family <;> rfl

end Invocation

end EventEnvelope
