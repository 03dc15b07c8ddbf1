/-
  EventEnvelope.Proofs.Invocation.Result
  ──────────────────────────────────────
  **What an invocation comes to, without state.**

  Neither the codec nor the journal has an influence on the message that an invocation becomes, nor
  on the failure that prevents it.  So there is a result that is computed from the invocation alone:
  the shape of its payload, the parts for that shape, and the message of those parts.  Between parts
  and message the headers of the transport are put into words, which fails if they cannot be shown,
  whether the line is written or not.

    • `shape`, `partsResult`, `messageOf`, `result` — the stages,
    • `HasShowableHeaders`                          — what the line on the headers asks for,
    • `yields_normalize`                            — the adapter comes to that result.
-/
import Mathlib.Algebra.Ring.Int.Defs
import EventEnvelope.Invocation
import EventEnvelope.Proofs.Computation
import EventEnvelope.Proofs.Value.Texts

namespace EventEnvelope

open Adapter

namespace Registry

/-- The event that a payload is decoded to. -/
def decodeResult (registry : Registry) (declared : DeclaredType) (payload : Bytes) :
    Except Failure Value :=
  match declared.rawClass?, declared.family? with
  | some cls, some family => do
      let decoder ← registry.decoderFor family
      (decoder payload cls).mapError (reportDecoderFailure cls)
  | _, _ => .error (.unsupportedType declared.written)

theorem yields_decode (registry : Registry) (declared : DeclaredType) (payload : Bytes) :
    Yields (registry.decode declared payload) (registry.decodeResult declared payload) := by
  unfold decode decodeResult
  cases declared.rawClass? with
  | none => exact yields_throw _
  | some cls =>
      cases declared.family? with
      | none => exact yields_throw _
      | some family =>
          exact (yields_ofExcept _).bind fun decoder =>
            (yields_log _ _ _).then (yields_ofExcept _)

end Registry

namespace Message

theorem of_eq_ok {payload : Value} {headers : Fields} {m : Message}
    (h : Message.of payload headers = .ok m) : m.payload = payload ∧ m.headers = headers := by
  unfold Message.of at h
  split at h
  · cases h
    exact ⟨rfl, rfl⟩
  · cases h

/-- Only a null payload prevents a message. -/
theorem of_eq_error {payload : Value} {headers : Fields} {failure : Failure} :
    Message.of payload headers = .error failure ↔ payload = .null ∧ failure = .nullPayload := by
  unfold Message.of
  cases payload <;> simp [Value.isNull, eq_comm]

end Message

namespace Invocation

/-- The shape of the payload, for the type inside one message. -/
def shape (call : Invocation) : Shape := Shape.classify call.declared.unwrapMessage call.payload

/-- The request came through a gateway: an event of a gateway family, or an object with the field
that makes it one. -/
def isGatewayShape : Shape → Bool
  | .typed family => family.isGatewayRequest
  | .object fields => fields.contains (.text methodField)
  | _ => false

/-- The parts of a payload of a known shape. -/
def partsResult (registry : Registry) (settings : Settings) (declared : DeclaredType)
    (payload : Bytes) : Shape → Except Failure Parts
  | .typed family => do
      let event ← registry.decodeResult declared payload
      .ok { body := event, markers := if family.isGatewayRequest then gatewayMarkers else [] }
  | .object fields =>
      if fields.contains (.text methodField) then gatewayParts fields declared.admitsObject
      else .ok { body := .bytes payload, sources := nestedHeaders fields }
  | .array items => .ok { body := .list items }
  | .raw _ none => .ok { body := .bytes payload }
  | .raw _ (some fault) =>
      if settings.lenientParse then .ok { body := .bytes payload }
      else .error (.payloadNotJson fault)

/-- The headers of the transport in words. -/
def headersText (call : Invocation) : Except Failure Text :=
  (Value.object (call.headers.getD [])).shown

/-- The headers of a message that is made of these parts. -/
def headersOf (call : Invocation) (parts : Parts) : Fields :=
  mergeHeaders (parts.sources ++ [call.headers])
    (some (parts.markers.overlay (contextMarkers call.context)))

/-- The message of the parts that were found, once the headers of the transport have been put into
words. -/
def messageOf (call : Invocation) (parts : Parts) : Except Failure Message := do
  let _ ← call.headersText
  Message.of parts.body (call.headersOf parts)

/-- The message that an invocation becomes, or why there is none. -/
def result (call : Invocation) (registry : Registry) (settings : Settings) :
    Except Failure Message := do
  let parts ← partsResult registry settings call.declared.unwrapMessage call.payload call.shape
  call.messageOf parts

/-- The headers of the transport can be shown: they hold no integer with too many digits. -/
def HasShowableHeaders (call : Invocation) : Prop :=
  ¬ (Value.object (call.headers.getD [])).Unshowable

/-! ## §1. Headers in words. -/

/-- Without headers there is nothing that could be too long. -/
theorem hasShowableHeaders_of_none {call : Invocation} (h : call.headers = none) :
    call.HasShowableHeaders := by
  unfold HasShowableHeaders
  rw [h, Value.unshowable_object_iff]
  rintro ⟨entry, hentry, -⟩
  cases hentry

theorem hasShowableHeaders_iff {call : Invocation} :
    call.HasShowableHeaders ↔ (Value.object (call.headers.getD [])).shown?.isSome = true := by
  rw [HasShowableHeaders, ← Value.shown?_eq_none_iff, Option.isSome_iff_ne_none]

/-- A header whose value has one digit too many. -/
def longHeader : Fields := [(.text "n", .int (10 ^ digitLimit))]

theorem not_hasShowableHeaders_of_longHeader {call : Invocation}
    (h : call.headers = some longHeader) : ¬ call.HasShowableHeaders := by
  have hlong : (Value.int (10 ^ digitLimit)).Unshowable :=
    .int _ (by rw [Int.natAbs_pow, show (10 : Int).natAbs = 10 from rfl])
  unfold HasShowableHeaders
  rw [h, not_not]
  exact .value longHeader _ (List.mem_singleton_self _) hlong

theorem messageOf_of_showable {call : Invocation} (h : call.HasShowableHeaders) (parts : Parts) :
    call.messageOf parts = Message.of parts.body (call.headersOf parts) := by
  unfold messageOf
  cases htext : call.headersText with
  | ok text => rfl
  | error failure => exact absurd (Value.shown?_eq_none_iff.mp (Value.shown_eq_error.mp htext).1) h

/-- **Headers that cannot be shown prevent every message**, at the level of any journal. -/
theorem messageOf_of_unshowable {call : Invocation} (h : ¬ call.HasShowableHeaders)
    (parts : Parts) : call.messageOf parts = .error .integerTooLong := by
  have htext : call.headersText = .error .integerTooLong :=
    Value.shown_eq_error.mpr ⟨Value.shown?_eq_none_iff.mpr (not_not.mp h), rfl⟩
  unfold messageOf
  rw [htext]
  rfl

theorem messageOf_eq_ok {call : Invocation} {parts : Parts} {m : Message}
    (h : call.messageOf parts = .ok m) :
    call.HasShowableHeaders ∧ m.payload = parts.body ∧ m.headers = call.headersOf parts := by
  by_cases hshow : call.HasShowableHeaders
  · rw [messageOf_of_showable hshow] at h
    exact ⟨hshow, Message.of_eq_ok h⟩
  · rw [messageOf_of_unshowable hshow] at h
    cases h

/-- Parts become no message if the headers of the transport cannot be shown, or else if the body is
null; either failure is one of value. -/
theorem messageOf_eq_error {call : Invocation} {parts : Parts} {failure : Failure}
    (h : call.messageOf parts = .error failure) :
    (¬ call.HasShowableHeaders ∧ failure = .integerTooLong)
      ∨ call.HasShowableHeaders ∧ parts.body = .null ∧ failure = .nullPayload := by
  by_cases hshow : call.HasShowableHeaders
  · rw [messageOf_of_showable hshow] at h
    exact .inr ⟨hshow, Message.of_eq_error.mp h⟩
  · rw [messageOf_of_unshowable hshow] at h
    cases h
    exact .inl ⟨hshow, rfl⟩

theorem kind_of_messageOf {call : Invocation} {parts : Parts} {failure : Failure}
    (h : call.messageOf parts = .error failure) : failure.kind = .value := by
  rcases messageOf_eq_error h with ⟨-, rfl⟩ | ⟨-, -, rfl⟩
  · rfl
  · rfl

/-- An invocation that becomes a message has headers that can be shown. -/
theorem hasShowableHeaders_of_result {call : Invocation} {registry : Registry} {settings : Settings}
    {m : Message} (h : call.result registry settings = .ok m) : call.HasShowableHeaders := by
  obtain ⟨parts, -, hmessage⟩ := bind_eq_ok.mp h
  exact (messageOf_eq_ok hmessage).1

/-! ## §2. Stage by stage. -/

theorem yields_shapeOf (declared : DeclaredType) (payload : Bytes) :
    Yields (shapeOf declared payload) (.ok (Shape.classify declared payload)) := by
  unfold shapeOf Shape.classify
  cases Shape.ofDeclared? declared with
  | some shape => exact yields_pure shape
  | none => exact Codec.yields_ensureConfigured.then (yields_pure _)

theorem yields_partsOf (registry : Registry) (settings : Settings) (declared : DeclaredType)
    (payload : Bytes) (shape : Shape) :
    Yields (partsOf registry settings declared payload shape)
      (partsResult registry settings declared payload shape) := by
  cases shape with
  | typed family =>
      refine (Registry.yields_decode registry declared payload).bind fun event => ?_
      split
      · exact (yields_log _ _ _).then (yields_pure _)
      · exact yields_pure _
  | object fields =>
      unfold partsOf objectParts partsResult
      refine Yields.ite ?_ (yields_pure _)
      -- the log line stands between two steps without effect, so the parts are those of the first
      have hparts := (yields_ofExcept (gatewayParts fields declared.admitsObject)).bind
        (f := fun parts => logGateway >>= fun _ => pure parts) (g := pure)
        fun parts => (yields_log _ _ _).then (yields_pure parts)
      rwa [bind_pure] at hparts
  | array items => exact yields_pure _
  | raw v fault =>
      cases fault with
      | none => exact yields_pure _
      | some fault =>
          exact Yields.ite ((yields_log _ _ _).then (yields_pure _)) (yields_throw _)

/-- **An invocation comes to its result**, whatever the codec and the journal are. -/
theorem yields_normalize (call : Invocation) (registry : Registry) (settings : Settings) :
    Yields (call.normalize registry settings) (call.result registry settings) := by
  -- from the last step to the first, since each one is carried by `Yields.bind`
  have hmessage : ∀ parts : Parts, Yields
      (Adapter.ofExcept call.headersText >>= fun text =>
        Adapter.log .info .normalizer ("Incoming request headers: " ++ text)
          >>= fun _ => Adapter.ofExcept (Message.of parts.body (call.headersOf parts)))
      (call.messageOf parts) := fun parts =>
    (yields_ofExcept _).bind fun text => (yields_log _ _ _).then (yields_ofExcept _)
  have hmain := (yields_shapeOf call.declared.unwrapMessage call.payload).bind fun shape =>
    (yields_log .info .normalizer ("Detected payload shape: " ++ shape.kindName)).then
      ((yields_partsOf registry settings call.declared.unwrapMessage call.payload shape).bind
        hmessage)
  unfold normalize
  -- the optional line on the declared type comes before all of them
  split
  · exact (yields_log _ _ _).then hmain
  · exact (yields_pure ()).then hmain

end Invocation

end EventEnvelope
