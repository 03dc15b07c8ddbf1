/-
  EventEnvelope.Proofs.Invocation.Payload
  ───────────────────────────────────────
  **What becomes of a payload that is no event.**

  A function that is declared with no event class gets its payload by what the bytes read as: a list
  as the value that was read, and everything else as the bytes themselves, except for gateway
  requests.  Those give up their nested headers, if the function takes objects, or all but their
  body.  A body is written anew, and since the writer is inverse to the reader on everything that
  was read, doubles included, the bytes read as the body again.  A message that the law promises
  fails to come only if the headers of the transport cannot be shown.

    • `DeclaredType.NamesEvent`   — an event class is found behind one message or two,
    • `PayloadLaw`                — the law, case by case,
    • `Promises`                  — the payloads of the messages that it promises,
    • `delivers_of_promises`      — it keeps its promises if the headers can be shown,
    • `bodyLaw_bodyBytes`         — what is written for a body,
    • `payload_normalize`         — an invocation that is no event obeys the law exactly then.
-/
import EventEnvelope.Proofs.Invocation.Failures
import EventEnvelope.Proofs.Json.RoundTrip

namespace EventEnvelope

/-- Looked through one message or two, the type names an event class. -/
def DeclaredType.NamesEvent (t : DeclaredType) : Prop :=
  ∃ family, t.unwrapMessage.family? = some family
    ∨ t.unwrapMessage.unwrapMessage.family? = some family

namespace DeclaredType

theorem unwrapMessage_of_not_isMessage {t : DeclaredType} (h : t.isMessage = false) :
    t.unwrapMessage = t := by
  unfold unwrapMessage
  split
  · cases h
  · cases h
  · cases h
  · rfl

/-- A type that is neither a message nor an event class names no event. -/
theorem not_namesEvent_of_family? {t : DeclaredType} (hmessage : t.isMessage = false)
    (hfamily : t.family? = none) : ¬ t.NamesEvent := by
  unfold NamesEvent
  rw [unwrapMessage_of_not_isMessage hmessage, unwrapMessage_of_not_isMessage hmessage, hfamily]
  rintro ⟨family, h | h⟩
  · cases h
  · cases h

end DeclaredType

namespace Invocation

/-! ## §1. The law. -/

/-- There is a message, and it has this payload. -/
def Delivers (outcome : Except Failure Message) (payload : Value) : Prop :=
  ∃ m, outcome = .ok m ∧ m.payload = payload

/-- A value that is neither a list nor an object. -/
def IsScalar : Value → Prop
  | .null | .bool _ | .int _ | .float _ | .text _ => True
  | _ => False

/-- The fields but the nested headers, in their order. -/
structure WithoutHeaders (fields rest : Fields) : Prop where
  order : rest.Sublist fields
  mem : ∀ e, e ∈ rest ↔ e ∈ fields ∧ e.1 ≠ .text headersField

/-- The bytes for the body of a request: a text in UTF-8; anything else as JSON, from which it is
read again. -/
structure BodyLaw (body : Value) (bytes : Bytes) : Prop where
  text : ∀ t, body = .text t → Utf8.encode t = .ok bytes
  other : (∀ t, body ≠ .text t) →
    Codec.dumps body = .ok bytes ∧ Codec.loads (.bytes bytes) = .ok body

/-- **The payload law**, by what the payload reads as. -/
structure PayloadLaw (call : Invocation) (settings : Settings)
    (outcome : Except Failure Message) : Prop where
  /-- What is not JSON is refused, -/
  malformed : ∀ fault, Codec.loads (.bytes call.payload) = .error fault →
    settings.lenientParse = false → kindOf? outcome = some .parse
  /-- or let through as it is. -/
  lenient : ∀ fault, Codec.loads (.bytes call.payload) = .error fault →
    settings.lenientParse = true → Delivers outcome (.bytes call.payload)
  list : ∀ items, Codec.loads (.bytes call.payload) = .ok (.list items) →
    Delivers outcome (.list items)
  scalar : ∀ v, Codec.loads (.bytes call.payload) = .ok v → IsScalar v →
    Delivers outcome (.bytes call.payload)
  plainObject : ∀ fields : Fields, Codec.loads (.bytes call.payload) = .ok (.object fields) →
    fields.get? (.text methodField) = none → Delivers outcome (.bytes call.payload)
  wholeRequest : ∀ (fields : Fields) (method : Value),
    Codec.loads (.bytes call.payload) = .ok (.object fields) →
    fields.get? (.text methodField) = some method →
    call.declared.unwrapMessage.admitsObject = true →
    ∃ rest, WithoutHeaders fields rest ∧ Delivers outcome (.object rest)
  requestBody : ∀ (fields : Fields) (method : Value),
    Codec.loads (.bytes call.payload) = .ok (.object fields) →
    fields.get? (.text methodField) = some method →
    call.declared.unwrapMessage.admitsObject = false → ∀ m, outcome = .ok m →
    ∃ bytes, m.payload = .bytes bytes
      ∧ BodyLaw ((fields.get? (.text bodyField)).getD .null) bytes

/-- The payload of the message that the law promises, where it promises one. -/
inductive Promises (call : Invocation) (settings : Settings) : Value → Prop
  | lenient (fault : CodecFault) (h : Codec.loads (.bytes call.payload) = .error fault)
      (hlenient : settings.lenientParse = true) : Promises call settings (.bytes call.payload)
  | list (items : List Value) (h : Codec.loads (.bytes call.payload) = .ok (.list items)) :
      Promises call settings (.list items)
  | scalar (v : Value) (h : Codec.loads (.bytes call.payload) = .ok v) (hv : IsScalar v) :
      Promises call settings (.bytes call.payload)
  | plainObject (fields : Fields) (h : Codec.loads (.bytes call.payload) = .ok (.object fields))
      (hmethod : fields.get? (.text methodField) = none) :
      Promises call settings (.bytes call.payload)
  | wholeRequest (fields : Fields) (method : Value)
      (h : Codec.loads (.bytes call.payload) = .ok (.object fields))
      (hmethod : fields.get? (.text methodField) = some method)
      (hobjects : call.declared.unwrapMessage.admitsObject = true) :
      Promises call settings (.object (fields.erase (.text headersField)))

/-- What obeys the law is a message wherever the law promises one. -/
theorem PayloadLaw.exists_message {call : Invocation} {settings : Settings}
    {outcome : Except Failure Message} {payload : Value} (hlaw : PayloadLaw call settings outcome)
    (h : call.Promises settings payload) : ∃ m, outcome = .ok m := by
  have hdelivers : ∃ v, Delivers outcome v := by
    cases h with
    | lenient fault h hlenient => exact ⟨_, hlaw.lenient fault h hlenient⟩
    | list items h => exact ⟨_, hlaw.list items h⟩
    | scalar v h hv => exact ⟨_, hlaw.scalar v h hv⟩
    | plainObject fields h hmethod => exact ⟨_, hlaw.plainObject fields h hmethod⟩
    | wholeRequest fields method h hmethod hobjects =>
        obtain ⟨rest, -, hrest⟩ := hlaw.wholeRequest fields method h hmethod hobjects
        exact ⟨_, hrest⟩
  obtain ⟨v, m, hm, -⟩ := hdelivers
  exact ⟨m, hm⟩

/-! ## §2. The stages. -/

/-- Without an event class the payload decides alone. -/
theorem shape_of_not_namesEvent {call : Invocation} (h : ¬ call.declared.NamesEvent) :
    call.shape = Shape.ofPayload call.payload := by
  have hfamily : call.declared.unwrapMessage.unwrapMessage.family? = none := by
    cases hcase : call.declared.unwrapMessage.unwrapMessage.family? with
    | none => rfl
    | some family => exact absurd ⟨family, .inr hcase⟩ h
  unfold shape Shape.classify Shape.ofDeclared?
  rw [hfamily]
  rfl

theorem ofPayload_of_loads {payload : Bytes} {v : Value}
    (h : Codec.loads (.bytes payload) = .ok v) :
    Shape.ofPayload payload = Shape.ofValue v := by
  rw [Shape.ofPayload, h]

theorem ofValue_scalar {v : Value} (hv : IsScalar v) : Shape.ofValue v = .raw v none := by
  cases v with
  | list items => cases hv
  | object fields => cases hv
  | _ => rfl

/-- Parts with a body are delivered as that body. -/
theorem delivers_of_parts {call : Invocation} {registry : Registry} {settings : Settings}
    {parts : Parts} (hshow : call.HasShowableHeaders)
    (hparts : partsResult registry settings call.declared.unwrapMessage call.payload call.shape
      = .ok parts)
    (hbody : parts.body.isNull = false) : Delivers (call.result registry settings) parts.body := by
  unfold result
  rw [hparts, ok_bind, messageOf_of_showable hshow, Message.of, dif_pos hbody]
  exact ⟨_, rfl, rfl⟩

theorem withoutHeaders_erase {fields : Fields} (h : Json.Readable (.object fields)) :
    WithoutHeaders fields (fields.erase (.text headersField)) := by
  refine ⟨List.filter_sublist, fun e => ?_⟩
  unfold OrderedMap.erase
  rw [List.mem_filter]
  refine and_congr_right fun he => ?_
  -- the keys are texts, so equality of values is equality of terms
  cases h with
  | object _ _ hkeys _ =>
      obtain ⟨t, hkey, -⟩ := hkeys e he
      rw [hkey, Value.text_beq_text]
      simp

/-- **The bytes for a body** are its text in UTF-8, or JSON that reads as the body. -/
theorem bodyLaw_bodyBytes {body : Value} (hbody : Json.Readable body) {bytes : Bytes}
    (h : bodyBytes body = .ok bytes) : BodyLaw body bytes := by
  unfold bodyBytes at h
  split at h
  next t =>
    split at h
    next hencode =>
      cases h
      refine ⟨fun s hs => ?_, fun hother => absurd rfl (hother t)⟩
      cases hs
      exact hencode
    next => cases h
  next hother =>
    split at h
    next hdumps =>
      cases h
      exact ⟨fun t ht => absurd ht (hother t), fun _ => ⟨hdumps, Codec.loads_of_dumps hbody hdumps⟩⟩
    next => cases h
    next => cases h

/-! ## §3. Every invocation that is no event. -/

section Law

variable {call : Invocation} {settings : Settings} (registry : Registry)
  (hevent : ¬ call.declared.NamesEvent)
include hevent

/-- **There are parts for every message that the law promises**, and its payload is their body. -/
theorem parts_of_promises {payload : Value} (h : call.Promises settings payload) :
    ∃ parts, partsResult registry settings call.declared.unwrapMessage call.payload call.shape
        = .ok parts ∧ parts.body = payload ∧ payload.isNull = false := by
  rw [shape_of_not_namesEvent hevent]
  cases h with
  | lenient fault h hlenient =>
      refine ⟨{ body := .bytes call.payload }, ?_, rfl, rfl⟩
      rw [Shape.ofPayload, h, partsResult, hlenient]
      rfl
  | list items h =>
      refine ⟨{ body := .list items }, ?_, rfl, rfl⟩
      rw [ofPayload_of_loads h]
      rfl
  | scalar v h hv =>
      refine ⟨{ body := .bytes call.payload }, ?_, rfl, rfl⟩
      rw [ofPayload_of_loads h, ofValue_scalar hv]
      rfl
  | plainObject fields h hmethod =>
      refine ⟨{ body := .bytes call.payload, sources := nestedHeaders fields }, ?_, rfl, rfl⟩
      rw [ofPayload_of_loads h, Shape.ofValue, partsResult, OrderedMap.contains, hmethod]
      rfl
  | wholeRequest fields method h hmethod hobjects =>
      refine ⟨{
        body := .object (fields.erase (.text headersField))
        sources := some [(.text methodField, method)] :: nestedHeaders fields
        markers := gatewayMarkers }, ?_, rfl, rfl⟩
      rw [ofPayload_of_loads h, Shape.ofValue, partsResult, OrderedMap.contains, hmethod, hobjects]
      show gatewayParts fields true = _
      rw [gatewayParts, hmethod]
      rfl

/-- Headers that cannot be shown keep it from coming. -/
theorem result_of_promises_of_unshowable {payload : Value} (h : call.Promises settings payload)
    (hshow : ¬ call.HasShowableHeaders) :
    call.result registry settings = .error .integerTooLong := by
  obtain ⟨parts, hparts, -, -⟩ := parts_of_promises registry hevent h
  unfold result
  rw [hparts]
  exact messageOf_of_unshowable hshow parts

theorem result_malformed {fault : CodecFault}
    (h : Codec.loads (.bytes call.payload) = .error fault)
    (hstrict : settings.lenientParse = false) :
    kindOf? (call.result registry settings) = some .parse := by
  unfold result
  rw [shape_of_not_namesEvent hevent, Shape.ofPayload, h, partsResult, hstrict]
  rfl

theorem result_requestBody {fields : Fields} {method : Value}
    (h : Codec.loads (.bytes call.payload) = .ok (.object fields))
    (hmethod : fields.get? (.text methodField) = some method)
    (hobjects : call.declared.unwrapMessage.admitsObject = false) {m : Message}
    (hm : call.result registry settings = .ok m) :
    ∃ bytes, m.payload = .bytes bytes
      ∧ BodyLaw ((fields.get? (.text bodyField)).getD .null) bytes := by
  obtain ⟨parts, hparts, hmessage⟩ := bind_eq_ok.mp hm
  rw [shape_of_not_namesEvent hevent, ofPayload_of_loads h, Shape.ofValue, partsResult,
    OrderedMap.contains, hmethod, hobjects] at hparts
  replace hparts : gatewayParts fields false = .ok parts := hparts
  -- the bytes of the body are all that goes into the payload
  obtain ⟨bytes, hbytes, hbody⟩ := bind_eq_ok.mp hparts
  cases hbody
  refine ⟨bytes, (messageOf_eq_ok hmessage).2.1, ?_⟩
  exact bodyLaw_bodyBytes ((Codec.readable_loads h).getD_null _) hbytes

/-- **The law keeps its promises** if the headers can be shown. -/
theorem delivers_of_promises (hshow : call.HasShowableHeaders) {payload : Value}
    (h : call.Promises settings payload) : Delivers (call.result registry settings) payload := by
  obtain ⟨parts, hparts, rfl, hbody⟩ := parts_of_promises registry hevent h
  exact delivers_of_parts hshow hparts hbody

/-- Only the messages that the law promises ask for headers that can be shown. -/
theorem payloadLaw_result
    (hshow : ∀ payload, call.Promises settings payload → call.HasShowableHeaders) :
    PayloadLaw call settings (call.result registry settings) := by
  have hdelivers : ∀ {payload}, call.Promises settings payload →
      Delivers (call.result registry settings) payload :=
    fun {payload} h => delivers_of_promises registry hevent (hshow payload h) h
  exact {
    malformed := fun fault h hstrict => result_malformed registry hevent h hstrict
    lenient := fun fault h hlenient => hdelivers (.lenient fault h hlenient)
    list := fun items h => hdelivers (.list items h)
    scalar := fun v h hv => hdelivers (.scalar v h hv)
    plainObject := fun fields h hmethod => hdelivers (.plainObject fields h hmethod)
    wholeRequest := fun fields method h hmethod hobjects =>
      ⟨_, withoutHeaders_erase (Codec.readable_loads h),
        hdelivers (.wholeRequest fields method h hmethod hobjects)⟩
    requestBody := fun fields method h hmethod hobjects m hm =>
      result_requestBody registry hevent h hmethod hobjects hm }

end Law

/-- **The payload law holds** of an invocation whose declared type names no event class, whatever
its context, the settings and the decoders are, exactly if the headers of the transport can be
shown where it promises a message.  Where it does and they cannot, that is what the invocation
fails by. -/
theorem payload_normalize (call : Invocation) (registry : Registry) (settings : Settings)
    (w : Workspace) (hevent : ¬ call.declared.NamesEvent) :
    (PayloadLaw call settings ((call.normalize registry settings).outcome w).1
        ↔ ∀ payload, call.Promises settings payload → call.HasShowableHeaders)
      ∧ ∀ payload, call.Promises settings payload → ¬ call.HasShowableHeaders →
          ((call.normalize registry settings).outcome w).1 = .error .integerTooLong := by
  rw [yields_normalize call registry settings w]
  refine ⟨⟨fun hlaw payload h => ?_, payloadLaw_result registry hevent⟩,
    fun payload => result_of_promises_of_unshowable registry hevent⟩
  obtain ⟨m, hm⟩ := hlaw.exists_message h
  exact hasShowableHeaders_of_result hm

/-- A gateway request with doubles in its body, for a function that takes no objects. -/
def doublesRequest : Invocation where
  payload := (Text.ofString <| "\x7b\"httpMethod\":\"POST\",\"headers\":\x7b\"a\":1\x7d,"
    ++ "\"body\":[0.1,2.5E10,-0,[]]\x7d").flatMap Utf8.bytesOf
  declared := .message (.optional (.cls (.known .dict)))

theorem payload_normalize_doublesRequest :
    ¬ doublesRequest.declared.NamesEvent
      ∧ PayloadLaw doublesRequest ⟨true, false, true, "INFO"⟩
          ((doublesRequest.normalize (.standard classTexts) ⟨true, false, true, "INFO"⟩).outcome
            (.fresh .info)).1
      ∧ ((doublesRequest.normalize (.standard classTexts) ⟨true, false, true, "INFO"⟩).outcome
          (.fresh .info)).1.toBool = true := by
  have hevent : ¬ doublesRequest.declared.NamesEvent := by
    rintro ⟨family, h | h⟩
    · cases h
    · cases h
  obtain ⟨hlaw, -⟩ := payload_normalize doublesRequest (.standard classTexts)
    ⟨true, false, true, "INFO"⟩ (.fresh .info) hevent
  exact ⟨hevent, hlaw.mpr fun _ _ => hasShowableHeaders_of_none rfl, by decide +kernel⟩

/-- An empty list, with a header of one digit too many. -/
def emptyList : Invocation where
  payload := (Text.ofString "[]").flatMap Utf8.bytesOf
  headers := some longHeader

/-- The list is read, and still there is no message with it. -/
theorem normalize_emptyList :
    let outcome := ((emptyList.normalize (.standard classTexts) {}).outcome (.fresh .info)).1
    ¬ emptyList.declared.NamesEvent ∧ Codec.loads (.bytes emptyList.payload) = .ok (.list [])
      ∧ outcome = .error .integerTooLong ∧ ¬ PayloadLaw emptyList {} outcome := by
  intro outcome
  have hevent : ¬ emptyList.declared.NamesEvent := by
    rintro ⟨family, h | h⟩
    · cases h
    · cases h
  have hread : Codec.loads (.bytes emptyList.payload) = .ok (.list []) := by
    show Codec.loads (.bytes ((Text.ofString "[]").flatMap Utf8.bytesOf)) = _
    rfl
  have hpromised : emptyList.Promises {} (.list []) := .list [] hread
  have houtcome : outcome = .error .integerTooLong := by
    show ((emptyList.normalize _ _).outcome _).1 = _
    rw [yields_normalize emptyList _ _ _]
    exact result_of_promises_of_unshowable _ hevent hpromised
      (not_hasShowableHeaders_of_longHeader rfl)
  refine ⟨hevent, hread, houtcome, fun hlaw => ?_⟩
  obtain ⟨m, hm⟩ := hlaw.exists_message hpromised
  rw [houtcome] at hm
  cases hm

end Invocation

end EventEnvelope
