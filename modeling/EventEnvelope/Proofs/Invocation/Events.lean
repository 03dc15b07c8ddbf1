/-
  EventEnvelope.Proofs.Invocation.Events
  ──────────────────────────────────────
  **What becomes of a payload that is declared as an event.**

  A function may be declared with an event class, with a class derived from one, or with a message
  of either.  Then the payload is an event whatever it looks like: it is wrapped in an object of
  exactly that class if it is a JSON object, and rejected if it is anything else.  The fields of an
  event stay inside it.  Headers come from the transport alone, the markers are written over them,
  and the codec is not touched on the way.  An event that was wrapped is lost if the headers of the
  transport cannot be shown.

    • `unwrapMessage_of_declared`   — an event class, and a message of it, declare the same,
    • `wrapObject_cases`            — what the decoder that families start with makes of a payload,
    • `eventMarkers`                — the markers of an event,
    • `EventLaw`                    — what an invocation should come to,
    • `normalize_event`             — it does, for every class that is derived from an event class,
                                      unless an event is lost.
-/
import EventEnvelope.Proofs.Codec.Configuration
import EventEnvelope.Proofs.Event.Registry

namespace EventEnvelope

/-! ## §1. Declarations. -/

namespace DeclaredType

/-- Declared as it is or inside a message, an event class is found behind one message, -/
theorem unwrapMessage_of_declared {t declared : DeclaredType} {family : EventFamily}
    (ht : t.family? = some family) (h : declared = t ∨ declared = .message t) :
    declared.unwrapMessage = t := by
  rcases h with rfl | rfl
  · exact family?_unwrapMessage ht
  · cases t with
    | absent => cases ht
    | _ => rfl

/-- and behind two. -/
theorem unwrapMessage_twice_of_declared {t declared : DeclaredType} {family : EventFamily}
    (ht : t.family? = some family) (h : declared = t ∨ declared = .message t) :
    declared.unwrapMessage.unwrapMessage = t := by
  rw [unwrapMessage_of_declared ht h]
  exact family?_unwrapMessage ht

end DeclaredType

/-! ## §2. Decoders. -/

namespace Registry

/-- **The decoder that families start with** wraps an object and rejects everything else. -/
theorem wrapObject_cases (texts : EventTexts) (payload : Bytes) (cls : ClassObject) :
    (∃ fields : Fields, Codec.loads (.bytes payload) = .ok (.object fields)
        ∧ wrapObject texts payload cls = .ok (.event cls (.object fields) (texts cls fields)))
      ∨ (¬ ∃ fields : Fields, Codec.loads (.bytes payload) = .ok (.object fields))
        ∧ ∃ failure, wrapObject texts payload cls = .error failure ∧ failure.kind = .decode := by
  unfold wrapObject
  split
  next fields hread => exact .inl ⟨fields, hread, rfl⟩
  next v hnot hread =>
    refine .inr ⟨?_, _, rfl, rfl⟩
    rintro ⟨fields, hfields⟩
    rw [hread] at hfields
    cases hfields
    exact hnot fields rfl
  next fault hread =>
    refine .inr ⟨?_, _, rfl, rfl⟩
    rintro ⟨fields, hfields⟩
    rw [hread] at hfields
    cases hfields

end Registry

namespace Invocation

/-! ## §3. The law. -/

/-- The markers of an event: that of its gateway, if it has come through one, and the context. -/
def eventMarkers (family : EventFamily) (context : Value) : Fields :=
  (if family.isGatewayRequest then gatewayMarkers else []) ++ contextMarkers context

/-- The payload is a JSON object. -/
def HoldsObject (call : Invocation) : Prop :=
  ∃ fields : Fields, Codec.loads (.bytes call.payload) = .ok (.object fields)

/-- What an invocation comes to whose payload is declared as an event by a type, the class behind
it, the family of the class and the texts of its objects being given. -/
structure EventLaw (call : Invocation) (t : DeclaredType) (cls : ClassObject) (family : EventFamily)
    (texts : EventTexts) (outcome : Except Failure Message) : Prop where
  /-- There is a message if the payload is a JSON object, and only then; -/
  succeeds : (∃ m, outcome = .ok m) ↔ call.HoldsObject
  /-- everything else is rejected. -/
  rejects : ∀ failure, outcome = .error failure → failure.kind = .decode
  /-- The object is wrapped as it was read, in an event of exactly this class. -/
  payload : ∀ m, outcome = .ok m →
    ∃ fields : Fields, Codec.loads (.bytes call.payload) = .ok (.object fields)
      ∧ m.payload = .event cls (.object fields) (texts cls fields)
  /-- The event has the family of the type, the first one from whose event class its class is
  derived. -/
  found : ∀ m, outcome = .ok m → familyOf? m.payload = t.family?
    ∧ t.family? = EventFamily.all.find? fun family => (ClassObject.event family).IsBaseOf cls
  /-- The headers are those of the transport, with the markers written over them; -/
  headers : ∀ m, outcome = .ok m →
    m.headers = (call.headers.getD []).overlay (eventMarkers family call.context)
  /-- the marker of a gateway is one of them only if the event has come through one. -/
  marker : ∀ m, outcome = .ok m → m.header? Message.gatewayMarker
    = if family = .gatewayRequestV1 ∨ family = .gatewayRequestV2 then some (.bool true)
      else (call.headers.getD []).get? (.text Message.gatewayMarker)

/-! ## §4. Events. -/

/-- The two markers have different keys, so writing them one over the other puts them in a row. -/
theorem overlay_contextMarkers (family : EventFamily) (context : Value) :
    OrderedMap.overlay (if family.isGatewayRequest then gatewayMarkers else [])
        (contextMarkers context) = eventMarkers family context := by
  unfold eventMarkers
  split
  · unfold contextMarkers
    split
    · rfl
    · rfl
  · exact OrderedMap.ofEntries_of_distinct (distinct_contextMarkers context)

theorem distinct_eventMarkers (family : EventFamily) (context : Value) :
    (eventMarkers family context).Distinct := by
  rw [← overlay_contextMarkers]
  refine OrderedMap.Distinct.overlay ?_ _
  split
  · exact OrderedMap.distinct_cons.mpr ⟨by simp, OrderedMap.distinct_nil⟩
  · exact OrderedMap.distinct_nil

/-- Requests that come in through a gateway are those of its two families. -/
theorem get?_eventMarkers (family : EventFamily) (context : Value) :
    (eventMarkers family context).get? (.text Message.gatewayMarker)
      = if family = .gatewayRequestV1 ∨ family = .gatewayRequestV2 then some (.bool true)
        else none := by
  have hcontext : (contextMarkers context).get? (.text Message.gatewayMarker) = none := by
    unfold contextMarkers
    split
    · rfl
    · rfl
  cases family with
  | gatewayRequestV1 => rfl
  | gatewayRequestV2 => rfl
  | _ => exact hcontext

/-- The parts of an event. -/
def partsOfEvent (family : EventFamily) (event : Value) : Parts where
  body := event
  markers := if family.isGatewayRequest then gatewayMarkers else []

/-- There is one source of headers, with the markers over it. -/
theorem headersOf_partsOfEvent (call : Invocation) (family : EventFamily) (event : Value)
    (hheaders : OrderedMap.Distinct (call.headers.getD [])) :
    call.headersOf (partsOfEvent family event)
      = (call.headers.getD []).overlay (eventMarkers family call.context) := by
  unfold headersOf partsOfEvent
  rw [overlay_contextMarkers, List.nil_append, mergeHeaders, OrderedMap.merge_singleton _ hheaders]

section Event

variable {call : Invocation} {registry : Registry} {t : DeclaredType} {cls : ClassObject}
  {family : EventFamily} {texts : EventTexts} (hbase : (ClassObject.event family).IsBaseOf cls)
  (hclass : t.rawClass? = some cls) (hdeclared : call.declared = t ∨ call.declared = .message t)
  (hdecoder : registry.decoders.get? family = some (Registry.wrapObject texts))

include hbase hclass hdeclared hdecoder

/-- The decoder's event is the body of the message. -/
theorem result_event (settings : Settings) :
    call.result registry settings
      = (Registry.wrapObject texts call.payload cls).mapError (Registry.reportDecoderFailure cls)
          >>= fun event => call.messageOf (partsOfEvent family event) := by
  have hbelongs : t.BelongsTo family := ⟨cls, hclass, hbase⟩
  have hfamily := DeclaredType.family?_eq_some_iff.mpr hbelongs
  have hunwrapped := DeclaredType.unwrapMessage_of_declared hfamily hdeclared
  have hshape : call.shape = .typed family := by
    refine shape_typed ?_
    rw [hunwrapped]
    exact hfamily
  unfold result
  rw [hshape, hunwrapped, partsResult,
    Registry.decodeResult_of_resolves ⟨family, hbelongs, hclass, hdecoder⟩, bind_assoc]
  rfl

/-- **An object is wrapped** and everything else rejected. -/
theorem result_event_cases (settings : Settings) :
    (∃ fields : Fields, Codec.loads (.bytes call.payload) = .ok (.object fields)
        ∧ call.result registry settings = call.messageOf
            (partsOfEvent family (.event cls (.object fields) (texts cls fields))))
      ∨ ¬ call.HoldsObject
        ∧ ∃ failure, call.result registry settings = .error failure ∧ failure.kind = .decode := by
  rw [result_event hbase hclass hdeclared hdecoder]
  rcases Registry.wrapObject_cases texts call.payload cls with ⟨fields, hread, hwrap⟩
    | ⟨hread, failure, hwrap, hkind⟩
  · rw [hwrap]
    exact .inl ⟨fields, hread, rfl⟩
  · rw [hwrap]
    exact .inr ⟨hread, _, rfl, Registry.kind_reportDecoderFailure cls failure⟩

/-- An event that was wrapped is lost if the headers cannot be shown. -/
theorem result_event_of_unshowable (settings : Settings) (hobject : call.HoldsObject)
    (hshow : ¬ call.HasShowableHeaders) :
    call.result registry settings = .error .integerTooLong := by
  rcases result_event_cases hbase hclass hdeclared hdecoder settings with ⟨fields, -, hresult⟩
    | ⟨hnone, -⟩
  · rw [hresult]
    exact messageOf_of_unshowable hshow _
  · exact absurd hobject hnone

/-- **No event is lost otherwise.** -/
theorem eventLaw_result (settings : Settings)
    (hheaders : OrderedMap.Distinct (call.headers.getD []))
    (hshow : call.HoldsObject → call.HasShowableHeaders) :
    EventLaw call t cls family texts (call.result registry settings) := by
  have hfamily := DeclaredType.family?_eq_some_iff.mpr ⟨cls, hclass, hbase⟩
  rcases result_event_cases hbase hclass hdeclared hdecoder settings with
    ⟨fields, hread, hresult⟩ | ⟨hread, failure, hresult, hkind⟩
  · have hmap := headersOf_partsOfEvent call family
      (.event cls (.object fields) (texts cls fields)) hheaders
    rw [hresult, messageOf_of_showable (hshow ⟨fields, hread⟩), hmap]
    -- an event is not null, so there is a message
    constructor
    case succeeds => exact ⟨fun _ => ⟨fields, hread⟩, fun _ => ⟨_, rfl⟩⟩
    case rejects =>
      intro failure h
      cases h
    case payload =>
      intro m h
      cases h
      exact ⟨fields, hread, rfl⟩
    case found =>
      intro m h
      cases h
      have hcls := ClassObject.family?_eq_some_iff.mpr hbase
      rw [hfamily, ClassObject.find?_isBaseOf]
      exact ⟨hcls, hcls.symm⟩
    case headers =>
      intro m h
      cases h
      rfl
    case marker =>
      intro m h
      cases h
      rw [Message.header?, OrderedMap.get?_overlay _ _ _ (distinct_eventMarkers _ _),
        get?_eventMarkers]
      split
      · rfl
      · rfl
  · rw [hresult]
    constructor
    case succeeds =>
      constructor
      · rintro ⟨m, h⟩
        cases h
      · exact fun h => absurd h hread
    case rejects =>
      intro failure h
      cases h
      exact hkind
    all_goals
      intro m h
      cases h

end Event

/-- **Payloads that are declared as events.**  For every class that is an event class or derived
from one, declared by itself or inside a message, and whatever payload, transport, context and
settings are: an invocation whose family has the decoder it started with wraps a JSON object in an
event of that class and rejects everything else, and the codec stays as it is either way.  The one
exception is an object beside headers of the transport that cannot be shown: it is lost. -/
theorem normalize_event (call : Invocation) (registry : Registry) (settings : Settings)
    (w : Workspace) (t : DeclaredType) (cls : ClassObject) (family : EventFamily)
    (texts : EventTexts) (hbase : (ClassObject.event family).IsBaseOf cls)
    (hclass : t.rawClass? = some cls) (hdeclared : call.declared = t ∨ call.declared = .message t)
    (hdecoder : registry.decoders.get? family = some (Registry.wrapObject texts))
    (hheaders : ∀ headers, call.headers = some headers → headers.Distinct) :
    (EventLaw call t cls family texts ((call.normalize registry settings).outcome w).1
        ↔ (call.HoldsObject → call.HasShowableHeaders))
      ∧ (call.HoldsObject → ¬ call.HasShowableHeaders →
          ((call.normalize registry settings).outcome w).1 = .error .integerTooLong)
      ∧ ((call.normalize registry settings).outcome w).2.codec = w.codec := by
  have hleft := leaves_normalize call registry settings w
  have hfamily := DeclaredType.family?_eq_some_iff.mpr ⟨cls, hclass, hbase⟩
  rw [DeclaredType.unwrapMessage_twice_of_declared hfamily hdeclared, hfamily] at hleft
  rw [yields_normalize call registry settings w]
  refine ⟨⟨fun hlaw hobject => ?_, ?_⟩, ?_, hleft⟩
  · obtain ⟨m, hm⟩ := hlaw.succeeds.mpr hobject
    exact hasShowableHeaders_of_result hm
  · exact eventLaw_result hbase hclass hdeclared hdecoder settings
      (OrderedMap.distinct_getD hheaders)
  · exact result_event_of_unshowable hbase hclass hdeclared hdecoder settings

/-- A request of a gateway, for a function that takes messages of a class that is derived from the
gateway's event class in two steps. -/
def derivedRequest : Invocation where
  payload := (Text.ofString <| "\x7b\"httpMethod\":\"GET\",\"body\":null,"
    ++ "\"headers\":\x7b\"aws-api-gateway\":false\x7d\x7d").flatMap Utf8.bytesOf
  headers := some [(.text "trace", .int 1), (.text Message.gatewayMarker, .bool false)]
  declared := .message (.subclass (.subclass (.cls (.event .gatewayRequestV2))))
  context := .text "context"

/-- Nothing of the event is a header, and the marker replaces what the transport says. -/
theorem normalize_event_derivedRequest :
    let t : DeclaredType := .subclass (.subclass (.cls (.event .gatewayRequestV2)))
    let cls : ClassObject := .derived (.derived (.event .gatewayRequestV2))
    ((ClassObject.event .gatewayRequestV2).IsBaseOf cls ∧ t.rawClass? = some cls
        ∧ (derivedRequest.declared = t ∨ derivedRequest.declared = .message t)
        ∧ (Registry.standard classTexts).decoders.get? .gatewayRequestV2
            = some (Registry.wrapObject classTexts)
        ∧ ∀ headers, derivedRequest.headers = some headers → headers.Distinct)
      ∧ ∃ m, ((derivedRequest.normalize (.standard classTexts) {}).outcome (.fresh .info)).1
            = .ok m
          ∧ m.headers = [(.text "trace", .int 1), (.text Message.gatewayMarker, .bool true),
              (.text Message.contextMarker, .text "context")]
          ∧ familyOf? m.payload = some .gatewayRequestV2 := by
  intro t cls
  have hbase : (ClassObject.event .gatewayRequestV2).IsBaseOf cls := .derived _ (.derived _ .refl)
  have hheaders : ∀ headers, derivedRequest.headers = some headers → headers.Distinct := by
    intro headers hsome
    cases hsome
    exact OrderedMap.distinct_cons.mpr ⟨by decide, OrderedMap.distinct_cons.mpr
      ⟨by simp, OrderedMap.distinct_nil⟩⟩
  have hshow : derivedRequest.HasShowableHeaders := hasShowableHeaders_iff.mpr (by decide +kernel)
  obtain ⟨hexact, -, -⟩ := normalize_event derivedRequest (.standard classTexts) {} (.fresh .info)
    t cls .gatewayRequestV2 classTexts hbase rfl (.inr rfl) (Registry.get?_standard _ _) hheaders
  have hlaw := hexact.mpr fun _ => hshow
  refine ⟨⟨hbase, rfl, .inr rfl, Registry.get?_standard _ _, hheaders⟩, ?_⟩
  have hok : ((derivedRequest.normalize (.standard classTexts) {}).outcome
      (.fresh .info)).1.toBool = true := by decide +kernel
  obtain ⟨m, hm⟩ := exists_of_toBool hok
  exact ⟨m, hm, hlaw.headers m hm, (hlaw.found m hm).1⟩

/-- An empty object for a function that takes the events of a queue, with a header of one digit too
many. -/
def emptyQueue : Invocation where
  payload := (Text.ofString "\x7b\x7d").flatMap Utf8.bytesOf
  headers := some longHeader
  declared := .cls (.event .queueMessageBatch)

/-- The payload is an object, and still there is no event. -/
theorem normalize_emptyQueue :
    let outcome := ((emptyQueue.normalize (.standard classTexts) {}).outcome (.fresh .info)).1
    emptyQueue.HoldsObject ∧ outcome = .error .integerTooLong
      ∧ ¬ EventLaw emptyQueue emptyQueue.declared (.event .queueMessageBatch) .queueMessageBatch
          classTexts outcome := by
  intro outcome
  have hread : Codec.loads (.bytes ((Text.ofString "\x7b\x7d").flatMap Utf8.bytesOf))
      = .ok (.object []) := rfl
  have hobject : emptyQueue.HoldsObject := ⟨[], hread⟩
  have houtcome : outcome = .error .integerTooLong := by
    show ((emptyQueue.normalize _ _).outcome _).1 = _
    rw [yields_normalize emptyQueue _ _ _]
    exact result_event_of_unshowable (t := emptyQueue.declared) .refl rfl (.inl rfl)
      (Registry.get?_standard classTexts _) _ hobject (not_hasShowableHeaders_of_longHeader rfl)
  refine ⟨hobject, houtcome, fun hlaw => ?_⟩
  obtain ⟨m, hm⟩ := hlaw.succeeds.mpr hobject
  rw [houtcome] at hm
  cases hm

end Invocation

end EventEnvelope
