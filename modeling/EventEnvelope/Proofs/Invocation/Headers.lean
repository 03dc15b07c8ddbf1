/-
  EventEnvelope.Proofs.Invocation.Headers
  ───────────────────────────────────────
  **The headers of the message that an invocation becomes.**

  Three sources and two markers may collide on a key: the fields of a gateway request, its nested
  `headers` object and the transport, in that order, and the markers after all of them.  The law is
  stated key by key.  The sources are maps, since reading an object leaves each key once, so what a
  merge holds at a key is what the last source with that key holds.

    • `headerAt?`               — what the headers should hold at a key,
    • `partsSpec_partsResult`   — the sources and markers of every shape,
    • `get?_headers`            — the headers hold exactly that, and no source touches a marker.
-/
import EventEnvelope.Proofs.Invocation.Result
import EventEnvelope.Proofs.Json.Reading

namespace EventEnvelope

namespace Invocation

/-! ## §1. What the headers should hold. -/

/-- What the nested `headers` object of a payload holds at a key, if it has one. -/
def nestedHeader? (shape : Shape) (key : Value) : Option Value :=
  match shape with
  | .object fields =>
      match fields.get? (.text headersField) with
      | some (.object nested) => OrderedMap.get? nested key
      | _ => none
  | _ => none

/-- What the fields of a gateway request hold at a key.  A function that takes objects is given the
method alone; for any other function each field is a header, the body and the nested headers
excepted. -/
def fieldHeader? (takesObjects : Bool) (shape : Shape) (key : Value) : Option Value :=
  match shape with
  | .object fields =>
      if !fields.contains (.text methodField) then none
      else if takesObjects then
        if .text methodField == key then fields.get? (.text methodField) else none
      else if .text bodyField == key || .text headersField == key then none
      else fields.get? key
  | _ => none

/-- The marker at a key: that of a gateway request, or the context if there is one. -/
def markerAt? (call : Invocation) (key : Value) : Option Value :=
  if isGatewayShape call.shape && .text Message.gatewayMarker == key then some (.bool true)
  else if !call.context.isNull && .text Message.contextMarker == key then some call.context
  else none

/-- What the headers hold at a key: the marker, else the transport's value, else the nested one,
else that of the field. -/
def headerAt? (call : Invocation) (key : Value) : Option Value :=
  (call.markerAt? key).or
    (((call.headers.getD []).get? key).or
      ((nestedHeader? call.shape key).or
        (fieldHeader? call.declared.unwrapMessage.admitsObject call.shape key)))

/-! ## §2. Payloads are read as maps. -/

/-- What is no event has the shape of its payload. -/
theorem shape_eq_ofPayload {call : Invocation} (h : ∀ family, call.shape ≠ .typed family) :
    call.shape = Shape.ofPayload call.payload := by
  unfold shape Shape.classify at h ⊢
  -- a declared type alone makes an event, or nothing at all
  cases hdeclared : Shape.ofDeclared? call.declared.unwrapMessage with
  | some typed =>
      obtain ⟨family, -, rfl⟩ := Option.map_eq_some_iff.mp hdeclared
      rw [hdeclared] at h
      exact absurd rfl (h family)
  | none => rfl

/-- An object of which a payload consists is what the payload reads as, -/
theorem loads_of_object {call : Invocation} {fields : Fields} (h : call.shape = .object fields) :
    Codec.loads (.bytes call.payload) = .ok (.object fields) := by
  rw [shape_eq_ofPayload (by simp [h]), Shape.ofPayload] at h
  split at h
  next v hread =>
    cases v with
    | object _ =>
        cases h
        exact hread
    | _ => cases h
  next => cases h

/-- and so is a list. -/
theorem loads_of_array {call : Invocation} {items : List Value} (h : call.shape = .array items) :
    Codec.loads (.bytes call.payload) = .ok (.list items) := by
  rw [shape_eq_ofPayload (by simp [h]), Shape.ofPayload] at h
  split at h
  next v hread =>
    cases v with
    | list _ =>
        cases h
        exact hread
    | _ => cases h
  next => cases h

/-- Either of them is a tree. -/
theorem readable_shape {call : Invocation} {fields : Fields} (h : call.shape = .object fields) :
    Json.Readable (.object fields) := Codec.readable_loads (loads_of_object h)

/-! ## §3. The parts of every shape. -/

theorem distinct_nestedHeaders {fields : Fields} (h : Json.Readable (.object fields)) :
    ∀ source ∈ nestedHeaders fields, OrderedMap.Distinct (source.getD []) := by
  intro source hsource
  unfold nestedHeaders at hsource
  split at hsource
  next nested hnested =>
    rw [List.mem_singleton.mp hsource]
    exact (h.of_get? hnested).distinct
  next => cases hsource

/-- The nested headers win over the source before them. -/
theorem lastValue?_nestedHeaders (source : Option Fields) (fields : Fields) (key : Value) :
    OrderedMap.lastValue? (source :: nestedHeaders fields) key
      = (nestedHeader? (.object fields) key).or ((source.getD []).get? key) := by
  unfold nestedHeaders nestedHeader?
  split
  next nested hnested => simp [OrderedMap.lastValue?, hnested]
  next => simp [OrderedMap.lastValue?]

/-- The sources and markers that the parts should have. -/
structure PartsSpec (takesObjects : Bool) (shape : Shape) (parts : Parts) : Prop where
  markers : parts.markers = if isGatewayShape shape then gatewayMarkers else []
  distinct : ∀ source ∈ parts.sources, OrderedMap.Distinct (source.getD [])
  sources : ∀ key, OrderedMap.lastValue? parts.sources key
    = (nestedHeader? shape key).or (fieldHeader? takesObjects shape key)

/-- An object that is no gateway request. -/
theorem partsSpec_plainObject {fields : Fields} {payload : Bytes} {takesObjects : Bool}
    (hreadable : Json.Readable (.object fields))
    (hmethod : fields.contains (.text methodField) = false) :
    PartsSpec takesObjects (.object fields)
      { body := .bytes payload, sources := nestedHeaders fields } := by
  refine ⟨?_, distinct_nestedHeaders hreadable, fun key => ?_⟩
  · rw [isGatewayShape, hmethod]
    rfl
  · have hnested := lastValue?_nestedHeaders none fields key
    -- a source that is missing changes nothing
    have hdrop : OrderedMap.lastValue? (none :: nestedHeaders fields) key
        = OrderedMap.lastValue? (nestedHeaders fields) key := by
      simp [OrderedMap.lastValue?]
    rw [hdrop] at hnested
    rw [hnested, fieldHeader?, hmethod]
    rfl

/-- A gateway request. -/
theorem partsSpec_gatewayParts {fields : Fields} {takesObjects : Bool} {parts : Parts}
    (hreadable : Json.Readable (.object fields))
    (hmethod : fields.contains (.text methodField) = true)
    (h : gatewayParts fields takesObjects = .ok parts) :
    PartsSpec takesObjects (.object fields) parts := by
  have hmarkers : gatewayMarkers
      = if isGatewayShape (.object fields) then gatewayMarkers else [] := by
    rw [isGatewayShape, hmethod]
    rfl
  have hdistinct := hreadable.distinct
  have hnested := distinct_nestedHeaders hreadable
  cases takesObjects with
  | true =>
      cases h
      refine ⟨hmarkers, List.forall_mem_cons.mpr ⟨?_, hnested⟩, fun key => ?_⟩
      · exact OrderedMap.distinct_cons.mpr ⟨by simp, OrderedMap.distinct_nil⟩
      · -- the method is there, so the default is never used
        obtain ⟨method, hfound⟩ := Option.isSome_iff_exists.mp hmethod
        rw [lastValue?_nestedHeaders, fieldHeader?, hmethod, hfound]
        rfl
  | false =>
      obtain ⟨body, -, hparts⟩ := bind_eq_ok.mp h
      cases hparts
      refine ⟨hmarkers, List.forall_mem_cons.mpr ⟨?_, hnested⟩, fun key => ?_⟩
      · exact (hdistinct.erase _).erase _
      · -- both erasures are looked through before the key is compared with either name
        rw [lastValue?_nestedHeaders, fieldHeader?, hmethod]
        simp only [Option.getD_some, OrderedMap.get?_erase]
        cases hbody : (Value.text bodyField == key) <;>
          cases hheaders : (Value.text headersField == key) <;> simp

/-- **Sources and markers of every shape.** -/
theorem partsSpec_partsResult {call : Invocation} {registry : Registry} {settings : Settings}
    {declared : DeclaredType} {parts : Parts}
    (h : partsResult registry settings declared call.payload call.shape = .ok parts) :
    PartsSpec declared.admitsObject call.shape parts := by
  -- three of the shapes bring neither a source nor a marker
  have hnone : ∀ (shape : Shape) (body : Value), isGatewayShape shape = false →
      (∀ key, (nestedHeader? shape key).or (fieldHeader? declared.admitsObject shape key) = none) →
      PartsSpec declared.admitsObject shape { body := body } := by
    intro shape body hgateway hsources
    refine ⟨?_, by simp, fun key => (hsources key).symm⟩
    rw [hgateway]
    rfl
  cases hshape : call.shape with
  | typed family =>
      rw [hshape] at h
      obtain ⟨event, -, hparts⟩ := bind_eq_ok.mp h
      cases hparts
      exact ⟨rfl, by simp, fun key => rfl⟩
  | object fields =>
      have hreadable := readable_shape hshape
      rw [hshape, partsResult] at h
      cases hmethod : fields.contains (.text methodField) with
      | true =>
          rw [hmethod] at h
          exact partsSpec_gatewayParts hreadable hmethod h
      | false =>
          rw [hmethod] at h
          cases h
          exact partsSpec_plainObject hreadable hmethod
  | array items =>
      rw [hshape] at h
      cases h
      exact hnone _ _ rfl fun key => rfl
  | raw v fault =>
      rw [hshape] at h
      cases fault with
      | none =>
          cases h
          exact hnone _ _ rfl fun key => rfl
      | some fault =>
          rw [partsResult] at h
          split at h
          · cases h
            exact hnone _ _ rfl fun key => rfl
          · cases h

/-! ## §4. The law. -/

theorem distinct_contextMarkers (context : Value) :
    OrderedMap.Distinct (contextMarkers context) := by
  unfold contextMarkers
  split
  · exact OrderedMap.distinct_nil
  · exact OrderedMap.distinct_cons.mpr ⟨by simp, OrderedMap.distinct_nil⟩

/-- The two markers have different keys, so neither replaces the other. -/
theorem get?_markers (call : Invocation) (key : Value) :
    (OrderedMap.overlay (if isGatewayShape call.shape then gatewayMarkers else [])
        (contextMarkers call.context)).get? key = call.markerAt? key := by
  -- equality of values is no equality of terms, so two keys equal to a third are compared
  have hkeys : ∀ k : Value, (Value.text Message.gatewayMarker == k) = true →
      (Value.text Message.contextMarker == k) = false := by
    intro k hgateway
    refine Bool.eq_false_iff.mpr fun hcontext => ?_
    have heq : (Value.text Message.gatewayMarker == Value.text Message.contextMarker) = true :=
      BEq.trans hgateway (BEq.symm hcontext)
    rw [Value.text_beq_text] at heq
    exact absurd heq (by decide)
  have hgatewayMarkers : OrderedMap.get?
      (if isGatewayShape call.shape then gatewayMarkers else []) key
        = if isGatewayShape call.shape && .text Message.gatewayMarker == key
          then some (.bool true) else none := by
    cases isGatewayShape call.shape with
    | false => rfl
    | true => simp [gatewayMarkers, OrderedMap.get?]
  have hcontextMarkers : (contextMarkers call.context).get? key
      = if !call.context.isNull && .text Message.contextMarker == key
        then some call.context else none := by
    unfold contextMarkers
    cases call.context.isNull with
    | true => rfl
    | false => simp [OrderedMap.get?]
  rw [OrderedMap.get?_overlay _ _ _ (distinct_contextMarkers call.context), hgatewayMarkers,
    hcontextMarkers, markerAt?]
  by_cases hgateway : (Value.text Message.gatewayMarker == key) = true
  · rw [hkeys key hgateway]
    simp
  · -- a key that is not the gateway's can only hold the context
    rw [Bool.eq_false_iff.mpr hgateway]
    simp only [Bool.and_false, Bool.false_eq_true, if_false, Option.or_none]

/-- What a merge holds at a key, the markers of an invocation being the last source. -/
theorem get?_headersOf (call : Invocation) {parts : Parts}
    (hheaders : OrderedMap.Distinct (call.headers.getD []))
    (hparts : PartsSpec call.declared.unwrapMessage.admitsObject call.shape parts) (key : Value) :
    (call.headersOf parts).get? key = call.headerAt? key := by
  have hsources : ∀ source ∈ parts.sources ++ [call.headers],
      OrderedMap.Distinct (source.getD []) := by
    intro source hsource
    rcases List.mem_append.mp hsource with hsource | hsource
    · exact hparts.distinct source hsource
    · rw [List.mem_singleton.mp hsource]
      exact hheaders
  have hgateway : OrderedMap.Distinct parts.markers := by
    rw [hparts.markers]
    split
    · exact OrderedMap.distinct_cons.mpr ⟨by simp, OrderedMap.distinct_nil⟩
    · exact OrderedMap.distinct_nil
  have hlast : OrderedMap.lastValue? (parts.sources ++ [call.headers]) key
      = ((call.headers.getD []).get? key).or (OrderedMap.lastValue? parts.sources key) := by
    simp [OrderedMap.lastValue?]
  have hmarkers : OrderedMap.Distinct (Option.getD
      (some (parts.markers.overlay (contextMarkers call.context))) []) := hgateway.overlay _
  rw [headersOf, mergeHeaders, OrderedMap.get?_merge _ _ _ hsources hmarkers, hlast,
    hparts.sources, Option.getD_some, hparts.markers, get?_markers, headerAt?]

/-- What the headers of an invocation's message hold at a key. -/
theorem get?_of_result {call : Invocation} {registry : Registry} {settings : Settings} {m : Message}
    (hheaders : OrderedMap.Distinct (call.headers.getD []))
    (hresult : call.result registry settings = .ok m) (key : Value) :
    m.headers.get? key = call.headerAt? key := by
  obtain ⟨parts, hparts, hmessage⟩ := bind_eq_ok.mp hresult
  rw [(messageOf_eq_ok hmessage).2.2]
  exact get?_headersOf call hheaders (partsSpec_partsResult hparts) key

/-- A key of its own marker holds the marker, whatever else the headers hold. -/
theorem isGateway_of_get? {m : Message}
    (h : m.headers.get? (.text Message.gatewayMarker) = some (.bool true)) :
    m.isGateway = true := by
  unfold Message.isGateway Message.header?
  rw [h]

/-- **The header law.**  If an invocation becomes a message, its headers hold at every key the
marker, else what the transport has, else what the nested headers have, else what the fields of a
gateway request have, and nothing otherwise.  So no source can replace or clear a marker. -/
theorem get?_headers (call : Invocation) (registry : Registry) (settings : Settings)
    (w w' : Workspace) (m : Message)
    (hheaders : ∀ headers, call.headers = some headers → headers.Distinct)
    (h : (call.normalize registry settings).outcome w = (.ok m, w')) :
    m.headers.Distinct
      ∧ (∀ key, m.headers.get? key = call.headerAt? key)
      ∧ (isGatewayShape call.shape = true → m.isGateway = true)
      ∧ (call.context.isNull = false → m.context = call.context) := by
  have hresult : call.result registry settings = .ok m := by
    have hyields := yields_normalize call registry settings w
    rw [h] at hyields
    exact hyields.symm
  obtain ⟨parts, hparts, hmessage⟩ := bind_eq_ok.mp hresult
  have hspec := partsSpec_partsResult hparts
  have htransport : OrderedMap.Distinct (call.headers.getD []) := by
    cases hcase : call.headers with
    | none => exact OrderedMap.distinct_nil
    | some headers => exact hheaders headers hcase
  have hmap := (messageOf_eq_ok hmessage).2.2
  have hlaw : ∀ key, m.headers.get? key = call.headerAt? key := by
    intro key
    rw [hmap]
    exact get?_headersOf call htransport hspec key
  refine ⟨?_, hlaw, fun hgateway => ?_, fun hcontext => ?_⟩
  · rw [hmap]
    exact OrderedMap.distinct_merge _ _
  · apply isGateway_of_get?
    rw [hlaw, headerAt?, markerAt?, hgateway]
    simp
  · have hother :
        (Value.text Message.gatewayMarker == Value.text Message.contextMarker) = false := by
      rw [Value.text_beq_text]
      decide
    unfold Message.context Message.header?
    rw [hlaw, headerAt?, markerAt?, hother, hcontext]
    simp

/-- A request whose fields, nested headers and transport collide with one another, and each of them
with a marker. -/
def collision : Invocation where
  payload := (Text.ofString <| "\x7b\"httpMethod\":\"GET\",\"path\":\"/field\","
    ++ "\"aws-api-gateway\":false,\"headers\":\x7b\"path\":\"/nested\",\"body\":1,"
    ++ "\"aws-api-gateway\":null\x7d\x7d").flatMap Utf8.bytesOf
  headers := some
    [(.text "path", .text "/transport"), (.text Message.contextMarker, .text "forged")]
  context := .text "context"

theorem get?_headers_collision :
    (∀ headers, collision.headers = some headers → headers.Distinct)
      ∧ ∃ m w',
        (collision.normalize (.standard classTexts) ⟨true, false, true, "INFO"⟩).outcome
            (.fresh .info)
          = (.ok m, w')
        ∧ (∀ key, m.headers.get? key = collision.headerAt? key)
        ∧ m.isGateway = true ∧ m.context = .text "context" := by
  have hheaders : ∀ headers, collision.headers = some headers → headers.Distinct := by
    intro headers hsome
    cases hsome
    exact OrderedMap.distinct_cons.mpr ⟨by decide, OrderedMap.distinct_cons.mpr
      ⟨by simp, OrderedMap.distinct_nil⟩⟩
  refine ⟨hheaders, ?_⟩
  have hok : ((collision.normalize (.standard classTexts) ⟨true, false, true, "INFO"⟩).outcome
      (.fresh .info)).1.toBool = true := by decide +kernel
  cases houtcome : (collision.normalize (.standard classTexts) ⟨true, false, true, "INFO"⟩).outcome
      (.fresh .info) with
  | mk r w' =>
      rw [houtcome] at hok
      cases r with
      | error failure => cases hok
      | ok m =>
          obtain ⟨-, hlaw, hgateway, hcontext⟩ :=
            get?_headers collision (.standard classTexts) _ _ _ m hheaders houtcome
          exact ⟨m, w', rfl, hlaw, hgateway (by decide +kernel), hcontext rfl⟩

end Invocation

end EventEnvelope
