/-
  EventEnvelope.Proofs.Response.Declarations
  ──────────────────────────────────────────
  **One request, two declarations.**

  A gateway request reaches a function as a whole or as its body, depending on what the function is
  declared to take.  The response should be put into the same envelope either way.  All that the
  encoder looks at is the marker and whether the request holds records of a stream, so two messages
  of one request are answered alike exactly if they agree on that.  The body is handed over with all
  other fields as headers, the whole request with its method alone; so the declarations disagree on
  a request whose records are a field, and nowhere in its headers.

    • `isStreamRequest_of_request`   — what of a request the encoder takes for records of a stream,
    • `encodeResult_congr`           — two requests that look alike are answered alike,
    • `loads_encodeResult`           — plain answers, of which the description of the status shows
                                       what the request looks like,
    • `encode_declared_iff`          — when two declarations make no difference.
-/
import EventEnvelope.Proofs.Invocation.Payload
import EventEnvelope.Proofs.Response.Envelope

namespace EventEnvelope

namespace Invocation

/-! ## §1. What the encoder sees of a gateway request. -/

/-- The transport or the nested headers of a request hold records of a stream. -/
def hasRecordsHeader (call : Invocation) (fields : Fields) : Bool :=
  OrderedMap.contains (call.headers.getD []) (.text Response.recordsHeader)
    || (nestedHeader? (.object fields) (.text Response.recordsHeader)).isSome

/-- Records of a stream are a field of a request, and nowhere in its headers. -/
def hasRecordsFieldOnly (call : Invocation) (fields : Fields) : Bool :=
  fields.contains (.text Response.recordsHeader) && !call.hasRecordsHeader fields

section Request

variable (call : Invocation) {fields : Fields} (hdeclared : ¬ call.declared.NamesEvent)
  (hloads : Codec.loads (.bytes call.payload) = .ok (.object fields))
  (hmethod : fields.contains (.text methodField) = true)

include hdeclared hloads

theorem shape_of_object : call.shape = .object fields := by
  rw [shape_of_not_namesEvent hdeclared, ofPayload_of_loads hloads]
  rfl

include hmethod

/-- Neither the whole request nor its body is an event. -/
theorem familyOf?_of_request {registry : Registry} {settings : Settings} {m : Message}
    (hresult : call.result registry settings = .ok m) : familyOf? m.payload = none := by
  obtain ⟨method, hfound⟩ := Option.isSome_iff_exists.mp hmethod
  cases hobjects : call.declared.unwrapMessage.admitsObject with
  | true =>
      obtain ⟨m', hm', hpayload⟩ := delivers_of_promises registry hdeclared
        (hasShowableHeaders_of_result hresult) (.wholeRequest fields method hloads hfound hobjects)
      rw [hresult] at hm'
      cases hm'
      rw [hpayload]
      rfl
  | false =>
      obtain ⟨bytes, hpayload, -⟩ :=
        result_requestBody registry hdeclared hloads hfound hobjects hresult
      rw [hpayload]
      rfl

variable (hheaders : OrderedMap.Distinct (call.headers.getD []))
include hheaders

/-- A gateway request keeps its marker, whatever its headers hold. -/
theorem isGateway_of_request {registry : Registry} {settings : Settings} {m : Message}
    (hresult : call.result registry settings = .ok m) : m.isGateway = true := by
  apply isGateway_of_get?
  rw [get?_of_result hheaders hresult, headerAt?, markerAt?, shape_of_object call hdeclared hloads,
    isGatewayShape, hmethod]
  simp

/-- **Records of a stream are seen** in the transport and the nested headers, and as a field unless
the function takes objects. -/
theorem isStreamRequest_of_request {registry : Registry} {settings : Settings} {m : Message}
    (hresult : call.result registry settings = .ok m) :
    Response.isStreamRequest m
      = (call.hasRecordsHeader fields
          || (!call.declared.unwrapMessage.admitsObject
              && fields.contains (.text Response.recordsHeader))) := by
  have hmarker : call.markerAt? (.text Response.recordsHeader) = none := by
    have hgateway : (Value.text Message.gatewayMarker == .text Response.recordsHeader) = false := by
      rw [Value.text_beq_text]
      decide
    have hcontext : (Value.text Message.contextMarker == .text Response.recordsHeader) = false := by
      rw [Value.text_beq_text]
      decide
    rw [markerAt?, hgateway, hcontext]
    simp
  have hfield : (fieldHeader? call.declared.unwrapMessage.admitsObject (.object fields)
      (.text Response.recordsHeader)).isSome
        = (!call.declared.unwrapMessage.admitsObject
            && fields.contains (.text Response.recordsHeader)) := by
    have hname : ∀ name ∈ [methodField, bodyField, headersField],
        (Value.text name == .text Response.recordsHeader) = false := by
      intro name hmem
      rw [Value.text_beq_text]
      revert name
      decide
    rw [fieldHeader?, hmethod, hname methodField (by simp), hname bodyField (by simp),
      hname headersField (by simp)]
    cases call.declared.unwrapMessage.admitsObject <;> rfl
  have hheader : m.hasHeader Response.recordsHeader
      = (call.headerAt? (.text Response.recordsHeader)).isSome := by
    unfold Message.hasHeader OrderedMap.contains
    rw [get?_of_result hheaders hresult]
  unfold Response.isStreamRequest
  rw [familyOf?_of_request call hdeclared hloads hmethod hresult, hheader, headerAt?, hmarker,
    shape_of_object call hdeclared hloads]
  simp only [Option.isSome_or, hfield, hasRecordsHeader, OrderedMap.contains]
  simp [Bool.or_assoc]

end Request

end Invocation

namespace Response

/-! ## §2. Requests that look alike. -/

variable (settings : Settings) {request other : Message}

/-- **Requests that look alike are answered alike**, whatever the response is. -/
theorem encodeResult_congr (hgateway : request.isGateway = other.isGateway)
    (hstream : isStreamRequest request = isStreamRequest other) (response : Option Message)
    (outputType : DeclaredType) :
    encodeResult settings request response outputType
      = encodeResult settings other response outputType := by
  have henvelope : ∀ body,
      envelope request response body settings = envelope other response body settings := by
    intro body
    unfold envelope
    rw [hstream]
  unfold encodeResult
  simp only [hgateway, henvelope]

theorem plainHeaders_nil : PlainHeaders [] :=
  ⟨OrderedMap.distinct_nil, by simp, by simp, by simp⟩

/-- **Plain answers.**  A gateway request that is answered with nothing, or with bytes and no
headers, gets the envelope with status 200. -/
theorem loads_encodeResult (hrequest : request.isGateway = true) {outputType : DeclaredType}
    (houtput : outputType.unwrapMessage.isGatewayResponse = false) (body : Option Bytes) :
    ∃ output, encodeResult settings request ((body.map (·, [])).map ofBytes) outputType = .ok output
      ∧ Codec.loads (.bytes output)
          = .ok (.object (expectedEnvelope settings request (body.map (·, [])) 200)) := by
  have hstatus : statusCode ((body.map (·, [])).map ofBytes) = .ok 200 := by
    cases body <;> rfl
  obtain ⟨bytes, hbytes⟩ : ∃ bytes, bodyBytes ((body.map (·, [])).map ofBytes) = .ok bytes := by
    cases body <;> exact ⟨_, rfl⟩
  have hheaders : ∀ r, body.map (·, []) = some r → PlainHeaders r.2 := by
    intro r hr
    obtain ⟨b, -, rfl⟩ := Option.map_eq_some_iff.mp hr
    exact plainHeaders_nil
  obtain ⟨output, hdumps, hloads⟩ :=
    Codec.loads_dumps (exact_expectedEnvelope settings request hheaders (n := 200) (by decide))
  have henvelope : envelope request ((body.map (·, [])).map ofBytes) bytes settings
      = .ok (200, expectedEnvelope settings request (body.map (·, [])) 200) :=
    envelope_expected hheaders hstatus hbytes fun _ => ⟨⟨200, "OK"⟩, by decide, rfl⟩
  exact ⟨output, encodeResult_of_envelope hrequest houtput hbytes henvelope (by decide) hdumps,
    hloads⟩

theorem expectedDescription_ok (request : Message) :
    expectedDescription request 200
      = if isStreamRequest request then some ("200 OK" : Text) else none := by
  unfold expectedDescription
  split
  · rfl
  · rfl

theorem contains_envelopeFields (status : Int) (description : Option Text) (body : Text)
    (headers : Option Fields) :
    OrderedMap.contains (envelopeFields status description body headers) (.text "statusDescription")
      = description.isSome := by
  cases description with
  | some t => rfl
  | none =>
      cases headers <;> rfl

/-- **An envelope shows whether the request holds records of a stream**: by the description of the
status. -/
theorem contains_statusDescription {response : Option Message} {body : Bytes} {status : Int}
    {sent : Fields} (h : envelope request response body settings = .ok (status, sent)) :
    sent.contains (.text "statusDescription") = isStreamRequest request := by
  rw [envelope_eq] at h
  obtain ⟨n, -, h⟩ := bind_eq_ok.mp h
  obtain ⟨description, hdescription, h⟩ := bind_eq_ok.mp h
  obtain ⟨headers, -, h⟩ := bind_eq_ok.mp h
  cases h
  rw [contains_envelopeFields]
  unfold descriptionFor at hdescription
  cases hstream : isStreamRequest request with
  | false =>
      rw [hstream] at hdescription
      cases hdescription
      rfl
  | true =>
      rw [hstream] at hdescription
      obtain ⟨text, -, htext⟩ := bind_eq_ok.mp hdescription
      cases htext
      rfl

/-- The answers to a missing response tell the requests apart. -/
theorem isStreamRequest_of_encodeResult (hrequest : request.isGateway = true)
    (hother : other.isGateway = true) {outputType : DeclaredType}
    (houtput : outputType.unwrapMessage.isGatewayResponse = false)
    (halike : encodeResult settings request none outputType
      = encodeResult settings other none outputType) :
    isStreamRequest request = isStreamRequest other := by
  obtain ⟨output, hencode, hloads⟩ := loads_encodeResult settings hrequest houtput none
  obtain ⟨output', hencode', hloads'⟩ := loads_encodeResult settings hother houtput none
  have hsame : output = output' :=
    Except.ok.inj (hencode.symm.trans (Eq.trans halike hencode'))
  -- the same bytes are read as the same envelope
  rw [hsame] at hloads
  have henvelope : expectedEnvelope settings request none 200
      = expectedEnvelope settings other none 200 :=
    Value.object.inj (Except.ok.inj (hloads.symm.trans hloads'))
  have hshown : ∀ m, OrderedMap.contains (expectedEnvelope settings m none 200)
      (.text "statusDescription") = isStreamRequest m := by
    intro m
    unfold expectedEnvelope
    rw [contains_envelopeFields, expectedDescription_ok]
    cases isStreamRequest m <;> rfl
  rw [← hshown request, henvelope, hshown other]

/-! ## §3. Two declarations. -/

/-- Every envelope for the message of a request has a description of the status exactly if records
of a stream are in the headers, or in a field and the function takes no objects. -/
def DescribesRecords (settings : Settings) (call : Invocation) (fields : Fields)
    (declared : DeclaredType) (m : Message) : Prop :=
  ∀ (response : Option Message) (body : Bytes) (status : Int) (sent : Fields),
    envelope m response body settings = .ok (status, sent) →
    (sent.contains (.text "statusDescription") = true
      ↔ call.hasRecordsHeader fields = true
        ∨ declared.unwrapMessage.admitsObject = false
          ∧ fields.contains (.text recordsHeader) = true)

theorem describesRecords_of_isStreamRequest {call : Invocation} {fields : Fields}
    {declared : DeclaredType} {m : Message}
    (hstream : isStreamRequest m = (call.hasRecordsHeader fields
      || (!declared.unwrapMessage.admitsObject && fields.contains (.text recordsHeader)))) :
    DescribesRecords settings call fields declared m := by
  intro response body status sent henvelope
  rw [contains_statusDescription settings henvelope, hstream]
  simp

/-- **When a declaration makes no difference.**  A gateway request is normalized for functions that
are declared in two ways, neither of them with an event class.  Every response to the two messages
is encoded to the same bytes or the same failure, except in one case: records of a stream are a
field of the request and nowhere in its headers, and one of the functions takes objects while the
other one does not.  In that case the envelopes for the one that takes objects lack the description
of the status. -/
theorem encode_declared_iff (call : Invocation) (registry : Registry) (settings : Settings)
    (first second outputType : DeclaredType) (fields : Fields) (m m' : Message) (w w' : Workspace)
    (hheaders : ∀ headers, call.headers = some headers → headers.Distinct)
    (hloads : Codec.loads (.bytes call.payload) = .ok (.object fields))
    (hmethod : fields.contains (.text Invocation.methodField) = true)
    (hfirst : ¬ first.NamesEvent) (hsecond : ¬ second.NamesEvent)
    (houtput : outputType.unwrapMessage.isGatewayResponse = false)
    (hm : (({ call with declared := first }.normalize registry settings).outcome w).1 = .ok m)
    (hm' : (({ call with declared := second }.normalize registry settings).outcome w').1 = .ok m') :
    ((∀ (response : Option Message) (v v' : Workspace),
        ((encode settings m response outputType).outcome v).1
          = ((encode settings m' response outputType).outcome v').1)
      ↔ ¬ (call.hasRecordsFieldOnly fields = true
          ∧ first.unwrapMessage.admitsObject ≠ second.unwrapMessage.admitsObject))
      ∧ DescribesRecords settings call fields first m
      ∧ DescribesRecords settings call fields second m' := by
  have htransport : OrderedMap.Distinct (call.headers.getD []) := by
    cases hcase : call.headers with
    | none => exact OrderedMap.distinct_nil
    | some headers => exact hheaders headers hcase
  rw [Invocation.yields_normalize] at hm hm'
  have hgateway := Invocation.isGateway_of_request { call with declared := first } hfirst hloads
    hmethod htransport hm
  have hgateway' := Invocation.isGateway_of_request { call with declared := second } hsecond hloads
    hmethod htransport hm'
  have hstream := Invocation.isStreamRequest_of_request { call with declared := first } hfirst
    hloads hmethod htransport hm
  have hstream' := Invocation.isStreamRequest_of_request { call with declared := second } hsecond
    hloads hmethod htransport hm'
  -- neither the codec nor the journal matters, so the two results are compared
  have hresults := forall_congr' fun response =>
    (yields_encode settings m response outputType).agree_iff
      (yields_encode settings m' response outputType)
  have halike : (∀ response, encodeResult settings m response outputType
        = encodeResult settings m' response outputType)
      ↔ isStreamRequest m = isStreamRequest m' := by
    constructor
    · intro hall
      exact isStreamRequest_of_encodeResult settings hgateway hgateway' houtput (hall none)
    · intro hsame response
      exact encodeResult_congr settings (hgateway.trans hgateway'.symm) hsame response outputType
  refine ⟨?_, describesRecords_of_isStreamRequest settings hstream,
    describesRecords_of_isStreamRequest settings hstream'⟩
  rw [hresults, halike, hstream, hstream']
  unfold Invocation.hasRecordsFieldOnly
  show (call.hasRecordsHeader fields || _) = (call.hasRecordsHeader fields || _) ↔ _
  generalize call.hasRecordsHeader fields = inHeaders
  generalize fields.contains (.text recordsHeader) = inFields
  cases inHeaders <;> cases inFields <;> cases first.unwrapMessage.admitsObject <;>
    cases second.unwrapMessage.admitsObject <;> decide

/-- The fields of a request with records among them and in its nested headers. -/
def nestedRecordsFields : Fields :=
  [(.text "httpMethod", .text "GET"), (.text "Records", .list []),
    (.text "headers", .object [(.text "Records", .null)])]

/-- The request with these fields. -/
def nestedRecords : Invocation where
  payload := (Text.ofString <| "\x7b\"httpMethod\":\"GET\",\"Records\":[],"
    ++ "\"headers\":\x7b\"Records\":null\x7d\x7d").flatMap Utf8.bytesOf

theorem encode_declared_nestedRecords :
    ∃ m m',
      (({ nestedRecords with declared := .cls (.known .dict) }.normalize (.standard classTexts)
          ⟨true, false, true, "INFO"⟩).outcome (.fresh .info)).1 = .ok m
        ∧ ((nestedRecords.normalize (.standard classTexts)
            ⟨true, false, true, "INFO"⟩).outcome (.fresh .info)).1 = .ok m'
        ∧ ∀ (response : Option Message) (v v' : Workspace),
            ((encode ⟨true, false, true, "INFO"⟩ m response .absent).outcome v).1
              = ((encode ⟨true, false, true, "INFO"⟩ m' response .absent).outcome v').1 := by
  have hnested : Json.Readable (.object [(.text "Records", .null)]) := by
    refine .object _ ?_ (by simp) (List.forall_mem_singleton.mpr .null)
    exact OrderedMap.distinct_cons.mpr ⟨by simp, OrderedMap.distinct_nil⟩
  have hreadable : Json.Readable (.object nestedRecordsFields) := by
    refine .object _ (OrderedMap.distinct_iff_keys.mpr (by decide)) ?_ ?_
    · simp [nestedRecordsFields]
    · exact List.forall_mem_cons.mpr ⟨.text _ trivial, List.forall_mem_cons.mpr
        ⟨.list _ (by simp), List.forall_mem_singleton.mpr hnested⟩⟩
  have hdumps : Codec.dumps (.object nestedRecordsFields) = .ok nestedRecords.payload := rfl
  have hloads := Codec.loads_of_dumps hreadable hdumps
  obtain ⟨m, hm⟩ := exists_of_toBool
    (r := (({ nestedRecords with declared := .cls (.known .dict) }.normalize (.standard classTexts)
      ⟨true, false, true, "INFO"⟩).outcome (.fresh .info)).1) (by decide +kernel)
  obtain ⟨m', hm'⟩ := exists_of_toBool
    (r := ((nestedRecords.normalize (.standard classTexts)
      ⟨true, false, true, "INFO"⟩).outcome (.fresh .info)).1) (by decide +kernel)
  refine ⟨m, m', hm, hm', ?_⟩
  have hheaders : ∀ headers, nestedRecords.headers = some headers → headers.Distinct := by
    intro headers hsome
    cases hsome
  obtain ⟨hiff, -, -⟩ := encode_declared_iff nestedRecords (.standard classTexts)
    ⟨true, false, true, "INFO"⟩ (.cls (.known .dict)) .absent .absent _ m m' (.fresh .info)
    (.fresh .info) hheaders hloads (by decide)
    (DeclaredType.not_namesEvent_of_family? rfl rfl)
    (DeclaredType.not_namesEvent_of_family? rfl rfl) rfl hm hm'
  refine hiff.mpr ?_
  rintro ⟨hfield, -⟩
  exact absurd hfield (by decide)

/-- A request with records in a field alone. -/
def fieldRecords : Invocation where
  payload := (Text.ofString "\x7b\"httpMethod\":\"GET\",\"Records\":[]\x7d").flatMap Utf8.bytesOf

/-- What a request becomes that is answered with nothing. -/
def unanswered (call : Invocation) : Adapter Bytes := do
  let request ← call.normalize (.standard classTexts) ⟨true, false, true, "INFO"⟩
  encode ⟨true, false, true, "INFO"⟩ request none .absent

/-- The answer of a function that takes objects lacks the description of the status. -/
theorem encode_declared_fieldRecords :
    (DeclaredType.cls (.known .dict)).admitsObject = true
      ∧ DeclaredType.absent.admitsObject = false
      ∧ ¬ (DeclaredType.cls (.known .dict)).NamesEvent ∧ ¬ DeclaredType.absent.NamesEvent
      ∧ ((unanswered { fieldRecords with declared := .cls (.known .dict) }).outcome
          (.fresh .info)).1.toOption
          = some ((Text.ofString <| "\x7b\"isBase64Encoded\":false,\"statusCode\":200,"
              ++ "\"body\":\"\\\"OK\\\"\"\x7d").flatMap Utf8.bytesOf)
      ∧ ((unanswered fieldRecords).outcome (.fresh .info)).1.toOption
          = some ((Text.ofString <| "\x7b\"isBase64Encoded\":false,\"statusCode\":200,"
              ++ "\"statusDescription\":\"200 OK\",\"body\":\"\\\"OK\\\"\"\x7d").flatMap
                Utf8.bytesOf) :=
  ⟨rfl, rfl, DeclaredType.not_namesEvent_of_family? rfl rfl,
    DeclaredType.not_namesEvent_of_family? rfl rfl, by decide +kernel, by decide +kernel⟩

end Response

end EventEnvelope
