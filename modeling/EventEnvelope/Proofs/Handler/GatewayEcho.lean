/-
  EventEnvelope.Proofs.Handler.GatewayEcho
  ────────────────────────────────────────
  **A handler of the identity echoes gateway requests.**

  A function that takes neither objects nor messages gets the body of a gateway request, as bytes.
  Sent back, the bytes become the text of an envelope.  On the way the body is written as JSON with
  the rest of the event, read, written in UTF-8, read with replacement and written as JSON once
  more; as long as it holds no surrogate, none of this changes it.  The envelope depends on three
  things only: the body, the place of records of a stream and the setting on quotes.

    • `echoText`          — the body as text: a text as it is, anything else as JSON,
    • `carriesRecords`    — the request or its nested headers have the key for records of a stream,
    • `echoEnvelope`      — the envelope that a request should get,
    • `run_gatewayEcho`   — the handler answers with that envelope.
-/
import EventEnvelope.Proofs.Handler.Transparency
import EventEnvelope.Proofs.Response.Declarations

namespace EventEnvelope

/-! ## §1. What an echo should be. -/

namespace Handler

/-- A body as text: a text as it is, anything else as compact JSON. -/
def echoText : Value → Except Json.WriteFault Text
  | .text t => .ok t
  | v => Json.write .compact 0 v

/-- The request or its nested headers have the key for records of a stream. -/
def carriesRecords (fields : Fields) : Bool :=
  fields.contains (.text "Records")
    || (Invocation.nestedHeader? (.object fields) (.text "Records")).isSome

/-- The envelope of a request with the given text as body. -/
def echoEnvelope (settings : Settings) (fields : Fields) (text : Text) : Fields :=
  [(.text "isBase64Encoded", .bool false), (.text "statusCode", .int 200)]
    ++ (if carriesRecords fields then [(.text "statusDescription", .text "200 OK")] else [])
    ++ [(.text "body", .text
          (if settings.stripBodyQuotes then text.filter (· ≠ CodePoint.ofChar '"') else text)),
        (.text "headers", .object [])]

/-! ## §2. The body. -/

/-- Whatever the body is, it has a text, and that text in UTF-8 is what the function gets. -/
theorem bodyBytes_echoText {body : Value} (hbody : Json.Exact body) :
    ∃ text, echoText body = .ok text ∧ text.hasSurrogate = false
      ∧ Invocation.bodyBytes body = .ok (text.flatMap Utf8.bytesOf) := by
  cases body with
  | text t =>
      cases hbody with
      | text _ ht =>
          refine ⟨t, rfl, ht, ?_⟩
          rw [Invocation.bodyBytes, Utf8.encode_of_noSurrogate ht]
  | _ =>
      obtain ⟨text, hwrite, htext, hencode⟩ := Json.encode_encodable hbody.encodable
      refine ⟨text, hwrite, Response.hasSurrogate_of_transmissible htext, ?_⟩
      rw [Invocation.bodyBytes, Codec.dumps, hencode]
      intro t ht
      cases ht

/-! ## §3. The message. -/

/-- **The request becomes a message** with the text of its body in UTF-8. -/
theorem delivers_echoText (call : Invocation) (registry : Registry) (settings : Settings)
    {fields : Fields} (hexact : Json.Exact (.object fields))
    (hmethod : fields.contains (.text Invocation.methodField) = true)
    (hloads : Codec.loads (.bytes call.payload) = .ok (.object fields))
    (hdeclared : ¬ call.declared.NamesEvent)
    (hobjects : call.declared.unwrapMessage.admitsObject = false) (hheaders : call.headers = none) :
    ∃ text, echoText ((fields.get? (.text Invocation.bodyField)).getD .null) = .ok text
      ∧ text.hasSurrogate = false
      ∧ Invocation.Delivers (call.result registry settings)
          (.bytes (text.flatMap Utf8.bytesOf)) := by
  obtain ⟨text, htext, hsurrogate, hbytes⟩ :=
    bodyBytes_echoText (hexact.getD_null (.text Invocation.bodyField))
  refine ⟨text, htext, hsurrogate, ?_⟩
  have hparts : Invocation.partsResult registry settings call.declared.unwrapMessage call.payload
      call.shape = .ok {
        body := .bytes (text.flatMap Utf8.bytesOf)
        sources := some ((fields.erase (.text Invocation.bodyField)).erase
          (.text Invocation.headersField)) :: Invocation.nestedHeaders fields
        markers := Invocation.gatewayMarkers } := by
    rw [Invocation.shape_of_object call hdeclared hloads, Invocation.partsResult, hmethod, hobjects]
    show Invocation.gatewayParts fields false = _
    rw [Invocation.gatewayParts, hbytes]
    rfl
  exact Invocation.delivers_of_parts (Invocation.hasShowableHeaders_of_none hheaders) hparts rfl

/-! ## §4. The envelope. -/

/-- An answer with the text of the body has the envelope that it should have. -/
theorem expectedEnvelope_echo (settings : Settings) {request : Message} {fields : Fields}
    {text : Text} (hstream : Response.isStreamRequest request = carriesRecords fields)
    (htext : text.hasSurrogate = false) :
    Response.expectedEnvelope settings request (some (text.flatMap Utf8.bytesOf, [])) 200
      = echoEnvelope settings fields text := by
  have hbody : Response.expectedBody settings (some (text.flatMap Utf8.bytesOf))
      = if settings.stripBodyQuotes then text.filter (· ≠ CodePoint.ofChar '"') else text := by
    rw [Response.expectedBody, Utf8.decodeReplacing_flatMap htext]
  unfold Response.expectedEnvelope echoEnvelope
  rw [Response.expectedDescription_ok, hstream]
  show Response.envelopeFields 200 _ (Response.expectedBody settings (some _)) (some []) = _
  rw [hbody]
  cases carriesRecords fields <;> rfl

/-- **The bytes that answer a gateway request** are read as its echo. -/
theorem processResult_echo (name : Text) (inputType outputType : DeclaredType)
    (settings : Settings) (registry : Registry) (context : Value) {fields : Fields} {bytes : Bytes}
    (hexact : Json.Exact (.object fields))
    (hmethod : fields.contains (.text Invocation.methodField) = true)
    (hloads : Codec.loads (.bytes bytes) = .ok (.object fields))
    (hfamily : inputType.family? = none) (hobjects : inputType.admitsObject = false)
    (hmessage : inputType.isMessage = false)
    (houtput : outputType.unwrapMessage.isGatewayResponse = false) :
    ∃ text output, echoText ((fields.get? (.text Invocation.bodyField)).getD .null) = .ok text
      ∧ (identity name inputType outputType settings).processResult registry
          { payload := bytes, context } = .ok output
      ∧ Codec.loads (.bytes output) = .ok (.object (echoEnvelope settings fields text)) := by
  have hdeclared := DeclaredType.not_namesEvent_of_family? hmessage hfamily
  rw [← DeclaredType.unwrapMessage_of_not_isMessage hmessage] at hobjects
  obtain ⟨text, htext, hsurrogate, request, hrequest, hpayload⟩ := delivers_echoText
    { payload := bytes, context, declared := inputType } registry settings hexact hmethod hloads
    hdeclared hobjects rfl
  have hgateway := Invocation.isGateway_of_request
    { payload := bytes, context, declared := inputType } hdeclared hloads hmethod
    OrderedMap.distinct_nil hrequest
  have hstream : Response.isStreamRequest request = carriesRecords fields := by
    rw [Invocation.isStreamRequest_of_request
      { payload := bytes, context, declared := inputType } hdeclared hloads hmethod
      OrderedMap.distinct_nil hrequest, hobjects, carriesRecords, Bool.or_comm]
    rfl
  obtain ⟨output, hencode, hread⟩ := Response.loads_encodeResult settings hgateway houtput
    (some (text.flatMap Utf8.bytesOf))
  refine ⟨text, output, htext, ?_, ?_⟩
  · -- the function gets the payload, and what it returns becomes the response
    have hargument : (identity name inputType outputType settings).argument request
        = .bytes (text.flatMap Utf8.bytesOf) := by
      unfold argument
      rw [← hpayload]
      exact if_neg (by simp [identity, hmessage])
    show ((Invocation.result { payload := bytes, context, declared := inputType } registry settings)
      >>= fun request => _) = _
    rw [hrequest, ok_bind, hargument]
    exact hencode
  · rw [hread]
    exact congrArg (fun envelope => Except.ok (Value.object envelope))
      (expectedEnvelope_echo settings hstream hsurrogate)

/-! ## §5. The handler. -/

/-- **A handler of the identity echoes gateway requests.**  Put to work with these settings, it
answers an object with a method with the envelope of its body, whatever other fields, nested headers
and context there are, if its input type is no event class and takes neither objects nor messages,
and its output is no gateway response of its own.  Only a log level without a name keeps it from
being put to work. -/
theorem run_gatewayEcho (name : Text) (inputType outputType : DeclaredType) (settings : Settings)
    (registry : Registry) (fields : Fields) (context : Value) (w : Workspace)
    (hexact : Json.Exact (.object fields))
    (hmethod : fields.contains (.text Invocation.methodField) = true)
    (hfamily : inputType.family? = none) (hobjects : inputType.admitsObject = false)
    (hmessage : inputType.isMessage = false)
    (houtput : outputType.unwrapMessage.isGatewayResponse = false) :
    ∃ text, echoText ((fields.get? (.text Invocation.bodyField)).getD .null) = .ok text
      ∧ (((identity name inputType outputType settings).run registry (.object fields)
          context).outcome w).1
        = match Level.ofName? settings.logLevel with
          | some _ => .ok (.object (echoEnvelope settings fields text))
          | none => .error (.unknownLevel settings.logLevel) := by
  obtain ⟨bytes, hdumps, hloads⟩ := Codec.loads_dumps hexact
  obtain ⟨text, output, htext, hprocess, hread⟩ := processResult_echo name inputType outputType
    settings registry context hexact hmethod hloads hfamily hobjects hmessage houtput
  refine ⟨text, htext, ?_⟩
  rw [yields_run (identity name inputType outputType settings) registry (.object fields) context w]
  show (installResult settings >>= fun _ => _) = _
  unfold installResult
  cases Level.ofName? settings.logLevel with
  | none => rfl
  | some level =>
      have hbytes : toBytes (.object fields) = .ok bytes := hdumps
      rw [ok_bind, callResult, hbytes, ok_bind, hprocess, ok_bind, toRuntimeResponse, hread]

/-- A request with a spoofed marker and records in its nested headers; its body is no text. -/
def spoofedRequest : Fields :=
  [(.text "httpMethod", .text "POST"),
    (.text "headers", .object [(.text "aws-api-gateway", .bool false), (.text "Records", .null)]),
    (.text "body", .list [.text "a", .int 1])]

theorem run_gatewayEcho_spoofedRequest :
    Json.Exact (.object spoofedRequest)
      ∧ (((identity "fn" .absent .absent ⟨true, false, true, "WARN"⟩).run (.standard classTexts)
          (.object spoofedRequest) (.text "context")).outcome (.fresh .info)).1
        = .ok (.object
            [(.text "isBase64Encoded", .bool false), (.text "statusCode", .int 200),
              (.text "statusDescription", .text "200 OK"), (.text "body", .text "[a,1]"),
              (.text "headers", .object [])]) := by
  have hnested : Json.Exact
      (.object [(.text "aws-api-gateway", .bool false), (.text "Records", .null)]) := by
    refine .object _ ?_ ?_ ?_
    · exact OrderedMap.distinct_cons.mpr ⟨by decide, OrderedMap.distinct_cons.mpr
        ⟨by simp, OrderedMap.distinct_nil⟩⟩
    · exact List.forall_mem_cons.mpr ⟨⟨_, rfl, by decide⟩,
        List.forall_mem_singleton.mpr ⟨_, rfl, by decide⟩⟩
    · exact List.forall_mem_cons.mpr ⟨.bool false, List.forall_mem_singleton.mpr .null⟩
  have hbody : Json.Exact (.list [.text "a", .int 1]) :=
    .list _ (List.forall_mem_cons.mpr ⟨.text _ (by decide),
      List.forall_mem_singleton.mpr (.int 1 (by decide))⟩)
  have hexact : Json.Exact (.object spoofedRequest) := by
    refine .object _ ?_ ?_ ?_
    · exact OrderedMap.distinct_iff_keys.mpr (by decide)
    · exact List.forall_mem_cons.mpr ⟨⟨_, rfl, by decide⟩, List.forall_mem_cons.mpr
        ⟨⟨_, rfl, by decide⟩, List.forall_mem_singleton.mpr ⟨_, rfl, by decide⟩⟩⟩
    · exact List.forall_mem_cons.mpr ⟨.text _ (by decide), List.forall_mem_cons.mpr
        ⟨hnested, List.forall_mem_singleton.mpr hbody⟩⟩
  obtain ⟨text, htext, hrun⟩ := run_gatewayEcho "fn" .absent .absent ⟨true, false, true, "WARN"⟩
    (.standard classTexts) spoofedRequest (.text "context") (.fresh .info) hexact rfl rfl rfl rfl
    rfl
  have hwritten : echoText ((spoofedRequest.get? (.text Invocation.bodyField)).getD .null)
      = .ok "[\"a\",1]" := rfl
  rw [hwritten] at htext
  cases htext
  exact ⟨hexact, hrun⟩

/-- A level that is no level keeps the handler from working. -/
theorem run_gatewayUnknownLevel :
    Json.Exact (.object [(.text "httpMethod", .text "GET")])
      ∧ (((identity "fn" .absent .absent ⟨true, false, true, "FOO"⟩).run (.standard classTexts)
          (.object [(.text "httpMethod", .text "GET")]) .null).outcome (.fresh .info)).1
        = .error (.unknownLevel "FOO") := by
  refine ⟨?_, rfl⟩
  refine .object _ ?_ ?_ ?_
  · exact OrderedMap.distinct_cons.mpr ⟨by simp, OrderedMap.distinct_nil⟩
  · exact List.forall_mem_singleton.mpr ⟨_, rfl, by decide⟩
  · exact List.forall_mem_singleton.mpr (.text _ (by decide))

end Handler

end EventEnvelope
