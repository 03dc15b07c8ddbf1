/-
  EventEnvelope.Proofs.CommandLine.Roundtrip
  ──────────────────────────────────────────
  **What a response is made of that is given by options.**

  The response to a gateway request is given by options: its text, its headers as pairs, and its
  status, for which there is a header as well.  The envelope is JSON within the text that is
  printed, so it is read in two steps.  Each step undoes a writer, and what is found in the end is
  told by the options alone: the status option, else the last pair for the status, else 200; for
  every other header the last pair with its name; and the text without its double quotes.

    • `GivesStatus`, `GivesHeaders`    — what the options say of the response,
    • `givesStatus_of_statusCode`, `givesHeaders_envelopeHeaders` — the response obeys them,
    • `loads_encodeResult_text`        — the envelope, read from its text,
    • `roundtrip_output`               — the envelope, read from what the command prints.
-/
import Mathlib
import EventEnvelope.Proofs.CommandLine.Printing
import EventEnvelope.Proofs.Response.Declarations
import EventEnvelope.Proofs.Response.StatusCodes

namespace EventEnvelope.CommandLine

/-! ## §1. What the options give. -/

/-- The status that the options give: that of its own option, else the one that the last pair for it
spells, else 200. -/
inductive GivesStatus (options : RoundtripOptions) : Int → Prop
  | option (n : Int) (h : options.status = some n) : GivesStatus options n
  | header (value : Text) (n : Int) (hstatus : options.status = none)
      (h : LastGives options.responseHeaders Response.statusHeader value)
      (hn : Response.Denotes (.text value) n) : GivesStatus options n
  | default (hstatus : options.status = none)
      (h : ∀ value, ¬ LastGives options.responseHeaders Response.statusHeader value) :
      GivesStatus options 200

/-- The headers that pairs give to an envelope: for each name that is not reserved the value of the
last pair with that name, and nothing else. -/
structure GivesHeaders (pairs : List Text) (headers : Fields) : Prop where
  distinct : headers.Distinct
  mem : ∀ entry, entry ∈ headers ↔ ∃ name value, entry = (.text name, .text value)
    ∧ name ∉ Response.reservedNames ∧ LastGives pairs name value

/-! ## §2. The response obeys the options. -/

/-- The headers are those of the pairs, and with a status option its status is written over them. -/
theorem headers_cases (options : RoundtripOptions) :
    (options.status = none ∧ options.headers = headersOf options.responseHeaders)
      ∨ ∃ n, options.status = some n ∧ options.headers
          = (headersOf options.responseHeaders).insert (.text Response.statusHeader) (.int n) := by
  unfold RoundtripOptions.headers
  cases options.status with
  | none => exact .inl ⟨rfl, rfl⟩
  | some n => exact .inr ⟨n, rfl, rfl⟩

/-- The status option changes the header of the status, and no other one. -/
theorem get?_headers_of_ne (options : RoundtripOptions) {name : Text}
    (h : name ≠ Response.statusHeader) :
    options.headers.get? (.text name)
      = (headersOf options.responseHeaders).get? (.text name) := by
  obtain ⟨-, heq⟩ | ⟨n, -, heq⟩ := headers_cases options
  · rw [heq]
  · have hother : (Value.text Response.statusHeader == .text name) = false := by
      rw [Value.text_beq_text, beq_eq_false_iff_ne]
      exact h.symm
    rw [heq, OrderedMap.get?_insert, hother]
    rfl

theorem distinct_headers (options : RoundtripOptions) : options.headers.Distinct := by
  have hpairs := OrderedMap.distinct_ofEntries (options.responseHeaders.map headerOf)
  obtain ⟨-, heq⟩ | ⟨n, -, heq⟩ := headers_cases options
  · rw [heq]
    exact hpairs
  · rw [heq]
    exact hpairs.insert _ _

theorem text_of_mem_headers (options : RoundtripOptions) :
    ∀ e ∈ options.headers, ∃ name, e.1 = .text name := by
  have hpairs : ∀ e ∈ headersOf options.responseHeaders, (∃ name, e.1 = .text name) ∧ True :=
    fun e he => ⟨(texts_of_mem_headersOf e he).1, trivial⟩
  obtain ⟨-, heq⟩ | ⟨n, -, heq⟩ := headers_cases options
  · intro e he
    rw [heq] at he
    exact (hpairs e he).1
  · intro e he
    rw [heq] at he
    exact (OrderedMap.forall_mem_insert (P := fun k => ∃ name, k = Value.text name)
      (Q := fun _ => True) hpairs ⟨_, rfl⟩ trivial e he).1

/-- All keys are texts, so to have a header is to be found under its name. -/
theorem mem_headers_iff (options : RoundtripOptions) {name : Text} {v : Value} :
    (.text name, v) ∈ options.headers ↔ options.headers.get? (.text name) = some v := by
  constructor
  · intro hmem
    exact OrderedMap.get?_of_mem (distinct_headers options) hmem (by simp)
  · intro hget
    obtain ⟨k, hk, hmem⟩ := OrderedMap.mem_of_get? hget
    obtain ⟨t, ht⟩ := text_of_mem_headers options _ hmem
    have hkey : k = .text t := ht
    rw [hkey, Value.text_beq_text, beq_iff_eq] at hk
    rwa [hkey, hk] at hmem

/-- **The status of the response** is the one that the options give. -/
theorem givesStatus_of_statusCode {options : RoundtripOptions} {response : Message}
    (hheaders : response.headers = options.headers) {n : Int}
    (h : Response.statusCode (some response) = .ok n) : GivesStatus options n := by
  rw [Response.statusCode, Option.bind_some, Message.header?, hheaders] at h
  obtain ⟨hstatus, heq⟩ | ⟨status, hstatus, heq⟩ := headers_cases options
  · rw [heq] at h
    cases hget : (headersOf options.responseHeaders).get? (.text Response.statusHeader) with
    | none =>
        rw [hget] at h
        cases h
        refine .default hstatus fun value hlast => ?_
        rw [get?_headersOf.mpr hlast] at hget
        cases hget
    | some v =>
        obtain ⟨value, rfl, hlast⟩ := lastGives_of_get? hget
        rw [hget] at h
        exact .header value n hstatus hlast (((Response.coercionLaw _).code n).mp h)
  · -- the option is written over whatever the pairs give
    rw [heq, OrderedMap.get?_insert, Value.text_beq_text, beq_self_eq_true, if_pos rfl] at h
    cases h
    exact .option n hstatus

/-- **The headers of the envelope** are those that the pairs give. -/
theorem givesHeaders_envelopeHeaders {options : RoundtripOptions} {headers : Fields}
    (h : Response.envelopeHeaders options.headers = .ok headers) :
    GivesHeaders options.responseHeaders headers := by
  rw [Response.eq_expectedHeaders h]
  -- a name that is not reserved is not that of the status, so the option has no part in it
  have hgiven : ∀ {name : Text} {v : Value}, name ∉ Response.reservedNames →
      ((.text name, v) ∈ options.headers
        ↔ (headersOf options.responseHeaders).get? (.text name) = some v) := by
    intro name v hreserved
    rw [mem_headers_iff, get?_headers_of_ne]
    rintro rfl
    exact hreserved List.mem_cons_self
  refine ⟨Response.distinct_expectedHeaders (distinct_headers options), fun entry => ⟨?_, ?_⟩⟩
  · intro hentry
    obtain ⟨name, v, hmem, hreserved, rfl⟩ :=
      Response.mem_expectedHeaders (text_of_mem_headers options) hentry
    obtain ⟨value, rfl, hlast⟩ := lastGives_of_get? ((hgiven hreserved).mp hmem)
    exact ⟨name, value, rfl, hreserved, hlast⟩
  · rintro ⟨name, value, rfl, hreserved, hlast⟩
    have hmem := (hgiven hreserved).mpr (get?_headersOf.mpr hlast)
    exact Response.mem_expectedHeaders_of_mem hmem hreserved

theorem GivesHeaders.readable {pairs : List Text} {headers : Fields}
    (h : GivesHeaders pairs headers) : Json.Readable (.object headers) := by
  refine .object _ h.distinct (fun entry hentry => ?_) fun entry hentry => ?_
  · obtain ⟨name, value, rfl, -, -⟩ := (h.mem entry).mp hentry
    exact ⟨name, rfl, trivial⟩
  · obtain ⟨name, value, rfl, -, -⟩ := (h.mem entry).mp hentry
    exact .text value trivial

/-! ## §3. The envelope within the report. -/

/-- The status of an envelope that could be written is within the digit limit. -/
theorem length_le_of_dumps {n : Int} {description : Option Text} {body : Text}
    {headers : Option Fields} {output : Bytes}
    (h : Codec.dumps (.object (Response.envelopeFields n description body headers)) = .ok output) :
    (Text.ofNat n.natAbs).length ≤ digitLimit := by
  obtain ⟨text, hwrite, -⟩ := Json.encode_eq_ok.mp (Codec.dumps_eq_ok.mp h)
  obtain ⟨entries, hentries, -⟩ := Json.write_object_eq_ok.mp hwrite
  have hmem : (Value.text "statusCode", Value.int n)
      ∈ Response.envelopeFields n description body headers := by
    simp [Response.envelopeFields]
  obtain ⟨entry, -, key, value, -, hvalue, -⟩ := Json.forall₂_mem_left hentries _ hmem
  exact Json.length_le_of_writeInt hvalue

/-- **The envelope is read from its text.**  A gateway request that holds no records of a stream is
answered with status, body and headers. -/
theorem loads_encodeResult_text {settings : Settings} {request response : Message} {output : Bytes}
    (hgateway : request.isGateway = true) (hstream : Response.isStreamRequest request = false)
    (hheaders : ∀ headers, Response.envelopeHeaders response.headers = .ok headers →
      Json.Readable (.object headers))
    (h : Response.encodeResult settings request (some response) .absent = .ok output) :
    ∃ n body headers, Response.statusCode (some response) = .ok n
      ∧ Response.bodyBytes (some response) = .ok body
      ∧ Response.envelopeHeaders response.headers = .ok headers
      ∧ Codec.loads (.text (Utf8.decodeReplacing output)) = .ok (.object
          (Response.envelopeFields n none (Response.bodyText (some response) body settings)
            (some headers))) := by
  have habsent : DeclaredType.absent.unwrapMessage.isGatewayResponse = false := rfl
  rw [Response.encodeResult, habsent, hgateway] at h
  obtain ⟨body, hbody, h⟩ := bind_eq_ok.mp h
  obtain ⟨⟨n, sent⟩, henvelope, h⟩ := bind_eq_ok.mp h
  rw [Response.envelope_eq] at henvelope
  obtain ⟨status, hstatus, henvelope⟩ := bind_eq_ok.mp henvelope
  obtain ⟨description, hdescription, henvelope⟩ := bind_eq_ok.mp henvelope
  obtain ⟨copied, hcopied, henvelope⟩ := bind_eq_ok.mp henvelope
  rw [Response.descriptionFor, hstream] at hdescription
  cases hdescription
  obtain ⟨headers, hwritten, hsame⟩ := map_eq_ok.mp hcopied
  cases hsame
  cases henvelope
  have hdumps : Codec.dumps (.object (Response.envelopeFields n none
      (Response.bodyText (some response) body settings) (some headers))) = .ok output := by
    obtain ⟨-, -, h⟩ := bind_eq_ok.mp h
    unfold Response.envelopeBytes at h
    split at h
    next hdumps =>
      cases h
      exact hdumps
    next => cases h
    next => cases h
  refine ⟨n, body, headers, hstatus, hbody, hwritten, Codec.loads_text_of_dumps ?_ hdumps⟩
  refine Response.tree_envelopeFields (fun _ _ => trivial) (length_le_of_dumps hdumps)
    (fun _ _ => trivial) trivial fun fields hfields => ?_
  cases hfields
  exact hheaders headers hwritten

/-- The response that a text makes has the bytes of the text, so its body is the text again, without
its double quotes. -/
theorem response_of_body {options : RoundtripOptions} {body : Text} {response : Option Message}
    (hbody : options.body = some body) (h : options.response = .ok response) :
    ∃ m, response = some m ∧ m.headers = options.headers
      ∧ ∀ (bytes : Bytes) (settings : Settings), settings.stripBodyQuotes = true →
          Response.bodyBytes (some m) = .ok bytes →
          Response.bodyText (some m) bytes settings = body.filter (· ≠ .ofChar '"') := by
  rw [RoundtripOptions.response, hbody] at h
  obtain ⟨payload, hpayload, h⟩ := bind_eq_ok.mp h
  obtain ⟨m, hm, rfl⟩ := map_eq_ok.mp h
  obtain ⟨hpayloadOf, hheaders⟩ := Message.of_eq_ok hm
  have hencode : Utf8.encode body = .ok payload := by
    unfold bytesOfText at hpayload
    cases hcase : Utf8.encode body with
    | ok bytes =>
        rw [hcase] at hpayload
        cases hpayload
        rfl
    | error fault =>
        rw [hcase] at hpayload
        cases hpayload
  obtain ⟨hclean, rfl⟩ := Utf8.encode_eq_ok_iff.mp hencode
  refine ⟨m, rfl, hheaders, fun bytes settings hstrip hbytes => ?_⟩
  rw [Response.bodyBytes, hpayloadOf] at hbytes
  cases hbytes
  rw [Response.bodyText, hstrip]
  show Text.replaceAll _ [] (Utf8.decodeReplacing _) = _
  rw [Response.replaceAll_nil, Utf8.decodeReplacing_flatMap hclean]

/-- A gateway request that holds no records of a stream, neither as a field nor in its nested
headers nor among the headers that are given. -/
structure HoldsNoRecords (options : InputOptions) (fields : Fields) : Prop where
  method : fields.contains (.text Invocation.methodField) = true
  field : fields.contains (.text Response.recordsHeader) = false
  nested : Invocation.nestedHeader? (.object fields) (.text Response.recordsHeader) = none
  pairs : ∀ pair ∈ options.headers, ∀ value, ¬ Gives pair Response.recordsHeader value

/-- The encoder takes its message for that of a gateway request, and for no records. -/
theorem gateway_of_holdsNoRecords {options : InputOptions} {payload : Bytes} {fields : Fields}
    {own : EventTexts} {settings : Settings} {m : Message}
    (hdeclared : options.declared = .absent ∨ options.declared = .objectOfAny)
    (hread : Codec.loads (.bytes payload) = .ok (.object fields))
    (hfields : HoldsNoRecords options fields)
    (hresult : (options.call payload).result (.standard own) settings = .ok m) :
    m.isGateway = true ∧ Response.isStreamRequest m = false := by
  have hevent : ¬ (options.call payload).declared.NamesEvent := by
    rcases hdeclared with h | h
    · show ¬ options.declared.NamesEvent
      rw [h]
      exact DeclaredType.not_namesEvent_of_family? rfl rfl
    · show ¬ options.declared.NamesEvent
      rw [h]
      exact DeclaredType.not_namesEvent_of_family? rfl rfl
  have hdistinct : OrderedMap.Distinct ((options.call payload).headers.getD []) :=
    OrderedMap.distinct_ofEntries _
  have htransport : OrderedMap.contains ((options.call payload).headers.getD [])
      (.text Response.recordsHeader) = false := by
    refine Bool.eq_false_iff.mpr fun hcontains => ?_
    obtain ⟨v, hv⟩ := Option.isSome_iff_exists.mp hcontains
    obtain ⟨value, -, before, pair, after, hpairs, hgives, -⟩ := lastGives_of_get? hv
    exact hfields.pairs pair (by rw [hpairs]; simp) value hgives
  refine ⟨Invocation.isGateway_of_request _ hevent hread hfields.method hdistinct hresult, ?_⟩
  rw [Invocation.isStreamRequest_of_request _ hevent hread hfields.method hdistinct hresult,
    Invocation.hasRecordsHeader, htransport, hfields.nested, hfields.field]
  simp

/-- The report on a response is one that is read back. -/
theorem readable_reply {options : InputOptions} {payload : Bytes} {own : EventTexts}
    {settings : Settings} {m : Message}
    (h : (options.call payload).result (.standard own) settings = .ok m) (output : Bytes) :
    Json.Readable (.object [(.text "request", describe m),
      (.text "output", .text (Utf8.decodeReplacing output))]) := by
  have hplain : ∀ t : Text, t.hasSurrogate = false → True := fun _ _ => trivial
  obtain ⟨hpayload, hheaders⟩ := InputOptions.tree_result hplain
    (fun v hv => Codec.readable_loads hv) (fun _ _ _ _ _ => ⟨trivial, trivial⟩) h
  have hnames : List.Nodup [("request" : Text), "output"] := by decide
  exact @Json.tree_named (fun _ => True) (fun _ => True)
    [("request", describe m), ("output", .text (Utf8.decodeReplacing output))] hnames
    (fun _ _ => trivial) (List.forall_mem_cons.mpr
      ⟨tree_describe hplain hpayload hheaders, List.forall_mem_singleton.mpr (.text _ trivial)⟩)

/-! ## §4. The command. -/

/-- **What the command prints holds what the options give.**  A gateway request that holds no
records is answered with a text, under settings that take quotes out of bodies, and for a function
that is declared with nothing or with the type of objects.  If the run ends with success, the
report is read from what it prints, in either layout, and the envelope from the report's text:
status and headers are those that the options give, and the body is the text without its double
quotes. -/
theorem roundtrip_output (world : Surroundings) (w : Workspace) (arguments : List Text)
    (pretty : Bool) (options : RoundtripOptions) (body : Text) (payload : Bytes) (fields : Fields)
    (outcome : Outcome)
    (hrequest : Request.ofArguments arguments = .ok ⟨pretty, .roundtrip options⟩)
    (hbody : options.body = some body)
    (hdeclared : options.input.declared = .absent ∨ options.input.declared = .objectOfAny)
    (hsettings : (Settings.ofEnvironment world.environment).stripBodyQuotes = true)
    (hload : ((options.input.source.load world).run.run { workspace := w }).1 = .ok payload)
    (hread : Codec.loads (.bytes payload) = .ok (.object fields))
    (hfields : HoldsNoRecords options.input fields)
    (hrun : (run world arguments w).1 = .ok outcome) (hexit : outcome.exit = .code 0) :
    ∃ (report : Fields) (output : Text) (status : Int) (headers : Fields),
      Codec.loads (.text outcome.output) = .ok (.object report)
        ∧ report.get? (.text "output") = some (.text output)
        ∧ Codec.loads (.text output) = .ok (.object
            [(.text "isBase64Encoded", .bool false), (.text "statusCode", .int status),
              (.text "body", .text (body.filter (· ≠ .ofChar '"'))),
              (.text "headers", .object headers)])
        ∧ GivesStatus options status ∧ GivesHeaders options.responseHeaders headers := by
  rw [run, hrequest] at hrun
  have htask : ComesTo ((Request.mk pretty (.roundtrip options)).command.report world)
      (options.result world) := comesTo_roundtrip options world
  obtain ⟨v, hresult, hprinted⟩ := exists_printed_of_success htask hrun hexit
  -- the task came to a value, so each of its steps has a result
  obtain ⟨request, hmessage, hresult⟩ := bind_eq_ok.mp hresult
  obtain ⟨response, hresponse, hresult⟩ := bind_eq_ok.mp hresult
  obtain ⟨bytes, hencode, hresult⟩ := bind_eq_ok.mp hresult
  cases hresult
  rw [InputOptions.result_of_load hload, mapError_eq_ok] at hmessage
  obtain ⟨m, rfl, hheaders, htext⟩ := response_of_body hbody (mapError_eq_ok.mp hresponse)
  obtain ⟨hgateway, hstream⟩ := gateway_of_holdsNoRecords hdeclared hread hfields hmessage
  -- the envelope is read from its text
  have hgiven : ∀ headers, Response.envelopeHeaders m.headers = .ok headers →
      GivesHeaders options.responseHeaders headers := by
    intro headers h
    rw [hheaders] at h
    exact givesHeaders_envelopeHeaders h
  obtain ⟨n, sent, headers, hstatus, hsent, hcopied, henvelope⟩ := loads_encodeResult_text hgateway
    hstream (fun headers h => (hgiven headers h).readable) (mapError_eq_ok.mp hencode)
  rw [htext sent _ hsettings hsent] at henvelope
  -- and its text from the report
  exact ⟨_, _, n, _, loads_printed (readable_reply hmessage bytes) hprinted, rfl, henvelope,
    givesStatus_of_statusCode hheaders hstatus, hgiven headers hcopied⟩

/-- A request whose nested headers become headers of its message. -/
def putPayload : Text := "\x7b\"httpMethod\":\"PUT\",\"headers\":\x7b\"trace\":1\x7d\x7d"

/-- What it reads as. -/
def putRequest : Fields :=
  [(.text "httpMethod", .text "PUT"), (.text "headers", .object [(.text "trace", .int 1)])]

/-- A response whose text holds quotes, with two statuses, two values of one header, and a header
that is reserved. -/
def putOptions : RoundtripOptions where
  input := { source := { json := putPayload }, headers := ["path=/p"] }
  body := some "say \"é\""
  responseHeaders := ["statusCode=200", "retry=1", "statusCode= 404", "retry=a=b", "aws-context=x"]

/-- Those options as arguments. -/
def putArguments : List Text :=
  ["roundtrip", "--json", putPayload, "-Hpath=/p", "--body", "say \"é\"", "-R", "statusCode=200",
    "-R", "retry=1", "-RstatusCode= 404", "--response-header=retry=a=b", "-R", "aws-context=x"]

/-- The run ends with success. -/
def succeeds : Except Failure Outcome → Bool
  | .ok ⟨.code 0, _, _⟩ => true
  | _ => false

theorem exists_of_succeeds {result : Except Failure Outcome} (h : succeeds result = true) :
    ∃ outcome, result = .ok outcome ∧ outcome.exit = .code 0 := by
  unfold succeeds at h
  split at h
  next output calls => exact ⟨_, rfl, rfl⟩
  next => cases h

theorem roundtrip_output_put :
    ∃ (outcome : Outcome) (report : Fields) (output : Text) (status : Int) (headers : Fields),
      (run bareSurroundings putArguments (.fresh .info)).1 = .ok outcome
        ∧ Codec.loads (.text outcome.output) = .ok (.object report)
        ∧ report.get? (.text "output") = some (.text output)
        ∧ Codec.loads (.text output) = .ok (.object
            [(.text "isBase64Encoded", .bool false), (.text "statusCode", .int status),
              (.text "body", .text "say é"), (.text "headers", .object headers)])
        ∧ GivesStatus putOptions status ∧ GivesHeaders putOptions.responseHeaders headers := by
  have hread : Codec.loads (.bytes (putPayload.flatMap Utf8.bytesOf))
      = .ok (.object putRequest) := by cbv
  have hfields : HoldsNoRecords putOptions.input putRequest := by
    refine ⟨rfl, rfl, rfl, fun pair hpair value hgives => ?_⟩
    rw [List.mem_singleton.mp hpair] at hgives
    have hheader : (Value.text "path", Value.text "/p") = (.text "Records", .text value) :=
      headerOf_of_gives hgives
    have hname : ("path" : Text) = "Records" := Value.text.inj (congrArg Prod.fst hheader)
    exact absurd hname (by decide)
  have hsucceeds : succeeds (run bareSurroundings putArguments (.fresh .info)).1 = true := by
    decide +kernel
  obtain ⟨outcome, hrun, hexit⟩ := exists_of_succeeds hsucceeds
  obtain ⟨report, output, status, headers, hprinted⟩ :=
    roundtrip_output bareSurroundings (.fresh .info) putArguments false putOptions "say \"é\""
      (putPayload.flatMap Utf8.bytesOf) putRequest outcome rfl rfl (.inl rfl) rfl rfl hread hfields
      hrun hexit
  exact ⟨outcome, report, output, status, headers, hrun, hprinted⟩

end EventEnvelope.CommandLine
