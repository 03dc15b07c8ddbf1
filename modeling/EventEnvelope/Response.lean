/-
  EventEnvelope.Response
  ──────────────────────
  **Responses as bytes.**

  A response to a gateway request is put into an envelope: status code, body as text and
  headers.  Any other response is its payload.  A function that is declared to return a gateway
  response has built the envelope itself, so its payload goes out as it is.
-/
import EventEnvelope.Message
import EventEnvelope.Settings
import EventEnvelope.Event.Registry
import EventEnvelope.Codec.Configuration

namespace EventEnvelope

namespace Response

/-! ## §1. Payloads. -/

/-- The text of a response without payload. -/
def defaultBodyText : Text := "\"OK\""

/-- The bytes of a response without payload. -/
def defaultBody : Bytes := defaultBodyText.flatMap Utf8.bytesOf

/-- A payload as bytes: bytes as they are, text in UTF-8, anything else as JSON. -/
def payloadBytes (payload : Value) : Except Failure Bytes :=
  match payload with
  | .bytes b => .ok b
  | .buffer b => .ok b
  | .text t =>
      match Utf8.encode t with
      | .ok bytes => .ok bytes
      | .error fault => .error (.surrogates fault)
  | v =>
      match Codec.dumps v with
      | .ok bytes => .ok bytes
      | .error (.codec fault) => .error (.responseNotSerializable fault)
      | .error failure => .error failure

/-- The bytes of a response, or those that stand for none. -/
def bodyBytes : Option Message → Except Failure Bytes
  | none => .ok defaultBody
  | some response => payloadBytes response.payload

/-! ## §2. Status codes. -/

/-- The header with the status code. -/
def statusHeader : Text := "statusCode"

/-- A header value as a status code: an integer that is no truth value, or a text of digits. -/
def statusCodeOf (v : Value) : Except Failure Int :=
  match v with
  | .int n => .ok n
  | .status s => .ok s.code
  | .text t =>
      if t.strip.isDigits then (Numeral.read t.strip).mapError .numeral
      else .error (.statusNotAnInteger (Quoted.ofText t))
  | v => do
      let text ← v.shown
      .error (.statusNotAnInteger text)

/-- The status code of a response; 200 unless a header says otherwise. -/
def statusCode (response : Option Message) : Except Failure Int :=
  match response.bind fun m => m.header? statusHeader with
  | none => .ok 200
  | some v => statusCodeOf v

/-- The registered status that a value is equal to. -/
def registeredStatus? (v : Value) : Option HttpStatus :=
  v.number?.bind fun n => HttpStatus.registered.find? fun s => Magnitude.ofInt s.code == n

/-- Code and name of a status. -/
def statusDescription (code : Value) : Except Failure Text :=
  match registeredStatus? code with
  | some s => .ok s.describe
  | none => do
      let text ← code.display
      .error (.unknownStatus text)

/-! ## §3. The envelope. -/

/-- The header that requests out of a stream carry. -/
def recordsHeader : Text := "Records"

/-- The request holds records of a stream, as an event or by its headers. -/
def isStreamRequest (request : Message) : Bool :=
  familyOf? request.payload == some .streamRecordBatch || request.hasHeader recordsHeader

/-- The body as text, without its double quotes if the settings say so.  The body of a response
without payload keeps them. -/
def bodyText (response : Option Message) (body : Bytes) (settings : Settings) : Text :=
  match response with
  | none => defaultBodyText
  | some _ =>
      let text := Utf8.decodeReplacing body
      if settings.stripBodyQuotes then Text.replaceAll '"' [] text else text

/-- A header that is not copied into the envelope. -/
def isExcludedHeader (key : Value) : Bool :=
  key == .text statusHeader || key == .text Message.gatewayMarker
    || key == .text Message.contextMarker

/-- A header with its value as a text. -/
def textHeader (entry : Value × Value) : Except Failure (Value × Value) := do
  let text ← entry.2.display
  .ok (entry.1, .text text)

/-- The headers of the envelope, as texts. -/
def envelopeHeaders (headers : Fields) : Except Failure Fields :=
  (headers.filter fun entry => !isExcludedHeader entry.1).mapM textHeader

/-- The envelope of a response to a gateway request. -/
def envelope (request : Message) (response : Option Message) (body : Bytes)
    (settings : Settings) : Except Failure (Int × Fields) := do
  let status ← statusCode response
  let description : Fields ←
    if isStreamRequest request then do
      let text ← statusDescription (.int status)
      pure [(.text "statusDescription", .text text)]
    else pure []
  let headers : Fields ←
    match response with
    | none => pure []
    | some m => do
        let fields ← envelopeHeaders m.headers
        pure [(.text "headers", .object fields)]
  .ok (status,
    [(.text "isBase64Encoded", .bool false), (.text statusHeader, .int status)]
      ++ description ++ [(.text "body", .text (bodyText response body settings))] ++ headers)

/-- The envelope as JSON. -/
def envelopeBytes (fields : Fields) : Except Failure Bytes :=
  match Codec.dumps (.object fields) with
  | .ok bytes => .ok bytes
  | .error (.codec _) => .error .outputNotSerializable
  | .error failure => .error failure

/-! ## §4. Encoding. -/

/-- The bytes that answer a request. -/
def encode (settings : Settings) (request : Message) (response : Option Message)
    (outputType : DeclaredType) : Adapter Bytes := do
  if outputType.unwrapMessage.isGatewayResponse then Adapter.ofExcept (bodyBytes response)
  else do
    Codec.ensureConfigured
    let body ← Adapter.ofExcept (bodyBytes response)
    if request.isGateway then do
      let (status, fields) ← Adapter.ofExcept (envelope request response body settings)
      let code ← Adapter.ofExcept (Value.int status).display
      Adapter.log .info .encoder ("Outgoing API Gateway response: statusCode=" ++ code)
      Adapter.ofExcept (envelopeBytes fields)
    else return body

end Response

end EventEnvelope
