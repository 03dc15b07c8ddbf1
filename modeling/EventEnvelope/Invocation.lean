/-
  EventEnvelope.Invocation
  ────────────────────────
  **Invocations and the messages they become.**

  An event of a declared class is decoded.  Any other payload is read as JSON; an object with the
  field `httpMethod` is a gateway request and gives up its body, unless the function is declared to
  take objects.  Headers come from the request's fields, from its nested `headers` object and
  from the transport, later ones winning; the markers set here win over all of them.  The headers of
  the transport are put into words for the journal whatever its threshold is, so they have to have
  a text.
-/
import EventEnvelope.Event.Shape
import EventEnvelope.Message
import EventEnvelope.Settings
import EventEnvelope.Codec.Configuration

namespace EventEnvelope

/-- One invocation of the adapter. -/
structure Invocation where
  payload : Bytes
  /-- The headers of the transport, if it has any. -/
  headers : Option Fields := none
  declared : DeclaredType := .absent
  /-- The context of the invocation; null for none. -/
  context : Value := .null

namespace Invocation

/-- The field that makes an object a gateway request. -/
def methodField : Text := "httpMethod"

def bodyField : Text := "body"

def headersField : Text := "headers"

/-- The body of a message with the headers and markers found on the way. -/
structure Parts where
  body : Value
  sources : List (Option Fields) := []
  markers : Fields := []

/-- The marker of a gateway request. -/
def gatewayMarkers : Fields := [(.text Message.gatewayMarker, .bool true)]

/-- The body of a gateway request as bytes: a text in UTF-8, anything else as JSON. -/
def bodyBytes (body : Value) : Except Failure Bytes :=
  match body with
  | .text t =>
      match Utf8.encode t with
      | .ok bytes => .ok bytes
      | .error fault => .error (.surrogates fault)
  | v =>
      match Codec.dumps v with
      | .ok bytes => .ok bytes
      | .error (.codec fault) => .error (.bodyNotSerializable fault)
      | .error failure => .error failure

/-- The nested headers of a request, if they are an object. -/
def nestedHeaders (request : Fields) : List (Option Fields) :=
  match request.get? (.text headersField) with
  | some (.object fields) => [some fields]
  | _ => []

/-- The parts of a gateway request.  A function that takes objects gets the request without its
nested headers; any other function gets the body, and the remaining fields are headers. -/
def gatewayParts (request : Fields) (takesObjects : Bool) : Except Failure Parts :=
  if takesObjects then
    .ok {
      body := .object (request.erase (.text headersField))
      sources :=
        some [(.text methodField, (request.get? (.text methodField)).getD .null)]
          :: nestedHeaders request
      markers := gatewayMarkers }
  else do
    let body ← bodyBytes ((request.get? (.text bodyField)).getD .null)
    .ok {
      body := .bytes body
      sources :=
        some ((request.erase (.text bodyField)).erase (.text headersField)) :: nestedHeaders request
      markers := gatewayMarkers }

/-- Note that a request came through a gateway. -/
def logGateway : Adapter Unit := Adapter.log .info .normalizer "Incoming request is API Gateway"

/-- The parts of a JSON object; one that is no gateway request stays as it is. -/
def objectParts (request : Fields) (payload : Bytes) (declared : DeclaredType) : Adapter Parts := do
  if request.contains (.text methodField) then do
    let parts ← Adapter.ofExcept (gatewayParts request declared.admitsObject)
    logGateway
    return parts
  else return { body := .bytes payload, sources := nestedHeaders request }

/-- The parts of a payload that stays raw; one that is not JSON is let through in lenient mode
only. -/
def rawParts (fault : Option CodecFault) (payload : Bytes) (settings : Settings) :
    Adapter Parts := do
  match fault with
  | none => return { body := .bytes payload }
  | some fault =>
      if settings.lenientParse then do
        Adapter.log .warning .normalizer
          ("Payload is not valid JSON, passing raw bytes through: " ++ fault.message)
        return { body := .bytes payload }
      else throw (.payloadNotJson fault)

/-- The parts of an event. -/
def eventParts (registry : Registry) (family : EventFamily) (declared : DeclaredType)
    (payload : Bytes) : Adapter Parts := do
  let event ← registry.decode declared payload
  if family.isGatewayRequest then do
    logGateway
    return { body := event, markers := gatewayMarkers }
  else return { body := event }

/-- The shape of a payload; the codec is configured before JSON is read. -/
def shapeOf (declared : DeclaredType) (payload : Bytes) : Adapter Shape := do
  match Shape.ofDeclared? declared with
  | some shape => return shape
  | none => do
      Codec.ensureConfigured
      return Shape.classify declared payload

/-- The parts of a payload of a known shape. -/
def partsOf (registry : Registry) (settings : Settings) (declared : DeclaredType)
    (payload : Bytes) : Shape → Adapter Parts
  | .typed family => eventParts registry family declared payload
  | .object fields => objectParts fields payload declared
  | .array items => return { body := .list items }
  | .raw _ fault => rawParts fault payload settings

/-- The context marker, if there is a context. -/
def contextMarkers (context : Value) : Fields :=
  if context.isNull then [] else [(.text Message.contextMarker, context)]

/-- The message that an invocation becomes. -/
def normalize (call : Invocation) (registry : Registry) (settings : Settings) :
    Adapter Message := do
  if settings.logPayloads then
    Adapter.log .info .normalizer ("Incoming JSON Event: " ++ Utf8.decodeReplacing call.payload)
  let declared := call.declared.unwrapMessage
  let shape ← shapeOf declared call.payload
  Adapter.log .info .normalizer ("Detected payload shape: " ++ shape.kindName)
  let parts ← partsOf registry settings declared call.payload shape
  let headers ← Adapter.ofExcept (Value.object (call.headers.getD [])).shown
  Adapter.log .info .normalizer ("Incoming request headers: " ++ headers)
  let markers := parts.markers.overlay (contextMarkers call.context)
  Adapter.ofExcept (Message.of parts.body (mergeHeaders (parts.sources ++ [call.headers]) markers))

end Invocation

end EventEnvelope
