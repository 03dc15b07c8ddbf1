/-
  EventEnvelope.Message
  ─────────────────────
  **Messages: a payload and a header map.**

  Every inbound event becomes a message, and business code answers with one.  A payload is
  never null.  Two headers are markers set by the adapter: one says that the request came through
  a gateway, the other carries the context of the invocation.  Header maps are merged so that later
  sources win and markers win over all sources.
-/
import EventEnvelope.Failure

namespace EventEnvelope

/-- A payload and its headers. -/
structure Message where
  payload : Value
  headers : Fields
  hasPayload : payload.isNull = false

namespace Message

/-- The marker of requests that came through a gateway. -/
def gatewayMarker : Text := "aws-api-gateway"

/-- The marker that carries the context of the invocation. -/
def contextMarker : Text := "aws-context"

/-- The message with this payload and these headers. -/
def of (payload : Value) (headers : Fields) : Except Failure Message :=
  if h : payload.isNull = false then .ok ⟨payload, headers, h⟩ else .error .nullPayload

/-- The header with this name. -/
def header? (m : Message) (name : Text) : Option Value := m.headers.get? (.text name)

/-- A header with this name is present. -/
def hasHeader (m : Message) (name : Text) : Bool := m.headers.contains (.text name)

/-- The request came through a gateway: the marker is the truth value true and nothing else. -/
def isGateway (m : Message) : Bool :=
  match m.header? gatewayMarker with
  | some (.bool true) => true
  | _ => false

/-- The context of the invocation, null if there is none. -/
def context (m : Message) : Value := (m.header? contextMarker).getD .null

/-- A message as a value. -/
def toValue (m : Message) : Value := .message m.payload m.headers

/-- What business code returned, as a message: nothing for null, a message as it is, any other
value as the payload of a message without headers. -/
def ofResult? : Value → Except Failure (Option Message)
  | .null => .ok none
  | .message payload headers => (of payload headers).map some
  | v => (of v []).map some

end Message

/-- Header sources merged in order, and markers after all of them. -/
def mergeHeaders (sources : List (Option Fields)) (markers : Option Fields) : Fields :=
  OrderedMap.merge sources markers

end EventEnvelope
