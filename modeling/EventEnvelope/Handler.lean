/-
  EventEnvelope.Handler
  ─────────────────────
  **The entry adapter: one business function behind the normalizer and before the encoder.**

  The runtime hands over parsed JSON, which is written out again before it is normalized.
  A function declared for messages gets the whole message, any other one the payload.  What it
  returns becomes a message and is encoded; output that is JSON is given back parsed.
  The adapter's own failures are logged on the way out.
-/
import EventEnvelope.Invocation
import EventEnvelope.Response

namespace EventEnvelope

/-- Business code: from a payload or a message to a value. -/
abbrev BusinessFunction := Value → Except Failure Value

/-- A business function with what it is declared with. -/
structure Handler where
  function : BusinessFunction
  functionName : Text
  inputType : DeclaredType := .absent
  outputType : DeclaredType := .absent
  settings : Settings := {}

namespace Handler

/-- Put a handler to work: its settings decide which lines are logged from now on. -/
def install (settings : Settings) : Adapter Unit := do
  match Level.ofName? settings.logLevel with
  | some level => modify fun w => { w with journal := { w.journal with threshold := level } }
  | none => throw (.unknownLevel settings.logLevel)

/-- What the runtime hands over, as bytes. -/
def toBytes (event : Value) : Except Failure Bytes :=
  match event with
  | .bytes b => .ok b
  | .buffer b => .ok b
  | .text t =>
      match Utf8.encode t with
      | .ok bytes => .ok bytes
      | .error fault => .error (.surrogates fault)
  | v => Codec.dumps v

/-- Output as a value: parsed if it is JSON, else as text. -/
def toRuntimeResponse (output : Bytes) : Value :=
  match Codec.loads (.bytes output) with
  | .ok v => v
  | .error _ => .text (Utf8.decodeReplacing output)

/-- What the business function gets of a request. -/
def argument (h : Handler) (request : Message) : Value :=
  if h.inputType.isMessage then request.toValue else request.payload

/-- Normalize, call the function and encode what it returns. -/
def process (h : Handler) (registry : Registry) (call : Invocation) : Adapter Bytes := do
  let request ← { call with declared := h.inputType : Invocation }.normalize registry h.settings
  let result ← Adapter.ofExcept (h.function (h.argument request))
  let response ← Adapter.ofExcept (Message.ofResult? result)
  Response.encode h.settings request response h.outputType

/-- Log a failure that is the adapter's own. -/
def logFailure (h : Handler) (failure : Failure) : Adapter Unit :=
  if failure.kind.isAdapterError then
    Adapter.log .error .handler
      ("Event adapter error for function '" ++ h.functionName ++ "': " ++ failure.message)
  else pure ()

/-- One invocation with a payload. -/
def handle (h : Handler) (registry : Registry) (call : Invocation) : Adapter Value := do
  let output ← tryCatch (h.process registry call) fun failure => do
    h.logFailure failure
    throw failure
  return toRuntimeResponse output

/-- One invocation with an event from the runtime. -/
def call (h : Handler) (registry : Registry) (event context : Value) : Adapter Value := do
  let payload ← Adapter.ofExcept (toBytes event)
  h.handle registry { payload, context }

end Handler

end EventEnvelope
