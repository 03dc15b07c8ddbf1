/-
  EventEnvelope.Proofs.Handler.Result
  ───────────────────────────────────
  **What a handler comes to, without state.**

  A handler normalizes, calls its function and encodes what it returns; failures are logged and
  passed on.  None of it depends on the codec or the journal, so a call has a result that is
  computed from the event and the context alone.  Putting the handler to work is the one step that
  looks at the level of its log lines.

    • `processResult`, `callResult`   — the stages,
    • `yields_call`                   — a call comes to that result,
    • `yields_install`                — building the handler, which a level without a name prevents.
-/
import EventEnvelope.Handler
import EventEnvelope.Proofs.Invocation.Result
import EventEnvelope.Proofs.Response.Result

namespace EventEnvelope

open Adapter

namespace Handler

/-- The bytes that a payload is answered with. -/
def processResult (h : Handler) (registry : Registry) (call : Invocation) :
    Except Failure Bytes := do
  let request ← { call with declared := h.inputType : Invocation }.result registry h.settings
  let result ← h.function (h.argument request)
  let response ← Message.ofResult? result
  Response.encodeResult h.settings request response h.outputType

/-- The value that an event is answered with. -/
def callResult (h : Handler) (registry : Registry) (event context : Value) :
    Except Failure Value := do
  let payload ← toBytes event
  let output ← h.processResult registry { payload, context }
  .ok (toRuntimeResponse output)

/-- Whether a handler with these settings can be put to work. -/
def installResult (settings : Settings) : Except Failure Unit :=
  match Level.ofName? settings.logLevel with
  | some _ => .ok ()
  | none => .error (.unknownLevel settings.logLevel)

theorem yields_install (settings : Settings) :
    Yields (install settings) (installResult settings) := by
  unfold install installResult
  cases Level.ofName? settings.logLevel with
  | none => exact yields_throw _
  | some level => exact fun _ => rfl

theorem yields_process (h : Handler) (registry : Registry) (call : Invocation) :
    Yields (h.process registry call) (h.processResult registry call) :=
  (Invocation.yields_normalize _ registry h.settings).bind fun request =>
    (yields_ofExcept _).bind fun _ => (yields_ofExcept _).bind fun response =>
      Response.yields_encode h.settings request response h.outputType

theorem yields_logFailure (h : Handler) (failure : Failure) :
    Yields (h.logFailure failure) (.ok ()) := by
  unfold logFailure
  split
  · exact yields_log _ _ _
  · exact yields_pure ()

theorem yields_handle (h : Handler) (registry : Registry) (call : Invocation) :
    Yields (h.handle registry call)
      (h.processResult registry call >>= fun output => .ok (toRuntimeResponse output)) :=
  ((yields_process h registry call).rethrow (yields_logFailure h)).bind fun _ => yields_pure _

/-- **A call comes to its result**, whatever the codec and the journal are. -/
theorem yields_call (h : Handler) (registry : Registry) (event context : Value) :
    Yields (h.call registry event context) (h.callResult registry event context) :=
  (yields_ofExcept _).bind fun _ => yields_handle h registry _

end Handler

end EventEnvelope
