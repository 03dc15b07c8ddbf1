/-
  EventEnvelope.Proofs.Response.Result
  ────────────────────────────────────
  **What answers a request, without state.**

  As for invocations, neither the codec nor the journal has an influence on the bytes that answer a
  request.  The envelope of a gateway response is put together from four things: the status, its
  description for requests out of a stream, the body and the headers.  It becomes bytes once its
  status has been put into words.

    • `encodeResult`, `yields_encode`   — the bytes, computed from request and response alone,
    • `envelopeFields`, `envelope_eq`   — the envelope from its four parts,
    • `envelopeHeaders_eq_error`        — headers fail by one of them that has no text.
-/
import EventEnvelope.Response
import EventEnvelope.Proofs.Computation
import EventEnvelope.Proofs.Value.Texts

namespace EventEnvelope

open Adapter

namespace Response

/-- The bytes that answer a request, or why there are none. -/
def encodeResult (settings : Settings) (request : Message) (response : Option Message)
    (outputType : DeclaredType) : Except Failure Bytes :=
  if outputType.unwrapMessage.isGatewayResponse then bodyBytes response
  else do
    let body ← bodyBytes response
    if request.isGateway then do
      let (status, fields) ← envelope request response body settings
      let _ ← (Value.int status).display
      envelopeBytes fields
    else .ok body

/-- **A response comes to its bytes**, whatever the codec and the journal are. -/
theorem yields_encode (settings : Settings) (request : Message) (response : Option Message)
    (outputType : DeclaredType) :
    Yields (encode settings request response outputType)
      (encodeResult settings request response outputType) := by
  unfold encode encodeResult
  -- an output that is a gateway response of its own is passed on without an envelope
  refine Yields.ite (yields_ofExcept _) ?_
  refine Codec.yields_ensureConfigured.then ((yields_ofExcept _).bind fun body => ?_)
  refine Yields.ite ?_ (yields_pure body)
  refine (yields_ofExcept _).bind fun (status, fields) => ?_
  exact (yields_ofExcept _).bind fun _ => (yields_log _ _ _).then (yields_ofExcept _)

/-! ## §1. The envelope. -/

/-- An envelope from its parts: the description and the headers may be missing. -/
def envelopeFields (status : Int) (description : Option Text) (body : Text)
    (headers : Option Fields) : Fields :=
  [(.text "isBase64Encoded", .bool false), (.text "statusCode", .int status)]
    ++ (description.map fun t => (Value.text "statusDescription", Value.text t)).toList
    ++ [(.text "body", .text body)]
    ++ (headers.map fun fields => (Value.text "headers", Value.object fields)).toList

/-- The description of a status, where the request asks for one. -/
def descriptionFor (request : Message) (status : Int) : Except Failure (Option Text) :=
  if isStreamRequest request then some <$> statusDescription (.int status) else .ok none

/-- The headers of the envelope; there are none without a response. -/
def headersFor (response : Option Message) : Except Failure (Option Fields) :=
  match response with
  | none => .ok none
  | some m => some <$> envelopeHeaders m.headers

/-- **The envelope is put together from its parts.**  The status comes first, then its description,
then the headers, and nothing else can fail. -/
theorem envelope_eq (request : Message) (response : Option Message) (body : Bytes)
    (settings : Settings) :
    envelope request response body settings = (do
      let status ← statusCode response
      let description ← descriptionFor request status
      let headers ← headersFor response
      .ok (status,
        envelopeFields status description (bodyText response body settings) headers)) := by
  unfold envelope descriptionFor headersFor
  -- a part that is missing is an empty list of fields, one that is there a list of one
  cases statusCode response with
  | error failure => rfl
  | ok status =>
      rw [ok_bind, ok_bind]
      cases isStreamRequest request with
      | false =>
          cases response with
          | none => rfl
          | some m =>
              cases hheaders : envelopeHeaders m.headers with
              | error failure =>
                  simp only [hheaders]
                  rfl
              | ok fields =>
                  simp only [hheaders]
                  rfl
      | true =>
          cases statusDescription (.int status) with
          | error failure => rfl
          | ok text =>
              cases response with
              | none => rfl
              | some m =>
                  cases hheaders : envelopeHeaders m.headers with
                  | error failure =>
                      simp only [hheaders]
                      rfl
                  | ok fields =>
                      simp only [hheaders]
                      rfl

/-! ## §2. Headers. -/

/-- The text of a header value that has one. -/
def headerText (v : Value) : Text := v.display?.getD []

/-- Headers are written one after the other, as long as each of them has a text. -/
theorem mapM_textHeader (headers : Fields) :
    headers.mapM textHeader =
      if headers.any fun e => e.2.display?.isNone then .error .integerTooLong
      else .ok (headers.map fun e => (e.1, .text (headerText e.2))) := by
  induction headers with
  | nil => rfl
  | cons e rest ih =>
      rw [List.mapM_cons, textHeader, Value.display, ih, List.any_cons, List.map_cons, headerText]
      cases e.2.display? with
      | none => rfl
      | some text => cases rest.any fun e => e.2.display?.isNone <;> rfl

/-- **Headers fail by one that has no text**, of those that are copied. -/
theorem envelopeHeaders_eq_error {headers : Fields} {failure : Failure} :
    envelopeHeaders headers = .error failure
      ↔ (∃ e ∈ headers, isExcludedHeader e.1 = false ∧ e.2.display? = none)
        ∧ failure = .integerTooLong := by
  have hany : ((headers.filter fun e => !isExcludedHeader e.1).any fun e => e.2.display?.isNone)
      = true ↔ ∃ e ∈ headers, isExcludedHeader e.1 = false ∧ e.2.display? = none := by
    simp [List.any_eq_true]
  unfold envelopeHeaders
  rw [mapM_textHeader, ← hany]
  split
  next h => simp [h, eq_comm]
  next h => simp [h]

end Response

end EventEnvelope
