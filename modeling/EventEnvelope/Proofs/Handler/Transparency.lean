/-
  EventEnvelope.Proofs.Handler.Transparency
  ─────────────────────────────────────────
  **A handler of the identity changes nothing.**

  An event goes through five stages: it is written as JSON, read and normalized, wrapped in a
  message, encoded and read again.  Objects and scalars travel as the bytes that were written,
  lists as the list that was read; whichever it is, the bytes at the end are those at the start,
  and reading them gives the event.  Only a gateway request takes another way, and what makes an
  event a gateway request is a field or a marker in its nested headers.

    • `IsPlainEvent`             — JSON that is no text and no gateway request,
    • `isGateway_of_plain`       — its message carries no marker,
    • `carries_of_plain`         — it travels as its bytes or as the list that was read,
    • `run_identity`             — a handler of the identity answers with the event.
-/
import EventEnvelope.Proofs.Handler.Result
import EventEnvelope.Proofs.Invocation.Payload

namespace EventEnvelope

/-! ## §1. Events that are no gateway requests. -/

/-- The event is JSON without doubles and surrogates, but no text, and nothing in it makes it a
gateway request: neither the field with the method nor a marker in its nested headers. -/
structure IsPlainEvent (event : Value) : Prop where
  exact : Json.Exact event
  notText : ∀ t, event ≠ .text t
  noMethod : ∀ fields : Fields, event = .object fields →
    fields.get? (.text Invocation.methodField) = none
  noMarker : ∀ fields nested : Fields, event = .object fields →
    fields.get? (.text Invocation.headersField) = some (.object nested) →
    nested.get? (.text Message.gatewayMarker) ≠ some (.bool true)

/-- What is no text is left to the codec. -/
theorem Handler.toBytes_eq_dumps {v : Value} (hv : Json.Exact v) (htext : ∀ t, v ≠ .text t) :
    Handler.toBytes v = Codec.dumps v := by
  cases hv with
  | text t _ => exact absurd rfl (htext t)
  | float x hx => exact hx.elim
  | null => rfl
  | bool b => rfl
  | int n _ => rfl
  | list items _ => rfl
  | object fields _ _ _ => rfl

/-- The runtime's event is written as JSON, from which it is read again. -/
theorem IsPlainEvent.toBytes_eq {event : Value} (h : IsPlainEvent event) :
    ∃ bytes, Handler.toBytes event = .ok bytes ∧ Codec.dumps event = .ok bytes
      ∧ Codec.loads (.bytes bytes) = .ok event := by
  obtain ⟨bytes, hdumps, hloads⟩ := Codec.loads_dumps h.exact
  exact ⟨bytes, (Handler.toBytes_eq_dumps h.exact h.notText).trans hdumps, hdumps, hloads⟩

namespace Invocation

/-! ## §2. The message of such an event. -/

theorem nestedHeader?_eq_some {shape : Shape} {key v : Value}
    (h : nestedHeader? shape key = some v) :
    ∃ fields nested : Fields, shape = .object fields
      ∧ fields.get? (.text headersField) = some (.object nested) ∧ nested.get? key = some v := by
  unfold nestedHeader? at h
  split at h
  next fields =>
    split at h
    next nested hnested => exact ⟨fields, nested, rfl, hnested, h⟩
    next => cases h
  next => cases h

/-- Without the shape of a gateway request and without a transport, only the nested headers can hold
the marker. -/
theorem headerAt?_gatewayMarker {call : Invocation} (hshape : isGatewayShape call.shape = false)
    (hheaders : call.headers = none) :
    call.headerAt? (.text Message.gatewayMarker)
      = nestedHeader? call.shape (.text Message.gatewayMarker) := by
  have hcontext :
      (Value.text Message.contextMarker == Value.text Message.gatewayMarker) = false := by
    rw [Value.text_beq_text]
    decide
  have hfield : fieldHeader? call.declared.unwrapMessage.admitsObject call.shape
      (.text Message.gatewayMarker) = none := by
    cases hcase : call.shape with
    | object fields =>
        rw [hcase] at hshape
        have hmethod : fields.contains (.text methodField) = false := hshape
        rw [fieldHeader?, hmethod]
        rfl
    | typed family => rfl
    | array items => rfl
    | raw v fault => rfl
  rw [headerAt?, markerAt?, hshape, hcontext, hheaders, hfield]
  simp

variable (call : Invocation) {event : Value}

/-- The shape of an event that is no gateway request. -/
theorem isGatewayShape_of_plain (hevent : IsPlainEvent event)
    (hloads : Codec.loads (.bytes call.payload) = .ok event)
    (hdeclared : ¬ call.declared.NamesEvent) : isGatewayShape call.shape = false := by
  rw [shape_of_not_namesEvent hdeclared, ofPayload_of_loads hloads]
  cases event with
  | object fields =>
      have hmethod := hevent.noMethod fields rfl
      show OrderedMap.contains fields (.text methodField) = false
      rw [OrderedMap.contains, hmethod]
      rfl
  | _ => rfl

/-- **The message of such an event carries no marker.** -/
theorem isGateway_of_plain {registry : Registry} {settings : Settings} {m : Message}
    (hevent : IsPlainEvent event) (hloads : Codec.loads (.bytes call.payload) = .ok event)
    (hdeclared : ¬ call.declared.NamesEvent) (hheaders : call.headers = none)
    (hresult : call.result registry settings = .ok m) : m.isGateway = false := by
  have hdistinct : OrderedMap.Distinct (call.headers.getD []) := by
    rw [hheaders]
    exact OrderedMap.distinct_nil
  have hmarker := get?_of_result hdistinct hresult (.text Message.gatewayMarker)
  rw [headerAt?_gatewayMarker (isGatewayShape_of_plain call hevent hloads hdeclared) hheaders,
    shape_of_not_namesEvent hdeclared, ofPayload_of_loads hloads] at hmarker
  have hne : m.headers.get? (.text Message.gatewayMarker) ≠ some (.bool true) := by
    rw [hmarker]
    intro htrue
    obtain ⟨fields, nested, hshape, hnested, hget⟩ := nestedHeader?_eq_some htrue
    refine hevent.noMarker fields nested ?_ hnested hget
    cases event with
    | object _ =>
        cases hshape
        rfl
    | _ => cases hshape
  unfold Message.isGateway Message.header?
  split
  next htrue => exact absurd htrue hne
  next => rfl

/-- The two ways in which an event travels: as its bytes, or as the list that they were read as. -/
inductive Carries (event : Value) (bytes : Bytes) : Value → Prop
  | bytes : Carries event bytes (.bytes bytes)
  | list (items : List Value) (h : event = .list items) : Carries event bytes (.list items)

/-- **The message of such an event carries it** in one of the two ways. -/
theorem carries_of_plain (registry : Registry) (settings : Settings) (hevent : IsPlainEvent event)
    (hloads : Codec.loads (.bytes call.payload) = .ok event)
    (hdeclared : ¬ call.declared.NamesEvent) (hheaders : call.headers = none) :
    ∃ m, call.result registry settings = .ok m ∧ Carries event call.payload m.payload := by
  -- a transport without headers has none that cannot be shown
  have hdelivers : ∀ {payload}, call.Promises settings payload →
      Delivers (call.result registry settings) payload :=
    delivers_of_promises registry hdeclared (hasShowableHeaders_of_none hheaders)
  have hbytes : call.Promises settings (.bytes call.payload) →
      ∃ m, call.result registry settings = .ok m ∧ Carries event call.payload m.payload := by
    intro h
    obtain ⟨m, hm, hpayload⟩ := hdelivers h
    refine ⟨m, hm, ?_⟩
    rw [hpayload]
    exact .bytes
  cases hevent.exact with
  | text t _ => exact absurd rfl (hevent.notText t)
  | float x hx => exact hx.elim
  | null => exact hbytes (.scalar _ hloads trivial)
  | bool b => exact hbytes (.scalar _ hloads trivial)
  | int n _ => exact hbytes (.scalar _ hloads trivial)
  | list items _ =>
      obtain ⟨m, hm, hpayload⟩ := hdelivers (.list items hloads)
      refine ⟨m, hm, ?_⟩
      rw [hpayload]
      exact .list items rfl
  | object fields _ _ _ =>
      exact hbytes (.plainObject fields hloads (hevent.noMethod fields rfl))

/-- Either way the payload is written as the bytes of the event. -/
theorem Carries.payloadBytes_eq {bytes : Bytes} {payload : Value} (h : Carries event bytes payload)
    (hdumps : Codec.dumps event = .ok bytes) : Response.payloadBytes payload = .ok bytes := by
  cases h with
  | bytes => rfl
  | list items hitems =>
      rw [hitems] at hdumps
      unfold Response.payloadBytes
      simp only [hdumps]

end Invocation

namespace Handler

/-! ## §3. The handler. -/

/-- A handler is put to work and called once. -/
def run (h : Handler) (registry : Registry) (event context : Value) : Adapter Value := do
  install h.settings
  h.call registry event context

theorem yields_run (h : Handler) (registry : Registry) (event context : Value) :
    Adapter.Yields (h.run registry event context)
      (installResult h.settings >>= fun _ => h.callResult registry event context) :=
  (yields_install h.settings).bind fun _ => yields_call h registry event context

/-- A handler of the function that returns its argument. -/
def identity (name : Text) (inputType outputType : DeclaredType) (settings : Settings) :
    Handler where
  function := .ok
  functionName := name
  inputType := inputType
  outputType := outputType
  settings := settings

/-- Sent back, a message is the response, and a payload becomes one. -/
theorem ofResult?_argument (h : Handler) {event : Value} {bytes : Bytes} {request : Message}
    (hcarries : Invocation.Carries event bytes request.payload) :
    ∃ response, Message.ofResult? (h.argument request) = .ok (some response)
      ∧ response.payload = request.payload := by
  unfold argument
  split
  · -- the whole message
    show ∃ response, (Message.of request.payload request.headers).map some = _ ∧ _
    rw [Message.of, dif_pos request.hasPayload]
    exact ⟨_, rfl, rfl⟩
  · cases hpayload : request.payload with
    | bytes b => exact ⟨⟨.bytes b, [], rfl⟩, rfl, rfl⟩
    | list items => exact ⟨⟨.list items, [], rfl⟩, rfl, rfl⟩
    | _ =>
        rw [hpayload] at hcarries
        cases hcarries

/-- **The bytes at the end are those at the start.** -/
theorem processResult_identity (name : Text) (inputType outputType : DeclaredType)
    (settings : Settings) (registry : Registry) (context : Value) {event : Value} {bytes : Bytes}
    (hevent : IsPlainEvent event) (hdumps : Codec.dumps event = .ok bytes)
    (hloads : Codec.loads (.bytes bytes) = .ok event) (htype : ¬ inputType.NamesEvent) :
    (identity name inputType outputType settings).processResult registry
      { payload := bytes, context } = .ok bytes := by
  obtain ⟨request, hrequest, hcarries⟩ := Invocation.carries_of_plain
    { payload := bytes, context, declared := inputType } registry settings hevent hloads htype rfl
  have hgateway := Invocation.isGateway_of_plain
    { payload := bytes, context, declared := inputType } hevent hloads htype rfl hrequest
  obtain ⟨response, hresponse, hpayload⟩ :=
    ofResult?_argument (identity name inputType outputType settings) hcarries
  have hbody : Response.bodyBytes (some response) = .ok bytes := by
    show Response.payloadBytes response.payload = _
    rw [hpayload]
    exact hcarries.payloadBytes_eq hdumps
  have hencode : Response.encodeResult settings request (some response) outputType = .ok bytes := by
    unfold Response.encodeResult
    -- the response is no envelope, whatever the output is declared as
    split
    · exact hbody
    · rw [hbody, ok_bind, hgateway]
      rfl
  show ((Invocation.result { payload := bytes, context, declared := inputType } registry settings)
    >>= fun request => _) = _
  rw [hrequest, ok_bind]
  show ((Message.ofResult? _) >>= fun response => _) = _
  rw [hresponse]
  exact hencode

/-- **A handler of the identity is transparent.**  Put to work with these settings, it answers an
event that is no gateway request with the event, whatever it is declared to return and whatever the
context is, if its input type names no event class; a message or its payload may be its argument.
Only a log level without a name keeps it from being put to work. -/
theorem run_identity (name : Text) (inputType outputType : DeclaredType) (settings : Settings)
    (registry : Registry) (event context : Value) (w : Workspace) (hevent : IsPlainEvent event)
    (htype : ¬ inputType.NamesEvent) :
    (((identity name inputType outputType settings).run registry event context).outcome w).1
      = match Level.ofName? settings.logLevel with
        | some _ => .ok event
        | none => .error (.unknownLevel settings.logLevel) := by
  rw [yields_run (identity name inputType outputType settings) registry event context w]
  show (installResult settings >>= fun _ => _) = _
  unfold installResult
  cases Level.ofName? settings.logLevel with
  | none => rfl
  | some level =>
      -- written, processed and read again
      obtain ⟨bytes, hbytes, hdumps, hloads⟩ := hevent.toBytes_eq
      rw [ok_bind, callResult, hbytes, ok_bind,
        processResult_identity name inputType outputType settings registry context hevent hdumps
          hloads htype, ok_bind, toRuntimeResponse, hloads]

/-- An order whose nested headers hold the marker's name, but not the marker. -/
def plainOrder : Value :=
  .object [(.text "id", .int 7), (.text "headers", .object [(.text "aws-api-gateway", .int 1)])]

theorem run_identity_plainOrder :
    IsPlainEvent plainOrder ∧ ¬ DeclaredType.NamesEvent (.message .objectOfAny)
      ∧ (((identity "fn" (.message .objectOfAny) .absent ⟨true, false, true, "WARN"⟩).run
          (.standard classTexts) plainOrder (.text "context")).outcome (.fresh .info)).1
        = .ok plainOrder := by
  have hheaders : Json.Exact (.object [(.text "aws-api-gateway", .int 1)]) := by
    refine .object _ ?_ (List.forall_mem_singleton.mpr ⟨_, rfl, by decide⟩)
      (List.forall_mem_singleton.mpr (.int 1 (by decide)))
    exact OrderedMap.distinct_cons.mpr ⟨by simp, OrderedMap.distinct_nil⟩
  have hexact : Json.Exact plainOrder := by
    refine .object _ ?_ ?_ ?_
    · exact OrderedMap.distinct_cons.mpr ⟨by decide, OrderedMap.distinct_cons.mpr
        ⟨by simp, OrderedMap.distinct_nil⟩⟩
    · exact List.forall_mem_cons.mpr ⟨⟨_, rfl, by decide⟩,
        List.forall_mem_singleton.mpr ⟨_, rfl, by decide⟩⟩
    · exact List.forall_mem_cons.mpr ⟨.int 7 (by decide), List.forall_mem_singleton.mpr hheaders⟩
  have hevent : IsPlainEvent plainOrder := by
    refine ⟨hexact, fun t h => ?_, fun fields h => ?_, fun fields nested h hnested => ?_⟩
    · cases h
    · cases h
      rfl
    · cases h
      cases hnested
      exact fun hmarker => nomatch hmarker
  have htype : ¬ DeclaredType.NamesEvent (.message .objectOfAny) := by
    rintro ⟨family, h | h⟩
    · cases h
    · cases h
  exact ⟨hevent, htype, run_identity _ _ _ _ _ _ _ _ hevent htype⟩

/-- The empty list is a plain event, and a level that is no level keeps the handler from working. -/
theorem run_unknownLevel :
    IsPlainEvent (.list []) ∧ ¬ DeclaredType.NamesEvent .absent
      ∧ (((identity "fn" .absent .absent ⟨true, false, true, "FOO"⟩).run (.standard classTexts)
          (.list []) .null).outcome (.fresh .info)).1 = .error (.unknownLevel "FOO") := by
  refine ⟨⟨.list [] (by simp), fun t h => ?_, fun fields h => ?_, fun fields nested h => ?_⟩,
    ?_, rfl⟩
  · cases h
  · cases h
  · cases h
  · rintro ⟨family, h | h⟩
    · cases h
    · cases h

end Handler

end EventEnvelope
