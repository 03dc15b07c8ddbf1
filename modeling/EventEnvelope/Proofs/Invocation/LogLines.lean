/-
  EventEnvelope.Proofs.Invocation.LogLines
  ────────────────────────────────────────
  **What an invocation writes to the journal.**

  The lines of an invocation that succeeds are known beforehand, stage by stage: they are computed
  from the invocation, its settings and the codec that it finds.  Of the payload itself only the
  kind of its shape and the mark of a gateway are among them, and what was wrong with a payload
  that is no JSON; the rest is there only if payloads are to be logged.  So two payloads that look
  alike leave the same journal.

    • `Adapter.Writes`                  — the lines that a computation writes if it succeeds,
    • `Invocation.lines`                — the lines of an invocation,
    • `Invocation.writes_normalize`     — an invocation writes them and nothing else,
    • `Invocation.journal_of_looksLike` — what the journal does not tell apart.
-/
import EventEnvelope.Proofs.Codec.Configuration
import EventEnvelope.Proofs.Invocation.Result

namespace EventEnvelope

/-! ## §1. The lines that a computation writes. -/

namespace Journal

/-- Write lines one by one. -/
def writeAll (j : Journal) (lines : List LogLine) : Journal := lines.foldl write j

theorem writeAll_append (j : Journal) (first second : List LogLine) :
    j.writeAll (first ++ second) = (j.writeAll first).writeAll second :=
  List.foldl_append

end Journal

namespace Adapter

variable {α β : Type}

/-- If it succeeds, the computation writes these lines, which may depend on the codec that it
finds. -/
def Writes (x : Adapter α) (lines : Codec → List LogLine) : Prop :=
  ∀ (w : Workspace) (a : α), (x.outcome w).1 = .ok a →
    (x.outcome w).2.journal = w.journal.writeAll (lines w.codec)

/-- The computation writes the same lines whatever the codec is. -/
abbrev WritesAlways (x : Adapter α) (lines : List LogLine) : Prop := Writes x fun _ => lines

theorem writes_pure (a : α) : WritesAlways (pure a : Adapter α) [] := fun _ _ _ => rfl

/-- A failure promises nothing. -/
theorem writes_throw (failure : Failure) (lines : Codec → List LogLine) :
    Writes (throw failure : Adapter α) lines := fun _ _ h => nomatch h

theorem writes_ofExcept (r : Except Failure α) : WritesAlways (ofExcept r) [] := by
  cases r with
  | ok a => exact writes_pure a
  | error failure => exact writes_throw failure _

/-- A line comes before the lines of what follows. -/
theorem Writes.after_log {y : Adapter β} {lines : Codec → List LogLine} (hy : Writes y lines)
    (level : Level) (source : LogSource) (text : Text) :
    Writes (log level source text >>= fun _ => y) fun c => ⟨level, source, text⟩ :: lines c :=
  fun w b hb => hy { w with journal := w.journal.write ⟨level, source, text⟩ } b hb

/-- **Lines add up in sequence**; what follows a step has to be known only for the results that the
step can have. -/
theorem Writes.bind {x : Adapter α} {y : α → Adapter β} {first : Codec → List LogLine}
    {second : List LogLine} (hx : Writes x first)
    (hy : ∀ a, (∃ w, (x.outcome w).1 = .ok a) → WritesAlways (y a) second) :
    Writes (x >>= y) fun c => first c ++ second := by
  intro w b hb
  rw [outcome_bind] at hb ⊢
  cases hout : outcome x w with
  | mk result w' =>
      rw [hout] at hb
      cases result with
      | error failure => cases hb
      | ok a =>
          have hfirst : w'.journal = w.journal.writeAll (first w.codec) := by
            have hleft := hx w a (by rw [hout])
            rwa [hout] at hleft
          have hsecond := hy a ⟨w, by rw [hout]⟩ w' b hb
          rwa [hfirst, ← Journal.writeAll_append] at hsecond

/-- A step that is computed without any state adds no line of its own. -/
theorem WritesAlways.after_ofExcept {r : Except Failure α} {y : α → Adapter β}
    {lines : List LogLine} (hy : ∀ a, r = .ok a → WritesAlways (y a) lines) :
    WritesAlways (ofExcept r >>= y) lines :=
  (writes_ofExcept r).bind fun a ⟨w, ha⟩ => hy a ((yields_ofExcept r w).symm.trans ha)

end Adapter

open Adapter

/-! ## §2. The lines of the stages. -/

namespace Codec

/-- Configuring a codec is noted unless it is configured already. -/
def configurationLines (c : Codec) : List LogLine :=
  if c.isConfigured then []
  else [⟨.debug, .codec, "JSON codec configured with modules " ++ shownNames c.applied.modules⟩]

theorem writes_ensureConfigured : Writes ensureConfigured configurationLines := by
  intro w _ _
  have houtcome := outcome_ensureConfiguredAmid (yields_pure ()) w
  unfold ensureConfigured configurationLines
  rw [houtcome]
  split
  next => rfl
  next hflag =>
    show (configureLocked.outcome w).2.journal = _
    rw [outcome_configureLocked, if_neg hflag]
    rfl

end Codec

namespace Registry

/-- Decoding is noted with the family and the class, once there is a decoder. -/
def decodingLines (declared : DeclaredType) : List LogLine :=
  match declared.rawClass?, declared.family? with
  | some cls, some family =>
      [⟨.debug, .registry, "Decoding " ++ family.name ++ " event as " ++ cls.name⟩]
  | _, _ => []

theorem writes_decode (registry : Registry) (declared : DeclaredType) (payload : Bytes) :
    WritesAlways (registry.decode declared payload) (decodingLines declared) := by
  unfold decode decodingLines
  cases declared.rawClass? with
  | none => exact writes_throw _ _
  | some cls =>
      cases declared.family? with
      | none => exact writes_throw _ _
      | some family =>
          exact WritesAlways.after_ofExcept fun decoder _ => (writes_ofExcept _).after_log _ _ _

end Registry

namespace Invocation

/-- The note that a request came through a gateway. -/
def gatewayLine : LogLine := ⟨.info, .normalizer, "Incoming request is API Gateway"⟩

/-- The lines on the way to the shape. -/
def shapeLines (declared : DeclaredType) (c : Codec) : List LogLine :=
  if (Shape.ofDeclared? declared).isSome then [] else c.configurationLines

/-- The lines on the way to the parts. -/
def partsLines (declared : DeclaredType) : Shape → List LogLine
  | .typed family =>
      Registry.decodingLines declared ++ if family.isGatewayRequest then [gatewayLine] else []
  | .object fields => if fields.contains (.text methodField) then [gatewayLine] else []
  | .array _ => []
  | .raw _ none => []
  | .raw _ (some fault) =>
      [⟨.warning, .normalizer,
        "Payload is not valid JSON, passing raw bytes through: " ++ fault.message⟩]

theorem writes_shapeOf (declared : DeclaredType) (payload : Bytes) :
    Writes (shapeOf declared payload) (shapeLines declared) := by
  unfold shapeOf shapeLines
  cases Shape.ofDeclared? declared with
  | some shape => exact writes_pure shape
  | none =>
      have hlines := Codec.writes_ensureConfigured.bind fun _ _ =>
        writes_pure (Shape.classify declared payload)
      simp only [List.append_nil] at hlines
      exact hlines

theorem writes_partsOf (registry : Registry) (settings : Settings) (declared : DeclaredType)
    (payload : Bytes) (shape : Shape) :
    WritesAlways (partsOf registry settings declared payload shape)
      (partsLines declared shape) := by
  cases shape with
  | typed family =>
      refine (Registry.writes_decode registry declared payload).bind fun event _ => ?_
      split
      · exact (writes_pure _).after_log _ _ _
      · exact writes_pure _
  | object fields =>
      simp only [partsOf, objectParts, partsLines]
      split
      · exact WritesAlways.after_ofExcept fun parts _ => (writes_pure _).after_log _ _ _
      · exact writes_pure _
  | array items => exact writes_pure _
  | raw v fault =>
      cases fault with
      | none => exact writes_pure _
      | some fault =>
          simp only [partsOf, rawParts]
          split
          · exact (writes_pure _).after_log _ _ _
          · exact writes_throw _ _

/-! ## §3. The lines of an invocation. -/

/-- The line on the headers of the transport. -/
def headersLines (call : Invocation) : List LogLine :=
  match call.headersText with
  | .ok text => [⟨.info, .normalizer, "Incoming request headers: " ++ text⟩]
  | .error _ => []

/-- The lines of an invocation that succeeds. -/
def lines (call : Invocation) (settings : Settings) (c : Codec) : List LogLine :=
  (if settings.logPayloads then
      [⟨.info, .normalizer, "Incoming JSON Event: " ++ Utf8.decodeReplacing call.payload⟩]
    else [])
    ++ (shapeLines call.declared.unwrapMessage c
      ++ ⟨.info, .normalizer, "Detected payload shape: " ++ call.shape.kindName⟩
        :: (partsLines call.declared.unwrapMessage call.shape ++ call.headersLines))

theorem writes_headers (call : Invocation) (parts : Parts) :
    WritesAlways (do
      let text ← Adapter.ofExcept call.headersText
      Adapter.log .info .normalizer ("Incoming request headers: " ++ text)
      Adapter.ofExcept (Message.of parts.body (call.headersOf parts))) call.headersLines := by
  refine WritesAlways.after_ofExcept fun text htext => ?_
  unfold headersLines
  rw [htext]
  exact (writes_ofExcept _).after_log _ _ _

/-- **An invocation that succeeds writes its lines and nothing else.** -/
theorem writes_normalize (call : Invocation) (registry : Registry) (settings : Settings) :
    Writes (call.normalize registry settings) (call.lines settings) := by
  have hmain := (writes_shapeOf call.declared.unwrapMessage call.payload).bind
    (y := fun shape => do
      Adapter.log .info .normalizer ("Detected payload shape: " ++ shape.kindName)
      let parts ← partsOf registry settings call.declared.unwrapMessage call.payload shape
      let text ← Adapter.ofExcept call.headersText
      Adapter.log .info .normalizer ("Incoming request headers: " ++ text)
      Adapter.ofExcept (Message.of parts.body (call.headersOf parts))) (by
    -- there is one shape that the first step can have as its result
    rintro shape ⟨w, hshape⟩
    rw [yields_shapeOf] at hshape
    cases hshape
    exact ((writes_partsOf registry settings call.declared.unwrapMessage call.payload
      call.shape).bind fun parts _ => call.writes_headers parts).after_log _ _ _)
  unfold normalize lines
  split
  · exact hmain.after_log _ _ _
  · exact hmain

end Invocation

/-! ## §4. What the journal does not tell apart. -/

namespace Shape

/-- Two shapes of one kind; of two objects both or none have the field of gateway requests. -/
structure LooksLike (s t : Shape) : Prop where
  kind : s.kindName = t.kindName
  gateway : ∀ fields others, s = .object fields → t = .object others →
    fields.contains (.text Invocation.methodField) = others.contains (.text Invocation.methodField)

theorem LooksLike.symm {s t : Shape} (h : s.LooksLike t) : t.LooksLike s :=
  ⟨h.kind.symm, fun fields others hs ht => (h.gateway others fields ht hs).symm⟩

/-- The kind of objects has a name of its own. -/
theorem exists_object {fields : Fields} {s : Shape} (h : (object fields).kindName = s.kindName) :
    ∃ others, s = object others := by
  have hname : Text.ofString "generic_json_object" = s.kindName := h
  cases s with
  | object others => exact ⟨others, rfl⟩
  | typed family => exact absurd hname (by simp only [kindName]; decide)
  | array items => exact absurd hname (by simp only [kindName]; decide)
  | raw v fault => exact absurd hname (by simp only [kindName]; decide)

end Shape

namespace Invocation

/-- The same invocation with another payload. -/
def withPayload (call : Invocation) (payload : Bytes) : Invocation := { call with payload }

/-- The shape of a payload that is JSON: what the declared type says, or else what was read. -/
theorem shape_of_loads {call : Invocation} {v : Value}
    (hjson : Codec.loads (.bytes call.payload) = .ok v) :
    call.shape = (Shape.ofDeclared? call.declared.unwrapMessage).getD (.ofValue v) := by
  rw [shape, Shape.classify, Shape.ofPayload, hjson]

/-- Of a shape that was read without a fault the gateway's note is all that is logged here. -/
theorem partsLines_of_read {declared : DeclaredType} {s : Shape} (hfamily : s.family? = none)
    (hread : s.fault? = none) :
    partsLines declared s = if isGatewayShape s then [gatewayLine] else [] := by
  cases s with
  | typed family => cases hfamily
  | object fields => rfl
  | array items => rfl
  | raw v fault =>
      cases hread
      rfl

/-- Apart from events, a shape that looks like one from a gateway is one. -/
theorem isGatewayShape_of_looksLike {s t : Shape} (hfamily : s.family? = none)
    (hlooks : s.LooksLike t) (hgateway : isGatewayShape s = true) : isGatewayShape t = true := by
  cases s with
  | typed family => cases hfamily
  | object fields =>
      obtain ⟨others, rfl⟩ := Shape.exists_object hlooks.kind
      exact (hlooks.gateway fields others rfl rfl).symm.trans hgateway
  | array items => cases hgateway
  | raw v fault => cases hgateway

theorem family?_ofValue (v : Value) : (Shape.ofValue v).family? = none := by
  cases v <;> rfl

theorem fault?_ofValue (v : Value) : (Shape.ofValue v).fault? = none := by
  cases v <;> rfl

/-- Values that were read are logged by what they look like. -/
theorem partsLines_ofValue {declared : DeclaredType} {v u : Value}
    (hlooks : (Shape.ofValue v).LooksLike (.ofValue u)) :
    partsLines declared (.ofValue v) = partsLines declared (.ofValue u) := by
  have hgateway : isGatewayShape (.ofValue v) = isGatewayShape (.ofValue u) :=
    Bool.eq_iff_iff.mpr
      ⟨isGatewayShape_of_looksLike (family?_ofValue v) hlooks,
        isGatewayShape_of_looksLike (family?_ofValue u) hlooks.symm⟩
  rw [partsLines_of_read (family?_ofValue v) (fault?_ofValue v),
    partsLines_of_read (family?_ofValue u) (fault?_ofValue u), hgateway]

/-- **Payloads that look alike leave the same journal.**  Payloads are not to be logged, both are
JSON, and their shapes are of one kind; of two objects both or none have the field of gateway
requests.  Then the two invocations, if they succeed, write the same lines at every level. -/
theorem journal_of_looksLike (call : Invocation) (other : Bytes) (registry : Registry)
    (settings : Settings) (w : Workspace) (hquiet : settings.logPayloads = false)
    (hjson : ∃ v, Codec.loads (.bytes call.payload) = .ok v)
    (hotherJson : ∃ v, Codec.loads (.bytes other) = .ok v)
    (hlooks : call.shape.LooksLike (call.withPayload other).shape)
    (hsucceeds : ∃ m, ((call.normalize registry settings).outcome w).1 = .ok m)
    (hotherSucceeds :
      ∃ m, (((call.withPayload other).normalize registry settings).outcome w).1 = .ok m) :
    ((call.normalize registry settings).outcome w).2.journal
      = (((call.withPayload other).normalize registry settings).outcome w).2.journal := by
  obtain ⟨v, hv⟩ := hjson
  obtain ⟨u, hu⟩ := hotherJson
  obtain ⟨m, hm⟩ := hsucceeds
  obtain ⟨m', hm'⟩ := hotherSucceeds
  rw [writes_normalize call registry settings w m hm,
    writes_normalize (call.withPayload other) registry settings w m' hm']
  have hshape := shape_of_loads hv
  have hotherShape : (call.withPayload other).shape
      = (Shape.ofDeclared? call.declared.unwrapMessage).getD (.ofValue u) := shape_of_loads hu
  have hparts : partsLines call.declared.unwrapMessage call.shape
      = partsLines call.declared.unwrapMessage (call.withPayload other).shape := by
    -- a declared event class fixes the shape, any other type leaves it to what was read
    cases hdeclared : Shape.ofDeclared? call.declared.unwrapMessage with
    | some shape => rw [hshape, hotherShape, hdeclared, Option.getD_some, Option.getD_some]
    | none =>
        rw [hshape, hotherShape, hdeclared, Option.getD_none, Option.getD_none] at hlooks
        rw [hshape, hotherShape, hdeclared]
        exact partsLines_ofValue hlooks
  unfold lines
  rw [hquiet, hparts, hlooks.kind]
  rfl

/-- An order that came through a gateway, with a text and a secret among its fields. -/
def secretOrder : Invocation where
  payload := (Text.ofString "\x7b\"httpMethod\":\"PUT\",\"body\":\"4111\",\"pin\":1\x7d").flatMap
    Utf8.bytesOf

/-- Another one with neither. -/
def emptyOrder : Bytes := (Text.ofString "\x7b\"httpMethod\":0\x7d").flatMap Utf8.bytesOf

/-- Payloads are not to be logged. -/
def quiet : Settings := { logPayloads := false }

/-- Nothing of the first order's content is in the journal that both leave. -/
theorem journal_of_looksLike_orders :
    secretOrder.payload ≠ emptyOrder
      ∧ secretOrder.shape.LooksLike (secretOrder.withPayload emptyOrder).shape
      ∧ ((secretOrder.normalize (.standard classTexts) quiet).outcome (.fresh .notSet)).2.journal
        = (((secretOrder.withPayload emptyOrder).normalize (.standard classTexts) quiet).outcome
            (.fresh .notSet)).2.journal := by
  have hlooks : secretOrder.shape.LooksLike (secretOrder.withPayload emptyOrder).shape := by
    refine ⟨by decide +kernel, fun fields others hfields hothers => ?_⟩
    have hgateway : isGatewayShape secretOrder.shape
        = isGatewayShape (secretOrder.withPayload emptyOrder).shape := by
      decide +kernel
    rwa [hfields, hothers] at hgateway
  have hjournal := journal_of_looksLike secretOrder emptyOrder (.standard classTexts) quiet
    (.fresh .notSet) rfl (exists_of_toBool (by decide +kernel))
    (exists_of_toBool (by decide +kernel)) hlooks (exists_of_toBool (by decide +kernel))
    (exists_of_toBool (by decide +kernel))
  exact ⟨by decide +kernel, hlooks, hjournal⟩

end Invocation

end EventEnvelope
