/-
  EventEnvelope.Proofs.Invocation.Leniency
  ────────────────────────────────────────
  **Lenient invocations extend strict ones, up to the line on the headers.**

  Whether payloads that are not JSON are let through is asked at one point only, where a payload
  that nobody has taken for an event could not be read.  A strict invocation ends there, and it is
  the only place where one ends with a payload that is not JSON: a decoder that says so has failed
  to decode.  So a lenient invocation turns these failures into messages with the bytes as they are,
  and comes to the same as a strict one in all other cases.  It gets one step further, though, to
  the line that puts the headers of the transport into words, and headers that cannot be shown let
  it fail there with a failure of its own.

    • `IsMalformed`              — the payload was read and is not JSON,
    • `isMalformed_of_parse`     — only an invocation of such a payload fails to parse,
    • `result_eq_of_readable`    — the settings have no influence on any other payload,
    • `Extends`                  — what one outcome should make of the other one,
    • `normalize_lenient`        — a lenient invocation extends the strict one, unless it is the
                                   first of the two to come to headers that cannot be shown.
-/
import EventEnvelope.Proofs.Invocation.Failures

namespace EventEnvelope

namespace Invocation

/-! ## §1. Payloads that are not JSON. -/

/-- The payload had to be read and is not JSON. -/
def IsMalformed (call : Invocation) : Prop := ∃ v fault, call.shape = .raw v (some fault)

/-- Nothing but the reader says that a payload is not JSON. -/
theorem isMalformed_of_parse {call : Invocation} {registry : Registry} {settings : Settings}
    (h : kindOf? (call.result registry settings) = some .parse) : call.IsMalformed := by
  obtain ⟨failure, hfailure, hkind⟩ := kindOf?_eq_some.mp h
  rcases bind_eq_error.mp hfailure with hparts | ⟨parts, -, hmessage⟩
  · rcases partsResult_eq_error hparts with ⟨family, -, hdecode⟩
      | ⟨fields, hshape, -, -, hbody⟩ | ⟨v, fault, hshape, -⟩
    · -- whatever a decoder fails with, it has failed to decode
      have hother : failure.kind ≠ .parse := by
        rcases Registry.decodeResult_error hdecode with h | h
        · simp [h]
        · simp [h]
      exact absurd hkind hother
    · have hother : failure.kind ≠ .parse := by
        rcases bodyBytes_error ((readable_shape hshape).getD_null _) hbody with h | ⟨t, -, -, h⟩
        · simp [h]
        · simp [h]
      exact absurd hkind hother
    · exact ⟨v, fault, hshape⟩
  · rw [kind_of_messageOf hmessage] at hkind
    cases hkind

/-- A strict invocation refuses such a payload. -/
theorem result_of_malformed {call : Invocation} (h : call.IsMalformed) (registry : Registry)
    (settings : Settings) (hstrict : settings.lenientParse = false) :
    kindOf? (call.result registry settings) = some .parse := by
  obtain ⟨v, fault, hshape⟩ := h
  unfold result
  rw [hshape, partsResult, hstrict]
  rfl

/-- A lenient one takes its bytes as they are. -/
theorem result_of_malformed_lenient {call : Invocation} (h : call.IsMalformed)
    (registry : Registry) (settings : Settings) (hlenient : settings.lenientParse = true) :
    call.result registry settings = call.messageOf { body := .bytes call.payload } := by
  obtain ⟨v, fault, hshape⟩ := h
  unfold result
  rw [hshape, partsResult, hlenient]
  rfl

/-- They become a message if the headers can be shown; only the transport and the context bring
headers. -/
theorem messageOf_bytes {call : Invocation} (hshow : call.HasShowableHeaders)
    (hheaders : OrderedMap.Distinct (call.headers.getD [])) :
    ∃ m, call.messageOf { body := .bytes call.payload } = .ok m
      ∧ m.payload = .bytes call.payload
      ∧ m.headers = (call.headers.getD []).overlay (contextMarkers call.context) := by
  refine ⟨⟨.bytes call.payload, _, rfl⟩, messageOf_of_showable hshow _, rfl, ?_⟩
  -- there is one source, and no marker but that of the context
  have hmarkers :
      OrderedMap.ofEntries (contextMarkers call.context) = contextMarkers call.context :=
    OrderedMap.ofEntries_of_distinct (distinct_contextMarkers call.context)
  show OrderedMap.merge [call.headers] (some (OrderedMap.ofEntries _)) = _
  rw [hmarkers, OrderedMap.merge_singleton _ hheaders]

/-- **The settings have no influence on any other payload.** -/
theorem result_eq_of_readable {call : Invocation} (h : ¬ call.IsMalformed) (registry : Registry)
    (settings others : Settings) :
    call.result registry settings = call.result registry others := by
  unfold result
  cases hshape : call.shape with
  | typed family => rfl
  | object fields => rfl
  | array items => rfl
  | raw v fault? =>
      cases fault? with
      | none => rfl
      | some fault => exact absurd ⟨v, fault, hshape⟩ h

/-! ## §2. Two runs. -/

/-- How a lenient outcome extends a strict one. -/
structure Extends (call : Invocation) (strict lenient : Except Failure Message) : Prop where
  /-- A message stays the same. -/
  message : ∀ m, strict = .ok m → lenient = .ok m
  /-- A payload that is not JSON becomes the payload of a message, whose headers are those of the
  transport with the marker of the context written over them. -/
  malformed : kindOf? strict = some .parse →
    ∃ m, lenient = .ok m ∧ m.payload = .bytes call.payload
      ∧ m.headers = (call.headers.getD []).overlay (contextMarkers call.context)
  /-- Any other failure stays the same. -/
  failure : ∀ failure, strict = .error failure → failure.kind ≠ .parse → lenient = .error failure

/-- A lenient invocation of a payload that is not JSON extends the strict one if the headers of the
transport can be shown, and only then. -/
theorem extends_of_malformed {call : Invocation} (hmalformed : call.IsMalformed)
    (registry : Registry) (settings : Settings)
    (hheaders : OrderedMap.Distinct (call.headers.getD [])) :
    Extends call (call.result registry { settings with lenientParse := false })
        (call.result registry { settings with lenientParse := true })
      ↔ call.HasShowableHeaders := by
  have hstrict := result_of_malformed hmalformed registry
    { settings with lenientParse := false } rfl
  rw [result_of_malformed_lenient hmalformed registry { settings with lenientParse := true } rfl]
  constructor
  · intro hextends
    obtain ⟨m, hm, -⟩ := hextends.malformed hstrict
    exact (messageOf_eq_ok hm).1
  · intro hshow
    obtain ⟨failure, hfailure, hkind⟩ := kindOf?_eq_some.mp hstrict
    -- the strict call fails to parse, so the other two cases cannot arise
    refine ⟨fun m hm => ?_, fun _ => messageOf_bytes hshow hheaders, fun other hother hne => ?_⟩
    · rw [hm] at hfailure
      cases hfailure
    · rw [hfailure] at hother
      cases hother
      exact absurd hkind hne

/-- Both invocations of any other payload come to the same, which is no failure to parse. -/
theorem extends_of_readable {call : Invocation} (hreadable : ¬ call.IsMalformed)
    (registry : Registry) (settings : Settings) :
    Extends call (call.result registry { settings with lenientParse := false })
      (call.result registry { settings with lenientParse := true }) := by
  have hsame := result_eq_of_readable hreadable registry
    { settings with lenientParse := false } { settings with lenientParse := true }
  refine ⟨fun m hm => ?_, fun hparse => ?_, fun other hother _ => ?_⟩
  · rw [← hsame, hm]
  · exact absurd (isMalformed_of_parse hparse) hreadable
  · rw [← hsame, hother]

/-- **Lenient invocations extend strict ones**, whatever the payload, the declared type, the
decoders, the other settings and the codec are, unless the payload is not JSON and the headers of
the transport cannot be shown.  In that case the lenient invocation fails at the headers. -/
theorem normalize_lenient (call : Invocation) (registry : Registry) (settings : Settings)
    (w : Workspace) (hheaders : ∀ headers, call.headers = some headers → headers.Distinct) :
    let outcome := fun lenient =>
      ((call.normalize registry { settings with lenientParse := lenient }).outcome w).1
    (Extends call (outcome false) (outcome true)
        ↔ (kindOf? (outcome false) = some .parse → call.HasShowableHeaders))
      ∧ (kindOf? (outcome false) = some .parse → ¬ call.HasShowableHeaders →
          outcome true = .error .integerTooLong) := by
  simp only [yields_normalize call registry _ w]
  by_cases hmalformed : call.IsMalformed
  · have hstrict := result_of_malformed hmalformed registry
      { settings with lenientParse := false } rfl
    constructor
    · rw [extends_of_malformed hmalformed registry settings (OrderedMap.distinct_getD hheaders)]
      exact ⟨fun hshow _ => hshow, fun h => h hstrict⟩
    · intro _ hshow
      rw [result_of_malformed_lenient hmalformed registry
        { settings with lenientParse := true } rfl]
      exact messageOf_of_unshowable hshow _
  · have hparse : kindOf? (call.result registry { settings with lenientParse := false })
        ≠ some .parse := fun h => hmalformed (isMalformed_of_parse h)
    exact ⟨⟨fun _ h => absurd h hparse, fun _ => extends_of_readable hmalformed registry settings⟩,
      fun h => absurd h hparse⟩

/-- An object that breaks off, with a header that looks like the marker of a context. -/
def brokenOff : Invocation where
  payload := (Text.ofString "\x7b\"id\":").flatMap Utf8.bytesOf
  headers := some [(.text "trace", .int 1), (.text Message.contextMarker, .text "forged")]
  declared := .objectOfAny
  context := .text "context"

theorem normalize_lenient_brokenOff :
    let outcome := fun lenient =>
      ((brokenOff.normalize (.standard classTexts) { lenientParse := lenient }).outcome
        (.fresh .info)).1
    (∀ headers, brokenOff.headers = some headers → headers.Distinct)
      ∧ kindOf? (outcome false) = some .parse
      ∧ ∃ m, outcome true = .ok m ∧ m.payload = .bytes brokenOff.payload
          ∧ m.headers
              = [(.text "trace", .int 1), (.text Message.contextMarker, .text "context")] := by
  intro outcome
  have hheaders : ∀ headers, brokenOff.headers = some headers → headers.Distinct := by
    intro headers hsome
    cases hsome
    exact OrderedMap.distinct_cons.mpr ⟨by decide, OrderedMap.distinct_cons.mpr
      ⟨by simp, OrderedMap.distinct_nil⟩⟩
  have hparse : kindOf? (outcome false) = some .parse := by decide +kernel
  have hshow : brokenOff.HasShowableHeaders := hasShowableHeaders_iff.mpr (by decide +kernel)
  obtain ⟨hextends, -⟩ :=
    normalize_lenient brokenOff (.standard classTexts) {} (.fresh .info) hheaders
  obtain ⟨m, hm, hpayload, hmap⟩ := (hextends.mpr fun _ => hshow).malformed hparse
  exact ⟨hheaders, hparse, m, hm, hpayload, hmap⟩

/-- The strict invocation says that the payload is not JSON, the lenient one trips over a header
with one digit too many. -/
theorem normalize_brokenOff_longHeader :
    let call := { brokenOff with headers := some longHeader }
    let outcome := fun lenient =>
      ((call.normalize (.standard classTexts) { lenientParse := lenient }).outcome (.fresh .info)).1
    kindOf? (outcome false) = some .parse ∧ outcome true = .error .integerTooLong
      ∧ ¬ Extends call (outcome false) (outcome true) := by
  intro call outcome
  have hmalformed : call.IsMalformed := by
    -- the headers have no part in it
    have hparse : kindOf? (brokenOff.result .empty {}) = some .parse := by decide +kernel
    obtain ⟨v, fault, hshape⟩ := isMalformed_of_parse hparse
    exact ⟨v, fault, hshape⟩
  have hstrict : kindOf? (outcome false) = some .parse := by
    show kindOf? ((call.normalize _ _).outcome _).1 = _
    rw [yields_normalize call _ _ _]
    exact result_of_malformed hmalformed _ _ rfl
  have hlenient : outcome true = .error .integerTooLong := by
    show ((call.normalize _ _).outcome _).1 = _
    rw [yields_normalize call _ _ _, result_of_malformed_lenient hmalformed _ _ rfl]
    exact messageOf_of_unshowable (not_hasShowableHeaders_of_longHeader rfl) _
  refine ⟨hstrict, hlenient, fun hextends => ?_⟩
  obtain ⟨m, hm, -⟩ := hextends.malformed hstrict
  rw [hlenient] at hm
  cases hm

end Invocation

end EventEnvelope
