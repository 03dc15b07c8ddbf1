/-
  EventEnvelope.Proofs.Response.Envelope
  ──────────────────────────────────────
  **What a gateway is told, read back from the bytes.**

  A response with bytes as payload always has an envelope, provided that its status code is a number
  and its headers have texts without surrogates.  Bytes are read with replacement, so the body
  never holds a surrogate; then the whole envelope is a tree that survives the way through bytes,
  and reading the answer gives the envelope back.

    • `HasStatus`               — the status code that a header map carries,
    • `expectedEnvelope`        — the envelope, from the settings, the request and the response,
    • `exact_expectedEnvelope`  — it survives the way through bytes,
    • `loads_encode`            — the bytes that answer the request are read as that envelope.
-/
import EventEnvelope.Proofs.Json.Reading
import EventEnvelope.Proofs.Json.RoundTrip
import EventEnvelope.Proofs.Number.Magnitude
import EventEnvelope.Proofs.Response.Result
import EventEnvelope.Proofs.Text.Numerals

namespace EventEnvelope

namespace Response

/-! ## §1. What the envelope should be. -/

/-- The header value is this status code: an integer within the digit limit, a registered status, or
a text of ASCII digits within the limit. -/
inductive Codes : Value → Int → Prop
  | int (n : Int) (hlimit : (Text.ofNat n.natAbs).length ≤ digitLimit) : Codes (.int n) n
  | status (s : HttpStatus) (hs : s ∈ HttpStatus.registered) : Codes (.status s) s.code
  | digits (t : Text) (hne : t ≠ []) (hdigits : ∀ c ∈ t, c.digitValue? ≠ none)
      (hlimit : t.length ≤ digitLimit) :
      Codes (.text t) (natOfDigits (t.filterMap CodePoint.digitValue?))

/-- The status code of a response, given by its headers: 200 unless a header says otherwise. -/
inductive HasStatus (headers : Option Fields) : Int → Prop
  | absent (h : headers.bind (·.get? (.text statusHeader)) = none) : HasStatus headers 200
  | header (v : Value) (n : Int) (h : headers.bind (·.get? (.text statusHeader)) = some v)
      (hv : Codes v n) : HasStatus headers n

/-- The names of the headers that are not copied. -/
def reservedNames : List Text := [statusHeader, Message.gatewayMarker, Message.contextMarker]

/-- A header map whose keys are texts, each of them once.  Of the headers that are copied the value
has a text, and neither it nor the name holds half of a surrogate pair. -/
structure PlainHeaders (headers : Fields) : Prop where
  distinct : headers.Distinct
  keys : ∀ e ∈ headers, ∃ t, e.1 = .text t
  names : ∀ t v, (.text t, v) ∈ headers → t ∉ reservedNames → t.hasSurrogate = false
  values : ∀ t v, (.text t, v) ∈ headers → t ∉ reservedNames →
    ∃ text, v.display? = some text ∧ text.hasSurrogate = false

/-- A message with bytes as payload. -/
def ofBytes (response : Bytes × Fields) : Message := ⟨.bytes response.1, response.2, rfl⟩

/-- The body, with replacement for what is no UTF-8 and without double quotes if the settings say
so; the default is left as it is. -/
def expectedBody (settings : Settings) : Option Bytes → Text
  | none => "\"OK\""
  | some b =>
      if settings.stripBodyQuotes then (Utf8.decodeReplacing b).filter (· ≠ CodePoint.ofChar '"')
      else Utf8.decodeReplacing b

/-- The copied headers, each value as text, in their order. -/
def expectedHeaders (headers : Fields) : Fields :=
  headers.filterMap fun e =>
    if reservedNames.any (fun t => e.1 == .text t) then none else some (e.1, .text (headerText e.2))

/-- The description of the status, for requests out of a stream only. -/
def expectedDescription (request : Message) (n : Int) : Option Text :=
  if isStreamRequest request then
    (HttpStatus.ofCode? n).map fun s => Text.ofInt n ++ " " ++ s.name
  else none

/-- The envelope of a response with status `n`. -/
def expectedEnvelope (settings : Settings) (request : Message) (response : Option (Bytes × Fields))
    (n : Int) : Fields :=
  envelopeFields n (expectedDescription request n) (expectedBody settings (response.map (·.1)))
    (response.map fun r => expectedHeaders r.2)

/-! ## §2. Status codes. -/

/-- An ASCII digit is a decimal digit with the same value. -/
theorem decimalValue?_of_digitValue? {c : CodePoint} {d : Nat} (h : c.digitValue? = some d) :
    c.decimalValue? = some d := by
  unfold CodePoint.digitValue? at h
  split at h
  next hrange =>
    cases h
    -- the ASCII digits are the first run of the table
    have hfind : decimalZeros.find?
        (fun start => decide (start ≤ c.toNat) && decide (c.toNat ≤ start + 9)) = some 0x30 := by
      rw [decimalZeros, List.find?_cons_of_pos]
      simp only [Bool.and_eq_true, decide_eq_true_eq]
      omega
    rw [CodePoint.decimalValue?, hfind]
    rfl
  next => cases h

theorem filterMap_decimalValue? {t : Text} (h : ∀ c ∈ t, c.digitValue? ≠ none) :
    t.filterMap CodePoint.decimalValue? = t.filterMap CodePoint.digitValue? := by
  refine List.filterMap_congr fun c hc => ?_
  obtain ⟨d, hd⟩ := Option.ne_none_iff_exists'.mp (h c hc)
  rw [hd, decimalValue?_of_digitValue? hd]

/-- The header value is read as the code that it is. -/
theorem statusCodeOf_of_codes {v : Value} {n : Int} (h : Codes v n) : statusCodeOf v = .ok n := by
  cases h with
  | int n _ => rfl
  | status s _ => rfl
  | digits t hne hdigits hlimit =>
      have hdecimal : ∀ c ∈ t, c.decimalValue? ≠ none := by
        intro c hc
        obtain ⟨d, hd⟩ := Option.ne_none_iff_exists'.mp (hdigits c hc)
        rw [decimalValue?_of_digitValue? hd]
        exact Option.some_ne_none d
      have htext := Text.isDigits_of_decimal hne hdecimal
      have hwide : ∀ c ∈ t, c.isDigit = true :=
        List.all_eq_true.mp (Bool.and_eq_true_iff.mp htext).2
      rw [statusCodeOf, Text.strip_of_isDigit hwide, if_pos htext,
        Numeral.read_decimal (Numeral.readSign_of_isDigits htext) htext hdecimal,
        if_neg (by omega), filterMap_decimalValue? hdigits]
      rfl

/-- The code of a response is a number within the digit limit. -/
theorem length_le_of_codes {v : Value} {n : Int} (h : Codes v n) :
    (Text.ofNat n.natAbs).length ≤ digitLimit := by
  cases h with
  | int n hlimit => exact hlimit
  | status s hs =>
      have hregistered : ∀ s ∈ HttpStatus.registered, s.code < 1000 := by decide
      have hcode := hregistered s hs
      rw [Int.natAbs_natCast]
      have hthree : (Text.ofNat s.code).length ≤ 3 :=
        (Text.length_ofNat_le (by omega)).mpr hcode
      exact Nat.le_trans hthree (by decide)
  | digits t hne hdigits hlimit =>
      -- a number spelled by so many digits has no more digits itself
      have hlength : (t.filterMap CodePoint.digitValue?).length ≤ t.length :=
        List.length_filterMap_le _ _
      have hlt : ∀ d ∈ t.filterMap CodePoint.digitValue?, d < 10 := by
        intro d hd
        obtain ⟨c, -, hc⟩ := List.mem_filterMap.mp hd
        exact Json.digitValue?_lt hc
      have hpos : 0 < t.length := List.length_pos_iff.mpr hne
      rw [Int.natAbs_natCast]
      refine Nat.le_trans ((Text.length_ofNat_le hpos).mpr ?_) hlimit
      exact Nat.lt_of_lt_of_le (Json.natOfDigits_lt hlt) (Nat.pow_le_pow_right (by omega) hlength)

theorem statusCode_of_hasStatus {response : Option Message} {n : Int}
    (h : HasStatus (response.map (·.headers)) n) :
    statusCode response = .ok n ∧ (Text.ofNat n.natAbs).length ≤ digitLimit := by
  have hbind : (response.map (·.headers)).bind (fun headers => headers.get? (.text statusHeader))
      = response.bind fun m => m.header? statusHeader := by
    cases response <;> rfl
  cases h with
  | absent habsent =>
      rw [hbind] at habsent
      rw [statusCode, habsent]
      exact ⟨rfl, by decide⟩
  | header v _ hheader hv =>
      rw [hbind] at hheader
      rw [statusCode, hheader]
      exact ⟨statusCodeOf_of_codes hv, length_le_of_codes hv⟩

/-- Equal codes are found by their number. -/
theorem registeredStatus?_int (n : Int) :
    registeredStatus? (.int n) = HttpStatus.ofCode? n := by
  have hfind : registeredStatus? (.int n)
      = HttpStatus.registered.find? fun s => Magnitude.ofInt s.code == Magnitude.ofInt n := rfl
  rw [hfind, HttpStatus.ofCode?]
  congr 1
  funext s
  rw [Bool.eq_iff_iff, beq_iff_eq, beq_iff_eq]
  exact Magnitude.ofInt_inj

/-- A known status is found, under its own code. -/
theorem ofCode?_of_mem {n : Int} (h : ∃ s ∈ HttpStatus.registered, (s.code : Int) = n) :
    ∃ s ∈ HttpStatus.registered, HttpStatus.ofCode? n = some s ∧ (s.code : Int) = n := by
  have hfound : (HttpStatus.ofCode? n).isSome = true := by
    obtain ⟨s, hs, hcode⟩ := h
    rw [HttpStatus.ofCode?, List.find?_isSome]
    exact ⟨s, hs, beq_iff_eq.mpr hcode⟩
  obtain ⟨s, hs⟩ := Option.isSome_iff_exists.mp hfound
  have hcode : ((s.code : Int) == n) = true :=
    List.find?_some (p := fun s : HttpStatus => (s.code : Int) == n) hs
  exact ⟨s, List.mem_of_find?_eq_some hs, hs, beq_iff_eq.mp hcode⟩

theorem descriptionFor_eq {request : Message} {n : Int} (hknown : isStreamRequest request = true →
      ∃ s ∈ HttpStatus.registered, (s.code : Int) = n) :
    descriptionFor request n = .ok (expectedDescription request n) := by
  unfold descriptionFor expectedDescription
  cases hstream : isStreamRequest request with
  | false => rfl
  | true =>
      obtain ⟨s, -, hfound, rfl⟩ := ofCode?_of_mem (hknown hstream)
      rw [statusDescription, registeredStatus?_int, hfound]
      rfl

/-! ## §3. Body and headers. -/

/-- Writing nothing for a character is leaving it out. -/
theorem replaceAll_nil (c : CodePoint) (t : Text) :
    Text.replaceAll c [] t = t.filter (· ≠ c) := by
  induction t with
  | nil => rfl
  | cons d rest ih =>
      rw [Text.replaceAll] at ih
      rw [Text.replaceAll, List.flatMap_cons, ih, List.filter_cons]
      by_cases h : d = c
      · simp [h]
      · simp [h]

theorem bodyText_eq (settings : Settings) (response : Option (Bytes × Fields)) {body : Bytes}
    (hbody : bodyBytes (response.map ofBytes) = .ok body) :
    bodyText (response.map ofBytes) body settings
      = expectedBody settings (response.map (·.1)) := by
  cases response with
  | none => rfl
  | some r =>
      cases hbody
      show (if settings.stripBodyQuotes then _ else _) = if settings.stripBodyQuotes then _ else _
      rw [replaceAll_nil]

/-- A body never holds a surrogate: neither reading with replacement nor leaving characters out
brings one in. -/
theorem hasSurrogate_expectedBody (settings : Settings) (b : Option Bytes) :
    (expectedBody settings b).hasSurrogate = false := by
  cases b with
  | none =>
      show Text.hasSurrogate "\"OK\"" = false
      decide
  | some b =>
      have hread := Utf8.hasSurrogate_decodeReplacing b
      rw [expectedBody]
      split
      · rw [Text.hasSurrogate_eq_false] at hread ⊢
        intro c hc
        exact hread c (List.mem_filter.mp hc).1
      · exact hread

theorem expectedHeaders_eq (headers : Fields) :
    expectedHeaders headers = (headers.filter fun e => !isExcludedHeader e.1).map
      fun e => (e.1, .text (headerText e.2)) := by
  have hreserved : ∀ key : Value,
      isExcludedHeader key = reservedNames.any fun t => key == .text t := by
    intro key
    simp [isExcludedHeader, reservedNames, Bool.or_assoc]
  induction headers with
  | nil => rfl
  | cons e rest ih =>
      unfold expectedHeaders at ih ⊢
      rw [List.filterMap_cons, List.filter_cons, hreserved, ih]
      cases reservedNames.any fun t => e.1 == .text t <;> rfl

/-- Headers that do not fail are those that should be there, -/
theorem eq_expectedHeaders {headers fields : Fields} (h : envelopeHeaders headers = .ok fields) :
    fields = expectedHeaders headers := by
  unfold envelopeHeaders at h
  rw [mapM_textHeader, ← expectedHeaders_eq] at h
  split at h
  · cases h
  · cases h
    rfl

/-- **and plain headers do not fail.** -/
theorem envelopeHeaders_eq {headers : Fields} (h : PlainHeaders headers) :
    envelopeHeaders headers = .ok (expectedHeaders headers) := by
  cases hcopied : envelopeHeaders headers with
  | ok fields => rw [eq_expectedHeaders hcopied]
  | error failure =>
      -- every header that is copied has a text
      obtain ⟨⟨e, hmem, hother, hnone⟩, -⟩ := envelopeHeaders_eq_error.mp hcopied
      obtain ⟨key, v⟩ := e
      obtain ⟨t, rfl⟩ : ∃ t, key = .text t := h.keys _ hmem
      have hreserved : t ∉ reservedNames := by
        intro hin
        simp only [isExcludedHeader, Value.text_beq_text] at hother
        simp only [reservedNames, List.mem_cons, List.not_mem_nil, or_false] at hin
        rcases hin with rfl | rfl | rfl <;> simp at hother
      obtain ⟨text, htext, -⟩ := h.values t v hmem hreserved
      rw [htext] at hnone
      cases hnone

/-! ## §4. The envelope survives. -/

/-- A copied header has a name that is not reserved, and the text of its value. -/
theorem mem_expectedHeaders {headers : Fields} (hkeys : ∀ e ∈ headers, ∃ t, e.1 = .text t)
    {e : Value × Value} (he : e ∈ expectedHeaders headers) :
    ∃ t v, (.text t, v) ∈ headers ∧ t ∉ reservedNames ∧ e = (.text t, .text (headerText v)) := by
  obtain ⟨⟨k, v⟩, hmem, hsome⟩ := List.mem_filterMap.mp he
  obtain ⟨t, ht⟩ := hkeys _ hmem
  have hk : k = .text t := ht
  subst hk
  split at hsome
  next => cases hsome
  next hreserved =>
    cases hsome
    refine ⟨t, v, hmem, fun hin => hreserved ?_, rfl⟩
    exact List.any_eq_true.mpr ⟨t, hin, by simp⟩

/-- Every header whose name is not reserved is copied. -/
theorem mem_expectedHeaders_of_mem {headers : Fields} {t : Text} {v : Value}
    (hmem : (.text t, v) ∈ headers) (h : t ∉ reservedNames) :
    (.text t, .text (headerText v)) ∈ expectedHeaders headers := by
  refine List.mem_filterMap.mpr ⟨(.text t, v), hmem, if_neg fun hreserved => h ?_⟩
  obtain ⟨s, hs, heq⟩ := List.any_eq_true.mp hreserved
  rw [Value.text_beq_text, beq_iff_eq] at heq
  exact heq ▸ hs

theorem distinct_expectedHeaders {headers : Fields} (h : headers.Distinct) :
    (expectedHeaders headers).Distinct := by
  unfold OrderedMap.Distinct expectedHeaders at *
  rw [List.pairwise_filterMap]
  refine h.imp fun {a b} hab e he f hf => ?_
  -- a copy has the key of its original
  split at he
  · cases he
  split at hf
  · cases hf
  cases he
  cases hf
  exact hab

theorem exact_expectedHeaders {headers : Fields} (h : PlainHeaders headers) :
    Json.Exact (.object (expectedHeaders headers)) := by
  refine .object _ (distinct_expectedHeaders h.distinct) (fun e he => ?_) fun e he => ?_
  · obtain ⟨t, v, hmem, hreserved, rfl⟩ := mem_expectedHeaders h.keys he
    exact ⟨t, rfl, h.names t v hmem hreserved⟩
  · obtain ⟨t, v, hmem, hreserved, rfl⟩ := mem_expectedHeaders h.keys he
    obtain ⟨text, htext, hsurrogate⟩ := h.values t v hmem hreserved
    rw [headerText, htext]
    exact .text _ hsurrogate

/-- The names in an envelope are different, whichever parts there are. -/
theorem distinct_envelopeFields (status : Int) (description : Option Text) (body : Text)
    (headers : Option Fields) :
    OrderedMap.Distinct (envelopeFields status description body headers) := by
  -- only the names matter, and which of the two optional ones are there
  have hnames : ∀ described headed : Bool, List.Pairwise (fun a b : Value => (a == b) = false)
      ([.text "isBase64Encoded", .text "statusCode"]
        ++ (if described then [.text "statusDescription"] else [])
        ++ [.text "body"] ++ (if headed then [.text "headers"] else [])) := by
    decide
  rw [OrderedMap.distinct_iff_keys]
  cases description with
  | none =>
      cases headers with
      | none => exact hnames false false
      | some _ => exact hnames false true
  | some _ =>
      cases headers with
      | none => exact hnames true false
      | some _ => exact hnames true true

/-- An envelope is a tree if its parts are. -/
theorem tree_envelopeFields {floats : Binary64 → Prop} {texts : Text → Prop}
    (hplain : ∀ t : Text, t.hasSurrogate = false → texts t) {status : Int}
    {description : Option Text} {body : Text} {headers : Option Fields}
    (hlimit : (Text.ofNat status.natAbs).length ≤ digitLimit)
    (hdescription : ∀ t, description = some t → texts t) (hbody : texts body)
    (hheaders : ∀ fields, headers = some fields → Json.Tree floats texts (.object fields)) :
    Json.Tree floats texts (.object (envelopeFields status description body headers)) := by
  have hfields : ∀ e ∈ envelopeFields status description body headers,
      (∃ t, e.1 = .text t ∧ texts t) ∧ Json.Tree floats texts e.2 := by
    intro e he
    simp only [envelopeFields, List.mem_append, List.mem_cons, List.not_mem_nil, or_false,
      Option.mem_toList, Option.map_eq_some_iff] at he
    rcases he with (((rfl | rfl) | ⟨t, ht, rfl⟩) | rfl) | ⟨fields, hfields, rfl⟩
    · exact ⟨⟨_, rfl, hplain _ (by decide)⟩, .bool false⟩
    · exact ⟨⟨_, rfl, hplain _ (by decide)⟩, .int status hlimit⟩
    · exact ⟨⟨_, rfl, hplain _ (by decide)⟩, .text t (hdescription t ht)⟩
    · exact ⟨⟨_, rfl, hplain _ (by decide)⟩, .text body hbody⟩
    · exact ⟨⟨_, rfl, hplain _ (by decide)⟩, hheaders fields hfields⟩
  exact .object _ (distinct_envelopeFields _ _ _ _) (fun e he => (hfields e he).1)
    fun e he => (hfields e he).2

theorem hasSurrogate_of_transmissible {t : Text} (h : ∀ c ∈ t, c.Transmissible) :
    t.hasSurrogate = false := Text.hasSurrogate_eq_false.mpr fun c hc => (h c hc).2

/-- Codes and names of registered statuses are plain ASCII. -/
theorem hasSurrogate_expectedDescription {request : Message} {n : Int} {t : Text}
    (h : expectedDescription request n = some t) : t.hasSurrogate = false := by
  have hnames : ∀ s ∈ HttpStatus.registered, Text.hasSurrogate (" " ++ s.name) = false := by
    decide
  unfold expectedDescription at h
  split at h
  · obtain ⟨s, hs, rfl⟩ := Option.map_eq_some_iff.mp h
    rw [List.append_assoc, Text.hasSurrogate_append,
      hasSurrogate_of_transmissible (Text.transmissible_ofInt n)]
    exact hnames s (List.mem_of_find?_eq_some hs)
  · cases h

/-- **The envelope survives the way through bytes.** -/
theorem exact_expectedEnvelope (settings : Settings) (request : Message)
    {response : Option (Bytes × Fields)} {n : Int}
    (hheaders : ∀ r, response = some r → PlainHeaders r.2)
    (hlimit : (Text.ofNat n.natAbs).length ≤ digitLimit) :
    Json.Exact (.object (expectedEnvelope settings request response n)) := by
  refine tree_envelopeFields (fun _ h => h) hlimit (fun t => hasSurrogate_expectedDescription)
    (hasSurrogate_expectedBody settings _) fun fields hfields => ?_
  obtain ⟨r, hr, rfl⟩ := Option.map_eq_some_iff.mp hfields
  exact exact_expectedHeaders (hheaders r hr)

/-! ## §5. Reading the answer. -/

/-- The envelope that is written is the one that should be. -/
theorem envelope_expected {settings : Settings} {request : Message}
    {response : Option (Bytes × Fields)} {n : Int} {body : Bytes}
    (hheaders : ∀ r, response = some r → PlainHeaders r.2)
    (hstatus : statusCode (response.map ofBytes) = .ok n)
    (hbody : bodyBytes (response.map ofBytes) = .ok body)
    (hknown : isStreamRequest request = true →
      ∃ s ∈ HttpStatus.registered, (s.code : Int) = n) :
    envelope request (response.map ofBytes) body settings
      = .ok (n, expectedEnvelope settings request response n) := by
  have hcopied : headersFor (response.map ofBytes)
      = .ok (response.map fun r => expectedHeaders r.2) := by
    cases response with
    | none => rfl
    | some r => exact congrArg (some <$> ·) (envelopeHeaders_eq (hheaders r rfl))
  rw [envelope_eq, hstatus, ok_bind, descriptionFor_eq hknown, ok_bind, hcopied, ok_bind,
    bodyText_eq _ _ hbody]
  rfl

/-- An envelope whose status has a text becomes the bytes of its JSON form. -/
theorem encodeResult_of_envelope {settings : Settings} {request : Message}
    {response : Option Message} {outputType : DeclaredType} {n : Int} {body output : Bytes}
    {fields : Fields} (hrequest : request.isGateway = true)
    (houtput : outputType.unwrapMessage.isGatewayResponse = false)
    (hbody : bodyBytes response = .ok body)
    (henvelope : envelope request response body settings = .ok (n, fields))
    (hlimit : (Text.ofNat n.natAbs).length ≤ digitLimit)
    (hdumps : Codec.dumps (.object fields) = .ok output) :
    encodeResult settings request response outputType = .ok output := by
  rw [encodeResult, houtput, hrequest, hbody, ok_bind, henvelope]
  show ((Value.int n).display >>= fun _ => envelopeBytes fields) = _
  rw [Value.display_int ((Text.length_ofNat_le (by decide)).mp hlimit), ok_bind, envelopeBytes,
    hdumps]

/-- **The envelope law.**  A gateway request is always answered if the response is missing or holds
bytes, its status code is a number, known where the request asks for its name, and the headers to
be copied have texts, without surrogates.  Reading the answer gives exactly the envelope: status,
description, body and headers, in this order, and nothing else. -/
theorem loads_encode (settings : Settings) (request : Message)
    (response : Option (Bytes × Fields)) (outputType : DeclaredType) (w : Workspace) (n : Int)
    (hrequest : request.isGateway = true)
    (houtput : outputType.unwrapMessage.isGatewayResponse = false)
    (hheaders : ∀ r, response = some r → PlainHeaders r.2)
    (hstatus : HasStatus (response.map (·.2)) n)
    (hknown : isStreamRequest request = true →
      ∃ s ∈ HttpStatus.registered, (s.code : Int) = n) :
    ∃ output w',
      (encode settings request (response.map ofBytes) outputType).outcome w = (.ok output, w')
        ∧ Codec.loads (.bytes output)
            = .ok (.object (expectedEnvelope settings request response n)) := by
  obtain ⟨hcode, hlimit⟩ : statusCode (response.map ofBytes) = .ok n
      ∧ (Text.ofNat n.natAbs).length ≤ digitLimit := by
    refine statusCode_of_hasStatus ?_
    cases response <;> exact hstatus
  obtain ⟨body, hbody⟩ : ∃ body, bodyBytes (response.map ofBytes) = .ok body := by
    cases response <;> exact ⟨_, rfl⟩
  -- the envelope as it should be has a JSON form that is read back unchanged
  obtain ⟨output, hdumps, hloads⟩ :=
    Codec.loads_dumps (exact_expectedEnvelope settings request hheaders hlimit)
  have hresult : encodeResult settings request (response.map ofBytes) outputType = .ok output :=
    encodeResult_of_envelope hrequest houtput hbody
      (envelope_expected hheaders hcode hbody hknown) hlimit hdumps
  have houtcome := yields_encode settings request (response.map ofBytes) outputType w
  refine ⟨output, ((encode settings request (response.map ofBytes) outputType).outcome w).2, ?_,
    hloads⟩
  rw [← hresult, ← houtcome]

/-- A request out of a stream that came through a gateway. -/
def streamRequest : Message :=
  ⟨.bytes [], [(.text Message.gatewayMarker, .bool true), (.text recordsHeader, .list [])], rfl⟩

/-- A body that is no UTF-8 and holds a quote, a status code with a leading zero, a header that is
copied and one that is not. -/
def mixedResponse : Bytes × Fields :=
  ([0xFF, 0x22, 0x61],
    [(.text statusHeader, .text "0404"), (.text "retry", .bool true),
      (.text Message.contextMarker, .unknown "context")])

theorem loads_encode_mixedResponse :
    PlainHeaders mixedResponse.2 ∧ HasStatus (some mixedResponse.2) 404
      ∧ ∃ output w', (encode ⟨true, false, true, "INFO"⟩ streamRequest
            (some (ofBytes mixedResponse)) .absent).outcome (.fresh .info) = (.ok output, w')
          ∧ Codec.loads (.bytes output) = .ok (.object
              [(.text "isBase64Encoded", .bool false), (.text "statusCode", .int 404),
                (.text "statusDescription", .text "404 NOT_FOUND"),
                (.text "body", .text [⟨0xFFFD, by decide⟩, .ofChar 'a']),
                (.text "headers", .object [(.text "retry", .text "True")])]) := by
  have hplain : PlainHeaders mixedResponse.2 := by
    refine ⟨OrderedMap.distinct_iff_keys.mpr (by decide), ?_, ?_, ?_⟩
    · simp [mixedResponse]
    · intro t v hmem hreserved
      simp only [mixedResponse, List.mem_cons, List.not_mem_nil, or_false, Prod.mk.injEq,
        Value.text.injEq] at hmem
      rcases hmem with ⟨rfl, -⟩ | ⟨rfl, -⟩ | ⟨rfl, -⟩ <;> decide
    · intro t v hmem hreserved
      simp only [mixedResponse, List.mem_cons, List.not_mem_nil, or_false, Prod.mk.injEq,
        Value.text.injEq] at hmem
      rcases hmem with ⟨-, rfl⟩ | ⟨-, rfl⟩ | ⟨-, rfl⟩ <;> exact ⟨_, rfl, by decide⟩
  have hstatus : HasStatus (some mixedResponse.2) 404 :=
    .header (.text "0404") 404 rfl (.digits "0404" (by decide) (by decide) (by decide))
  refine ⟨hplain, hstatus, ?_⟩
  refine loads_encode ⟨true, false, true, "INFO"⟩ streamRequest (some mixedResponse) .absent
    (.fresh .info) 404 rfl rfl ?_ hstatus fun _ => ⟨⟨404, "NOT_FOUND"⟩, by decide, rfl⟩
  intro r hr
  cases hr
  exact hplain

end Response

end EventEnvelope
