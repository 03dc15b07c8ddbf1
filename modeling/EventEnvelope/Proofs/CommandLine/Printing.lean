/-
  EventEnvelope.Proofs.CommandLine.Printing
  ─────────────────────────────────────────
  **What is printed is read back.**

  A report is printed on one line or over several, with a line break behind it.  Both layouts part
  entries by the same marks and put nothing but blanks after them, so the reader gives the report
  back in either case.  The description of a message is such a report, since all that it shows is
  trees, texts and names of classes.

    • `loads_printed`, `printed_encodable` — reports on their way through their text,
    • `Shows`                              — what a report shows of a payload,
    • `describe_eq`, `tree_describe`       — the description of a message,
    • `InputOptions.tree_result`           — what a message is made of that options ask for.
-/
import EventEnvelope.CommandLine.Report
import EventEnvelope.Proofs.CommandLine.Pairs
import EventEnvelope.Proofs.CommandLine.Tasks
import EventEnvelope.Proofs.Invocation.Trees
import EventEnvelope.Proofs.Json.RoundTrip

namespace EventEnvelope.CommandLine

/-! ## §1. Reports. -/

theorem reportStyle_isLayout (pretty : Bool) : (reportStyle pretty).IsLayout := by
  cases pretty with
  | false => exact Json.Style.spaced_isLayout
  | true => exact Json.Style.indented_isLayout

/-- A report that is printed has a text without surrogates, and a line break behind it. -/
theorem printed_eq_ok {pretty : Bool} {v : Value} {output : Text} :
    printed pretty v = .ok output
      ↔ ∃ text, Json.write (reportStyle pretty) 0 v = .ok text ∧ text.hasSurrogate = false
          ∧ output = text ++ "\n" := by
  unfold printed reportText
  cases Json.write (reportStyle pretty) 0 v with
  | error fault =>
      constructor
      · rintro ⟨⟩
      · rintro ⟨text, ⟨⟩, -⟩
  | ok text =>
      rw [ok_bind]
      cases hfault : Utf8.loneSurrogates? text with
      | none =>
          have hclean := Utf8.loneSurrogates?_eq_none_iff.mp hfault
          constructor
          · rintro ⟨⟩
            exact ⟨text, rfl, hclean, rfl⟩
          · rintro ⟨_, ⟨⟩, -, rfl⟩
            rfl
      | some fault =>
          constructor
          · rintro ⟨⟩
          · rintro ⟨_, ⟨⟩, hclean, -⟩
            rw [Utf8.loneSurrogates?_eq_none_iff.mpr hclean] at hfault
            cases hfault

/-- **What is printed is read back**, on one line or over several. -/
theorem loads_printed {texts : Text → Prop} {pretty : Bool} {v : Value} {output : Text}
    (hv : Json.TreeOf texts v) (h : printed pretty v = .ok output) :
    Codec.loads (.text output) = .ok v := by
  obtain ⟨text, hwrite, -, rfl⟩ := printed_eq_ok.mp h
  exact Codec.loads_text_of_spells (Json.spells_write (reportStyle_isLayout pretty) hv hwrite)
    (by decide)

/-- A report without surrogates can always be printed. -/
theorem printed_encodable (pretty : Bool) {v : Value} (hv : Json.Encodable v) :
    ∃ output, printed pretty v = .ok output := by
  obtain ⟨text, hwrite⟩ := Json.write_tree (reportStyle pretty) hv 0
  have htext := Json.transmissible_write (reportStyle_isLayout pretty) hv hwrite
  exact ⟨_, printed_eq_ok.mpr
    ⟨text, hwrite, Text.hasSurrogate_eq_false.mpr fun c hc => (htext c hc).2, rfl⟩⟩

/-! ## §2. What a report shows. -/

/-- What a report shows of a payload: the name of its class, and bytes as the text they hold, an
event by the object it wraps, an object or a list as itself. -/
inductive Shows : Value → Text → Value → Prop
  | bytes (b : Bytes) : Shows (.bytes b) "bytes" (.text (Utf8.decodeReplacing b))
  | event (cls : ClassObject) (fields : Fields) (own : OwnText) :
      Shows (.event cls (.object fields) own) cls.name
        (.object [(.text "type", .text cls.name), (.text "event", .object fields)])
  | object (fields : Fields) : Shows (.object fields) "dict" (.object fields)
  | list (items : List Value) : Shows (.list items) "list" (.list items)

/-- The report on a message. -/
def reportOf (className : Text) (shown : Value) (headers : Fields) : Value :=
  .object [(.text "payloadType", .text className), (.text "payload", shown),
    (.text "headers", .object headers)]

theorem hasSurrogate_className (cls : ClassObject) : cls.name.hasSurrogate = false := by
  induction cls with
  | event family => cases family <;> decide
  | known cls => cases cls <;> decide
  | derived base ih =>
      rw [ClassObject.name, Text.hasSurrogate_append, ih]
      decide

section Describe

variable {texts : Text → Prop}

theorem shows_printable {payload : Value} (h : Invocation.IsPayload texts payload) :
    Shows payload payload.typeName (printable payload) := by
  cases h with
  | bytes b => exact .bytes b
  | event cls fields own _ => exact .event cls fields own
  | object fields _ => exact .object fields
  | list items _ => exact .list items

theorem hasSurrogate_typeName {payload : Value} (h : Invocation.IsPayload texts payload) :
    payload.typeName.hasSurrogate = false := by
  cases h with
  | event cls fields own _ => exact hasSurrogate_className cls
  | bytes _ => rfl
  | object _ _ => rfl
  | list _ _ => rfl

theorem printable_tree {floats : Binary64 → Prop} {v : Value} (h : Json.Tree floats texts v) :
    printable v = v := by
  cases h <;> rfl

/-- Header values are shown as they are. -/
theorem describe_eq {m : Message} (h : Json.TreeOf texts (.object m.headers)) :
    describe m = reportOf m.payload.typeName (printable m.payload) m.headers := by
  have hheaders : m.headers.map (fun entry => (entry.1, printable entry.2)) = m.headers := by
    refine (List.map_congr_left fun e he => ?_).trans (List.map_id _)
    rw [printable_tree (h.entries e he).2]
    rfl
  rw [describe, hheaders]
  rfl

variable (hplain : ∀ t : Text, t.hasSurrogate = false → texts t)
include hplain

theorem tree_printable {payload : Value} (h : Invocation.IsPayload texts payload) :
    Json.TreeOf texts (printable payload) := by
  cases h with
  | bytes b => exact .text _ (hplain _ (Utf8.hasSurrogate_decodeReplacing b))
  | event cls fields own hfields =>
      have hnames : List.Nodup [("type" : Text), "event"]
          ∧ ∀ t ∈ [("type" : Text), "event"], t.hasSurrogate = false := by decide
      refine @Json.tree_named _ _ [("type", .text cls.name), ("event", .object fields)] hnames.1
        (fun t ht => hplain t (hnames.2 t ht)) (List.forall_mem_cons.mpr ⟨?_, ?_⟩)
      · exact .text _ (hplain _ (hasSurrogate_className cls))
      · exact List.forall_mem_singleton.mpr hfields
  | object fields hfields => exact hfields
  | list items hitems => exact hitems

/-- **The description of a message is a tree** if its payload and its headers are. -/
theorem tree_describe {m : Message} (hpayload : Invocation.IsPayload texts m.payload)
    (hheaders : Json.TreeOf texts (.object m.headers)) :
    Json.TreeOf texts (describe m) := by
  have hnames : List.Nodup [("payloadType" : Text), "payload", "headers"]
      ∧ ∀ t ∈ [("payloadType" : Text), "payload", "headers"], t.hasSurrogate = false := by decide
  rw [describe_eq hheaders]
  refine @Json.tree_named _ _ [("payloadType", .text m.payload.typeName),
    ("payload", printable m.payload), ("headers", .object m.headers)] hnames.1
    (fun t ht => hplain t (hnames.2 t ht)) (List.forall_mem_cons.mpr ⟨?_, ?_⟩)
  · exact .text _ (hplain _ (hasSurrogate_typeName hpayload))
  · exact List.forall_mem_cons.mpr
      ⟨tree_printable hplain hpayload, List.forall_mem_singleton.mpr hheaders⟩

/-- **A message that options ask for is made of trees**, if the payload reads as one and the pairs
give nothing that is not admitted there. -/
theorem InputOptions.tree_result {options : InputOptions} {payload : Bytes} {own : EventTexts}
    {settings : Settings} {m : Message}
    (hread : ∀ v, Codec.loads (.bytes payload) = .ok v → Json.TreeOf texts v)
    (hpairs : ∀ pair ∈ options.headers, ∀ name value, Gives pair name value →
      texts name ∧ texts value)
    (h : (options.call payload).result (.standard own) settings = .ok m) :
    Invocation.IsPayload texts m.payload
      ∧ Json.TreeOf texts (.object m.headers) := by
  have htransport : Json.TreeOf texts
      (.object ((options.call payload).headers.getD [])) := tree_headersOf hpairs
  exact Invocation.tree_result hplain hread htransport rfl h

end Describe

end EventEnvelope.CommandLine
