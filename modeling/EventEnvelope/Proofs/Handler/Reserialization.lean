/-
  EventEnvelope.Proofs.Handler.Reserialization
  ────────────────────────────────────────────
  **Which events are read back from their bytes.**

  The runtime hands over a tree that was read, and the handler turns it into bytes again.  All but
  texts are left to the codec, which reads what it writes.  A text becomes its own UTF-8 form and
  no document, so it is read as what it says, if it says anything: every tree is read from the bytes
  of some text, and no text from its own.

    • `toBytes_text`       — the bytes of a text are its UTF-8 form,
    • `toBytes_document`   — a document that comes as a text is taken for what it says,
    • `loads_toBytes_iff`  — an event is read back from its bytes exactly if it is no text.
-/
import EventEnvelope.Proofs.Handler.Transparency
import EventEnvelope.Proofs.Json.SelfSpelling

namespace EventEnvelope.Handler

theorem toBytes_text {t : Text} {bytes : Bytes} (hencode : Utf8.encode t = .ok bytes) :
    toBytes (.text t) = .ok bytes := by
  rw [toBytes, hencode]

/-- **A document that comes as a text is taken for what it says**: each tree is read from the bytes
of some text. -/
theorem toBytes_document {v : Value} (hv : Json.Exact v) :
    ∃ t bytes, toBytes (.text t) = .ok bytes ∧ Codec.loads (.bytes bytes) = .ok v := by
  obtain ⟨bytes, hdumps, hloads⟩ := Codec.loads_dumps hv
  obtain ⟨document, -, hencode⟩ := Json.encode_eq_ok.mp (Codec.dumps_eq_ok.mp hdumps)
  exact ⟨document, bytes, toBytes_text hencode, hloads⟩

/-- **An event is read back from its bytes exactly if it is no text.**  Every tree without doubles
and surrogates has bytes, of whatever depth it is; those of a text are read as something else or
not at all. -/
theorem loads_toBytes_iff {v : Value} (hv : Json.Exact v) :
    ∃ bytes, toBytes v = .ok bytes
      ∧ (Codec.loads (.bytes bytes) = .ok v ↔ ∀ t, v ≠ .text t) := by
  by_cases htext : ∃ t, v = .text t
  · obtain ⟨t, rfl⟩ := htext
    have ht : t.hasSurrogate = false := by
      cases hv with
      | text _ ht => exact ht
    have hencode := Utf8.encode_of_noSurrogate ht
    refine ⟨_, toBytes_text hencode, fun hloads => ?_, fun hne => absurd rfl (hne t)⟩
    exact absurd hloads (Codec.loads_text_ne hencode)
  · have hne : ∀ t, v ≠ .text t := fun t h => htext ⟨t, h⟩
    obtain ⟨bytes, hdumps, hloads⟩ := Codec.loads_dumps hv
    exact ⟨bytes, (toBytes_eq_dumps hv hne).trans hdumps, fun _ => hne, fun _ => hloads⟩

/-- The root is a list, and the text in it is no root. -/
theorem loads_toBytes_greeting :
    Json.Exact (.list [.text "hi", .null])
      ∧ ∃ bytes, toBytes (.list [.text "hi", .null]) = .ok bytes
        ∧ Codec.loads (.bytes bytes) = .ok (.list [.text "hi", .null]) := by
  have hexact : Json.Exact (.list [.text "hi", .null]) :=
    .list _ (List.forall_mem_cons.mpr ⟨.text _ (by decide), List.forall_mem_singleton.mpr .null⟩)
  obtain ⟨bytes, hbytes, hiff⟩ := loads_toBytes_iff hexact
  exact ⟨hexact, bytes, hbytes, hiff.mpr fun t h => Value.noConfusion h⟩

/-- A greeting by itself has bytes, but they are no document. -/
theorem loads_toBytes_bareGreeting :
    ¬ ∃ bytes, toBytes (.text "hi") = .ok bytes
      ∧ Codec.loads (.bytes bytes) = .ok (.text "hi") := by
  rintro ⟨bytes, hbytes, hloads⟩
  cases hbytes
  cases hloads

end EventEnvelope.Handler
