/-
  EventEnvelope.Adapter
  ─────────────────────
  **Computations that may fail, that may configure the codec and that keep a journal.**

  The state survives a failure: a codec configured before the failure stays configured, and lines
  written before it stay written.
-/
import EventEnvelope.Codec.Basic
import EventEnvelope.Journal

namespace EventEnvelope

/-- What the stages of the adapter share: the codec and the journal. -/
structure Workspace where
  codec : Codec
  journal : Journal

namespace Workspace

/-- A fresh codec and a journal without lines. -/
def fresh (threshold : Level) : Workspace := ⟨.fresh, .empty threshold⟩

end Workspace

/-- A computation of the adapter. -/
abbrev Adapter (α : Type) : Type := ExceptT Failure (StateM Workspace) α

namespace Adapter

/-- The result of a computation and the state it leaves. -/
def outcome {α : Type} (x : Adapter α) (w : Workspace) : Except Failure α × Workspace := x.run.run w

/-- Write a log line. -/
def log (level : Level) (source : LogSource) (text : Text) : Adapter Unit :=
  modify fun w => { w with journal := w.journal.write ⟨level, source, text⟩ }

/-- The codec as it is now. -/
def codec : Adapter Codec := do return (← get).codec

/-- Change the codec. -/
def modifyCodec (f : Codec → Codec) : Adapter Unit :=
  modify fun w => { w with codec := f w.codec }

/-- A result or a failure that has been computed without any state. -/
def ofExcept {α : Type} : Except Failure α → Adapter α
  | .ok a => pure a
  | .error failure => throw failure

end Adapter

end EventEnvelope
