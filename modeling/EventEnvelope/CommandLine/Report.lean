/-
  EventEnvelope.CommandLine.Report
  ────────────────────────────────
  **What the command line prints.**

  Every report is one JSON document, on one line or indented.  A message is described by the
  class of its payload, its payload and its headers; bytes are shown as the text they hold, an
  event as its class and the object it wraps.
-/
import EventEnvelope.Message

namespace EventEnvelope.CommandLine

/-- A value as reports show it. -/
def printable : Value → Value
  | .bytes b => .text (Utf8.decodeReplacing b)
  | .buffer b => .text (Utf8.decodeReplacing b)
  | .event cls raw _ => .object [(.text "type", .text cls.name), (.text "event", raw)]
  | v => v

/-- A message as reports show it. -/
def describe (m : Message) : Value :=
  .object
    [(.text "payloadType", .text m.payload.typeName),
      (.text "payload", printable m.payload),
      (.text "headers", .object (m.headers.map fun entry => (entry.1, printable entry.2)))]

/-- A failure as reports show it. -/
def describeFailure (name message : Text) : Value :=
  .object [(.text "error", .text name), (.text "message", .text message)]

/-- The layout of a report. -/
def reportStyle (pretty : Bool) : Json.Style := if pretty then .indented else .spaced

/-- The text of a report. -/
def reportText (pretty : Bool) (v : Value) : Except Failure Text :=
  match Json.write (reportStyle pretty) 0 v with
  | .ok text => .ok text
  | .error fault => .error (.reportNotSerializable fault)

/-- A report as it is printed: one that holds half of a surrogate pair cannot be. -/
def printed (pretty : Bool) (v : Value) : Except Failure Text := do
  let text ← reportText pretty v
  match Utf8.loneSurrogates? text with
  | some fault => .error (.surrogates fault)
  | none => .ok (text ++ "\n")

end EventEnvelope.CommandLine
