/-
  EventEnvelope.Journal
  ─────────────────────
  **Log lines as data.**

  A journal keeps the lines at or above its threshold, in the order in which they were written.
-/
import EventEnvelope.Text.CodePoint

namespace EventEnvelope

/-- The levels of log lines; `notSet` is a threshold that lets everything through. -/
inductive Level
  | notSet
  | debug
  | info
  | warning
  | error
  | critical
deriving DecidableEq

namespace Level

/-- How grave a level is. -/
def rank : Level → Nat
  | notSet => 0
  | debug => 1
  | info => 2
  | warning => 3
  | error => 4
  | critical => 5

/-- The name of a level. -/
def name : Level → Text
  | notSet => "NOTSET"
  | debug => "DEBUG"
  | info => "INFO"
  | warning => "WARNING"
  | error => "ERROR"
  | critical => "CRITICAL"

/-- The names under which levels are set. -/
def names : List (Text × Level) :=
  [("CRITICAL", critical), ("FATAL", critical), ("ERROR", error), ("WARN", warning),
    ("WARNING", warning), ("INFO", info), ("DEBUG", debug), ("NOTSET", notSet)]

/-- The level with this name. -/
def ofName? (t : Text) : Option Level := names.lookup t

end Level

/-- The part of the adapter that writes a line. -/
inductive LogSource
  | codec
  | registry
  | normalizer
  | encoder
  | handler
deriving DecidableEq

/-- The name of the logger of a part. -/
def LogSource.name : LogSource → Text
  | codec => "src.event_adapter.codec"
  | registry => "src.event_adapter.events"
  | normalizer => "src.event_adapter.normalize"
  | encoder => "src.event_adapter.encode"
  | handler => "src.app.function_handler"

/-- A log line. -/
structure LogLine where
  level : Level
  source : LogSource
  text : Text
deriving DecidableEq

/-- A line with its level and its source. -/
def LogLine.written (line : LogLine) : Text :=
  line.level.name ++ ":" ++ line.source.name ++ ":" ++ line.text

/-- The lines written so far and the least level that is kept. -/
structure Journal where
  threshold : Level
  lines : List LogLine
deriving DecidableEq

namespace Journal

/-- A journal without lines. -/
def empty (threshold : Level) : Journal := ⟨threshold, []⟩

/-- Write a line, if its level is kept. -/
def write (j : Journal) (line : LogLine) : Journal :=
  if j.threshold.rank ≤ line.level.rank then { j with lines := j.lines ++ [line] } else j

end Journal

end EventEnvelope
