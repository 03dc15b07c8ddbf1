/-
  EventEnvelope.Main
  ──────────────────
  **The program: the command line on a real console.**

  Everything a run depends on is gathered first (variables, the file that the arguments
  name), then the run itself is a function, and last its outcome is written.  No service is
  reachable from here, so a call to one is answered with a refusal.
-/
import EventEnvelope.CommandLine.Run

namespace EventEnvelope.CommandLine

/-- The variables that a run looks at. -/
def variableNames : List String :=
  ["EVENT_ADAPTER_STRIP_BODY_QUOTES", "EVENT_ADAPTER_LENIENT_PARSE", "EVENT_ADAPTER_LOG_PAYLOADS",
    "LOG_LEVEL", "AWS_REGION"]

/-- The variables that are set. -/
def currentEnvironment : IO Environment := do
  let entries ← variableNames.mapM fun name => do
    return (← IO.getEnv name).map fun value => (Text.ofString name, Text.ofString value)
  return entries.filterMap id

/-- The bytes of the file with this name, if it can be read. -/
def currentContents (path : Text) : IO (Option Bytes) := do
  let name := String.ofList (path.map fun c => Char.ofNat c.toNat)
  try
    return some (← IO.FS.readBinFile name).toList
  catch _ => return none

/-- What the arguments need from outside. -/
def currentSurroundings (arguments : List Text) : IO Surroundings := do
  let environment ← currentEnvironment
  let path := match Request.ofArguments arguments with
    | .ok request => request.command.source.file
    | .error _ => []
  let contents ← if path.isEmpty then pure none else currentContents path
  return {
    environment
    contentsOf := fun _ => contents
    answer := fun _ => .error ⟨"ServiceUnavailable", "The service cannot be reached"⟩
    eventTexts := classTexts }

/-- Write a text as UTF-8. -/
def writeTo (stream : IO.FS.Stream) (t : Text) : IO Unit := do
  stream.write ⟨(t.flatMap Utf8.bytesOf).toArray⟩
  stream.flush

end EventEnvelope.CommandLine

open EventEnvelope EventEnvelope.CommandLine in
/-- Run the program: the report goes to standard output, any other message to standard error. -/
def main (arguments : List String) : IO UInt32 := do
  let arguments := arguments.map Text.ofString
  let world ← currentSurroundings arguments
  let errors ← IO.getStderr
  match (run world arguments (.fresh .warning)).1 with
  | .ok outcome => do
      writeTo (← IO.getStdout) outcome.output
      match outcome.exit with
      | .code n => return n.toUInt32
      | .message text => do
          writeTo errors (text ++ "\n")
          return 1
  | .error failure => do
      writeTo errors (failure.kind.name ++ ": " ++ failure.message ++ "\n")
      return 1
