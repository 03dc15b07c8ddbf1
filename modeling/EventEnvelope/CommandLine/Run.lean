/-
  EventEnvelope.CommandLine.Run
  ─────────────────────────────
  **Carrying out a command.**

  What a command finds outside is given as data (`Surroundings`): the environment, the files, the
  service that runs deployed functions and the texts of event objects.  A run ends with an exit
  status, a report and the calls that were made to the service.  The adapter's own failures and
  those of the service are reported; any other failure ends the run without a report.
-/
import EventEnvelope.CommandLine.Command
import EventEnvelope.CommandLine.Report
import EventEnvelope.Invocation
import EventEnvelope.Response
import EventEnvelope.Text.Base64

namespace EventEnvelope.CommandLine

/-! ## §1. The service. -/

/-- A call to the service that runs deployed functions. -/
inductive ServiceCall
  /-- Connect to the service in a region. -/
  | connect (region : Text)
  /-- Run a function and wait for its answer. -/
  | invoke (functionName : Text) (withLog : Bool) (payload : Bytes)

/-- The arguments of a call. -/
def ServiceCall.arguments : ServiceCall → Fields
  | connect region => [(.text "service", .text "lambda"), (.text "region_name", .text region)]
  | invoke functionName withLog payload =>
      [(.text "FunctionName", .text functionName),
        (.text "InvocationType", .text "RequestResponse"),
        (.text "LogType", .text (if withLog then "Tail" else "None")),
        (.text "Payload", .bytes payload)]

/-- What the service answers. -/
structure ServiceReply where
  statusCode : Option Int
  /-- How the function failed, if it did. -/
  functionError : Option Text
  payload : Bytes
  /-- The end of the execution log, in base sixty-four. -/
  log : Option Text

/-- A call that the service refuses. -/
structure ServiceRefusal where
  code : Text
  message : Text

/-! ## §2. Tasks. -/

/-- What a run finds outside. -/
structure Surroundings where
  environment : Environment
  /-- The bytes of a file, if it is there. -/
  contentsOf : Text → Option Bytes
  /-- The answer to the call that runs a function. -/
  answer : ServiceCall → Except ServiceRefusal ServiceReply
  /-- The texts that the event classes give to their objects. -/
  eventTexts : EventTexts

/-- Why a task ends without a result. -/
inductive Interruption
  /-- Neither a file nor a text is given. -/
  | noPayload
  | failed (failure : Failure)
  | refused (refusal : ServiceRefusal)

/-- The state of a run. -/
structure Progress where
  workspace : Workspace
  calls : List ServiceCall := []

/-- A step of a run. -/
abbrev Task (α : Type) : Type := ExceptT Interruption (StateM Progress) α

namespace Task

/-- A result or a failure. -/
def ofExcept {α : Type} : Except Failure α → Task α
  | .ok a => pure a
  | .error failure => throw (.failed failure)

/-- A computation of the adapter. -/
def ofAdapter {α : Type} (x : Adapter α) : Task α := do
  let progress ← get
  let (result, workspace) := x.outcome progress.workspace
  set { progress with workspace }
  ofExcept result

/-- Note a call to the service. -/
def note (call : ServiceCall) : Task Unit :=
  modify fun progress => { progress with calls := progress.calls ++ [call] }

end Task

/-! ## §3. Payloads and headers. -/

/-- The bytes of a text. -/
def bytesOfText (t : Text) : Except Failure Bytes := (Utf8.encode t).mapError .surrogates

/-- The bytes of a file. -/
def Surroundings.fileBytes (world : Surroundings) (path : Text) : Except Failure Bytes := do
  let _ ← bytesOfText path
  if path.contains (.ofChar '\x00') then .error .nullInPath
  else
    match world.contentsOf path with
    | some bytes => .ok bytes
    | none => .error (.noSuchFile path)

/-- The payload: the bytes of the file if one is named, else those of the text. -/
def PayloadSource.load (source : PayloadSource) (world : Surroundings) : Task Bytes :=
  if !source.file.isEmpty then Task.ofExcept (world.fileBytes source.file)
  else if !source.json.isEmpty then Task.ofExcept (bytesOfText source.json)
  else throw .noPayload

/-- A header: what is before the first `=`, and what is behind it. -/
def headerOf (pair : Text) : Value × Value :=
  let (key, value) := Text.splitFirst '=' pair
  (.text key, .text (value.getD []))

/-- The headers that texts give, later ones winning. -/
def headersOf (pairs : List Text) : Fields := OrderedMap.ofEntries (pairs.map headerOf)

/-! ## §4. Commands. -/

/-- The message of an event. -/
def InputOptions.message (options : InputOptions) (world : Surroundings) : Task Message := do
  let payload ← options.source.load world
  let call : Invocation :=
    { payload, headers := some (headersOf options.headers), declared := options.declared }
  Task.ofAdapter (call.normalize (.standard world.eventTexts) (.ofEnvironment world.environment))

/-- The headers of the response: a status code wins over a header of that name. -/
def RoundtripOptions.headers (options : RoundtripOptions) : Fields :=
  let headers := headersOf options.responseHeaders
  match options.status with
  | none => headers
  | some status => headers.insert (.text Response.statusHeader) (.int status)

/-- The response, if there is one. -/
def RoundtripOptions.response (options : RoundtripOptions) : Except Failure (Option Message) :=
  match options.body with
  | none => .ok none
  | some body => do
      let payload ← bytesOfText body
      some <$> Message.of (.bytes payload) options.headers

/-- Normalize an event and encode the response. -/
def RoundtripOptions.report (options : RoundtripOptions) (world : Surroundings) :
    Task Value := do
  let request ← options.input.message world
  let response ← Task.ofExcept options.response
  let output ← Task.ofAdapter <|
    Response.encode (.ofEnvironment world.environment) request response .absent
  return .object
    [(.text "request", describe request), (.text "output", .text (Utf8.decodeReplacing output))]

/-- The region that is used if neither an option nor the environment names one. -/
def defaultRegion : Text := "us-east-1"

/-- The region of a call. -/
def InvokeOptions.regionIn (options : InvokeOptions) (env : Environment) : Text :=
  match options.region with
  | some region => region
  | none => (env.get? "AWS_REGION").getD defaultRegion

/-- What the service answered. -/
def ServiceReply.report (reply : ServiceReply) (withLog : Bool) : Value :=
  let log := reply.log.getD []
  .object <|
    [(.text "statusCode", (reply.statusCode.map Value.int).getD .null),
      (.text "functionError", (reply.functionError.map Value.text).getD .null),
      (.text "payload", .text (Utf8.decodeReplacing reply.payload))]
    ++ (if withLog && !log.isEmpty then
          [(.text "logs", .text (Utf8.decodeReplacing (Base64.decode log)))]
        else [])

/-- Call a deployed function. -/
def InvokeOptions.report (options : InvokeOptions) (functionName : Text) (world : Surroundings) :
    Task Value := do
  Task.note (.connect (options.regionIn world.environment))
  let payload ← options.source.load world
  let call : ServiceCall := .invoke functionName options.logs payload
  Task.note call
  match world.answer call with
  | .ok reply => return reply.report options.logs
  | .error refusal => throw (.refused refusal)

/-- The result of a command. -/
def Command.report (command : Command) (world : Surroundings) : Task Value :=
  match command with
  | normalize options => describe <$> options.message world
  | roundtrip options => options.report world
  | invoke functionName options => options.report functionName world

/-! ## §5. Runs. -/

/-- How a run ends. -/
inductive ExitStatus
  | code (n : Nat)
  /-- With a message instead of a code. -/
  | message (text : Text)

/-- What a run leaves behind. -/
structure Outcome where
  exit : ExitStatus
  output : Text
  calls : List ServiceCall

/-- The message of a run without a payload. -/
def noPayloadMessage : Text := "Provide --file or --json"

/-- The exit code of a run without a command. -/
def Refusal.exitCode : Refusal → Nat
  | help => 0
  | usage => 2

/-- The exit status and the output for the result of a task. -/
def conclude (pretty : Bool) : Except Interruption Value → Except Failure (ExitStatus × Text)
  | .ok v => do .ok (.code 0, ← printed pretty v)
  | .error .noPayload => .ok (.message noPayloadMessage, [])
  | .error (.refused refusal) => do
      .ok (.code 1, ← printed pretty (describeFailure refusal.code refusal.message))
  | .error (.failed failure) =>
      if failure.kind.isAdapterError then do
        .ok (.code 1, ← printed pretty (describeFailure failure.kind.name failure.message))
      else .error failure

/-- Carry out a request, from a given workspace. -/
def Request.run (request : Request) (world : Surroundings) (workspace : Workspace) :
    Except Failure Outcome × Workspace :=
  let (result, progress) := (request.command.report world).run.run { workspace }
  let outcome := (conclude request.pretty result).map fun (exit, output) =>
    { exit, output, calls := progress.calls : Outcome }
  (outcome, progress.workspace)

/-- Run the program with arguments. -/
def run (world : Surroundings) (arguments : List Text) (workspace : Workspace) :
    Except Failure Outcome × Workspace :=
  match Request.ofArguments arguments with
  | .ok request => request.run world workspace
  | .error refusal => (.ok ⟨.code refusal.exitCode, [], []⟩, workspace)

end EventEnvelope.CommandLine
