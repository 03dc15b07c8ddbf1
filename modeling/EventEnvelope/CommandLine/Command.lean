/-
  EventEnvelope.CommandLine.Command
  ─────────────────────────────────
  **The commands and their options.**

  There are three commands: show how an event is normalized, encode a response for it as well, or
  send it to a deployed function.  `Request.ofArguments` reads the arguments of the program;
  it ends in a command or in a refusal, which is either the wish for help or a fault of usage.
  Options take effect in the order in which they are given, so of help and a faulty value the
  first one decides.
-/
import EventEnvelope.CommandLine.Arguments
import EventEnvelope.Declared.Type
import EventEnvelope.Failure

namespace EventEnvelope.CommandLine

/-! ## §1. Commands. -/

/-- Where a payload comes from: a file, or else a text; one that is empty counts as not given. -/
structure PayloadSource where
  file : Text := []
  json : Text := []

/-- What an event is normalized with. -/
structure InputOptions where
  source : PayloadSource := {}
  declared : DeclaredType := .absent
  /-- The headers of the transport, each a key and a value with `=` between them. -/
  headers : List Text := []

/-- What a response is encoded with. -/
structure RoundtripOptions where
  input : InputOptions := {}
  /-- The text of the response; without it there is no response. -/
  body : Option Text := none
  /-- The status code of the response. -/
  status : Option Int := none
  responseHeaders : List Text := []

/-- What a deployed function is called with. -/
structure InvokeOptions where
  source : PayloadSource := {}
  functionName : Option Text := none
  region : Option Text := none
  /-- Show the end of the execution log. -/
  logs : Bool := false

/-- A command with its options. -/
inductive Command
  | normalize (options : InputOptions)
  | roundtrip (options : RoundtripOptions)
  | invoke (functionName : Text) (options : InvokeOptions)

/-- What the program is asked to do. -/
structure Request where
  /-- Print the result over several lines. -/
  pretty : Bool
  command : Command

/-- Why there is no command to carry out. -/
inductive Refusal
  /-- Help is wanted instead. -/
  | help
  /-- The arguments make no command. -/
  | usage
deriving DecidableEq

/-! ## §2. Options. -/

/-- The options of all commands. -/
inductive OptionName
  | help
  | pretty
  | json
  | file
  | declaredType
  | header
  | body
  | status
  | responseHeader
  | functionName
  | region
  | logs
deriving DecidableEq

namespace OptionName

/-- All ways to write an option that takes no value. -/
def flag (option : OptionName) (names : List Text) : OptionTable OptionName :=
  names.map fun name => ⟨name, option, false⟩

/-- All ways to write an option that takes a value. -/
def valued (option : OptionName) (names : List Text) : OptionTable OptionName :=
  names.map fun name => ⟨name, option, true⟩

/-- The options before the command. -/
def leading : OptionTable OptionName :=
  help.flag ["-h", "--help"] ++ pretty.flag ["--pretty", "-p"]

/-- Help and the options that say where the payload comes from. -/
def source : OptionTable OptionName :=
  help.flag ["-h", "--help"] ++ json.valued ["--json", "-j"] ++ file.valued ["--file", "-f"]

/-- The options of the command that normalizes. -/
def ofNormalize : OptionTable OptionName :=
  source ++ declaredType.valued ["--type", "-t"] ++ header.valued ["--header", "-H"]

/-- The options of the command that encodes a response as well. -/
def ofRoundtrip : OptionTable OptionName :=
  ofNormalize ++ body.valued ["--body"] ++ status.valued ["--status"]
    ++ responseHeader.valued ["--response-header", "-R"]

/-- The options of the command that calls a deployed function. -/
def ofInvoke : OptionTable OptionName :=
  source ++ functionName.valued ["--function-name", "-n"] ++ region.valued ["--region", "-r"]
    ++ logs.flag ["--logs"]

end OptionName

/-! ## §3. What an option does. -/

/-- The types that can be declared for a payload, by name. -/
def declarableTypes : List (String × DeclaredType) :=
  [("sqs", .cls (.event .queueMessageBatch)),
    ("sns", .cls (.event .notificationBatch)),
    ("kinesis", .cls (.event .streamRecordBatch)),
    ("s3", .cls (.event .objectStorageEvent)),
    ("apigw", .cls (.event .gatewayRequestV1)),
    ("apigw-v2", .cls (.event .gatewayRequestV2)),
    ("map", .objectOfAny)]

/-- The type of this name, or a refusal if there is none. -/
def declarableType (name : Text) : Except Refusal DeclaredType :=
  match declarableTypes.find? fun entry => Text.ofString entry.1 == name with
  | some entry => .ok entry.2
  | none => .error .usage

/-- The status code that a text spells, or a refusal if it is no integer. -/
def statusCode (t : Text) : Except Refusal Int :=
  match Numeral.read t with
  | .ok n => .ok n
  | .error _ => .error .usage

/-- Note where the payload comes from. -/
def PayloadSource.give (s : PayloadSource) (given : Given OptionName) :
    Except Refusal PayloadSource :=
  match given.option with
  | .json => .ok { s with json := given.value }
  | .file => .ok { s with file := given.value }
  | .help => .error .help
  | _ => .error .usage

/-- Take an option of the command that normalizes. -/
def InputOptions.give (o : InputOptions) (given : Given OptionName) :
    Except Refusal InputOptions :=
  match given.option with
  | .declaredType => do
      let declared ← declarableType given.value
      .ok { o with declared }
  | .header => .ok { o with headers := o.headers ++ [given.value] }
  | _ => do
      let source ← o.source.give given
      .ok { o with source }

/-- Take an option of the command that encodes a response. -/
def RoundtripOptions.give (o : RoundtripOptions) (given : Given OptionName) :
    Except Refusal RoundtripOptions :=
  match given.option with
  | .body => .ok { o with body := some given.value }
  | .status => do
      let status ← statusCode given.value
      .ok { o with status := some status }
  | .responseHeader => .ok { o with responseHeaders := o.responseHeaders ++ [given.value] }
  | _ => do
      let input ← o.input.give given
      .ok { o with input }

/-- Take an option of the command that calls a function. -/
def InvokeOptions.give (o : InvokeOptions) (given : Given OptionName) :
    Except Refusal InvokeOptions :=
  match given.option with
  | .functionName => .ok { o with functionName := some given.value }
  | .region => .ok { o with region := some given.value }
  | .logs => .ok { o with logs := true }
  | _ => do
      let source ← o.source.give given
      .ok { o with source }

/-- Take an option that stands before the command: all it can say is how to print. -/
def givePretty (pretty : Bool) (given : Given OptionName) : Except Refusal Bool :=
  match given.option with
  | .pretty => .ok true
  | .help => .error .help
  | _ => .ok pretty

/-! ## §4. Reading a request. -/

/-- Let the options of a reading take effect one after the other; a fault comes after those
before it. -/
def Reading.apply {κ σ : Type} (r : Reading κ) (give : σ → Given κ → Except Refusal σ) (start : σ) :
    Except Refusal σ := do
  let result ← r.given.foldlM give start
  if r.wellFormed then .ok result else .error .usage

/-- The options of a command from its arguments, all of which belong to options. -/
def optionsOf {σ : Type} (table : OptionTable OptionName)
    (give : σ → Given OptionName → Except Refusal σ) (start : σ) (arguments : List Text) :
    Except Refusal σ :=
  match Word.ofArguments? table arguments with
  | none => .error .usage
  | some words => do
      let reading := Reading.ofWords table words
      let options ← reading.apply give start
      if reading.hasStrays then .error .usage else .ok options

namespace Command

/-- The command with this name and these arguments. -/
def ofArguments (name : Text) (arguments : List Text) : Except Refusal Command :=
  if name = Text.ofString "normalize" then
    normalize <$> optionsOf OptionName.ofNormalize InputOptions.give {} arguments
  else if name = Text.ofString "roundtrip" then
    roundtrip <$> optionsOf OptionName.ofRoundtrip RoundtripOptions.give {} arguments
  else if name = Text.ofString "invoke" then do
    let options ← optionsOf OptionName.ofInvoke InvokeOptions.give {} arguments
    match options.functionName with
    | some functionName => .ok (invoke functionName options)
    | none => .error .usage
  else .error .usage

/-- Where the payload of a command comes from. -/
def source : Command → PayloadSource
  | normalize options => options.source
  | roundtrip options => options.input.source
  | invoke _ options => options.source

end Command

/-- The request that the arguments of the program make.  All arguments are looked at before
any takes effect; the first one that is no option names the command, and what follows it is read
by the command. -/
def Request.ofArguments (arguments : List Text) : Except Refusal Request :=
  match Word.ofArguments? OptionName.leading arguments with
  | none => .error .usage
  | some words => do
      let before := words.takeWhile Word.looksLikeOption
      let reading := Reading.ofWords OptionName.leading before
      let pretty ← reading.apply givePretty false
      match arguments.drop before.length with
      | [] => .error .usage
      | name :: rest => do
          let command ← Command.ofArguments name rest
          if reading.hasStrays then .error .usage else .ok ⟨pretty, command⟩

end EventEnvelope.CommandLine
