/-
  EventEnvelope.Proofs.CommandLine.Normalize
  ──────────────────────────────────────────
  **The report on a message, in either layout.**

  The command that normalizes prints the description of the message that an event becomes.  The flag
  before the command chooses the layout and nothing else; so with the flag and without it the same
  value is read from what is printed: the class of the payload, the payload, and all headers.

    • `ofArguments_pretty`   — the flag leaves the command as it is,
    • `Prints`               — a run that ends with success and prints a value,
    • `prints_normalize`     — what the command prints, with the flag and without it.
-/
import Mathlib
import EventEnvelope.Proofs.CommandLine.Printing

namespace EventEnvelope.CommandLine

/-! ## §1. The flag. -/

/-- The ways to ask for several lines. -/
def prettyFlags : List Text := ["--pretty", "-p"]

/-- An argument that does not begin with a dash is a plain one. -/
theorem words_cons {name : Text} (hname : name.head? ≠ some dash) (rest : List Text) :
    Word.ofArguments? OptionName.leading (name :: rest)
      = (Word.ofArguments? OptionName.leading rest).map fun words => .argument name :: words := by
  have hplain : Word.ofArgument? OptionName.leading name = some (.argument name) := by
    rw [Word.ofArgument?, if_pos (by simp [hname])]
  have hend : name ≠ endOfOptions := by
    rintro rfl
    exact hname rfl
  rw [Word.ofArguments?, if_neg hend, hplain]
  cases Word.ofArguments? OptionName.leading rest <;> rfl

/-- The flag is an option, and nothing is attached to it. -/
theorem words_flag {flag : Text} (hflag : flag ∈ prettyFlags) (rest : List Text) :
    ∃ s : Spelling OptionName, s.option = .pretty ∧ s.takesValue = false
      ∧ Word.ofArguments? OptionName.leading (flag :: rest)
        = (Word.ofArguments? OptionName.leading rest).map fun words =>
            .option s .nothing :: words := by
  have hfind : ∃ s : Spelling OptionName, s.option = .pretty ∧ s.takesValue = false
      ∧ Word.ofArgument? OptionName.leading flag = some (.option s .nothing)
      ∧ flag ≠ endOfOptions := by
    simp only [prettyFlags, List.mem_cons, List.not_mem_nil, or_false] at hflag
    rcases hflag with rfl | rfl
    · exact ⟨⟨"--pretty", .pretty, false⟩, rfl, rfl, rfl, by decide⟩
    · exact ⟨⟨"-p", .pretty, false⟩, rfl, rfl, rfl, by decide⟩
  obtain ⟨s, hoption, hvalue, hword, hend⟩ := hfind
  refine ⟨s, hoption, hvalue, ?_⟩
  rw [Word.ofArguments?, if_neg hend, hword]
  cases Word.ofArguments? OptionName.leading rest <;> rfl

/-- Arguments that begin with a plain one name a command at once, if none of them is ambiguous. -/
theorem ofArguments_cons {name : Text} (hname : name.head? ≠ some dash) (rest : List Text) :
    Request.ofArguments (name :: rest)
      = match Word.ofArguments? OptionName.leading rest with
        | none => .error .usage
        | some _ => (Command.ofArguments name rest).map (Request.mk false) := by
  rw [Request.ofArguments, words_cons hname]
  cases Word.ofArguments? OptionName.leading rest with
  | none => rfl
  | some words =>
      show (Command.ofArguments name rest >>= _) = _
      cases Command.ofArguments name rest <;> rfl

/-- Behind the flag they do so as well. -/
theorem ofArguments_flag_cons {flag name : Text} (hflag : flag ∈ prettyFlags)
    (hname : name.head? ≠ some dash) (rest : List Text) :
    Request.ofArguments (flag :: name :: rest)
      = match Word.ofArguments? OptionName.leading rest with
        | none => .error .usage
        | some _ => (Command.ofArguments name rest).map (Request.mk true) := by
  obtain ⟨⟨spelling, option, takesValue⟩, hoption, hvalue, hwords⟩ :=
    words_flag hflag (name :: rest)
  subst hoption hvalue
  rw [Request.ofArguments, hwords, words_cons hname]
  cases Word.ofArguments? OptionName.leading rest with
  | none => rfl
  | some words =>
      show (Command.ofArguments name rest >>= _) = _
      cases Command.ofArguments name rest <;> rfl

/-- **The flag leaves the command as it is.** -/
theorem ofArguments_pretty {flag name : Text} {rest : List Text} {command : Command}
    (hflag : flag ∈ prettyFlags) (hname : name.head? ≠ some dash)
    (h : Request.ofArguments (name :: rest) = .ok ⟨false, command⟩) :
    Request.ofArguments (flag :: name :: rest) = .ok ⟨true, command⟩ := by
  rw [ofArguments_cons hname] at h
  rw [ofArguments_flag_cons hflag hname]
  split at h
  next => cases h
  next =>
    cases hcommand : Command.ofArguments name rest with
    | error refusal =>
        rw [hcommand] at h
        cases h
    | ok found =>
        rw [hcommand] at h
        cases h
        rfl

/-! ## §2. The report. -/

/-- The run ends with success, and what it prints is read as this value. -/
def Prints (result : Except Failure Outcome) (v : Value) : Prop :=
  ∃ outcome, result = .ok outcome ∧ outcome.exit = .code 0
    ∧ Codec.loads (.text outcome.output) = .ok v

/-- A task that comes to a value without surrogates prints it. -/
theorem prints_of_comesTo {request : Request} {world : Surroundings} (w : Workspace) {v : Value}
    (h : ComesTo (request.command.report world) (.ok v)) (hv : Json.Encodable v) :
    Prints (request.run world w).1 v := by
  obtain ⟨output, hprinted⟩ := printed_encodable request.pretty hv
  obtain ⟨calls, hrun⟩ := exists_run_eq w h
  rw [conclude, hprinted] at hrun
  exact ⟨_, hrun, rfl, loads_printed hv hprinted⟩

/-- **The report on a message is faithful in both layouts.**  If the payload that is given becomes a
message, and neither what it reads as nor the headers that are given hold half of a surrogate pair,
the command ends with success, with the flag and without it; and from either output the same report
is read, which shows the payload's class, the payload and all headers of the message. -/
theorem prints_normalize (world : Surroundings) (w : Workspace) (arguments : List Text)
    (options : InputOptions) (payload : Bytes) (m : Message)
    (hrequest : Request.ofArguments ("normalize" :: arguments) = .ok ⟨false, .normalize options⟩)
    (hload : ((options.source.load world).run.run { workspace := w }).1 = .ok payload)
    (hmessage : (((options.call payload).normalize (.standard world.eventTexts)
      (.ofEnvironment world.environment)).outcome w).1 = .ok m)
    (hpayload : ∀ v, Codec.loads (.bytes payload) = .ok v → Json.Encodable v)
    (hheaders : ∀ pair ∈ options.headers, pair.hasSurrogate = false) :
    ∃ className shown, Shows m.payload className shown
      ∧ Prints (run world ("normalize" :: arguments) w).1 (reportOf className shown m.headers)
      ∧ ∀ flag ∈ prettyFlags, Prints (run world (flag :: "normalize" :: arguments) w).1
          (reportOf className shown m.headers) := by
  have hresult : (options.call payload).result (.standard world.eventTexts)
      (.ofEnvironment world.environment) = .ok m := by
    rw [← hmessage]
    exact (Invocation.yields_normalize _ _ _ w).symm
  have hplain : ∀ t : Text, t.hasSurrogate = false → t.hasSurrogate = false := fun _ h => h
  have hpairs : ∀ pair ∈ options.headers, ∀ name value, Gives pair name value →
      name.hasSurrogate = false ∧ value.hasSurrogate = false :=
    fun pair hpair name value hgives => hgives.hasSurrogate (hheaders pair hpair)
  -- the report is a tree without surrogates, since all that the message is made of is one
  obtain ⟨hbody, hmap⟩ := InputOptions.tree_result hplain hpayload hpairs hresult
  have hreport : Json.Encodable (reportOf m.payload.typeName (printable m.payload) m.headers) := by
    rw [← describe_eq hmap]
    exact tree_describe hplain hbody hmap
  have htask : ComesTo (Command.report (.normalize options) world)
      (.ok (reportOf m.payload.typeName (printable m.payload) m.headers)) := by
    rw [← describe_eq hmap]
    have hdescribed := (comesTo_message options world).map describe
    rwa [InputOptions.result_of_load hload, mapError_eq_ok.mpr hresult] at hdescribed
  refine ⟨_, _, shows_printable hbody, ?_, fun flag hflag => ?_⟩
  · rw [run, hrequest]
    exact prints_of_comesTo w htask hreport
  · rw [run, ofArguments_pretty hflag (by decide) hrequest]
    exact prints_of_comesTo w htask hreport

/-- A gateway request with empty containers among its fields and in its nested headers. -/
def methodPayload : Text :=
  "\x7b\"httpMethod\":\"GET\",\"headers\":\x7b\"trace\":[\x7b\x7d,\"é\"]\x7d,\"query\":\x7b\x7d\x7d"

/-- What it reads as. -/
def methodRequest : Fields :=
  [(.text "httpMethod", .text "GET"),
    (.text "headers", .object [(.text "trace", .list [.object [], .text "é"])]),
    (.text "query", .object [])]

/-- The request for a function that takes objects, with a header whose value holds a further `=`. -/
def methodOptions : InputOptions where
  source := { json := methodPayload }
  declared := .objectOfAny
  headers := ["path=/a=b", "flag"]

/-- Those options as arguments. -/
def methodArguments : List Text :=
  ["--type", "map", "-Hpath=/a=b", "--header=flag", "--json", methodPayload]

/-- The message of that request. -/
def methodMessage : Message where
  payload := .object [(.text "httpMethod", .text "GET"), (.text "query", .object [])]
  headers :=
    [(.text "httpMethod", .text "GET"), (.text "trace", .list [.object [], .text "é"]),
      (.text "path", .text "/a=b"), (.text "flag", .text ""),
      (.text Message.gatewayMarker, .bool true)]
  hasPayload := rfl

theorem prints_normalize_method :
    ∃ className shown, Shows methodMessage.payload className shown
      ∧ Prints (run bareSurroundings ("normalize" :: methodArguments) (.fresh .info)).1
          (reportOf className shown methodMessage.headers)
      ∧ ∀ flag ∈ prettyFlags,
          Prints (run bareSurroundings (flag :: "normalize" :: methodArguments) (.fresh .info)).1
            (reportOf className shown methodMessage.headers) := by
  have hread : ∀ v, Codec.loads (.bytes (methodPayload.flatMap Utf8.bytesOf)) = .ok v →
      Json.Encodable v := by
    have hloads : Codec.loads (.bytes (methodPayload.flatMap Utf8.bytesOf))
        = .ok (.object methodRequest) := by cbv
    have hencodes : (Json.encode (.object methodRequest)).toBool = true := by decide +kernel
    obtain ⟨bytes, hencode⟩ := exists_of_toBool hencodes
    intro v hv
    rw [hloads] at hv
    cases hv
    exact Json.encodable_of_encode (Codec.readable_loads hloads) hencode
  exact prints_normalize bareSurroundings (.fresh .info) methodArguments methodOptions
    (methodPayload.flatMap Utf8.bytesOf) methodMessage rfl rfl (by cbv) hread (by decide)

end EventEnvelope.CommandLine
