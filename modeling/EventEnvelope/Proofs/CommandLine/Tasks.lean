/-
  EventEnvelope.Proofs.CommandLine.Tasks
  ──────────────────────────────────────
  **What a task comes to, without state.**

  A task hands its workspace to the adapter and keeps a list of calls, but like the adapter it never
  looks at either on the way to its result.  So what a run prints, and how it ends, is computed from
  the request and from what is found outside.

    • `Task.comesTo_ofAdapter`   — a computation of the adapter as a step of a task,
    • `comesTo_load`             — the payload that is loaded,
    • `comesTo_message`          — the message that it becomes,
    • `comesTo_roundtrip`        — the report on a response to it,
    • `exists_run_eq`            — what a run leaves behind.
-/
import EventEnvelope.CommandLine.Run
import EventEnvelope.Proofs.Invocation.Result
import EventEnvelope.Proofs.Response.Result

namespace EventEnvelope.CommandLine

/-! ## §1. Steps. -/

namespace Task

variable {α : Type}

theorem comesTo_ofExcept (r : Except Failure α) : ComesTo (ofExcept r) (r.mapError .failed) := by
  intro progress
  cases r <;> rfl

/-- **A computation of the adapter is a step of a task** with the same result. -/
theorem comesTo_ofAdapter {x : Adapter α} {r : Except Failure α} (h : Adapter.Yields x r) :
    ComesTo (ofAdapter x) (r.mapError .failed) := by
  intro progress
  have hstep : ((ofAdapter x).run.run progress).1
      = ((ofExcept (x.outcome progress.workspace).1).run.run
          { progress with workspace := (x.outcome progress.workspace).2 }).1 := rfl
  rw [hstep, h progress.workspace]
  exact comesTo_ofExcept r _

end Task

/-- No variables, no files and no service. -/
def bareSurroundings : Surroundings where
  environment := []
  contentsOf := fun _ => none
  answer := fun _ => .error ⟨[], []⟩
  eventTexts := classTexts

/-! ## §2. Payloads and messages. -/

/-- What the payload is, or why there is none. -/
def PayloadSource.result (source : PayloadSource) (world : Surroundings) :
    Except Interruption Bytes :=
  if !source.file.isEmpty then (world.fileBytes source.file).mapError .failed
  else if !source.json.isEmpty then (bytesOfText source.json).mapError .failed
  else .error .noPayload

theorem comesTo_load (source : PayloadSource) (world : Surroundings) :
    ComesTo (source.load world) (source.result world) := by
  unfold PayloadSource.load PayloadSource.result
  split
  · exact Task.comesTo_ofExcept _
  split
  · exact Task.comesTo_ofExcept _
  · exact comesTo_throw _

/-- The invocation with a payload. -/
def InputOptions.call (options : InputOptions) (payload : Bytes) : Invocation where
  payload
  headers := some (headersOf options.headers)
  declared := options.declared

/-- The message of an event, or why there is none. -/
def InputOptions.result (options : InputOptions) (world : Surroundings) :
    Except Interruption Message := do
  let payload ← options.source.result world
  ((options.call payload).result (.standard world.eventTexts)
    (.ofEnvironment world.environment)).mapError .failed

theorem comesTo_message (options : InputOptions) (world : Surroundings) :
    ComesTo (options.message world) (options.result world) :=
  (comesTo_load options.source world).bind fun payload =>
    Task.comesTo_ofAdapter (Invocation.yields_normalize (options.call payload) _ _)

/-- The payload that was loaded is what the message is made from. -/
theorem InputOptions.result_of_load {options : InputOptions} {world : Surroundings} {w : Workspace}
    {payload : Bytes}
    (hload : ((options.source.load world).run.run { workspace := w }).1 = .ok payload) :
    options.result world
      = ((options.call payload).result (.standard world.eventTexts)
          (.ofEnvironment world.environment)).mapError .failed := by
  rw [InputOptions.result, (comesTo_load options.source world).unique hload, ok_bind]

/-- The report on a response, or why there is none. -/
def RoundtripOptions.result (options : RoundtripOptions) (world : Surroundings) :
    Except Interruption Value := do
  let request ← options.input.result world
  let response ← options.response.mapError .failed
  let output ←
    (Response.encodeResult (.ofEnvironment world.environment) request response .absent).mapError
      .failed
  .ok (.object
    [(.text "request", describe request), (.text "output", .text (Utf8.decodeReplacing output))])

theorem comesTo_roundtrip (options : RoundtripOptions) (world : Surroundings) :
    ComesTo (options.report world) (options.result world) := by
  refine (comesTo_message options.input world).bind fun request => ?_
  refine (Task.comesTo_ofExcept options.response).bind fun response => ?_
  exact (Task.comesTo_ofAdapter (Response.yields_encode _ request response .absent)).bind
    fun output => comesTo_pure _

/-! ## §3. Runs. -/

/-- **What a run leaves behind** is how its task is concluded, and the calls that were made. -/
theorem exists_run_eq {request : Request} {world : Surroundings} (w : Workspace)
    {r : Except Interruption Value} (h : ComesTo (request.command.report world) r) :
    ∃ calls, (request.run world w).1
      = (conclude request.pretty r).map fun (exit, output) => ⟨exit, output, calls⟩ := by
  have hr := h { workspace := w }
  unfold Request.run
  cases hrun : (request.command.report world).run.run { workspace := w } with
  | mk result progress =>
      rw [hrun] at hr
      subst hr
      exact ⟨progress.calls, rfl⟩

/-- A run that ends with success has printed the value that its task came to. -/
theorem exists_printed_of_success {request : Request} {world : Surroundings} {w : Workspace}
    {r : Except Interruption Value} (h : ComesTo (request.command.report world) r)
    {outcome : Outcome} (hrun : (request.run world w).1 = .ok outcome)
    (hexit : outcome.exit = .code 0) :
    ∃ v, r = .ok v ∧ printed request.pretty v = .ok outcome.output := by
  obtain ⟨calls, heq⟩ := exists_run_eq w h
  rw [hrun] at heq
  obtain ⟨⟨exit, output⟩, hconclude, houtcome⟩ := map_eq_ok.mp heq.symm
  subst houtcome
  have hzero : exit = .code 0 := hexit
  subst hzero
  -- any other end has a message or another code
  cases r with
  | ok v =>
      obtain ⟨text, hprinted, hpair⟩ := bind_eq_ok.mp hconclude
      cases hpair
      exact ⟨v, rfl, hprinted⟩
  | error interruption =>
      cases interruption with
      | noPayload => cases hconclude
      | refused refusal =>
          obtain ⟨text, -, hpair⟩ := bind_eq_ok.mp hconclude
          cases hpair
      | failed failure =>
          rw [conclude] at hconclude
          split at hconclude
          · obtain ⟨text, -, hpair⟩ := bind_eq_ok.mp hconclude
            cases hpair
          · cases hconclude

end EventEnvelope.CommandLine
