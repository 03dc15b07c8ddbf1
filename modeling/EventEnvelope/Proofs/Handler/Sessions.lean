/-
  EventEnvelope.Proofs.Handler.Sessions
  ─────────────────────────────────────
  **Calls that share a codec have no influence on one another.**

  Handlers, invocations and responses of one process use one codec, and some of them configure it on
  their way, whether they fail or not.  In a session each call starts with the codec and the journal
  that the calls before it have left.  None of them ever looks at the codec on the way to its
  answer, so an answer is the same as that of the call alone on a fresh codec, and an order in which
  the calls are made is as good as any other.

    • `Session.Call`, `Session.Answer`   — the calls, and what they answer with,
    • `Session.answers`                  — a session, call after call,
    • `Session.alone`                    — one call on a fresh codec,
    • `Session.yields_perform`           — what the answer of a call depends on,
    • `Session.answers_independent`      — the answers of a session, in any order of its calls.
-/
import EventEnvelope.Proofs.Handler.Result

namespace EventEnvelope

namespace Session

open Adapter

/-! ## §1. Sessions. -/

/-- A call in a session. -/
inductive Call
  /-- A handler gets an event from the runtime. -/
  | event (h : Handler) (received context : Value)
  /-- A handler gets a payload, with its headers and its context. -/
  | payload (h : Handler) (call : Invocation)
  | normalize (call : Invocation) (settings : Settings)
  | encode (settings : Settings) (request : Message) (response : Option Message)
      (outputType : DeclaredType)

/-- What a call answers with. -/
inductive Answer
  | value (v : Value)
  | message (m : Message)
  | bytes (b : Bytes)

/-- A call with the decoders of the session. -/
def Call.perform (registry : Registry) : Call → Adapter Answer
  | event h received context => do
      let v ← h.call registry received context
      return .value v
  | payload h call => do
      let v ← h.handle registry call
      return .value v
  | normalize call settings => do
      let m ← call.normalize registry settings
      return .message m
  | encode settings request response outputType => do
      let b ← Response.encode settings request response outputType
      return .bytes b

/-- The answers of a session.  A call starts with what the calls before it have left, also where
they have failed. -/
def answers (registry : Registry) : List Call → Workspace → List (Except Failure Answer)
  | [], _ => []
  | call :: rest, w =>
      let (answer, left) := (call.perform registry).outcome w
      answer :: answers registry rest left

/-- The answer of a call that is alone with a fresh codec. -/
def alone (registry : Registry) (level : Level) (call : Call) : Except Failure Answer :=
  ((call.perform registry).outcome (.fresh level)).1

/-! ## §2. One call. -/

/-- The answer of a call, computed from the call and the decoders. -/
def Call.answer (registry : Registry) : Call → Except Failure Answer
  | event h received context => do
      let v ← h.callResult registry received context
      .ok (.value v)
  | payload h call => do
      let v ← h.processResult registry call >>= fun output => .ok (Handler.toRuntimeResponse output)
      .ok (.value v)
  | normalize call settings => do
      let m ← call.result registry settings
      .ok (.message m)
  | encode settings request response outputType => do
      let b ← Response.encodeResult settings request response outputType
      .ok (.bytes b)

/-- **A call comes to its answer**, whatever the codec and the journal are. -/
theorem yields_perform (registry : Registry) (call : Call) :
    Yields (call.perform registry) (call.answer registry) := by
  cases call with
  | event h received context =>
      exact (Handler.yields_call h registry received context).bind fun v => yields_pure _
  | payload h call =>
      exact (Handler.yields_handle h registry call).bind fun v => yields_pure _
  | normalize call settings =>
      exact (Invocation.yields_normalize call registry settings).bind fun m => yields_pure _
  | encode settings request response outputType =>
      exact (Response.yields_encode settings request response outputType).bind fun b =>
        yields_pure _

theorem alone_eq (registry : Registry) (level : Level) (call : Call) :
    alone registry level call = call.answer registry :=
  yields_perform registry call (.fresh level)

/-! ## §3. Sessions of any length. -/

/-- **Every call of a session answers as if it were alone.** -/
theorem answers_eq_alone (registry : Registry) (level : Level) (calls : List Call)
    (w : Workspace) : answers registry calls w = calls.map (alone registry level) := by
  -- the first call may leave any codec to the others
  induction calls generalizing w with
  | nil => rfl
  | cons call rest ih =>
      have hfirst : ((call.perform registry).outcome w).1 = alone registry level call := by
        rw [alone_eq]
        exact yields_perform registry call w
      show ((call.perform registry).outcome w).1
          :: answers registry rest ((call.perform registry).outcome w).2 = _
      rw [hfirst, ih, List.map_cons]

/-- **No call influences another one.**  With a codec in any configuration, the calls of a session
answer as each of them does alone on a fresh codec, failures included.  So in any other order, and
with any other codec, each call gets the same answer. -/
theorem answers_independent (registry : Registry) (level : Level) (calls : List Call)
    (w : Workspace) :
    answers registry calls w = calls.map (alone registry level)
      ∧ ∀ (reordered : List Call) (w' : Workspace), calls.Perm reordered →
          (calls.zip (answers registry calls w)).Perm
            (reordered.zip (answers registry reordered w')) := by
  refine ⟨answers_eq_alone registry level calls w, fun reordered w' hperm => ?_⟩
  rw [answers_eq_alone registry level calls w, answers_eq_alone registry level reordered w',
    ← List.map_prod_left_eq_zip, ← List.map_prod_left_eq_zip]
  exact hperm.map _

/-- An event, a payload that breaks off, and a response that is missing. -/
def mixedCalls : List Call :=
  [.event { function := .ok, functionName := "fn" } (.object [(.text "id", .int 7)]) .null,
    .normalize { payload := (Text.ofString "\x7b").flatMap Utf8.bytesOf } {},
    .encode {} ⟨.text "order", [], rfl⟩ none .absent]

/-- The second call fails, and the codec has the mark of the conventions but none of the modules;
backwards and on a fresh codec the answers are the same. -/
theorem answers_independent_mixedCalls :
    let marked : Workspace := ⟨Codec.fresh.configure Codec.caseInsensitive true, .empty .debug⟩
    mixedCalls.Perm mixedCalls.reverse
      ∧ (answers (.standard classTexts) mixedCalls marked).map Except.toBool = [true, false, true]
      ∧ (mixedCalls.zip (answers (.standard classTexts) mixedCalls marked)).Perm
          (mixedCalls.reverse.zip
            (answers (.standard classTexts) mixedCalls.reverse (.fresh .info))) := by
  intro marked
  have hperm : mixedCalls.Perm mixedCalls.reverse := (List.reverse_perm mixedCalls).symm
  obtain ⟨-, hreordered⟩ := answers_independent (.standard classTexts) .info mixedCalls marked
  exact ⟨hperm, by decide +kernel, hreordered mixedCalls.reverse (.fresh .info) hperm⟩

end Session

end EventEnvelope
