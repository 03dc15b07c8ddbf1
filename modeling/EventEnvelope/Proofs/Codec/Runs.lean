/-
  EventEnvelope.Proofs.Codec.Runs
  ───────────────────────────────
  **The codec after a whole run.**

  A codec is used by many calls, one after another: some configure it on their way, modules are
  registered before and after that, features are switched, and every call may fail.  What the codec
  is in the end can be told from the calls alone.  A run splits at its first configuring call: the
  modules registered before it, then the two of the conventions, then those registered behind it.

    • `Use`, `Use.perform`          — the calls, and what each of them does,
    • `Use.isConfiguring`           — the calls that make sure of the conventions,
    • `registrations`               — all modules of a run, in the order of their registration,
    • `Use.effect`, `codec_after`   — what a call leaves of the codec,
    • `Reflects`                    — a codec with given registrations, kept up call by call,
    • `codec_of_run`                — flag, modules and conversions after any run.
-/
import EventEnvelope.Proofs.Codec.Configuration
import EventEnvelope.Proofs.OrderedMap

namespace EventEnvelope

/-! ## §1. Calls. -/

namespace Codec

/-- A call that has to do with the codec. -/
inductive Use
  | ensureConfigured
  | normalize (call : Invocation) (registry : Registry) (settings : Settings)
  | encode (settings : Settings) (request : Message) (response : Option Message)
      (outputType : DeclaredType)
  | loads (document : Value)
  | dumps (v : Value)
  | registerModule (m : CodecModule)
  /-- A feature is switched on or off, but not the one that marks the codec as configured. -/
  | configure (feature : Text) (enabled : Bool) (hother : feature ≠ caseInsensitive)

namespace Use

/-- What a call does; its result is of no interest here. -/
def perform : Use → Adapter Unit
  | ensureConfigured => Codec.ensureConfigured
  | normalize call registry settings => do
      let _ ← call.normalize registry settings
      return ()
  | encode settings request response outputType => do
      let _ ← Response.encode settings request response outputType
      return ()
  | loads document => do
      let _ ← Adapter.ofExcept ((Codec.loads document).mapError .codec)
      return ()
  | dumps v => do
      let _ ← Adapter.ofExcept (Codec.dumps v)
      return ()
  | registerModule m => Adapter.modifyCodec (·.register m)
  | configure feature enabled _ => Adapter.modifyCodec (·.configure feature enabled)

/-- The state after a call, whether it has failed or not. -/
def after (w : Workspace) (u : Use) : Workspace := (u.perform.outcome w).2

/-- The call makes sure of the conventions: it asks for them, it normalizes a payload whose
declared type, looked through one message and once more, names no event class, or it encodes a
response that is not declared as a gateway response. -/
def isConfiguring : Use → Bool
  | ensureConfigured => true
  | normalize call _ _ => call.declared.unwrapMessage.unwrapMessage.family?.isNone
  | encode _ _ _ outputType => !outputType.unwrapMessage.isGatewayResponse
  | _ => false

/-- The module that a call registers by itself. -/
def registered : Use → List CodecModule
  | registerModule m => [m]
  | _ => []

end Use

/-- The state after calls, one after another. -/
def afterAll (uses : List Use) (w : Workspace) : Workspace := uses.foldl Use.after w

/-- The modules of a run on a fresh codec, in order: the two of the conventions come at the first
configuring call, and all others where they are registered. -/
def registrations : List Use → List CodecModule
  | [] => []
  | u :: rest =>
      if u.isConfiguring then [.epochMillis, .isoDates] ++ rest.flatMap Use.registered
      else u.registered ++ registrations rest

end Codec

/-- The conversion that a module brings for a target. -/
def CodecModule.supplied? (m : CodecModule) (target : ScalarTarget) : Option Deserializer :=
  (OrderedMap.ofEntries m.deserializers).get? target

namespace Codec

/-- The conversion of the last module that brings one for the target. -/
def lastSupplied? (modules : List CodecModule) (target : ScalarTarget) : Option Deserializer :=
  modules.reverse.findSome? (·.supplied? target)

/-! ## §2. What a call leaves. -/

/-- What a call itself changes about the codec. -/
def Use.direct : Use → Codec → Codec
  | registerModule m => (·.register m)
  | configure feature enabled _ => (·.configure feature enabled)
  | _ => id

/-- What a call leaves of the codec that it finds. -/
def Use.effect (u : Use) (c : Codec) : Codec :=
  if u.isConfiguring then c.ensured else u.direct c

/-- **Every call leaves its effect**, and nothing else of it depends on the state. -/
theorem codec_after (w : Workspace) (u : Use) : (Use.after w u).codec = u.effect w.codec := by
  cases u with
  | ensureConfigured => exact leaves_ensureConfigured w
  | normalize call registry settings =>
      have hleft := (Invocation.leaves_normalize call registry settings).bind
        (fun _ => Adapter.keeps_pure ()) w
      refine hleft.trans ?_
      show _ = if call.declared.unwrapMessage.unwrapMessage.family?.isNone then w.codec.ensured
        else w.codec
      cases call.declared.unwrapMessage.unwrapMessage.family? <;> rfl
  | encode settings request response outputType =>
      have hleft := (Response.leaves_encode settings request response outputType).bind
        (fun _ => Adapter.keeps_pure ()) w
      refine hleft.trans ?_
      show _ = if !outputType.unwrapMessage.isGatewayResponse then w.codec.ensured else w.codec
      cases outputType.unwrapMessage.isGatewayResponse <;> rfl
  | loads document => exact (Adapter.keeps_ofExcept _).bind (fun _ => Adapter.keeps_pure ()) w
  | dumps v => exact (Adapter.keeps_ofExcept _).bind (fun _ => Adapter.keeps_pure ()) w
  | registerModule m => rfl
  | configure feature enabled hother => rfl

/-! ## §3. Codecs with given registrations. -/

/-- The codec shows these registrations and whether the conventions have been applied. -/
structure Reflects (c : Codec) (modules : List CodecModule) (configured : Bool) : Prop where
  names : c.modules = modules.map (·.name)
  conversions : ∀ target, c.deserializer? target = lastSupplied? modules target
  flag : c.isConfigured = configured

theorem reflects_fresh : Reflects fresh [] false := ⟨rfl, fun _ => rfl, rfl⟩

theorem lastSupplied?_append (modules : List CodecModule) (m : CodecModule)
    (target : ScalarTarget) :
    lastSupplied? (modules ++ [m]) target
      = (m.supplied? target).or (lastSupplied? modules target) := by
  unfold lastSupplied?
  rw [List.reverse_append, List.reverse_singleton, List.singleton_append, List.findSome?_cons]
  cases m.supplied? target <;> rfl

variable {c : Codec} {modules : List CodecModule} {configured : Bool}

/-- A module comes last and wins over those before it. -/
theorem Reflects.register (h : Reflects c modules configured) (m : CodecModule) :
    Reflects (c.register m) (modules ++ [m]) configured where
  names := by
    show c.modules ++ [m.name] = _
    rw [h.names, List.map_append]
    rfl
  conversions := by
    intro target
    show (c.deserializers.overlay m.deserializers).get? target = _
    rw [OrderedMap.get?_overlay_ofEntries, lastSupplied?_append, ← h.conversions]
    rfl
  flag := h.flag

/-- Switching a feature is switching no other one. -/
theorem isEnabled_configure (c : Codec) (feature other : Text) (enabled : Bool) :
    (c.configure feature enabled).isEnabled other
      = if other = feature then enabled else c.isEnabled other := by
  unfold isEnabled configure
  by_cases hsame : other = feature
  · cases enabled <;> simp [hsame]
  · cases enabled <;> simp [hsame, List.contains_eq_mem]

theorem Reflects.configure (h : Reflects c modules configured) {feature : Text} (enabled : Bool)
    (hother : feature ≠ caseInsensitive) :
    Reflects (c.configure feature enabled) modules configured where
  names := h.names
  conversions := h.conversions
  flag := by
    unfold isConfigured
    rw [isEnabled_configure, if_neg hother.symm]
    exact h.flag

theorem Reflects.applied (h : Reflects c modules configured) :
    Reflects c.applied (modules ++ [.epochMillis, .isoDates]) true where
  names := by
    have hmodules := ((h.register .epochMillis).register .isoDates).names
    rwa [List.append_assoc] at hmodules
  conversions := by
    have hconversions := ((h.register .epochMillis).register .isoDates).conversions
    rwa [List.append_assoc] at hconversions
  flag := by
    unfold isConfigured
    rw [Codec.applied, isEnabled_configure, if_pos rfl]

/-! ## §4. One call. -/

theorem Reflects.direct (h : Reflects c modules configured) (u : Use) :
    Reflects (u.direct c) (modules ++ u.registered) configured := by
  cases u with
  | registerModule m => exact h.register m
  | configure feature enabled hother =>
      show Reflects _ (modules ++ []) configured
      rw [List.append_nil]
      exact h.configure enabled hother
  | _ =>
      show Reflects c (modules ++ []) configured
      rw [List.append_nil]
      exact h

/-- A call that does not configure adds what it registers. -/
theorem Reflects.effect (h : Reflects c modules configured) {u : Use}
    (hu : ¬ u.isConfiguring = true) :
    Reflects (u.effect c) (modules ++ u.registered) configured := by
  rw [Use.effect, if_neg hu]
  exact h.direct u

/-- The first call that configures adds the conventions. -/
theorem Reflects.effect_first (h : Reflects c modules false) {u : Use}
    (hu : u.isConfiguring = true) :
    Reflects (u.effect c) (modules ++ [.epochMillis, .isoDates]) true := by
  rw [Use.effect, if_pos hu, ensured, if_neg (by rw [h.flag]; exact Bool.false_ne_true)]
  exact h.applied

/-- Later ones find it done; none of them registers a module of its own. -/
theorem Reflects.effect_again (h : Reflects c modules true) (u : Use) :
    Reflects (u.effect c) (modules ++ u.registered) true := by
  by_cases hu : u.isConfiguring = true
  · have hnone : u.registered = [] := by
      cases u with
      | registerModule m => cases hu
      | _ => rfl
    rw [Use.effect, if_pos hu, ensured, if_pos h.flag, hnone, List.append_nil]
    exact h
  · exact h.effect hu

/-! ## §5. Runs. -/

theorem afterAll_cons (u : Use) (rest : List Use) (w : Workspace) :
    afterAll (u :: rest) w = afterAll rest (u.after w) := rfl

/-- From a configured codec on, a run adds what it registers. -/
theorem Reflects.afterAll_configured (uses : List Use) {w : Workspace}
    (h : Reflects w.codec modules true) :
    Reflects (afterAll uses w).codec (modules ++ uses.flatMap Use.registered) true := by
  induction uses generalizing w modules with
  | nil =>
      rw [List.flatMap_nil, List.append_nil]
      exact h
  | cons u rest ih =>
      rw [afterAll_cons, List.flatMap_cons, ← List.append_assoc]
      refine ih ?_
      rw [codec_after]
      exact h.effect_again u

/-- **A run on a codec without the conventions** adds its registrations, and it is configured
afterwards if one of the calls is configuring. -/
theorem Reflects.afterAll (uses : List Use) {w : Workspace} (h : Reflects w.codec modules false) :
    Reflects (afterAll uses w).codec (modules ++ registrations uses)
      (uses.any Use.isConfiguring) := by
  induction uses generalizing w modules with
  | nil =>
      rw [registrations, List.append_nil]
      exact h
  | cons u rest ih =>
      rw [afterAll_cons, registrations, List.any_cons]
      by_cases hu : u.isConfiguring = true
      -- the first configuring call: the rest of the run starts from a configured codec
      · rw [if_pos hu, hu, Bool.true_or, ← List.append_assoc]
        refine Reflects.afterAll_configured rest ?_
        rw [codec_after]
        exact h.effect_first hu
      · rw [if_neg hu, eq_false_of_ne_true hu, Bool.false_or, ← List.append_assoc]
        refine ih ?_
        rw [codec_after]
        exact h.effect hu

/-- **The codec after any run on a fresh one.**  It is configured exactly if one of the calls was
configuring; its modules are the registrations of the run, with the two of the conventions once, at
the first configuring call; and for each target the last of them that brings a conversion wins. -/
theorem codec_of_run (uses : List Use) (level : Level) :
    let c := (afterAll uses (.fresh level)).codec
    (c.isConfigured = true ↔ ∃ u ∈ uses, u.isConfiguring = true)
      ∧ c.modules = (registrations uses).map (·.name)
      ∧ ∀ target, c.deserializer? target = lastSupplied? (registrations uses) target := by
  have hrun := reflects_fresh.afterAll uses (w := .fresh level)
  refine ⟨?_, hrun.names, hrun.conversions⟩
  rw [hrun.flag, List.any_eq_true]

example (first last : CodecModule) :
    registrations [.registerModule first, .loads .null, .ensureConfigured, .registerModule last,
      .ensureConfigured] = [first, .epochMillis, .isoDates, last] := rfl

end Codec

end EventEnvelope
