/-
  EventEnvelope.Proofs.Codec.Configuration
  ────────────────────────────────────────
  **What the adapter leaves of the codec.**

  A computation of the adapter changes the codec in a way that is fixed beforehand: it leaves
  `f c` of every codec `c` that it finds, whether it fails or not.  `Leaves x f` says so of one
  computation, `Keeps x` that nothing is changed at all.  Only the first look at the flag makes a
  difference, so the stages of the adapter either apply the conventions, if that has not been done,
  or keep the codec.

    • `Leaves`, `Keeps`                          — the change that a computation makes,
    • `outcome_ensureConfiguredAmid`             — configuring, look by look,
    • `ensured`, `leaves_ensureConfigured`       — the codec with the conventions applied once,
    • `leaves_normalize`, `leaves_encode`        — what an invocation and a response leave.
-/
import EventEnvelope.Invocation
import EventEnvelope.Response
import EventEnvelope.Proofs.Computation

namespace EventEnvelope

/-! ## §1. The change that a computation makes. -/

namespace Adapter

variable {α β : Type}

/-- Whatever it comes to, the computation leaves `f c` of the codec `c` that it finds. -/
def Leaves (x : Adapter α) (f : Codec → Codec) : Prop :=
  ∀ w : Workspace, (x.outcome w).2.codec = f w.codec

/-- The codec stays as it is. -/
abbrev Keeps (x : Adapter α) : Prop := Leaves x id

theorem keeps_pure (a : α) : Keeps (pure a : Adapter α) := fun _ => rfl

theorem keeps_throw (failure : Failure) : Keeps (throw failure : Adapter α) := fun _ => rfl

theorem keeps_ofExcept (r : Except Failure α) : Keeps (ofExcept r) := by
  intro w
  cases r <;> rfl

theorem keeps_log (level : Level) (source : LogSource) (text : Text) :
    Keeps (log level source text) := fun _ => rfl

/-- What follows a step keeps what the step leaves, and a failure does too. -/
theorem Leaves.bind {x : Adapter α} {f : Codec → Codec} {y : α → Adapter β} (hx : Leaves x f)
    (hy : ∀ a, Keeps (y a)) : Leaves (x >>= y) f := by
  intro w
  rw [outcome_bind]
  have hleft := hx w
  cases hout : outcome x w with
  | mk result w' =>
      rw [hout] at hleft
      cases result with
      | ok a => exact (hy a w').trans hleft
      | error failure => exact hleft

/-- A step that succeeds and keeps the codec can be passed over. -/
theorem Leaves.after {x : Adapter Unit} {f : Codec → Codec} {y : Adapter β} (hy : Leaves y f)
    (hx : Keeps x) (hok : Yields x (.ok ())) : Leaves (x >>= fun _ => y) f := by
  intro w
  rw [hok.outcome_bind, hy, hx]
  rfl

theorem Leaves.ite {c : Prop} [Decidable c] {x y : Adapter α} {f : Codec → Codec}
    (hx : Leaves x f) (hy : Leaves y f) : Leaves (if c then x else y) f := by
  split
  · exact hx
  · exact hy

end Adapter

open Adapter

/-! ## §2. Configuring. -/

namespace Codec

/-- The codec after the conventions have been applied to it. -/
def applied (c : Codec) : Codec :=
  ((c.register .epochMillis).register .isoDates).configure caseInsensitive true

/-- The codec after the conventions have been applied to it, if they had not been. -/
def ensured (c : Codec) : Codec := if c.isConfigured then c else c.applied

theorem leaves_applyConventions : Leaves applyConventions applied := fun _ => rfl

/-- Behind the lock the flag decides. -/
theorem outcome_configureLocked (w : Workspace) :
    configureLocked.outcome w
      = if w.codec.isConfigured then (.ok (), w) else applyConventions.outcome w := by
  unfold configureLocked
  rw [outcome_codec_bind]
  split <;> rfl

/-- In front of the lock it does so too; what happens in between is looked at behind it. -/
theorem outcome_ensureConfiguredAmid {meanwhile : Adapter Unit}
    (hmeanwhile : Yields meanwhile (.ok ())) (w : Workspace) :
    (ensureConfiguredAmid meanwhile).outcome w
      = if w.codec.isConfigured then (.ok (), w)
        else configureLocked.outcome (meanwhile.outcome w).2 := by
  unfold ensureConfiguredAmid
  rw [outcome_codec_bind]
  split
  · rfl
  · exact hmeanwhile.outcome_bind _ w

/-- **Configuring applies the conventions once.** -/
theorem leaves_ensureConfigured : Leaves ensureConfigured ensured := by
  intro w
  have houtcome := outcome_ensureConfiguredAmid (yields_pure ()) w
  unfold ensureConfigured ensured
  rw [houtcome]
  split
  next => rfl
  next hflag =>
    show (configureLocked.outcome w).2.codec = _
    rw [outcome_configureLocked, if_neg hflag]
    exact leaves_applyConventions w

end Codec

/-! ## §3. Invocations and responses. -/

namespace Registry

theorem keeps_decode (registry : Registry) (declared : DeclaredType) (payload : Bytes) :
    Keeps (registry.decode declared payload) := by
  unfold decode
  split
  · exact (keeps_ofExcept _).bind fun _ => (keeps_log _ _ _).bind fun _ => keeps_ofExcept _
  · exact keeps_throw _

end Registry

namespace Invocation

theorem keeps_partsOf (registry : Registry) (settings : Settings) (declared : DeclaredType)
    (payload : Bytes) (shape : Shape) :
    Keeps (partsOf registry settings declared payload shape) := by
  cases shape with
  | typed family =>
      refine (Registry.keeps_decode registry declared payload).bind fun _ => .ite ?_ (keeps_pure _)
      exact (keeps_log _ _ _).bind fun _ => keeps_pure _
  | object fields =>
      refine .ite ?_ (keeps_pure _)
      exact (keeps_ofExcept _).bind fun _ => (keeps_log _ _ _).bind fun _ => keeps_pure _
  | array items => exact keeps_pure _
  | raw v fault =>
      cases fault with
      | none => exact keeps_pure _
      | some fault =>
          exact .ite ((keeps_log _ _ _).bind fun _ => keeps_pure _) (keeps_throw _)

/-- Only a declared event class keeps the codec as it is. -/
theorem leaves_shapeOf (declared : DeclaredType) (payload : Bytes) :
    Leaves (shapeOf declared payload)
      (if declared.unwrapMessage.family?.isSome then id else Codec.ensured) := by
  unfold shapeOf Shape.ofDeclared?
  cases declared.unwrapMessage.family? with
  | some family => exact keeps_pure _
  | none => exact Codec.leaves_ensureConfigured.bind fun _ => keeps_pure _

/-- **What an invocation leaves of the codec**, also when it fails: the codec is kept if an event
class is found behind one message or two, and else configured. -/
theorem leaves_normalize (call : Invocation) (registry : Registry) (settings : Settings) :
    Leaves (call.normalize registry settings)
      (if call.declared.unwrapMessage.unwrapMessage.family?.isSome then id else Codec.ensured) := by
  have hmain := (leaves_shapeOf call.declared.unwrapMessage call.payload).bind fun shape =>
    (keeps_log .info .normalizer ("Detected payload shape: " ++ shape.kindName)).bind fun _ =>
      (keeps_partsOf registry settings call.declared.unwrapMessage call.payload shape).bind
        fun parts =>
          (keeps_ofExcept (Value.object (call.headers.getD [])).shown).bind fun text =>
            (keeps_log .info .normalizer ("Incoming request headers: " ++ text)).bind fun _ =>
              keeps_ofExcept (Message.of parts.body
                (mergeHeaders (parts.sources ++ [call.headers])
                  (some (parts.markers.overlay (contextMarkers call.context)))))
  unfold normalize
  -- the line on the payload comes first, if there is one
  split
  · exact hmain.after (keeps_log _ _ _) (yields_log _ _ _)
  · exact hmain.after (keeps_pure ()) (yields_pure ())

end Invocation

namespace Response

/-- **What a response leaves of the codec**, also when it fails: the codec is kept if the output is
declared as a gateway response, and else configured. -/
theorem leaves_encode (settings : Settings) (request : Message) (response : Option Message)
    (outputType : DeclaredType) :
    Leaves (encode settings request response outputType)
      (if outputType.unwrapMessage.isGatewayResponse then id else Codec.ensured) := by
  unfold encode
  split
  · exact keeps_ofExcept _
  · refine Codec.leaves_ensureConfigured.bind fun _ => (keeps_ofExcept _).bind fun body => ?_
    refine .ite ?_ (keeps_pure body)
    refine (keeps_ofExcept _).bind fun (status, fields) => ?_
    exact (keeps_ofExcept _).bind fun _ => (keeps_log _ _ _).bind fun _ => keeps_ofExcept _

end Response

end EventEnvelope
