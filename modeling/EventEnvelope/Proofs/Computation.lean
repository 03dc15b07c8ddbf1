/-
  EventEnvelope.Proofs.Computation
  ────────────────────────────────
  **Computations, through the results they come to.**

  A computation that may fail is taken apart at each step: what it gave, or where it stopped.
  A computation of the adapter also changes the codec and writes log lines, but neither is ever
  looked at on the way to a result.  `Yields x r` says so of one computation; it holds of the steps
  and passes through sequencing, so a whole stage has a result that can be computed without state.

    • `bind_eq_ok`, `bind_eq_error`   — taking a sequence of steps apart,
    • `ComesTo`, `ComesTo.bind`       — a result that no state has an influence on,
    • `Adapter.Yields`                — the same of a computation of the adapter,
    • `yields_ensureConfigured`       — configuring the codec always succeeds,
    • `loads_eq_ok`, `dumps_eq_ok`    — what the codec reads and writes.
-/
import EventEnvelope.Codec.Configuration

namespace EventEnvelope

/-! ## §1. Computations that may fail. -/

section Except

variable {ε α β : Type _}

theorem bind_eq_ok {x : Except ε α} {f : α → Except ε β} {b : β} :
    (x >>= f) = .ok b ↔ ∃ a, x = .ok a ∧ f a = .ok b := by
  cases x with
  | error e => simp [bind, Except.bind]
  | ok a => simp [bind, Except.bind]

theorem bind_eq_error {x : Except ε α} {f : α → Except ε β} {e : ε} :
    (x >>= f) = .error e ↔ x = .error e ∨ ∃ a, x = .ok a ∧ f a = .error e := by
  cases x with
  | error e' => simp [bind, Except.bind]
  | ok a => simp [bind, Except.bind]

theorem map_eq_ok {f : α → β} {x : Except ε α} {b : β} :
    f <$> x = .ok b ↔ ∃ a, x = .ok a ∧ f a = b := by
  cases x with
  | error e => simp [Functor.map, Except.map]
  | ok a => simp [Functor.map, Except.map]

theorem mapError_eq_ok {ε' : Type _} {f : ε → ε'} {x : Except ε α} {a : α} :
    x.mapError f = .ok a ↔ x = .ok a := by
  cases x with
  | error e => exact ⟨nofun, nofun⟩
  | ok b => exact ⟨fun h => by cases h; rfl, fun h => by cases h; rfl⟩

theorem ok_bind (a : α) (f : α → Except ε β) : ((Except.ok a : Except ε α) >>= f) = f a := rfl

theorem exists_of_toBool {r : Except ε α} (h : r.toBool = true) : ∃ a, r = .ok a := by
  cases r with
  | error e => cases h
  | ok a => exact ⟨a, rfl⟩

end Except

/-- The kind of a failure, if there is one. -/
def kindOf? {α : Type} : Except Failure α → Option ErrorKind
  | .ok _ => none
  | .error failure => some failure.kind

theorem kindOf?_eq_some {α : Type} {r : Except Failure α} {kind : ErrorKind} :
    kindOf? r = some kind ↔ ∃ failure, r = .error failure ∧ failure.kind = kind := by
  cases r with
  | ok a => simp [kindOf?]
  | error failure => simp [kindOf?]

/-! ## §2. Computations with a state. -/

section State

variable {ε σ α β : Type}

/-- The computation comes to this result, whatever state it starts in. -/
def ComesTo (x : ExceptT ε (StateM σ) α) (r : Except ε α) : Prop := ∀ s, (x.run.run s).1 = r

/-- The second step starts where the first one stopped, if it did not fail. -/
theorem run_run_bind (x : ExceptT ε (StateM σ) α) (f : α → ExceptT ε (StateM σ) β) (s : σ) :
    (x >>= f).run.run s
      = match x.run.run s with
        | (.ok a, s') => (f a).run.run s'
        | (.error e, s') => (.error e, s') := by
  rw [ExceptT.run_bind, StateT.run_bind]
  -- the two transformers are peeled off, what is left is a match on the first step's pair
  show (match (x.run.run s : Id _) with | (r, s') => _ : _ × _) = _
  cases x.run.run s with
  | mk r s' => cases r <;> rfl

theorem comesTo_pure (a : α) : ComesTo (pure a : ExceptT ε (StateM σ) α) (.ok a) := fun _ => rfl

theorem comesTo_throw (e : ε) : ComesTo (throw e : ExceptT ε (StateM σ) α) (.error e) :=
  fun _ => rfl

/-- **Results pass through sequencing.** -/
theorem ComesTo.bind {x : ExceptT ε (StateM σ) α} {r : Except ε α}
    {f : α → ExceptT ε (StateM σ) β} {g : α → Except ε β} (hx : ComesTo x r)
    (hf : ∀ a, ComesTo (f a) (g a)) : ComesTo (x >>= f) (r >>= g) := by
  intro s
  rw [run_run_bind]
  -- the second step runs in the state that the first one leaves, which does not matter to it
  have hr := hx s
  cases hrun : x.run.run s with
  | mk result s' =>
      rw [hrun] at hr
      subst hr
      cases result with
      | ok a => exact hf a s'
      | error e => rfl

theorem ComesTo.map {x : ExceptT ε (StateM σ) α} {r : Except ε α} (hx : ComesTo x r) (f : α → β) :
    ComesTo (f <$> x) (f <$> r) := by
  rw [map_eq_pure_bind, map_eq_pure_bind]
  exact hx.bind fun a => comesTo_pure (f a)

/-- A computation comes to one result at most. -/
theorem ComesTo.unique {x : ExceptT ε (StateM σ) α} {r r' : Except ε α} (h : ComesTo x r) {s : σ}
    (h' : (x.run.run s).1 = r') : r = r' := (h s).symm.trans h'

end State

/-! ## §3. Computations of the adapter. -/

namespace Adapter

variable {α β : Type}

/-- The computation comes to this result, whatever state it starts in. -/
def Yields (x : Adapter α) (r : Except Failure α) : Prop :=
  ∀ w : Workspace, (x.outcome w).1 = r

/-- The second step starts where the first one stopped, if it did not fail. -/
theorem outcome_bind (x : Adapter α) (f : α → Adapter β) (w : Workspace) :
    outcome (x >>= f) w
      = match outcome x w with
        | (.ok a, w') => outcome (f a) w'
        | (.error failure, w') => (.error failure, w') := by
  unfold outcome
  rw [run_run_bind]
  cases x.run.run w with
  | mk r w' => cases r <;> rfl

theorem yields_pure (a : α) : Yields (pure a : Adapter α) (.ok a) := fun _ => rfl

theorem yields_throw (failure : Failure) : Yields (throw failure : Adapter α) (.error failure) :=
  fun _ => rfl

theorem yields_ofExcept (r : Except Failure α) : Yields (ofExcept r) r := by
  intro w
  cases r <;> rfl

theorem yields_log (level : Level) (source : LogSource) (text : Text) :
    Yields (log level source text) (.ok ()) := fun _ => rfl

theorem yields_modifyCodec (f : Codec → Codec) : Yields (modifyCodec f) (.ok ()) := fun _ => rfl

/-- **Results pass through sequencing.** -/
theorem Yields.bind {x : Adapter α} {r : Except Failure α} {f : α → Adapter β}
    {g : α → Except Failure β} (hx : Yields x r) (hf : ∀ a, Yields (f a) (g a)) :
    Yields (x >>= f) (r >>= g) := ComesTo.bind hx hf

/-- A step without a result of its own is passed over. -/
theorem Yields.then {x : Adapter Unit} {y : Adapter β} {r : Except Failure β}
    (hx : Yields x (.ok ())) (hy : Yields y r) : Yields (x >>= fun _ => y) r :=
  hx.bind fun _ => hy

/-- What follows a step that succeeds starts where the step stopped. -/
theorem Yields.outcome_bind {x : Adapter α} {a : α} (hx : Yields x (.ok a)) (f : α → Adapter β)
    (w : Workspace) : outcome (x >>= f) w = outcome (f a) (outcome x w).2 := by
  rw [Adapter.outcome_bind]
  have hok := hx w
  cases hout : outcome x w with
  | mk result w' =>
      rw [hout] at hok
      cases hok
      rfl

/-- Two computations come to the same in all states exactly if their results are the same. -/
theorem Yields.agree_iff {x y : Adapter α} {r s : Except Failure α} (hx : Yields x r)
    (hy : Yields y s) : (∀ w w' : Workspace, (x.outcome w).1 = (y.outcome w').1) ↔ r = s := by
  constructor
  · intro hagree
    rw [← hx (.fresh .info), ← hy (.fresh .info)]
    exact hagree _ _
  · intro hsame w w'
    rw [hx w, hy w', hsame]

/-- Looking at the codec changes nothing. -/
theorem outcome_codec_bind (f : Codec → Adapter β) (w : Workspace) :
    outcome (codec >>= f) w = outcome (f w.codec) w := by
  rw [outcome_bind]
  rfl

/-- Looking at the codec has no influence where all that follows agrees. -/
theorem yields_codec_bind {f : Codec → Adapter β} {r : Except Failure β}
    (hf : ∀ c, Yields (f c) r) : Yields (codec >>= f) r := by
  intro w
  rw [outcome_bind]
  exact hf w.codec w

/-- A failure goes to the handler, in the state that it leaves. -/
theorem outcome_tryCatch (x : Adapter α) (handler : Failure → Adapter α) (w : Workspace) :
    outcome (tryCatch x handler) w
      = match outcome x w with
        | (.ok a, w') => (.ok a, w')
        | (.error failure, w') => outcome (handler failure) w' := by
  unfold outcome
  rw [ExceptT.run_tryCatch, StateT.run_bind]
  cases StateT.run (ExceptT.run x) w with
  | mk r w' => cases r <;> rfl

/-- A failure that is passed on after a step without effect on results is the same failure. -/
theorem Yields.rethrow {x : Adapter α} {r : Except Failure α} {f : Failure → Adapter Unit}
    (hx : Yields x r) (hf : ∀ failure, Yields (f failure) (.ok ())) :
    Yields (tryCatch x fun failure => f failure >>= fun _ => throw failure) r := by
  intro w
  rw [outcome_tryCatch]
  have hr := hx w
  cases hout : outcome x w with
  | mk result w' =>
      rw [hout] at hr
      subst hr
      cases result with
      | ok a => rfl
      | error failure => exact (hf failure).then (yields_throw failure) w'

theorem Yields.ite {c : Prop} [Decidable c] {x y : Adapter α} {r s : Except Failure α}
    (hx : Yields x r) (hy : Yields y s) :
    Yields (if c then x else y) (if c then r else s) := by
  split
  · exact hx
  · exact hy

end Adapter

namespace Codec

open Adapter

theorem yields_applyConventions : Yields applyConventions (.ok ()) :=
  (yields_modifyCodec _).then <| (yields_modifyCodec _).then <| (yields_modifyCodec _).then <|
    yields_codec_bind fun _ => yields_log _ _ _

/-- **Configuring the codec always succeeds**, configured or not. -/
theorem yields_ensureConfigured : Yields ensureConfigured (.ok ()) := by
  -- the flag is looked at before the lock and again behind it
  refine yields_codec_bind fun c => ?_
  split
  · exact yields_pure ()
  · refine (yields_pure ()).then ?_
    refine yields_codec_bind fun c => ?_
    split
    · exact yields_pure ()
    · exact yields_applyConventions

/-! ## §4. Reading and writing. -/

/-- The codec reads documents as they are. -/
theorem loads_eq_ok {document v : Value} : loads document = .ok v ↔ Json.read document = .ok v := by
  unfold loads
  constructor
  · intro h
    split at h
    next hread =>
      cases h
      exact hread
    next => cases h
  · intro h
    rw [h]

/-- And it writes them as they are. -/
theorem dumps_eq_ok {v : Value} {bytes : Bytes} :
    dumps v = .ok bytes ↔ Json.encode v = .ok bytes := by
  unfold dumps
  constructor
  · intro h
    split at h
    next hencode =>
      cases h
      exact hencode
    next => cases h
    next => cases h
    next => cases h
  · intro h
    rw [h]

end Codec

end EventEnvelope
