/-
  EventEnvelope.Proofs.Codec.Interleaving
  ───────────────────────────────────────
  **Configuring one codec from many callers at once.**

  Any number of callers ask for the configuration of one fresh codec, and their steps interleave in
  any order.  A caller looks at the flag, waits for the lock, looks again, registers the two
  modules, sets the flag, reports, releases the lock and returns.  What carries the proof is that
  the point at which a caller stands says what the codec is: behind the lock nobody else changes
  it, and without the lock a caller has got past the first look only because the flag is set.

    • `Point.advance?`, `System.step?`   — the steps of one caller, and of all of them,
    • `alone_ensureConfiguredAmid`       — a caller's steps are those of `ensureConfiguredAmid`,
    • `Advances`, `advances`             — what one step can do,
    • `Consistent`, `consistent`         — the invariant, step by step and over whole runs,
    • `configured_once`                  — the modules are registered once and the flag is set last.
-/
import Mathlib.Logic.Function.Basic
import Mathlib.Logic.Relation
import EventEnvelope.Proofs.Codec.Configuration

namespace EventEnvelope

namespace Codec

variable {ι : Type _}

/-! ## §1. The steps of a caller. -/

/-- Where a caller stands, by the step that it takes next. -/
inductive Point
  /-- The first look at the flag. -/
  | firstLook
  /-- Getting the lock. -/
  | acquire
  /-- The look at the flag behind the lock. -/
  | secondLook
  | registerMillis
  | registerDates
  | setFlag
  /-- The line in the journal. -/
  | report
  | release
  | leave
  /-- Nothing is left to do. -/
  | returned
deriving DecidableEq

/-- The caller has got the lock and has not released it. -/
def Point.isLocked : Point → Bool
  | secondLook | registerMillis | registerDates | setFlag | report | release => true
  | _ => false

/-- What the callers share: the codec with the journal, and the lock. -/
structure Shared (ι : Type _) where
  workspace : Workspace
  holder : Option ι

namespace Shared

def codec (shared : Shared ι) : Codec := shared.workspace.codec

/-- Let a step of the adapter change the codec and the journal. -/
def perform (shared : Shared ι) (x : Adapter Unit) : Shared ι :=
  { shared with workspace := (x.outcome shared.workspace).2 }

end Shared

/-- The line that the journal gets when the conventions have been applied. -/
def reportConventions : Adapter Unit := do
  let c ← Adapter.codec
  Adapter.log .debug .codec ("JSON codec configured with modules " ++ shownNames c.modules)

/-- The next step of caller `i`: where it stands then and what it leaves to all.  There is none
after the return, and none at a lock that is held. -/
def Point.advance? (i : ι) (shared : Shared ι) : Point → Option (Point × Shared ι)
  | firstLook => some (if shared.codec.isConfigured then leave else acquire, shared)
  | acquire =>
      match shared.holder with
      | none => some (secondLook, { shared with holder := some i })
      | some _ => none
  | secondLook => some (if shared.codec.isConfigured then release else registerMillis, shared)
  | registerMillis =>
      some (registerDates, shared.perform (Adapter.modifyCodec (·.register .epochMillis)))
  | registerDates => some (setFlag, shared.perform (Adapter.modifyCodec (·.register .isoDates)))
  | setFlag =>
      some (report, shared.perform (Adapter.modifyCodec (·.configure caseInsensitive true)))
  | report => some (release, shared.perform reportConventions)
  | release => some (leave, { shared with holder := none })
  | leave => some (returned, shared)
  | returned => none

/-! ## §2. One caller alone. -/

/-- One step of caller `i`. -/
def Alone (i : ι) (before after : Point × Shared ι) : Prop :=
  before.1.advance? i before.2 = some after

/-- Steps of caller `i`, one after another. -/
abbrev AloneMany (i : ι) : Point × Shared ι → Point × Shared ι → Prop :=
  Relation.ReflTransGen (Alone i)

section Alone

variable (i : ι) (w : Workspace)

/-- The first look leads to the lock or past it, whoever holds it. -/
theorem alone_firstLook (holder : Option ι) :
    Alone i (.firstLook, ⟨w, holder⟩)
      (if w.codec.isConfigured then .leave else .acquire, ⟨w, holder⟩) := rfl

theorem alone_secondLook (holder : Option ι) :
    Alone i (.secondLook, ⟨w, holder⟩)
      (if w.codec.isConfigured then .release else .registerMillis, ⟨w, holder⟩) := rfl

/-- With nothing more to decide, the conventions are applied step by step. -/
theorem alone_applyConventions (holder : Option ι) :
    AloneMany i (.registerMillis, ⟨w, holder⟩)
      (.release, ⟨(applyConventions.outcome w).2, holder⟩) :=
  .head rfl (.head rfl (.head rfl (.single rfl)))

/-- Who gets the lock does what is left to do and returns. -/
theorem alone_configureLocked :
    AloneMany i (.acquire, ⟨w, none⟩) (.returned, ⟨(configureLocked.outcome w).2, none⟩) := by
  have hbehind : AloneMany i (.secondLook, ⟨w, some i⟩)
      (.release, ⟨(configureLocked.outcome w).2, some i⟩) := by
    have hlook := alone_secondLook i w (some i)
    rw [outcome_configureLocked]
    split at hlook
    next hset =>
      rw [if_pos hset]
      exact .single hlook
    next hunset =>
      rw [if_neg hunset]
      exact .head hlook (alone_applyConventions i w (some i))
  have hrelease : AloneMany i (.release, ⟨(configureLocked.outcome w).2, some i⟩)
      (.returned, ⟨(configureLocked.outcome w).2, none⟩) := .head rfl (.single rfl)
  exact .head rfl (hbehind.trans hrelease)

/-- **A caller's steps are those of the program.**  Where `meanwhile` stands for what the others do
between a caller's first look and its getting the lock, the caller returns at once if the flag is
set, and goes on from what `meanwhile` leaves to what the program leaves if it is not. -/
theorem alone_ensureConfiguredAmid {meanwhile : Adapter Unit}
    (hmeanwhile : Adapter.Yields meanwhile (.ok ())) :
    (w.codec.isConfigured = true ∧ ((ensureConfiguredAmid meanwhile).outcome w).2 = w
        ∧ AloneMany i (.firstLook, ⟨w, none⟩) (.returned, ⟨w, none⟩))
      ∨ (w.codec.isConfigured = false
        ∧ Alone i (.firstLook, ⟨w, none⟩) (.acquire, ⟨w, none⟩)
        ∧ AloneMany i (.acquire, ⟨(meanwhile.outcome w).2, none⟩)
            (.returned, ⟨((ensureConfiguredAmid meanwhile).outcome w).2, none⟩)) := by
  have hlook := alone_firstLook i w none
  rw [outcome_ensureConfiguredAmid hmeanwhile]
  split at hlook
  next hset =>
    rw [if_pos hset]
    exact .inl ⟨hset, rfl, .head hlook (.single rfl)⟩
  next hunset =>
    rw [if_neg hunset]
    exact .inr ⟨Bool.eq_false_iff.mpr hunset, hlook, alone_configureLocked i _⟩

end Alone

/-! ## §3. What one step can do. -/

/-- The codec after the first step behind the lock, after the second, and after the last. -/
def withMillis : Codec := fresh.register .epochMillis

def withDates : Codec := withMillis.register .isoDates

def conventional : Codec := fresh.applied

theorem isConfigured_fresh : fresh.isConfigured = false := rfl

theorem isConfigured_withMillis : withMillis.isConfigured = false := rfl

theorem isConfigured_withDates : withDates.isConfigured = false := rfl

theorem isConfigured_conventional : conventional.isConfigured = true := rfl

/-- The codec at some time between the start and the end of its configuration. -/
inductive IsStage : Codec → Prop
  | untouched : IsStage fresh
  | first : IsStage withMillis
  | second : IsStage withDates
  | finished : IsStage conventional

/-- The codec has not been touched yet, or the conventions have been applied to the end. -/
def IsSettled (c : Codec) : Prop := c = fresh ∨ c = conventional

theorem IsSettled.isStage {c : Codec} (h : IsSettled c) : IsStage c := by
  rcases h with rfl | rfl
  · exact .untouched
  · exact .finished

/-- **The flag is set last**: on a codec to which all conventions have been applied. -/
theorem IsStage.eq_conventional {c : Codec} (h : IsStage c) (hflag : c.isConfigured = true) :
    c = conventional := by
  cases h with
  | untouched => exact Bool.noConfusion (isConfigured_fresh.symm.trans hflag)
  | first => exact Bool.noConfusion (isConfigured_withMillis.symm.trans hflag)
  | second => exact Bool.noConfusion (isConfigured_withDates.symm.trans hflag)
  | finished => rfl

theorem IsStage.nodup_modules {c : Codec} (h : IsStage c) : c.modules.Nodup := by
  cases h <;> decide

/-- **What a caller's standing at a point says about the codec.**  Nothing as long as it has no
lock and has not seen the flag. -/
def Point.Admits : Point → Codec → Prop
  | firstLook, _ => True
  | acquire, _ => True
  | secondLook, c => IsSettled c
  | registerMillis, c => c = fresh
  | registerDates, c => c = withMillis
  | setFlag, c => c = withDates
  | report, c => c = conventional
  | release, c => c = conventional
  | leave, c => c = conventional
  | returned, c => c = conventional

/-- Behind the lock the codec is at some stage. -/
theorem Point.Admits.isStage {p : Point} {c : Codec} (h : p.Admits c)
    (hlocked : p.isLocked = true) : IsStage c := by
  cases p with
  | firstLook => cases hlocked
  | acquire => cases hlocked
  | leave => cases hlocked
  | returned => cases hlocked
  | secondLook => exact IsSettled.isStage h
  | registerMillis =>
      cases h
      exact .untouched
  | registerDates =>
      cases h
      exact .first
  | setFlag =>
      cases h
      exact .second
  | report =>
      cases h
      exact .finished
  | release =>
      cases h
      exact .finished

/-- Without the lock a caller knows nothing that a change of an unfinished codec could spoil. -/
theorem Point.Admits.of_not_locked {p : Point} {c c' : Codec} (h : p.Admits c)
    (hlocked : p.isLocked = false) (hflag : c.isConfigured = false) : p.Admits c' := by
  have hunfinished : c ≠ conventional := by
    rintro rfl
    exact Bool.noConfusion (isConfigured_conventional.symm.trans hflag)
  cases p with
  | firstLook => trivial
  | acquire => trivial
  | leave => exact absurd h hunfinished
  | returned => exact absurd h hunfinished
  | secondLook => cases hlocked
  | registerMillis => cases hlocked
  | registerDates => cases hlocked
  | setFlag => cases hlocked
  | report => cases hlocked
  | release => cases hlocked

/-- Caller `i` at point `p` holds the lock if the point is behind it, and the point admits the
codec. -/
structure Stands (i : ι) (p : Point) (shared : Shared ι) : Prop where
  own : p.isLocked = true ↔ shared.holder = some i
  admits : p.Admits shared.codec

/-- What a step of caller `i` from point `p` can do: the lock changes hands between it and nobody,
the codec changes behind the lock only and before the flag is set, and the caller comes to a point
that admits the codec it leaves. -/
structure Advances (i : ι) (p : Point) (shared : Shared ι) (p' : Point) (shared' : Shared ι) :
    Prop where
  stands : Stands i p' shared'
  others : ∀ j, j ≠ i → (shared'.holder = some j ↔ shared.holder = some j)
  settled : shared'.holder = none → IsSettled shared'.codec
  changes : shared'.codec = shared.codec
    ∨ p.isLocked = true ∧ shared.codec.isConfigured = false

section Step

variable {i : ι} {p p' : Point} {shared shared' : Shared ι}

/-- A step that only moves the caller, on the same side of the lock. -/
theorem Advances.move (h : Stands i p shared)
    (hsettled : shared.holder = none → IsSettled shared.codec)
    (hside : p'.isLocked = p.isLocked) (hadmits : p'.Admits shared.codec) :
    Advances i p shared p' shared where
  stands := ⟨by rw [hside]; exact h.own, hadmits⟩
  others := fun _ _ => Iff.rfl
  settled := hsettled
  changes := .inl rfl

/-- A step behind the lock that lets the adapter work. -/
theorem Advances.perform (h : Stands i p shared) (x : Adapter Unit) (hlocked : p.isLocked = true)
    (hlocked' : p'.isLocked = true) (hadmits : p'.Admits (shared.perform x).codec)
    (hchanges : (shared.perform x).codec = shared.codec ∨ shared.codec.isConfigured = false) :
    Advances i p shared p' (shared.perform x) := by
  have hholder : shared.holder = some i := h.own.mp hlocked
  refine ⟨⟨⟨fun _ => hholder, fun _ => hlocked'⟩, hadmits⟩, fun _ _ => Iff.rfl, fun hnone => ?_, ?_⟩
  · have hsame : (none : Option ι) = some i := hnone.symm.trans hholder
    cases hsame
  · exact hchanges.imp id fun hflag => ⟨hlocked, hflag⟩

/-- **Every step does only what a step can do.** -/
theorem advances (hstep : p.advance? i shared = some (p', shared')) (h : Stands i p shared)
    (hsettled : shared.holder = none → IsSettled shared.codec)
    (hstage : IsStage shared.codec) : Advances i p shared p' shared' := by
  have hadmits := h.admits
  cases p with
  | firstLook =>
      cases hstep
      split
      next hset => exact .move h hsettled rfl (hstage.eq_conventional hset)
      next => exact .move h hsettled rfl trivial
  | acquire =>
      simp only [Point.advance?] at hstep
      split at hstep
      next hfree =>
        cases hstep
        refine ⟨⟨⟨fun _ => rfl, fun _ => rfl⟩, hsettled hfree⟩, fun j hj => ?_, fun hnone => ?_,
          .inl rfl⟩
        · rw [hfree]
          exact ⟨fun hsome => absurd (Option.some.inj hsome).symm hj, fun hnone => (nomatch hnone)⟩
        · cases hnone
      next => cases hstep
  | secondLook =>
      cases hstep
      split
      next hset => exact .move h hsettled rfl (hstage.eq_conventional hset)
      next hunset =>
        refine .move h hsettled rfl ?_
        -- a settled codec without the flag is the fresh one
        rcases hadmits with hfresh | hconventional
        · exact hfresh
        · rw [hconventional] at hunset
          exact absurd isConfigured_conventional hunset
  | registerMillis =>
      cases hstep
      replace hadmits : shared.codec = fresh := hadmits
      refine .perform h _ rfl rfl ?_ (.inr (hadmits ▸ isConfigured_fresh))
      show shared.codec.register .epochMillis = withMillis
      rw [hadmits, withMillis]
  | registerDates =>
      cases hstep
      replace hadmits : shared.codec = withMillis := hadmits
      refine .perform h _ rfl rfl ?_ (.inr (hadmits ▸ isConfigured_withMillis))
      show shared.codec.register .isoDates = withDates
      rw [hadmits, withDates]
  | setFlag =>
      cases hstep
      replace hadmits : shared.codec = withDates := hadmits
      refine .perform h _ rfl rfl ?_ (.inr (hadmits ▸ isConfigured_withDates))
      show shared.codec.configure caseInsensitive true = conventional
      rw [hadmits]
      rfl
  | report =>
      cases hstep
      exact .perform h reportConventions rfl rfl hadmits (.inl rfl)
  | release =>
      cases hstep
      refine ⟨⟨⟨fun hlocked => (nomatch hlocked), fun hheld => (nomatch hheld)⟩, hadmits⟩,
        fun j hj => ?_, fun _ => .inr hadmits, .inl rfl⟩
      have hheld : shared.holder = some i := h.own.mp rfl
      rw [hheld]
      exact ⟨fun hsome => (nomatch hsome), fun hsome => absurd (Option.some.inj hsome).symm hj⟩
  | leave =>
      cases hstep
      exact .move h hsettled rfl hadmits
  | returned => cases hstep

end Step

/-! ## §4. All callers. -/

/-- The points of all callers and what they share. -/
structure System (ι : Type _) where
  points : ι → Point
  shared : Shared ι

namespace System

/-- Nobody has done anything, and the codec is fresh. -/
def start (level : Level) : System ι := ⟨fun _ => .firstLook, ⟨.fresh level, none⟩⟩

/-- The codec of all callers. -/
def codec (s : System ι) : Codec := s.shared.codec

variable [DecidableEq ι]

/-- Caller `i` takes its next step, if it has one, and all others stay where they are. -/
def step? (s : System ι) (i : ι) : Option (System ι) :=
  match (s.points i).advance? i s.shared with
  | some (p, shared) => some ⟨Function.update s.points i p, shared⟩
  | none => none

/-- The callers take steps in the order of a schedule. -/
def run? (s : System ι) : List ι → Option (System ι)
  | [] => some s
  | i :: rest => (s.step? i).bind fun s' => s'.run? rest

/-- The states that some order of steps leads to. -/
inductive Reachable (level : Level) : System ι → Prop
  | start : Reachable level (start level)
  | step {s s' : System ι} (i : ι) (hs : Reachable level s) (hstep : s.step? i = some s') :
      Reachable level s'

/-- A schedule leads to reachable states only. -/
theorem Reachable.run? {level : Level} {s s' : System ι} (hs : Reachable level s)
    {schedule : List ι} (h : s.run? schedule = some s') : Reachable level s' := by
  induction schedule generalizing s with
  | nil =>
      cases h
      exact hs
  | cons i rest ih =>
      obtain ⟨next, hnext, hrest⟩ := Option.bind_eq_some_iff.mp h
      exact ih (hs.step i hnext) hrest

/-- **The invariant**: every caller stands where the codec and the lock let it stand, and without a
holder of the lock the codec is settled. -/
structure Consistent (s : System ι) : Prop where
  stands : ∀ i, Stands i (s.points i) s.shared
  settled : s.shared.holder = none → IsSettled s.codec

omit [DecidableEq ι] in
/-- With the lock held or free, the codec is at some stage of its configuration. -/
theorem Consistent.isStage {s : System ι} (h : Consistent s) : IsStage s.codec := by
  cases hholder : s.shared.holder with
  | none => exact (h.settled hholder).isStage
  | some i => exact (h.stands i).admits.isStage ((h.stands i).own.mpr hholder)

omit [DecidableEq ι] in
theorem consistent_start (level : Level) : Consistent (start level : System ι) where
  stands := fun _ => ⟨⟨fun h => (nomatch h), fun h => (nomatch h)⟩, trivial⟩
  settled := fun _ => .inl rfl

/-- **One step keeps the invariant.** -/
theorem Consistent.step {s s' : System ι} (h : Consistent s) {i : ι} (hstep : s.step? i = some s') :
    Consistent s' := by
  unfold step? at hstep
  split at hstep
  next p shared hadvance =>
    cases hstep
    have hspec := advances hadvance (h.stands i) h.settled h.isStage
    refine ⟨fun j => ?_, hspec.settled⟩
    by_cases hj : j = i
    · subst hj
      simpa using hspec.stands
    · show Stands j (Function.update s.points i p j) shared
      rw [Function.update_of_ne hj]
      refine ⟨(h.stands j).own.trans (hspec.others j hj).symm, ?_⟩
      -- the others see a change of the codec only where they know nothing of it
      rcases hspec.changes with hsame | ⟨hlocked, hflag⟩
      · rw [hsame]
        exact (h.stands j).admits
      · refine (h.stands j).admits.of_not_locked ?_ hflag
        refine Bool.eq_false_iff.mpr fun hother => hj ?_
        have hmine := (h.stands i).own.mp hlocked
        rw [(h.stands j).own.mp hother] at hmine
        exact Option.some.inj hmine
  next => cases hstep

/-- **Every order of steps keeps the invariant.** -/
theorem consistent {level : Level} {s : System ι} (h : Reachable level s) : Consistent s := by
  induction h with
  | start => exact consistent_start level
  | step i _ hstep ih => exact ih.step hstep

omit [DecidableEq ι] in
/-- Two callers behind the lock are one. -/
theorem Consistent.eq_of_isLocked {s : System ι} (h : Consistent s) {i j : ι}
    (hi : (s.points i).isLocked = true) (hj : (s.points j).isLocked = true) : i = j := by
  have hholder := (h.stands i).own.mp hi
  rw [(h.stands j).own.mp hj] at hholder
  exact (Option.some.inj hholder).symm

omit [DecidableEq ι] in
/-- A caller that has returned, or is about to, has seen the flag or set it. -/
theorem Consistent.isConfigured_of_left {s : System ι} (h : Consistent s) {i : ι}
    (hi : s.points i = .leave ∨ s.points i = .returned) : s.codec.isConfigured = true := by
  have hadmits := (h.stands i).admits
  have hcodec : s.codec = conventional := by
    rcases hi with hi | hi
    · rw [hi] at hadmits
      exact hadmits
    · rw [hi] at hadmits
      exact hadmits
  rw [hcodec]
  exact isConfigured_conventional

/-- **The codec is configured once, under any interleaving.**  Whatever order the steps of however
many callers are taken in, at most one caller is between getting and releasing the lock.  Where the
flag is set, the modules are the two of the conventions, each once, and bring their conversions.
Whoever returns does so with the flag set, and no module is ever registered twice. -/
theorem configured_once (level : Level) (s : System ι) (h : Reachable level s) :
    (∀ i j, (s.points i).isLocked = true → (s.points j).isLocked = true → i = j)
      ∧ (s.codec.isConfigured = true →
          s.codec.modules = (["epoch-millis", "iso-dates"] : List Text)
            ∧ s.codec.deserializer? .dateTime = some Scalar.dateTime
            ∧ s.codec.deserializer? .date = some Scalar.date
            ∧ s.codec.deserializer? .time = some Scalar.time)
      ∧ (∀ i, s.points i = .leave ∨ s.points i = .returned → s.codec.isConfigured = true)
      ∧ s.codec.modules.Nodup := by
  have hs := consistent h
  refine ⟨fun i j hi hj => hs.eq_of_isLocked hi hj, fun hflag => ?_,
    fun i hi => hs.isConfigured_of_left hi, hs.isStage.nodup_modules⟩
  rw [hs.isStage.eq_conventional hflag]
  exact ⟨rfl, rfl, rfl, rfl⟩

/-- Both callers see the flag unset; the second one configures the codec and returns before the
first one gets the lock. -/
def overtaking : List Bool :=
  [false] ++ List.replicate 9 true ++ List.replicate 4 false

theorem configured_once_overtaking :
    ∃ s : System Bool, Reachable .info s
      ∧ (∀ i, s.points i = .returned) ∧ s.codec.isConfigured = true
      ∧ s.codec.modules = (["epoch-millis", "iso-dates"] : List Text)
      ∧ s.codec.deserializer? .time = some Scalar.time := by
  obtain ⟨s, hrun, hreturned⟩ : ∃ s : System Bool,
      (start .info).run? overtaking = some s ∧ ∀ i, s.points i = .returned :=
    ⟨_, rfl, fun i => by cases i <;> rfl⟩
  have hs : Reachable .info s := Reachable.start.run? hrun
  obtain ⟨-, hmodules, hflag, -⟩ := configured_once .info s hs
  have hset := hflag true (.inr (hreturned true))
  exact ⟨s, hs, hreturned, hset, (hmodules hset).1, (hmodules hset).2.2.2⟩

end System

end Codec

end EventEnvelope
