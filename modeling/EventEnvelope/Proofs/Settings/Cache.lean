/-
  EventEnvelope.Proofs.Settings.Cache
  ───────────────────────────────────
  **Which environment the settings in use come from.**

  A process changes variables, asks for its settings and resets them, in any order.  What it is
  given depends on an environment of the past: the one at the first reading since the last reset.
  The invariant of a run says what the cache holds after a history; every action keeps it, and the
  answer to a reading is read off it.

    • `IsCaseVariant`, `flag_eq_true_iff`     — when a switch is on,
    • `Action`, `answers`, `environmentAfter` — runs of a process and the variables they leave,
    • `untilRead`                             — the history up to the reading that counts,
    • `Remembers`, `remembers_after`          — what the cache holds after a history,
    • `settings_in_use`                       — what every reading of every run is given.
-/
import EventEnvelope.Settings
import Mathlib.Data.List.DropRight
import Mathlib.Data.List.Forall2
import Mathlib.Data.List.Induction

namespace EventEnvelope

namespace Settings

/-! ## §1. Switches. -/

/-- The text is the word, each letter as it stands or as its capital. -/
def IsCaseVariant (t : Text) (word : String) : Prop :=
  List.Forall₂ (fun c letter => c = .ofChar letter ∨ c = .ofChar letter.toUpper) t word.toList

/-- A capital stands 32 places before its small letter. -/
theorem toNat_toUpper {letter : Char} (h : letter.isLower = true) :
    0x61 ≤ letter.toNat ∧ letter.toNat ≤ 0x7A ∧ letter.toUpper.toNat + 0x20 = letter.toNat := by
  have hrange : 'a'.val ≤ letter.val ∧ letter.val ≤ 'z'.val := by
    obtain ⟨hlow, hhigh⟩ := Bool.and_eq_true_iff.mp h
    exact ⟨of_decide_eq_true hlow, of_decide_eq_true hhigh⟩
  have hlow : 0x61 ≤ letter.val.toNat := UInt32.le_iff_toNat_le.mp hrange.1
  have hhigh : letter.val.toNat ≤ 0x7A := UInt32.le_iff_toNat_le.mp hrange.2
  have hupper : letter.toUpper.val = letter.val + ('A'.val - 'a'.val) := by
    delta Char.toUpper
    rw [dif_pos hrange]
  refine ⟨hlow, hhigh, ?_⟩
  show letter.toUpper.val.toNat + 0x20 = letter.val.toNat
  rw [hupper, UInt32.toNat_add]
  -- the distance between the cases is negative, so the sum goes once around
  show (letter.val.toNat + 0xFFFFFFE0) % 0x100000000 + 0x20 = letter.val.toNat
  omega

/-- A small letter comes from itself and from its capital. -/
theorem toLowerAscii_eq_iff {c : CodePoint} {letter : Char} (h : letter.isLower = true) :
    c.toLowerAscii = .ofChar letter ↔ c = .ofChar letter ∨ c = .ofChar letter.toUpper := by
  obtain ⟨hlow, hhigh, hupper⟩ := toNat_toUpper h
  rw [← CodePoint.toNat_inj, ← CodePoint.toNat_inj, ← CodePoint.toNat_inj, CodePoint.toLowerAscii]
  show _ = letter.toNat ↔ c.toNat = letter.toNat ∨ c.toNat = letter.toUpper.toNat
  split
  next hcapital =>
    rw [CodePoint.toNat_ofNat (by omega)]
    omega
  next => omega

/-- **A text is the word in some case exactly if its small letters are the word.** -/
theorem isCaseVariant_iff {t : Text} {word : String}
    (h : ∀ letter ∈ word.toList, letter.isLower = true) :
    IsCaseVariant t word ↔ t.map CodePoint.toLowerAscii = Text.ofString word := by
  unfold IsCaseVariant Text.ofString
  generalize word.toList = letters at h
  induction t generalizing letters with
  | nil => cases letters <;> simp
  | cons c rest ih =>
      cases letters with
      | nil => simp
      | cons letter letters =>
          obtain ⟨hletter, hletters⟩ := List.forall_mem_cons.mp h
          rw [List.forall₂_cons, List.map_cons, List.map_cons, List.cons.injEq,
            toLowerAscii_eq_iff hletter, ih letters hletters]

/-- A switch is on: its variable spells `true`, or is not set and the switch is on by itself. -/
def IsOn (env : Environment) (name : Text) (default : Bool) : Prop :=
  (∃ value, env.get? name = some value ∧ IsCaseVariant value "true")
    ∨ (env.get? name = none ∧ default = true)

theorem flag_eq_true_iff {env : Environment} {name : Text} {default : Bool} :
    flag env name default = true ↔ IsOn env name default := by
  unfold flag IsOn
  cases env.get? name with
  | none => simp
  | some value =>
      have hvariant : IsCaseVariant value "true" ↔ _ := isCaseVariant_iff (by simp)
      simp [hvariant]

/-- The switches among the settings stand as the environment has them. -/
structure Switched (env : Environment) (s : Settings) : Prop where
  stripBodyQuotes : s.stripBodyQuotes = true ↔ IsOn env "EVENT_ADAPTER_STRIP_BODY_QUOTES" true
  lenientParse : s.lenientParse = true ↔ IsOn env "EVENT_ADAPTER_LENIENT_PARSE" false
  logPayloads : s.logPayloads = true ↔ IsOn env "EVENT_ADAPTER_LOG_PAYLOADS" true

theorem switched_ofEnvironment (env : Environment) : Switched env (ofEnvironment env) :=
  ⟨flag_eq_true_iff, flag_eq_true_iff, flag_eq_true_iff⟩

/-! ## §2. Runs. -/

/-- What a process does with its variables and its settings. -/
inductive Action where
  /-- A variable is given a value. -/
  | set (name value : Text)
  /-- A variable is removed. -/
  | unset (name : Text)
  /-- The settings are forgotten. -/
  | reset
  /-- The settings are asked for. -/
  | read
deriving DecidableEq

/-- The variables that an action leaves. -/
def Action.change : Action → Environment → Environment
  | .set name value, env => env.insert name value
  | .unset name, env => env.erase name
  | .reset, env => env
  | .read, env => env

/-- The variables that a history leaves. -/
def environmentAfter (env : Environment) (history : List Action) : Environment :=
  history.foldl (fun env action => action.change env) env

/-- One action on the cache: the settings given, if they are asked for, and the cache it leaves. -/
def Cache.perform (c : Cache) : Action → Option Settings × Cache
  | .set name value => (none, c.setVariable name value)
  | .unset name => (none, c.unsetVariable name)
  | .reset => (none, c.reset)
  | .read => (some c.get.1, c.get.2)

/-- The cache that a history leaves. -/
def Cache.after (c : Cache) (history : List Action) : Cache :=
  history.foldl (fun c action => (c.perform action).2) c

/-- What each action of a history is given. -/
def Cache.answers : Cache → List Action → List (Option Settings)
  | _, [] => []
  | c, action :: rest => (c.perform action).1 :: Cache.answers (c.perform action).2 rest

/-- An action is answered by the cache that the actions before it leave. -/
theorem Cache.getElem?_answers (c : Cache) (earlier later : List Action) (action : Action) :
    (c.answers (earlier ++ action :: later))[earlier.length]?
      = some ((c.after earlier).perform action).1 := by
  induction earlier generalizing c with
  | nil => rfl
  | cons first rest ih => exact ih (c.perform first).2

/-! ## §3. The reading that counts. -/

/-- The actions after the last reset, or all of them. -/
def sinceReset (history : List Action) : List Action := history.rtakeWhile (· != .reset)

/-- The history up to the first reading after the last reset, without that reading; the whole
history if there is none. -/
def untilRead (history : List Action) : List Action :=
  history.rdropWhile (· != .reset) ++ (sinceReset history).takeWhile (· != .read)

theorem sinceReset_concat {history : List Action} {action : Action} (h : action ≠ .reset) :
    sinceReset (history ++ [action]) = sinceReset history ++ [action] := by
  rw [sinceReset, sinceReset, List.rtakeWhile_concat, if_pos (by simpa using h)]

theorem sinceReset_concat_reset (history : List Action) :
    sinceReset (history ++ [.reset]) = [] := by
  rw [sinceReset, List.rtakeWhile_concat, if_neg (by simp)]

/-- Without a reading since the last reset, the whole history counts. -/
theorem untilRead_of_notMem {history : List Action} (h : .read ∉ sinceReset history) :
    untilRead history = history := by
  have hall : (sinceReset history).takeWhile (· != .read) = sinceReset history :=
    List.takeWhile_eq_self_iff.mpr fun action haction => by
      simpa using fun heq : action = .read => h (heq ▸ haction)
  rw [untilRead, hall, sinceReset, List.rdropWhile_append_rtakeWhile]

/-- A reading that is there counts, whatever follows before a reset; and one that follows counts
only for what comes after it. -/
theorem untilRead_concat {history : List Action} {action : Action} (hreset : action ≠ .reset)
    (hread : .read ∈ sinceReset history ∨ action = .read) :
    untilRead (history ++ [action]) = untilRead history := by
  have hdrop : (history ++ [action]).rdropWhile (· != .reset)
      = history.rdropWhile (· != .reset) := by
    rw [List.rdropWhile_concat, if_pos (by simpa using hreset)]
  rw [untilRead, untilRead, hdrop, sinceReset_concat hreset, List.takeWhile_append]
  congr 1
  split
  next hlength =>
    -- no reading so far, so the action is one
    have hall : (sinceReset history).takeWhile (· != .read) = sinceReset history :=
      (List.takeWhile_prefix _).eq_of_length hlength
    have hnone : .read ∉ sinceReset history := fun hmem => by
      have := List.takeWhile_eq_self_iff.mp hall .read hmem
      simp at this
    obtain rfl := hread.resolve_left hnone
    simp [hall]
  next => rfl

/-- After a reading, only a reset makes later variables count. -/
theorem untilRead_append_read {earlier between : List Action} (h : .reset ∉ between) :
    .read ∈ sinceReset (earlier ++ .read :: between)
      ∧ untilRead (earlier ++ .read :: between) = untilRead earlier := by
  induction between using List.reverseRecOn with
  | nil =>
      refine ⟨?_, untilRead_concat (by simp) (.inr rfl)⟩
      rw [sinceReset_concat (by simp)]
      simp
  | append_singleton between action ih =>
      have haction : action ≠ .reset := fun heq => h (by simp [heq])
      obtain ⟨hread, hsame⟩ := ih fun hmem => h (by simp [hmem])
      rw [← List.cons_append, ← List.append_assoc]
      refine ⟨?_, (untilRead_concat haction (.inl hread)).trans hsame⟩
      rw [sinceReset_concat haction]
      exact List.mem_append_left _ hread

/-! ## §4. What the cache holds. -/

theorem environmentAfter_concat (env : Environment) (history : List Action) (action : Action) :
    environmentAfter env (history ++ [action]) = action.change (environmentAfter env history) := by
  simp [environmentAfter]

/-- The cache holds the variables as the history leaves them and, if they were read since the last
reset, the settings that were read first. -/
structure Remembers (env : Environment) (history : List Action) (c : Cache) : Prop where
  environment : c.environment = environmentAfter env history
  kept : c.kept = if .read ∈ sinceReset history
    then some (ofEnvironment (environmentAfter env (untilRead history))) else none

/-- What is read comes from the environment that counts. -/
theorem Remembers.get {env : Environment} {history : List Action} {c : Cache}
    (h : Remembers env history c) :
    c.get.1 = ofEnvironment (environmentAfter env (untilRead history)) := by
  have hkept := h.kept
  by_cases hread : .read ∈ sinceReset history
  · rw [if_pos hread] at hkept
    simp [Cache.get, hkept]
  · rw [if_neg hread] at hkept
    -- nothing is kept, so the variables of the moment count
    simp [Cache.get, hkept, h.environment, untilRead_of_notMem hread]

/-- Reading keeps what is read, and the variables. -/
theorem Cache.get_keeps (c : Cache) :
    c.get.2.environment = c.environment ∧ c.get.2.kept = some c.get.1 := by
  unfold Cache.get
  split
  next settings hkept => exact ⟨rfl, hkept⟩
  next => exact ⟨rfl, rfl⟩

/-- **Every action keeps the invariant.** -/
theorem Remembers.perform {env : Environment} {history : List Action} {c : Cache}
    (h : Remembers env history c) (action : Action) :
    Remembers env (history ++ [action]) (c.perform action).2 := by
  -- a change of the variables leaves what is kept, whichever change it is
  have hchange : ∀ action : Action, action ≠ .reset → action ≠ .read →
      c.kept = if .read ∈ sinceReset (history ++ [action])
        then some (ofEnvironment (environmentAfter env (untilRead (history ++ [action]))))
        else none := by
    intro action hreset hread
    have hsame : .read ∈ sinceReset (history ++ [action]) ↔ .read ∈ sinceReset history := by
      simp [sinceReset_concat hreset, hread.symm]
    rw [h.kept, if_congr hsame rfl rfl]
    split
    next hmem => rw [untilRead_concat hreset (.inl hmem)]
    next => rfl
  cases action with
  | set name value =>
      refine ⟨?_, hchange _ (by simp) (by simp)⟩
      rw [environmentAfter_concat, ← h.environment]
      rfl
  | unset name =>
      refine ⟨?_, hchange _ (by simp) (by simp)⟩
      rw [environmentAfter_concat, ← h.environment]
      rfl
  | reset =>
      refine ⟨?_, ?_⟩
      · rw [environmentAfter_concat, ← h.environment]
        rfl
      · rw [sinceReset_concat_reset, if_neg (by simp)]
        rfl
  | read =>
      obtain ⟨henvironment, hkept⟩ := c.get_keeps
      refine ⟨?_, ?_⟩
      · rw [environmentAfter_concat, ← h.environment]
        exact henvironment
      · rw [sinceReset_concat (by simp), if_pos (by simp), untilRead_concat (by simp) (.inr rfl),
          ← h.get]
        exact hkept

theorem remembers_nil (env : Environment) : Remembers env [] ⟨env, none⟩ := ⟨rfl, rfl⟩

/-- **A run that starts with an empty cache keeps the invariant throughout.** -/
theorem remembers_after (env : Environment) (history : List Action) :
    Remembers env history (Cache.after ⟨env, none⟩ history) := by
  induction history using List.reverseRecOn with
  | nil => exact remembers_nil env
  | append_singleton history action ih =>
      rw [Cache.after, List.foldl_append]
      exact ih.perform action

/-- **The settings in use are those of the first reading since the last reset.**  Wherever a run
that starts with an empty cache asks for the settings, it is given those of the environment that
counts then; so two readings with no reset between them are given the same, whatever happens to
the variables.  In the settings of an environment each switch stands as its variable says. -/
theorem settings_in_use (env : Environment) :
    (∀ earlier later : List Action,
      (Cache.answers ⟨env, none⟩ (earlier ++ .read :: later))[earlier.length]?
        = some (some (ofEnvironment (environmentAfter env (untilRead earlier)))))
    ∧ (∀ earlier between later : List Action, .reset ∉ between →
      let given := Cache.answers ⟨env, none⟩ (earlier ++ .read :: (between ++ .read :: later))
      given[(earlier ++ .read :: between).length]? = given[earlier.length]?)
    ∧ Switched env (ofEnvironment env) := by
  have hread : ∀ earlier later : List Action,
      (Cache.answers ⟨env, none⟩ (earlier ++ .read :: later))[earlier.length]?
        = some (some (ofEnvironment (environmentAfter env (untilRead earlier)))) := by
    intro earlier later
    rw [Cache.getElem?_answers]
    exact congrArg (some ∘ some) (remembers_after env earlier).get
  refine ⟨hread, fun earlier between later hreset => ?_, switched_ofEnvironment env⟩
  have hlater := hread (earlier ++ .read :: between) later
  rw [(untilRead_append_read hreset).2, List.append_assoc, List.cons_append] at hlater
  exact hlater.trans (hread earlier (between ++ .read :: later)).symm

/-- A variable that is set after a reading shows once the settings are reset. -/
theorem settings_in_use_lenient :
    let given := Cache.answers ⟨[], none⟩
      [.read, .set "EVENT_ADAPTER_LENIENT_PARSE" "True", .read, .reset, .read]
    given[2]? = given[0]?
      ∧ given[0]? = some (some { lenientParse := false })
      ∧ given[4]? = some (some { lenientParse := true }) := by
  refine ⟨(settings_in_use []).2.1 [] [.set _ _] [.reset, .read] (by decide), ?_, ?_⟩
  · exact ((settings_in_use []).1 [] _).trans (by decide +kernel)
  · exact ((settings_in_use []).1 [.read, .set _ _, .read, .reset] []).trans (by decide +kernel)

end Settings

end EventEnvelope
