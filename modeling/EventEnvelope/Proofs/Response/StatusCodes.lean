/-
  EventEnvelope.Proofs.Response.StatusCodes
  ─────────────────────────────────────────
  **Which header values are status codes.**

  A status code is an integer, or a text that spells one in decimal digits of any script, blanks
  around them left aside.  Any other value is to be refused as none.  The test that a text has to
  pass takes digits in the wide sense, the reader behind it takes decimal digits up to a limit; a
  text between the two is neither a code nor refused as none.  Nor is a value that cannot be shown,
  since the message that refuses it shows it.

    • `Denotes`                 — the header value stands for this code,
    • `CoercionLaw`             — what becomes of a value, in each case,
    • `statusCode_coercion`     — every response keeps to that law.
-/
import EventEnvelope.Proofs.Response.Failures

namespace EventEnvelope

namespace Response

/-! ## §1. The kinds of values. -/

/-- The header value stands for this status code: it is an integer, but no truth value, or a text
that spells it in decimal digits within the limit. -/
inductive Denotes : Value → Int → Prop
  | int (n : Int) : Denotes (.int n) n
  /-- A named status is an integer too. -/
  | status (s : HttpStatus) : Denotes (.status s) s.code
  | text (t : Text) (hne : t.strip ≠ []) (hdecimal : ∀ c ∈ t.strip, c.decimalValue? ≠ none)
      (hlimit : t.strip.length ≤ digitLimit) :
      Denotes (.text t) (natOfDigits (t.strip.filterMap CodePoint.decimalValue?))

theorem statusCodeOf_of_denotes {v : Value} {n : Int} (h : Denotes v n) :
    statusCodeOf v = .ok n := by
  cases h with
  | int n => rfl
  | status s => rfl
  | text t hne hdecimal hlimit =>
      have hdigits := Text.isDigits_of_decimal hne hdecimal
      have hsign := Numeral.readSign_of_isDigits hdigits
      rw [statusCodeOf, if_pos hdigits, Numeral.read_decimal hsign hdigits hdecimal,
        if_neg (by omega)]
      rfl

/-- A value stands for one code at most. -/
theorem Denotes.unique {v : Value} {m n : Int} (hm : Denotes v m) (hn : Denotes v n) : m = n := by
  have hcode := statusCodeOf_of_denotes hm
  rw [statusCodeOf_of_denotes hn] at hcode
  cases hcode
  rfl

/-- Every integer is a code, whatever its size. -/
theorem ne_int_of_not_denotes {v : Value} (hnone : ∀ n, ¬ Denotes v n) : ∀ n, v ≠ .int n := by
  rintro n rfl
  exact hnone n (.int n)

/-- **Any other value is refused**: a text without digits, and whatever is neither an integer nor a
text, if it can be shown. -/
theorem statusCodeOf_of_other {v : Value} (hnone : ∀ n, ¬ Denotes v n)
    (hpasses : ¬ PassesForNumber v) (hshow : ¬ v.Unshowable) :
    kindOf? (statusCodeOf v) = some .statusCode := by
  cases hcode : statusCodeOf v with
  | error failure =>
      rcases statusCodeOf_error hcode with hkind | ⟨-, hother | ⟨-, hother⟩⟩
      · exact congrArg some hkind
      · exact absurd hother hpasses
      · exact absurd hother hshow
  | ok n =>
      cases v with
      | int n => exact absurd (.int n) (hnone n)
      | status s => exact absurd (.status s) (hnone s.code)
      | text t =>
          -- digits that are neither too many nor of another sort would be a code
          have hdigits : ¬ t.strip.isDigits = true := by
            intro hdigits
            have hne : t.strip ≠ [] := by
              rintro hnil
              rw [hnil] at hdigits
              cases hdigits
            refine hnone _ (.text t hne (fun c hc hother => ?_) (Nat.le_of_not_lt fun hlimit => ?_))
            · exact hpasses (.lookalike t hdigits ⟨c, hc, hother⟩)
            · exact hpasses (.tooLong t hdigits hlimit)
          rw [statusCodeOf, if_neg hdigits] at hcode
          cases hcode
      | _ =>
          obtain ⟨text, -, hcode⟩ := bind_eq_ok.mp hcode
          cases hcode

/-! ## §2. The law. -/

/-- What becomes of a header value that is to be a status code. -/
structure CoercionLaw (v : Value) (r : Except Failure Int) : Prop where
  /-- The code is the one that the value stands for. -/
  code : ∀ n, r = .ok n ↔ Denotes v n
  /-- A value that stands for none is refused as a status code, unless it passes for a number or
  cannot be shown. -/
  refusal : kindOf? r = some .statusCode
    ↔ (∀ n, ¬ Denotes v n) ∧ ¬ PassesForNumber v ∧ ¬ v.Unshowable
  /-- There is one other kind of failure, and it befalls the values that pass for a number, and
  those that stand for no code and cannot be shown. -/
  escape : ∀ kind, (kindOf? r = some kind ∧ kind ≠ .statusCode)
    ↔ kind = .value ∧ (∀ n, ¬ Denotes v n) ∧ (PassesForNumber v ∨ v.Unshowable)

/-- The law for values that stand for a code. -/
theorem coercionLaw_ok {v : Value} {n : Int} (hn : Denotes v n) : CoercionLaw v (.ok n) := by
  refine ⟨fun m => ⟨fun h => ?_, fun hm => ?_⟩, ⟨fun h => ?_, fun h => ?_⟩,
    fun kind => ⟨fun h => ?_, fun h => ?_⟩⟩
  · cases h
    exact hn
  · rw [hm.unique hn]
  · cases h
  · exact absurd hn (h.1 n)
  · cases h.1
  · exact absurd hn (h.2.1 n)

section Failing

variable {v : Value} {failure : Failure} (hnone : ∀ n, ¬ Denotes v n)
include hnone

/-- The law for values that pass for a number or cannot be shown: the failure is one of value. -/
theorem coercionLaw_value (hv : PassesForNumber v ∨ v.Unshowable) (hvalue : failure.kind = .value) :
    CoercionLaw v (.error failure) := by
  have hkind : kindOf? (.error failure : Except Failure Int) = some .value :=
    congrArg some hvalue
  refine ⟨fun m => ⟨fun h => ?_, fun hm => absurd hm (hnone m)⟩, ⟨fun h => ?_, fun h => ?_⟩,
    fun kind => ⟨fun h => ⟨?_, hnone, hv⟩, fun h => ?_⟩⟩
  · cases h
  · rw [hkind] at h
    cases h
  · exact absurd hv (not_or.mpr h.2)
  · rw [hkind] at h
    exact (Option.some.inj h.1).symm
  · rw [h.1]
    exact ⟨hkind, by decide⟩

/-- The law for all other values, which are refused. -/
theorem coercionLaw_refused (hpasses : ¬ PassesForNumber v) (hshow : ¬ v.Unshowable)
    (hrefused : failure.kind = .statusCode) : CoercionLaw v (.error failure) := by
  have hkind : kindOf? (.error failure : Except Failure Int) = some .statusCode :=
    congrArg some hrefused
  refine ⟨fun m => ⟨fun h => ?_, fun hm => absurd hm (hnone m)⟩,
    ⟨fun _ => ⟨hnone, hpasses, hshow⟩, fun _ => hkind⟩, fun kind => ⟨fun h => ?_, fun h => ?_⟩⟩
  · cases h
  · rw [hkind] at h
    exact absurd (Option.some.inj h.1).symm h.2
  · exact absurd h.2.2 (not_or.mpr ⟨hpasses, hshow⟩)

end Failing

/-- **Every value keeps to the law**: those of each kind have their own outcome. -/
theorem coercionLaw (v : Value) : CoercionLaw v (statusCodeOf v) := by
  by_cases hcode : ∃ n, Denotes v n
  · obtain ⟨n, hn⟩ := hcode
    rw [statusCodeOf_of_denotes hn]
    exact coercionLaw_ok hn
  have hnone : ∀ n, ¬ Denotes v n := fun n hn => hcode ⟨n, hn⟩
  by_cases hpasses : PassesForNumber v
  · obtain ⟨failure, herror, hvalue⟩ := kindOf?_eq_some.mp (statusCodeOf_of_passes hpasses)
    rw [herror]
    exact coercionLaw_value hnone (.inl hpasses) hvalue
  by_cases hshow : v.Unshowable
  · rw [statusCodeOf_of_unshowable (ne_int_of_not_denotes hnone) hshow]
    exact coercionLaw_value hnone (.inr hshow) rfl
  · obtain ⟨failure, herror, hrefused⟩ :=
      kindOf?_eq_some.mp (statusCodeOf_of_other hnone hpasses hshow)
    rw [herror]
    exact coercionLaw_refused hnone hpasses hshow hrefused

end Response

end EventEnvelope
