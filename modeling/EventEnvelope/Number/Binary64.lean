/-
  EventEnvelope.Number.Binary64
  ─────────────────────────────
  **Double-precision numbers as exact dyadic values.**

  A finite number is `± mantissa · 2 ^ exponent`, kept in one form: the mantissa has 53 bits,
  or fewer when the exponent is the least one.  The constructor asks for that form
  (`IsCanonical`), so no other number can be built and equal numbers are the same.  Every
  operation computes an exact ratio of natural numbers and rounds it once, to nearest with ties to
  even (`ofRatio`), so there is nothing to know about the arithmetic but the ratio.
-/
import EventEnvelope.Text.Numeral

namespace EventEnvelope

namespace Binary64

/-- The number of bits of a mantissa. -/
def precision : Nat := 53

/-- The exponent of the numbers next to zero. -/
def leastExponent : Int := -1074

/-- The exponent of the largest numbers. -/
def greatestExponent : Int := 971

/-- The form in which finite numbers are kept: a mantissa of 53 bits, or of fewer for the least
exponent. -/
structure IsCanonical (m : Nat) (e : Int) : Prop where
  mantissa : m < Nat.pow 2 53
  least : leastExponent ≤ e
  greatest : e ≤ greatestExponent
  normal : Nat.pow 2 52 ≤ m ∨ e = leastExponent

instance (m : Nat) (e : Int) : Decidable (IsCanonical m e) :=
  decidable_of_iff
    (m < Nat.pow 2 53 ∧ leastExponent ≤ e ∧ e ≤ greatestExponent
      ∧ (Nat.pow 2 52 ≤ m ∨ e = leastExponent))
    ⟨fun ⟨mantissa, least, greatest, normal⟩ => ⟨mantissa, least, greatest, normal⟩,
      fun h => ⟨h.mantissa, h.least, h.greatest, h.normal⟩⟩

end Binary64

/-- A double-precision number. -/
inductive Binary64
  | nan
  | infinite (negative : Bool)
  /-- The number `± mantissa · 2 ^ exponent`. -/
  | finite (negative : Bool) (mantissa : Nat) (exponent : Int)
      (canonical : Binary64.IsCanonical mantissa exponent)
deriving DecidableEq

/-- The natural number nearest to `num / den`, a tie going to the even one. -/
def roundHalfEven (num den : Nat) : Nat :=
  let q := num / den
  let r := num % den
  if 2 * r < den then q
  else if den < 2 * r then q + 1
  else if q % 2 = 0 then q else q + 1

namespace Binary64

def zero (negative : Bool) : Binary64 := finite negative 0 leastExponent (by decide)

/-- A ratio times a power of two, as a ratio. -/
def scaleByTwo (num den : Nat) (k : Int) : Nat × Nat :=
  if 0 ≤ k then (num * Nat.pow 2 k.toNat, den) else (num, den * Nat.pow 2 (-k).toNat)

/-- The exponent for the positive ratio `num / den`: the mantissa it leaves lies below `2 ^ 53`,
and at or above `2 ^ 52` unless the exponent is the least one. -/
def exponentFor (num den : Nat) : Int :=
  let guess : Int := (Nat.log2 num : Int) - Nat.log2 den - 52
  let (n, d) := scaleByTwo num den (-guess)
  max leastExponent (if n < d * Nat.pow 2 52 then guess - 1 else guess)

/-- A rounded mantissa as a double: one that has come up to `2 ^ 53` is carried into the exponent,
and what has no form even then lies beyond the largest number and is infinite. -/
def carried (negative : Bool) (m : Nat) (e : Int) : Binary64 :=
  let (m, e) := if m = Nat.pow 2 precision then (Nat.pow 2 (precision - 1), e + 1) else (m, e)
  if h : IsCanonical m e then finite negative m e h else infinite negative

/-- The double nearest to `± num / den`, a tie going to the even mantissa; what rounds past the
largest number is infinite. -/
def ofRatio (negative : Bool) (num den : Nat) : Binary64 :=
  if num = 0 then zero negative
  else
    let e := exponentFor num den
    let (n, d) := scaleByTwo num den (-e)
    carried negative (roundHalfEven n d) e

/-- The magnitude of a finite number, as a ratio. -/
def ratio (mantissa : Nat) (exponent : Int) : Nat × Nat := scaleByTwo mantissa 1 exponent

/-- The double nearest to an integer. -/
def ofInt (n : Int) : Binary64 := ofRatio (n < 0) n.natAbs 1

/-- The number times `num / den`, rounded once. -/
def scale (num den : Nat) : Binary64 → Binary64
  | finite negative m e _ => let (n, d) := ratio m e; ofRatio negative (n * num) (d * den)
  | x => x

/-- The integer part of a finite number, toward zero. -/
def truncate? : Binary64 → Option Int
  | finite negative m e _ =>
      let (n, d) := ratio m e
      some (if negative then -((n / d : Nat) : Int) else (n / d : Nat))
  | _ => none

/-- The natural number nearest to a finite number without its sign, a tie going to the even one. -/
def roundMagnitude : Binary64 → Nat
  | finite _ m e _ => let (n, d) := ratio m e; roundHalfEven n d
  | _ => 0

/-! ## §1. Decimal text to number. -/

/-- The double nearest to `± coefficient · 10 ^ exponent`.  Exponents so far out that every
coefficient of that many digits overflows or vanishes are not expanded. -/
def ofDecimal (negative : Bool) (coefficient : Nat) (exponent : Int) : Binary64 :=
  if coefficient = 0 then zero negative
  else
    let digits : Int := (Nat.toDigits 10 coefficient).length
    if 400 < digits + exponent then infinite negative
    else if digits + exponent < -400 then zero negative
    else if 0 ≤ exponent then ofRatio negative (coefficient * Nat.pow 10 exponent.toNat) 1
    else ofRatio negative coefficient (Nat.pow 10 (-exponent).toNat)

end Binary64

end EventEnvelope
