/-
  EventEnvelope.Number.Decimal
  ────────────────────────────
  **Decimal numbers of any length.**

  A finite decimal keeps its coefficient and exponent, so `2.50` and `2.5` are written
  differently and are equal.  Arithmetic happens in a context of 28 digits:
  the remainder by one exists only when the quotient fits into it, and a remainder
  smaller than the context can express counts as zero.

    • `Decimal.toText`, `ofText?`   — the scientific text form and its reader,
    • `Decimal.toNumber`            — an integer if the remainder by one is zero, else a double,
    • `Magnitude`                   — one form for equal numbers of different types.
-/
import EventEnvelope.Number.Binary64

namespace EventEnvelope

/-- A decimal number. -/
inductive Decimal
  /-- The number `± coefficient · 10 ^ exponent`. -/
  | finite (negative : Bool) (coefficient : Nat) (exponent : Int)
  | infinity (negative : Bool)
  /-- Not a number; a positive `diagnostic` is part of its text.  Arithmetic refuses a signaling
  one. -/
  | nan (negative signaling : Bool) (diagnostic : Nat)
deriving DecidableEq

/-- Why decimal arithmetic has no result. -/
inductive DecimalFault
  | invalidOperation
  /-- The quotient has more digits than the context. -/
  | divisionImpossible
deriving DecidableEq

/-- A fault's message names the condition. -/
def DecimalFault.message : DecimalFault → Text
  | invalidOperation => "[<class 'decimal.InvalidOperation'>]"
  | divisionImpossible => "[<class 'decimal.DivisionImpossible'>]"

namespace Decimal

/-- Digits of the arithmetic context. -/
def precision : Nat := 28

/-- The exponent of the smallest number of the arithmetic context. -/
def tiniestExponent : Int := -1000026

/-! ## §1. Text. -/

/-- Text of a finite magnitude: positional while the exponent is not positive and at most five
zeros follow the point, else with an exponent. -/
def magnitudeText (coefficient : Nat) (exponent : Int) : Text :=
  let digits := Text.ofNat coefficient
  let left : Int := exponent + digits.length
  let place : Int := if exponent ≤ 0 ∧ -6 < left then left else 1
  let written : Text :=
    if place ≤ 0 then
      "0." ++ List.replicate (-place).toNat (CodePoint.ofChar '0') ++ digits
    else if (digits.length : Int) ≤ place then
      digits ++ List.replicate (place - digits.length).toNat (CodePoint.ofChar '0')
    else digits.take place.toNat ++ "." ++ digits.drop place.toNat
  if left = place then written
  else written ++ "E" ++ (if left - place < 0 then "-" else "+") ++ Text.ofNat (left - place).natAbs

/-- Text of a decimal. -/
def toText : Decimal → Text
  | finite negative c e => (if negative then "-" else "") ++ magnitudeText c e
  | infinity negative => (if negative then "-" else "") ++ "Infinity"
  | nan negative signaling diagnostic =>
      (if negative then "-" else "") ++ (if signaling then "sNaN" else "NaN")
        ++ (if diagnostic = 0 then ([] : Text) else Text.ofNat diagnostic)

/-- Values of a text made of ASCII digits only. -/
def digitValues? (t : Text) : Option (List Nat) := t.mapM CodePoint.digitValue?

/-- Read an exponent: a sign and digits. -/
def readExponent? (t : Text) : Option Int :=
  let (negative, digits) := Numeral.readSign t
  match digitValues? digits with
  | some (d :: ds) =>
      some (if negative then -(natOfDigits (d :: ds) : Int) else natOfDigits (d :: ds))
  | _ => none

/-- Read digits, a point among them, and an exponent. -/
def readMagnitude? (negative : Bool) (t : Text) : Option Decimal := do
  let (significand, exponent) := Text.splitFirst (.ofChar 'e') (t.map CodePoint.toLowerAscii)
  let exponent ← match exponent with
    | some e => readExponent? e
    | none => some 0
  let (whole, fraction) := Text.splitFirst (.ofChar '.') significand
  let fraction := fraction.getD []
  let digits ← digitValues? (whole ++ fraction)
  if digits.isEmpty then none
  else some (finite negative (natOfDigits digits) (exponent - fraction.length))

/-- Read a decimal. -/
def ofText? (t : Text) : Option Decimal :=
  let (negative, body) := Numeral.readSign t
  let name := body.map CodePoint.toLowerAscii
  let diagnostic? (digits : Text) : Option Nat := (digitValues? digits).map natOfDigits
  if name = Text.ofString "infinity" ∨ name = Text.ofString "inf" then some (infinity negative)
  else if (Text.ofString "nan").isPrefixOf name then
    (diagnostic? (name.drop 3)).map (nan negative false)
  else if (Text.ofString "snan").isPrefixOf name then
    (diagnostic? (name.drop 4)).map (nan negative true)
  else readMagnitude? negative body

/-! ## §2. Arithmetic. -/

/-- The number of digits of a coefficient. -/
def digitCount (coefficient : Nat) : Nat := (Nat.toDigits 10 coefficient).length

/-- In the arithmetic context this magnitude rounds to zero. -/
def vanishes (coefficient : Nat) (exponent : Int) : Bool :=
  coefficient == 0
    || (digitCount coefficient + exponent < tiniestExponent
      || (digitCount coefficient + exponent == tiniestExponent
        && 2 * coefficient ≤ Nat.pow 10 (digitCount coefficient)))

/-- The magnitude without its fraction. -/
def wholePart (coefficient : Nat) (exponent : Int) : Nat :=
  if 0 ≤ exponent then coefficient * Nat.pow 10 exponent.toNat
  else if digitCount coefficient + exponent ≤ 0 then 0
  else coefficient / Nat.pow 10 (-exponent).toNat

/-- The coefficient of the remainder by one. -/
def fractionCoefficient (coefficient : Nat) (exponent : Int) : Nat :=
  if 0 ≤ exponent then 0
  else if digitCount coefficient + exponent ≤ 0 then coefficient
  else coefficient % Nat.pow 10 (-exponent).toNat

/-- The remainder by one is zero. -/
def isWhole : Decimal → Except DecimalFault Bool
  | finite _ c e =>
      if c = 0 then .ok true
      else if precision < digitCount c + e then .error .divisionImpossible
      else .ok (vanishes (fractionCoefficient c e) e)
  | infinity _ => .error .invalidOperation
  | nan _ signaling _ => if signaling then .error .invalidOperation else .ok false

/-- The integer part of a finite decimal, the nearest double of any other. -/
def toNumber (x : Decimal) : Except DecimalFault (Int ⊕ Binary64) := do
  match x, ← x.isWhole with
  | finite negative c e, true =>
      let n := wholePart c e
      return .inl (if negative then -(n : Int) else n)
  | finite negative c e, false => return .inr (.ofDecimal negative c e)
  | infinity negative, _ => return .inr (.infinite negative)
  | nan .., _ => return .inr .nan

end Decimal

/-! ## §3. Equal numbers of different types. -/

/-- A number as such: equal numbers have the same `Magnitude`, whatever type they come from. -/
inductive Magnitude
  /-- The number `± coefficient · 10 ^ exponent`, the coefficient without trailing zeros. -/
  | finite (negative : Bool) (coefficient : Nat) (exponent : Int)
  | infinite (negative : Bool)
deriving DecidableEq

namespace Magnitude

/-- Move trailing zeros of the coefficient into the exponent, at most `fuel` of them. -/
def stripZeros : (fuel : Nat) → Nat → Int → Nat × Int
  | 0, c, e => (c, e)
  | fuel + 1, c, e => if c % 10 = 0 then stripZeros fuel (c / 10) (e + 1) else (c, e)

def ofScaled (negative : Bool) (coefficient : Nat) (exponent : Int) : Magnitude :=
  if coefficient = 0 then finite false 0 0
  else
    let (c, e) := stripZeros (Decimal.digitCount coefficient) coefficient exponent
    finite negative c e

def ofInt (n : Int) : Magnitude := ofScaled (n < 0) n.natAbs 0

def ofBinary64? : Binary64 → Option Magnitude
  | .nan => none
  | .infinite negative => some (infinite negative)
  | .finite negative m e _ =>
      some (if 0 ≤ e then ofScaled negative (m * Nat.pow 2 e.toNat) 0
        else ofScaled negative (m * Nat.pow 5 (-e).toNat) e)

def ofDecimal? : Decimal → Option Magnitude
  | .finite negative c e => some (ofScaled negative c e)
  | .infinity negative => some (infinite negative)
  | .nan .. => none

end Magnitude

end EventEnvelope
