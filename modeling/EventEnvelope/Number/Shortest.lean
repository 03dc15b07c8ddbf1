/-
  EventEnvelope.Number.Shortest
  ─────────────────────────────
  **The shortest decimal text that reads back as the same double.**

  The reals that round to `m · 2 ^ e` form an interval, closed exactly when `m` is even.  For
  one digit, two digits, … the two neighbours of the number on that decimal grid are tried; the
  first grid with a hit wins, of two hits the nearer, and of two equally near the even one.
  Positional notation is used from `0.0001` up to `10 ^ 16`, and outside an exponent of at least
  two digits.
-/
import EventEnvelope.Number.Binary64

namespace EventEnvelope

namespace Binary64

/-! ## §1. Digits. -/

/-- `num / den` times a power of ten, as a ratio. -/
def scaleByTen (num den : Nat) (k : Int) : Nat × Nat :=
  if 0 ≤ k then (num * Nat.pow 10 k.toNat, den) else (num, den * Nat.pow 10 (-k).toNat)

/-- The `k` with `10 ^ (k - 1) ≤ num / den < 10 ^ k`, for a positive ratio.  The binary length
gives a lower estimate that is at most two short. -/
def decimalPoint (num den : Nat) : Int :=
  let estimate : Int := (((Nat.log2 num : Int) - Nat.log2 den - 1) * 30103) / 100000
  let below (k : Int) : Bool := let (n, d) := scaleByTen num den (-k); n < d
  if below estimate then estimate
  else if below (estimate + 1) then estimate + 1
  else estimate + 2

/-- A double's magnitude and the interval of reals that round to it, over one denominator. -/
structure RoundingInterval where
  low : Nat
  value : Nat
  high : Nat
  denominator : Nat
  /-- The ends belong to the interval. -/
  closed : Bool

/-- The interval of a positive double; below a power of two the lower half is narrower. -/
def roundingInterval (m : Nat) (e : Int) : RoundingInterval :=
  let low := if m = Nat.pow 2 52 ∧ leastExponent < e then 4 * m - 1 else 4 * m - 2
  let (unit, d) := scaleByTwo 1 4 e
  ⟨low * unit, 4 * m * unit, (4 * m + 2) * unit, d, m % 2 = 0⟩

/-- The ratio `num / den` lies in the interval. -/
def RoundingInterval.contains (i : RoundingInterval) (num den : Nat) : Bool :=
  if i.closed then i.low * den ≤ num * i.denominator && num * i.denominator ≤ i.high * den
  else i.low * den < num * i.denominator && num * i.denominator < i.high * den

/-- The multiple of `10 ^ (point - count)` that reads back as the number and is nearest to it. -/
def onGrid? (i : RoundingInterval) (point : Int) (count : Nat) : Option Nat :=
  let (n, d) := scaleByTen i.value i.denominator (count - point)
  let lower := n / d
  let reads (c : Nat) : Bool :=
    let (cn, cd) := scaleByTen c 1 (point - count)
    i.contains cn cd
  match reads lower, reads (lower + 1) with
  | true, true => some (roundHalfEven n d)
  | true, false => some lower
  | false, true => some (lower + 1)
  | false, false => none

/-- The least number of digits, from `count` on, whose grid has a hit, with that hit; `more` grids
are tried. -/
def searchGrids (i : RoundingInterval) (point : Int) : (more count : Nat) → Nat × Nat
  | 0, count => ((onGrid? i point count).getD 0, count)
  | more + 1, count =>
      match onGrid? i point count with
      | some c => (c, count)
      | none => searchGrids i point more (count + 1)

/-- Shortest digits of a positive double and the place of the decimal point before which they
stand: `0.d₁d₂… · 10 ^ point`. -/
def shortestDigits (m : Nat) (e : Int) : Text × Int :=
  let (n, d) := ratio m e
  let point := decimalPoint n d
  let (c, count) := searchGrids (roundingInterval m e) point 16 1
  let digits := Text.ofNat c
  -- a hit at the next power of ten has one digit too many
  let point := if count < digits.length then point + 1 else point
  (((digits.reverse.dropWhile (· = .ofChar '0')).reverse), point)

/-! ## §2. Notation. -/

/-- `n` zeros. -/
def zeros (n : Nat) : Text := List.replicate n (.ofChar '0')

/-- Digits with the decimal point at `point`, in positional notation with a fraction. -/
def positional (digits : Text) (point : Int) : Text :=
  if point ≤ 0 then "0." ++ zeros (-point).toNat ++ digits
  else
    let whole := point.toNat
    if digits.length ≤ whole then digits ++ zeros (whole - digits.length) ++ ".0"
    else digits.take whole ++ "." ++ digits.drop whole

/-- Digits in scientific notation. -/
def scientific (digits : Text) (point : Int) : Text :=
  let exponent := point - 1
  let fraction : Text := if digits.length ≤ 1 then [] else "." ++ digits.drop 1
  let sign : Text := if exponent < 0 then "-" else "+"
  digits.take 1 ++ fraction ++ "e" ++ sign ++ Text.padded 2 exponent.natAbs

/-- Text of a positive double. -/
def magnitudeText (m : Nat) (e : Int) : Text :=
  let (digits, point) := shortestDigits m e
  if -4 < point ∧ point ≤ 16 then positional digits point else scientific digits point

/-- The spellings of the numbers that have no digits. -/
structure SpecialNames where
  nan : Text
  infinity : Text

/-- Shortest text of a double, with the given names for the special ones. -/
def toTextWith (names : SpecialNames) : Binary64 → Text
  | nan => names.nan
  | infinite negative => (if negative then "-" else "") ++ names.infinity
  | finite negative m e _ =>
      (if negative then "-" else "") ++ (if m = 0 then ("0.0" : Text) else magnitudeText m e)

/-- Shortest text of a double. -/
def toText (x : Binary64) : Text := x.toTextWith ⟨"nan", "inf"⟩

end Binary64

end EventEnvelope
