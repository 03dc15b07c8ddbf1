/-
  EventEnvelope.Text.CodePoint
  ────────────────────────────
  **Text as a list of code points, lone surrogates included.**

  A JSON string may spell half of a surrogate pair (backslash, `ud800`), and such a half has to
  travel through the whole adapter until some stage refuses it.  Core's `Char` has no
  room for it, so text here is a list of arbitrary code points below `0x110000`.

    • `CodePoint`, `Text`          — the carrier, with coercions from `Char` and `String`,
    • `CodePoint.isSurrogate`      — the code points that no UTF-8 text can hold,
    • `Text.trim`, `replaceAll`, `splitFirst` — the few list operations the adapter needs.
-/

namespace EventEnvelope

/-- A Unicode code point; the surrogates `0xD800 … 0xDFFF` count as code points. -/
structure CodePoint where
  toNat : Nat
  isLt : toNat < 0x110000
deriving DecidableEq

namespace CodePoint

theorem toNat_char_lt (c : Char) : c.toNat < 0x110000 := by
  rcases c.valid with h | h
  · exact Nat.lt_trans h (by decide)
  · exact h.2

/-- The code point of a scalar value. -/
def ofChar (c : Char) : CodePoint := ⟨c.toNat, toNat_char_lt c⟩

instance : Coe Char CodePoint := ⟨ofChar⟩

/-- The replacement character, written for input that cannot be read. -/
def replacement : CodePoint := ⟨0xFFFD, by decide⟩

/-- The code point with number `n`; numbers out of range give the replacement character. -/
def ofNat (n : Nat) : CodePoint :=
  if h : n < 0x110000 then ⟨n, h⟩ else replacement

theorem toNat_ofNat {n : Nat} (h : n < 0x110000) : (ofNat n).toNat = n := by
  simp [ofNat, h]

@[simp] theorem ofNat_toNat (c : CodePoint) : ofNat c.toNat = c := by
  simp [ofNat, c.isLt]

theorem toNat_inj {c d : CodePoint} : c.toNat = d.toNat ↔ c = d := by
  cases c; cases d; simp

/-- First half of a surrogate pair. -/
def isHighSurrogate (c : CodePoint) : Bool := 0xD800 ≤ c.toNat && c.toNat ≤ 0xDBFF

/-- Second half of a surrogate pair. -/
def isLowSurrogate (c : CodePoint) : Bool := 0xDC00 ≤ c.toNat && c.toNat ≤ 0xDFFF

/-- Either half of a surrogate pair. -/
def isSurrogate (c : CodePoint) : Bool := 0xD800 ≤ c.toNat && c.toNat ≤ 0xDFFF

/-- The code point that a high and a low surrogate stand for together. -/
def joinSurrogates (high low : CodePoint) : CodePoint :=
  ofNat (0x10000 + (high.toNat - 0xD800) * 0x400 + (low.toNat - 0xDC00))

/-- An ASCII digit's value. -/
def digitValue? (c : CodePoint) : Option Nat :=
  if 0x30 ≤ c.toNat ∧ c.toNat ≤ 0x39 then some (c.toNat - 0x30) else none

/-- An ASCII hexadecimal digit's value, in either case. -/
def hexValue? (c : CodePoint) : Option Nat :=
  if 0x30 ≤ c.toNat ∧ c.toNat ≤ 0x39 then some (c.toNat - 0x30)
  else if 0x41 ≤ c.toNat ∧ c.toNat ≤ 0x46 then some (c.toNat - 0x37)
  else if 0x61 ≤ c.toNat ∧ c.toNat ≤ 0x66 then some (c.toNat - 0x57)
  else none

/-- The lower-case hexadecimal digit of a number below sixteen. -/
def hexDigit (n : Nat) : CodePoint := ofNat (if n < 10 then 0x30 + n else 0x57 + n)

/-- Lower-case ASCII letter for an upper-case one; any other code point is left alone. -/
def toLowerAscii (c : CodePoint) : CodePoint :=
  if 0x41 ≤ c.toNat ∧ c.toNat ≤ 0x5A then ofNat (c.toNat + 0x20) else c

end CodePoint

/-- Text is a list of code points. -/
abbrev Text := List CodePoint

namespace Text

/-- The code points of a string literal. -/
def ofString (s : String) : Text := s.toList.map CodePoint.ofChar

instance : Coe String Text := ⟨ofString⟩

/-- `n` in hexadecimal, padded with zeros to `width` digits (longer numbers lose their head). -/
def hex : (width : Nat) → (n : Nat) → Text
  | 0, _ => []
  | width + 1, n => hex width (n / 16) ++ [CodePoint.hexDigit (n % 16)]

/-- The text holds half of a surrogate pair somewhere, so it has no UTF-8 form. -/
def hasSurrogate (t : Text) : Bool := t.any CodePoint.isSurrogate

/-- Drop the members of a class at both ends. -/
def trim (p : CodePoint → Bool) (t : Text) : Text :=
  ((t.dropWhile p).reverse.dropWhile p).reverse

/-- Write `new` for every occurrence of the code point `old`. -/
def replaceAll (old : CodePoint) (new t : Text) : Text :=
  t.flatMap fun c => if c = old then new else [c]

/-- Split at the first occurrence of `mark`: what is before it, and, if it occurs, what is after. -/
def splitFirst (mark : CodePoint) (t : Text) : Text × Option Text :=
  match t.dropWhile (· ≠ mark) with
  | [] => (t, none)
  | _ :: after => (t.takeWhile (· ≠ mark), some after)

/-- Pieces with `separator` between them. -/
def joinWith (separator : Text) : List Text → Text
  | [] => []
  | [t] => t
  | t :: u :: rest => t ++ separator ++ joinWith separator (u :: rest)

end Text

end EventEnvelope
