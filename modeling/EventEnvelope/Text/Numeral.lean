/-
  EventEnvelope.Text.Numeral
  ──────────────────────────
  **Integers as text.**

  Writing is plain decimal.  Reading accepts decimal digits of any script, single underscores
  between digits, one sign and blanks around, and refuses numerals of more than `digitLimit`
  digits: a longer one would make conversion slow, so it is an error of its own.  Where values
  become text the same limit holds (`Text.ofInt?`).
-/
import EventEnvelope.Text.Digit
import EventEnvelope.Text.Quoted

namespace EventEnvelope

/-- The most digits that a numeral may have. -/
def digitLimit : Nat := 4300

namespace Text

/-- A natural number in decimal. -/
def ofNat (n : Nat) : Text := (Nat.toDigits 10 n).map CodePoint.ofChar

/-- An integer in decimal. -/
def ofInt : Int → Text
  | .ofNat n => ofNat n
  | .negSucc n => "-" ++ ofNat (n + 1)

/-- An integer in decimal, if it has no more digits than the limit. -/
def ofInt? (n : Int) : Option Text :=
  if digitLimit < (ofNat n.natAbs).length then none else some (ofInt n)

/-- A natural number with zeros in front, at least `width` digits. -/
def padded (width n : Nat) : Text :=
  let digits := ofNat n
  List.replicate (width - digits.length) (.ofChar '0') ++ digits

end Text

/-- The number that a list of digit values spells. -/
def natOfDigits (digits : List Nat) : Nat := digits.foldl (fun n d => 10 * n + d) 0

/-- Why a text is not an integer. -/
inductive NumeralFault
  /-- The text is no numeral. -/
  | notANumeral (t : Text)
  /-- The numeral has this many digits, more than the limit. -/
  | tooManyDigits (count : Nat)
deriving DecidableEq

/-- The limit, as a message begins to explain it. -/
def digitLimitExceeded : Text :=
  "Exceeds the limit (" ++ Text.ofNat digitLimit ++ " digits) for integer string conversion"

/-- What a message advises about the limit. -/
def digitLimitAdvice : Text := "; use sys.set_int_max_str_digits() to increase the limit"

namespace NumeralFault

/-- The message for a fault; a quoted text is cut after two hundred characters. -/
def message : NumeralFault → Text
  | notANumeral t => "invalid literal for int() with base 10: " ++ (Quoted.ofText t).take 200
  | tooManyDigits count =>
      digitLimitExceeded ++ ": value has " ++ Text.ofNat count ++ " digits" ++ digitLimitAdvice

end NumeralFault

namespace Numeral

/-- A blank that may surround a numeral. -/
def isMargin (c : CodePoint) : Bool := c.isAsciiBlank || (0x7F ≤ c.toNat && c.isBlank)

/-- The character between two groups of digits. -/
def isUnderscore (c : CodePoint) : Bool := c.toNat == 0x5F

/-- Digits and underscores at the head of a text: the digit values, whether each underscore
stands between two digits, and what follows.  With `mustContinue` a digit has to come next. -/
def readDigitGroups : (mustContinue : Bool) → Text → List Nat × Bool × Text
  | mustContinue, [] => ([], !mustContinue, [])
  | mustContinue, c :: rest =>
      match c.decimalValue? with
      | some d =>
          let (digits, wellPlaced, after) := readDigitGroups false rest
          (d :: digits, wellPlaced, after)
      | none =>
          if isUnderscore c && !mustContinue then readDigitGroups true rest
          else ([], !mustContinue && !isUnderscore c, c :: rest)

/-- The sign of a numeral (true for minus) and what follows it. -/
def readSign : Text → Bool × Text
  | c :: rest =>
      if c.toNat = 0x2D then (true, rest)
      else if c.toNat = 0x2B then (false, rest)
      else (false, c :: rest)
  | [] => (false, [])

/-- Read a whole text as an integer. -/
def read (t : Text) : Except NumeralFault Int :=
  let (negative, body) := readSign (t.dropWhile isMargin)
  let (digits, wellPlaced, after) := readDigitGroups true body
  if digits.isEmpty || !wellPlaced then .error (.notANumeral t)
  else if digitLimit < digits.length then .error (.tooManyDigits digits.length)
  else if after.all isMargin then
    .ok (if negative then -(natOfDigits digits : Int) else natOfDigits digits)
  else .error (.notANumeral t)

end Numeral

end EventEnvelope
