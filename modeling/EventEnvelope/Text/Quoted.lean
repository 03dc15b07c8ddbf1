/-
  EventEnvelope.Text.Quoted
  ─────────────────────────
  **Quoted text and quoted bytes, for messages and logs.**

  Single quotes are used unless the text holds one and no double quote.  The quote in use and
  the backslash are escaped, the tabulator and the line ends have short escapes, and what is not
  printable is written by number: two hexadecimal digits below `0x100`, four below `0x10000`,
  eight above.
-/
import EventEnvelope.Text.Utf8
import EventEnvelope.Text.Printable

namespace EventEnvelope

namespace Quoted

def singleQuote : CodePoint := ⟨0x27, by decide⟩

def doubleQuote : CodePoint := ⟨0x22, by decide⟩

def backslash : CodePoint := ⟨0x5C, by decide⟩

/-- The quote that surrounds a text. -/
def quoteFor (t : Text) : CodePoint :=
  if singleQuote ∈ t ∧ doubleQuote ∉ t then doubleQuote else singleQuote

/-- Escapes that depend neither on the quote nor on the class of the character. -/
def shortEscape? (n : Nat) : Option Text :=
  if n = 0x5C then some "\\\\"
  else if n = 0x09 then some "\\t"
  else if n = 0x0A then some "\\n"
  else if n = 0x0D then some "\\r"
  else none

/-- A character by its number. -/
def numbered (n : Nat) : Text :=
  if n < 0x100 then "\\x" ++ Text.hex 2 n
  else if n < 0x10000 then "\\u" ++ Text.hex 4 n
  else "\\U" ++ Text.hex 8 n

/-- One character between quotes. -/
def escape (quote c : CodePoint) : Text :=
  if c = quote then [backslash, c]
  else match shortEscape? c.toNat with
    | some t => t
    | none => if c.isPrintable then [c] else numbered c.toNat

/-- A text in quotes. -/
def ofText (t : Text) : Text :=
  let quote := quoteFor t
  quote :: t.flatMap (escape quote) ++ [quote]

/-- One byte between quotes; only printable ASCII stands for itself. -/
def escapeByte (quote : CodePoint) (b : UInt8) : Text :=
  let c := CodePoint.ofNat b.toNat
  if c = quote then [backslash, c]
  else match shortEscape? b.toNat with
    | some t => t
    | none => if 0x20 ≤ b.toNat ∧ b.toNat < 0x7F then [c] else numbered b.toNat

/-- A byte string in quotes, marked with a `b`. -/
def ofBytes (bytes : Bytes) : Text :=
  let quote := quoteFor (bytes.map fun b => CodePoint.ofNat b.toNat)
  "b" ++ (quote :: bytes.flatMap (escapeByte quote)) ++ [quote]

end Quoted

end EventEnvelope
