/-
  EventEnvelope.Text.Blank
  ────────────────────────
  **Blank characters.**

  The white space of Unicode together with the four ASCII separators `0x1C … 0x1F`; these are the
  characters that trimming removes.
-/
import EventEnvelope.Text.CodePoint

namespace EventEnvelope

/-- Membership in a sorted table of closed ranges. -/
def inRanges (table : List (Nat × Nat)) (n : Nat) : Bool :=
  table.any fun range => range.1 ≤ n && n ≤ range.2

/-- The blank characters, as closed ranges. -/
def blankRanges : List (Nat × Nat) :=
  [(0x9, 0xD), (0x1C, 0x20), (0x85, 0x85), (0xA0, 0xA0), (0x1680, 0x1680), (0x2000, 0x200A),
    (0x2028, 0x2029), (0x202F, 0x202F), (0x205F, 0x205F), (0x3000, 0x3000)]

namespace CodePoint

/-- Unicode white space or an ASCII separator. -/
def isBlank (c : CodePoint) : Bool := inRanges blankRanges c.toNat

/-- The six blanks of ASCII text that precede or follow a number. -/
def isAsciiBlank (c : CodePoint) : Bool := (9 ≤ c.toNat && c.toNat ≤ 13) || c.toNat == 0x20

end CodePoint

/-- The text without blanks at its ends. -/
def Text.strip (t : Text) : Text := t.trim CodePoint.isBlank

end EventEnvelope
