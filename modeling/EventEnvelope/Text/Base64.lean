/-
  EventEnvelope.Text.Base64
  ─────────────────────────
  **Bytes as digits in base sixty-four.**

  Three bytes are four digits of six bits each.  Everything that is no digit is skipped, the mark
  that fills up the last group included, and bits that make no whole byte are dropped.
-/
import EventEnvelope.Text.Utf8

namespace EventEnvelope

namespace Base64

/-- The number that a digit stands for. -/
def digitValue? (c : CodePoint) : Option Nat :=
  let n := c.toNat
  if 0x41 ≤ n ∧ n ≤ 0x5A then some (n - 0x41)
  else if 0x61 ≤ n ∧ n ≤ 0x7A then some (n - 0x61 + 26)
  else if 0x30 ≤ n ∧ n ≤ 0x39 then some (n - 0x30 + 52)
  else if n = 0x2B then some 62
  else if n = 0x2F then some 63
  else none

/-- The bytes that digits spell. -/
def bytesOfDigits : List Nat → Bytes
  | p :: q :: r :: s :: rest =>
      UInt8.ofNat (p * 4 + q / 16) :: UInt8.ofNat (q % 16 * 16 + r / 4)
        :: UInt8.ofNat (r % 4 * 64 + s) :: bytesOfDigits rest
  | [p, q, r] => [UInt8.ofNat (p * 4 + q / 16), UInt8.ofNat (q % 16 * 16 + r / 4)]
  | [p, q] => [UInt8.ofNat (p * 4 + q / 16)]
  | _ => []

/-- The bytes that a text spells. -/
def decode (t : Text) : Bytes := bytesOfDigits (t.filterMap digitValue?)

end Base64

end EventEnvelope
