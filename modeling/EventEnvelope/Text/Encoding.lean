/-
  EventEnvelope.Text.Encoding
  ───────────────────────────
  **Which encoding a JSON document is in, and reading it.**

  A document that begins with a byte order mark names its encoding.  Without one, the zero bytes
  among the first four tell: a JSON document begins with ASCII characters, so in a wide encoding
  some of them are zero.  All readers keep surrogates, paired ones joined in UTF-16 only.
-/
import EventEnvelope.Text.Utf8
import EventEnvelope.Text.Numeral

namespace EventEnvelope

/-! ## §1. Messages. -/

namespace Malformation

/-- The reason, in words. -/
def message : Malformation → Text
  | invalidStart => "invalid start byte"
  | invalidContinuation => "invalid continuation byte"
  | endsInside => "unexpected end of data"
  | truncatedUnit => "truncated data"
  | outOfRange => "code point not in range(0x110000)"

end Malformation

/-- A position or a range of positions. -/
def positions (start length : Nat) : Text :=
  if length = 1 then Text.ofNat start
  else Text.ofNat start ++ "-" ++ Text.ofNat (start + length - 1)

/-- What cannot be read, where and why; a single byte is shown. -/
def MalformedBytes.message (fault : MalformedBytes) : Text :=
  let what : Text :=
    if fault.length = 1 then "byte 0x" ++ Text.hex 2 fault.byte.toNat else "bytes"
  Quoted.ofText fault.encoding ++ " codec can't decode " ++ what ++ " in position "
    ++ positions fault.start fault.length ++ ": " ++ fault.reason.message

/-- What cannot be written and where; a single surrogate is shown. -/
def LoneSurrogates.message (fault : LoneSurrogates) : Text :=
  let what : Text :=
    if fault.length = 1 then "character '\\u" ++ Text.hex 4 fault.first.toNat ++ "'"
    else "characters"
  "'utf-8' codec can't encode " ++ what ++ " in position "
    ++ positions fault.start fault.length ++ ": surrogates not allowed"

/-! ## §2. Encodings and their detection. -/

/-- The encodings of a JSON document; `marked` says that a byte order mark comes first. -/
inductive TextEncoding
  | utf8 (marked : Bool)
  | utf16 (bigEndian marked : Bool)
  | utf32 (bigEndian marked : Bool)
deriving DecidableEq

namespace TextEncoding

/-- The encoding of a document without a byte order mark, from its first zero bytes. -/
def ofZeroBytes : Bytes → TextEncoding
  | a :: b :: c :: d :: _ =>
      if a = 0 then (if b = 0 then utf32 true false else utf16 true false)
      else if b = 0 then (if c = 0 ∧ d = 0 then utf32 false false else utf16 false false)
      else utf8 false
  | [a, b] =>
      if a = 0 then utf16 true false
      else if b = 0 then utf16 false false
      else utf8 false
  | _ => utf8 false

/-- The encoding of a document. -/
def detect (bytes : Bytes) : TextEncoding :=
  if [0x00, 0x00, 0xFE, 0xFF].isPrefixOf bytes then utf32 true true
  else if [0xFF, 0xFE, 0x00, 0x00].isPrefixOf bytes then utf32 false true
  else if [0xFE, 0xFF].isPrefixOf bytes then utf16 true true
  else if [0xFF, 0xFE].isPrefixOf bytes then utf16 false true
  else if [0xEF, 0xBB, 0xBF].isPrefixOf bytes then utf8 true
  else ofZeroBytes bytes

/-! ## §3. Reading. -/

/-- A number from two bytes. -/
def unit16 (bigEndian : Bool) (a b : UInt8) : Nat :=
  if bigEndian then a.toNat * 0x100 + b.toNat else b.toNat * 0x100 + a.toNat

/-- The 16-bit units of a byte string, as code points. -/
def units16 (bigEndian : Bool) : (index : Nat) → Bytes → Except MalformedBytes Text
  | _, [] => .ok []
  | index, [a] =>
      .error ⟨if bigEndian then "utf-16-be" else "utf-16-le", a, index, 1, .truncatedUnit⟩
  | index, a :: b :: rest =>
      (CodePoint.ofNat (unit16 bigEndian a b) :: ·) <$> units16 bigEndian (index + 2) rest

/-- Join each high surrogate with the low surrogate right after it. -/
def joinPairs : Text → Text
  | high :: low :: rest =>
      if high.isHighSurrogate && low.isLowSurrogate then
        CodePoint.joinSurrogates high low :: joinPairs rest
      else high :: joinPairs (low :: rest)
  | t => t

/-- The 32-bit units of a byte string, as code points. -/
def units32 (bigEndian : Bool) : (index : Nat) → Bytes → Except MalformedBytes Text
  | _, [] => .ok []
  | index, a :: b :: c :: d :: rest =>
      let n :=
        if bigEndian then unit16 true a b * 0x10000 + unit16 true c d
        else unit16 false c d * 0x10000 + unit16 false a b
      if h : n < 0x110000 then
        (⟨n, h⟩ :: ·) <$> units32 bigEndian (index + 4) rest
      else
        .error ⟨if bigEndian then "utf-32-be" else "utf-32-le", a, index, 4, .outOfRange⟩
  | index, a :: rest =>
      .error ⟨if bigEndian then "utf-32-be" else "utf-32-le", a, index, rest.length + 1,
        .truncatedUnit⟩

/-- Read a document in a known encoding.  Positions in faults count the byte order mark of a wide
encoding but not that of UTF-8. -/
def decode : TextEncoding → Bytes → Except MalformedBytes Text
  | utf8 marked, bytes => Utf8.decodeKeeping (if marked then bytes.drop 3 else bytes)
  | utf16 bigEndian marked, bytes =>
      joinPairs <$>
        (if marked then units16 bigEndian 2 (bytes.drop 2) else units16 bigEndian 0 bytes)
  | utf32 bigEndian marked, bytes =>
      if marked then units32 bigEndian 4 (bytes.drop 4) else units32 bigEndian 0 bytes

end TextEncoding

end EventEnvelope
