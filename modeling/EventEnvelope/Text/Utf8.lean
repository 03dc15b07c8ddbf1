/-
  EventEnvelope.Text.Utf8
  ───────────────────────
  **UTF-8: writing, and reading with an account of what is malformed.**

  Writing refuses exactly the texts that hold a surrogate and names the first run of them.
  Reading proceeds by one table, `readScalar`: it yields the next scalar value or the reason why
  the next bytes are malformed, with the number of bytes that the reason covers.  Three readers
  share it and differ only in what they do with malformed bytes:

    • `decode`              — stop with a fault,
    • `decodeKeeping`       — accept an encoded surrogate, stop otherwise,
    • `decodeReplacing`     — write U+FFFD for each malformed stretch.
-/
import EventEnvelope.Text.CodePoint

namespace EventEnvelope

/-- A byte string. -/
abbrev Bytes := List UInt8

/-- Text that has no UTF-8 form: its first run of surrogates. -/
structure LoneSurrogates where
  /-- The first surrogate. -/
  first : CodePoint
  /-- Its index in the text. -/
  start : Nat
  /-- How many surrogates follow each other there. -/
  length : Nat
deriving DecidableEq

/-- Why bytes cannot be read as text. -/
inductive Malformation
  /-- No sequence begins with this byte. -/
  | invalidStart
  /-- A byte that should continue a sequence does not. -/
  | invalidContinuation
  /-- The input ends inside a sequence. -/
  | endsInside
  /-- The input ends inside a code unit. -/
  | truncatedUnit
  /-- A unit of four bytes holds a number that is no code point. -/
  | outOfRange
deriving DecidableEq

/-- Bytes that cannot be read as text in a named encoding. -/
structure MalformedBytes where
  /-- Name of the encoding that was expected. -/
  encoding : Text
  /-- The byte where the fault begins. -/
  byte : UInt8
  /-- Its index in the input. -/
  start : Nat
  /-- How many bytes the fault covers. -/
  length : Nat
  reason : Malformation
deriving DecidableEq

namespace Utf8

/-! ## §1. Writing. -/

/-- The bytes of one code point. -/
def bytesOf (c : CodePoint) : Bytes :=
  let n := c.toNat
  if n < 0x80 then [UInt8.ofNat n]
  else if n < 0x800 then [UInt8.ofNat (0xC0 + n / 0x40), UInt8.ofNat (0x80 + n % 0x40)]
  else if n < 0x10000 then
    [UInt8.ofNat (0xE0 + n / 0x1000), UInt8.ofNat (0x80 + n / 0x40 % 0x40),
      UInt8.ofNat (0x80 + n % 0x40)]
  else
    [UInt8.ofNat (0xF0 + n / 0x40000), UInt8.ofNat (0x80 + n / 0x1000 % 0x40),
      UInt8.ofNat (0x80 + n / 0x40 % 0x40), UInt8.ofNat (0x80 + n % 0x40)]

/-- The first run of surrogates, if there is one. -/
def loneSurrogates? (t : Text) : Option LoneSurrogates :=
  match t.dropWhile (fun c => !c.isSurrogate) with
  | [] => none
  | c :: rest =>
      some ⟨c, (t.takeWhile (fun c => !c.isSurrogate)).length,
        1 + (rest.takeWhile CodePoint.isSurrogate).length⟩

/-- The bytes of a text without surrogates. -/
def encode (t : Text) : Except LoneSurrogates Bytes :=
  match loneSurrogates? t with
  | some fault => .error fault
  | none => .ok (t.flatMap bytesOf)

/-! ## §2. Reading one scalar value. -/

/-- What stands at the head of a byte string: a scalar value or a malformed stretch, with the
number of bytes it takes. -/
inductive Head
  | scalar (c : CodePoint) (length : Nat)
  | malformed (reason : Malformation) (length : Nat)

/-- A byte that may continue a sequence. -/
def isContinuation (b : UInt8) : Bool := 0x80 ≤ b && b < 0xC0

/-- The six bits that a continuation byte carries. -/
def payload (b : UInt8) : Nat := b.toNat % 0x40

/-- The second byte of a three-byte sequence: no overlong form, no surrogate. -/
def isSecondOfThree (lead b : UInt8) : Bool :=
  isContinuation b && (if b < 0xA0 then lead != 0xE0 else lead != 0xED)

/-- The second byte of a four-byte sequence: no overlong form, nothing past the last plane. -/
def isSecondOfFour (lead b : UInt8) : Bool :=
  isContinuation b && (if b < 0x90 then lead != 0xF0 else lead != 0xF4)

/-- Read the sequence that `lead` begins, given the bytes after it.  A fault covers the longest
stretch that could still have become a sequence. -/
def readScalar (lead : UInt8) (rest : Bytes) : Head :=
  if lead < 0x80 then .scalar (.ofNat lead.toNat) 1
  else if lead < 0xC2 then .malformed .invalidStart 1
  else if lead < 0xE0 then
    match rest with
    | [] => .malformed .endsInside 1
    | b :: _ =>
        if isContinuation b then .scalar (.ofNat (lead.toNat % 0x20 * 0x40 + payload b)) 2
        else .malformed .invalidContinuation 1
  else if lead < 0xF0 then
    match rest with
    | [] => .malformed .endsInside 1
    | b :: rest =>
        if isSecondOfThree lead b then
          match rest with
          | [] => .malformed .endsInside 2
          | c :: _ =>
              if isContinuation c then
                .scalar (.ofNat (lead.toNat % 0x10 * 0x1000 + payload b * 0x40 + payload c)) 3
              else .malformed .invalidContinuation 2
        else .malformed .invalidContinuation 1
  else if lead < 0xF5 then
    match rest with
    | [] => .malformed .endsInside 1
    | b :: rest =>
        if isSecondOfFour lead b then
          match rest with
          | [] => .malformed .endsInside 2
          | c :: rest =>
              if isContinuation c then
                match rest with
                | [] => .malformed .endsInside 3
                | d :: _ =>
                    if isContinuation d then
                      .scalar (.ofNat (lead.toNat % 0x08 * 0x40000 + payload b * 0x1000
                        + payload c * 0x40 + payload d)) 4
                    else .malformed .invalidContinuation 3
              else .malformed .invalidContinuation 2
        else .malformed .invalidContinuation 1
  else .malformed .invalidStart 1

/-- A surrogate in the three-byte form that strict UTF-8 forbids. -/
def readSurrogate? (lead : UInt8) : Bytes → Option CodePoint
  | b :: c :: _ =>
      if lead = 0xED ∧ 0xA0 ≤ b ∧ isContinuation b ∧ isContinuation c then
        some (.ofNat (0xD000 + payload b * 0x40 + payload c))
      else none
  | _ => none

/-! ## §3. Reading a whole byte string. -/

/-- What a reader does with a malformed stretch: go on with a code point that stands for a number
of bytes, or stop. -/
abbrev Recovery := (lead : UInt8) → (rest : Bytes) → (length : Nat) → Option (CodePoint × Nat)

/-- Read all bytes; `skip` counts those that the last scalar value has already used up. -/
def decodeFrom (recovery : Recovery) : (skip index : Nat) → Bytes → Except MalformedBytes Text
  | _, _, [] => .ok []
  | skip + 1, index, _ :: rest => decodeFrom recovery skip (index + 1) rest
  | 0, index, lead :: rest =>
      match readScalar lead rest with
      | .scalar c length =>
          (c :: ·) <$> decodeFrom recovery (length - 1) (index + 1) rest
      | .malformed reason length =>
          match recovery lead rest length with
          | some (c, used) => (c :: ·) <$> decodeFrom recovery (used - 1) (index + 1) rest
          | none => .error ⟨"utf-8", lead, index, length, reason⟩

/-- Strict reading. -/
def decode (bytes : Bytes) : Except MalformedBytes Text :=
  decodeFrom (fun _ _ _ => none) 0 0 bytes

/-- Reading that keeps encoded surrogates as they are. -/
def decodeKeeping (bytes : Bytes) : Except MalformedBytes Text :=
  decodeFrom (fun lead rest _ => (readSurrogate? lead rest).map fun c => (c, 3)) 0 0 bytes

/-- Read all bytes and write U+FFFD for each malformed stretch; `skip` as in `decodeFrom`. -/
def decodeReplacingFrom : (skip : Nat) → Bytes → Text
  | _, [] => []
  | skip + 1, _ :: rest => decodeReplacingFrom skip rest
  | 0, lead :: rest =>
      match readScalar lead rest with
      | .scalar c length => c :: decodeReplacingFrom (length - 1) rest
      | .malformed _ length => .replacement :: decodeReplacingFrom (length - 1) rest

/-- Reading that never fails. -/
def decodeReplacing (bytes : Bytes) : Text := decodeReplacingFrom 0 bytes

end Utf8

end EventEnvelope
