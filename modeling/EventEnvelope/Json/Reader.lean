/-
  EventEnvelope.Json.Reader
  ─────────────────────────
  **Reading JSON text.**

  The grammar is that of RFC 8259 with three more numbers, `NaN`, `Infinity` and `-Infinity`.  Of
  equal keys in one object the last value counts, at the place of the first.  Every reader
  takes the rest of the text and gives a value with what is left of it; a fault names its cause
  and how much text was left there, from which line and column follow.  Values may be nested to
  any depth: there is no stack here that could run out.

    • `readText`     — a string, after its opening quote,
    • `readNumber?`  — the longest number at the head of a text,
    • `readValue`    — a value; the fuel bounds the number of values and separators on the way,
    • `read`         — a whole document, from text or from bytes.
-/
import EventEnvelope.Value
import EventEnvelope.Text.Encoding

namespace EventEnvelope

namespace Json

/-! ## §1. Faults. -/

/-- Why a text is not JSON. -/
inductive Reason
  | valueExpected
  | keyExpected
  | colonExpected
  | commaExpected
  /-- The string that begins here has no closing quote. -/
  | unterminatedText
  | controlCharacter
  | unknownEscape
  /-- Four hexadecimal digits and at least one more character have to follow here. -/
  | incompleteEscape
  | trailingData
deriving DecidableEq

/-- A fault while reading: its cause and the length of the text that was left, or a numeral that
is too long. -/
inductive Stop
  | here (reason : Reason) (remaining : Nat)
  | numeral (fault : NumeralFault)
deriving DecidableEq

/-- A place in a text; lines and columns count from one, characters from zero. -/
structure Place where
  line : Nat
  column : Nat
  index : Nat
deriving DecidableEq

/-- Why a document cannot be read. -/
inductive ReadFault
  | malformed (reason : Reason) (place : Place)
  | numeral (fault : NumeralFault)
  /-- A text begins with a byte order mark, which belongs to bytes. -/
  | byteOrderMark
  | bytes (fault : MalformedBytes)
  /-- Something of this class is no document. -/
  | notADocument (typeName : Text)
deriving DecidableEq

/-- A reason in words. -/
def Reason.message : Reason → Text
  | valueExpected => "Expecting value"
  | keyExpected => "Expecting property name enclosed in double quotes"
  | colonExpected => "Expecting ':' delimiter"
  | commaExpected => "Expecting ',' delimiter"
  | unterminatedText => "Unterminated string starting at"
  | controlCharacter => "Invalid control character at"
  | unknownEscape => "Invalid \\escape"
  | incompleteEscape => "Invalid \\uXXXX escape"
  | trailingData => "Extra data"

/-- A place in words. -/
def Place.message (p : Place) : Text :=
  "line " ++ Text.ofNat p.line ++ " column " ++ Text.ofNat p.column
    ++ " (char " ++ Text.ofNat p.index ++ ")"

/-- A fault in words. -/
def ReadFault.message : ReadFault → Text
  | malformed reason place => reason.message ++ ": " ++ place.message
  | numeral fault => fault.message
  | byteOrderMark =>
      "Unexpected UTF-8 BOM (decode using utf-8-sig): line 1 column 1 (char 0)"
  | bytes fault => fault.message
  | notADocument typeName =>
      "the JSON object must be str, bytes or bytearray, not " ++ typeName

/-- The place in `document` before its last `remaining` characters. -/
def placeAt (document : Text) (remaining : Nat) : Place :=
  let index := document.length - remaining
  let before := document.take index
  let isBreak (c : CodePoint) : Bool := c.toNat == 0x0A
  ⟨1 + before.countP isBreak, 1 + (before.reverse.takeWhile fun c => !isBreak c).length, index⟩

/-! ## §2. Strings. -/

/-- The character that a one-letter escape stands for. -/
def escaped? (c : CodePoint) : Option CodePoint :=
  match c.toNat with
  | 0x22 => some c
  | 0x5C => some c
  | 0x2F => some c
  | 0x62 => some (.ofNat 0x08)
  | 0x66 => some (.ofNat 0x0C)
  | 0x6E => some (.ofNat 0x0A)
  | 0x72 => some (.ofNat 0x0D)
  | 0x74 => some (.ofNat 0x09)
  | _ => none

/-- The number that four hexadecimal digits spell. -/
def hex4? (a b c d : CodePoint) : Option Nat := do
  let a ← a.hexValue?
  let b ← b.hexValue?
  let c ← c.hexValue?
  let d ← d.hexValue?
  some (a * 0x1000 + b * 0x100 + c * 0x10 + d)

/-- One character of a string, or one unit written by its number. -/
inductive Piece
  | character (c : CodePoint)
  | unit (c : CodePoint)

/-- The text that pieces spell: a high surrogate written by number is joined with a low one that is
written by number right after it. -/
def joinPieces : List Piece → Text
  | [] => []
  | .character c :: rest => c :: joinPieces rest
  | .unit c :: .unit d :: rest =>
      if c.isHighSurrogate && d.isLowSurrogate then CodePoint.joinSurrogates c d :: joinPieces rest
      else c :: joinPieces (.unit d :: rest)
  | .unit c :: rest => c :: joinPieces rest

/-- Read the pieces of a string after its opening quote, before which `opening` characters were
left. -/
def readPieces (opening : Nat) : Text → Except Stop (List Piece × Text)
  | [] => .error (.here .unterminatedText opening)
  | c :: rest =>
      if c.toNat = 0x22 then .ok ([], rest)
      else if c.toNat = 0x5C then
        match rest with
        | [] => .error (.here .unterminatedText opening)
        | e :: rest =>
            if e.toNat = 0x75 then
              match rest with
              | h₁ :: h₂ :: h₃ :: h₄ :: next :: rest =>
                  match hex4? h₁ h₂ h₃ h₄ with
                  | some n => do
                      let (pieces, left) ← readPieces opening (next :: rest)
                      .ok (.unit (.ofNat n) :: pieces, left)
                  | none => .error (.here .incompleteEscape (rest.length + 6))
              | rest => .error (.here .incompleteEscape (rest.length + 1))
            else
              match escaped? e with
              | some d => do
                  let (pieces, left) ← readPieces opening rest
                  .ok (.character d :: pieces, left)
              | none => .error (.here .unknownEscape (rest.length + 2))
      else if c.toNat < 0x20 then .error (.here .controlCharacter (rest.length + 1))
      else do
        let (pieces, left) ← readPieces opening rest
        .ok (.character c :: pieces, left)

/-- Read a string after its opening quote. -/
def readText (opening : Nat) (t : Text) : Except Stop (Text × Text) := do
  let (pieces, left) ← readPieces opening t
  .ok (joinPieces pieces, left)

/-! ## §3. Numbers. -/

/-- The digits at the head of a text. -/
def takeDigits : Text → List Nat × Text
  | [] => ([], [])
  | c :: rest =>
      match c.digitValue? with
      | some d => let (digits, after) := takeDigits rest; (d :: digits, after)
      | none => ([], c :: rest)

/-- A number as it is written. -/
structure NumberText where
  negative : Bool
  whole : List Nat
  fraction : List Nat
  exponent : Option Int

/-- The digits of the whole part: a lone zero, or digits that begin with none. -/
def takeWhole? : Text → Option (List Nat × Text)
  | [] => none
  | c :: rest =>
      match c.digitValue? with
      | some 0 => some ([0], rest)
      | some d => let (digits, after) := takeDigits rest; some (d :: digits, after)
      | none => none

/-- A point and digits; a point without digits is left. -/
def takeFraction : Text → List Nat × Text
  | [] => ([], [])
  | c :: rest =>
      if c.toNat = 0x2E then
        match takeDigits rest with
        | ([], _) => ([], c :: rest)
        | (digits, after) => (digits, after)
      else ([], c :: rest)

/-- The mark of an exponent, its sign and digits; a mark without digits is left. -/
def takeExponent : Text → Option Int × Text
  | [] => (none, [])
  | c :: rest =>
      if c.toNat = 0x65 ∨ c.toNat = 0x45 then
        let (negative, body) := Numeral.readSign rest
        match takeDigits body with
        | ([], _) => (none, c :: rest)
        | (digits, after) =>
            (some (if negative then -(natOfDigits digits : Int) else natOfDigits digits), after)
      else (none, c :: rest)

/-- The longest number at the head of a text. -/
def readNumber? (t : Text) : Option (NumberText × Text) := do
  let negative := (t.head?.map fun c => c.toNat == 0x2D).getD false
  let (whole, rest) ← takeWhole? (if negative then t.drop 1 else t)
  let (fraction, rest) := takeFraction rest
  let (exponent, rest) := takeExponent rest
  some (⟨negative, whole, fraction, exponent⟩, rest)

/-- A number without fraction and exponent is an integer, any other a double. -/
def NumberText.value (n : NumberText) : Except Stop Value :=
  match n.fraction, n.exponent with
  | [], none =>
      if digitLimit < n.whole.length then .error (.numeral (.tooManyDigits n.whole.length))
      else
        .ok (.int (if n.negative then -(natOfDigits n.whole : Int) else natOfDigits n.whole))
  | fraction, exponent =>
      .ok (.float (.ofDecimal n.negative (natOfDigits (n.whole ++ fraction))
        (exponent.getD 0 - fraction.length)))

/-! ## §4. Values. -/

/-- White space between tokens. -/
def isBlank (c : CodePoint) : Bool :=
  c.toNat == 0x20 || c.toNat == 0x09 || c.toNat == 0x0A || c.toNat == 0x0D

def skipBlanks (t : Text) : Text := t.dropWhile isBlank

/-- The words that stand for values. -/
def words : List (Text × Value) :=
  [("null", .null), ("true", .bool true), ("false", .bool false),
    ("NaN", .float .nan), ("Infinity", .float (.infinite false)),
    ("-Infinity", .float (.infinite true))]

/-- A word at the head of a text. -/
def readWord? (t : Text) : Option (Value × Text) :=
  (words.find? fun word => word.1.isPrefixOf t).map fun word => (word.2, t.drop word.1.length)

mutual

/-- Read a value at the head of a text. -/
def readValue : (fuel : Nat) → Text → Except Stop (Value × Text)
  | 0, t => .error (.here .valueExpected t.length)
  | _ + 1, [] => .error (.here .valueExpected 0)
  | fuel + 1, c :: rest =>
      if c.toNat = 0x22 then do
        let (text, left) ← readText (c :: rest).length rest
        .ok (.text text, left)
      else if c.toNat = 0x7B then
        match skipBlanks rest with
        | d :: left =>
            if d.toNat = 0x7D then .ok (.object [], left)
            else do
              let (members, left) ← readMembers fuel (d :: left)
              .ok (.object (OrderedMap.ofEntries members), left)
        | [] => .error (.here .keyExpected 0)
      else if c.toNat = 0x5B then
        match skipBlanks rest with
        | d :: left =>
            if d.toNat = 0x5D then .ok (.list [], left)
            else do
              let (items, left) ← readElements fuel (d :: left)
              .ok (.list items, left)
        | [] => .error (.here .valueExpected 0)
      else
        match readWord? (c :: rest) with
        | some (value, left) => .ok (value, left)
        | none =>
            match readNumber? (c :: rest) with
            | some (number, left) => do
                let value ← number.value
                .ok (value, left)
            | none => .error (.here .valueExpected (c :: rest).length)

/-- Read the elements of an array, up to its closing bracket. -/
def readElements : (fuel : Nat) → Text → Except Stop (List Value × Text)
  | 0, t => .error (.here .valueExpected t.length)
  | fuel + 1, t => do
      let (value, left) ← readValue fuel t
      match skipBlanks left with
      | [] => .error (.here .commaExpected 0)
      | c :: left =>
          if c.toNat = 0x5D then .ok ([value], left)
          else if c.toNat = 0x2C then do
            let (values, left) ← readElements fuel (skipBlanks left)
            .ok (value :: values, left)
          else .error (.here .commaExpected (c :: left).length)

/-- Read the members of an object, up to its closing brace. -/
def readMembers : (fuel : Nat) → Text → Except Stop (List (Value × Value) × Text)
  | 0, t => .error (.here .keyExpected t.length)
  | _ + 1, [] => .error (.here .keyExpected 0)
  | fuel + 1, c :: rest =>
      if c.toNat = 0x22 then do
        let (key, left) ← readText (c :: rest).length rest
        match skipBlanks left with
        | [] => .error (.here .colonExpected 0)
        | d :: left =>
            if d.toNat = 0x3A then do
              let (value, left) ← readValue fuel (skipBlanks left)
              match skipBlanks left with
              | [] => .error (.here .commaExpected 0)
              | e :: left =>
                  if e.toNat = 0x7D then .ok ([(.text key, value)], left)
                  else if e.toNat = 0x2C then do
                    let (members, left) ← readMembers fuel (skipBlanks left)
                    .ok ((.text key, value) :: members, left)
                  else .error (.here .commaExpected (e :: left).length)
            else .error (.here .colonExpected (d :: left).length)
      else .error (.here .keyExpected (c :: rest).length)

end

/-! ## §5. Documents. -/

/-- Read a text that holds one value and nothing else but blanks.  Each level of a value
takes at least one character, so the length of the text is fuel enough. -/
def readWhole (t : Text) : Except Stop Value := do
  let (value, left) ← readValue (2 * t.length + 1) (skipBlanks t)
  let left := skipBlanks left
  if left.isEmpty then .ok value else .error (.here .trailingData left.length)

/-- Read a text, placing its fault. -/
def readPlaced (t : Text) : Except ReadFault Value :=
  match readWhole t with
  | .ok value => .ok value
  | .error (.here reason remaining) => .error (.malformed reason (placeAt t remaining))
  | .error (.numeral fault) => .error (.numeral fault)

/-- Read bytes in the encoding that they announce. -/
def readBytes (bytes : Bytes) : Except ReadFault Value :=
  match (TextEncoding.detect bytes).decode bytes with
  | .ok text => readPlaced text
  | .error fault => .error (.bytes fault)

/-- Read a document: text or bytes. -/
def read : Value → Except ReadFault Value
  | .text t =>
      if t.head?.map CodePoint.toNat = some 0xFEFF then .error .byteOrderMark else readPlaced t
  | .bytes b | .buffer b => readBytes b
  | v => .error (.notADocument v.typeName)

end Json

end EventEnvelope
