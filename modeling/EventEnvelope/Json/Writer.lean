/-
  EventEnvelope.Json.Writer
  ─────────────────────────
  **Writing values as JSON text.**

  A `Style` says what stands between entries and what becomes of values that JSON has no form for:
  the codec converts those it knows and refuses the others, the command line writes their text.
  Conversions are: date-times to epoch milliseconds, dates and times to ISO text, decimals to
  numbers, event objects to the object they wrap, records to objects, bytes to the text they hold.
  Non-ASCII characters stand for themselves; a double that is no number is written by name.
  Values may be nested to any depth: there is no stack here that could run out.  The one endless
  descent is that of copying a record around a value that contains itself.

    • `writeText`    — a string with the escapes it needs,
    • `copyFault?`   — what keeps a value from being copied,
    • `write`        — a value,
    • `encode`       — a value as compact UTF-8.
-/
import EventEnvelope.Value.Display
import EventEnvelope.Calendar.Epoch
import EventEnvelope.Text.Encoding

namespace EventEnvelope

namespace Json

/-! ## §1. Faults. -/

/-- Why a value cannot be written. -/
inductive WriteFault
  /-- A key of this class has no text form. -/
  | keyNotAllowed (typeName : Text)
  /-- A value of this class has no JSON form. -/
  | notSerializable (typeName : Text)
  /-- A record holds something of this class, which cannot be copied. -/
  | notCopyable (typeName : Text)
  | circular
  /-- A record holds a value that contains itself, and copying it does not end. -/
  | endless
  /-- An integer has more digits than the limit. -/
  | tooManyDigits
  | bytes (fault : MalformedBytes)
  | surrogates (fault : LoneSurrogates)
  | decimal (fault : DecimalFault)
deriving DecidableEq

/-- A fault in words. -/
def WriteFault.message : WriteFault → Text
  | keyNotAllowed typeName => "keys must be str, int, float, bool or None, not " ++ typeName
  | notSerializable typeName => "Object of type " ++ typeName ++ " is not JSON serializable"
  | notCopyable typeName => "cannot pickle '" ++ typeName ++ "' object"
  | circular => "Circular reference detected"
  | endless => "maximum recursion depth exceeded"
  | tooManyDigits => digitLimitExceeded ++ digitLimitAdvice
  | bytes fault => fault.message
  | surrogates fault => fault.message
  | decimal fault => fault.message

/-! ## §2. Styles. -/

/-- What to write for a value that JSON has no form for. -/
inductive Fallback
  /-- Convert what the codec knows, refuse the rest. -/
  | convert
  /-- Write the text of the value. -/
  | display
deriving DecidableEq

/-- How a document is laid out. -/
structure Style where
  /-- Between two entries. -/
  comma : Text
  /-- Between a key and its value. -/
  colon : Text
  /-- With indentation each entry begins a line, this many spaces further in than its parent. -/
  indent : Option Nat
  fallback : Fallback

namespace Style

/-- No blanks at all, for responses. -/
def compact : Style := ⟨",", ":", none, .convert⟩

/-- One line with blanks, for the command line. -/
def spaced : Style := ⟨", ", ": ", none, .display⟩

/-- One entry a line, for the command line. -/
def indented : Style := ⟨",", ": ", some 2, .display⟩

/-- A line break and the indentation of a level, if the style has any. -/
def lineBreak (style : Style) (level : Nat) : Text :=
  match style.indent with
  | none => []
  | some width => "\n" ++ List.replicate (width * level) (CodePoint.ofChar ' ')

/-- Entries between brackets, one level further in. -/
def enclose (style : Style) (level : Nat) (opening closing : Text) : List Text → Text
  | [] => opening ++ closing
  | entries =>
      let inner := style.lineBreak (level + 1)
      opening ++ inner ++ Text.joinWith (style.comma ++ inner) entries
        ++ style.lineBreak level ++ closing

end Style

/-! ## §3. Strings and numbers. -/

/-- One character of a string. -/
def escape (c : CodePoint) : Text :=
  match c.toNat with
  | 0x22 => "\\\""
  | 0x5C => "\\\\"
  | 0x08 => "\\b"
  | 0x0C => "\\f"
  | 0x0A => "\\n"
  | 0x0D => "\\r"
  | 0x09 => "\\t"
  | n => if n < 0x20 then "\\u" ++ Text.hex 4 n else [c]

/-- A string: in double quotes, with escapes for quotes, backslashes and controls. -/
def writeText (t : Text) : Text := "\"" ++ t.flatMap escape ++ "\""

/-- An integer within the digit limit. -/
def writeInt (n : Int) : Except WriteFault Text :=
  match Text.ofInt? n with
  | some t => .ok t
  | none => .error .tooManyDigits

/-- A double, by name if it is no number. -/
def writeFloat (x : Binary64) : Text := x.toTextWith ⟨"NaN", "Infinity"⟩

def writeBool (b : Bool) : Text := if b then "true" else "false"

/-- A decimal: as an integer if it is whole, else as a double. -/
def writeDecimal (x : Decimal) : Except WriteFault Text :=
  match x.toNumber with
  | .ok (.inl n) => writeInt n
  | .ok (.inr y) => .ok (writeFloat y)
  | .error fault => .error (.decimal fault)

/-- The text of bytes, as a string. -/
def writeBytes (b : Bytes) : Except WriteFault Text :=
  match Utf8.decode b with
  | .ok t => .ok (writeText t)
  | .error fault => .error (.bytes fault)

/-- The text form of a key. -/
def keyText (key : Value) : Except WriteFault Text :=
  match key with
  | .text t => .ok t
  | .null => .ok "null"
  | .bool b => .ok (writeBool b)
  | .int n => writeInt n
  | .status s => .ok (Text.ofNat s.code)
  | .float x => .ok (writeFloat x)
  | v => .error (.keyNotAllowed v.fullTypeName)

/-! ## §4. Copies. -/

/-- The class of a message's header map, which cannot be copied. -/
def headerMapName : Text := "mappingproxy"

mutual

/-- A value holds a message somewhere. -/
def holdsMessage : Value → Bool
  | .message _ _ => true
  | .list items | .tuple items => anyHoldsMessage items
  | .object fields => fieldsHoldMessage fields
  | .event _ raw _ => holdsMessage raw
  | .record _ fields => namedHoldMessage fields
  | _ => false

def anyHoldsMessage : List Value → Bool
  | [] => false
  | v :: rest => holdsMessage v || anyHoldsMessage rest

def fieldsHoldMessage : List (Value × Value) → Bool
  | [] => false
  | (k, v) :: rest => holdsMessage k || holdsMessage v || fieldsHoldMessage rest

def namedHoldMessage : List (Text × Value) → Bool
  | [] => false
  | (_, v) :: rest => holdsMessage v || namedHoldMessage rest

end

mutual

/-- What keeps a value from being copied as a part of a record, the first thing that is met.  The
copy goes down into lists, tuples, objects and records by itself and does not notice when it comes
back; an event object is copied by other means, which do. -/
def copyFault? : Value → Option WriteFault
  | .circularList | .circularObject => some .endless
  | .list items | .tuple items => itemsCopyFault? items
  | .object fields => fieldsCopyFault? fields
  | .record _ fields => namedCopyFault? fields
  | .message payload _ => (copyFault? payload).or (some (.notCopyable headerMapName))
  | .event _ raw _ => if holdsMessage raw then some (.notCopyable headerMapName) else none
  | _ => none

def itemsCopyFault? : List Value → Option WriteFault
  | [] => none
  | v :: rest => (copyFault? v).or (itemsCopyFault? rest)

def fieldsCopyFault? : List (Value × Value) → Option WriteFault
  | [] => none
  | (k, v) :: rest => (copyFault? k).or ((copyFault? v).or (fieldsCopyFault? rest))

def namedCopyFault? : List (Text × Value) → Option WriteFault
  | [] => none
  | (_, v) :: rest => (copyFault? v).or (namedCopyFault? rest)

end

/-! ## §5. Values. -/

/-- A member of an object, from the text of its key and of its value. -/
def member (style : Style) (key value : Text) : Text := writeText key ++ style.colon ++ value

/-- What stands for a value that JSON has no form for. -/
def substitute (style : Style) (v : Value) (converted : Except WriteFault Text) :
    Except WriteFault Text :=
  match style.fallback with
  | .convert => converted
  | .display =>
      match v.display? with
      | some t => .ok (writeText t)
      | none => .error .tooManyDigits

/-- Refuse to write a value by conversion. -/
def refuse (v : Value) : Except WriteFault Text := .error (.notSerializable v.typeName)

mutual

/-- Write a value whose entries, if it has any, are `level + 1` levels in. -/
def write (style : Style) (level : Nat) : Value → Except WriteFault Text
  | .null => .ok "null"
  | .bool b => .ok (writeBool b)
  | .int n => writeInt n
  | .status s => .ok (Text.ofNat s.code)
  | .float x => .ok (writeFloat x)
  | .text t => .ok (writeText t)
  | .list items => do
      let entries ← writeItems style (level + 1) items
      .ok (style.enclose level "[" "]" entries)
  | .tuple items => do
      let entries ← writeItems style (level + 1) items
      .ok (style.enclose level "[" "]" entries)
  | .object fields => do
      let entries ← writeFields style (level + 1) fields
      .ok (style.enclose level "\x7b" "\x7d" entries)
  | .circularList => .error .circular
  | .circularObject => .error .circular
  | .decimal x => substitute style (.decimal x) (writeDecimal x)
  | .bytes b => substitute style (.bytes b) (writeBytes b)
  | .buffer b => substitute style (.buffer b) (writeBytes b)
  | .dateTime t => substitute style (.dateTime t) (writeInt t.epochMillis)
  | .date d => substitute style (.date d) (.ok (writeText d.iso))
  | .time t => substitute style (.time t) (.ok (writeText t.iso))
  | .event c raw own => substitute style (.event c raw own) (write style level raw)
  | .record className fields =>
      substitute style (.record className fields) <|
        match namedCopyFault? fields with
        | some fault => .error fault
        | none => do
            let members ← writeNamed style (level + 1) fields
            .ok (style.enclose level "\x7b" "\x7d" members)
  | .message payload headers =>
      substitute style (.message payload headers) <|
        .error ((copyFault? payload).getD (.notCopyable headerMapName))
  | .unknown label => substitute style (.unknown label) (refuse (.unknown label))
  | .type c => substitute style (.type c) (refuse (.type c))

/-- Write values one by one. -/
def writeItems (style : Style) (level : Nat) : List Value → Except WriteFault (List Text)
  | [] => .ok []
  | v :: rest => do
      let text ← write style level v
      let texts ← writeItems style level rest
      .ok (text :: texts)

/-- Write entries one by one, each key before its value. -/
def writeFields (style : Style) (level : Nat) :
    List (Value × Value) → Except WriteFault (List Text)
  | [] => .ok []
  | (k, v) :: rest => do
      let key ← keyText k
      let text ← write style level v
      let texts ← writeFields style level rest
      .ok (member style key text :: texts)

/-- Write the fields of a record one by one. -/
def writeNamed (style : Style) (level : Nat) :
    List (Text × Value) → Except WriteFault (List Text)
  | [] => .ok []
  | (name, v) :: rest => do
      let text ← write style level v
      let texts ← writeNamed style level rest
      .ok (member style name text :: texts)

end

/-! ## §6. Documents. -/

/-- A value as compact UTF-8. -/
def encode (v : Value) : Except WriteFault Bytes := do
  let text ← write .compact 0 v
  match Utf8.encode text with
  | .ok bytes => .ok bytes
  | .error fault => .error (.surrogates fault)

end Json

end EventEnvelope
