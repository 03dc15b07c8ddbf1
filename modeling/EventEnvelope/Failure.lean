/-
  EventEnvelope.Failure
  ─────────────────────
  **Everything that can go wrong, as causes.**

  A `Failure` records what happened; `kind` sorts failures into the classes by which callers tell
  them apart, `message` puts them into words.  The adapter's own kinds
  (`ErrorKind.isAdapterError`) are logged by the entry adapter and reported by the command
  line; all others pass through both.
-/
import EventEnvelope.Json.Reader
import EventEnvelope.Json.Writer

namespace EventEnvelope

/-! ## §1. Kinds. -/

/-- The classes of failures.  They are flat: no kind is a special case of another, so a class
derived from one of these, say from that of payloads that a decoder rejects, is given as the class
it is derived from. -/
inductive ErrorKind
  /-- No decoder for an event family, or no family at all. -/
  | configuration
  /-- A payload that its decoder rejects. -/
  | decode
  /-- A payload that is not JSON. -/
  | parse
  /-- A response that has no JSON form. -/
  | serialization
  /-- A status code header that is no status code. -/
  | statusCode
  /-- Any other failure of the adapter. -/
  | adapter
  /-- A value that the codec cannot read, write or convert. -/
  | codec
  | value
  /-- Text without a UTF-8 form. -/
  | unicodeEncode
  | overflow
  | invalidOperation
  | system
  | fileNotFound
  | type
  | key
  | frozenInstance
  /-- A computation that goes down without end. -/
  | recursion
  /-- A kind that the adapter knows by name only. -/
  | named (name : Text)
deriving DecidableEq

namespace ErrorKind

/-- The name of a kind. -/
def name : ErrorKind → Text
  | configuration => "ConfigurationError"
  | decode => "DecodeError"
  | parse => "ParseError"
  | serialization => "SerializationError"
  | statusCode => "StatusCodeError"
  | adapter => "EventAdapterError"
  | codec => "CodecError"
  | value => "ValueError"
  | unicodeEncode => "UnicodeEncodeError"
  | overflow => "OverflowError"
  | invalidOperation => "InvalidOperation"
  | system => "OSError"
  | fileNotFound => "FileNotFoundError"
  | type => "TypeError"
  | key => "KeyError"
  | frozenInstance => "FrozenInstanceError"
  | recursion => "RecursionError"
  | named name => name

/-- The kinds that have a constructor of their own. -/
def listed : List ErrorKind :=
  [configuration, decode, parse, serialization, statusCode, adapter, codec, value, unicodeEncode,
    overflow, invalidOperation, system, fileNotFound, type, key, frozenInstance, recursion]

/-- The kind with this name. -/
def ofName (name : Text) : ErrorKind := (listed.find? fun k => k.name == name).getD (named name)

/-- The kinds that the adapter raises on purpose. -/
def isAdapterError : ErrorKind → Bool
  | configuration | decode | parse | serialization | statusCode | adapter => true
  | _ => false

end ErrorKind

/-! ## §2. Causes. -/

/-- What the codec refuses.  A value that is named in a message is given as it is shown there. -/
inductive CodecFault
  | invalidJson (fault : Json.ReadFault)
  | cannotSerialize (typeName : Text) (fault : Json.WriteFault)
  /-- A text that is no date-time; likewise below. -/
  | invalidDateTime (shown : Text)
  | invalidDate (shown : Text)
  | invalidTime (shown : Text)
  /-- A value of a class that has no conversion to a date-time. -/
  | cannotConvert (typeName : Text)

/-- A fault of the codec in words. -/
def CodecFault.message : CodecFault → Text
  | invalidJson fault => "Invalid JSON: " ++ fault.message
  | cannotSerialize typeName fault => "Cannot serialize " ++ typeName ++ ": " ++ fault.message
  | invalidDateTime shown => "Invalid datetime: " ++ shown
  | invalidDate shown => "Invalid date: " ++ shown
  | invalidTime shown => "Invalid time: " ++ shown
  | cannotConvert typeName => "Cannot convert " ++ typeName ++ " to datetime"

/-- A failure. -/
inductive Failure
  | codec (fault : CodecFault)
  /-- The family has no decoder. -/
  | noDecoder (family : EventFamily)
  /-- The type belongs to no family. -/
  | unsupportedType (written : Text)
  /-- The decoder of an event class failed with this text. -/
  | decoderFailed (className : Text) (text : Text)
  /-- The payload of an event is JSON but no object. -/
  | eventNotAnObject (className typeName : Text)
  /-- The body of a gateway request cannot be written again. -/
  | bodyNotSerializable (fault : CodecFault)
  | payloadNotJson (fault : CodecFault)
  | outputNotSerializable
  | responseNotSerializable (fault : CodecFault)
  /-- The status code header holds something else, shown like this. -/
  | statusNotAnInteger (shown : Text)
  /-- The status code, displayed like this, has no name. -/
  | unknownStatus (display : Text)
  | nullPayload
  | numeral (fault : NumeralFault)
  /-- A value has no text because of an integer with too many digits. -/
  | integerTooLong
  | epoch (fault : EpochFault)
  | surrogates (fault : LoneSurrogates)
  | decimal (fault : DecimalFault)
  | unknownLevel (name : Text)
  | noSuchFile (path : Text)
  /-- A path holds a null character. -/
  | nullInPath
  /-- Copying a record that holds a value which contains itself does not end. -/
  | endlessCopy
  /-- A report of the command line has no JSON form. -/
  | reportNotSerializable (fault : Json.WriteFault)
  /-- Something that is indexed by integers was looked up by a text. -/
  | textKeyOf (what : Text)
  /-- A field of a message was assigned to. -/
  | messageFrozen (field : Text)
  /-- A header of a message was assigned to. -/
  | headersReadOnly
  /-- Business code or a custom decoder failed, with this argument. -/
  | raised (kind : ErrorKind) (argument : Text)

namespace Failure

/-- The class of a failure. -/
def kind : Failure → ErrorKind
  | codec _ => .codec
  | noDecoder _ | unsupportedType _ => .configuration
  | decoderFailed _ _ | eventNotAnObject _ _ | bodyNotSerializable _ => .decode
  | payloadNotJson _ => .parse
  | outputNotSerializable | responseNotSerializable _ => .serialization
  | statusNotAnInteger _ | unknownStatus _ => .statusCode
  | nullPayload | numeral _ | integerTooLong | unknownLevel _ | nullInPath => .value
  | endlessCopy | reportNotSerializable .endless => .recursion
  | reportNotSerializable (.keyNotAllowed _) => .type
  | reportNotSerializable _ => .value
  | epoch .notANumber | epoch (.yearOutOfRange _) => .value
  | epoch .quotientTooLarge | epoch .beyondClock => .overflow
  | epoch .beyondCalendar => .system
  | surrogates _ => .unicodeEncode
  | decimal _ => .invalidOperation
  | noSuchFile _ => .fileNotFound
  | textKeyOf _ | headersReadOnly => .type
  | messageFrozen _ => .frozenInstance
  | raised kind _ => kind

/-- A failure in words.  A missing key is named in quotes. -/
def message : Failure → Text
  | codec fault => fault.message
  | noDecoder family => "No decoder registered for event family '" ++ family.name ++ "'"
  | unsupportedType written => "Unsupported event type: " ++ written
  | decoderFailed className text => "Failed to decode " ++ className ++ ": " ++ text
  | eventNotAnObject className typeName =>
      "Failed to decode " ++ className ++ ": expected JSON object, got " ++ typeName
  | bodyNotSerializable fault => "Failed to re-serialize request body: " ++ fault.message
  | payloadNotJson fault => "Payload is not valid JSON: " ++ fault.message
  | outputNotSerializable => "Failed to serialize AWS Lambda output"
  | responseNotSerializable fault => "Failed to serialize response payload: " ++ fault.message
  | statusNotAnInteger shown => "statusCode header must be an integer, got " ++ shown
  | unknownStatus display => "Unknown HTTP status code: " ++ display
  | nullPayload => "Message payload must not be None"
  | numeral fault => fault.message
  | integerTooLong => digitLimitExceeded ++ digitLimitAdvice
  | epoch fault => fault.message
  | surrogates fault => fault.message
  | decimal fault => fault.message
  | unknownLevel name => "Unknown level: " ++ Quoted.ofText name
  | noSuchFile path => "[Errno 2] No such file or directory: " ++ Quoted.ofText path
  | nullInPath => "embedded null byte"
  | endlessCopy => Json.WriteFault.endless.message
  | reportNotSerializable fault => fault.message
  | textKeyOf what => what ++ " indices must be integers or slices, not str"
  | messageFrozen field => "cannot assign to field '" ++ field ++ "'"
  | headersReadOnly => "'mappingproxy' object does not support item assignment"
  | raised .key argument => Quoted.ofText argument
  | raised _ argument => argument

end Failure

/-! ## §3. Texts that may fail. -/

namespace Value

/-- A value inside another one or in a message; an integer that is too long makes it a failure. -/
def shown (v : Value) : Except Failure Text :=
  match v.shown? with
  | some t => .ok t
  | none => .error .integerTooLong

/-- A value on its own, likewise. -/
def display (v : Value) : Except Failure Text :=
  match v.display? with
  | some t => .ok t
  | none => .error .integerTooLong

end Value

end EventEnvelope
