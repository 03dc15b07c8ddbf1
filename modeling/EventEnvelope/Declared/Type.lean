/-
  EventEnvelope.Declared.Type
  ───────────────────────────
  **The types that a function is declared with.**

  A declared type may wrap another one (`message`), refer to a class directly or through an
  alias with arguments, or name no class at all.  What matters to the adapter is computed here:

    • `rawClass?`         — the class behind the type,
    • `unwrapMessage`     — the type inside one `message`,
    • `family?`           — the event family it belongs to,
    • `admitsObject`      — a function declared so takes objects as they are.
-/
import EventEnvelope.Declared.Class

namespace EventEnvelope

/-- A declared type. -/
inductive DeclaredType
  /-- Nothing is declared. -/
  | absent
  /-- A class itself. -/
  | cls (c : ClassObject)
  /-- An alias of a class, with the way it is written. -/
  | aliasOf (origin : KnownClass) (written : Text)
  /-- Something that is no class, with the way it is written. -/
  | unclassed (written : Text)
  /-- A message with a payload of the given type. -/
  | message (argument : DeclaredType)
  /-- The given type or nothing. -/
  | optional (argument : DeclaredType)
  /-- A list of elements of the given type. -/
  | list (element : DeclaredType)
  /-- A class derived from the given one. -/
  | subclass (base : DeclaredType)
deriving DecidableEq

namespace DeclaredType

/-- The class behind a declared type. -/
def rawClass? : DeclaredType → Option ClassObject
  | absent => none
  | cls c => some c
  | aliasOf origin _ => some (.known origin)
  | unclassed _ => none
  | message _ => some (.known .message)
  | optional absent => some (.known .noneType)
  | optional t => if t.rawClass? = some (.known .noneType) then some (.known .noneType) else none
  | list _ => some (.known .list)
  | subclass base => base.rawClass?.map .derived

/-- The function takes and gives whole messages. -/
def isMessage (t : DeclaredType) : Bool := t.rawClass? == some (.known .message)

/-- The type inside one message; a message of nothing holds the class of the null value, and a bare
message nothing at all. -/
def unwrapMessage : DeclaredType → DeclaredType
  | message absent => cls (.known .noneType)
  | message argument => argument
  | cls (.known .message) => absent
  | t => t

/-- The event family of the class behind the type. -/
def family? (t : DeclaredType) : Option EventFamily := t.rawClass?.bind ClassObject.family?

/-- A plain object is an instance of the class behind the type. -/
def admitsObject (t : DeclaredType) : Bool := (t.rawClass?.map ClassObject.admitsObject).getD false

/-- One of the two response types that go to a gateway as they are. -/
def isGatewayResponse (t : DeclaredType) : Bool :=
  t == cls (.known .gatewayV1Response) || t == cls (.known .gatewayV2Response)

/-! ## §1. How a type is written in messages. -/

mutual

/-- A type on its own. -/
def written : DeclaredType → Text
  | absent => "None"
  | cls c => c.shown
  | aliasOf _ text => text
  | unclassed text => text
  | message argument => "src.event_adapter.message.Message[" ++ argument.writtenInside ++ "]"
  | optional argument => "typing.Optional[" ++ argument.writtenInside ++ "]"
  | list element => "typing.List[" ++ element.writtenInside ++ "]"
  | subclass base => "<class 'local.Sub" ++ (base.rawClass?.map ClassObject.name).getD [] ++ "'>"

/-- A type among the arguments of another one. -/
def writtenInside : DeclaredType → Text
  | absent => "NoneType"
  | cls c => c.fullName
  | subclass base => "local.Sub" ++ (base.rawClass?.map ClassObject.name).getD []
  | message argument => "src.event_adapter.message.Message[" ++ argument.writtenInside ++ "]"
  | optional argument => "typing.Optional[" ++ argument.writtenInside ++ "]"
  | list element => "typing.List[" ++ element.writtenInside ++ "]"
  | aliasOf _ text => text
  | unclassed text => text

end

/-! ## §2. Types by name. -/

/-- An object with string keys and values of any type. -/
def objectOfAny : DeclaredType := aliasOf .dict "typing.Dict[str, typing.Any]"

/-- The types that a deployment can name. -/
def catalogue : List (String × DeclaredType) :=
  [("None", absent),
    ("sqs", cls (.event .queueMessageBatch)),
    ("sns", cls (.event .notificationBatch)),
    ("kinesis", cls (.event .streamRecordBatch)),
    ("s3", cls (.event .objectStorageEvent)),
    ("apigw", cls (.event .gatewayRequestV1)),
    ("apigw-v2", cls (.event .gatewayRequestV2)),
    ("dict", cls (.known .dict)),
    ("Dict", aliasOf .dict "typing.Dict"),
    ("Dict[str,Any]", objectOfAny),
    ("dict[str,int]", aliasOf .dict "dict[str, int]"),
    ("Mapping", aliasOf .mapping "typing.Mapping"),
    ("Mapping[str,Any]", aliasOf .mapping "typing.Mapping[str, typing.Any]"),
    ("abc.Mapping", cls (.known .mapping)),
    ("MutableMapping[str,Any]", aliasOf .mutableMapping "typing.MutableMapping[str, typing.Any]"),
    ("abc.MutableMapping", cls (.known .mutableMapping)),
    ("OrderedDict", cls (.known .orderedDict)),
    ("defaultdict", cls (.known .defaultDict)),
    ("CustomMap", cls (.known .customMap)),
    ("Iterable", cls (.known .iterable)),
    ("Sized", cls (.known .sized)),
    ("Container", cls (.known .container)),
    ("Collection", cls (.known .collection)),
    ("Reversible", cls (.known .reversible)),
    ("Hashable", cls (.known .hashable)),
    ("Sequence", cls (.known .sequence)),
    ("Callable", cls (.known .callable)),
    ("object", cls (.known .object)),
    ("Any", cls (.known .any)),
    ("str", cls (.known .str)),
    ("bytes", cls (.known .bytes)),
    ("int", cls (.known .int)),
    ("NoneType", cls (.known .noneType)),
    ("type", cls (.known .type)),
    ("Exception", cls (.known .exception)),
    ("list", cls (.known .list)),
    ("List", aliasOf .list "typing.List"),
    ("List[int]", aliasOf .list "typing.List[int]"),
    ("Tuple", aliasOf .tuple "typing.Tuple[int, str]"),
    ("TypedDict", cls (.known .row)),
    ("ApiGatewayProxyResponse", cls (.known .gatewayV1Response)),
    ("ApiGatewayV2HttpResponse", cls (.known .gatewayV2Response)),
    ("Message", cls (.known .message)),
    ("TypeVar", unclassed "~T"),
    ("Literal", unclassed "typing.Literal['a']"),
    ("Optional[dict]", unclassed "typing.Optional[dict]"),
    ("Union", unclassed "typing.Union[int, str]"),
    ("text", unclassed "'sqs'"),
    ("number", unclassed "5"),
    ("dictOrNone", aliasOf .unionType "dict | None"),
    ("Type", aliasOf .type
      "typing.Type[aws_lambda_powertools.utilities.data_classes.sqs_event.SQSEvent]"),
    ("DictWrapper", cls (.known .dictWrapper)),
    ("Opaque", cls (.known .unknown)),
    ("LineItem", cls (.known .lineItem))]

/-- The type with this name. -/
def ofName? (name : Text) : Option DeclaredType :=
  (catalogue.find? fun entry => Text.ofString entry.1 == name).map (·.2)

end DeclaredType

end EventEnvelope
