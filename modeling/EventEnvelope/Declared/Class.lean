/-
  EventEnvelope.Declared.Class
  ────────────────────────────
  **Classes that a function may be declared with.**

  Besides the event classes there are the classes of plain data and of what is known about
  them by name.  A class may be derived from another one, to any depth; a class derived from an
  event class belongs to the same family.
-/
import EventEnvelope.Event.Family

namespace EventEnvelope

/-- The classes with a name that are no event classes. -/
inductive KnownClass
  | dict | orderedDict | defaultDict | customMap
  | mapping | mutableMapping | iterable | sized | container | collection | reversible
  | hashable | sequence | callable
  | object | any | str | bytes | int | noneType | type | exception | list | tuple
  | row | gatewayV1Response | gatewayV2Response
  | message | unionType | dictWrapper | unknown | lineItem
deriving DecidableEq

namespace KnownClass

/-- The name of a class. -/
def name : KnownClass → Text
  | dict => "dict"
  | orderedDict => "OrderedDict"
  | defaultDict => "defaultdict"
  | customMap => "CustomMap"
  | mapping => "Mapping"
  | mutableMapping => "MutableMapping"
  | iterable => "Iterable"
  | sized => "Sized"
  | container => "Container"
  | collection => "Collection"
  | reversible => "Reversible"
  | hashable => "Hashable"
  | sequence => "Sequence"
  | callable => "Callable"
  | object => "object"
  | any => "Any"
  | str => "str"
  | bytes => "bytes"
  | int => "int"
  | noneType => "NoneType"
  | type => "type"
  | exception => "Exception"
  | list => "list"
  | tuple => "tuple"
  | row => "Row"
  | gatewayV1Response => "ApiGatewayProxyResponse"
  | gatewayV2Response => "ApiGatewayV2HttpResponse"
  | message => "Message"
  | unionType => "UnionType"
  | dictWrapper => "DictWrapper"
  | unknown => "Opaque"
  | lineItem => "LineItem"

/-- Where a class is defined; empty for the built-in ones. -/
def home : KnownClass → Text
  | orderedDict | defaultDict => "collections"
  | mapping | mutableMapping | iterable | sized | container | collection | reversible
  | hashable | sequence | callable => "collections.abc"
  | any => "typing"
  | gatewayV1Response | gatewayV2Response => "src.event_adapter.declared_types"
  | message => "src.event_adapter.message"
  | unionType => "types"
  | dictWrapper => "aws_lambda_powertools.utilities.data_classes.common"
  | customMap | row | unknown | lineItem => "local"
  | _ => []

/-- A plain object of string keys is an instance of this class, which is not the class of all
objects. -/
def admitsObject : KnownClass → Bool
  | dict | mapping | mutableMapping | iterable | sized | container | collection | reversible =>
      true
  | _ => false

/-- The class of the class itself. -/
def metaclass : KnownClass → Text
  | mapping | mutableMapping | iterable | sized | container | collection | reversible
  | hashable | sequence | callable | dictWrapper => "ABCMeta"
  | any => "_AnyMeta"
  | row | gatewayV1Response | gatewayV2Response => "_TypedDictMeta"
  | _ => "type"

end KnownClass

/-- A class. -/
inductive ClassObject
  | event (family : EventFamily)
  | known (cls : KnownClass)
  /-- A class derived from another one. -/
  | derived (base : ClassObject)
deriving DecidableEq

namespace ClassObject

/-- The name of a class; a derived class carries the name of its base. -/
def name : ClassObject → Text
  | event family => family.className
  | known cls => cls.name
  | derived base => "Sub" ++ base.name

/-- Where a class is defined. -/
def home : ClassObject → Text
  | event family => family.classHome
  | known cls => cls.home
  | derived _ => "local"

/-- The name of a class with its home. -/
def fullName (cls : ClassObject) : Text :=
  if cls.home.isEmpty then cls.name else cls.home ++ "." ++ cls.name

/-- A class as messages show it. -/
def shown (cls : ClassObject) : Text := "<class '" ++ cls.fullName ++ "'>"

/-- The family of an event class or of a class derived from one. -/
def family? : ClassObject → Option EventFamily
  | event family => some family
  | known _ => none
  | derived base => base.family?

/-- A plain object of string keys is an instance of this class, which is not the class of all
objects. -/
def admitsObject : ClassObject → Bool
  | known cls => cls.admitsObject
  | _ => false

/-- The class of the class itself. -/
def metaclass : ClassObject → Text
  | event _ => "ABCMeta"
  | known cls => cls.metaclass
  | derived base => base.metaclass

end ClassObject

end EventEnvelope
