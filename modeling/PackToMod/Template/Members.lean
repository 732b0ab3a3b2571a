/-!
# Kinds of values and their members

The values that a brace template can come to describe themselves: each has a kind, and a kind lists
its members by name. The table below holds the members that a kind has of its own; every kind also
has those of the kind `object`.
-/

namespace PackToMod

namespace Braces

inductive Kind where
  | object
  | type
  | text
  | missing
  | integer
  | tuple
  | mapping
  | operation
  | slot
  | operationMember
  | slotMember
  | classMember
  | getter
  | field
  | generic
  deriving DecidableEq, Repr

/-- How a member becomes a part of a value. -/
inductive MemberSort where
  /-- Bound to the value. -/
  | operation
  /-- Bound to the value, and aware of the kind that it comes from. -/
  | slot
  /-- Bound to the kind of the value. -/
  | classOperation
  /-- Bound to nothing. -/
  | static
  /-- Bound to the kind that it comes from. -/
  | constructor
  /-- Computed from the value. -/
  | getter
  /-- Stored in the value. -/
  | field
  /-- The description of the kind. -/
  | description
  /-- Known to be missing. -/
  | absent
  deriving DecidableEq, Repr

/-- The members that a kind has of its own, by sort, and the length of its description. -/
structure Members where
  operations : List String := []
  slots : List String := []
  classOperations : List String := []
  statics : List String := []
  getters : List String := []
  fields : List String := []
  absent : List String := []
  hasConstructor : Bool := false
  description : Option Nat := none

def Members.sort? (m : Members) (name : String) : Option MemberSort :=
  if name ∈ m.operations then some .operation
  else if name ∈ m.slots then some .slot
  else if name ∈ m.classOperations then some .classOperation
  else if name ∈ m.statics then some .static
  else if name ∈ m.getters then some .getter
  else if name ∈ m.fields then some .field
  else if name ∈ m.absent then some .absent
  else if name = "__new__" ∧ m.hasConstructor then some .constructor
  else if name = "__doc__" ∧ m.description.isSome then some .description
  else none

namespace Kind

def name : Kind → String
  | object => "object"
  | type => "type"
  | text => "str"
  | missing => "NoneType"
  | integer => "int"
  | tuple => "tuple"
  | mapping => "mappingproxy"
  | operation => "builtin_function_or_method"
  | slot => "method-wrapper"
  | operationMember => "method_descriptor"
  | slotMember => "wrapper_descriptor"
  | classMember => "classmethod_descriptor"
  | getter => "getset_descriptor"
  | field => "member_descriptor"
  | generic => "GenericAlias"

def members : Kind → Members
  | object =>
    { operations := ["__dir__", "__format__", "__getstate__", "__reduce__", "__reduce_ex__",
        "__sizeof__"]
      slots := ["__delattr__", "__eq__", "__ge__", "__getattribute__", "__gt__", "__hash__",
        "__init__", "__le__", "__lt__", "__ne__", "__repr__", "__setattr__", "__str__"]
      classOperations := ["__init_subclass__", "__subclasshook__"]
      getters := ["__class__"]
      hasConstructor := true
      description := some 173 }
  | type =>
    { operations := ["__dir__", "__instancecheck__", "__sizeof__", "__subclasscheck__",
        "__subclasses__", "mro"]
      slots := ["__call__", "__delattr__", "__getattribute__", "__init__", "__or__", "__repr__",
        "__ror__", "__setattr__"]
      classOperations := ["__prepare__"]
      getters := ["__abstractmethods__", "__annotations__", "__bases__", "__dict__", "__doc__",
        "__module__", "__name__", "__qualname__", "__text_signature__"]
      fields := ["__base__", "__basicsize__", "__dictoffset__", "__flags__", "__itemsize__",
        "__mro__", "__weakrefoffset__"]
      hasConstructor := true }
  | text =>
    { operations := ["__format__", "__getnewargs__", "__sizeof__", "capitalize", "casefold",
        "center", "count", "encode", "endswith", "expandtabs", "find", "format", "format_map",
        "index", "isalnum", "isalpha", "isascii", "isdecimal", "isdigit", "isidentifier",
        "islower", "isnumeric", "isprintable", "isspace", "istitle", "isupper", "join", "ljust",
        "lower", "lstrip", "partition", "removeprefix", "removesuffix", "replace", "rfind",
        "rindex", "rjust", "rpartition", "rsplit", "rstrip", "split", "splitlines", "startswith",
        "strip", "swapcase", "title", "translate", "upper", "zfill"]
      slots := ["__add__", "__contains__", "__eq__", "__ge__", "__getattribute__", "__getitem__",
        "__gt__", "__hash__", "__iter__", "__le__", "__len__", "__lt__", "__mod__", "__mul__",
        "__ne__", "__repr__", "__rmod__", "__rmul__", "__str__"]
      statics := ["maketrans"]
      hasConstructor := true
      description := some 421 }
  | missing =>
    { slots := ["__bool__", "__repr__"]
      absent := ["__doc__"]
      hasConstructor := true }
  | integer =>
    { operations := ["__ceil__", "__floor__", "__format__", "__getnewargs__", "__round__",
        "__sizeof__", "__trunc__", "as_integer_ratio", "bit_count", "bit_length", "conjugate",
        "to_bytes"]
      slots := ["__abs__", "__add__", "__and__", "__bool__", "__divmod__", "__eq__", "__float__",
        "__floordiv__", "__ge__", "__getattribute__", "__gt__", "__hash__", "__index__",
        "__int__", "__invert__", "__le__", "__lshift__", "__lt__", "__mod__", "__mul__", "__ne__",
        "__neg__", "__or__", "__pos__", "__pow__", "__radd__", "__rand__", "__rdivmod__",
        "__repr__", "__rfloordiv__", "__rlshift__", "__rmod__", "__rmul__", "__ror__", "__rpow__",
        "__rrshift__", "__rshift__", "__rsub__", "__rtruediv__", "__rxor__", "__sub__",
        "__truediv__", "__xor__"]
      classOperations := ["from_bytes"]
      getters := ["denominator", "imag", "numerator", "real"]
      hasConstructor := true
      description := some 605 }
  | tuple =>
    { operations := ["__getnewargs__", "count", "index"]
      slots := ["__add__", "__contains__", "__eq__", "__ge__", "__getattribute__", "__getitem__",
        "__gt__", "__hash__", "__iter__", "__le__", "__len__", "__lt__", "__mul__", "__ne__",
        "__repr__", "__rmul__"]
      classOperations := ["__class_getitem__"]
      hasConstructor := true
      description := some 233 }
  | mapping =>
    { operations := ["__reversed__", "copy", "get", "items", "keys", "values"]
      slots := ["__contains__", "__eq__", "__ge__", "__getattribute__", "__getitem__", "__gt__",
        "__ior__", "__iter__", "__le__", "__len__", "__lt__", "__ne__", "__or__", "__repr__",
        "__ror__", "__str__"]
      classOperations := ["__class_getitem__"]
      absent := ["__doc__", "__hash__"]
      hasConstructor := true }
  | operation =>
    { operations := ["__reduce__"]
      slots := ["__call__", "__eq__", "__ge__", "__getattribute__", "__gt__", "__hash__",
        "__le__", "__lt__", "__ne__", "__repr__"]
      getters := ["__doc__", "__name__", "__qualname__", "__self__", "__text_signature__"]
      fields := ["__module__"] }
  | slot =>
    { operations := ["__reduce__"]
      slots := ["__call__", "__eq__", "__ge__", "__getattribute__", "__gt__", "__hash__",
        "__le__", "__lt__", "__ne__", "__repr__"]
      getters := ["__doc__", "__name__", "__objclass__", "__qualname__", "__text_signature__"]
      fields := ["__self__"] }
  | operationMember =>
    { operations := ["__reduce__"]
      slots := ["__call__", "__get__", "__getattribute__", "__repr__"]
      getters := ["__doc__", "__qualname__", "__text_signature__"]
      fields := ["__name__", "__objclass__"] }
  | slotMember =>
    { operations := ["__reduce__"]
      slots := ["__call__", "__get__", "__getattribute__", "__repr__"]
      getters := ["__doc__", "__qualname__", "__text_signature__"]
      fields := ["__name__", "__objclass__"] }
  | classMember =>
    { slots := ["__call__", "__get__", "__getattribute__", "__repr__"]
      getters := ["__doc__", "__qualname__", "__text_signature__"]
      fields := ["__name__", "__objclass__"] }
  | getter =>
    { slots := ["__delete__", "__get__", "__getattribute__", "__repr__", "__set__"]
      getters := ["__doc__", "__qualname__"]
      fields := ["__name__", "__objclass__"] }
  | field =>
    { operations := ["__reduce__"]
      slots := ["__delete__", "__get__", "__getattribute__", "__repr__", "__set__"]
      getters := ["__doc__", "__qualname__"]
      fields := ["__name__", "__objclass__"] }
  | generic =>
    { operations := ["__dir__", "__instancecheck__", "__mro_entries__", "__reduce__",
        "__subclasscheck__"]
      slots := ["__call__", "__eq__", "__ge__", "__getattribute__", "__getitem__", "__gt__",
        "__hash__", "__iter__", "__le__", "__lt__", "__ne__", "__or__", "__repr__", "__ror__"]
      getters := ["__parameters__", "__typing_unpacked_tuple_args__"]
      fields := ["__args__", "__origin__", "__unpacked__"]
      hasConstructor := true
      description := some 104 }

/-- The kind that a member comes from, and its sort. -/
def member? (k : Kind) (name : String) : Option (Kind × MemberSort) :=
  match k.members.sort? name with
  | some sort => some (k, sort)
  | none => (object.members.sort? name).map fun sort => (object, sort)

end Kind

end Braces

end PackToMod
