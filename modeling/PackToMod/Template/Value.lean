import PackToMod.Template.Members
import PackToMod.Text.Digit
import PackToMod.Text.Quoted

/-!
# Values of brace templates

A field starts at an argument, a text or a missing value, and may go on from there: to named parts
of a value, which are the members of its kind, and to its items. What a value says is of interest
for texts alone; of an integer it is only kept that it is one, of a description its length.
-/

namespace PackToMod

namespace Braces

inductive Value where
  | text (s : List Char)
  | missing
  | integer
  | kind (k : Kind)
  | operation (owner : Value) (name : String)
  | slot (owner : Value) (definer : Kind) (name : String)
  /-- A member of a kind that is bound to no value. -/
  | member (definer : Kind) (sort : MemberSort) (name : String)
  | tuple (items : List Value)
  /-- The own members of a kind, by name. -/
  | members (k : Kind)
  /-- A kind with a parameter. -/
  | generic (origin : Kind) (parameter : Value)

inductive Error where
  /-- Braces do not match, or a field is not formed as it should be. -/
  | malformed
  /-- A field has a name, and no argument has. -/
  | unknownName (name : String)
  /-- A field asks for a place beyond the arguments. -/
  | noSuchPlace
  /-- A field asks for a named part that the value does not have. -/
  | noSuchPart
  /-- A field asks for an item beyond the end of a text or tuple. -/
  | noSuchItem
  /-- A kind has no member under the number. -/
  | unknownNumber (n : Nat)
  /-- A field asks for an item of a value that has none, or aligns one that cannot be. -/
  | wrongType
  /-- A field is too wide to be filled. -/
  | tooWide
  deriving DecidableEq, Repr

namespace Value

def ofString (s : String) : Value :=
  text s.toList

/-- A text of which only the length is known. -/
def ofLength (n : Nat) : Value :=
  text (List.replicate n ' ')

/-- The description of a member. They are not told apart. -/
def memberDescription : Value :=
  ofLength 16

/-- The operations that do not tell how they are called. -/
def unsigned : List String :=
  ["__ceil__", "__class_getitem__", "__floor__", "__getnewargs__", "__init_subclass__",
    "__mro_entries__", "__prepare__", "__reversed__", "__subclasshook__", "__trunc__", "conjugate",
    "copy", "count", "endswith", "find", "format", "format_map", "get", "index", "items", "keys",
    "rfind", "rindex", "startswith", "values"]

def signature (name : String) : Value :=
  if name ∈ unsigned then missing else memberDescription

/-- Computed and stored members have no description, but for those of plain values. -/
def isDescribed (definer : Kind) (sort : MemberSort) : Bool :=
  !(sort = .getter || sort = .field) || definer = .object || definer = .integer

def kindOf : Value → Kind
  | text _ => .text
  | missing => .missing
  | integer => .integer
  | kind _ => .type
  | operation .. => .operation
  | slot .. => .slot
  | member _ sort _ => match sort with
    | .slot => .slotMember
    | .classOperation => .classMember
    | .getter => .getter
    | .field => .field
    | _ => .operationMember
  | tuple _ => .tuple
  | members _ => .mapping
  | generic .. => .generic

/-- The text that stands for a value. -/
def describe : Value → List Char
  | text s => s
  | missing => "None".toList
  | integer => ['0']
  | kind k => "<class '".toList ++ k.name.toList ++ "'>".toList
  | v => "<".toList ++ v.kindOf.name.toList ++ " value>".toList

end Value

/-- A kind with the kinds that it extends. -/
def Kind.lineage (k : Kind) : List Kind :=
  if k = .object then [.object] else [k, .object]

/-- The description of a kind as a part of it. -/
def Kind.descriptionValue (k : Kind) : Value :=
  if "__doc__" ∈ k.members.getters then .member k .getter "__doc__"
  else match k.members.description with
    | some n => .ofLength n
    | none => .missing

/-- What a kind tells about itself. -/
def Kind.read? (k : Kind) (name : String) : Option Value :=
  match name with
  | "__class__" => some (.kind .type)
  | "__name__" | "__qualname__" => some (.ofString k.name)
  | "__module__" => some (.ofString (if k = .generic then "types" else "builtins"))
  | "__doc__" => some k.descriptionValue
  | "__text_signature__" =>
    some (if k = .object then .ofLength 2 else if k = .tuple then .ofLength 16 else .missing)
  | "__base__" => some (if k = .object then .missing else .kind .object)
  | "__bases__" => some (.tuple (k.lineage.drop 1 |>.map .kind))
  | "__mro__" => some (.tuple (k.lineage.map .kind))
  | "__dict__" => some (.members k)
  | "__abstractmethods__" | "__annotations__" => none
  | _ => some .integer

/-- A member of a kind as the kind itself gives it, `receiver` being the kind it was asked of. -/
def Kind.unbound (definer : Kind) (sort : MemberSort) (name : String) (receiver : Kind) : Value :=
  match sort with
  | .classOperation => .operation (.kind receiver) name
  | .static => .operation .missing name
  | .constructor => .operation (.kind definer) name
  | .description => definer.descriptionValue
  | .absent => .missing
  | _ => .member definer sort name

namespace Value

/-- The value of a computed or stored part. -/
def read? (v : Value) (name : String) : Option Value :=
  if name = "__class__" then some (.kind v.kindOf)
  else match v with
    | kind k => k.read? name
    | operation owner own => match name with
      | "__name__" => some (.ofString own)
      | "__qualname__" => some (.ofString ((match owner with
        | kind k => k.name
        | owner => owner.kindOf.name) ++ "." ++ own))
      | "__self__" => some owner
      | "__module__" => some .missing
      | "__text_signature__" => some (signature own)
      | _ => some memberDescription
    | slot owner definer own => match name with
      | "__name__" => some (.ofString own)
      | "__qualname__" => some (.ofString (definer.name ++ "." ++ own))
      | "__self__" => some owner
      | "__objclass__" => some (.kind definer)
      | _ => some memberDescription
    | member definer sort own => match name with
      | "__name__" => some (.ofString own)
      | "__qualname__" => some (.ofString (definer.name ++ "." ++ own))
      | "__objclass__" => some (.kind definer)
      | "__text_signature__" => some (signature own)
      | _ => some (if isDescribed definer sort then memberDescription else missing)
    | generic origin parameter => match name with
      | "__origin__" => some (.kind origin)
      | "__args__" => some (.tuple [parameter])
      | "__parameters__" => some (.tuple [])
      | "__unpacked__" => some .integer
      | _ => some .missing
    | _ => some .integer

/-- A member as a part of a value. -/
def bind? (v : Value) (definer : Kind) (sort : MemberSort) (name : String) : Option Value :=
  match sort with
  | .operation => some (.operation v name)
  | .slot => some (.slot v definer name)
  | .getter | .field => v.read? name
  | _ => some (definer.unbound sort name v.kindOf)

/-- A part by the members of the value's kind. -/
def ownPart? (v : Value) (name : String) : Option Value := do
  let (definer, sort) ← v.kindOf.member? name
  v.bind? definer sort name

end Value

/-- A part of a kind: what it tells about itself, else its own members, else what every kind can
do. -/
def Kind.part? (k : Kind) (name : String) : Option Value :=
  match Kind.type.member? name, k.member? name with
  | some (_, .getter), _ | some (_, .field), _ => (Value.kind k).read? name
  | _, some (definer, sort) => some (definer.unbound sort name k)
  | some (definer, sort), none => (Value.kind k).bind? definer sort name
  | none, none => none

namespace Value

/-- The parts that a kind with a parameter does not take from the kind. -/
def genericParts : List String :=
  ["__class__", "__origin__", "__args__", "__parameters__", "__unpacked__",
    "__typing_unpacked_tuple_args__", "__mro_entries__", "__reduce__", "__reduce_ex__"]

/-- The part of a value under a name. -/
def part? (v : Value) (name : String) : Option Value :=
  match v with
  | kind k => k.part? name
  | generic origin _ => if name ∈ genericParts then v.ownPart? name else origin.part? name
  | v => v.ownPart? name

def itemAt (items : List Value) (n : Nat) : Except Error Value :=
  match items[n]? with
  | some v => .ok v
  | none => .error .noSuchItem

/-- A kind with a number or a text for its parameter. -/
def parameterised (k : Kind) (number : Option Nat) (key : List Char) : Value :=
  generic k (if number.isSome then integer else text key)

/-- The item of a value under a key, which is a number or, if there is none, a text. -/
def item (v : Value) (number : Option Nat) (key : List Char) : Except Error Value :=
  match v, number with
  | text s, some n => itemAt (s.map fun c => text [c]) n
  | tuple items, some n => itemAt items n
  | members _, some n => .error (.unknownNumber n)
  | members k, none =>
    let name := String.ofList key
    match k.members.sort? name with
    | none => .error (.unknownName name)
    | some .classOperation => .ok (.member k .classOperation name)
    | some sort => .ok (k.unbound sort name k)
  | kind .type, number => .ok (parameterised .type number key)
  | kind .tuple, number => .ok (parameterised .tuple number key)
  | kind .mapping, number => .ok (parameterised .mapping number key)
  | _, _ => .error .wrongType

end Value

end Braces

end PackToMod
