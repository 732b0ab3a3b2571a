import PackToMod.Fault
import PackToMod.Node

/-!
# Tag constants

A tag is built by a straight-line program: every compound, list and value is assigned to a
variable of its own, and parts are put into their container right after they have been built. The
variable of the whole tag is a declared constant, the others are local to the program. A boolean
has no variable; it is written where it is used.
-/

namespace PackToMod

inductive TagType where
  | byte
  | short
  | int
  | long
  | float
  | double
  | string
  | list
  | compound
  deriving DecidableEq, Repr

def TagType.name : TagType → String
  | byte => "ByteTag"
  | short => "ShortTag"
  | int => "IntTag"
  | long => "LongTag"
  | float => "FloatTag"
  | double => "DoubleTag"
  | string => "StringTag"
  | list => "ListTag"
  | compound => "CompoundTag"

/-- How a program refers to a tag. -/
inductive TagTerm where
  | variable (type : TagType) (number : Nat)
  | boolean (value : Bool)
  deriving DecidableEq, Repr

namespace TagTerm

def type : TagTerm → TagType
  | .variable type _ => type
  | .boolean _ => .byte

def text : TagTerm → String
  | .variable type number => type.name ++ "_" ++ toString number
  | .boolean value => "ByteTag.valueOf(" ++ (if value then "true" else "false") ++ ")"

end TagTerm

/-- What a variable starts as. -/
inductive TagExpression where
  | newCompound
  | newList
  | literal (value : TagScalar)

def TagScalar.type? : TagScalar → Option TagType
  | byte _ => some .byte
  | short _ => some .short
  | int _ => some .int
  | long _ => some .long
  | float _ => some .float
  | double _ => some .double
  | string _ => some .string
  | unknown _ => none

def TagScalar.literal : TagScalar → String
  | byte n => "ByteTag.valueOf((byte) " ++ toString n ++ ")"
  | short n => "ShortTag.valueOf(" ++ toString n ++ "s)"
  | int n => "IntTag.valueOf(" ++ toString n ++ ")"
  | long n => "LongTag.valueOf(" ++ toString n ++ "L)"
  | float x => "FloatTag.valueOf(" ++ (Number.real x).text ++ "f)"
  | double x => "DoubleTag.valueOf(" ++ (Number.real x).text ++ ")"
  | string s => "StringTag.valueOf(\"" ++ s ++ "\")"
  | unknown s => s

def TagExpression.text : TagExpression → String
  | newCompound => "new CompoundTag()"
  | newList => "new ListTag()"
  | literal value => value.literal

/-- One step of a program. -/
inductive TagStep where
  | assign (isLocal : Bool) (target : TagTerm) (value : TagExpression)
  | put (target : TagTerm) (key : String) (value : TagTerm)
  | add (target : TagTerm) (value : TagTerm)

def TagStep.text : TagStep → String
  | assign isLocal target value =>
    (if isLocal then "var " else "") ++ target.text ++ " = " ++ value.text ++ ";\n"
  | put target key value => target.text ++ ".put(\"" ++ key ++ "\", " ++ value.text ++ ");\n"
  | add target value => target.text ++ ".add(" ++ value.text ++ ");\n"

/-- A declared tag: the term for the whole of it and the program that builds it. -/
structure TagConstant where
  root : TagTerm
  steps : List TagStep

namespace TagConstant

def declaration (t : TagConstant) : String :=
  "private static final " ++ t.root.type.name ++ " " ++ t.root.text ++ ";\n"

def initialiser (t : TagConstant) : String :=
  String.join (t.steps.map TagStep.text)

end TagConstant

/-- Computations that number variables. The state is the next free number; it is kept when a
computation fails. -/
abbrev NumberingM := EStateM Fault Nat

def takeNumber : NumberingM Nat :=
  modifyGet fun n => (n, n + 1)

mutual

/-- The program that builds a tag, and the term for its result. -/
def Node.lowerTag (isLocal : Bool) : Node → NumberingM TagConstant
  | .tagFlag _ value => pure ⟨.boolean (match value with | .inl b => b | .inr n => 0 < n), []⟩
  | .tagCompound _ entries => do
    let target := TagTerm.variable .compound (← takeNumber)
    return ⟨target, .assign isLocal target .newCompound :: (← lowerEntries target entries)⟩
  | .tagList _ elements => do
    let target := TagTerm.variable .list (← takeNumber)
    return ⟨target, .assign isLocal target .newList :: (← lowerElements target elements)⟩
  | .tagScalar _ value => match value.type? with
    | none => throw .unknownTagType
    | some type => do
      let target := TagTerm.variable type (← takeNumber)
      return ⟨target, [.assign isLocal target (.literal value)]⟩
  | node => throw (if node.value?.isSome then .unknownTagType else .noSuchPart)

/-- Builds the entries of a compound one after the other and puts them into it. -/
def lowerEntries (target : TagTerm) : List (String × Node) → NumberingM (List TagStep)
  | [] => pure []
  | (key, value) :: entries => do
    let part ← value.lowerTag true
    return part.steps ++ .put target key part.root :: (← lowerEntries target entries)

/-- Builds the elements of a list one after the other and adds them to it. -/
def lowerElements (target : TagTerm) : List Node → NumberingM (List TagStep)
  | [] => pure []
  | value :: elements => do
    let part ← value.lowerTag true
    return part.steps ++ .add target part.root :: (← lowerElements target elements)

end

end PackToMod
