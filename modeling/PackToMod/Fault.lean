import PackToMod.Template.Braces
import PackToMod.Template.Percent

/-!
# Faults

Why a command cannot be compiled. Each fault belongs to a kind; the kind decides whether the command
is handed to the dispatcher instead, and its label opens the line that is logged.
-/

namespace PackToMod

inductive Fault where
  /-- A word of a command that no handler takes at its place. -/
  | unknownWord (word : String)
  /-- An axis other than `x`, `y` and `z`. -/
  | unknownAxis (axis : Char)
  /-- A key that a registry does not hold. -/
  | unknownKey (key : String)
  /-- A handler wants a further operand and there is none. -/
  | outOfOperands
  /-- A selector asks for a predicate of the data pack. -/
  | predicateArgument
  /-- A clause of `execute` that neither yields a result nor has a subcommand after it. -/
  | danglingClause
  /-- A handler for one word has the name that stands for the draft itself. -/
  | reservedName
  /-- A node does not have the part that is read. -/
  | noSuchPart
  /-- A text is needed and there is none. -/
  | noText
  /-- The key of a selector argument is not known. -/
  | unknownSelectorKey (key : String)
  /-- A tag holds a value of unknown type. -/
  | unknownTagType
  /-- The extent of a selector's box is not a number. -/
  | badExtent
  /-- A node in the place of a selector is none. -/
  | notASelector
  /-- A line with variables holds something other than text and variables. -/
  | notALinePart
  /-- The type of a tag is asked for after its declaration. -/
  | untypedTag
  /-- A message without fragments. -/
  | emptyMessage
  /-- A coordinate is measured from the wrong origin. -/
  | badOrigin
  /-- A selector sorts in an unknown order. -/
  | badSortOrder
  /-- A list in a tag path is indexed by something other than a number or a compound. -/
  | badSubscript
  /-- A tag path without components. -/
  | emptyPath
  /-- The directory for the generated mod is missing. -/
  | noOutputDirectory
  | number (e : NumberError)
  | percent (e : Percent.Error)
  | braces (e : Braces.Error)
  deriving DecidableEq, Repr

inductive FaultKind where
  | key
  | unsupported
  | type
  | value
  | part
  | index
  | overflow
  | exhausted
  | runtime
  | unassigned
  | file
  | memory
  deriving DecidableEq, Repr

/-- The name under which a kind of fault is logged. -/
def FaultKind.label : FaultKind → String
  | key => "KeyError"
  | unsupported => "NotImplementedError"
  | type => "TypeError"
  | value => "ValueError"
  | part => "AttributeError"
  | index => "IndexError"
  | overflow => "OverflowError"
  | exhausted => "StopIteration"
  | runtime => "RuntimeError"
  | unassigned => "UnboundLocalError"
  | file => "FileNotFoundError"
  | memory => "MemoryError"

def NumberError.kind : NumberError → FaultKind
  | infinite | squareOverflow => .overflow
  | notANumber | tooManyDigits => .value

def Percent.Error.kind : Percent.Error → FaultKind
  | noArgumentLeft | unusedArgument | namedPart | wrongType => .type
  | incomplete | unknownConversion | tooManyDigits => .value
  | outOfRange => .overflow
  | tooWide => .memory
  | number e => e.kind

def Braces.Error.kind : Braces.Error → FaultKind
  | malformed => .value
  | unknownName _ | unknownNumber _ => .key
  | noSuchPlace | noSuchItem => .index
  | noSuchPart => .part
  | wrongType => .type
  | tooWide => .memory

namespace Fault

def kind : Fault → FaultKind
  | unknownWord _ | unknownAxis _ | unknownKey _ => .key
  | outOfOperands => .exhausted
  | predicateArgument | danglingClause => .unsupported
  | noSuchPart => .part
  | reservedName | noText | unknownSelectorKey _ | unknownTagType | badExtent => .type
  | notASelector | notALinePart | untypedTag => .value
  | emptyMessage => .index
  | badOrigin | badSortOrder | badSubscript => .runtime
  | emptyPath => .unassigned
  | noOutputDirectory => .file
  | number e => e.kind
  | percent e => e.kind
  | braces e => e.kind

/-- What is said about a fault besides its kind: a missing key is quoted, an unsupported construct
described. -/
def message? : Fault → Option String
  | unknownWord word => some (Text.Quoted.encode word)
  | unknownAxis axis => some (Text.Quoted.encode axis.toString)
  | unknownKey key => some (Text.Quoted.encode key)
  | braces (.unknownName name) => some (Text.Quoted.encode name)
  | braces (.unknownNumber n) => some (toString n)
  | predicateArgument =>
    some "predicates are not yet implemented (and probably never will be)"
  | danglingClause => some "'out' is 'None' despite there being no following subcommand"
  | badOrigin | badSortOrder | badSubscript => some "No active exception to reraise"
  | _ => none

def message (f : Fault) : String := f.message?.getD ""

/-- The line that is logged for a fault. -/
def logLine (f : Fault) : String :=
  match f.message? with
  | some message => f.kind.label ++ ": " ++ message
  | none => f.kind.label

/-- Whether a command with this fault is left to the dispatcher. -/
def isDispatched (f : Fault) : Bool :=
  f.kind = .key || f.kind = .unsupported

end Fault

end PackToMod
