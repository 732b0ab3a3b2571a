import PackToMod.Constant.Location
import PackToMod.Constant.Patch
import PackToMod.Constant.Range
import PackToMod.Constant.Selector
import PackToMod.Constant.Tag
import PackToMod.Method
import PackToMod.Registry

/-!
# The state of a build

A build collects everything that has been emitted so far: the methods of the commands, the
constants that they share, the next free number and the log. A computation that fails keeps what
it has done to the build up to then. Tags, patches and selectors are registered twice, for their
declarations and for the initialisers in the static block.
-/

namespace PackToMod

structure Build where
  counter : Nat := 0
  methods : Registry Method := {}
  locations : Registry ResourceLocation := {}
  tags : Registry TagConstant := {}
  doubleRanges : Registry RangeConstant := {}
  intRanges : Registry RangeConstant := {}
  patches : Registry PatchConstant := {}
  selectors : Registry SelectorConstant := {}
  blockPredicates : Registry Nat := {}
  staticTags : Registry TagConstant := {}
  staticPatches : Registry PatchConstant := {}
  staticSelectors : Registry SelectorConstant := {}
  log : List String := []

abbrev BuildM := EStateM Fault Build

namespace BuildM

/-- A free number, taken. -/
def fresh : BuildM Nat :=
  modifyGet fun b => (b.counter, { b with counter := b.counter + 1 })

/-- Runs a computation that only numbers things. -/
def numbering {α : Type} (x : NumberingM α) : BuildM α := fun b =>
  match x b.counter with
  | .ok a n => .ok a { b with counter := n }
  | .error f n => .error f { b with counter := n }

def log (line : String) : BuildM Unit :=
  modify fun b => { b with log := b.log ++ [line] }

/-- Runs a computation and hands out its fault, if it has one, instead of failing. -/
def attempt {α : Type} (x : BuildM α) : BuildM (Except Fault α) := fun b =>
  match x b with
  | .ok a b => .ok (.ok a) b
  | .error f b => .ok (.error f) b

/-- The result of a computation that can fail but changes nothing. -/
def ofExcept {ε α : Type} (fault : ε → Fault) : Except ε α → BuildM α
  | .ok a => pure a
  | .error e => throw (fault e)

/-- A part that has to be there. -/
def require {α : Type} (fault : Fault) : Option α → BuildM α
  | some a => pure a
  | none => throw fault

end BuildM

/-- The text of a node, by which constants and methods are shared. -/
def Node.key (node : Node) : BuildM String :=
  BuildM.require .noSuchPart node.text?

def blockPredicateSymbol (number : Nat) : String :=
  "BlockPredicate_" ++ toString number

def blockPredicateDeclaration (number : Nat) : String :=
  "private static BlockPredicate " ++ blockPredicateSymbol number ++ ";\n"

/-- The members of the generated class: declarations, the static initialiser and the methods. Block
predicates are declared and not initialised. -/
def Build.members (b : Build) : String :=
  "\n        /* resource locations */\n        "
    ++ b.locations.listing ResourceLocation.declaration ""
    ++ "\n        \n        /* nbt tags */\n        "
    ++ b.tags.listing TagConstant.declaration ""
    ++ "\n        \n        /* min max bounds */\n        "
    ++ b.intRanges.listing RangeSort.ints.declaration ""
    ++ "\n        " ++ b.doubleRanges.listing RangeSort.doubles.declaration ""
    ++ "\n        \n        /* components */\n        "
    ++ b.patches.listing PatchConstant.declaration ""
    ++ "\n        \n        /* selectors */\n        "
    ++ b.selectors.listing SelectorConstant.declaration ""
    ++ "\n        \n        /* block predicates */\n        "
    ++ b.blockPredicates.listing blockPredicateDeclaration ""
    ++ "\n        \n        static \x7b\n            /* nbt */\n            "
    ++ b.staticTags.listing TagConstant.initialiser ""
    ++ "\n            \n            /* components */\n            "
    ++ b.staticPatches.listing PatchConstant.initialiser ""
    ++ "\n            \n            /* selectors */\n            "
    ++ b.staticSelectors.listing SelectorConstant.initialiser ""
    ++ "\n            \n            /* block predicates */\n            "
    ++ "\n        \x7d\n        \n        " ++ b.methods.listing Method.code ""
    ++ "\n        "

end PackToMod
