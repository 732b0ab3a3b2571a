import PackToMod.Node
import PackToMod.Text.Respell

/-!
# Range constants

The constant of a range is named after its bounds. Its declaration gives both bounds and their
squares, so a range whose bound has no square cannot be declared.
-/

namespace PackToMod

/-- The two sorts of range constants: of real numbers and of whole numbers. -/
inductive RangeSort where
  | doubles
  | ints
  deriving DecidableEq, Repr

structure Bound where
  value : Number
  square : Number

structure RangeConstant where
  min : Option Bound
  max : Option Bound

def Bound.ofNumber (n : Number) : Except NumberError Bound := do
  return ⟨n, ← n.square⟩

def Bound.ofOption : Option Number → Except NumberError (Option Bound)
  | none => .ok none
  | some n => do return some (← Bound.ofNumber n)

/-- The bounds of a range with their squares. -/
def RangeConstant.ofRange (r : Range) : Except NumberError RangeConstant := do
  return ⟨← Bound.ofOption r.min, ← Bound.ofOption r.max⟩

namespace RangeSort

def spelling : RangeSort → Char → String
  | doubles, c => if c = '.' then "point" else if c = '-' then "negative" else c.toString
  | ints, c => if c = '-' then "negative" else c.toString

def boundName (sort : RangeSort) (bound : Option Number) : String :=
  Text.respell sort.spelling ((bound.map Number.text).getD "None")

def symbol (sort : RangeSort) (min max : Option Number) : String :=
  (match sort with | doubles => "Range_Double_" | ints => "Range_Int_")
    ++ sort.boundName min ++ "__" ++ sort.boundName max

/-- A bound or a square, cast to `type`, if there is one. -/
def optional (type : String) : Option Number → String
  | none => "Optional.empty()"
  | some n => "Optional.of((" ++ type ++ ") " ++ n.text ++ ")"

def typeName : RangeSort → String
  | doubles => "MinMaxBounds.Doubles"
  | ints => "MinMaxBounds.Ints"

def boundType : RangeSort → String
  | doubles => "double"
  | ints => "int"

def squareType : RangeSort → String
  | doubles => "double"
  | ints => "long"

def declaration (sort : RangeSort) (r : RangeConstant) : String :=
  let min := r.min.map Bound.value
  let max := r.max.map Bound.value
  "private static final " ++ sort.typeName ++ " " ++ sort.symbol min max
    ++ " = new " ++ sort.typeName ++ "(" ++ optional sort.boundType min
    ++ ", " ++ optional sort.boundType max
    ++ ", " ++ optional sort.squareType (r.min.map Bound.square)
    ++ ", " ++ optional sort.squareType (r.max.map Bound.square) ++ ");\n"

end RangeSort

end PackToMod
