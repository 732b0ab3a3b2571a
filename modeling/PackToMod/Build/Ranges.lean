import PackToMod.Build

/-!
# Declaring ranges
-/

namespace PackToMod

def Build.ranges (b : Build) : RangeSort → Registry RangeConstant
  | .doubles => b.doubleRanges
  | .ints => b.intRanges

def Build.setRanges (b : Build) (sort : RangeSort) (ranges : Registry RangeConstant) : Build :=
  match sort with
  | .doubles => { b with doubleRanges := ranges }
  | .ints => { b with intRanges := ranges }

/-- The constant of a range, registered unless its text is registered already. The name always comes
from the bounds of this range. -/
def Range.declare (sort : RangeSort) (r : Range) : BuildM String := do
  unless ((← get).ranges sort).contains r.text do
    let constant ← BuildM.ofExcept .number (RangeConstant.ofRange r)
    modify fun b => b.setRanges sort ((b.ranges sort).set r.text constant)
  return sort.symbol r.min r.max

def Node.declareRange (sort : RangeSort) (node : Node) : BuildM String := do
  (← BuildM.require .noSuchPart node.range?).declare sort

end PackToMod
