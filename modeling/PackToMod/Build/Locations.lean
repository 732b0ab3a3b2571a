import PackToMod.Build

/-!
# Declaring resource locations
-/

namespace PackToMod

/-- Registers the constant of a location under its text, over any earlier one. -/
def declareLocation (l : ResourceLocation) : BuildM String := do
  modify fun b => { b with locations := b.locations.set l.text l }
  return l.symbol

def Node.declareLocation (node : Node) : BuildM String := do
  PackToMod.declareLocation (← BuildM.require .noSuchPart node.location?)

end PackToMod
